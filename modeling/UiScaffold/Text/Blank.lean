/-!
White space, trimming and lines.

White space is Unicode's `White_Space` property, which holds more than the ASCII blanks and leaves
out the zero-width characters. A text is trimmed on both ends; a line ends at a line feed, and one
carriage return before the line feed belongs to the line end.
-/

set_option autoImplicit false
set_option relaxedAutoImplicit false

namespace UiScaffold.Text

/-- The characters with the property `White_Space`. -/
def isBlank (c : Char) : Bool :=
  let n := c.toNat
  (0x09 ≤ n && n ≤ 0x0D) || n == 0x20 || n == 0x85 || n == 0xA0 || n == 0x1680 ||
    (0x2000 ≤ n && n ≤ 0x200A) || n == 0x2028 || n == 0x2029 || n == 0x202F || n == 0x205F ||
    n == 0x3000

def trimEnd (chars : List Char) : List Char :=
  (chars.reverse.dropWhile isBlank).reverse

def trimChars (chars : List Char) : List Char :=
  trimEnd (chars.dropWhile isBlank)

def trim (text : String) : String :=
  String.ofList (trimChars text.toList)

/-- A text of white space only, the empty text included. -/
def isBlankText (text : String) : Bool :=
  text.toList.all isBlank

/-- Cuts at every separator, so there is one piece more than separators. -/
def splitChars (separator : Char) : List Char → List (List Char)
  | [] => [[]]
  | c :: rest =>
    if c = separator then [] :: splitChars separator rest
    else match splitChars separator rest with
      | [] => [[c]]
      | piece :: more => (c :: piece) :: more

def split (separator : Char) (text : String) : List String :=
  (splitChars separator text.toList).map String.ofList

def dropReturn (line : List Char) : List Char :=
  match line.reverse with
  | '\r' :: rest => rest.reverse
  | _ => line

/-- The lines among the pieces between line feeds. No line feed stands behind the last piece, so it
keeps its carriage return, and is a line only if it is not empty. -/
def linesOf : List (List Char) → List (List Char)
  | [] | [[]] => []
  | [last] => [last]
  | piece :: rest => dropReturn piece :: linesOf rest

def lines (text : String) : List String :=
  (linesOf (splitChars '\n' text.toList)).map String.ofList

end UiScaffold.Text
