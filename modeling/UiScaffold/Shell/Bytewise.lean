import UiScaffold.FileSystem.Path
import UiScaffold.Text.Utf8

/-!
Texts that hold one character for each byte.

A shell passes bytes on without a look at their encoding. So a script, its words and its variables
are texts of characters below U+0100, each of which stands for the byte of its number.
-/

set_option autoImplicit false
set_option relaxedAutoImplicit false

namespace UiScaffold.Shell

def spreadBytes (bytes : ByteArray) : List Char :=
  bytes.data.toList.map fun byte => Char.ofNat byte.toNat

/-- A text by its bytes. -/
def spread (text : String) : String := String.ofList (spreadBytes text.toUTF8)

def charBytes (chars : List Char) : List UInt8 := chars.map fun c => UInt8.ofNat c.toNat

def gather (text : String) : ByteArray := ⟨(charBytes text.toList).toArray⟩

/-- The text whose bytes a text holds. -/
def gatherText (text : String) : String := Text.decodeLossy (gather text)

def pathOf (word : String) : Path := .ofText (gatherText word)

end UiScaffold.Shell
