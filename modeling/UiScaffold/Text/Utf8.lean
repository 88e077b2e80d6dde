/-!
Reading bytes as UTF-8 where they may be damaged.

Every longest part of the bytes that starts a character and cannot be completed is replaced by one
U+FFFD, and so is every byte that starts no character.
-/

set_option autoImplicit false
set_option relaxedAutoImplicit false

namespace UiScaffold.Text

def replacement : Char := '\uFFFD'

/-- The bytes that may follow a leading byte, as many as are missing: a range for the second byte,
and how many continuation bytes come after it. -/
def continuation? (lead : Nat) : Option (Nat × Nat × Nat) :=
  if 0xC2 ≤ lead ∧ lead ≤ 0xDF then some (0x80, 0xBF, 0)
  else if lead = 0xE0 then some (0xA0, 0xBF, 1)
  else if lead = 0xED then some (0x80, 0x9F, 1)
  else if 0xE1 ≤ lead ∧ lead ≤ 0xEF then some (0x80, 0xBF, 1)
  else if lead = 0xF0 then some (0x90, 0xBF, 2)
  else if 0xF1 ≤ lead ∧ lead ≤ 0xF3 then some (0x80, 0xBF, 2)
  else if lead = 0xF4 then some (0x80, 0x8F, 2)
  else none

def leadValue (lead : Nat) : Nat :=
  if lead < 0xE0 then lead - 0xC0 else if lead < 0xF0 then lead - 0xE0 else lead - 0xF0

/-- A character that is being read: its value so far, the range of the next byte and how many more
bytes come after that one. -/
structure Pending where
  value : Nat
  low : Nat
  high : Nat
  missing : Nat

/-- Takes a byte where a character may start. -/
def startByte (byte : Nat) : List Char × Option Pending :=
  if byte < 0x80 then ([Char.ofNat byte], none)
  else match continuation? byte with
    | some (low, high, missing) => ([], some ⟨leadValue byte, low, high, missing⟩)
    | none => ([replacement], none)

/-- Takes a byte; a byte that does not go on with the open character starts anew. -/
def takeByte (state : Option Pending) (byte : Nat) : List Char × Option Pending :=
  match state with
  | none => startByte byte
  | some p =>
    if p.low ≤ byte ∧ byte ≤ p.high then
      let value := p.value * 64 + (byte - 0x80)
      match p.missing with
      | 0 => ([Char.ofNat value], none)
      | missing + 1 => ([], some ⟨value, 0x80, 0xBF, missing⟩)
    else
      let (chars, next) := startByte byte
      (replacement :: chars, next)

def decodeFrom (state : Option Pending) : List UInt8 → List Char
  | [] => if state.isSome then [replacement] else []
  | byte :: rest =>
    let (chars, next) := takeByte state byte.toNat
    chars ++ decodeFrom next rest

/-- The text of bytes, with damaged parts replaced. -/
def decodeLossy (bytes : ByteArray) : String := String.ofList (decodeFrom none bytes.toList)

end UiScaffold.Text
