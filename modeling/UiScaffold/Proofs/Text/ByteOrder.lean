import Mathlib.Data.List.Lex
import Mathlib.Data.String.Basic

/-!
Texts in the order of their bytes.

Texts are compared by their characters. Where two texts part, the smaller character has the smaller
bytes, so that comparing the bytes of the texts gives the same order.
-/

set_option autoImplicit false
set_option relaxedAutoImplicit false

namespace UiScaffold.Text

def bytes (text : String) : List UInt8 := text.toUTF8.data.toList

private theorem bytes_eq (text : String) :
    bytes text = text.toList.flatMap String.utf8EncodeChar := by
  rw [bytes, String.toUTF8_eq_toByteArray, ← String.utf8Encode_toList, List.utf8Encode,
    List.data_toByteArray]

private theorem ofNat_cons_lt {m n : Nat} {rest rest' : List UInt8} (m_small : m < 256)
    (n_small : n < 256)
    (h : m < n ∨ m = n ∧ rest < rest') : UInt8.ofNat m :: rest < UInt8.ofNat n :: rest' := by
  rw [List.cons_lt_cons_iff, UInt8.lt_iff_toNat_lt, UInt8.toNat_ofNat_of_lt' m_small,
    UInt8.toNat_ofNat_of_lt' n_small]
  exact h.imp_right fun ⟨same, later⟩ => ⟨congrArg UInt8.ofNat same, later⟩

private theorem continued_lt (front front' : List UInt8) {v w : Nat} (less : v < w)
    (before : v / 64 < w / 64 → ∀ rest rest', front ++ rest < front' ++ rest')
    (same : v / 64 = w / 64 → front = front') (rest rest' : List UInt8) :
    front ++ UInt8.ofNat (v % 64 + 128) :: rest < front' ++
      UInt8.ofNat (w % 64 + 128) :: rest' := by
  have digits : v / 64 < w / 64 ∨ v / 64 = w / 64 ∧ v % 64 < w % 64 := by omega
  rcases digits with first | ⟨first, last⟩
  · exact before first _ _
  · rw [same first]
    have later : UInt8.ofNat (v % 64 + 128) :: rest < UInt8.ofNat (w % 64 + 128) :: rest' :=
      ofNat_cons_lt (by omega) (by omega) (.inl (by omega))
    exact List.Lex.append_left (· < ·) later front'

private theorem toNat_lt (c : Char) : c.val.toNat < 1114112 := by
  rcases c.valid with low | ⟨-, high⟩
  · exact Nat.lt_trans low (by decide)
  · exact high

/-- A smaller character has smaller bytes, whatever comes after both. A longer encoding has a
greater first byte; in encodings of the same length the digits of the numbers are compared. -/
private theorem utf8EncodeChar_lt {c d : Char} (less : c < d) (rest rest' : List UInt8) :
    String.utf8EncodeChar c ++ rest < String.utf8EncodeChar d ++ rest' := by
  have values : c.val.toNat < d.val.toNat := less
  have most := toNat_lt d
  simp only [String.utf8EncodeChar]
  generalize c.val.toNat = v at values
  generalize d.val.toNat = w at values most
  repeat' split
  -- Numbers with as many digits are left, where the digits before the last one are compared first.
  all_goals first
    | exact ofNat_cons_lt (by omega) (by omega) (.inl (by omega))
    | omega
    | skip
  case isFalse.isTrue.isFalse.isTrue =>
    refine continued_lt [_] [_] values ?_ ?_ rest rest'
    · exact fun first _ _ => ofNat_cons_lt (by omega) (by omega) (.inl (by omega))
    · exact fun first => by rw [first]
  case isFalse.isFalse.isTrue.isFalse.isFalse.isTrue =>
    refine continued_lt [_, _] [_, _] values (fun first => ?_) (fun first => ?_) rest rest'
    · refine continued_lt [_] [_] first ?_ ?_
      · exact fun lead _ _ => ofNat_cons_lt (by omega) (by omega) (.inl (by omega))
      · exact fun same => by rw [show v / 4096 = w / 4096 by omega]
    · rw [show v / 4096 = w / 4096 by omega, first]
  case isFalse.isFalse.isFalse.isFalse.isFalse.isFalse =>
    refine continued_lt [_, _, _] [_, _, _] values (fun first => ?_) (fun first => ?_) rest rest'
    · refine continued_lt [_, _] [_, _] first (fun second => ?_) (fun second => ?_)
      · have second : v / 4096 < w / 4096 := by omega
        refine continued_lt [_] [_] second ?_ ?_
        · exact fun lead _ _ => ofNat_cons_lt (by omega) (by omega) (.inl (by omega))
        · exact fun same => by rw [show v / 262144 = w / 262144 by omega]
      · rw [show v / 262144 = w / 262144 by omega, show v / 4096 = w / 4096 by omega]
    · rw [show v / 262144 = w / 262144 by omega, show v / 4096 = w / 4096 by omega, first]

theorem bytes_lt_bytes {text text' : String} (less : text < text') : bytes text < bytes text' := by
  rw [bytes_eq, bytes_eq]
  have chars : List.Lex (· < ·) text.toList text'.toList := less
  generalize text.toList = front at chars
  generalize text'.toList = front' at chars
  induction chars with
  | @nil d rest =>
    obtain ⟨first, more, encoded⟩ :=
      List.exists_cons_of_ne_nil (String.utf8EncodeChar_ne_nil (c := d))
    rw [List.flatMap_nil, List.flatMap_cons, encoded]
    exact .nil
  | @cons c rest rest' _ ih =>
    rw [List.flatMap_cons, List.flatMap_cons]
    exact List.Lex.append_left (· < ·) ih _
  | rel first =>
    rw [List.flatMap_cons, List.flatMap_cons]
    exact utf8EncodeChar_lt first _ _

end UiScaffold.Text
