/-
  SchemaRecovery.Text.Basic

  Texts as documents give them: lists of code points. A document may hold one
  half of a character without the other; such a half is kept as it is, though
  no encoding can write it.
-/
namespace SchemaRecovery

/-- A code point: a character, or half of a character that stands without the
other half. Half `n` has the code `0xd800 + n`. -/
inductive CodePoint where
  | char (c : Char)
  | half (n : Fin 0x800)
  deriving DecidableEq

namespace CodePoint

instance : Inhabited CodePoint := ⟨char ' '⟩

instance : Coe Char CodePoint := ⟨char⟩

/-- The code of a code point. -/
def toNat : CodePoint → Nat
  | char c => c.toNat
  | half n => 0xd800 + n.val

/-- The code point with a code. -/
def ofNat (n : Nat) : CodePoint :=
  if h : 0xd800 ≤ n ∧ n < 0xe000 then half ⟨n - 0xd800, by omega⟩ else char (Char.ofNat n)

/-- No character has the code of a half. -/
theorem toNat_char_ne_half (c : Char) (n : Fin 0x800) : (char c).toNat ≠ (half n).toNat := by
  have hn := n.isLt
  have hc : c.toNat < 0xd800 ∨ (0xdfff < c.toNat ∧ c.toNat < 0x110000) := c.valid
  show c.toNat ≠ 0xd800 + n.val
  omega

/-- Different code points have different codes. -/
theorem toNat_inj {a b : CodePoint} (h : a.toNat = b.toNat) : a = b := by
  cases a with
  | char c =>
    cases b with
    | char d => exact congrArg char (Char.ext (UInt32.toNat_inj.mp h))
    | half m => exact absurd h (toNat_char_ne_half c m)
  | half n =>
    cases b with
    | char d => exact absurd h.symm (toNat_char_ne_half d n)
    | half m =>
      have hval : 0xd800 + n.val = 0xd800 + m.val := h
      exact congrArg half (Fin.ext (by omega))

/-- The code point is a character with a property. -/
def holds (p : Char → Bool) : CodePoint → Bool
  | char c => p c
  | half _ => false

/-- The code point as a character; the replacement character stands in for a
half. -/
def toChar : CodePoint → Char
  | char c => c
  | half _ => '\ufffd'

end CodePoint

/-- A text. -/
abbrev Text := List CodePoint

namespace Text

/-- The text with the given characters. -/
def ofChars (cs : List Char) : Text := cs.map .char

/-- The text that a string is. -/
def ofString (s : String) : Text := ofChars s.toList

instance : Coe String Text := ⟨ofString⟩

/-- The string that shows a text. -/
def display (t : Text) : String := String.ofList (t.map CodePoint.toChar)

/-- The characters of a text that holds no halves. -/
def chars? (t : Text) : Option (List Char) :=
  t.mapM fun
    | .char c => some c
    | .half _ => none

/-- The text in UTF-8; a half has no encoding. -/
def utf8? (t : Text) : Option ByteArray := t.chars?.map fun cs => (String.ofList cs).toUTF8

/-- The parts in a row, with `sep` between them. -/
def join (sep : Text) (parts : List Text) : Text := sep.intercalate parts

end Text

end SchemaRecovery
