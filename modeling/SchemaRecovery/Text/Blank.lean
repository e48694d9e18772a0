/-
  SchemaRecovery.Text.Blank

  Blank characters, of every script, and the cutting of a line at them.
-/
import SchemaRecovery.Text.Basic

namespace SchemaRecovery.Text

/-- The blank characters outside the ASCII range, as inclusive ranges. -/
def wideBlankRanges : List (Nat × Nat) :=
  [(0x85, 0x85), (0xa0, 0xa0), (0x1680, 0x1680), (0x2000, 0x200a), (0x2028, 0x2029),
    (0x202f, 0x202f), (0x205f, 0x205f), (0x3000, 0x3000)]

/-- A blank that may stand around a number: a space, a line or page control,
or a wide blank. -/
def isNumberBlank (c : CodePoint) : Bool :=
  (9 ≤ c.toNat && c.toNat ≤ 13) || c.toNat == 32 ||
    wideBlankRanges.any fun r => r.1 ≤ c.toNat && c.toNat ≤ r.2

/-- A blank that parts the words of a line; the separator controls count here
as well. -/
def isBlank (c : CodePoint) : Bool :=
  (28 ≤ c.toNat && c.toNat ≤ 31) || isNumberBlank c

/-- Cuts `cs` into words, `word` being the part of the current word already
read, last character first. -/
def wordsFrom (word : Text) : Text → List Text
  | [] => if word.isEmpty then [] else [word.reverse]
  | c :: rest =>
    if isBlank c then
      if word.isEmpty then wordsFrom [] rest
      else word.reverse :: wordsFrom [] rest
    else wordsFrom (c :: word) rest

/-- The words of a line: the longest pieces without a blank. -/
def words (s : Text) : List Text := wordsFrom [] s

end SchemaRecovery.Text
