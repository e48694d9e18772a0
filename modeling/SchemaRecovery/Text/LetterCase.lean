/-
  SchemaRecovery.Text.LetterCase

  Full case conversion of texts. One character may become several, and a
  capital sigma is lowered to its final form at the end of a word.
-/
import SchemaRecovery.Text.Basic
import SchemaRecovery.Text.LetterCase.Table

namespace SchemaRecovery.Text

namespace LetterCase

/-- The code point lies in one of the inclusive ranges. -/
def within (ranges : List (Nat × Nat)) (n : Nat) : Bool :=
  ranges.any fun r => r.1 ≤ n && n ≤ r.2

/-- The case form of a character given by a table of runs and expansions;
characters outside the table stay as they are. -/
def form (runs : List ShiftRun) (expansions : List (Nat × List Nat)) (c : CodePoint) : Text :=
  match expansions.find? fun e => e.1 == c.toNat with
  | some e => e.2.map CodePoint.ofNat
  | none =>
    match runs.find? fun r => r.covers c.toNat with
    | some r => [CodePoint.ofNat (c.toNat + r.shift).toNat]
    | none => [c]

/-- A character that makes a neighbouring sigma part of a word. -/
def isCased (c : CodePoint) : Bool := within casedRanges c.toNat

/-- A character that is looked past when the neighbours of a sigma are found. -/
def isIgnorable (c : CodePoint) : Bool := within ignorableRanges c.toNat

/-- The first character of `cs` that is not looked past is cased. -/
def meetsCased (cs : Text) : Bool :=
  match cs.dropWhile isIgnorable with
  | [] => false
  | c :: _ => isCased c

/-- The lower-case form of a capital sigma: the final one when a word ends
there. `before` holds the characters to its left, nearest first. -/
def lowerSigma (before after : Text) : CodePoint :=
  if meetsCased before && !meetsCased after then .char 'ς' else .char 'σ'

/-- The lower-case form of a character, context aside. -/
def lowerPoint : CodePoint → Text
  | .char c =>
    if c.toNat < 0x80 then [.char c.toLower] else form lowerRuns lowerExpansions (.char c)
  | .half n => [.half n]

/-- The upper-case form of a character. -/
def upperPoint : CodePoint → Text
  | .char c =>
    if c.toNat < 0x80 then [.char c.toUpper] else form upperRuns upperExpansions (.char c)
  | .half n => [.half n]

/-- Lowers `cs`, whose left neighbours are `before`, nearest first. -/
def lowerFrom (before : Text) : Text → Text
  | [] => []
  | c :: rest =>
    (if c = .char 'Σ' then [lowerSigma before rest] else lowerPoint c) ++
      lowerFrom (c :: before) rest

end LetterCase

/-- The text in lower case. -/
def lower (s : Text) : Text := LetterCase.lowerFrom [] s

/-- The text in upper case. -/
def upper (s : Text) : Text := s.flatMap LetterCase.upperPoint

end SchemaRecovery.Text
