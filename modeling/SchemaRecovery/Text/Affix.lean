/-
  SchemaRecovery.Text.Affix

  Beginnings and endings of a text, and its pieces between separators.
-/
import SchemaRecovery.Text.Basic

namespace SchemaRecovery.Text

/-- `s` without its ending `ending`, when it has that ending. -/
def withoutEnding? (s ending : Text) : Option Text :=
  if ending <:+ s then some (s.take (s.length - ending.length)) else none

/-- `s` ends in `ending`. -/
def hasEnding (s ending : Text) : Bool := ending.isSuffixOf s

/-- `s` begins with `start`. -/
def hasStart (s start : Text) : Bool := start.isPrefixOf s

/-- The pieces of a text between the separators `sep`: one more than there are
separators. -/
def pieces (sep : Char) : Text → List Text
  | [] => [[]]
  | c :: rest =>
    if c = .char sep then [] :: pieces sep rest
    else
      match pieces sep rest with
      | [] => [[c]]
      | piece :: others => (c :: piece) :: others

/-- The part of a text after the last `sep`, or all of it. -/
def afterLast (sep : Char) (s : Text) : Text := (s.reverse.takeWhile (· ≠ .char sep)).reverse

/-- The part of a text before the first `sep`, or all of it. -/
def beforeFirst (sep : Char) (s : Text) : Text := s.takeWhile (· ≠ .char sep)

end SchemaRecovery.Text
