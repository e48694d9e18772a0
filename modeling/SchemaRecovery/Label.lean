/-
  SchemaRecovery.Label

  A text of an assembly document. A document may give null where a text is
  expected; the null is kept, shown as `None`, and has no place among texts
  when they are put in order.
-/
import SchemaRecovery.Text.Order
import SchemaRecovery.Text.Quoted

namespace SchemaRecovery

/-- A text of the document, or its null. -/
abbrev Label := Option Text

namespace Label

/-- The label as it stands inside a larger text. -/
def text : Label → Text
  | none => "None"
  | some s => s

/-- The label as messages quote it. -/
def quoted : Label → Text
  | none => "None"
  | some s => Text.quoted s

/-- A null and the empty text both name nothing. -/
def isVoid : Label → Bool
  | none => true
  | some s => s.isEmpty

/-- Two labels can be put in order: both are texts. -/
def comparable (a b : Label) : Bool := a.isSome && b.isSome

/-- Code-point order; a null goes first, where that order is ever asked for. -/
def le (a b : Label) : Bool :=
  match a, b with
  | none, _ => true
  | some _, none => false
  | some s, some t => Text.le s t

end Label

end SchemaRecovery
