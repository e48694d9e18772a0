/-
  SchemaRecovery.LabelOrder

  Sorting by labels. Texts are ordered by code point; a null has no place
  among them, so a list in which a null would have to be compared cannot be
  sorted.
-/
import SchemaRecovery.Container.OrderedSet
import SchemaRecovery.Failure

namespace SchemaRecovery.Label

/-- Two pairs can be put in order: the first parts that differ are both
texts. -/
def pairComparable (a b : Label × Label) : Bool :=
  if a.1 = b.1 then decide (a.2 = b.2) || comparable a.2 b.2 else comparable a.1 b.1

/-- Pairs by their first parts, and by their second where those agree. -/
def pairLe (a b : Label × Label) : Bool :=
  if a.1 = b.1 then le a.2 b.2 else le a.1 b.1

/-- Sorts by a label; entries with one label keep their order. -/
def sortOn {α : Type} (key : α → Label) (l : List α) : Except Failure (List α) :=
  if l.Pairwise fun x y => comparable (key x) (key y) then
    .ok (l.mergeSort fun x y => le (key x) (key y))
  else .error .nullOperand

/-- Sorts by a pair of labels. -/
def sortOnPair {α : Type} (key : α → Label × Label) (l : List α) : Except Failure (List α) :=
  if l.Pairwise fun x y => pairComparable (key x) (key y) then
    .ok (l.mergeSort fun x y => pairLe (key x) (key y))
  else .error .nullOperand

/-- The members of a set of labels in order. -/
def sorted (s : OrderedSet Label) : Except Failure (List Label) := sortOn id s.toList

end SchemaRecovery.Label
