/-
  SchemaRecovery.Number.IntegerText

  Whole numbers written as text: blanks around, a sign, digits of any script,
  and single underscores between digits. A number has at most 4300 digits.
-/
import SchemaRecovery.Text.Blank
import SchemaRecovery.Text.Digit

namespace SchemaRecovery

/-- The most digits a whole number is written with. -/
def maxDigits : Nat := 4300

namespace IntegerText

/-- The values of a run of digits with single underscores between them. -/
def digitValues? : Text → Option (List Nat)
  | [] => none
  | [c] => (Text.digitValue? c).map fun d => [d]
  | c :: .char '_' :: rest => do
    let d ← Text.digitValue? c
    let ds ← digitValues? rest
    return d :: ds
  | c :: rest => do
    let d ← Text.digitValue? c
    let ds ← digitValues? rest
    return d :: ds

/-- The number with the given digits, most significant first. -/
def ofDigits (ds : List Nat) : Nat := ds.foldl (fun n d => 10 * n + d) 0

/-- `s` without the blanks at either end. -/
def trim (s : Text) : Text :=
  ((s.dropWhile Text.isNumberBlank).reverse.dropWhile Text.isNumberBlank).reverse

/-- The number a run of digits stands for, unless it is too long. -/
def natural? (s : Text) : Option Nat := do
  let ds ← digitValues? s
  if maxDigits < ds.length then none else some (ofDigits ds)

/-- The whole number a text stands for. -/
def read? (s : Text) : Option Int :=
  match trim s with
  | .char '-' :: rest => (natural? rest).map fun n => -(n : Int)
  | .char '+' :: rest => (natural? rest).map fun n => (n : Int)
  | digits => (natural? digits).map fun n => (n : Int)

end IntegerText

end SchemaRecovery
