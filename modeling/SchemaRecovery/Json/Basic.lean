/-
  SchemaRecovery.Json.Basic

  The values of a JSON document. Whole numbers and floating-point numbers are
  kept apart, and the members of an object keep their order.
-/
import SchemaRecovery.Number.Shortest
import SchemaRecovery.Text.Quoted

namespace SchemaRecovery

/-- A value of a JSON document. -/
inductive Json where
  | null
  | bool (b : Bool)
  | int (n : Int)
  | float (x : Binary64)
  | str (s : Text)
  | arr (items : List Json)
  | obj (members : List (Text × Json))
  deriving Inhabited

namespace Json

/-- The member of an object under a key. -/
def get? : Json → Text → Option Json
  | obj members, key => (members.find? fun m => m.1 == key).map (·.2)
  | _, _ => none

/-- Whether the value counts as true where a yes or no is wanted: nulls,
zeros and everything empty do not. -/
def isTruthy : Json → Bool
  | null => false
  | bool b => b
  | int n => n != 0
  | float x => !x.isZero
  | str s => !s.isEmpty
  | arr items => !items.isEmpty
  | obj members => !members.isEmpty

mutual

/-- The value as messages show it. -/
def literal : Json → Text
  | null => "None"
  | bool b => if b then "True" else "False"
  | int n => toString n
  | float x => x.text
  | str s => Text.quoted s
  | arr items => "[" ++ Text.join ", " (itemLiterals items) ++ "]"
  | obj members => "\x7b" ++ Text.join ", " (memberLiterals members) ++ "\x7d"

/-- The items of an array as messages show them. -/
def itemLiterals : List Json → List Text
  | [] => []
  | v :: rest => literal v :: itemLiterals rest

/-- The members of an object as messages show them. -/
def memberLiterals : List (Text × Json) → List Text
  | [] => []
  | (k, v) :: rest => (Text.quoted k ++ ": " ++ literal v) :: memberLiterals rest

end

/-- The value where a text is wanted: a string as it is, any other value as
messages show it. -/
def text : Json → Text
  | str s => s
  | v => literal v

end Json

end SchemaRecovery
