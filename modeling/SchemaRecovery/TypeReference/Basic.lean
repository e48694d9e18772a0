/-
  SchemaRecovery.TypeReference.Basic

  References to types as metadata writes them: a name, the arguments of a
  generic instance, and how many times an array is made of it. Names keep the
  namespace, the declaring types and the arity mark, as in
  `Acme.Box/Item` or ``RepeatedField`1``.
-/
import SchemaRecovery.Text.Affix

namespace SchemaRecovery

/-- A reference to a type. -/
structure TypeReference where
  name : Text
  arguments : List TypeReference
  arrayRank : Nat
  deriving Inhabited

namespace TypeReference

/-- The separator between a type and the types declared in it. -/
def nestingMark : Char := '/'

/-- The mark before the number of generic parameters. -/
def arityMark : Char := '\x60'

/-- The pair of brackets of one array dimension, written `rank` times. -/
def arraySuffix (rank : Nat) : Text := (List.replicate rank ("[]" : Text)).flatten

mutual

/-- The reference in its plainest writing, without blanks. -/
def fullName : TypeReference → Text
  | ⟨name, [], rank⟩ => name ++ arraySuffix rank
  | ⟨name, arg :: args, rank⟩ =>
    name ++ "<" ++ Text.join "," (fullName arg :: fullNames args) ++ ">" ++ arraySuffix rank

/-- The plainest writings of several references. -/
def fullNames : List TypeReference → List Text
  | [] => []
  | t :: rest => fullName t :: fullNames rest

end

/-- The name without namespace, declaring types and arity mark. -/
def simpleName (t : TypeReference) : Text :=
  Text.beforeFirst arityMark (Text.afterLast '.' (Text.afterLast nestingMark t.name))

/-- The reference has generic arguments. -/
def isGeneric (t : TypeReference) : Bool := !t.arguments.isEmpty

end TypeReference

end SchemaRecovery
