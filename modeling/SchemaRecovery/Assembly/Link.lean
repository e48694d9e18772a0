/-
  SchemaRecovery.Assembly.Link

  Full names are given from the outside in, each to one type only. A type is
  put into the index under its name before those nested in it are linked.
-/
import SchemaRecovery.Assembly.Decode
import SchemaRecovery.Json.Reader

namespace SchemaRecovery

/-- Where a declaration stands: at the top, or in a type with a namespace and
a full name. -/
inductive Surroundings where
  | top
  | inside (ns fullName : Label)

namespace Surroundings

/-- The namespace of a type declared there with the namespace `ns`. -/
def nsFor : Surroundings → (ns : Label) → Label
  | top, ns => ns
  | inside outer _, _ => outer

/-- The full name of a type declared there. -/
def fullNameFor : Surroundings → (ns name : Label) → Label
  | top, ns, name => if ns.isVoid then name else some (ns.text ++ "." ++ name.text)
  | inside _ outer, _, name => some (outer.text ++ "/" ++ name.text)

/-- The full name of the type around. -/
def declaringType : Surroundings → Label
  | top => none
  | inside _ outer => outer

end Surroundings

namespace TypeDeclaration

mutual

/-- The type that a declaration gives, and the index with it and the types in it.
`index` has those linked before. -/
def link (place : Surroundings) (index : TypeIndex) :
    TypeDeclaration → Except Failure (TypeDescriptor × TypeIndex)
  | ⟨name, ns, kind, interfaces, fields, properties, nested⟩ =>
    let fullName := place.fullNameFor ns name
    let ns := place.nsFor ns
    let t := { name, ns, kind, interfaces, fields, properties, fullName,
               declaringType := place.declaringType, nested := [] }
    if index.contains fullName then .error (.duplicateType fullName)
    else do
      -- Its name is in the index before the types in it are linked.
      let (nested, index) ← linkPresent (.inside ns fullName) (index.insert fullName t) nested
      let t := { t with nested }
      return (t, index.insert fullName t)

/-- The types of a list that must be there. -/
def linkPresent (place : Surroundings) (index : TypeIndex) :
    Option (List TypeDeclaration) → Except Failure (List TypeDescriptor × TypeIndex)
  | none => .error .malformed
  | some ds => linkAll place index ds

/-- The types of a list, first to last. -/
def linkAll (place : Surroundings) (index : TypeIndex) :
    List TypeDeclaration → Except Failure (List TypeDescriptor × TypeIndex)
  | [] => .ok ([], index)
  | d :: rest => do
    let (t, index) ← link place index d
    let (ts, index) ← linkAll place index rest
    return (t :: ts, index)

end

end TypeDeclaration

namespace Assembly

/-- The assembly that a document's content gives. -/
def ofDeclaration (d : AssemblyDeclaration) : Except Failure Assembly := do
  let (types, index) ← TypeDeclaration.linkPresent .top ∅ d.types
  return { name := d.name, references := d.references, types, index }

/-- The assembly of a document. -/
def ofJson (v : Json) : Except Failure Assembly := do
  ofDeclaration (← Decode.assembly v)

/-- The assembly that the text of a document describes. -/
def load (text : Text) : Except Failure Assembly :=
  match Json.read text with
  | .error .invalid => .error .invalidJson
  | .error .integerTooLong => .error .integerTooLong
  | .error .tooDeep => .error .nestedTooDeep
  | .ok v => ofJson v

end Assembly

end SchemaRecovery
