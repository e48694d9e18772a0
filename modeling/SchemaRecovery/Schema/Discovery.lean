/-
  SchemaRecovery.Schema.Discovery

  Which types are messages and enums. A message lists the message interface of
  the runtime library; an enum is an enum. Types are met outer before inner,
  neighbours in the order of their full names.
-/
import SchemaRecovery.LabelOrder
import SchemaRecovery.Logged
import SchemaRecovery.Schema.Basic

namespace SchemaRecovery

/-- The runtime library of generated messages. -/
def runtimeLibrary : Text := "Google.Protobuf"

/-- The interface that messages list. -/
def messageInterface : Text := "Google.Protobuf.IMessage"

/-- Fails unless the assembly references the runtime library. -/
def Assembly.checkRuntime (a : Assembly) : Logged Unit := do
  match ← a.reference? (some runtimeLibrary) with
  | none => Logged.lift (.error (.missingRuntime runtimeLibrary a.name))
  | some r =>
    let version : Text := if r.version.isVoid then "(unknown version)" else r.version.text
    Logged.info ("Found " ++ r.name.text ++ " " ++ version ++ " reference.")

namespace Schema

mutual

/-- A type and those inside it, each with the full name of the outermost
message around it, `root` being that of the type itself. -/
def enlist (root : Label) :
    TypeDescriptor → Except Failure (List (TypeDescriptor × Label))
  | ⟨name, ns, kind, interfaces, fields, properties, fullName, declaringType, nested⟩ => do
    let t : TypeDescriptor :=
      ⟨name, ns, kind, interfaces, fields, properties, fullName, declaringType, nested⟩
    let isMessage ← t.implements messageInterface
    let inner := if root.isNone && isMessage then fullName else root
    let below ← Label.sortOn (·.1) (← enlistAll inner nested)
    return (t, root) :: below.flatMap (·.2)

/-- The listings of several types, each under the full name of its type. -/
def enlistAll (root : Label) :
    List TypeDescriptor → Except Failure (List (Label × List (TypeDescriptor × Label)))
  | [] => .ok []
  | t :: rest => do
    let types ← enlist root t
    let others ← enlistAll root rest
    return (t.fullName, types) :: others

end

/-- The values of an enum, in ascending order. -/
def enumValues (t : TypeDescriptor) : Except Failure (List (Label × Constant)) := do
  let fields ← TypeDescriptor.present t.fields
  let pairs := fields.filterMap fun f => f.constant.map fun c => (f.name, c)
  return pairs.mergeSort fun a b => decide (a.2.value ≤ b.2.value)

/-- Enters a type that is a message or an enum. -/
def register (s : Schema) (entry : TypeDescriptor × Label) : Except Failure Schema := do
  let (t, root) := entry
  let isMessage ← t.implements messageInterface
  let s :=
    if isMessage then
      { s with messages := s.messages.insert t.fullName { descriptor := t, rootMessage := root } }
    else s
  if t.isEnum then
    let values ← enumValues t
    return { s with enums := s.enums.insert t.fullName
                      { descriptor := t, rootMessage := root, values } }
  else return s

/-- Enters every message and enum of the assembly. -/
def gather (a : Assembly) (s : Schema) : Except Failure Schema := do
  let listings ← Label.sortOn (·.1) (← enlistAll none a.types)
  (listings.flatMap (·.2)).foldlM register s

end Schema

end SchemaRecovery
