/-
  SchemaRecovery.Schema.Dependencies

  What each message needs: imports, and the messages and enums its fields
  mention. Enums that no field mentions are dropped.
-/
import SchemaRecovery.Logged
import SchemaRecovery.Schema.Nesting

namespace SchemaRecovery

namespace MessageType

/-- Adds a type that a field mentions to the dependencies. -/
def addReference (s : Schema) (f : Field) (m : MessageType) (fullName : Text) :
    Except Failure MessageType :=
  if s.enums.contains (some fullName) then
    .ok { m with dependsOnEnums := m.dependsOnEnums.insert fullName }
  else if s.messages.contains (some fullName) then
    .ok { m with dependsOnMessages := m.dependsOnMessages.insert fullName }
  else .error (.unknownReference f.name f.number m.fullName fullName)

/-- Adds what a field needs. -/
def addFieldNeeds (s : Schema) (m : MessageType) (f : Field) : Logged MessageType := do
  match ← s.mapType f.valueType with
  | .unmapped _ =>
    Logged.debug ("Field " ++ f.name.text ++ " of " ++ m.fullName.text ++ " has no .proto type")
    return m
  | .mapped t =>
    Logged.lift (t.internalTypes.foldlM (addReference s f)
      { m with imports := m.imports.insertAll t.externalImports })

/-- The message with what its fields need added. -/
def withNeeds (s : Schema) (m : MessageType) : Logged MessageType :=
  m.allFields.foldlM (addFieldNeeds s) m

end MessageType

namespace Schema

/-- Adds what the fields of one message need. -/
def addNeeds (s : Schema) (name : Label) : Logged Schema := do
  let m ← s.message name
  let m ← m.withNeeds s
  return { s with messages := s.messages.insert name m }

/-- Records the needs of the root messages and all messages below them. -/
def populateDependencies (s : Schema) : Logged Schema := do
  s.rootMessages.foldlM (fun s root => do
    let below ← s.subtree root
    (below.map (·.fullName)).foldlM addNeeds s) s

/-- The enums that some message needs. -/
def referencedEnums (s : Schema) : List Text :=
  s.messages.values.flatMap fun m => m.dependsOnEnums.toList

/-- Drops the enums that no message needs; also tells how many those were. -/
def prune (s : Schema) : Schema × Nat :=
  let kept := s.referencedEnums
  let enums := s.enums.filterKeys fun name => (name.map kept.contains).getD false
  let messages := s.messages.mapValues fun _ m =>
    { m with nestedEnums := m.nestedEnums.filter enums.contains }
  ({ messages, enums }, s.enums.size - enums.size)

end Schema

end SchemaRecovery
