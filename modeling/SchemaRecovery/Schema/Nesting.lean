/-
  SchemaRecovery.Schema.Nesting

  Which messages and enums are declared in a message: those nested in its type
  and those in the container class nested there. From the root messages every
  message has to be reached this way.
-/
import SchemaRecovery.Schema.TypeMapping

namespace SchemaRecovery

namespace MessageType

/-- The types nested in the message's type, then those in its first container
class. -/
def nestedTypes (m : MessageType) : List TypeDescriptor :=
  let container := m.descriptor.nested.find? fun t =>
    t.kind == some .staticClass && t.name == some typesContainer
  m.descriptor.nested ++ (container.map (·.nested)).getD []

/-- The message with the messages and enums nested in it added. -/
def withNested (s : Schema) (m : MessageType) : MessageType :=
  let names := m.nestedTypes.map (·.fullName)
  { m with nestedMessages := m.nestedMessages ++ names.filter s.messages.contains
           nestedEnums := m.nestedEnums ++ names.filter s.enums.contains }

end MessageType

namespace Schema

/-- A message and those below it, outer before inner, the nested ones in the
order that `arrange` puts them. The first argument bounds the depth. -/
def descend (s : Schema) (arrange : List Label → List Label) :
    Nat → MessageType → Except Failure (List MessageType)
  | 0, _ => .ok []
  | n + 1, m => do
    let nested ← (arrange m.nestedMessages).mapM s.message
    let below ← nested.mapM (descend s arrange n)
    return m :: below.flatten

/-- A message and those below it, nested ones in order. No chain of nested
messages is longer than there are messages. -/
def subtree (s : Schema) (m : MessageType) : Except Failure (List MessageType) :=
  s.descend id s.messages.size m

/-- The family of a root message: itself and the messages below it, the last
nested one first. -/
def family (s : Schema) (root : MessageType) : Except Failure (List MessageType) :=
  if root.isRoot then s.descend List.reverse s.messages.size root
  else .error (.notRoot root.fullName)

/-- Links nested messages and enums to their messages. -/
def linkNested (s : Schema) : Schema :=
  { s with messages := s.messages.mapValues fun _ m => m.withNested s }

/-- Fails if a message is not below a root message, or an enum that has an
owner is in no message. -/
def checkNesting (s : Schema) : Except Failure Unit := do
  let families ← s.rootMessages.mapM s.family
  let discovered := families.flatten.map (·.fullName)
  let orphans := s.messages.keys.filter fun name => !discovered.contains name
  if !orphans.isEmpty then .error (.orphanMessages orphans)
  let linked := s.messages.values.flatMap (·.nestedEnums)
  let unlinked := (s.enums.values.filter fun e =>
    !e.isRoot && !linked.contains e.fullName).map (·.fullName)
  if !unlinked.isEmpty then .error (.orphanEnums unlinked)

/-- Links nested types and checks that every one is reached. -/
def connect (s : Schema) : Except Failure Schema := do
  s.linkNested.checkNesting
  return s.linkNested

end Schema

end SchemaRecovery
