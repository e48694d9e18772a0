/-
  SchemaRecovery.Schema.Basic

  What is recovered from an assembly: messages with their fields and oneofs,
  and enums with their values, each under the full name of its type.
-/
import SchemaRecovery.Assembly.Basic
import SchemaRecovery.Container.OrderedSet
import SchemaRecovery.Container.Registry
import SchemaRecovery.TypeReference.Basic

namespace SchemaRecovery

/-- An enum. `rootMessage` is the full name of the outermost message around
it. -/
structure EnumType where
  descriptor : TypeDescriptor
  rootMessage : Label
  values : List (Label × Constant)

namespace EnumType

/-- The full name of the enum. -/
def fullName (e : EnumType) : Label := e.descriptor.fullName

/-- The name of the enum. -/
def name (e : EnumType) : Label := e.descriptor.name

/-- The namespace of the enum. -/
def ns (e : EnumType) : Label := e.descriptor.ns

/-- No message is around the enum. -/
def isRoot (e : EnumType) : Bool := e.rootMessage.isNone

end EnumType

/-- A field of a message. -/
structure Field where
  name : Label
  number : Constant
  valueType : TypeReference
  isOneofMember : Bool
  hasPresence : Bool

/-- A oneof of a message, known by the enum of its cases. -/
structure Oneof where
  name : Text
  discriminator : Label
  members : List Field

/-- A message. `rootMessage` is the full name of the outermost message around
it; nested types and dependencies are given by full name. -/
structure MessageType where
  descriptor : TypeDescriptor
  rootMessage : Label
  fields : List Field := []
  oneofs : List Oneof := []
  nestedMessages : List Label := []
  nestedEnums : List Label := []
  imports : OrderedSet Text := ∅
  dependsOnMessages : OrderedSet Text := ∅
  dependsOnEnums : OrderedSet Text := ∅

namespace MessageType

/-- The full name of the message. -/
def fullName (m : MessageType) : Label := m.descriptor.fullName

/-- The name of the message. -/
def name (m : MessageType) : Label := m.descriptor.name

/-- The namespace of the message. -/
def ns (m : MessageType) : Label := m.descriptor.ns

/-- No message is around the message. -/
def isRoot (m : MessageType) : Bool := m.rootMessage.isNone

/-- The full name of the root message that owns the message: its own if it is
a root. -/
def root (m : MessageType) : Label := if m.rootMessage.isVoid then m.fullName else m.rootMessage

/-- The plain fields, then the members of the oneofs. -/
def allFields (m : MessageType) : List Field := m.fields ++ m.oneofs.flatMap (·.members)

end MessageType

/-- The messages and enums of an assembly, by full name. -/
structure Schema where
  messages : Registry Label MessageType := ∅
  enums : Registry Label EnumType := ∅

namespace Schema

/-- The messages that are in no other message. -/
def rootMessages (s : Schema) : List MessageType := s.messages.values.filter (·.isRoot)

/-- The enums that are in no message. -/
def rootEnums (s : Schema) : List EnumType := s.enums.values.filter (·.isRoot)

/-- The message with a full name. -/
def message (s : Schema) (fullName : Label) : Except Failure MessageType :=
  match s.messages.find? fullName with
  | some m => .ok m
  | none => .error .unknownEntry

/-- The enum with a full name. -/
def enum (s : Schema) (fullName : Label) : Except Failure EnumType :=
  match s.enums.find? fullName with
  | some e => .ok e
  | none => .error .unknownEntry

end Schema

end SchemaRecovery
