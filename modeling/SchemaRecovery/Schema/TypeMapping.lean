/-
  SchemaRecovery.Schema.TypeMapping

  The schema type of a managed type: scalars, well-known types and their
  wrappers by table, messages and enums by their qualified names, repeated and
  map fields by their elements. Some types have none.
-/
import SchemaRecovery.Schema.Basic
import SchemaRecovery.Text.SnakeCase

namespace SchemaRecovery

/-- The schema types of managed scalars. -/
def scalarTypes : List (Text × Text) :=
  [("System.Double", "double"),
    ("System.Single", "float"),
    ("System.Int32", "int32"),
    ("System.Int64", "int64"),
    ("System.UInt32", "uint32"),
    ("System.UInt64", "uint64"),
    ("System.Boolean", "bool"),
    ("System.String", "string"),
    ("Google.Protobuf.ByteString", "bytes")]

/-- The types that come with the runtime library: schema type and import. -/
def wellKnownTypes : List (Text × Text × Text) :=
  [("Google.Protobuf.WellKnownTypes.Timestamp",
      "google.protobuf.Timestamp", "google/protobuf/timestamp.proto"),
    ("Google.Protobuf.WellKnownTypes.Duration",
      "google.protobuf.Duration", "google/protobuf/duration.proto"),
    ("Google.Protobuf.WellKnownTypes.Empty",
      "google.protobuf.Empty", "google/protobuf/empty.proto"),
    ("Google.Protobuf.WellKnownTypes.Any",
      "google.protobuf.Any", "google/protobuf/any.proto"),
    ("Google.Protobuf.WellKnownTypes.FieldMask",
      "google.protobuf.FieldMask", "google/protobuf/field_mask.proto"),
    ("Google.Protobuf.WellKnownTypes.Struct",
      "google.protobuf.Struct", "google/protobuf/struct.proto"),
    ("Google.Protobuf.WellKnownTypes.Value",
      "google.protobuf.Value", "google/protobuf/struct.proto"),
    ("Google.Protobuf.WellKnownTypes.ListValue",
      "google.protobuf.ListValue", "google/protobuf/struct.proto")]

/-- The schema types of scalars that may be absent. -/
def wrapperTypes : List (Text × Text) :=
  [("bool", "google.protobuf.BoolValue"),
    ("double", "google.protobuf.DoubleValue"),
    ("float", "google.protobuf.FloatValue"),
    ("int32", "google.protobuf.Int32Value"),
    ("int64", "google.protobuf.Int64Value"),
    ("uint32", "google.protobuf.UInt32Value"),
    ("uint64", "google.protobuf.UInt64Value")]

/-- The import of the wrapper types. -/
def wrappersImport : Text := "google/protobuf/wrappers.proto"

/-- The managed type of scalars that may be absent. -/
def nullableType : Text := "System.Nullable`1"

/-- The managed type of repeated fields. -/
def repeatedType : Text := "Google.Protobuf.Collections.RepeatedField`1"

/-- The managed type of map fields. -/
def mapFieldType : Text := "Google.Protobuf.Collections.MapField`2"

/-- The class that nested messages and enums are put in. -/
def typesContainer : Text := "Types"

/-- A schema type. `internalTypes` are the full names of the messages and
enums it mentions, `externalImports` the imports it needs besides. -/
structure TypeMapping where
  name : Text
  externalImports : List Text := []
  internalTypes : List Text := []
  deriving DecidableEq

/-- The result of mapping a type: its schema type, or the name of the type
that has none. -/
inductive Mapping where
  | mapped (m : TypeMapping)
  | unmapped (typeName : Text)
  deriving DecidableEq

namespace Schema

/-- The texts that a dotted name is made of. -/
def dotted (segments : List Label) : Except Failure Text := do
  let texts ← segments.mapM TypeDescriptor.present
  return Text.join "." texts

/-- The names on the way from a root message to a type in it: the containers
that only hold types are left out, but not at the end. -/
def pathBelow (root fullName : Text) : List Text :=
  let segments := Text.pieces '/' (fullName.drop (root.length + 1))
  segments.dropLast.filter (· ≠ typesContainer) ++ segments.getLast?.toList

/-- The name, namespace and root message of a message or enum. -/
def entity? (s : Schema) (fullName : Label) : Option (Label × Label × Label) :=
  match s.messages.find? fullName with
  | some m => some (m.name, m.ns, m.rootMessage)
  | none => (s.enums.find? fullName).map fun e => (e.name, e.ns, e.rootMessage)

/-- The qualified schema name of a message or enum: its package, the messages
around it, its name. Types in no message are named at file level, whatever
class holds them. -/
def typeName (s : Schema) (fullName : Label) : Except Failure Text :=
  match s.entity? fullName with
  | none => .error (.unknownType fullName)
  | some (name, ns, rootMessage) => do
    let segments ←
      match rootMessage with
      | none => .ok [name]
      | some r => do
        let root ← s.message (some r)
        .ok (root.name :: (pathBelow root.fullName.text fullName.text).map some)
    dotted (if ns.isVoid then segments else some (Text.lowerSnake ns.text) :: segments)

/-- The schema type of a type without arguments. -/
def mapPlain (s : Schema) (name fullName : Text) : Except Failure Mapping :=
  match scalarTypes.lookup name with
  | some scalar => .ok (.mapped { name := scalar })
  | none =>
    match wellKnownTypes.lookup name with
    | some (type, path) => .ok (.mapped { name := type, externalImports := [path] })
    | none =>
      if s.messages.contains (some name) || s.enums.contains (some name) then do
        let type ← s.typeName (some name)
        return .mapped { name := type, internalTypes := [name] }
      else .ok (.unmapped fullName)

/-- The number of arguments of the generic types that have schema types. -/
def arity? (name : Text) : Option Nat :=
  if name = nullableType ∨ name = repeatedType then some 1
  else if name = mapFieldType then some 2
  else none

/-- The outcome for a generic type whose arguments are not as many as those
of a known one. -/
def mapMisfit (t : TypeReference) : Except Failure Mapping :=
  match arity? t.name with
  | some expected => .error (.argumentCount t.name expected t.arguments.length t.fullName)
  | none => .ok (.unmapped t.fullName)

/-- A scalar that may be absent. -/
def wrap (fullName : Text) : Mapping → Mapping
  | .mapped m =>
    match wrapperTypes.lookup m.name with
    | some wrapper => .mapped { name := wrapper, externalImports := [wrappersImport] }
    | none => .unmapped fullName
  | .unmapped _ => .unmapped fullName

/-- A repeated field of an element type. -/
def repeated (fullName : Text) : Mapping → Mapping
  | .mapped m => .mapped { m with name := "repeated " ++ m.name }
  | .unmapped _ => .unmapped fullName

/-- A map field of a key type and a value type. -/
def mapOf (fullName : Text) : Mapping → Mapping → Mapping
  | .mapped k, .mapped v =>
    .mapped { name := "map<" ++ k.name ++ ", " ++ v.name ++ ">"
              externalImports := k.externalImports ++ v.externalImports
              internalTypes := k.internalTypes ++ v.internalTypes }
  | _, _ => .unmapped fullName

/-- The schema type of a managed type. -/
def mapType (s : Schema) : TypeReference → Except Failure Mapping
  | ⟨name, [], rank⟩ =>
    let fullName := TypeReference.fullName ⟨name, [], rank⟩
    if rank ≠ 0 then .ok (.unmapped fullName) else mapPlain s name fullName
  | ⟨name, [a], rank⟩ =>
    let t : TypeReference := ⟨name, [a], rank⟩
    if rank ≠ 0 then .ok (.unmapped t.fullName)
    else if name = nullableType then do return wrap t.fullName (← mapType s a)
    else if name = repeatedType then do return repeated t.fullName (← mapType s a)
    else mapMisfit t
  | ⟨name, [a, b], rank⟩ =>
    let t : TypeReference := ⟨name, [a, b], rank⟩
    if rank ≠ 0 then .ok (.unmapped t.fullName)
    else if name = mapFieldType then do
      let key ← mapType s a
      let value ← mapType s b
      return mapOf t.fullName key value
    else mapMisfit t
  | ⟨name, a :: b :: c :: rest, rank⟩ =>
    let t : TypeReference := ⟨name, a :: b :: c :: rest, rank⟩
    if rank ≠ 0 then .ok (.unmapped t.fullName) else mapMisfit t

end Schema

end SchemaRecovery
