/-
  SchemaRecovery.Schema.Fields

  The fields of messages, from the traces that generated code leaves. A field
  `X` has a constant `XFieldNumber` and a property `X`; one with explicit
  presence has a read-only property `HasX` besides. A oneof `X` has a property
  `XCase` of a nested enum `XOneofCase`, whose positive values name the
  members.
-/
import SchemaRecovery.Logged
import SchemaRecovery.Schema.Basic
import SchemaRecovery.TypeReference.Parser

namespace SchemaRecovery

/-- The ending of the constants that number fields. -/
def numberEnding : Text := "FieldNumber"

/-- The ending of the properties that tell the case of a oneof. -/
def caseEnding : Text := "Case"

/-- The ending of the enums of oneof cases. -/
def caseEnumEnding : Text := "OneofCase"

/-- The start of the properties that tell the presence of a field. -/
def presenceStart : Text := "Has"

/-- The type of presence properties. -/
def presenceType : Text := "System.Boolean"

/-- The type reference that a label spells. -/
def TypeReference.ofLabel : Label → Except Failure TypeReference
  | none => .error .nullOperand
  | some s =>
    match TypeReference.parse? s with
    | some t => .ok t
    | none => .error (.invalidTypeReference s)

/-- The text of a name whose parts are looked at. -/
def nameText : Label → Except Failure Text
  | none => .error .nullName
  | some s => .ok s

namespace TypeDescriptor

/-- The type has a presence property for a field. -/
def hasPresence (t : TypeDescriptor) (name : Label) : Except Failure Bool := do
  return (← present t.properties).any fun p =>
    p.name = some (presenceStart ++ name.text) && p.type = some presenceType &&
      !(p.hasSetter == some true) && p.isInstanceReadable

/-- The field of a message with the given property. -/
def fieldOf (t : TypeDescriptor) (p : PropertyDescriptor) (name : Label) (number : Constant)
    (isOneofMember : Bool) : Except Failure Field := do
  let valueType ← TypeReference.ofLabel p.type
  let hasPresence ← t.hasPresence name
  return { name, number, valueType, isOneofMember, hasPresence }

/-- The field that has a number already. -/
def holder? (seen : List Field) (number : Constant) : Option Field :=
  seen.find? fun f => f.number.value == number.value

/-- Adds the member of a oneof that an enum value names to the members found
so far. `seen` are the fields of the message with a number so far. -/
def addMember (t : TypeDescriptor) (oneof : Text) (found : List Field × List Field)
    (value : FieldDescriptor) : Except Failure (List Field × List Field) := do
  let (seen, members) := found
  match value.constant with
  | none => return found
  | some number =>
    if !(value.isStatic == some true) || number.value ≤ 0 then return found
    else
      match ← t.property? value.name with
      | none => .error (.oneofPropertyMissing oneof value.name t.fullName)
      | some p =>
        let member ← t.fieldOf p value.name number true
        match holder? seen number with
        | some other => .error (.numberClash number other.name member.name t.fullName)
        | none => return (seen ++ [member], members ++ [member])

/-- The name and the case enum of the oneof that a property tells of. -/
def oneofOf (enums : Registry Label EnumType) (p : PropertyDescriptor) :
    Except Failure (Option (Text × EnumType)) := do
  if !p.isInstanceReadable then return none
  else
    match Text.withoutEnding? (← nameText p.name) caseEnding with
    | none => return none
    | some oneof =>
      let ref ← TypeReference.ofLabel p.type
      match enums.find? (some ref.name) with
      | none => return none
      | some e =>
        if ref.isGeneric || !Text.hasEnding ref.simpleName caseEnumEnding then return none
        else return some (oneof, e)

/-- Adds the oneof that a property tells of, if it does. -/
def addOneof (enums : Registry Label EnumType) (t : TypeDescriptor)
    (found : List Field × List Oneof) (p : PropertyDescriptor) :
    Except Failure (List Field × List Oneof) := do
  match ← oneofOf enums p with
  | none => return found
  | some (oneof, e) =>
    let (seen, oneofs) := found
    let (seen, members) ←
      (← present e.descriptor.fields).foldlM (addMember t oneof) (seen, [])
    return (seen, oneofs ++ [{ name := oneof, discriminator := e.fullName, members }])

/-- The name and number of the field that a constant numbers. -/
def numberedOf (c : FieldDescriptor) : Except Failure (Option (Text × Constant)) := do
  match c.constant with
  | none => return none
  | some number =>
    if number.isBool then return none
    else
      match Text.withoutEnding? (← nameText c.name) numberEnding with
      | none => return none
      | some name => return if name.isEmpty then none else some (name, number)

/-- Adds the plain field that a constant numbers, if it does and the number is
not that of a member of a oneof. -/
def addField (t : TypeDescriptor) (found : List Field × List Field) (c : FieldDescriptor) :
    Except Failure (List Field × List Field) := do
  match ← numberedOf c with
  | none => return found
  | some (name, number) =>
    let (seen, fields) := found
    match ← t.property? (some name) with
    | none => .error (.fieldPropertyMissing (name ++ numberEnding) t.fullName)
    | some p =>
      let field ← t.fieldOf p (some name) number false
      match holder? seen number with
      | none => return (seen ++ [field], fields ++ [field])
      | some other =>
        if other.name = field.name then return found
        else .error (.numberClash number other.name field.name t.fullName)

/-- The oneofs and the plain fields of a message type. -/
def recoverFields (enums : Registry Label EnumType) (t : TypeDescriptor) :
    Except Failure (List Oneof × List Field) := do
  let (seen, oneofs) ← (← present t.properties).foldlM (addOneof enums t) ([], [])
  let (_, fields) ← (← present t.fields).foldlM (addField t) (seen, [])
  return (oneofs, fields)

end TypeDescriptor

/-- The message with the fields of its type added. -/
def MessageType.withFields (enums : Registry Label EnumType) (m : MessageType) :
    Logged MessageType := do
  let (oneofs, fields) ← m.descriptor.recoverFields enums
  let m := { m with oneofs := m.oneofs ++ oneofs, fields := m.fields ++ fields }
  Logged.debug (m.fullName.text ++ ": " ++ toString m.fields.length ++ " fields, " ++
    toString m.oneofs.length ++ " oneofs")
  return m

/-- Recovers the fields of every message. -/
def Schema.populateFields (s : Schema) : Logged Schema :=
  s.messages.entries.foldlM (fun s e => do
    let m ← e.2.withFields s.enums
    return { s with messages := s.messages.insert e.1 m }) s

end SchemaRecovery
