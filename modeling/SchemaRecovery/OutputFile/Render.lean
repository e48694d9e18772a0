/-
  SchemaRecovery.OutputFile.Render

  The text of an output file: the header, then each message and enum after a
  blank line, nested ones indented by two blanks.
-/
import SchemaRecovery.Logged
import SchemaRecovery.OutputFile.Plan

namespace SchemaRecovery.OutputFile

/-- The type that stands in for one that has no schema type. -/
def placeholderType : Text := "bytes"

/-- The line that parts the types of a file. -/
def blankLine : Text := []

/-- A line at a depth. -/
def indented (depth : Nat) (line : Text) : Text :=
  (List.replicate depth ("  " : Text)).flatten ++ line

/-- The warning about a field whose type has no schema type. -/
def unknownTypeWarning (m : MessageType) (f : Field) (oneof : Option Oneof)
    (typeName : Text) : Text :=
  let place : Text :=
    match oneof with
    | none => ""
    | some o => ", " ++ Text.lowerSnake o.name ++ " oneof"
  "  Using '" ++ placeholderType ++ "' for unknown type " ++ typeName ++ " (found in field " ++
    toString f.number.value ++ " of message " ++ m.name.text ++ place ++ ")"

/-- The label before the type of a field: `optional` for one with explicit
presence, which members of oneofs, repeated and map fields never have. -/
def labelOf (f : Field) (type : Text) : Text :=
  if f.hasPresence && !f.isOneofMember && !Text.hasStart type "repeated " &&
      !Text.hasStart type "map<" then "optional "
  else ""

/-- The declaration of a field. -/
def fieldLine (s : Schema) (m : MessageType) (oneof : Option Oneof) (f : Field) :
    Logged Text := do
  let name := Text.lowerSnake (← TypeDescriptor.present f.name)
  match ← s.mapType f.valueType with
  | .unmapped typeName =>
    Logged.warning (unknownTypeWarning m f oneof typeName)
    return placeholderType ++ " " ++ name ++ " = " ++ f.number.text ++ "; // Unknown type: " ++
      typeName
  | .mapped t => return labelOf f t.name ++ t.name ++ " " ++ name ++ " = " ++ f.number.text ++ ";"

/-- The values of an enum in declaration order: zeros first, then
ascending. -/
def orderedValues (e : EnumType) : List (Label × Constant) :=
  let zeros := e.values.filter fun v => v.2.value == 0
  let others := e.values.filter fun v => v.2.value != 0
  zeros ++ others.mergeSort fun a b => decide (a.2.value ≤ b.2.value)

/-- The name of an enum constant: enum and value name in upper case. -/
def constantName (enum value : Text) : Text := Text.upperSnake enum ++ "_" ++ Text.upperSnake value

/-- The declarations of the values of an enum. -/
def valueLines (e : EnumType) : Except Failure (List Text) := do
  let enum ← TypeDescriptor.present e.name
  (orderedValues e).mapM fun v => do
    let value ← TypeDescriptor.present v.1
    return constantName enum value ++ " = " ++ v.2.text ++ ";"

/-- The lines of an enum, a blank one first. -/
def enumLines (depth : Nat) (e : EnumType) : Except Failure (List Text) := do
  let values ← valueLines e
  return [blankLine, indented depth ("enum " ++ e.name.text ++ " \x7b")] ++
    values.map (indented (depth + 1)) ++ [indented depth "\x7d"]

/-- The lines of a oneof. -/
def oneofLines (s : Schema) (m : MessageType) (depth : Nat) (o : Oneof) :
    Logged (List Text) := do
  let members ← o.members.mapM (fieldLine s m (some o))
  return [indented depth ("oneof " ++ Text.lowerSnake o.name ++ " \x7b")] ++
    members.map (indented (depth + 1)) ++ [indented depth "\x7d"]

/-- The lines of a message, a blank one first. The first argument bounds how
deep messages are nested in it. -/
def messageLines (s : Schema) : (bound depth : Nat) → MessageType → Logged (List Text)
  | 0, _, _ => return []
  | n + 1, depth, m => do
    let fields ← m.fields.mapM (fieldLine s m none)
    let oneofs ← m.oneofs.mapM (oneofLines s m (depth + 1))
    let enums ← (← m.nestedEnums.mapM fun e => Logged.lift (s.enum e)).mapM
      fun e => Logged.lift (enumLines (depth + 1) e)
    let nested ← (← m.nestedMessages.mapM fun name => Logged.lift (s.message name)).mapM
      (messageLines s n (depth + 1))
    return [blankLine, indented depth ("message " ++ m.name.text ++ " \x7b")] ++
      fields.map (indented (depth + 1)) ++ oneofs.flatten ++ enums.flatten ++ nested.flatten ++
      [indented depth "\x7d"]

/-- The lines before the first type. -/
def headerLines (file : OutputFile) : List Text :=
  let package : List Text :=
    if file.packageName.isEmpty then [] else ["package " ++ file.packageName ++ ";"]
  let imports : List Text := file.imports.map fun path => "import \"" ++ path ++ "\";"
  let option : List Text :=
    if file.ns.isVoid then [] else ["option csharp_namespace = \"" ++ file.ns.text ++ "\";"]
  ("syntax = \"proto3\";" : Text) :: package ++ imports ++ option

/-- The text of a file. -/
def render (s : Schema) (file : OutputFile) : Logged Text := do
  let messages ← file.messages.mapM (messageLines s s.messages.size 0)
  let enums ← file.enums.mapM fun e => Logged.lift (enumLines 0 e)
  let lines := file.headerLines ++ messages.flatten ++ enums.flatten
  return lines.flatMap fun line => line ++ "\n"

end SchemaRecovery.OutputFile
