/-
  SchemaRecovery.Assembly.Decode

  From a JSON document to declarations of types. Values are coerced, not
  checked: any value becomes a text where a text is wanted, a yes or no where
  a flag is wanted. A null is kept as it is.
-/
import SchemaRecovery.Assembly.Basic
import SchemaRecovery.Json.Basic
import SchemaRecovery.Number.IntegerText

namespace SchemaRecovery

/-- A type as the document declares it, before full names are given. -/
structure TypeDeclaration where
  name : Label
  ns : Label
  kind : Option TypeKind
  interfaces : Option (List Text)
  fields : Option (List FieldDescriptor)
  properties : Option (List PropertyDescriptor)
  nested : Option (List TypeDeclaration)

/-- A document's content, before full names are given. -/
structure AssemblyDeclaration where
  name : Label
  references : Option (List AssemblyReference)
  types : Option (List TypeDeclaration)

namespace Decode

/-- The members of a descriptor. -/
abbrev Members := List (Text × Json)

/-- The value under a key. -/
def lookup (ms : Members) (key : Text) : Option Json :=
  match ms with
  | [] => none
  | (k, v) :: rest => if k = key then some v else lookup rest key

theorem sizeOf_lookup_lt {ms : Members} {key : Text} {v : Json}
    (h : lookup ms key = some v) : sizeOf v < sizeOf ms := by
  induction ms with
  | nil => simp [lookup] at h
  | cons m rest ih =>
    obtain ⟨k, w⟩ := m
    simp only [lookup] at h
    split at h
    · cases h
      simp
      omega
    · have hlt := ih h
      simp
      omega

/-! ## Single values -/

/-- A text; any other value is turned into one. -/
def label : Json → Label
  | .null => none
  | v => some v.text

/-- A yes or no. -/
def flag : Json → Option Bool
  | .null => none
  | v => some v.isTruthy

/-- The value of a constant. Fractions are cut off. -/
def constant : Json → Except Failure (Option Constant)
  | .null => .ok none
  | .bool b => .ok (some (.bool b))
  | .int n => .ok (some (.int n))
  | .float (.finite negative m e) =>
    let n : Int := Binary64.wholePart m e
    .ok (some (.int (if negative then -n else n)))
  | .float (.infinite _) => .error .infiniteConstant
  | .float .nan => .error .malformed
  | .str s =>
    match IntegerText.read? s with
    | some n => .ok (some (.int n))
    | none => .error .malformed
  | .arr _ => .error .malformed
  | .obj _ => .error .malformed

/-- The kind of a type. -/
def kind : Json → Except Failure (Option TypeKind)
  | .null => .ok none
  | .str s =>
    match TypeKind.ofWord? s with
    | some k => .ok (some k)
    | none => .error (.unknownKind (Text.quoted s))
  | v => .error (.unknownKind v.literal)

/-- The items of a list. A string counts as the list of its characters and an
object as the list of its keys. -/
def items : Json → Except Failure (Option (List Json))
  | .null => .ok none
  | .arr vs => .ok (some vs)
  | .str s => .ok (some (s.map fun c => .str [c]))
  | .obj ms => .ok (some (ms.map fun m => .str m.1))
  | .bool _ | .int _ | .float _ => .error .malformed

/-- The value under a key that must be there. -/
def required (ms : Members) (key : Text) : Except Failure Json :=
  match lookup ms key with
  | some v => .ok v
  | none => .error (.missingKey key)

/-- The text under a key that must be there. -/
def requiredLabel (ms : Members) (key : Text) : Except Failure Label :=
  label <$> required ms key

/-- The flag under a key. -/
def flagOr (default : Bool) (ms : Members) (key : Text) : Option Bool :=
  match lookup ms key with
  | some v => flag v
  | none => some default

/-- The list under a key, item by item; a list that is not there is empty. -/
def listOf {α : Type} (item : Json → Except Failure α) (ms : Members) (key : Text) :
    Except Failure (Option (List α)) :=
  match lookup ms key with
  | none => .ok (some [])
  | some v => do
    match ← items v with
    | none => return none
    | some vs => return some (← vs.mapM item)

/-! ## Descriptors -/

/-- A reference to a library. -/
def reference : Json → Except Failure AssemblyReference
  | .obj ms => do
    return { name := ← requiredLabel ms "name"
             version := (lookup ms "version").bind label }
  | _ => .error .notADescriptor

/-- A field. -/
def field : Json → Except Failure FieldDescriptor
  | .obj ms => do
    return { name := ← requiredLabel ms "name"
             type := ← requiredLabel ms "type"
             constant := ← constant ((lookup ms "constant").getD .null)
             isStatic := flagOr false ms "is_static" }
  | _ => .error .notADescriptor

/-- A property. -/
def property : Json → Except Failure PropertyDescriptor
  | .obj ms => do
    return { name := ← requiredLabel ms "name"
             type := ← requiredLabel ms "type"
             hasGetter := flagOr true ms "has_getter"
             hasSetter := flagOr false ms "has_setter"
             isStatic := flagOr false ms "is_static" }
  | _ => .error .notADescriptor

mutual

/-- A type, with the types nested in it. -/
def type : Json → Except Failure TypeDeclaration
  | .obj ms => do
    let name ← requiredLabel ms "name"
    let ns := label ((lookup ms "namespace").getD (.str ""))
    let kind ← kind ((lookup ms "kind").getD (.str "class"))
    let interfaces ← listOf (fun v => .ok v.text) ms "interfaces"
    let fields ← listOf field ms "fields"
    let properties ← listOf property ms "properties"
    let nested ←
      match h : lookup ms "nested_types" with
      | none => .ok (some [])
      | some (.arr vs) =>
        have : sizeOf vs < sizeOf ms := by
          have hlt := sizeOf_lookup_lt h
          simp at hlt
          omega
        some <$> types vs
      | some v => do
        match ← items v with
        | none => .ok none
        | some [] => .ok (some [])
        | some _ => .error .notADescriptor
    return { name, ns, kind, interfaces, fields, properties, nested }
  | _ => .error .notADescriptor
termination_by v => sizeOf v
decreasing_by simp only [Json.obj.sizeOf_spec]; omega

/-- The types of a list. -/
def types : List Json → Except Failure (List TypeDeclaration)
  | [] => .ok []
  | v :: rest => do
    let t ← type v
    let ts ← types rest
    return t :: ts
termination_by vs => sizeOf vs
decreasing_by all_goals (simp only [List.cons.sizeOf_spec]; omega)

end

/-- The content of a document. -/
def assembly : Json → Except Failure AssemblyDeclaration
  | .obj ms =>
    match lookup ms "name" with
    | none => .error .notAnAssembly
    | some name => do
      let references ← listOf reference ms "references"
      let types ← listOf type ms "types"
      return { name := label name, references, types }
  | _ => .error .notAnAssembly

end Decode

end SchemaRecovery
