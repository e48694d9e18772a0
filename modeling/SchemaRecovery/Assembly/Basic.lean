/-
  SchemaRecovery.Assembly.Basic

  The type table of a compiled assembly: its types with their fields,
  properties and nested types, and the libraries it references. A null that
  the document gave in place of a value is kept as `none`.
-/
import SchemaRecovery.Container.Registry
import SchemaRecovery.Failure

namespace SchemaRecovery

/-- A library the assembly references. -/
structure AssemblyReference where
  name : Label
  version : Label

/-- A field of a type. A constant field carries its value; the values of an
enum are its static constants. -/
structure FieldDescriptor where
  name : Label
  type : Label
  constant : Option Constant
  isStatic : Option Bool

/-- The field is a constant. -/
def FieldDescriptor.isLiteral (f : FieldDescriptor) : Bool := f.constant.isSome

/-- A property of a type. -/
structure PropertyDescriptor where
  name : Label
  type : Label
  hasGetter : Option Bool
  hasSetter : Option Bool
  isStatic : Option Bool

/-- An instance of the type lets the property be read. -/
def PropertyDescriptor.isInstanceReadable (p : PropertyDescriptor) : Bool :=
  p.hasGetter == some true && !(p.isStatic == some true)

/-- What a type is. -/
inductive TypeKind where
  | plainClass
  | staticClass
  | enumeration
  | valueType
  | interfaceType
  deriving DecidableEq

/-- The word for a kind in documents. -/
def TypeKind.word : TypeKind → Text
  | plainClass => "class"
  | staticClass => "static_class"
  | enumeration => "enum"
  | valueType => "struct"
  | interfaceType => "interface"

/-- The kind a word stands for. -/
def TypeKind.ofWord? (w : Text) : Option TypeKind :=
  [plainClass, staticClass, enumeration, valueType, interfaceType].find? fun k => k.word == w

/-- A type and the types nested in it. The full name of a type is its
namespace and name, or the full name of the type around it, a slash and its
name. -/
structure TypeDescriptor where
  name : Label
  ns : Label
  kind : Option TypeKind
  interfaces : Option (List Text)
  fields : Option (List FieldDescriptor)
  properties : Option (List PropertyDescriptor)
  fullName : Label
  declaringType : Label
  nested : List TypeDescriptor

namespace TypeDescriptor

/-- The type is an enum. -/
def isEnum (t : TypeDescriptor) : Bool := t.kind == some .enumeration

/-- The type is declared in another one. -/
def isNested (t : TypeDescriptor) : Bool := t.declaringType.isSome

/-- A list that must be there to be looked at. -/
def present {α : Type} : Option α → Except Failure α
  | some a => .ok a
  | none => .error .nullOperand

/-- The type lists an interface. -/
def implements (t : TypeDescriptor) (interface : Text) : Except Failure Bool := do
  return (← present t.interfaces).contains interface

/-- The first readable instance property with a name. -/
def property? (t : TypeDescriptor) (name : Label) :
    Except Failure (Option PropertyDescriptor) := do
  return (← present t.properties).find? fun p => p.name = name && p.isInstanceReadable

mutual

/-- The type and all types inside it, outer before inner, in declared
order. -/
def family : TypeDescriptor → List TypeDescriptor
  | ⟨name, ns, kind, interfaces, fields, properties, fullName, declaringType, nested⟩ =>
    ⟨name, ns, kind, interfaces, fields, properties, fullName, declaringType, nested⟩ ::
      families nested

/-- The types of several trees. -/
def families : List TypeDescriptor → List TypeDescriptor
  | [] => []
  | t :: rest => family t ++ families rest

end

end TypeDescriptor

/-- Types under their full names. -/
abbrev TypeIndex := Registry Label TypeDescriptor

/-- The type table of an assembly. The index is filled while the types are
linked, and has the nested ones too. -/
structure Assembly where
  name : Label
  references : Option (List AssemblyReference)
  types : List TypeDescriptor
  index : TypeIndex

namespace Assembly

/-- All types, at any depth, outer before inner. -/
def allTypes (a : Assembly) : List TypeDescriptor := TypeDescriptor.families a.types

/-- The type with a full name, looked up in the index. -/
def find? (a : Assembly) (fullName : Label) : Option TypeDescriptor := a.index.find? fullName

/-- The first reference with a name. -/
def reference? (a : Assembly) (name : Label) : Except Failure (Option AssemblyReference) := do
  return (← TypeDescriptor.present a.references).find? fun r => r.name = name

/-- An assembly without types. -/
def empty (name : Text) : Assembly := ⟨some name, some [], [], ∅⟩

end Assembly

end SchemaRecovery
