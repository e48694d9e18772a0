/-
  SchemaRecovery.Failure

  Why a schema cannot be recovered, and how each cause is worded.
-/
import SchemaRecovery.Label

namespace SchemaRecovery

/-- The value of a constant field: a whole number, or a yes-or-no value that
counts as one or zero. -/
inductive Constant where
  | int (n : Int)
  | bool (b : Bool)
  deriving DecidableEq

namespace Constant

/-- The number the constant counts as. -/
def value : Constant → Int
  | int n => n
  | bool b => if b then 1 else 0

/-- The constant as texts show it. -/
def text : Constant → Text
  | int n => toString n
  | bool b => if b then "True" else "False"

/-- The constant is a yes-or-no value. -/
def isBool : Constant → Bool
  | int _ => false
  | bool _ => true

end Constant

/-- The kinds of failure that callers tell apart. -/
inductive FailureKind where
  | metadata
  | missingDependency
  | rebuild
  | invariant
  | assertion
  | value
  | lookup
  | nullOperand
  | member
  | overflow
  | depth
  deriving DecidableEq

/-- A cause of failure. -/
inductive Failure where
  /-- The document is no JSON. -/
  | invalidJson
  /-- A whole number of the document has too many digits. -/
  | integerTooLong
  /-- Arrays and objects of the document are nested too deep. -/
  | nestedTooDeep
  /-- The bytes of the document are no text. -/
  | invalidEncoding
  /-- The document is no object with a name. -/
  | notAnAssembly
  /-- A descriptor lacks a key that has no default. -/
  | missingKey (key : Text)
  /-- A type has a kind that does not exist; `value` is that kind as shown. -/
  | unknownKind (value : Text)
  /-- A value of the document cannot be what its place asks for. -/
  | malformed
  /-- An item of a list of descriptors is no object. -/
  | notADescriptor
  /-- A constant is infinite. -/
  | infiniteConstant
  /-- Two types have one full name. -/
  | duplicateType (fullName : Label)
  /-- A text is no type reference. -/
  | invalidTypeReference (text : Text)
  /-- The assembly does not reference the runtime library. -/
  | missingRuntime (library : Text) (assembly : Label)
  /-- A member of a oneof has no property. -/
  | oneofPropertyMissing (oneof : Text) (field message : Label)
  /-- A field number has no property. -/
  | fieldPropertyMissing (constant : Text) (message : Label)
  /-- Two fields of a message have one number. -/
  | numberClash (number : Constant) (first second message : Label)
  /-- A generic type is given the wrong number of arguments. -/
  | argumentCount (name : Text) (expected found : Nat) (reference : Text)
  /-- Two output files would have one name. -/
  | fileNameTaken (fileName : Text) (ns : Label)
  /-- A name is neither a message nor an enum. -/
  | unknownType (fullName : Label)
  /-- A field refers to a type that is neither a message nor an enum. -/
  | unknownReference (field : Label) (number : Constant) (message : Label) (fullName : Text)
  /-- Messages that no root message encloses. -/
  | orphanMessages (names : List Label)
  /-- Enums with an owner that does not enclose them. -/
  | orphanEnums (names : List Label)
  /-- Modules of two namespaces cannot be merged. -/
  | mergeAcross (first second : Label)
  /-- A module cannot be merged with itself. -/
  | mergeWithItself (id : Int)
  /-- A module has an edge to itself. -/
  | selfDependency (id : Int)
  /-- A message belongs to a module that is gone. -/
  | strandedMessage (name : Label) (id : Int)
  /-- An enum belongs to a module that is gone. -/
  | strandedEnum (name : Label) (id : Int)
  /-- A module is both removed and live. -/
  | removedButLive (id : Int)
  /-- A module has edges to modules that are gone. -/
  | danglingEdges (id : Int) (ns : Label) (gone : List Int)
  /-- A module holds a message of another namespace. -/
  | foreignMessage (name ns : Label) (id : Int)
  /-- A module holds an enum of another namespace. -/
  | foreignEnum (name ns : Label) (id : Int)
  /-- The modules depend on each other in a circle. -/
  | moduleCycle (path : List (Int × Label))
  /-- A module would depend on a root message of its own. -/
  | ownRoot (root : Label)
  /-- A module would get an edge to itself. -/
  | selfEdge (id : Int) (ns : Label)
  /-- Only the family of a root message can be listed. -/
  | notRoot (fullName : Label)
  /-- A module, message or enum is asked for that is not there. -/
  | unknownEntry
  /-- A null stands where a value is worked with. -/
  | nullOperand
  /-- A null stands where the parts of a name are looked at. -/
  | nullName

namespace Failure

/-- The kind of a failure. -/
def kind : Failure → FailureKind
  | invalidJson | notAnAssembly | missingKey _ | unknownKind _ | malformed | duplicateType _
  | invalidTypeReference _ | oneofPropertyMissing .. | fieldPropertyMissing ..
  | numberClash .. | argumentCount .. => .metadata
  | missingRuntime .. => .missingDependency
  | fileNameTaken .. => .rebuild
  | unknownType _ | unknownReference .. | orphanMessages _ | orphanEnums _ | mergeAcross ..
  | mergeWithItself _ | selfDependency _ | strandedMessage .. | strandedEnum ..
  | removedButLive _ | danglingEdges .. | foreignMessage .. | foreignEnum ..
  | moduleCycle _ => .invariant
  | ownRoot _ | selfEdge .. => .assertion
  | notRoot _ | integerTooLong | invalidEncoding => .value
  | unknownEntry => .lookup
  | nullOperand => .nullOperand
  | notADescriptor | nullName => .member
  | infiniteConstant => .overflow
  | nestedTooDeep => .depth

/-- Modules along a path, as messages show them. -/
def pathText (path : List (Int × Label)) : Text :=
  Text.join " -> " (path.map fun m => toString m.1 ++ " (" ++ m.2.quoted ++ ")")

/-- Several labels, as messages list them. A null cannot stand in a list. -/
def listText (names : List Label) : Text := Text.join ", " (names.map Label.text)

/-- The wording of a failure; those that only the surroundings report have
none. -/
def message? : Failure → Option Text
  | invalidJson => some "Assembly metadata is not valid JSON"
  | notAnAssembly => some "Assembly metadata must be an object with a 'name' key"
  | missingKey key => some ("Assembly metadata is malformed: " ++ Text.quoted key)
  | unknownKind value =>
    some ("Assembly metadata is malformed: " ++ value ++ " is not a valid TypeKind")
  | malformed => some "Assembly metadata is malformed"
  | duplicateType fullName =>
    some ("Type " ++ fullName.text ++ " is declared more than once")
  | invalidTypeReference text => some ("Invalid type reference '" ++ text ++ "'")
  | missingRuntime library assembly =>
    some (library ++ " assembly reference not found in " ++ assembly.text)
  | oneofPropertyMissing oneof field message =>
    some ("No property was found for oneof " ++ oneof ++ " field " ++ field.text ++
      " on message " ++ message.text)
  | fieldPropertyMissing constant message =>
    some ("No property was found for field " ++ constant ++ " on message " ++ message.text)
  | numberClash number first second message =>
    some ("Field number " ++ number.text ++ " is used by both " ++ first.text ++ " and " ++
      second.text ++ " on message " ++ message.text)
  | argumentCount name expected found reference =>
    some (name ++ " must have exactly " ++ toString expected ++
      " generic argument(s), but found " ++ toString found ++ " in " ++ reference)
  | fileNameTaken fileName ns =>
    some ("File name " ++ fileName ++ " for namespace " ++ ns.quoted ++ " was already used")
  | unknownType fullName =>
    some (fullName.text ++ " is neither a known message nor a known enum")
  | unknownReference field number message fullName =>
    some ("Field " ++ field.text ++ " (" ++ number.text ++ ") of " ++ message.text ++
      " references " ++ fullName ++ ", which is neither a known message nor a known enum")
  | orphanMessages names =>
    some (toString names.length ++ " messages are not nested under any root message: " ++
      listText names)
  | orphanEnums names =>
    some (toString names.length ++ " enums are not nested under any message: " ++ listText names)
  | mergeAcross first second =>
    some ("Cannot merge modules with different namespaces: '" ++ first.text ++ "' and '" ++
      second.text ++ "'")
  | mergeWithItself id => some ("Cannot merge module " ++ toString id ++ " with itself")
  | selfDependency id => some ("Module " ++ toString id ++ " depends on itself")
  | strandedMessage name id =>
    some ("Message " ++ name.text ++ " is assigned to removed module " ++ toString id)
  | strandedEnum name id =>
    some ("Enum " ++ name.text ++ " is assigned to removed module " ++ toString id)
  | removedButLive id => some ("Module " ++ toString id ++ " is removed but still live")
  | danglingEdges id ns gone =>
    some ("Module " ++ toString id ++ " (" ++ ns.quoted ++ ") references removed modules [" ++
      Text.join ", " (gone.map fun id => toString id) ++ "]")
  | foreignMessage name ns id =>
    some ("Message " ++ name.text ++ " does not belong to namespace " ++ ns.quoted ++
      " of module " ++ toString id)
  | foreignEnum name ns id =>
    some ("Enum " ++ name.text ++ " does not belong to namespace " ++ ns.quoted ++
      " of module " ++ toString id)
  | moduleCycle path =>
    some ("There is a cycle in module dependencies: " ++ pathText path)
  | ownRoot root => some (root.text ++ " is already a root message of this module")
  | selfEdge id ns =>
    some ("Module " ++ toString id ++ " (" ++ ns.quoted ++ ") depends on itself")
  | notRoot fullName => some (fullName.text ++ " is not a root message")
  | integerTooLong | invalidEncoding | unknownEntry | nullOperand | notADescriptor | nullName
  | infiniteConstant | nestedTooDeep => none

end Failure

end SchemaRecovery
