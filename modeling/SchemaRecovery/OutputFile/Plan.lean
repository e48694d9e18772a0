/-
  SchemaRecovery.OutputFile.Plan

  One output file per module: its name, package, imports and root types. A
  namespace with one module gives a file its name; the files of a namespace
  with several are numbered from one.
-/
import SchemaRecovery.ModuleGraph.Basic
import SchemaRecovery.Schema.Nesting

namespace SchemaRecovery

/-- A file to be written. -/
structure OutputFile where
  fileName : Text
  packageName : Text
  ns : Label
  imports : List Text
  messages : List MessageType
  enums : List EnumType

namespace OutputFile

/-- The ending of file names. -/
def ending : Text := ".proto"

/-- The file name of types without a namespace. -/
def fallbackBase : Text := "base"

/-- The package of a namespace. -/
def packageOf (ns : Text) : Text := Text.lowerSnake ns

/-- The file name of a namespace, without its ending. -/
def baseOf (ns : Text) : Text :=
  if (packageOf ns).isEmpty then fallbackBase else packageOf ns

/-- The file name with an index. -/
def indexedName (base : Text) (index : Nat) : Text :=
  base ++ "." ++ toString index ++ ending

/-- The first index from `index` on whose name is not in use. Among as many
names as are in use and one more, one is free. -/
def freeIndex (used : List Text) (base : Text) : Nat → (index : Nat) → Nat
  | 0, index => index
  | n + 1, index =>
    if used.contains (Text.lower (indexedName base index)) then freeIndex used base n (index + 1)
    else index

/-- The file name for a namespace, alone or one of several. Names are
compared in lower case. -/
def nameFor (used : List Text) (ns : Text) (alone : Bool) : Text :=
  if alone then baseOf ns ++ ending
  else indexedName (baseOf ns) (freeIndex used (baseOf ns) used.length 1)

/-- The order in which modules get their names: those without dependencies
first, then those with fewer root messages, then by id. -/
def moduleLe (a b : SchemaModule) : Bool :=
  match a.dependsOn.isEmpty, b.dependsOn.isEmpty with
  | true, false => true
  | false, true => false
  | _, _ =>
    if a.rootMessages.size = b.rootMessages.size then decide (a.id ≤ b.id)
    else decide (a.rootMessages.size < b.rootMessages.size)

/-- A file whose imports of other files are not known yet. -/
structure Draft where
  moduleId : Int
  file : OutputFile
  imports : OrderedSet Text

/-- Drafts the file of a module. -/
def draft (s : Schema) (g : ModuleGraph) (used : List Text) (m : SchemaModule) :
    Except Failure Draft := do
  let ns ← TypeDescriptor.present m.ns
  let alone := (g.modules.values.filter fun x => x.ns = m.ns).length ≤ 1
  let fileName := nameFor used ns alone
  if used.contains (Text.lower fileName) then .error (.fileNameTaken fileName m.ns)
  else
    let messages ← Label.sortOnPair (fun x => (x.name, x.fullName))
      (← m.rootMessages.toList.mapM s.message)
    let enums ← Label.sortOnPair (fun x => (x.name, x.fullName))
      (← m.rootEnums.toList.mapM s.enum)
    let families ← messages.mapM s.family
    let imports := families.flatten.foldl (fun acc x => acc.union x.imports) ∅
    return { moduleId := m.id
             file := { fileName, packageName := packageOf ns, ns := m.ns, imports := []
                       messages, enums }
             imports }

/-- Drafts the files of all modules. -/
def drafts (s : Schema) (g : ModuleGraph) : Except Failure (List Draft) := do
  let modules := g.modules.values.mergeSort moduleLe
  let (_, drafts) ← modules.foldlM (fun (state : List Text × List Draft) m => do
    let (used, drafts) := state
    let d ← draft s g used m
    return (used ++ [Text.lower d.file.fileName], drafts ++ [d])) ([], [])
  return drafts

/-- The file of a draft, with the files of the modules it depends on
imported. -/
def finish (g : ModuleGraph) (drafts : List Draft) (d : Draft) : Except Failure OutputFile := do
  let m ← g.module d.moduleId
  let names ← m.dependsOn.toList.mapM fun id =>
    match drafts.find? fun x => x.moduleId == id with
    | some x => Except.ok x.file.fileName
    | none => .error Failure.unknownEntry
  return { d.file with imports := (d.imports.insertAll names).toList }

/-- The output files, by name. -/
def plan (s : Schema) (g : ModuleGraph) : Except Failure (List OutputFile) := do
  let ds ← drafts s g
  let files ← ds.mapM (finish g ds)
  return files.mergeSort fun a b => Text.le a.fileName b.fileName

end OutputFile

end SchemaRecovery
