/-
  SchemaRecovery.Recovery

  From an assembly to the texts of its schema files: types are discovered,
  analysed and grouped into modules, the modules are merged, and each becomes
  a file.
-/
import SchemaRecovery.ModuleGraph.Compaction
import SchemaRecovery.ModuleGraph.Partition
import SchemaRecovery.OutputFile.Render
import SchemaRecovery.Schema.Dependencies
import SchemaRecovery.Schema.Discovery
import SchemaRecovery.Schema.Fields

namespace SchemaRecovery

/-- The analysed types and the final modules of an assembly. -/
structure Recovery where
  schema : Schema
  graph : ModuleGraph

namespace Recovery

/-- The namespaces of the messages, in order. -/
def namespaces (s : Schema) : Except Failure (List Label) :=
  Label.sorted (OrderedSet.ofList (s.messages.values.map (·.ns)))

/-- Discovers the types of an assembly and their fields. -/
def discover (a : Assembly) : Logged Schema := do
  a.checkRuntime
  Logged.info "Gathering message and enum types from the assembly..."
  let s ← Schema.gather a {}
  let s ← s.populateFields
  Logged.info ("Found " ++ toString s.messages.size ++ " message types.")
  Logged.info ("Found " ++ toString s.enums.size ++ " enum types.")
  if s.messages.size = 0 then Logged.warning "No message types found in the assembly."
  Logged.info "Message type namespaces:"
  (← namespaces s).forM fun ns => Logged.info ("  '" ++ ns.text ++ "'")
  return s

/-- Links nested types, records dependencies and drops unneeded enums. -/
def relate (s : Schema) : Logged Schema := do
  Logged.info "Analyzing nested types and message dependencies..."
  let s ← s.connect
  let s ← s.populateDependencies
  let (s, dropped) := s.prune
  Logged.info ("Pruned " ++ toString dropped ++ " enums not referenced by any message.")
  return s

/-- The analysis of an assembly: its types and the merged modules. -/
def analyze (a : Assembly) : Logged Recovery := do
  let s ← discover a
  let s ← relate s
  Logged.info "Grouping messages and enums into modules..."
  let g ← ModuleGraph.partition s {}
  let g ← g.compact s
  return { schema := s, graph := g }

/-- Logs what a file will hold. -/
def announce (file : OutputFile) : Logged Unit := do
  Logged.info ("  " ++ file.fileName)
  Logged.info ("    package: " ++ file.packageName ++ ", namespace: " ++ file.ns.text ++
    ", messages: " ++ toString file.messages.length ++ ", enums: " ++
    toString file.enums.length)

/-- The output files of an assembly. -/
def rebuild (a : Assembly) : Logged (Recovery × List OutputFile) := do
  let r ← analyze a
  Logged.info "Generating .proto files..."
  let files ← OutputFile.plan r.schema r.graph
  Logged.info (toString files.length ++ " .proto files will be written:")
  files.forM announce
  return (r, files)

/-- The files with their texts. -/
def renderFiles (s : Schema) (files : List OutputFile) : Logged (List (OutputFile × Text)) :=
  files.mapM fun file => do return (file, ← file.render s)

/-- The files of an assembly with their texts. -/
def run (a : Assembly) : Logged (List (OutputFile × Text)) := do
  let (r, files) ← rebuild a
  renderFiles r.schema files

end Recovery

end SchemaRecovery
