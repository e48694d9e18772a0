/-
  SchemaRecovery.Session

  A recovery taken step by step: the steps of the analysis and of the module
  graph in any order, small changes by hand, and questions in between.
-/
import SchemaRecovery.Recovery

namespace SchemaRecovery

/-- What a session works on. -/
structure Session where
  assembly : Assembly
  schema : Schema := {}
  graph : ModuleGraph := {}

namespace Session

/-- A step of the analysis of types. -/
inductive TypeStep where
  | checkRuntime
  | gather
  | populateFields
  | connect
  | populateDependencies
  | prune

/-- A step that changes the module graph. -/
inductive ModuleStep where
  | addEnumModules
  | addMessageModules
  | addAllEdges
  | partition
  | mergeCycles
  | mergeWithoutDependencies
  | mergeWithoutDependents
  | mergeSameNeighbours
  | mergeUntilCycle
  | compact
  | merge (a b : Int)
  | newModule (ns : Label)
  | addModule (id : Int) (ns : Label)
  | addEdge (source target : Int)
  | addDependsOn (id other : Int)
  | addDependedOnBy (id other : Int)
  | addRootMessage (id : Int) (name : Label)
  | addRootEnum (id : Int) (name : Label)
  | addDependsOnMessage (id : Int) (root : Label)
  | addDependsOnEnum (id : Int) (name : Label)
  | enterRoots (id : Int)
  | setNamespace (id : Int) (ns : Label)
  | setRemoved (id : Int) (removed : Bool)
  | dropModule (id : Int)
  | setMessageModule (name : Label) (id : Int)
  | setEnumModule (name : Label) (id : Int)

/-- A question, which changes nothing. -/
inductive Query where
  | validate
  | cycle
  | hasCycleWhenMerged (a b : Int)
  | summary (id : Int)
  | mapType (text : Text)
  | typeName (fullName : Label)
  | family (name : Label)
  | moduleForMessage (name : Label)
  | moduleForEnum (name : Label)
  | files
  | render

/-- What a step answers. -/
inductive Answer where
  | nothing
  | count (n : Nat)
  | truth (b : Bool)
  | id (id : Int)
  | path (ids : Option (List Int))
  | text (s : Text)
  | names (names : List Label)
  | mapping (m : Mapping)
  | files (files : List OutputFile)
  | rendered (files : List (OutputFile × Text))

/-- A session over an assembly, with bare modules and edges between them. -/
def start (assembly : Assembly) (modules : List (Int × Label)) (edges : List (Int × Int)) :
    Except Failure Session := do
  let graph : ModuleGraph := modules.foldl (fun g m => g.add { id := m.1, ns := m.2 }) {}
  let graph ← edges.foldlM (fun g e => g.addEdge e.1 e.2) graph
  return { assembly, graph }

/-- Takes a step of the analysis of types. -/
def takeTypeStep (x : Session) : TypeStep → Logged (Session × Answer)
  | .checkRuntime => do
    x.assembly.checkRuntime
    return (x, .nothing)
  | .gather => do return ({ x with schema := ← x.schema.gather x.assembly }, .nothing)
  | .populateFields => do return ({ x with schema := ← x.schema.populateFields }, .nothing)
  | .connect => do return ({ x with schema := ← x.schema.connect }, .nothing)
  | .populateDependencies => do
    return ({ x with schema := ← x.schema.populateDependencies }, .nothing)
  | .prune =>
    let (schema, dropped) := x.schema.prune
    return ({ x with schema }, .count dropped)

/-- Changes the live module with an id. -/
def modify (x : Session) (id : Int) (f : SchemaModule → SchemaModule) :
    Except Failure ModuleGraph := x.graph.modify id f

/-- The graph after a step, and what the step answers. -/
def graphAfter (x : Session) : ModuleStep → Logged (ModuleGraph × Answer)
  | .addEnumModules => do return (← x.graph.addEnumModules x.schema, .nothing)
  | .addMessageModules => do return (← x.graph.addMessageModules x.schema, .nothing)
  | .addAllEdges => do return (← x.graph.addAllEdges, .nothing)
  | .partition => do return (← x.graph.partition x.schema, .nothing)
  | .mergeCycles => do return (← x.graph.mergeCycles, .nothing)
  | .mergeWithoutDependencies => do
    return (← x.graph.mergeGroups ModuleGraph.withoutDependencies, .nothing)
  | .mergeWithoutDependents => do
    return (← x.graph.mergeGroups ModuleGraph.withoutDependents, .nothing)
  | .mergeSameNeighbours => do
    return (← x.graph.mergeGroups ModuleGraph.sameNeighbours, .nothing)
  | .mergeUntilCycle => do return (← x.graph.mergeUntilCycle, .nothing)
  | .compact => do return (← x.graph.compact x.schema, .nothing)
  | .merge a b => do return (← x.graph.merge a b, .nothing)
  | .newModule ns =>
    let (m, g) := x.graph.create ns
    return (g.add m, .id m.id)
  | .addModule id ns => return (x.graph.add { id, ns }, .nothing)
  | .addEdge source target => do return (← x.graph.addEdge source target, .nothing)
  | .addDependsOn id other => do
    return (← x.modify id fun m => { m with dependsOn := m.dependsOn.insert other }, .nothing)
  | .addDependedOnBy id other => do
    return (← x.modify id fun m => { m with dependedOnBy := m.dependedOnBy.insert other },
      .nothing)
  | .addRootMessage id name => do
    return (← x.modify id fun m => { m with rootMessages := m.rootMessages.insert name },
      .nothing)
  | .addRootEnum id name => do
    return (← x.modify id fun m => { m with rootEnums := m.rootEnums.insert name }, .nothing)
  | .addDependsOnMessage id root => do
    let m ← (← x.graph.module id).addDependsOnMessage root
    return (x.graph.add m, .nothing)
  | .addDependsOnEnum id name => do
    let m ← x.graph.module id
    let e ← x.schema.enum name
    return (x.graph.add (← m.addDependsOnEnum e), .nothing)
  | .enterRoots id => do return (x.graph.enterRoots (← x.graph.module id), .nothing)
  | .setNamespace id ns => do return (← x.modify id fun m => { m with ns }, .nothing)
  | .setRemoved id removed => do return (← x.modify id fun m => { m with removed }, .nothing)
  | .dropModule id => do
    let m ← x.graph.module id
    return ({ x.graph with modules := x.graph.modules.erase m.id }, .nothing)
  | .setMessageModule name id =>
    return ({ x.graph with messageModule := x.graph.messageModule.insert name id }, .nothing)
  | .setEnumModule name id =>
    return ({ x.graph with enumModule := x.graph.enumModule.insert name id }, .nothing)

/-- Takes a step that changes the module graph. The graph is shown after each
such step, so one that cannot be listed in order ends it. -/
def takeModuleStep (x : Session) (step : ModuleStep) : Logged (Session × Answer) := do
  let (graph, answer) ← x.graphAfter step
  graph.checkListable
  return ({ x with graph }, answer)

/-- The schema type of the type that a text refers to. -/
def mapText (s : Schema) (text : Text) : Except Failure Mapping := do
  s.mapType (← TypeReference.ofLabel (some text))

/-- Answers a question. -/
def ask (x : Session) : Query → Logged Answer
  | .validate => do
    x.graph.validate x.schema
    return .nothing
  | .cycle => do return .path (← x.graph.cycle?)
  | .hasCycleWhenMerged a b => do
    return .truth (← x.graph.hasCycleWhenMerged (← x.graph.module a) (← x.graph.module b))
  | .summary id => do return .text (← x.graph.module id).summary
  | .mapType text => do return .mapping (← mapText x.schema text)
  | .typeName fullName => do return .text (← x.schema.typeName fullName)
  | .family name => do
    return .names ((← x.schema.family (← x.schema.message name)).map (·.fullName))
  | .moduleForMessage name => do return .id (← x.graph.moduleForMessage name).id
  | .moduleForEnum name => do return .id (← x.graph.moduleForEnum name).id
  | .files => do return .files (← OutputFile.plan x.schema x.graph)
  | .render => do
    let files ← OutputFile.plan x.schema x.graph
    return .rendered (← Recovery.renderFiles x.schema files)

end Session

end SchemaRecovery
