/-
  SchemaRecovery.ModuleGraph.Partition

  The first grouping: a module for each root enum and for each root message,
  and an edge wherever a type of one needs a type of another.
-/
import SchemaRecovery.Logged
import SchemaRecovery.ModuleGraph.Merge
import SchemaRecovery.Schema.Nesting

namespace SchemaRecovery.ModuleGraph

/-- Adds the module of a root enum. -/
def addEnumModule (g : ModuleGraph) (e : EnumType) : ModuleGraph :=
  let (m, g) := g.create e.ns
  let m := { m with rootEnums := OrderedSet.singleton e.fullName }
  (g.enterRoots m).add m

/-- Adds a module for each root enum, by namespace and full name. -/
def addEnumModules (s : Schema) (g : ModuleGraph) : Except Failure ModuleGraph := do
  let enums ← Label.sortOnPair (fun e => (e.ns, e.fullName)) s.rootEnums
  return enums.foldl addEnumModule g

/-- Records what a message of the family of `root` needs outside it. -/
def addOutsideNeeds (s : Schema) (root : Label) (m : SchemaModule) (message : MessageType) :
    Except Failure SchemaModule := do
  let m ← message.dependsOnMessages.toList.foldlM (fun (m : SchemaModule) name => do
    let owner := (← s.message (some name)).root
    if owner = root then return m else m.addDependsOnMessage owner) m
  message.dependsOnEnums.toList.foldlM (fun (m : SchemaModule) name => do
    let e ← s.enum (some name)
    if e.rootMessage = root then return m else m.addDependsOnEnum e) m

/-- Adds the module of a root message. If the message has a module, that one
is merged into the new one. -/
def addMessageModule (s : Schema) (g : ModuleGraph) (root : MessageType) :
    Except Failure (ModuleGraph × SchemaModule) := do
  let (m, g) := g.create root.ns
  let m := { m with rootMessages := OrderedSet.singleton root.fullName }
  let m ← (← s.family root).foldlM (addOutsideNeeds s root.fullName) m
  match g.messageModule.find? root.fullName with
  | none => return ((g.enterRoots m).add m, m)
  | some id =>
    let r ← g.absorb m (← g.module id)
    return (r.graph.add r.merged, r.merged)

/-- Adds a module for each root message that a module added before it does
not hold. -/
def addMessageModules (s : Schema) (g : ModuleGraph) : Except Failure ModuleGraph := do
  let (g, _) ← s.rootMessages.foldlM (fun (state : ModuleGraph × List Label) root => do
    let (g, held) := state
    if held.contains root.fullName then return (g, held)
    else
      let (g, m) ← addMessageModule s g root
      return (g, held ++ m.rootMessages.toList)) (g, [])
  return g

/-- Adds an edge from one module to another that it needs. -/
def addNeed (m : SchemaModule) (g : ModuleGraph) (other : SchemaModule) :
    Except Failure ModuleGraph :=
  if other.id = m.id then .error (.selfEdge m.id m.ns) else g.addEdge m.id other.id

/-- Adds the edges of one module. -/
def addEdgesOf (g : ModuleGraph) (m : SchemaModule) : Except Failure ModuleGraph := do
  let g ← (← Label.sorted m.dependsOnRootMessages).foldlM (fun (g : ModuleGraph) name => do
    addNeed m g (← g.moduleForMessage name)) g
  (← Label.sorted m.dependsOnRootEnums).foldlM (fun (g : ModuleGraph) name => do
    addNeed m g (← g.moduleForEnum name)) g

/-- Adds the edges of all modules. -/
def addAllEdges (g : ModuleGraph) : Except Failure ModuleGraph :=
  g.sortedModules.foldlM addEdgesOf g

/-- The number of edges. -/
def edgeCount (g : ModuleGraph) : Nat :=
  g.modules.values.foldl (fun n m => n + m.dependsOn.size) 0

/-- The first grouping of the types of a schema. -/
def partition (s : Schema) (g : ModuleGraph) : Logged ModuleGraph := do
  let g ← addEnumModules s g
  let g ← addMessageModules s g
  let g ← g.addAllEdges
  Logged.info ("Initialized " ++ toString g.size ++ " modules with " ++ toString g.edgeCount ++
    " dependency edges.")
  return g

end SchemaRecovery.ModuleGraph
