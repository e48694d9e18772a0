/-
  SchemaRecovery.ModuleGraph.Basic

  Modules are groups of root types that go to one output file. They depend on
  each other where their types do; each edge is kept at both of its ends.
-/
import SchemaRecovery.Graph.Cycle
import SchemaRecovery.LabelOrder
import SchemaRecovery.Schema.Basic

namespace SchemaRecovery

/-- A group of root messages and root enums of one namespace. -/
structure SchemaModule where
  id : Int
  ns : Label
  rootMessages : OrderedSet Label := ∅
  rootEnums : OrderedSet Label := ∅
  dependsOnRootMessages : OrderedSet Label := ∅
  dependsOnRootEnums : OrderedSet Label := ∅
  dependsOn : OrderedSet Int := ∅
  dependedOnBy : OrderedSet Int := ∅
  removed : Bool := false

namespace SchemaModule

/-- Ids in brackets. -/
def idsText (s : OrderedSet Int) : Text :=
  "[" ++ Text.join ", " (s.toList.map fun id => toString id) ++ "]"

/-- The module in one line. -/
def summary (m : SchemaModule) : Text :=
  "Module(" ++ toString m.id ++ ", " ++ m.ns.quoted ++ ", removed=" ++
    (if m.removed then "True" else "False") ++
    ", messages=" ++ toString m.rootMessages.size ++ ", enums=" ++ toString m.rootEnums.size ++
    ", depends_on=" ++ idsText m.dependsOn ++ ", depended_on_by=" ++ idsText m.dependedOnBy ++ ")"

/-- Records that the module needs the family of a root message. -/
def addDependsOnMessage (m : SchemaModule) (root : Label) : Except Failure SchemaModule :=
  if root ∈ m.rootMessages then .error (.ownRoot root)
  else .ok { m with dependsOnRootMessages := m.dependsOnRootMessages.insert root }

/-- Records that the module needs an enum. One that is nested in a message
comes with the root message that owns it. -/
def addDependsOnEnum (m : SchemaModule) (e : EnumType) : Except Failure SchemaModule :=
  match e.rootMessage with
  | some root => m.addDependsOnMessage (some root)
  | none => .ok { m with dependsOnRootEnums := m.dependsOnRootEnums.insert e.fullName }

end SchemaModule

/-- The live modules by id, and the module of each root type. -/
structure ModuleGraph where
  modules : Registry Int SchemaModule := ∅
  messageModule : Registry Label Int := ∅
  enumModule : Registry Label Int := ∅
  nextId : Int := 1

namespace ModuleGraph

/-- The number of live modules. -/
def size (g : ModuleGraph) : Nat := g.modules.size

/-- A new module, which is not live yet. -/
def create (g : ModuleGraph) (ns : Label) : SchemaModule × ModuleGraph :=
  ({ id := g.nextId, ns }, { g with nextId := g.nextId + 1 })

/-- Makes a module live, in place of one with its id. -/
def add (g : ModuleGraph) (m : SchemaModule) : ModuleGraph :=
  { g with modules := g.modules.insert m.id m }

/-- The live module with an id. -/
def module (g : ModuleGraph) (id : Int) : Except Failure SchemaModule :=
  match g.modules.find? id with
  | some m => .ok m
  | none => .error .unknownEntry

/-- Changes the live module with an id. -/
def modify (g : ModuleGraph) (id : Int) (f : SchemaModule → SchemaModule) :
    Except Failure ModuleGraph := do
  let m ← g.module id
  return { g with modules := g.modules.insert id (f m) }

/-- The ids of the live modules in ascending order. -/
def sortedIds (g : ModuleGraph) : List Int := g.modules.keys.mergeSort fun a b => decide (a ≤ b)

/-- The live modules by ascending id. -/
def sortedModules (g : ModuleGraph) : List SchemaModule :=
  g.sortedIds.filterMap g.modules.find?

/-- The live module of a message. -/
def moduleForMessage (g : ModuleGraph) (name : Label) : Except Failure SchemaModule :=
  match g.messageModule.find? name with
  | some id => g.module id
  | none => .error .unknownEntry

/-- The live module of an enum. -/
def moduleForEnum (g : ModuleGraph) (name : Label) : Except Failure SchemaModule :=
  match g.enumModule.find? name with
  | some id => g.module id
  | none => .error .unknownEntry

/-- Enters the root types of a module as its own. -/
def enterRoots (g : ModuleGraph) (m : SchemaModule) : ModuleGraph :=
  { g with
    messageModule := m.rootMessages.toList.foldl (fun r name => r.insert name m.id) g.messageModule
    enumModule := m.rootEnums.toList.foldl (fun r name => r.insert name m.id) g.enumModule }

/-- Adds an edge, at both of its ends. -/
def addEdge (g : ModuleGraph) (source target : Int) : Except Failure ModuleGraph := do
  let g ← g.modify source fun m => { m with dependsOn := m.dependsOn.insert target }
  g.modify target fun m => { m with dependedOnBy := m.dependedOnBy.insert source }

/-- Fails if a set of root types or a look-up holds a null beside other labels,
so that it cannot be listed in order. -/
def checkListable (g : ModuleGraph) : Except Failure Unit := do
  g.modules.values.forM fun m =>
    [m.rootMessages, m.rootEnums, m.dependsOnRootMessages, m.dependsOnRootEnums].forM fun s => do
      let _ ← Label.sorted s
  [g.messageModule, g.enumModule].forM fun r => do
    let _ ← Label.sortOn id r.keys

/-! ## Cycles -/

/-- The modules and their dependencies, in ascending order. -/
def digraph (g : ModuleGraph) : Digraph Int :=
  ⟨g.sortedIds.filterMap fun id => (g.modules.find? id).map fun m => (id, m.dependsOn.toList)⟩

/-- A cycle among the nodes of a graph; an edge that leads out of it is met
with a failure. -/
def cycleIn (graph : Digraph Int) (starts : List Int) : Except Failure (Option (List Int)) :=
  match graph.findCycle starts with
  | .ok found => .ok found
  | .error _ => .error .unknownEntry

/-- A cycle among the live modules. -/
def cycle? (g : ModuleGraph) : Except Failure (Option (List Int)) := cycleIn g.digraph g.sortedIds

/-- The graph in which the modules `a` and `b` are one node, that of `a`, and
the edges between them are gone. -/
def contracted (g : ModuleGraph) (a b : SchemaModule) : Digraph Int :=
  let isPair (id : Int) : Bool := id == a.id || id == b.id
  let merge (id : Int) : Int := if isPair id then a.id else id
  let nodes := OrderedSet.ofList (g.modules.keys.map merge)
  ⟨nodes.toList.filterMap fun id =>
    if id = a.id then
      some (id, ((a.dependsOn.union b.dependsOn).filter fun i => !isPair i).toList)
    else
      (g.modules.find? id).map fun m =>
        (id, (OrderedSet.ofList (m.dependsOn.toList.map merge)).toList)⟩

/-- Whether merging two modules leaves a cycle. The merge is not made: the
two are taken for one in a view of the graph. -/
def hasCycleWhenMerged (g : ModuleGraph) (a b : SchemaModule) : Except Failure Bool := do
  let graph := g.contracted a b
  return (← cycleIn graph (graph.rows.map (·.1))).isSome

end ModuleGraph

end SchemaRecovery
