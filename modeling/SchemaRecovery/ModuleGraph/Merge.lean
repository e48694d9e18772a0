/-
  SchemaRecovery.ModuleGraph.Merge

  Merging a module into another of its namespace: the root types are put
  together, and every edge of the one becomes an edge of the other. The modules
  are changed in place, one after another, and a merger that fails leaves what it
  has changed up to then.
-/
import SchemaRecovery.ModuleGraph.Basic

namespace SchemaRecovery

namespace SchemaModule

/-- The module with the root types of `other` and what that needs. What it holds
it no longer needs. -/
def takeRoots (m other : SchemaModule) : SchemaModule :=
  let rootMessages := m.rootMessages.union other.rootMessages
  let rootEnums := m.rootEnums.union other.rootEnums
  { m with
    rootMessages
    rootEnums
    dependsOnRootMessages :=
      (m.dependsOnRootMessages.union other.dependsOnRootMessages).diff rootMessages
    dependsOnRootEnums := (m.dependsOnRootEnums.union other.dependsOnRootEnums).diff rootEnums }

/-- The module with the edges of `other`, edges between the two dropped. -/
def takeEdges (m other : SchemaModule) : SchemaModule :=
  { m with
    dependsOn := ((m.dependsOn.union other.dependsOn).erase m.id).erase other.id
    dependedOnBy := ((m.dependedOnBy.union other.dependedOnBy).erase m.id).erase other.id }

/-- The module, needed by `target` in place of `source`. -/
def turnDependent (source target : Int) (m : SchemaModule) : SchemaModule :=
  { m with dependedOnBy := (m.dependedOnBy.erase source).insert target }

/-- The module with `target` among its dependencies in place of `source`. -/
def turnDependency (source target : Int) (m : SchemaModule) : SchemaModule :=
  { m with dependsOn := (m.dependsOn.erase source).insert target }

end SchemaModule

/-- What a merger works on: the graph, the module that takes over, and the live
one that is taken over. The first module need not be live; if it is, the graph has
it as it was before. -/
structure Merger where
  graph : ModuleGraph
  merged : SchemaModule
  retired : SchemaModule

/-- The steps of a merger. After a failure, what it works on is as far as the steps
have come. -/
abbrev Merging := EStateM Failure Merger

namespace Merging

/-- Refuses modules of two namespaces, and a module with itself. -/
def check : Merging Unit := do
  let x ← get
  if x.merged.ns ≠ x.retired.ns then throw (.mergeAcross x.merged.ns x.retired.ns)
  else if x.merged.id = x.retired.id then throw (.mergeWithItself x.merged.id)
  else return ()

/-- Changes the module that takes over, or a live one. -/
def change (f : SchemaModule → SchemaModule) (id : Int) : Merging Unit := do
  let x ← get
  if id = x.merged.id then set { x with merged := f x.merged }
  else
    match x.graph.modify id f with
    | .error e => throw e
    | .ok graph =>
      set { x with graph, retired := if id = x.retired.id then f x.retired else x.retired }

/-- Makes the neighbours of the one module neighbours of the other. -/
def turnEdges : Merging Unit := do
  let x ← get
  x.retired.dependsOn.toList.forM (change (.turnDependent x.retired.id x.merged.id))
  let x ← get
  x.retired.dependedOnBy.toList.forM (change (.turnDependency x.retired.id x.merged.id))

/-- Enters the root types of the one module as its own, and takes the other one out
of the graph. -/
def retire : Merging Unit := modify fun x =>
  { x with
    graph := { x.graph.enterRoots x.merged with modules := x.graph.modules.erase x.retired.id }
    retired := { x.retired with removed := true } }

/-- All steps of a merger. -/
def steps : Merging Unit := do
  check
  modify fun x => { x with merged := x.merged.takeRoots x.retired }
  turnEdges
  modify fun x => { x with merged := x.merged.takeEdges x.retired }
  retire

end Merging

namespace ModuleGraph

/-- Merges the live module `other` into `m`, which need not be live; making
it so is left to the caller. -/
def absorb (g : ModuleGraph) (m other : SchemaModule) : Except Failure Merger :=
  match Merging.steps ⟨g, m, other⟩ with
  | .ok () x => .ok x
  | .error e _ => .error e

/-- Merges the live module `b` into the live module `a`, in place. -/
def mergeLive (a b : Int) : EStateM Failure ModuleGraph Unit := fun g =>
  match g.module a, g.module b with
  | .error e, _ => .error e g
  | .ok _, .error e => .error e g
  | .ok m, .ok other =>
    match Merging.steps ⟨g, m, other⟩ with
    | .ok () x => .ok () (x.graph.add x.merged)
    | .error e x => .error e (x.graph.add x.merged)

/-- The graph with the live module `b` merged into the live module `a`. -/
def merge (g : ModuleGraph) (a b : Int) : Except Failure ModuleGraph :=
  match mergeLive a b g with
  | .ok () g => .ok g
  | .error e _ => .error e

end ModuleGraph

end SchemaRecovery
