/-
  SchemaRecovery.ModuleGraph.Compaction

  Merging modules until there are few files. A module stays within one
  namespace and the graph stays free of cycles. Cycles within a namespace are
  collapsed first; then modules without dependencies, those without
  dependents, those with the same neighbours, and last any two whose merger
  makes no cycle are merged.

  The phases are written over any monad that can fail and log, with the merger
  of two modules as a parameter. The compaction merges modules as they are;
  other mergers can put on record what a phase does.
-/
import SchemaRecovery.Logged
import SchemaRecovery.ModuleGraph.Merge

namespace SchemaRecovery.ModuleGraph

/-- Modules along a path, with their namespaces. -/
def labelled (g : ModuleGraph) (path : List Int) : Except Failure (List (Int × Label)) :=
  path.mapM fun id => do return (id, (← g.module id).ns)

section Phases

variable {M : Type → Type} [Monad M] [MonadLiftT (Except Failure) M] [MonadLog M]

/-- Repeats a round as long as it leaves fewer modules. Every merger leaves one
less, so that is as long as the round finds something to merge. -/
def shrinkBy (round : ModuleGraph → M ModuleGraph) (g : ModuleGraph) : M ModuleGraph := do
  let next ← round g
  if next.size < g.size then shrinkBy round next else return next
termination_by g.size

variable (merge : ModuleGraph → Int → Int → M ModuleGraph)

/-- Merges several modules into one, first to last. -/
def mergeIntoBy (g : ModuleGraph) (first : Int) (others : List Int) : M ModuleGraph :=
  others.foldlM (fun g other => merge g first other) g

/-! ## Cycles within a namespace -/

/-- Collapses one cycle, unless it leaves its first module's namespace. -/
def collapseCycleBy (g : ModuleGraph) : M ModuleGraph := do
  match ← g.cycle? with
  | none => return g
  | some path =>
    let path ← g.labelled path
    match path.dropLast with
    | [] => return g
    | [(id, _)] => monadLift (Except.error (.selfDependency id) : Except Failure ModuleGraph)
    | (id, ns) :: others =>
      if others.all fun m => m.2 = ns then mergeIntoBy merge g id (others.map (·.1))
      else
        MonadLog.write .warning
          ("  Cannot merge cycle spanning namespaces: " ++ Failure.pathText path)
        return g

/-- Collapses cycles until none is left or one spans namespaces. -/
def mergeCyclesBy (g : ModuleGraph) : M ModuleGraph := shrinkBy (collapseCycleBy merge) g

/-! ## Groups of like modules -/

/-- Puts together the entries with one key, in the order in which the keys
first come; those without a key are left out. -/
def groupOn {α κ : Type} [DecidableEq κ] (key : α → Option κ) (l : List α) :
    Registry κ (List α) :=
  l.foldl (fun groups a =>
    match key a with
    | none => groups
    | some k => groups.insert k ((groups.find? k).getD [] ++ [a])) ∅

/-- Merges each group of modules that share a namespace and a key. -/
def mergeGroupsOnceBy {κ : Type} [DecidableEq κ] (key : SchemaModule → Option κ)
    (g : ModuleGraph) : M ModuleGraph :=
  let groups := groupOn (fun m => (key m).map fun k => (m.ns, k)) g.sortedModules
  groups.values.foldlM (fun g group =>
    match group.map (·.id) with
    | [] => pure g
    | first :: others => mergeIntoBy merge g first others) g

/-- Merges modules that share a namespace and a key, until a round finds
none. -/
def mergeGroupsBy {κ : Type} [DecidableEq κ] (key : SchemaModule → Option κ)
    (g : ModuleGraph) : M ModuleGraph :=
  shrinkBy (mergeGroupsOnceBy merge key) g

/-- The key of modules that depend on nothing. -/
def withoutDependencies (m : SchemaModule) : Option Unit :=
  if m.dependsOn.isEmpty then some () else none

/-- The key of modules that nothing depends on. -/
def withoutDependents (m : SchemaModule) : Option Unit :=
  if m.dependedOnBy.isEmpty then some () else none

/-- The key of modules with the same neighbours. -/
def sameNeighbours (m : SchemaModule) : Option (OrderedSet Int × OrderedSet Int) :=
  some (m.dependsOn, m.dependedOnBy)

/-! ## Pairs -/

/-- The pairs of an entry and a later one. -/
def pairs {α : Type} : List α → List (α × α)
  | [] => []
  | a :: rest => rest.map (fun b => (a, b)) ++ pairs rest

/-- The ids of the modules of each namespace, by namespace. -/
def idsByNamespace (g : ModuleGraph) : Except Failure (List (List Int)) := do
  let groups ← Label.sortOn (·.1) (groupOn (fun m => some m.ns) g.sortedModules).entries
  return groups.map fun e => e.2.map (·.id)

/-- Merges a pair unless one of the two has been merged in this round or the
merger would leave a cycle. -/
def mergePairBy (state : ModuleGraph × List Int) (pair : Int × Int) :
    M (ModuleGraph × List Int) := do
  let (g, merged) := state
  let (a, b) := pair
  if merged.contains a || merged.contains b then return state
  else if ← g.hasCycleWhenMerged (← g.module a) (← g.module b) then return state
  else return (← merge g a b, a :: b :: merged)

/-- Merges pairs of modules of one namespace, each module once at most. -/
def mergePairsOnceBy (g : ModuleGraph) : M ModuleGraph := do
  let groups ← g.idsByNamespace
  let (g, _) ← (groups.flatMap pairs).foldlM (mergePairBy merge) (g, [])
  return g

/-- Merges pairs until a round finds none that makes no cycle. -/
def mergeUntilCycleBy (g : ModuleGraph) : M ModuleGraph := shrinkBy (mergePairsOnceBy merge) g

/-! ## The graph in order -/

/-- Fails if an entry belongs to a module that is not live. -/
def checkOwners (g : ModuleGraph) (stranded : Label → Int → Failure)
    (owners : Registry Label Int) : Except Failure Unit := do
  let entries ← Label.sortOn (·.1) owners.entries
  entries.forM fun e =>
    if g.modules.contains e.2 then .ok () else .error (stranded e.1 e.2)

/-- Fails if a live module is marked as removed, has edges to modules that are
gone, or holds types of another namespace. -/
def checkModule (s : Schema) (g : ModuleGraph) (m : SchemaModule) : Except Failure Unit := do
  if m.removed then .error (.removedButLive m.id)
  let dangling := (m.dependsOn.union m.dependedOnBy).filter fun id => !g.modules.contains id
  if !dangling.isEmpty then .error (.danglingEdges m.id m.ns dangling.toList)
  m.rootMessages.toList.forM fun name => do
    if (← s.message name).ns ≠ m.ns then .error (.foreignMessage name m.ns m.id)
  m.rootEnums.toList.forM fun name => do
    if (← s.enum name).ns ≠ m.ns then .error (.foreignEnum name m.ns m.id)

/-- Fails unless the graph is in order and without cycles. -/
def validate (s : Schema) (g : ModuleGraph) : Except Failure Unit := do
  checkOwners g .strandedMessage g.messageModule
  checkOwners g .strandedEnum g.enumModule
  g.sortedModules.forM (checkModule s g)
  match ← g.cycle? with
  | none => return ()
  | some path => .error (.moduleCycle (← g.labelled path))

/-! ## All phases -/

/-- Runs a phase and logs what it did. -/
def phaseBy (description : Text) (run : ModuleGraph → M ModuleGraph) (g : ModuleGraph) :
    M ModuleGraph := do
  MonadLog.write .info description
  let next ← run g
  MonadLog.write .info
    ("  Modules before: " ++ toString g.size ++ ", after: " ++ toString next.size)
  return next

/-- Merges modules in all phases and checks the result. -/
def compactBy (s : Schema) (g : ModuleGraph) : M ModuleGraph := do
  let g ← phaseBy "Merging module cycles..." (mergeCyclesBy merge) g
  let g ← phaseBy "Merging modules with no dependencies..."
    (mergeGroupsBy merge withoutDependencies) g
  let g ← phaseBy "Merging modules with no dependents..."
    (mergeGroupsBy merge withoutDependents) g
  let g ← phaseBy "Merging modules with same dependencies and dependents..."
    (mergeGroupsBy merge sameNeighbours) g
  let g ← phaseBy "Merging remaining modules until a cycle is created..."
    (mergeUntilCycleBy merge) g
  MonadLog.write .info "Validating the final module graph..."
  validate s g
  MonadLog.write .info "No issues found."
  return g

end Phases

/-! ## The compaction -/

/-- Merges two modules; nothing is logged. -/
def mergeLogged (g : ModuleGraph) (a b : Int) : Logged ModuleGraph := Logged.lift (g.merge a b)

/-- Collapses cycles until none is left or one spans namespaces. -/
def mergeCycles (g : ModuleGraph) : Logged ModuleGraph := mergeCyclesBy mergeLogged g

/-- Merges modules that share a namespace and a key, until a round finds
none. -/
def mergeGroups {κ : Type} [DecidableEq κ] (key : SchemaModule → Option κ) (g : ModuleGraph) :
    Logged ModuleGraph :=
  mergeGroupsBy mergeLogged key g

/-- Merges pairs until a round finds none that makes no cycle. -/
def mergeUntilCycle (g : ModuleGraph) : Logged ModuleGraph := mergeUntilCycleBy mergeLogged g

/-- Merges modules in all phases and checks the result. -/
def compact (s : Schema) (g : ModuleGraph) : Logged ModuleGraph := compactBy mergeLogged s g

end SchemaRecovery.ModuleGraph
