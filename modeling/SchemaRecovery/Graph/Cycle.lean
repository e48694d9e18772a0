/-
  SchemaRecovery.Graph.Cycle

  Finite directed graphs as rows of successors, and the search for a cycle:
  depth first, nodes and successors tried in the order given.
-/
namespace SchemaRecovery

universe u

/-- A directed graph: each row is a node and its successors in order. The
first row of a node counts. -/
structure Digraph (α : Type u) where
  rows : List (α × List α)

namespace Digraph

variable {α : Type u} [DecidableEq α]

/-- The successors of a node that has a row. -/
def successors? (g : Digraph α) (a : α) : Option (List α) :=
  (g.rows.find? fun r => r.1 = a).map (·.2)

/-- The graph in which every node named by a row or in `nodes` has a row;
those that had none have no successors. -/
def complete (g : Digraph α) (nodes : List α) : Digraph α :=
  ⟨g.rows ++ (nodes ++ g.rows.flatMap (·.2)).map fun a => (a, [])⟩

/-- A node on the way down, with the successors that are still to be tried. -/
abbrev Frame (α : Type u) := α × List α

/-- How a search ends. -/
inductive Search (α : Type u) where
  /-- A walk that ends where it began. -/
  | cycle (path : List α)
  /-- No cycle; `done` are the nodes searched. -/
  | exhausted (done : List α)
  /-- An edge leads to a node without a row. -/
  | missing (node : α)

/-- The rows whose node is neither on the way down nor done. -/
def unvisited (g : Digraph α) (stack : List (Frame α)) (done : List α) : Nat :=
  g.rows.countP fun r => decide (¬ r.1 ∈ stack.map (·.1) ∧ ¬ r.1 ∈ done)

/-- The steps left on the way down: one per successor and one per frame. -/
def pending : List (Frame α) → Nat
  | [] => 0
  | f :: rest => f.2.length + 1 + pending rest

theorem countP_lt_of_imp {β : Type u} {p q : β → Bool} {l : List β} {x : β}
    (himp : ∀ y, q y = true → p y = true) (hx : x ∈ l) (hp : p x = true) (hq : q x = false) :
    l.countP q < l.countP p := by
  induction l with
  | nil => simp at hx
  | cons y rest ih =>
    have hle : rest.countP q ≤ rest.countP p := List.countP_mono_left fun z _ hz => himp z hz
    rcases List.mem_cons.mp hx with rfl | hmem
    · rw [List.countP_cons_of_pos hp,
        List.countP_cons_of_neg (by rw [hq]; exact Bool.false_ne_true)]
      omega
    · have hlt := ih hmem
      by_cases hqy : q y = true
      · rw [List.countP_cons_of_pos hqy, List.countP_cons_of_pos (himp y hqy)]
        omega
      · rw [List.countP_cons_of_neg hqy]
        have hgrow : rest.countP p ≤ (y :: rest).countP p :=
          List.Sublist.countP_le (List.sublist_cons_self y rest)
        omega

theorem unvisited_pop (g : Digraph α) (n : α) (ss : List α) (rest : List (Frame α))
    (done : List α) : unvisited g rest (n :: done) = unvisited g ((n, ss) :: rest) done := by
  unfold unvisited
  congr 1
  funext r
  simp only [List.map_cons, List.mem_cons]
  grind

theorem unvisited_push {g : Digraph α} {s : α} {next : List α} (stack : List (Frame α))
    {done : List α} (hrow : g.successors? s = some next) (hpath : ¬ s ∈ stack.map (·.1))
    (hdone : ¬ s ∈ done) : unvisited g ((s, next) :: stack) done < unvisited g stack done := by
  unfold successors? at hrow
  obtain ⟨row, hfind, -⟩ := Option.map_eq_some_iff.mp hrow
  have hmem := List.mem_of_find?_eq_some hfind
  have hkey : row.1 = s := by simpa using List.find?_some hfind
  refine countP_lt_of_imp (x := row) (fun y hy => ?_) hmem ?_ ?_
  · simp only [decide_eq_true_eq, List.map_cons, List.mem_cons] at hy ⊢
    exact ⟨fun h => hy.1 (Or.inr h), hy.2⟩
  · simp only [decide_eq_true_eq, hkey]
    exact ⟨hpath, hdone⟩
  · simp [hkey]

/-- The cycle closed by an edge from the top of `path` (innermost node first)
back to `s`. -/
def closing (path : List α) (s : α) : List α :=
  s :: (path.takeWhile (· ≠ s)).reverse ++ [s]

/-- Searches below the frames of `stack`, innermost first. -/
def walk (g : Digraph α) (stack : List (Frame α)) (done : List α) : Search α :=
  match stack with
  | [] => .exhausted done
  | (n, []) :: rest => walk g rest (n :: done)
  | (n, s :: ss) :: rest =>
    if s ∈ ((n, ss) :: rest).map (·.1) then .cycle (closing (((n, ss) :: rest).map (·.1)) s)
    else if s ∈ done then walk g ((n, ss) :: rest) done
    else
      match _h : g.successors? s with
      | none => .missing s
      | some next => walk g ((s, next) :: (n, ss) :: rest) done
termination_by (unvisited g stack done, pending stack)
decreasing_by
  · rw [unvisited_pop g n [] rest done]
    exact Prod.Lex.right _ (by rw [pending]; omega)
  · rw [show unvisited g ((n, ss) :: rest) done = unvisited g ((n, s :: ss) :: rest) done from rfl]
    exact Prod.Lex.right _ (by simp only [pending, List.length_cons]; omega)
  · exact Prod.Lex.left _ _ (unvisited_push ((n, ss) :: rest) _h ‹_› ‹_›)

/-- Searches from each start node that is not done. -/
def searchFrom (g : Digraph α) (done : List α) : List α → Search α
  | [] => .exhausted done
  | a :: rest =>
    if a ∈ done then searchFrom g done rest
    else
      match g.successors? a with
      | none => .missing a
      | some next =>
        match walk g [(a, next)] done with
        | .exhausted done => searchFrom g done rest
        | found => found

/-- A cycle reachable from the start nodes, as a walk that ends where it
began; `none` if there is none, an error if an edge leads to a node without a
row before a cycle is met. -/
def findCycle (g : Digraph α) (starts : List α) : Except α (Option (List α)) :=
  match searchFrom g [] starts with
  | .cycle path => .ok (some path)
  | .exhausted _ => .ok none
  | .missing a => .error a

end Digraph

end SchemaRecovery
