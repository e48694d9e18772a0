/-
  SchemaRecovery.Proofs.CycleSearch

  The search for a cycle finds one exactly when there is one.

  The invariant of the search has two parts. Below the top of the stack lie the
  nodes on the way down, each an edge above the next (`OnPath`), and of each
  node on the way every successor is still to be tried, done, or the node just
  above (`Tried`). The nodes that are done are listed so that every edge leads
  from a node to an older one (`Settled`), so no cycle goes through them.

  All nodes on the way down are reached from the start node of the search, and
  so is the cycle that is found (`findCycle_finds_reached`).
-/
import Mathlib.Data.List.Chain
import Mathlib.Data.List.Nodup
import SchemaRecovery.Proofs.Contraction

namespace SchemaRecovery

open Relation

universe u

/-- A walk along edges that ends where it began and meets no node twice in
    between. -/
def IsCycle {α : Type u} (r : α → α → Prop) (path : List α) : Prop :=
  ∃ s mid, path = s :: (mid ++ [s]) ∧ (s :: mid).Nodup ∧ path.IsChain r

/-- The first node of a walk reaches every other. -/
theorem reaches_of_isChain {α : Type u} {r : α → α → Prop} {a x : α} {l : List α}
    (h : (a :: l).IsChain r) (hx : x ∈ a :: l) : ReflTransGen r a x := by
  refine h.induction (ReflTransGen r a) (a :: l) ?_ ?_ x hx
  · intro y z hyz hay
    exact hay.tail hyz
  · intro _
    exact .refl

/-- Any two nodes of a cycle reach each other. -/
theorem IsCycle.reaches {α : Type u} {r : α → α → Prop} {path : List α} (h : IsCycle r path)
    {x y : α} (hx : x ∈ path) (hy : y ∈ path) : ReflTransGen r x y := by
  obtain ⟨s, mid, rfl, -, hchain⟩ := h
  have hfrom : ReflTransGen r s y := reaches_of_isChain hchain hy
  -- From `x` the walk goes on to its end, which is `s`.
  obtain ⟨pre, post, hsplit⟩ := List.append_of_mem hx
  have htail : (x :: post).IsChain r := (hsplit ▸ hchain).right_of_append
  have hlast : s ∈ x :: post := by
    have hget : (s :: (mid ++ [s])).getLast? = some s := by
      rw [← List.cons_append, List.getLast?_concat]
    rw [hsplit, List.getLast?_append_cons] at hget
    exact List.mem_of_getLast? hget
  exact (reaches_of_isChain htail hlast).trans hfrom

/-- A cycle goes through the node at which it begins. -/
theorem IsCycle.exists_transGen {α : Type u} {r : α → α → Prop} {path : List α}
    (h : IsCycle r path) : ∃ s ∈ path, TransGen r s s := by
  obtain ⟨s, mid, rfl, -, hchain⟩ := id h
  refine ⟨s, List.mem_cons_self, ?_⟩
  cases mid with
  | nil => exact .single (List.isChain_pair.mp hchain)
  | cons m mid =>
      have hedge : r s m := (List.isChain_cons_cons.mp hchain).1
      have hback : ReflTransGen r m s := h.reaches (by simp) (by simp)
      exact .head' hedge hback

theorem IsCycle.not_acyclic {α : Type u} {r : α → α → Prop} {path : List α}
    (h : IsCycle r path) : ¬ Acyclic r := by
  intro hacyclic
  obtain ⟨s, -, hcycle⟩ := h.exists_transGen
  exact hacyclic s hcycle

/-- A cycle as a list: it comes back to its first node, and only then meets a
    node again. -/
theorem IsCycle.closes {α : Type u} {r : α → α → Prop} {path : List α} (h : IsCycle r path) :
    2 ≤ path.length ∧ path.head? = path.getLast? ∧ path.dropLast.Nodup ∧ path.IsChain r := by
  obtain ⟨s, mid, rfl, hnodup, hchain⟩ := h
  refine ⟨?_, ?_, ?_, hchain⟩
  · rw [List.length_cons, List.length_append, List.length_singleton]
    omega
  · rw [← List.cons_append, List.getLast?_concat]
    rfl
  · rw [← List.cons_append, List.dropLast_concat]
    exact hnodup

namespace Digraph

variable {α : Type u} [DecidableEq α]

/-- An edge from a node that has a row. -/
def Edge (g : Digraph α) (a b : α) : Prop := ∃ next, g.successors? a = some next ∧ b ∈ next

/-! ## Nodes that are done -/

/-- No node is listed twice, and every edge leads to an older node. -/
def Settled (g : Digraph α) : List α → Prop
  | [] => True
  | n :: done => n ∉ done ∧ (∀ b, g.Edge n b → b ∈ done) ∧ Settled g done

theorem Settled.closed {g : Digraph α} {done : List α} (h : g.Settled done) {a b : α}
    (ha : a ∈ done) (hab : g.Edge a b) : b ∈ done := by
  induction done with
  | nil => exact absurd ha List.not_mem_nil
  | cons n done ih =>
      obtain ⟨-, hedges, hrest⟩ := h
      rcases List.mem_cons.mp ha with rfl | ha
      · exact List.mem_cons_of_mem _ (hedges b hab)
      · exact List.mem_cons_of_mem _ (ih hrest ha)

theorem Settled.reached {g : Digraph α} {done : List α} (h : g.Settled done) {a b : α}
    (ha : a ∈ done) (hab : ReflTransGen g.Edge a b) : b ∈ done := by
  induction hab with
  | refl => exact ha
  | tail _ hedge ih => exact h.closed ih hedge

/-- No cycle goes through a node that is done. -/
theorem Settled.no_cycle {g : Digraph α} {done : List α} (h : g.Settled done) {a : α}
    (ha : a ∈ done) : ¬ TransGen g.Edge a a := by
  induction done with
  | nil => exact absurd ha List.not_mem_nil
  | cons n done ih =>
      obtain ⟨hnew, hedges, hrest⟩ := h
      rcases List.mem_cons.mp ha with rfl | ha
      -- The successors of the newest node were done before it, and so is what they reach.
      · intro hcycle
        obtain ⟨b, hab, hba⟩ := TransGen.head'_iff.mp hcycle
        exact hnew (hrest.reached (hedges b hab) hba)
      · exact ih hrest ha

/-! ## The way down -/

/-- The nodes of the stack, innermost first, each an edge below the next. -/
def OnPath (g : Digraph α) (path : List α) : Prop :=
  path.Nodup ∧ path.IsChain fun inner outer => g.Edge outer inner

/-- Of each frame, every successor is still to be tried, done, or the node
    of the frame above it. -/
def Tried (g : Digraph α) (done : List α) : Option α → List (Frame α) → Prop
  | _, [] => True
  | above, (n, ss) :: rest =>
    (∃ next, g.successors? n = some next ∧ (∀ s ∈ ss, s ∈ next) ∧
      ∀ s ∈ next, s ∈ ss ∨ s ∈ done ∨ above = some s) ∧
    Tried g done (some n) rest

/-- What holds whenever the search goes on. -/
structure SearchInv (g : Digraph α) (stack : List (Frame α)) (done : List α) : Prop where
  onPath : g.OnPath (stack.map (·.1))
  fresh : ∀ n ∈ stack.map (·.1), n ∉ done
  tried : g.Tried done none stack
  settled : g.Settled done

theorem Tried.mono {g : Digraph α} {done done' : List α} (hsub : ∀ a ∈ done, a ∈ done')
    {above : Option α} {stack : List (Frame α)} (h : g.Tried done above stack) :
    g.Tried done' above stack := by
  induction stack generalizing above with
  | nil => trivial
  | cons frame rest ih =>
      obtain ⟨⟨next, hrow, hss, hnext⟩, hrest⟩ := h
      refine ⟨⟨next, hrow, hss, fun s hs => ?_⟩, ih hrest⟩
      rcases hnext s hs with h | h | h
      · exact Or.inl h
      · exact Or.inr (Or.inl (hsub s h))
      · exact Or.inr (Or.inr h)

/-- A node that is done no longer counts as the one above. -/
theorem Tried.settle_above {g : Digraph α} {done : List α} {n : α}
    {stack : List (Frame α)} (h : g.Tried done (some n) stack) (hn : n ∈ done) :
    g.Tried done none stack := by
  cases stack with
  | nil => trivial
  | cons frame rest =>
      obtain ⟨⟨next, hrow, hss, hnext⟩, hrest⟩ := h
      refine ⟨⟨next, hrow, hss, fun s hs => ?_⟩, hrest⟩
      rcases hnext s hs with h | h | h
      · exact Or.inl h
      · exact Or.inr (Or.inl h)
      · cases h
        exact Or.inr (Or.inl hn)

/-! ## Steps of the search -/

/-- The innermost node is done when no successor is left. -/
theorem SearchInv.pop {g : Digraph α} {n : α} {rest : List (Frame α)} {done : List α}
    (h : g.SearchInv ((n, []) :: rest) done) : g.SearchInv rest (n :: done) := by
  obtain ⟨hpath, hfresh, ⟨⟨next, hrow, -, hnext⟩, htried⟩, hsettled⟩ := h
  rw [List.map_cons] at hpath hfresh
  have hsub : ∀ a ∈ done, a ∈ n :: done := fun a ha => List.mem_cons_of_mem n ha
  -- The node above is done now, so the frame below needs no exception for it.
  refine ⟨⟨hpath.1.of_cons, hpath.2.tail⟩, ?_, ?_, ?_, ?_, hsettled⟩
  · intro m hm hdone
    rcases List.mem_cons.mp hdone with rfl | hdone
    · exact (List.nodup_cons.mp hpath.1).1 hm
    · exact hfresh m (List.mem_cons_of_mem _ hm) hdone
  · exact (htried.mono hsub).settle_above List.mem_cons_self
  · exact hfresh n List.mem_cons_self
  · rintro b ⟨next', hrow', hb⟩
    rw [hrow, Option.some.injEq] at hrow'
    rcases hnext b (hrow' ▸ hb) with h | h | h
    · exact absurd h List.not_mem_nil
    · exact h
    · cases h

/-- A successor that is done is passed over. -/
theorem SearchInv.skip {g : Digraph α} {n s : α} {ss : List α} {rest : List (Frame α)}
    {done : List α} (h : g.SearchInv ((n, s :: ss) :: rest) done) (hs : s ∈ done) :
    g.SearchInv ((n, ss) :: rest) done := by
  obtain ⟨hpath, hfresh, ⟨⟨next, hrow, hss, hnext⟩, htried⟩, hsettled⟩ := h
  refine ⟨hpath, hfresh, ⟨⟨next, hrow, ?_, ?_⟩, htried⟩, hsettled⟩
  · intro x hx
    exact hss x (List.mem_cons_of_mem s hx)
  · intro x hx
    rcases hnext x hx with h | h | h
    · rcases List.mem_cons.mp h with rfl | h
      · exact Or.inr (Or.inl hs)
      · exact Or.inl h
    · exact Or.inr (Or.inl h)
    · cases h

/-- The search goes down to a successor that is new. -/
theorem SearchInv.push {g : Digraph α} {n s : α} {ss next : List α} {rest : List (Frame α)}
    {done : List α} (h : g.SearchInv ((n, s :: ss) :: rest) done)
    (hrow : g.successors? s = some next) (hpathNew : s ∉ ((n, ss) :: rest).map (·.1))
    (hdoneNew : s ∉ done) : g.SearchInv ((s, next) :: (n, ss) :: rest) done := by
  obtain ⟨hpath, hfresh, ⟨⟨nextn, hrown, hss, hnext⟩, htried⟩, hsettled⟩ := h
  -- The successor becomes the node above the frame that it was taken from.
  have hedge : g.Edge n s := ⟨nextn, hrown, hss s List.mem_cons_self⟩
  refine ⟨⟨?_, ?_⟩, ?_, ⟨?_, ?_, htried⟩, hsettled⟩
  · exact List.nodup_cons.mpr ⟨hpathNew, hpath.1⟩
  · exact hpath.2.cons_cons hedge
  · intro m hm
    rcases List.mem_cons.mp hm with rfl | hm
    · exact hdoneNew
    · exact hfresh m hm
  · exact ⟨next, hrow, fun x hx => hx, fun x hx => Or.inl hx⟩
  · refine ⟨nextn, hrown, fun x hx => hss x (List.mem_cons_of_mem s hx), fun x hx => ?_⟩
    rcases hnext x hx with h | h | h
    · rcases List.mem_cons.mp h with rfl | h
      · exact Or.inr (Or.inr rfl)
      · exact Or.inl h
    · exact Or.inr (Or.inl h)
    · cases h

/-- The part of a list before the first `s`. -/
theorem takeWhile_ne_append {pre post : List α} {s : α} (hpre : s ∉ pre) :
    (pre ++ s :: post).takeWhile (· ≠ s) = pre := by
  have hall : ∀ x ∈ pre, decide (x ≠ s) = true := by
    intro x hx
    exact decide_eq_true fun hxs => hpre (hxs ▸ hx)
  rw [List.takeWhile_append_of_pos hall, List.takeWhile_cons_of_neg (by simp), List.append_nil]

/-- An edge back to a node on the way closes a cycle. -/
theorem isCycle_closing {g : Digraph α} {n s : α} {path : List α} (hpath : g.OnPath (n :: path))
    (hedge : g.Edge n s) (hs : s ∈ n :: path) : IsCycle g.Edge (closing (n :: path) s) := by
  obtain ⟨hnodup, hchain⟩ := hpath
  -- `pre` are the nodes below `s`, innermost first.
  obtain ⟨pre, post, hsplit, hpre⟩ := List.eq_append_cons_of_mem hs
  have hclosing : closing (n :: path) s = s :: (pre.reverse ++ [s]) := by
    unfold closing
    rw [hsplit, takeWhile_ne_append hpre]
    rfl
  have hfront : pre ++ [s] <+: n :: path := ⟨post, by rw [hsplit, List.append_assoc]; rfl⟩
  -- The way down from `s`, outermost node first, ends in `n`.
  have hdown : (s :: pre.reverse).IsChain g.Edge := by
    have hpre : (pre ++ [s]).IsChain fun a b => g.Edge b a := List.IsChain.prefix hchain hfront
    have hrev := List.isChain_reverse.mpr hpre
    rw [List.reverse_append] at hrev
    exact hrev
  have hlast : (s :: pre.reverse).getLast? = some n := by
    have hhead : (pre ++ [s]).head? = (pre ++ s :: post).head? := by
      cases pre <;> rfl
    have hrev : s :: pre.reverse = (pre ++ [s]).reverse := by
      rw [List.reverse_append]
      rfl
    rw [hrev, List.getLast?_reverse, hhead, ← hsplit, List.head?_cons]
  refine ⟨s, pre.reverse, hclosing, ?_, ?_⟩
  · have hsub : (pre ++ [s]).Nodup := hnodup.sublist hfront.sublist
    have hrev := List.nodup_reverse.mpr hsub
    rw [List.reverse_append] at hrev
    exact hrev
  · rw [hclosing, ← List.cons_append]
    refine hdown.append (List.isChain_singleton s) ?_
    intro x hx y hy
    rw [hlast] at hx
    cases hx
    cases hy
    exact hedge

/-! ## The whole search -/

/-- What the end of a search tells: a cycle, or that `nodes` are done, or a
    node without a row that a start or an edge led to. -/
def Search.Tells (g : Digraph α) (starts nodes : List α) : Search α → Prop
  | .cycle path => IsCycle g.Edge path
  | .exhausted done => g.Settled done ∧ ∀ a ∈ nodes, a ∈ done
  | .missing a => g.successors? a = none ∧ (a ∈ starts ∨ ∃ b, g.Edge b a)

theorem Search.Tells.mono {g : Digraph α} {starts starts' nodes nodes' : List α}
    {result : Search α} (h : result.Tells g starts nodes)
    (hstarts : ∀ a ∈ starts, a ∈ starts') (hnodes : ∀ a ∈ nodes', a ∈ nodes) :
    result.Tells g starts' nodes' := by
  cases result with
  | cycle path => exact h
  | exhausted done => exact ⟨h.1, fun a ha => h.2 a (hnodes a ha)⟩
  | missing a => exact ⟨h.1, h.2.imp (hstarts a) id⟩

/-- The search below a stack ends with its nodes done, unless it meets a cycle
    or a missing row. -/
theorem walk_tells {g : Digraph α} {stack : List (Frame α)} {done : List α}
    (hinv : g.SearchInv stack done) :
    (walk g stack done).Tells g [] (stack.map (·.1) ++ done) := by
  -- One case for each move of the search, with the invariant of the move.
  fun_induction walk g stack done with
  | case1 done => exact ⟨hinv.settled, fun a ha => ha⟩
  | case2 done n rest ih =>
      refine (ih hinv.pop).mono (fun a ha => ha) fun a ha => ?_
      grind
  | case3 done n s ss rest hback =>
      obtain ⟨⟨next, hrow, hss, -⟩, -⟩ := hinv.tried
      exact isCycle_closing hinv.onPath ⟨next, hrow, hss s List.mem_cons_self⟩ hback
  | case4 done n s ss rest hback hdone ih => exact ih (hinv.skip hdone)
  | case5 done n s ss rest hback hdone hrow =>
      obtain ⟨⟨next, hrown, hss, -⟩, -⟩ := hinv.tried
      exact ⟨hrow, Or.inr ⟨n, next, hrown, hss s List.mem_cons_self⟩⟩
  | case6 done n s ss rest hback hdone next hrow ih =>
      refine (ih (hinv.push hrow hback hdone)).mono (fun a ha => ha) fun a ha => ?_
      exact List.mem_cons_of_mem s ha

/-- A search from one node that is not done yet may begin. -/
theorem SearchInv.start {g : Digraph α} {a : α} {next done : List α}
    (hrow : g.successors? a = some next) (ha : a ∉ done) (hdone : g.Settled done) :
    g.SearchInv [(a, next)] done := by
  refine ⟨⟨List.nodup_singleton a, List.isChain_singleton a⟩, ?_, ⟨?_, trivial⟩, hdone⟩
  · intro n hn
    rw [List.mem_singleton.mp hn]
    exact ha
  · exact ⟨next, hrow, fun s hs => hs, fun s hs => Or.inl hs⟩

theorem searchFrom_tells {g : Digraph α} {starts done : List α} (hdone : g.Settled done) :
    (searchFrom g done starts).Tells g starts (starts ++ done) := by
  induction starts generalizing done with
  | nil => exact ⟨hdone, fun a ha => ha⟩
  | cons a rest ih =>
      rw [searchFrom]
      have hrest : ∀ x ∈ rest, x ∈ a :: rest := fun x hx => List.mem_cons_of_mem a hx
      -- A start node that is done needs no search of its own.
      by_cases ha : a ∈ done
      · rw [if_pos ha]
        refine (ih hdone).mono hrest fun x hx => ?_
        grind
      · rw [if_neg ha]
        cases hrow : g.successors? a with
        | none => exact ⟨hrow, Or.inl List.mem_cons_self⟩
        | some next =>
            have hwalk := walk_tells (SearchInv.start hrow ha hdone)
            dsimp only
            revert hwalk
            cases walk g [(a, next)] done with
            | cycle path => exact fun hwalk => hwalk
            | missing x =>
                exact fun hwalk => ⟨hwalk.1, Or.inr (hwalk.2.resolve_left List.not_mem_nil)⟩
            | exhausted done' =>
                intro hwalk
                refine (ih hwalk.1).mono hrest fun x hx => ?_
                have hmem := hwalk.2 x
                grind

/-- If every node that is met has a row, the search either shows a cycle or
    tells that none is reached from the start nodes. -/
theorem findCycle_decides {g : Digraph α} {starts : List α}
    (hstarts : ∀ a ∈ starts, g.successors? a ≠ none)
    (hclosed : ∀ a b, g.Edge a b → g.successors? b ≠ none) :
    (∃ path, g.findCycle starts = .ok (some path) ∧ IsCycle g.Edge path) ∨
      (g.findCycle starts = .ok none ∧
        ∀ a ∈ starts, ∀ b, ReflTransGen g.Edge a b → ¬ TransGen g.Edge b b) := by
  have hnone : g.Settled ([] : List α) := trivial
  have htells : (searchFrom g [] starts).Tells g starts (starts ++ []) := searchFrom_tells hnone
  unfold findCycle
  revert htells
  cases searchFrom g [] starts with
  | cycle path => exact fun htells => Or.inl ⟨path, rfl, htells⟩
  | exhausted done =>
      intro htells
      refine Or.inr ⟨rfl, fun a ha b hab => ?_⟩
      have hmem : a ∈ done := htells.2 a (List.mem_append_left [] ha)
      exact htells.1.no_cycle (htells.1.reached hmem hab)
  | missing a =>
      -- Neither a start node nor the end of an edge lacks a row.
      rintro ⟨hnone, ha | ⟨b, hba⟩⟩
      · exact absurd hnone (hstarts a ha)
      · exact absurd hnone (hclosed b a hba)

/-! ## What the cycle is reached from -/

/-- The nodes of a closed cycle are on the way down. -/
theorem mem_of_mem_closing {path : List α} {s x : α} (hs : s ∈ path) (hx : x ∈ closing path s) :
    x ∈ path := by
  unfold closing at hx
  rw [List.mem_append, List.mem_cons, List.mem_reverse, List.mem_singleton] at hx
  rcases hx with (rfl | hx) | rfl
  · exact hs
  · exact (List.takeWhile_sublist _).subset hx
  · exact hs

/-- A cycle that is met below nodes that `a` reaches is reached by `a`. -/
theorem reached_of_walk {g : Digraph α} {a : α} {stack : List (Frame α)} {done path : List α}
    (hinv : g.SearchInv stack done) (hstack : ∀ n ∈ stack.map (·.1), ReflTransGen g.Edge a n)
    (h : walk g stack done = .cycle path) : ∀ x ∈ path, ReflTransGen g.Edge a x := by
  -- Each move keeps the nodes on the way down within reach.
  fun_induction walk g stack done with
  | case1 done => cases h
  | case2 done n rest ih =>
      exact ih hinv.pop (fun m hm => hstack m (List.mem_cons_of_mem n hm)) h
  | case3 done n s ss rest hback =>
      cases h
      exact fun x hx => hstack x (mem_of_mem_closing hback hx)
  | case4 done n s ss rest hback hdone ih => exact ih (hinv.skip hdone) hstack h
  | case5 done n s ss rest hback hdone hrow => cases h
  | case6 done n s ss rest hback hdone next hrow ih =>
      obtain ⟨⟨nextn, hrown, hss, -⟩, -⟩ := hinv.tried
      have hedge : g.Edge n s := ⟨nextn, hrown, hss s List.mem_cons_self⟩
      refine ih (hinv.push hrow hback hdone) (fun m hm => ?_) h
      rcases List.mem_cons.mp hm with rfl | hm
      · exact (hstack n List.mem_cons_self).tail hedge
      · exact hstack m hm

/-- A cycle that the search finds is reached from a start node. -/
theorem reached_of_searchFrom {g : Digraph α} {starts done path : List α}
    (hdone : g.Settled done) (h : searchFrom g done starts = .cycle path) :
    ∃ a ∈ starts, ∀ x ∈ path, ReflTransGen g.Edge a x := by
  induction starts generalizing done with
  | nil => cases h
  | cons a rest ih =>
      rw [searchFrom] at h
      split at h
      · obtain ⟨b, hb, hreach⟩ := ih hdone h
        exact ⟨b, List.mem_cons_of_mem a hb, hreach⟩
      · rename_i ha
        split at h
        · cases h
        · rename_i next hrow
          have hinv := SearchInv.start hrow ha hdone
          have htells := walk_tells hinv
          revert htells
          -- The cycle is met in the search from `a` or in a later one.
          cases hwalk : walk g [(a, next)] done with
          | cycle found =>
              intro _
              rw [hwalk] at h
              cases h
              refine ⟨a, List.mem_cons_self, reached_of_walk hinv (fun n hn => ?_) hwalk⟩
              rw [List.mem_singleton.mp hn]
          | missing x =>
              rw [hwalk] at h
              cases h
          | exhausted done' =>
              intro htells
              rw [hwalk] at h
              obtain ⟨b, hb, hreach⟩ := ih htells.1 h
              exact ⟨b, List.mem_cons_of_mem a hb, hreach⟩

/-! ## Graphs in which every node has a row -/

/-- The successors in a graph with a row for each `a` of a list at which
    `succ` has a value. -/
theorem successors?_tabulate (l : List α) (succ : α → Option (List α)) (a : α) :
    (Digraph.mk (l.filterMap fun b => (succ b).map fun next => (b, next))).successors? a =
      if a ∈ l then succ a else none := by
  unfold successors?
  dsimp only
  induction l with
  | nil => rfl
  | cons b rest ih =>
      cases hsucc : succ b with
      | none =>
          rw [List.filterMap_cons_none (by rw [hsucc]; rfl), ih]
          by_cases hab : a = b
          · rw [hab, hsucc]
            simp
          · simp [hab]
      | some next =>
          rw [List.filterMap_cons_some (b := (b, next)) (by rw [hsucc]; rfl)]
          by_cases hab : a = b
          · rw [List.find?_cons_of_pos (by simp [hab]), if_pos (by simp [hab]), hab, hsucc]
            rfl
          · rw [List.find?_cons_of_neg (by simpa using Ne.symm hab), ih]
            simp [hab]

/-- A node that had no row gets one if it is named. -/
theorem successors?_complete (g : Digraph α) (nodes : List α) (a : α) :
    (g.complete nodes).successors? a = (g.successors? a).or
      (if a ∈ nodes ++ g.rows.flatMap (·.2) then some [] else none) := by
  have hadded := successors?_tabulate (nodes ++ g.rows.flatMap (·.2)) (fun _ => some []) a
  simp only [Option.map_some, List.filterMap_eq_map'] at hadded
  rw [← hadded]
  unfold successors? complete
  dsimp only
  rw [List.find?_append]
  cases g.rows.find? fun r => decide (r.1 = a) with
  | some row => rfl
  | none => rfl

/-- What is added has no edges. -/
theorem edge_complete {g : Digraph α} {nodes : List α} {a b : α} :
    (g.complete nodes).Edge a b ↔ g.Edge a b := by
  unfold Edge
  rw [successors?_complete]
  cases g.successors? a with
  | some next => rfl
  | none =>
    split <;> simp

/-- If every node that is met has a row, the search answers whether a cycle is
    reached from the start nodes, and shows one that is. -/
theorem findCycle_answers {g : Digraph α} {starts : List α}
    (hstarts : ∀ a ∈ starts, g.successors? a ≠ none)
    (hclosed : ∀ a b, g.Edge a b → g.successors? b ≠ none) :
    ∃ found, g.findCycle starts = .ok found ∧
      (found = none ↔
        ∀ a ∈ starts, ∀ b, ReflTransGen g.Edge a b → ¬ TransGen g.Edge b b) ∧
      ∀ path, found = some path → IsCycle g.Edge path ∧
        ∃ a ∈ starts, ∀ x ∈ path, ReflTransGen g.Edge a x := by
  rcases findCycle_decides hstarts hclosed with ⟨path, hfound, hpath⟩ | ⟨hfound, hnone⟩
  · have hreach : ∃ a ∈ starts, ∀ x ∈ path, ReflTransGen g.Edge a x := by
      have hdone : g.Settled [] := trivial
      refine reached_of_searchFrom hdone ?_
      unfold findCycle at hfound
      split at hfound
      · rename_i hsearch
        cases hfound
        exact hsearch
      · cases hfound
      · cases hfound
    refine ⟨some path, hfound, ⟨fun h => (Option.some_ne_none path h).elim, fun hno => ?_⟩, ?_⟩
    · -- The cycle that was found is one within reach.
      obtain ⟨a, ha, hall⟩ := hreach
      obtain ⟨s, hs, hcycle⟩ := hpath.exists_transGen
      exact absurd hcycle (hno a ha s (hall s hs))
    · intro path' heq
      cases heq
      exact ⟨hpath, hreach⟩
  · refine ⟨none, hfound, ⟨fun _ => hnone, fun _ => rfl⟩, ?_⟩
    intro path heq
    cases heq

/-- In every graph, from any start nodes and in any order of them and of the
    successors: the search finds nothing exactly if no cycle is reached from the
    start nodes. What it finds is a walk along edges that comes back to its first
    node, meets no node twice before, and is reached from the start nodes. -/
theorem findCycle_finds_reached (g : Digraph α) (starts : List α) :
    ∃ found, (g.complete starts).findCycle starts = .ok found ∧
      (found = none ↔
        ∀ a ∈ starts, ∀ b, ReflTransGen g.Edge a b → ¬ TransGen g.Edge b b) ∧
      ∀ path, found = some path →
        2 ≤ path.length ∧ path.head? = path.getLast? ∧ path.dropLast.Nodup ∧
        path.IsChain g.Edge ∧ ∀ x ∈ path, ∃ a ∈ starts, ReflTransGen g.Edge a x := by
  have hedge : (g.complete starts).Edge = g.Edge := by
    funext a b
    exact propext edge_complete
  have hrow : ∀ a, a ∈ starts ++ g.rows.flatMap (·.2) →
      (g.complete starts).successors? a ≠ none := by
    intro a ha
    rw [successors?_complete, if_pos ha]
    cases g.successors? a <;> simp
  have hclosed : ∀ a b, (g.complete starts).Edge a b →
      (g.complete starts).successors? b ≠ none := by
    rw [hedge]
    rintro a b ⟨next, hnext, hb⟩
    refine hrow b (List.mem_append_right _ (List.mem_flatMap.mpr ?_))
    unfold successors? at hnext
    obtain ⟨row, hfind, rfl⟩ := Option.map_eq_some_iff.mp hnext
    exact ⟨row, List.mem_of_find?_eq_some hfind, hb⟩
  obtain ⟨found, hfound, hnone, hpath⟩ :=
    findCycle_answers (fun a ha => hrow a (List.mem_append_left _ ha)) hclosed
  rw [hedge] at hnone hpath
  refine ⟨found, hfound, hnone, fun path heq => ?_⟩
  obtain ⟨hcycle, a, ha, hreach⟩ := hpath path heq
  obtain ⟨hlen, hends, hnodup, hchain⟩ := hcycle.closes
  exact ⟨hlen, hends, hnodup, hchain, fun x hx => ⟨a, ha, hreach x hx⟩⟩

/-- The cycle is met from the second start node, after the first was searched. -/
example : ((⟨[(1, [2]), (2, []), (3, [2, 4, 4]), (4, [3])]⟩ : Digraph Nat).complete
    [1, 3, 1]).findCycle [1, 3, 1] = .ok (some [3, 4, 3]) := by
  cbv

end Digraph

end SchemaRecovery
