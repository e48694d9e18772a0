/-
  SchemaRecovery.Proofs.Contraction

  Directed graphs as relations, and what becomes of their cycles when nodes are
  taken for one.

    * `joined a b r`      — `b` is renamed to `a`, and edges from `a` to `a`
                            are gone; what one merger of modules does.
    * `quotientBy cls r`  — nodes of one class are one node; what many mergers
                            do together.

  Contraction keeps reachability, so it never breaks a cycle that leaves its
  class (`reaches_quotientBy`). It makes a new cycle only if a path leaves the
  joined pair and comes back to it (`acyclic_joined`); sinks, sources and twins
  have no such path. Last, a pair of one class that can be joined exists in
  every class of an acyclic quotient (`exists_joinable_pair`).
-/
import Mathlib.Logic.Relation
import SchemaRecovery.Graph.Cycle

namespace SchemaRecovery

open Relation

universe u v w

variable {α : Type u} {β : Type v} {γ : Type w}

/-- No node reaches itself by one or more edges. -/
def Acyclic (r : α → α → Prop) : Prop := ∀ a, ¬ TransGen r a a

/-- The graph of the classes of `cls`; edges inside a class are dropped. -/
def quotientBy (cls : α → β) (r : α → α → Prop) (x y : β) : Prop :=
  x ≠ y ∧ ∃ i j, r i j ∧ cls i = x ∧ cls j = y

/-! ## Quotients -/

/-- Without loops, the graph is its own quotient by classes of one node. -/
theorem quotientBy_id {r : α → α → Prop} (hloop : ∀ x, ¬ r x x) (x y : α) :
    quotientBy id r x y ↔ r x y := by
  constructor
  · rintro ⟨-, i, j, hij, rfl, rfl⟩
    exact hij
  · intro hxy
    refine ⟨?_, x, y, hxy, rfl, rfl⟩
    rintro rfl
    exact hloop x hxy

/-- A quotient of a quotient is a quotient by the composed classes. -/
theorem quotientBy_quotientBy (cls : α → β) (cls' : β → γ) (r : α → α → Prop) (x y : γ) :
    quotientBy cls' (quotientBy cls r) x y ↔ quotientBy (cls' ∘ cls) r x y := by
  constructor
  · rintro ⟨hne, _, _, ⟨-, i, j, hij, rfl, rfl⟩, rfl, rfl⟩
    exact ⟨hne, i, j, hij, rfl, rfl⟩
  · rintro ⟨hne, i, j, hij, rfl, rfl⟩
    refine ⟨hne, cls i, cls j, ⟨?_, i, j, hij, rfl, rfl⟩, rfl, rfl⟩
    intro heq
    exact hne (congrArg cls' heq)

/-- Contraction keeps reachability. -/
theorem reaches_quotientBy (cls : α → β) {r : α → α → Prop} {x y : α}
    (hxy : ReflTransGen r x y) : ReflTransGen (quotientBy cls r) (cls x) (cls y) := by
  induction hxy with
  | refl => exact .refl
  | @tail y z _ hyz ih =>
      by_cases heq : cls y = cls z
      · rw [← heq]
        exact ih
      · exact ih.tail ⟨heq, y, z, hyz, rfl, rfl⟩

/-- A path between classes whose members all reach each other is a path
    between the members. -/
theorem reaches_of_reaches_quotientBy {cls : α → β} {r : α → α → Prop}
    (hmutual : ∀ i j, cls i = cls j → ReflTransGen r i j) {x y : α}
    (hxy : ReflTransGen (quotientBy cls r) (cls x) (cls y)) : ReflTransGen r x y := by
  generalize hv : cls y = v at hxy
  induction hxy generalizing y with
  | refl => exact hmutual x y hv.symm
  | tail _ hedge ih =>
      obtain ⟨-, i, j, hij, rfl, hj⟩ := hedge
      exact ((ih rfl).tail hij).trans (hmutual j y (hj.trans hv.symm))

/-- Fewer edges make no cycle. -/
theorem Acyclic.mono {r q : α → α → Prop} (hq : Acyclic q) (hrq : ∀ a b, r a b → q a b) :
    Acyclic r := by
  intro a ha
  exact hq a (TransGen.mono hrq a a ha)

/-! ## Pairs that can be joined -/

section Joinable

variable {a b : α} {r : α → α → Prop}

/-- A node that one of the pair reaches and that reaches the other, so that
    joining the two closes a cycle. -/
def Between (r : α → α → Prop) (a b c : α) : Prop :=
  TransGen r a c ∧ TransGen r c b

/-- No path leaves the pair of `a` and `b` and comes back to it. -/
def Joinable (r : α → α → Prop) (a b : α) : Prop :=
  ∀ c, c ≠ a → c ≠ b → ¬ Between r a b c ∧ ¬ Between r b a c

theorem Joinable.symm (h : Joinable r a b) : Joinable r b a :=
  fun c hcb hca => (h c hca hcb).symm

/-- Two sinks can be joined: no path leaves them. -/
theorem Joinable.of_sinks (ha : ∀ c, ¬ r a c) (hb : ∀ c, ¬ r b c) : Joinable r a b := by
  have hsink : ∀ x, (∀ c, ¬ r x c) → ∀ c, ¬ TransGen r x c := by
    intro x hx c hc
    obtain ⟨d, hxd, -⟩ := TransGen.head'_iff.mp hc
    exact hx d hxd
  intro c _ _
  exact ⟨fun h => hsink a ha c h.1, fun h => hsink b hb c h.1⟩

/-- Two sources can be joined: no path comes back to them. -/
theorem Joinable.of_sources (ha : ∀ c, ¬ r c a) (hb : ∀ c, ¬ r c b) : Joinable r a b := by
  have hsource : ∀ x, (∀ c, ¬ r c x) → ∀ c, ¬ TransGen r c x := by
    intro x hx c hc
    obtain ⟨d, -, hdx⟩ := TransGen.tail'_iff.mp hc
    exact hx d hdx
  intro c _ _
  exact ⟨fun h => hsource b hb c h.2, fun h => hsource a ha c h.2⟩

/-- Two nodes with the same successors can be joined: a path from one to the
    other would also be one from the other to itself. -/
theorem Joinable.of_same_successors (hacyclic : Acyclic r) (h : ∀ c, r a c ↔ r b c) :
    Joinable r a b := by
  have hstart : ∀ x y, (∀ c, r x c → r y c) → ∀ c, TransGen r x c → TransGen r y c := by
    intro x y hxy c hc
    obtain ⟨d, hxd, hdc⟩ := TransGen.head'_iff.mp hc
    exact TransGen.head'_iff.mpr ⟨d, hxy d hxd, hdc⟩
  intro c _ _
  refine ⟨fun hc => ?_, fun hc => ?_⟩
  · exact hacyclic b ((hstart a b (fun c => (h c).mp) c hc.1).trans hc.2)
  · exact hacyclic a ((hstart b a (fun c => (h c).mpr) c hc.1).trans hc.2)

/-- On the way from `a` to `b` some node comes first: nothing lies between it
    and `a`. -/
theorem exists_next_node (hacyclic : Acyclic r) {nodes : List α}
    (hnodes : ∀ x y, r x y → y ∈ nodes) (hab : TransGen r a b) :
    ∃ c, TransGen r a c ∧ ReflTransGen r c b ∧ ∀ d, ¬ Between r a c d := by
  classical
  -- Induction on the number of nodes between the two.
  generalize hn : nodes.countP (fun d => decide (Between r a b d)) = n
  induction n using Nat.strongRecOn generalizing b with
  | _ n ih =>
      by_cases hnone : ∀ d, ¬ Between r a b d
      · exact ⟨b, hab, .refl, hnone⟩
      · obtain ⟨d, hd⟩ := Classical.not_forall_not.mp hnone
        have hmem : d ∈ nodes := by
          obtain ⟨e, -, hed⟩ := TransGen.tail'_iff.mp hd.1
          exact hnodes e d hed
        -- Fewer nodes lie between `a` and `d` than between `a` and `b`.
        have hlt : nodes.countP (fun e => decide (Between r a d e)) < n := by
          rw [← hn]
          refine Digraph.countP_lt_of_imp (x := d) ?_ hmem (decide_eq_true hd) ?_
          · intro e he
            have hbetween := of_decide_eq_true he
            exact decide_eq_true ⟨hbetween.1, hbetween.2.trans hd.2⟩
          · exact decide_eq_false fun h => hacyclic d h.2
        obtain ⟨c, hac, hcd, hfirst⟩ := ih _ hlt hd.1 rfl
        exact ⟨c, hac, hcd.trans hd.2.to_reflTransGen, hfirst⟩

/-- A path that comes back to its class never left it, if the quotient is
    acyclic. -/
theorem class_eq_of_return {cls : α → β} (hquot : Acyclic (quotientBy cls r)) {c : α}
    (hac : ReflTransGen r a c) (hcb : ReflTransGen r c b) (hcls : cls a = cls b) :
    cls c = cls a := by
  have hto := reaches_quotientBy cls hac
  have hback := reaches_quotientBy cls hcb
  rw [← hcls] at hback
  -- In the quotient the path is a cycle, unless it stays where it is.
  rcases reflTransGen_iff_eq_or_transGen.mp hto with heq | hpath
  · exact heq
  · exact absurd (hpath.trans_left hback) (hquot (cls a))

/-- The next node on a path inside a class can be joined with its start. -/
theorem joinable_next_node (hacyclic : Acyclic r) {nodes : List α}
    (hnodes : ∀ x y, r x y → y ∈ nodes) {cls : α → β} (hquot : Acyclic (quotientBy cls r))
    (hcls : cls a = cls b) (hab : TransGen r a b) :
    ∃ c, c ∈ nodes ∧ c ≠ a ∧ cls c = cls a ∧ Joinable r a c := by
  obtain ⟨c, hac, hcb, hfirst⟩ := exists_next_node hacyclic hnodes hab
  have hmem : c ∈ nodes := by
    obtain ⟨e, -, hec⟩ := TransGen.tail'_iff.mp hac
    exact hnodes e c hec
  -- Nothing is between `a` and `c` on the way there, and there is no way back.
  refine ⟨c, hmem, ?_, class_eq_of_return hquot hac.to_reflTransGen hcb hcls, ?_⟩
  · rintro rfl
    exact hacyclic c hac
  · intro d _ _
    refine ⟨hfirst d, ?_⟩
    rintro ⟨hcd, hda⟩
    exact hacyclic c ((hcd.trans hda).trans hac)

/-- In an acyclic graph with an acyclic quotient, a class with two nodes has
    two nodes that can be joined. -/
theorem exists_joinable_pair (hacyclic : Acyclic r) (nodes : List α)
    (hnodes : ∀ x y, r x y → y ∈ nodes) {cls : α → β} (hquot : Acyclic (quotientBy cls r))
    (ha : a ∈ nodes) (hb : b ∈ nodes) (hab : a ≠ b) (hcls : cls a = cls b) :
    ∃ c ∈ nodes, ∃ d ∈ nodes, c ≠ d ∧ cls c = cls d ∧ Joinable r c d := by
  by_cases hreach : TransGen r a b
  · obtain ⟨c, hc, hne, hclsc, hjoin⟩ := joinable_next_node hacyclic hnodes hquot hcls hreach
    exact ⟨a, ha, c, hc, hne.symm, hclsc.symm, hjoin⟩
  · by_cases hback : TransGen r b a
    · obtain ⟨c, hc, hne, hclsc, hjoin⟩ :=
        joinable_next_node hacyclic hnodes hquot hcls.symm hback
      exact ⟨b, hb, c, hc, hne.symm, hclsc.symm, hjoin⟩
    · -- Neither reaches the other, so nothing lies between them.
      refine ⟨a, ha, b, hb, hab, hcls, ?_⟩
      intro c _ _
      exact ⟨fun h => hreach (h.1.trans h.2), fun h => hback (h.1.trans h.2)⟩

end Joinable

/-! ## Joining two nodes -/

section Joined

variable [DecidableEq α] {a b : α} {r : α → α → Prop}

/-- The name of a node once `b` is called `a`. -/
def renamed (a b x : α) : α := if x = b then a else x

/-- The graph in which `b` is one with `a`, edges from `a` to `a` dropped. -/
def joined (a b : α) (r : α → α → Prop) (x y : α) : Prop :=
  (∃ i j, r i j ∧ renamed a b i = x ∧ renamed a b j = y) ∧ ¬ (x = a ∧ y = a)

@[simp] theorem renamed_right (a b : α) : renamed a b b = a := if_pos rfl

theorem renamed_of_ne {x : α} (h : x ≠ b) : renamed a b x = x := if_neg h

@[simp] theorem renamed_left (a b : α) : renamed a b a = a := by
  unfold renamed
  split <;> rfl

theorem renamed_ne_right (hab : a ≠ b) (x : α) : renamed a b x ≠ b := by
  unfold renamed
  split
  · exact hab
  · assumption

/-- Only the two joined nodes are called `a`. -/
theorem renamed_eq_left_iff {x : α} : renamed a b x = a ↔ x = a ∨ x = b := by
  unfold renamed
  split
  · rename_i h
    simp [h]
  · rename_i h
    simp [h]

theorem eq_of_renamed_eq {x y : α} (h : renamed a b x = y) (hy : y ≠ a) : x = y := by
  unfold renamed at h
  split at h
  · exact absurd h.symm hy
  · exact h

/-- Where nothing is called `a`, different nodes keep different names. -/
theorem renamed_injOn {x y : α} (hx : x ≠ a) (hy : y ≠ a) (h : renamed a b x = renamed a b y) :
    x = y := by
  unfold renamed at h
  split at h
  · rename_i hxb
    split at h
    · rename_i hyb
      rw [hxb, hyb]
    · exact absurd h.symm hy
  · split at h
    · exact absurd h hx
    · exact h

/-- Without loops, joining two nodes is the quotient by their renaming. -/
theorem joined_iff_quotientBy (hloop : ∀ x, ¬ r x x) (x y : α) :
    joined a b r x y ↔ quotientBy (renamed a b) r x y := by
  constructor
  · rintro ⟨⟨i, j, hij, hi, hj⟩, hna⟩
    refine ⟨?_, i, j, hij, hi, hj⟩
    rintro rfl
    have hxa : x ≠ a := fun h => hna ⟨h, h⟩
    rw [eq_of_renamed_eq hi hxa, eq_of_renamed_eq hj hxa] at hij
    exact hloop x hij
  · rintro ⟨hne, hex⟩
    refine ⟨hex, ?_⟩
    rintro ⟨rfl, rfl⟩
    exact hne rfl

/-- An edge away from the joined node was there before. -/
theorem edge_of_joined {x y : α} (h : joined a b r x y) (hx : x ≠ a) (hy : y ≠ a) : r x y := by
  obtain ⟨⟨i, j, hij, hi, hj⟩, -⟩ := h
  rw [eq_of_renamed_eq hi hx, eq_of_renamed_eq hj hy] at hij
  exact hij

/-- The end of an edge is not the node that is gone. -/
theorem ne_right_of_joined (hab : a ≠ b) {x y : α} (h : joined a b r x y) : y ≠ b := by
  obtain ⟨⟨i, j, -, -, rfl⟩, -⟩ := h
  exact renamed_ne_right hab j

/-- Whatever the joined node reaches is not itself, and one of the pair
    reached it before. -/
theorem reached_from_joined (hab : a ≠ b) (hacyclic : Acyclic r) (hjoin : Joinable r a b)
    {y : α} (h : TransGen (joined a b r) a y) :
    y ≠ a ∧ y ≠ b ∧ (TransGen r a y ∨ TransGen r b y) := by
  induction h with
  | @single y hedge =>
      have hya : y ≠ a := fun hy => hedge.2 ⟨rfl, hy⟩
      have hyb : y ≠ b := ne_right_of_joined hab hedge
      obtain ⟨⟨i, j, hij, hi, hj⟩, -⟩ := hedge
      rw [eq_of_renamed_eq hj hya] at hij
      refine ⟨hya, hyb, ?_⟩
      rcases renamed_eq_left_iff.mp hi with rfl | rfl
      · exact Or.inl (.single hij)
      · exact Or.inr (.single hij)
  | @tail y z _ hedge ih =>
      obtain ⟨hya, hyb, hreach⟩ := ih
      have hzb : z ≠ b := ne_right_of_joined hab hedge
      by_cases hza : z = a
      · -- The path would close at the joined node: `y` lies between the pair.
        obtain ⟨⟨i, j, hij, hi, hj⟩, -⟩ := hedge
        rw [eq_of_renamed_eq hi hya] at hij
        rw [hza] at hj
        have hno := hjoin y hya hyb
        rcases renamed_eq_left_iff.mp hj with rfl | rfl
        · rcases hreach with hy | hy
          · exact absurd (hy.tail hij) (hacyclic _)
          · exact absurd ⟨hy, .single hij⟩ hno.2
        · rcases hreach with hy | hy
          · exact absurd ⟨hy, .single hij⟩ hno.1
          · exact absurd (hy.tail hij) (hacyclic _)
      -- The last edge is away from the joined node.
      · have hyz := edge_of_joined hedge hya hza
        refine ⟨hza, hzb, ?_⟩
        rcases hreach with hy | hy
        · exact Or.inl (hy.tail hyz)
        · exact Or.inr (hy.tail hyz)

/-- A path of the joined graph between other nodes was there before, unless it
    goes through the joined node. -/
theorem path_of_joined {x y : α} (h : TransGen (joined a b r) x y) (hx : x ≠ a) (hy : y ≠ a) :
    TransGen r x y ∨ TransGen (joined a b r) x a ∧ TransGen (joined a b r) a y := by
  induction h with
  | single hedge => exact Or.inl (.single (edge_of_joined hedge hx hy))
  | @tail y z hxy hedge ih =>
      -- Either the path meets the joined node here, or it has done so before, or never.
      by_cases hya : y = a
      · rw [hya] at hxy hedge
        exact Or.inr ⟨hxy, .single hedge⟩
      · rcases ih hya with hpath | ⟨hto, hfrom⟩
        · exact Or.inl (hpath.tail (edge_of_joined hedge hya hy))
        · exact Or.inr ⟨hto, hfrom.tail hedge⟩

/-- Joining two nodes of an acyclic graph makes no cycle if no path leaves
    them and comes back. -/
theorem acyclic_joined (hab : a ≠ b) (hacyclic : Acyclic r) (hjoin : Joinable r a b) :
    Acyclic (joined a b r) := by
  intro x hx
  -- A cycle at another node goes through the joined one or was there before.
  by_cases hxa : x = a
  · rw [hxa] at hx
    exact (reached_from_joined hab hacyclic hjoin hx).1 rfl
  · rcases path_of_joined hx hxa hxa with hpath | ⟨hto, hfrom⟩
    · exact hacyclic x hpath
    · exact (reached_from_joined hab hacyclic hjoin (hfrom.trans hto)).1 rfl

end Joined

end SchemaRecovery
