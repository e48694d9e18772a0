/-
  SchemaRecovery.Proofs.Homes

  Where types are declared. A message is declared with the root message that it
  is below, an enum with the root message around it or on its own (`Home`). If
  every message has a name, a type has one home, and the edges between modules
  say exactly in which other modules the types that a module mentions have their
  home (`faithful_of_named`). If a message has no name there is only one
  namespace and, after mergers, one module (`faithful_of_lone`).
-/
import SchemaRecovery.Proofs.Coarsest
import SchemaRecovery.Proofs.Partition

namespace SchemaRecovery

open Relation

namespace Schema

variable {u s : Schema}

/-- What has to be held to declare a type: the root message that it is below or
    in, or the type itself if it is an enum that is in no message. -/
inductive Home (s : Schema) : Label → RootNeed → Prop
  | message {r n : Label} {root m : MessageType} (hroot : s.messages.find? r = some root)
      (hisRoot : root.isRoot = true) (hreach : ReflTransGen s.Nested r n)
      (hm : s.messages.find? n = some m) : Home s n (.message r)
  | nestedEnum {r p n : Label} {root m : MessageType} (hroot : s.messages.find? r = some root)
      (hisRoot : root.isRoot = true) (hreach : ReflTransGen s.Nested r p)
      (hm : s.messages.find? p = some m) (hn : n ∈ m.nestedEnums) : Home s n (.message r)
  | rootEnum {n : Label} {e : EnumType} (he : s.enums.find? n = some e)
      (hisRoot : e.isRoot = true) : Home s n (.enum n)

/-! ## A type has one home -/

theorem WellNested.exists_home_of_message (hs : s.WellNested) {n : Label} {m : MessageType}
    (hm : s.messages.find? n = some m) : ∃ x, s.Home n x := by
  obtain ⟨r, root, hroot, hisRoot, hreach⟩ := hs.reached hm
  exact ⟨_, .message hroot hisRoot hreach hm⟩

theorem WellNested.exists_home_of_enum (hs : s.WellNested) {n : Label} {e : EnumType}
    (he : s.enums.find? n = some e) : ∃ x, s.Home n x := by
  cases hisRoot : e.isRoot with
  | true => exact ⟨_, .rootEnum he hisRoot⟩
  | false =>
      obtain ⟨p, m, hm, hn⟩ := hs.linked he hisRoot
      obtain ⟨r, root, hroot, hrootIs, hreach⟩ := hs.reached hm
      exact ⟨_, .nestedEnum hroot hrootIs hreach hm hn⟩

theorem Home.found (hs : s.WellNested) {n : Label} {x : RootNeed} (h : s.Home n x) :
    (∃ m, s.messages.find? n = some m) ∨ ∃ e, s.enums.find? n = some e := by
  cases h with
  | message hroot hisRoot hreach hm => exact Or.inl ⟨_, hm⟩
  | nestedEnum hroot hisRoot hreach hm hn =>
      obtain ⟨e, he, -⟩ := hs.nested_enum hm hn
      exact Or.inr ⟨e, he⟩
  | rootEnum he hisRoot => exact Or.inr ⟨_, he⟩

theorem ne_none_of_found (hnamed : s.messages.find? none = none) {n : Label} {m : MessageType}
    (hm : s.messages.find? n = some m) : n ≠ none := by
  rintro rfl
  rw [hnamed] at hm
  cases hm

section Named

variable (hs : Analysed u s) (hnamed : s.messages.find? none = none)

include hs hnamed

theorem Home.eq_of_message {n : Label} {x : RootNeed} {m : MessageType} (h : s.Home n x)
    (hm : s.messages.find? n = some m) : x = .message m.owner := by
  cases h with
  | message hroot hisRoot hreach _ =>
      have hr := ne_none_of_found hnamed hroot
      rw [(hs.toWellNested.owner_of_reaches hroot hisRoot hr hreach hm).1]
  | nestedEnum _ _ _ hp hn =>
      obtain ⟨e, he, -⟩ := hs.nested_enum hp hn
      exact (hs.apart hm he).elim
  | rootEnum he _ => exact (hs.apart hm he).elim

theorem Home.eq_of_enum {n : Label} {x : RootNeed} {e : EnumType} (h : s.Home n x)
    (he : s.enums.find? n = some e) : x = e.need := by
  cases h with
  | message _ _ _ hm => exact (hs.apart hm he).elim
  | nestedEnum hroot hisRoot hreach hp hn =>
      have hr := ne_none_of_found hnamed hroot
      have howner := (hs.toWellNested.owner_of_reaches hroot hisRoot hr hreach hp).1
      obtain ⟨e', he', hrootMessage⟩ := hs.nested_enum hp hn
      rw [he, Option.some.injEq] at he'
      rw [howner, ← he'] at hrootMessage
      -- The root message has a name, which is the one the enum records.
      obtain ⟨t, ht⟩ := Option.ne_none_iff_exists'.mp hr
      unfold EnumType.need
      rw [hrootMessage hr, ht]
  | rootEnum he' hisRoot =>
      rw [he, Option.some.injEq] at he'
      rw [← he', EnumType.isRoot, Option.isNone_iff_eq_none] at hisRoot
      unfold EnumType.need
      rw [hisRoot, hs.keyed_enum he]

theorem Home.unique {n : Label} {x y : RootNeed} (h : s.Home n x) (h' : s.Home n y) : x = y := by
  rcases h.found hs.toWellNested with ⟨m, hm⟩ | ⟨e, he⟩
  · rw [h.eq_of_message hs hnamed hm, h'.eq_of_message hs hnamed hm]
  · rw [h.eq_of_enum hs hnamed he, h'.eq_of_enum hs hnamed he]

end Named

/-! ## What a message needs outside its family -/

theorem need_eq_message_iff {e : EnumType} {root : Label} (hroot : root ≠ none) :
    e.need = .message root ↔ e.rootMessage = root := by
  unfold EnumType.need
  cases he : e.rootMessage with
  | none => simp [Ne.symm hroot]
  | some r => simp

/-- A message needs the homes of the types that its fields mention, other than
    the root message that it is below. -/
theorem Analysed.outsideNeed_iff (h : Analysed u s) (hnamed : s.messages.find? none = none)
    {root n : Label} {m : MessageType} {x : RootNeed} (hroot : root ≠ none)
    (hm : s.messages.find? n = some m) :
    s.OutsideNeed root m x ↔
      ∃ name, u.Needs m (.type name) ∧ s.Home (some name) x ∧ x ≠ .message root := by
  have hs := h.toWellNested
  have hrecorded := h.recorded hm
  constructor
  -- What is recorded as a dependency is what the fields mention.
  · rintro (⟨name, hname, y, hy, hother, rfl⟩ | ⟨name, hname, e, he, hother, rfl⟩)
    · have hneed := ((hrecorded.messages name).mp hname).1
      obtain ⟨z, hz⟩ := hs.exists_home_of_message hy
      have hroot' := hs.root_eq_owner hy (h.mentioned hm hneed).1
      rw [hz.eq_of_message h hnamed hy, ← hroot'] at hz
      exact ⟨name, hneed, hz, fun heq => hother (RootNeed.message.inj heq)⟩
    · have hneed := ((hrecorded.enums name).mp hname).1
      obtain ⟨z, hz⟩ := hs.exists_home_of_enum he
      rw [hz.eq_of_enum h hnamed he] at hz
      exact ⟨name, hneed, hz, fun heq => hother ((need_eq_message_iff hroot).mp heq)⟩
  · rintro ⟨name, hneed, hhome, hother⟩
    -- What the fields mention is recorded, as an enum or as a message.
    obtain ⟨hstart, ⟨e, he, hname⟩ | ⟨y, hy, hname⟩⟩ := h.mentioned hm hneed
    · have hx := hhome.eq_of_enum h hnamed he
      refine Or.inr ⟨name, hname, e, he, fun heq => hother ?_, hx⟩
      rw [hx, (need_eq_message_iff hroot).mpr heq]
    · have hx := hhome.eq_of_message h hnamed hy
      rw [← hs.root_eq_owner hy hstart] at hx
      exact Or.inl ⟨name, hname, y, hy, fun heq => hother (heq ▸ hx), hx⟩

end Schema

/-! ## Edges and homes -/

namespace ModuleGraph

variable {u s : Schema} {g : ModuleGraph}

/-- The module holds the root message that the message is below. -/
def HasMessage (s : Schema) (g : ModuleGraph) (i : Int) (m : MessageType) : Prop :=
  s.messages.find? m.fullName = some m ∧
    ∃ root, g.messageModule.find? root = some i ∧ ReflTransGen s.Nested root m.fullName

/-- The module holds the home of the type. -/
def HasType (s : Schema) (g : ModuleGraph) (i : Int) (n : Label) : Prop :=
  ∃ x, s.Home n x ∧ g.Holds x i

/-- Every type has one module, and the edges lead to the other modules whose
    types the messages of a module mention. -/
structure Faithful (u s : Schema) (g : ModuleGraph) : Prop where
  declared : ∀ {n x}, s.Home n x → ∃ i, g.Holds x i
  unique : ∀ {n i j}, g.HasType s i n → g.HasType s j n → i = j
  edges : ∀ i j, g.Edge i j ↔ i ≠ j ∧
    ∃ m name, g.HasMessage s i m ∧ u.Needs m (.type name) ∧ g.HasType s j (some name)

theorem Partitioned.exists_holds (h : Partitioned s g) {n : Label} {x : RootNeed}
    (hhome : s.Home n x) : ∃ i, g.Holds x i := by
  cases hhome with
  | message hroot hisRoot _ _ => exact (h.message_owned _).mpr ⟨_, hroot, hisRoot⟩
  | nestedEnum hroot hisRoot _ _ _ => exact (h.message_owned _).mpr ⟨_, hroot, hisRoot⟩
  | rootEnum he hisRoot => exact (h.enum_owned _).mpr ⟨_, he, hisRoot⟩

/-- If every message has a name, the edges between modules are faithful. -/
theorem faithful_of_named (hs : Schema.Analysed u s) (hnamed : s.messages.find? none = none)
    (h : Partitioned s g) : Faithful u s g where
  declared := h.exists_holds
  unique := by
    rintro n i j ⟨x, hx, hi⟩ ⟨y, hy, hj⟩
    rw [hy.unique hs hnamed hx] at hj
    exact hi.unique hj
  edges i j := by
    rw [h.edges]
    refine and_congr_right fun hij => ?_
    constructor
    · rintro ⟨root, hroot, x, ⟨m, hm, hreach, hneed⟩, hj⟩
      obtain ⟨r, hr, -⟩ := (h.message_owned root).mp ⟨i, hroot⟩
      have hnone := Schema.ne_none_of_found hnamed hr
      obtain ⟨name, hname, hhome, -⟩ := (hs.outsideNeed_iff hnamed hnone hm).mp hneed
      exact ⟨m, name, ⟨hm, root, hroot, hreach⟩, hname, x, hhome, hj⟩
    · rintro ⟨m, name, ⟨hm, root, hroot, hreach⟩, hname, x, hhome, hj⟩
      obtain ⟨r, hr, -⟩ := (h.message_owned root).mp ⟨i, hroot⟩
      have hnone := Schema.ne_none_of_found hnamed hr
      -- What is held by another module is not the root message itself.
      have hother : x ≠ .message root := by
        rintro rfl
        exact hij (Holds.unique (x := .message root) hroot hj)
      exact ⟨root, hroot, x, ⟨m, hm, hreach,
        (hs.outsideNeed_iff hnamed hnone hm).mpr ⟨name, hname, hhome, hother⟩⟩, hj⟩

/-- In a schema with one namespace every module has it. -/
theorem Partitioned.hasNs (h : Partitioned s g) {ns : Label}
    (hmessages : ∀ {n m}, s.messages.find? n = some m → m.ns = ns)
    (henums : ∀ {n e}, s.enums.find? n = some e → e.ns = ns) {i : Int} (hi : g.Live i) :
    g.HasNs i ns := by
  obtain ⟨m, hm⟩ := hi
  refine ⟨m, hm, ?_⟩
  rcases h.rooted hm with ⟨n, hn⟩ | ⟨n, hn⟩
  · obtain ⟨t, ht, hns⟩ := h.message_ns hm n hn
    rw [← hns, hmessages ht]
  · obtain ⟨t, ht, hns⟩ := h.enum_ns hm n hn
    rw [← hns, henums ht]

/-- If some message has no name, there is at most one module after mergers, and
    nothing can be in another. -/
theorem faithful_of_lone (hs : s.WellNested) {m : MessageType}
    (hlone : s.messages.find? none = some m) (h : Partitioned s g) (hacyclic : Acyclic g.Edge)
    (hstuck : g.Stuck) : Faithful u s g := by
  obtain ⟨ns, hmessages, henums⟩ := hs.lone hlone
  have hall : ∀ {i}, g.Live i → g.HasNs i ns := h.hasNs hmessages henums
  have hsame : ∀ {i j}, g.Live i → g.Live j → i = j := by
    intro i j hi hj
    refine hstuck.eq_of_hasNs h.toConsistent hacyclic ?_ (hall hi) (hall hj)
    -- No edge leads to another namespace.
    intro x hcycle
    obtain ⟨y, ⟨hne, k, l, hkl, rfl, rfl⟩, -⟩ := TransGen.head'_iff.mp hcycle
    rw [(hall hkl.live).nsOf_eq, (hall (h.toWired.live_of_edge hkl)).nsOf_eq] at hne
    exact hne rfl
  refine ⟨h.exists_holds, ?_, fun i j => ⟨fun hij => ?_, ?_⟩⟩
  · rintro n i j ⟨x, -, hi⟩ ⟨y, -, hj⟩
    exact hsame (hi.live h.toConsistent) (hj.live h.toConsistent)
  · have heq := hsame hij.live (h.toWired.live_of_edge hij)
    exact absurd (heq ▸ hij) (h.loopless j)
  · rintro ⟨hij, m, name, ⟨-, root, hroot, -⟩, -, x, -, hj⟩
    have hi : g.Holds (.message root) i := hroot
    exact absurd (hsame (hi.live h.toConsistent) (hj.live h.toConsistent)) hij

/-- The edges of a compacted first grouping are faithful. -/
theorem faithful_of_compact (hs : Schema.Analysed u s) {g₀ : ModuleGraph}
    (hpartition : (partition s {}).outcome = .ok g₀) (hcompact : (g₀.compact s).outcome = .ok g) :
    Partitioned s g ∧ Acyclic g.Edge ∧ Faithful u s g := by
  have hg₀ := partitioned_of_partition hs.toWellNested hpartition
  obtain ⟨hg, hacyclic, hstuck, cls, hquot⟩ := compact_ok hg₀.toConsistent hcompact
  have hpart := hg₀.quotient hg hquot
  refine ⟨hpart, hacyclic, ?_⟩
  cases hnamed : s.messages.find? none with
  | none => exact faithful_of_named hs hnamed hpart
  | some m => exact faithful_of_lone hs.toWellNested hnamed hpart hacyclic hstuck

end ModuleGraph

end SchemaRecovery
