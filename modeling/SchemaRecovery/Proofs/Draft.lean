/-
  SchemaRecovery.Proofs.Draft

  The modules of the first grouping before their edges are added: one for each
  root message and each root enum, with what the messages below it need outside
  (`drafted_of_stages`).
-/
import SchemaRecovery.ModuleGraph.Partition
import SchemaRecovery.Proofs.Consistency
import SchemaRecovery.Proofs.Needs

namespace SchemaRecovery

open Relation

/-! ## What a module needs -/

/-- What a module may need: the family of a root message, or a root enum. -/
inductive RootNeed where
  | message (name : Label)
  | enum (name : Label)

namespace SchemaModule

/-- What the module has recorded that it needs. -/
def Requires (m : SchemaModule) : RootNeed → Prop
  | .message name => name ∈ m.dependsOnRootMessages
  | .enum name => name ∈ m.dependsOnRootEnums

/-- What the module holds itself. -/
def Owns (m : SchemaModule) : RootNeed → Prop
  | .message name => name ∈ m.rootMessages
  | .enum name => name ∈ m.rootEnums

/-- The module has a root type. -/
def Rooted (m : SchemaModule) : Prop := (∃ n, n ∈ m.rootMessages) ∨ ∃ n, n ∈ m.rootEnums

/-- The module has one root type. -/
def Single (m : SchemaModule) : Prop :=
  (∃ n, m.rootMessages = OrderedSet.singleton n ∧ m.rootEnums = ∅) ∨
    ∃ n, m.rootEnums = OrderedSet.singleton n ∧ m.rootMessages = ∅

theorem Single.rooted {m : SchemaModule} (h : m.Single) : m.Rooted := by
  rcases h with ⟨n, hn, -⟩ | ⟨n, hn, -⟩
  · exact Or.inl ⟨n, hn ▸ OrderedSet.mem_singleton.mpr rfl⟩
  · exact Or.inr ⟨n, hn ▸ OrderedSet.mem_singleton.mpr rfl⟩

/-- The module without its needs. -/
def needless (m : SchemaModule) : SchemaModule :=
  { m with dependsOnRootMessages := ∅, dependsOnRootEnums := ∅ }

/-- The second module is the first with needs added. -/
structure Adds (needs : RootNeed → Prop) (m m' : SchemaModule) : Prop where
  needless : m'.needless = m.needless
  requires : ∀ x, m'.Requires x ↔ m.Requires x ∨ needs x

variable {m m' m'' : SchemaModule} {p q : RootNeed → Prop}

theorem Adds.nothing (m : SchemaModule) : Adds (fun _ => False) m m where
  needless := rfl
  requires := by simp

theorem Adds.trans (h : Adds p m m') (h' : Adds q m' m'') : Adds (fun x => p x ∨ q x) m m'' where
  needless := h'.needless.trans h.needless
  requires x := by rw [h'.requires, h.requires, or_assoc]

theorem Adds.congr (h : Adds p m m') (hpq : ∀ x, p x ↔ q x) : Adds q m m' := by
  rw [← funext fun x => propext (hpq x)]
  exact h

theorem Adds.foldlM {α : Type} {f : SchemaModule → α → Except Failure SchemaModule}
    {p : α → RootNeed → Prop} {l : List α} (h : l.foldlM f m = .ok m')
    (hstep : ∀ a m m', f m a = .ok m' → Adds (p a) m m') :
    Adds (fun x => ∃ a ∈ l, p a x) m m' :=
  (foldlM_adds Adds Adds.nothing Adds.trans (fun _ => True) trivial h
    fun a m m' _ hm => ⟨hstep a m m' hm, trivial⟩).1

theorem adds_of_addDependsOnMessage {root : Label} (h : m.addDependsOnMessage root = .ok m') :
    Adds (· = .message root) m m' := by
  unfold addDependsOnMessage at h
  split at h
  · cases h
  · cases h
    refine ⟨rfl, fun x => ?_⟩
    cases x with
    | message name => simp [Requires, or_comm]
    | enum name => simp [Requires]

end SchemaModule

/-- The need of one who depends on the enum: the family of the message it is
    in, or the enum itself. -/
def EnumType.need (e : EnumType) : RootNeed :=
  match e.rootMessage with
  | some root => .message (some root)
  | none => .enum e.fullName

theorem SchemaModule.adds_of_addDependsOnEnum {m m' : SchemaModule} {e : EnumType}
    (h : m.addDependsOnEnum e = .ok m') : Adds (· = e.need) m m' := by
  unfold SchemaModule.addDependsOnEnum at h
  unfold EnumType.need
  cases hroot : e.rootMessage with
  | some root =>
      rw [hroot] at h
      exact adds_of_addDependsOnMessage h
  | none =>
      rw [hroot] at h
      cases h
      refine ⟨rfl, fun x => ?_⟩
      cases x with
      | message name => simp [Requires]
      | enum name => simp [Requires, or_comm]

namespace Schema

/-- What a message of the family of `root` needs outside it. -/
def OutsideNeed (s : Schema) (root : Label) (message : MessageType) (x : RootNeed) : Prop :=
  (∃ name ∈ message.dependsOnMessages.toList, ∃ y, s.messages.find? (some name) = some y ∧
    y.root ≠ root ∧ x = .message y.root) ∨
  (∃ name ∈ message.dependsOnEnums.toList, ∃ e, s.enums.find? (some name) = some e ∧
    e.rootMessage ≠ root ∧ x = e.need)

/-- What the messages below a root message need outside its family. -/
def FamilyNeed (s : Schema) (root : Label) (x : RootNeed) : Prop :=
  ∃ message, s.messages.find? message.fullName = some message ∧
    ReflTransGen s.Nested root message.fullName ∧ s.OutsideNeed root message x

end Schema

namespace ModuleGraph

variable {s : Schema}

theorem adds_of_addOutsideNeeds {root : Label} {m m' : SchemaModule} {message : MessageType}
    (h : addOutsideNeeds s root m message = .ok m') :
    SchemaModule.Adds (s.OutsideNeed root message) m m' := by
  unfold addOutsideNeeds at h
  obtain ⟨mid, hmid, h⟩ := bind_eq_ok.mp h
  -- First the messages that it depends on, then the enums; what is in the family is left out.
  have hmessages := SchemaModule.Adds.foldlM (p := fun name x => ∃ y,
    s.messages.find? (some name) = some y ∧ y.root ≠ root ∧ x = .message y.root) hmid ?_
  · have henums := SchemaModule.Adds.foldlM (p := fun name x => ∃ e,
      s.enums.find? (some name) = some e ∧ e.rootMessage ≠ root ∧ x = e.need) h ?_
    · exact hmessages.trans henums
    · intro name m m' hm'
      obtain ⟨e, he, hm'⟩ := bind_eq_ok.mp hm'
      have hfound := Schema.enum_eq_ok_iff.mp he
      split at hm'
      · rename_i hown
        obtain rfl : m = m' := Except.ok.inj hm'
        exact (SchemaModule.Adds.nothing m).congr (by simp [hfound, hown])
      · rename_i hother
        exact (SchemaModule.adds_of_addDependsOnEnum hm').congr (by simp [hfound, hother])
  · intro name m m' hm'
    obtain ⟨y, hy, hm'⟩ := bind_eq_ok.mp hm'
    have hfound := Schema.message_eq_ok_iff.mp hy
    dsimp only at hm'
    split at hm'
    · rename_i hown
      obtain rfl : m = m' := Except.ok.inj hm'
      exact (SchemaModule.Adds.nothing m).congr (by simp [hfound, hown])
    · rename_i hother
      exact (SchemaModule.adds_of_addDependsOnMessage hm').congr (by simp [hfound, hother])

/-- The needs of the module of a root message. -/
theorem adds_of_family (hs : s.WellNested) {root : MessageType} {m m' : SchemaModule}
    {family : List MessageType} (hroot : s.messages.find? root.fullName = some root)
    (hfamily : s.family root = .ok family)
    (h : family.foldlM (addOutsideNeeds s root.fullName) m = .ok m') :
    SchemaModule.Adds (s.FamilyNeed root.fullName) m m' := by
  refine (SchemaModule.Adds.foldlM h fun _ _ _ => adds_of_addOutsideNeeds).congr fun x => ?_
  unfold Schema.FamilyNeed
  simp only [Schema.mem_family_iff hs hroot hfamily, and_assoc]

/-! ## Modules without edges -/

/-- A graph in the making: its modules are in order but for the edges, which are
    still to be added. -/
structure Drafted (s : Schema) (g : ModuleGraph) : Prop where
  keyed : ∀ {i m}, g.modules.find? i = some m → m.id = i
  fresh : ∀ {i m}, g.modules.find? i = some m → i < g.nextId
  edgeless : ∀ {i m}, g.modules.find? i = some m → m.dependsOn = ∅ ∧ m.dependedOnBy = ∅
  unremoved : ∀ {i m}, g.modules.find? i = some m → m.removed = false
  messages : g.OwnersExact (·.rootMessages) g.messageModule
  enums : g.OwnersExact (·.rootEnums) g.enumModule
  message_ns : ∀ {i m}, g.modules.find? i = some m → ∀ name ∈ m.rootMessages,
    ∃ t, s.messages.find? name = some t ∧ t.ns = m.ns
  enum_ns : ∀ {i m}, g.modules.find? i = some m → ∀ name ∈ m.rootEnums,
    ∃ t, s.enums.find? name = some t ∧ t.ns = m.ns
  single : ∀ {i m}, g.modules.find? i = some m → m.Single
  needs : ∀ {i m}, g.modules.find? i = some m → ∀ x, m.Requires x ↔
    ∃ root ∈ m.rootMessages, s.FamilyNeed root x

/-- The graph with a new module and its root types. -/
def withModule (g : ModuleGraph) (m : SchemaModule) : ModuleGraph :=
  (({ g with nextId := g.nextId + 1 } : ModuleGraph).enterRoots m).add m

theorem find?_withModule (g : ModuleGraph) (m : SchemaModule) (i : Int) :
    (g.withModule m).modules.find? i = if i = m.id then some m else g.modules.find? i := by
  unfold withModule add enterRoots
  dsimp only
  rw [Registry.find?_insert]

/-- A look-up stays exact when a module with roots that no other has is
    entered. -/
theorem ownersExact_withModule {g : ModuleGraph} {roots : SchemaModule → OrderedSet Label}
    {owners owners' : Registry Label Int} {m : SchemaModule} (h : g.OwnersExact roots owners)
    (hfresh : ∀ {i x}, g.modules.find? i = some x → i ≠ m.id)
    (hnew : ∀ name ∈ roots m, owners.find? name = none)
    (howners' : ∀ name, owners'.find? name =
      if name ∈ roots m then some m.id else owners.find? name) :
    (g.withModule m).OwnersExact roots owners' := by
  intro name i
  rw [howners', find?_withModule]
  -- The new roots go to the new module; no other module has them.
  by_cases hname : name ∈ roots m
  · rw [if_pos hname, Option.some.injEq]
    constructor
    · rintro rfl
      exact ⟨m, if_pos rfl, hname⟩
    · rintro ⟨x, hx, hroot⟩
      by_contra hi
      rw [if_neg (Ne.symm hi)] at hx
      have hfound := (h name i).mpr ⟨x, hx, hroot⟩
      rw [hnew name hname] at hfound
      cases hfound
  · rw [if_neg hname, h name i]
    constructor
    · rintro ⟨x, hx, hroot⟩
      exact ⟨x, by rw [if_neg (hfresh hx)]; exact hx, hroot⟩
    · rintro ⟨x, hx, hroot⟩
      split at hx
      · cases hx
        exact absurd hroot hname
      · exact ⟨x, hx, hroot⟩

/-- A new module keeps the graph in order. -/
theorem Drafted.withModule {g : ModuleGraph} (h : Drafted s g) {m : SchemaModule}
    (hid : m.id = g.nextId) (hedges : m.dependsOn = ∅ ∧ m.dependedOnBy = ∅)
    (hremoved : m.removed = false)
    (hmessages : ∀ name ∈ m.rootMessages, g.messageModule.find? name = none ∧
      ∃ t, s.messages.find? name = some t ∧ t.ns = m.ns)
    (henums : ∀ name ∈ m.rootEnums, g.enumModule.find? name = none ∧
      ∃ t, s.enums.find? name = some t ∧ t.ns = m.ns)
    (hsingle : m.Single)
    (hneeds : ∀ x, m.Requires x ↔ ∃ root ∈ m.rootMessages, s.FamilyNeed root x) :
    Drafted s (g.withModule m) := by
  have hfresh : ∀ {i x}, g.modules.find? i = some x → i ≠ m.id := by
    intro i x hx
    rw [hid]
    exact Int.ne_of_lt (h.fresh hx)
  -- A property of all modules has to be shown for the new one only.
  have hcases : ∀ {P : Int → SchemaModule → Prop}, P m.id m →
      (∀ {i x}, g.modules.find? i = some x → P i x) →
      ∀ {i x}, (g.withModule m).modules.find? i = some x → P i x := by
    intro P hm hall i x hx
    rw [find?_withModule] at hx
    split at hx
    · rename_i hi
      cases hx
      rw [hi]
      exact hm
    · exact hall hx
  constructor
  case keyed => exact hcases rfl h.keyed
  case fresh =>
    refine hcases (P := fun i _ => i < (g.withModule m).nextId) ?_ fun hx => ?_
    · show m.id < g.nextId + 1
      omega
    · have hlt := h.fresh hx
      show _ < g.nextId + 1
      omega
  case edgeless =>
    exact hcases (P := fun _ x => x.dependsOn = ∅ ∧ x.dependedOnBy = ∅) hedges h.edgeless
  case unremoved => exact hcases (P := fun _ x => x.removed = false) hremoved h.unremoved
  case messages =>
    refine ownersExact_withModule h.messages hfresh (fun name hname => (hmessages name hname).1)
      fun name => ?_
    exact Registry.find?_foldl_insert _ _ _ _
  case enums =>
    refine ownersExact_withModule h.enums hfresh (fun name hname => (henums name hname).1)
      fun name => ?_
    exact Registry.find?_foldl_insert _ _ _ _
  case message_ns =>
    exact hcases (P := fun _ x => ∀ name ∈ x.rootMessages, ∃ t, s.messages.find? name = some t ∧
      t.ns = x.ns) (fun name hname => (hmessages name hname).2) h.message_ns
  case enum_ns =>
    exact hcases (P := fun _ x => ∀ name ∈ x.rootEnums, ∃ t, s.enums.find? name = some t ∧
      t.ns = x.ns) (fun name hname => (henums name hname).2) h.enum_ns
  case single => exact hcases (P := fun _ x => x.Single) hsingle h.single
  case needs =>
    exact hcases (P := fun _ x => ∀ y, x.Requires y ↔
      ∃ root ∈ x.rootMessages, s.FamilyNeed root y) hneeds h.needs

/-- The module of a root enum. -/
def enumModuleOf (g : ModuleGraph) (e : EnumType) : SchemaModule :=
  { id := g.nextId, ns := e.ns, rootEnums := OrderedSet.singleton e.fullName }

theorem addEnumModule_eq (g : ModuleGraph) (e : EnumType) :
    g.addEnumModule e = g.withModule (g.enumModuleOf e) := rfl

theorem Drafted.addEnumModule {g : ModuleGraph} (h : Drafted s g) {e : EnumType}
    (he : s.enums.find? e.fullName = some e) (hnew : g.enumModule.find? e.fullName = none) :
    Drafted s (g.addEnumModule e) := by
  rw [addEnumModule_eq]
  have hsingle : (g.enumModuleOf e).Single := Or.inr ⟨_, rfl, rfl⟩
  refine h.withModule rfl ⟨rfl, rfl⟩ rfl ?_ ?_ hsingle ?_
  · intro name hname
    exact absurd hname (OrderedSet.not_mem_empty name)
  · intro name hname
    rw [OrderedSet.mem_singleton.mp hname]
    exact ⟨hnew, e, he, rfl⟩
  · intro x
    constructor
    · intro hx
      cases x with
      | message name => exact absurd hx (OrderedSet.not_mem_empty name)
      | enum name => exact absurd hx (OrderedSet.not_mem_empty name)
    · rintro ⟨root, hroot, -⟩
      exact absurd hroot (OrderedSet.not_mem_empty root)

theorem find?_enumModule_addEnumModule (g : ModuleGraph) (e : EnumType) (n : Label) :
    (g.addEnumModule e).enumModule.find? n =
      if n = e.fullName then some g.nextId else g.enumModule.find? n := by
  have hfind : (g.addEnumModule e).enumModule.find? n = _ :=
    Registry.find?_foldl_insert [e.fullName] g.nextId g.enumModule n
  rw [hfind]
  simp

/-- Modules for several enums. -/
theorem Drafted.addEnumModules {g : ModuleGraph} {enums : List EnumType} (h : Drafted s g)
    (hfound : ∀ e ∈ enums, s.enums.find? e.fullName = some e)
    (hnodup : (enums.map (·.fullName)).Nodup)
    (hnew : ∀ e ∈ enums, g.enumModule.find? e.fullName = none) :
    Drafted s (enums.foldl ModuleGraph.addEnumModule g) ∧
      (enums.foldl ModuleGraph.addEnumModule g).messageModule = g.messageModule ∧
      ∀ n, (∃ i, (enums.foldl ModuleGraph.addEnumModule g).enumModule.find? n = some i) ↔
        (∃ i, g.enumModule.find? n = some i) ∨ n ∈ enums.map (·.fullName) := by
  induction enums generalizing g with
  | nil => exact ⟨h, rfl, by simp⟩
  | cons e rest ih =>
      rw [List.map_cons, List.nodup_cons] at hnodup
      obtain ⟨he, hrest⟩ := List.forall_mem_cons.mp hfound
      obtain ⟨hnewE, hnewRest⟩ := List.forall_mem_cons.mp hnew
      -- The enums still to come have other names than this one.
      have hnext : ∀ x ∈ rest, (g.addEnumModule e).enumModule.find? x.fullName = none := by
        intro x hx
        rw [find?_enumModule_addEnumModule, if_neg ?_]
        · exact hnewRest x hx
        · intro heq
          exact hnodup.1 (heq ▸ List.mem_map_of_mem hx)
      obtain ⟨hdrafted, hmessages, henums⟩ := ih (h.addEnumModule he hnewE) hrest hnodup.2 hnext
      rw [List.foldl_cons]
      refine ⟨hdrafted, hmessages, fun n => ?_⟩
      rw [henums, List.map_cons, List.mem_cons, ← or_assoc]
      refine or_congr_left ?_
      rw [find?_enumModule_addEnumModule]
      split
      · rename_i hn
        simp [hn]
      · rename_i hn
        simp [hn]

/-- The module of a root message whose name no module has. -/
theorem Drafted.addMessageModule (hs : s.WellNested) {g g' : ModuleGraph} {m : SchemaModule}
    {root : MessageType} (h : Drafted s g) (hroot : s.messages.find? root.fullName = some root)
    (hnew : g.messageModule.find? root.fullName = none)
    (hadd : ModuleGraph.addMessageModule s g root = .ok (g', m)) :
    Drafted s g' ∧ m.rootMessages.toList = [root.fullName] ∧ g'.enumModule = g.enumModule ∧
      ∀ n, (∃ i, g'.messageModule.find? n = some i) ↔
        (∃ i, g.messageModule.find? n = some i) ∨ n = root.fullName := by
  unfold ModuleGraph.addMessageModule create at hadd
  dsimp only at hadd
  obtain ⟨family, hfamily, hadd⟩ := bind_eq_ok.mp hadd
  obtain ⟨m', hm', hadd⟩ := bind_eq_ok.mp hadd
  have hadds := adds_of_family hs hroot hfamily hm'
  rw [hnew] at hadd
  obtain ⟨rfl, rfl⟩ := Prod.mk.inj (Except.ok.inj hadd)
  -- Only the needs of the module were changed while it was made.
  have hframe := hadds.needless
  have hroots : m'.rootMessages = OrderedSet.singleton root.fullName :=
    congrArg SchemaModule.rootMessages hframe
  have hrootEnums : m'.rootEnums = ∅ := congrArg SchemaModule.rootEnums hframe
  have hid : m'.id = g.nextId := congrArg SchemaModule.id hframe
  have hns : m'.ns = root.ns := congrArg SchemaModule.ns hframe
  have hedges : m'.dependsOn = ∅ ∧ m'.dependedOnBy = ∅ :=
    ⟨congrArg SchemaModule.dependsOn hframe, congrArg SchemaModule.dependedOnBy hframe⟩
  have hlist : m'.rootMessages.toList = [root.fullName] := by
    rw [hroots]
    rfl
  have hsingle : m'.Single := Or.inl ⟨_, hroots, hrootEnums⟩
  refine ⟨h.withModule hid hedges (congrArg SchemaModule.removed hframe) ?_ ?_ hsingle ?_,
    hlist, ?_, ?_⟩
  · intro name hname
    rw [hroots, OrderedSet.mem_singleton] at hname
    rw [hname, hns]
    exact ⟨hnew, root, hroot, rfl⟩
  · intro name hname
    rw [hrootEnums] at hname
    exact absurd hname (OrderedSet.not_mem_empty name)
  · intro x
    rw [hadds.requires, hroots]
    constructor
    · rintro (hx | hx)
      · cases x with
        | message name => exact absurd hx (OrderedSet.not_mem_empty name)
        | enum name => exact absurd hx (OrderedSet.not_mem_empty name)
      · exact ⟨root.fullName, OrderedSet.mem_singleton.mpr rfl, hx⟩
    · rintro ⟨r, hr, hx⟩
      rw [OrderedSet.mem_singleton.mp hr] at hx
      exact Or.inr hx
  · show m'.rootEnums.toList.foldl _ g.enumModule = g.enumModule
    rw [hrootEnums]
    rfl
  · intro n
    have hfind : (g.withModule m').messageModule.find? n = _ :=
      Registry.find?_foldl_insert m'.rootMessages.toList m'.id g.messageModule n
    show (∃ i, (g.withModule m').messageModule.find? n = some i) ↔ _
    rw [hfind, hlist]
    by_cases hn : n = root.fullName
    · simp [hn]
    · simp [hn]

/-- One step of adding modules for root messages: `held` are the names that
    modules have. -/
def messageModuleStep (s : Schema) (state : ModuleGraph × List Label) (root : MessageType) :
    Except Failure (ModuleGraph × List Label) := do
  let (g, held) := state
  if held.contains root.fullName then return (g, held)
  else
    let (g, m) ← ModuleGraph.addMessageModule s g root
    return (g, held ++ m.rootMessages.toList)

/-- One more root message gets its module, and the names held are again those that
    modules have. -/
theorem Drafted.messageModuleStep (hs : s.WellNested) {g g' : ModuleGraph}
    {held held' : List Label} {root : MessageType} (h : Drafted s g)
    (hroot : s.messages.find? root.fullName = some root)
    (hheld : ∀ n, n ∈ held ↔ ∃ i, g.messageModule.find? n = some i)
    (hnew : root.fullName ∉ held)
    (hstep : ModuleGraph.messageModuleStep s (g, held) root = .ok (g', held')) :
    Drafted s g' ∧ g'.enumModule = g.enumModule ∧
      (∀ n, n ∈ held' ↔ n ∈ held ∨ n = root.fullName) ∧
      ∀ n, n ∈ held' ↔ ∃ i, g'.messageModule.find? n = some i := by
  unfold ModuleGraph.messageModuleStep at hstep
  dsimp only at hstep
  rw [if_neg (by simpa using hnew)] at hstep
  obtain ⟨⟨g₁, m⟩, hadd, hstep⟩ := bind_eq_ok.mp hstep
  obtain ⟨rfl, rfl⟩ := Prod.mk.inj (Except.ok.inj hstep)
  have hnone : g.messageModule.find? root.fullName = none := by
    rw [Option.eq_none_iff_forall_not_mem]
    exact fun i hi => hnew ((hheld _).mpr ⟨i, hi⟩)
  obtain ⟨hdrafted, hroots, henums, hmessages⟩ := h.addMessageModule hs hroot hnone hadd
  have hmem : ∀ n, n ∈ held ++ m.rootMessages.toList ↔ n ∈ held ∨ n = root.fullName := by
    intro n
    rw [hroots, List.mem_append, List.mem_singleton]
  exact ⟨hdrafted, henums, hmem, fun n => by rw [hmem, hmessages, hheld]⟩

/-- Modules for several root messages. -/
theorem Drafted.addMessageModules (hs : s.WellNested) {g g' : ModuleGraph}
    {held held' : List Label} {roots : List MessageType} (h : Drafted s g)
    (hfound : ∀ root ∈ roots, s.messages.find? root.fullName = some root)
    (hnodup : (roots.map (·.fullName)).Nodup)
    (hheld : ∀ n, n ∈ held ↔ ∃ i, g.messageModule.find? n = some i)
    (hnew : ∀ root ∈ roots, root.fullName ∉ held)
    (hfold : roots.foldlM (ModuleGraph.messageModuleStep s) (g, held) = .ok (g', held')) :
    Drafted s g' ∧ g'.enumModule = g.enumModule ∧
      ∀ n, (∃ i, g'.messageModule.find? n = some i) ↔
        (∃ i, g.messageModule.find? n = some i) ∨ n ∈ roots.map (·.fullName) := by
  induction roots generalizing g held with
  | nil =>
      obtain ⟨rfl, rfl⟩ := Prod.mk.inj (Except.ok.inj hfold)
      exact ⟨h, rfl, by simp⟩
  | cons root rest ih =>
      rw [List.map_cons, List.nodup_cons] at hnodup
      obtain ⟨hroot, hrest⟩ := List.forall_mem_cons.mp hfound
      obtain ⟨hnewRoot, hnewRest⟩ := List.forall_mem_cons.mp hnew
      rw [List.foldlM_cons] at hfold
      obtain ⟨⟨g₁, held₁⟩, hstep, hfold⟩ := bind_eq_ok.mp hfold
      obtain ⟨hdrafted, henums, hgrown, hheld₁⟩ := h.messageModuleStep hs hroot hheld hnewRoot hstep
      have hnew₁ : ∀ x ∈ rest, x.fullName ∉ held₁ := by
        intro x hx hmem
        rcases (hgrown _).mp hmem with hmem | hmem
        · exact hnewRest x hx hmem
        · exact hnodup.1 (hmem ▸ List.mem_map_of_mem hx)
      obtain ⟨hdrafted', henums', hmessages'⟩ :=
        ih hdrafted hrest hnodup.2 hheld₁ hnew₁ hfold
      refine ⟨hdrafted', henums'.trans henums, fun n => ?_⟩
      rw [hmessages', ← hheld₁, hgrown, hheld, List.map_cons, List.mem_cons, or_assoc]

theorem drafted_empty : Drafted s {} := by
  have hnone : ∀ {i m}, ({} : ModuleGraph).modules.find? i ≠ some m := fun h => by cases h
  have howners : ∀ roots, ({} : ModuleGraph).OwnersExact roots ∅ := by
    intro roots name i
    constructor
    · intro h
      cases h
    · rintro ⟨m, hm, -⟩
      exact absurd hm hnone
  exact ⟨fun h => absurd h hnone, fun h => absurd h hnone, fun h => absurd h hnone,
    fun h => absurd h hnone, howners _, howners _, fun h => absurd h hnone,
    fun h => absurd h hnone, fun h => absurd h hnone, fun h => absurd h hnone⟩

/-- The modules of the root enums. -/
theorem drafted_of_addEnumModules (hs : s.WellNested) {g : ModuleGraph}
    (h : ModuleGraph.addEnumModules s {} = .ok g) :
    Drafted s g ∧ (∀ n, g.messageModule.find? n = none) ∧
      ∀ n, (∃ i, g.enumModule.find? n = some i) ↔
        ∃ e, s.enums.find? n = some e ∧ e.isRoot = true := by
  unfold ModuleGraph.addEnumModules at h
  obtain ⟨enums, hsorted, h⟩ := bind_eq_ok.mp h
  obtain rfl := Except.ok.inj h
  have hperm := Label.perm_of_sortOnPair hsorted
  -- Enums stand under their names, so these are all different.
  have hnames : (enums.map (·.fullName)).Nodup := by
    refine (hperm.map _).nodup_iff.mpr ?_
    exact (Registry.nodup_map_values hs.keyed_enum).sublist (List.filter_sublist.map _)
  obtain ⟨hdrafted, hnoMessages, howned⟩ := (drafted_empty (s := s)).addEnumModules
    (fun e he => ((Schema.mem_rootEnums_iff hs.keyed_enum).mp (hperm.mem_iff.mp he)).1) hnames
    (fun e _ => rfl)
  refine ⟨hdrafted, fun n => ?_, fun n => ?_⟩
  · rw [hnoMessages]
    rfl
  · rw [howned, (hperm.map _).mem_iff, List.mem_map]
    constructor
    · rintro (⟨i, hi⟩ | ⟨e, he, rfl⟩)
      · cases hi
      · exact ⟨e, (Schema.mem_rootEnums_iff hs.keyed_enum).mp he⟩
    · rintro ⟨e, he, hroot⟩
      obtain rfl := hs.keyed_enum he
      exact Or.inr ⟨e, (Schema.mem_rootEnums_iff hs.keyed_enum).mpr ⟨he, hroot⟩, rfl⟩

/-- The modules before edges are added: one for each root type. -/
theorem drafted_of_stages (hs : s.WellNested) {g₁ g₂ : ModuleGraph}
    (henums : addEnumModules s {} = .ok g₁) (hmessages : addMessageModules s g₁ = .ok g₂) :
    Drafted s g₂ ∧
      (∀ n, (∃ i, g₂.messageModule.find? n = some i) ↔
        ∃ m, s.messages.find? n = some m ∧ m.isRoot = true) ∧
      ∀ n, (∃ i, g₂.enumModule.find? n = some i) ↔
        ∃ e, s.enums.find? n = some e ∧ e.isRoot = true := by
  obtain ⟨hdrafted, hnone, howned⟩ := drafted_of_addEnumModules hs henums
  unfold ModuleGraph.addMessageModules at hmessages
  obtain ⟨⟨g, held⟩, hfold, hmessages⟩ := bind_eq_ok.mp hmessages
  obtain rfl : g = g₂ := Except.ok.inj hmessages
  obtain ⟨hdrafted', hsame, howned'⟩ := hdrafted.addMessageModules hs
    (fun root hroot => ((Schema.mem_rootMessages_iff hs.keyed_message).mp hroot).1)
    hs.nodup_rootMessages (fun n => by simp [hnone]) (fun _ _ => List.not_mem_nil) hfold
  refine ⟨hdrafted', fun n => ?_, fun n => ?_⟩
  · rw [howned', hnone, List.mem_map]
    simp only [reduceCtorEq, exists_false, false_or]
    constructor
    · rintro ⟨m, hm, rfl⟩
      exact ⟨m, (Schema.mem_rootMessages_iff hs.keyed_message).mp hm⟩
    · rintro ⟨m, hm, hroot⟩
      obtain rfl := hs.keyed_message hm
      exact ⟨m, (Schema.mem_rootMessages_iff hs.keyed_message).mpr ⟨hm, hroot⟩, rfl⟩
  · rw [hsame]
    exact howned n

end ModuleGraph

end SchemaRecovery
