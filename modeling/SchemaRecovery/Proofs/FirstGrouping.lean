/-
  SchemaRecovery.Proofs.FirstGrouping

  The first grouping of an analysed schema always comes about, if namespaces are
  not null: whatever a message depends on is a type of the schema, the root
  message around it is one, and no module needs what it holds itself
  (`partition_ok`). It has one module for each root type, and edges to the modules
  of the types that the messages of a family depend on (`partition_exact`).

  Enums in a message without a name count as root enums, but that message takes
  them for its own and its module gets no edge to theirs
  (`nameless_without_edge`).
-/
import SchemaRecovery.Proofs.Partition

namespace SchemaRecovery

open Relation

/-! ## What messages depend on -/

namespace Schema

variable {u s : Schema}

/-- What is needed is there and has a name: a root message, or a root enum. -/
def Provides (s : Schema) : RootNeed → Prop
  | .message name => name ≠ none ∧ ∃ root, s.messages.find? name = some root ∧ root.isRoot = true
  | .enum name => name ≠ none ∧ ∃ e, s.enums.find? name = some e ∧ e.isRoot = true

namespace Resolved

variable {n : Label} {m : MessageType} {name : Text}

theorem message_of_dependsOn (h : Resolved u s) (hm : s.messages.find? n = some m)
    (hname : name ∈ m.dependsOnMessages) :
    TypeReference.StartsName name ∧ ∃ y, s.messages.find? (some name) = some y := by
  have hrecorded := h.recorded hm
  obtain ⟨hneed, hnoEnum⟩ := (hrecorded.messages name).mp hname
  obtain ⟨hstart, ⟨-, -, hdep⟩ | ⟨y, hy, -⟩⟩ := h.mentioned hm hneed
  · rw [((hrecorded.enums name).mp hdep).2] at hnoEnum
    cases hnoEnum
  · exact ⟨hstart, y, hy⟩

theorem enum_of_dependsOn (h : Resolved u s) (hm : s.messages.find? n = some m)
    (hname : name ∈ m.dependsOnEnums) : ∃ e, s.enums.find? (some name) = some e := by
  have hrecorded := h.recorded hm
  obtain ⟨hneed, henum⟩ := (hrecorded.enums name).mp hname
  obtain ⟨-, ⟨e, he, -⟩ | ⟨-, -, hdep⟩⟩ := h.mentioned hm hneed
  · exact ⟨e, he⟩
  · rw [((hrecorded.messages name).mp hdep).2] at henum
    cases henum

end Resolved

/-- The root of a message whose name begins like names do is a root message. -/
theorem WellNested.provides_root (hs : s.WellNested) {name : Text} {y : MessageType}
    (hy : s.messages.find? (some name) = some y) (hstart : TypeReference.StartsName name) :
    s.Provides (.message y.root) := by
  rw [hs.root_eq_owner hy hstart]
  unfold MessageType.owner
  cases hroot : y.rootMessage with
  | none =>
      have hfull : y.fullName = some name := hs.keyed_message hy
      have hisRoot : y.isRoot = true := by
        unfold MessageType.isRoot
        rw [hroot]
        rfl
      rw [Option.none_or, hfull]
      exact ⟨nofun, y, hy, hisRoot⟩
  | some r => exact ⟨nofun, (hs.owned_message hy hroot).1⟩

theorem WellNested.provides_need (hs : s.WellNested) {name : Text} {e : EnumType}
    (he : s.enums.find? (some name) = some e) : s.Provides e.need := by
  unfold EnumType.need
  cases hroot : e.rootMessage with
  | none =>
      have hfull : e.fullName = some name := hs.keyed_enum he
      have hisRoot : e.isRoot = true := by
        unfold EnumType.isRoot
        rw [hroot]
        rfl
      dsimp only
      rw [hfull]
      exact ⟨nofun, e, he, hisRoot⟩
  | some r => exact ⟨nofun, (hs.owned_enum he hroot).1⟩

/-- What a family needs outside it is there, and is not the family itself. -/
theorem Resolved.provides (h : Resolved u s) {root : Label} {x : RootNeed}
    (hx : s.FamilyNeed root x) : s.Provides x ∧ x ≠ .message root := by
  have hs := h.toWellNested
  obtain ⟨m, hm, -, ⟨name, hname, y, hy, hother, rfl⟩ | ⟨name, hname, e, he, hother, rfl⟩⟩ := hx
  · have hstart := (h.message_of_dependsOn hm hname).1
    exact ⟨hs.provides_root hy hstart, fun heq => hother (RootNeed.message.inj heq)⟩
  · refine ⟨hs.provides_need he, fun heq => hother ?_⟩
    unfold EnumType.need at heq
    cases hroot : e.rootMessage with
    | none =>
        rw [hroot] at heq
        cases heq
    | some r =>
        rw [hroot] at heq
        exact RootNeed.message.inj heq

end Schema

/-! ## Modules without edges -/

namespace ModuleGraph

variable {u s : Schema}

/-- What a message of a family needs outside it can be recorded by a module that
    holds nothing but the root message. -/
theorem addOutsideNeeds_ok (h : Schema.Resolved u s) {root n : Label} {m : SchemaModule}
    {message : MessageType} (hmessage : s.messages.find? n = some message)
    (hroots : m.rootMessages = OrderedSet.singleton root) :
    ∃ m', addOutsideNeeds s root m message = .ok m' ∧
      m'.rootMessages = OrderedSet.singleton root := by
  -- A need outside the family is not among the roots of the module.
  have hadd : ∀ {m : SchemaModule} {owner : Label}, m.rootMessages = OrderedSet.singleton root →
      owner ≠ root → ∃ m', m.addDependsOnMessage owner = .ok m' ∧
        m'.rootMessages = OrderedSet.singleton root := by
    intro m owner hroots hother
    unfold SchemaModule.addDependsOnMessage
    rw [hroots, if_neg fun hmem => hother (OrderedSet.mem_singleton.mp hmem)]
    exact ⟨_, rfl, rfl⟩
  have hmessages := foldlM_ok (f := fun (m : SchemaModule) name => do
      let owner := (← s.message (some name)).root
      if owner = root then return m else m.addDependsOnMessage owner)
    (fun rest m => rest ⊆ message.dependsOnMessages.toList ∧
      m.rootMessages = OrderedSet.singleton root) ?_ ⟨fun _ hx => hx, hroots⟩
  · obtain ⟨mid, hmid, -, hroots⟩ := hmessages
    have henums := foldlM_ok (f := fun (m : SchemaModule) name => do
        let e ← s.enum (some name)
        if e.rootMessage = root then return m else m.addDependsOnEnum e)
      (fun rest m => rest ⊆ message.dependsOnEnums.toList ∧
        m.rootMessages = OrderedSet.singleton root) ?_ ⟨fun _ hx => hx, hroots⟩
    · obtain ⟨m', hm', -, hroots⟩ := henums
      exact ⟨m', bind_eq_ok.mpr ⟨mid, hmid, hm'⟩, hroots⟩
    · rintro name rest m ⟨hsub, hroots⟩
      obtain ⟨hname, hrest⟩ := List.cons_subset.mp hsub
      obtain ⟨e, he⟩ := h.enum_of_dependsOn hmessage hname
      rw [Schema.enum_eq_ok_iff.mpr he, ok_bind]
      split
      · exact ⟨m, rfl, hrest, hroots⟩
      · rename_i hother
        unfold SchemaModule.addDependsOnEnum
        split
        · rename_i r hr
          obtain ⟨m', hm', hroots'⟩ := hadd hroots (hr ▸ hother)
          exact ⟨m', hm', hrest, hroots'⟩
        · exact ⟨_, rfl, hrest, hroots⟩
  · rintro name rest m ⟨hsub, hroots⟩
    obtain ⟨hname, hrest⟩ := List.cons_subset.mp hsub
    obtain ⟨-, y, hy⟩ := h.message_of_dependsOn hmessage hname
    rw [Schema.message_eq_ok_iff.mpr hy, ok_bind]
    dsimp only
    split
    · exact ⟨m, rfl, hrest, hroots⟩
    · rename_i hother
      obtain ⟨m', hm', hroots'⟩ := hadd hroots hother
      exact ⟨m', hm', hrest, hroots'⟩

/-- The module of a root message, before what it needs is recorded. -/
def messageModuleOf (g : ModuleGraph) (root : MessageType) : SchemaModule :=
  { id := g.nextId, ns := root.ns, rootMessages := OrderedSet.singleton root.fullName }

/-- What the family of a root message needs outside it can be recorded by the module of
    the message. -/
theorem family_needs_ok (h : Schema.Resolved u s) (g : ModuleGraph) {root : MessageType}
    (hroot : s.messages.find? root.fullName = some root) (hisRoot : root.isRoot = true) :
    ∃ family m, s.family root = .ok family ∧
      family.foldlM (addOutsideNeeds s root.fullName) (g.messageModuleOf root) = .ok m ∧
      SchemaModule.Adds (s.FamilyNeed root.fullName) (g.messageModuleOf root) m := by
  have hs := h.toWellNested
  obtain ⟨family, hfamily⟩ := hs.family_ok hroot hisRoot
  have hneeds := foldlM_ok (f := addOutsideNeeds s root.fullName) (l := family)
    (b := g.messageModuleOf root)
    (fun rest m => rest ⊆ family ∧ m.rootMessages = OrderedSet.singleton root.fullName) ?_
    ⟨fun _ hx => hx, rfl⟩
  · obtain ⟨m, hm, -⟩ := hneeds
    exact ⟨family, m, hfamily, hm, adds_of_family hs hroot hfamily hm⟩
  · rintro message rest m ⟨hsub, hroots⟩
    obtain ⟨hmem, hrest⟩ := List.cons_subset.mp hsub
    have hmessage := ((Schema.mem_family_iff hs hroot hfamily).mp hmem).1
    obtain ⟨m', hm', hroots'⟩ := addOutsideNeeds_ok h hmessage hroots
    exact ⟨m', hm', hrest, hroots'⟩

/-- A root message that no module holds gets one. -/
theorem addMessageModule_ok (h : Schema.Resolved u s) {g : ModuleGraph} {root : MessageType}
    (hroot : s.messages.find? root.fullName = some root) (hisRoot : root.isRoot = true)
    (hnew : g.messageModule.find? root.fullName = none) :
    ∃ r, addMessageModule s g root = .ok r := by
  obtain ⟨family, m, hfamily, hm, -⟩ := family_needs_ok h g hroot hisRoot
  unfold messageModuleOf at hm
  unfold addMessageModule create
  dsimp only
  rw [hfamily, ok_bind, hm, ok_bind, hnew]
  exact ⟨_, rfl⟩

/-- Every root message gets a module. -/
theorem addMessageModules_ok (h : Schema.Resolved u s) {g : ModuleGraph} (hg : Drafted s g)
    (hnone : ∀ n, g.messageModule.find? n = none) : ∃ g', addMessageModules s g = .ok g' := by
  have hs := h.toWellNested
  have hfold := foldlM_ok (f := messageModuleStep s) (l := s.rootMessages) (b := (g, []))
    (fun rest state => Drafted s state.1 ∧ rest ⊆ s.rootMessages ∧
      (∀ n, n ∈ state.2 ↔ ∃ i, state.1.messageModule.find? n = some i) ∧
      (rest.map (·.fullName)).Nodup ∧ ∀ root ∈ rest, root.fullName ∉ state.2) ?_
    ⟨hg, fun _ hx => hx, fun n => by simp [hnone], hs.nodup_rootMessages,
      fun _ _ => List.not_mem_nil⟩
  · obtain ⟨⟨g', held⟩, hg', -⟩ := hfold
    exact ⟨g', bind_eq_ok.mpr ⟨_, hg', rfl⟩⟩
  · rintro root rest ⟨g, held⟩ ⟨hg, hsub, hheld, hnodup, hnew⟩
    dsimp only at hg hheld hnew
    rw [List.map_cons, List.nodup_cons] at hnodup
    obtain ⟨hmem, hrest⟩ := List.cons_subset.mp hsub
    obtain ⟨hnewRoot, hnewRest⟩ := List.forall_mem_cons.mp hnew
    obtain ⟨hroot, hisRoot⟩ := (Schema.mem_rootMessages_iff hs.keyed_message).mp hmem
    have hfree : g.messageModule.find? root.fullName = none := by
      rw [Option.eq_none_iff_forall_not_mem]
      exact fun i hi => hnewRoot ((hheld _).mpr ⟨i, hi⟩)
    obtain ⟨⟨g₁, m⟩, hadd⟩ := addMessageModule_ok h hroot hisRoot hfree
    have hstep : messageModuleStep s (g, held) root = .ok (g₁, held ++ m.rootMessages.toList) := by
      unfold messageModuleStep
      dsimp only
      rw [if_neg (by simpa using hnewRoot), hadd]
      rfl
    obtain ⟨hg₁, -, hgrown, hheld₁⟩ := hg.messageModuleStep hs hroot hheld hnewRoot hstep
    refine ⟨_, hstep, hg₁, hrest, hheld₁, hnodup.2, fun x hx hmem => ?_⟩
    rcases (hgrown _).mp hmem with hmem | hmem
    · exact hnewRest x hx hmem
    · exact hnodup.1 (hmem ▸ List.mem_map_of_mem hx)

/-! ## Edges -/

theorem addEdge_ok {g : ModuleGraph} {i j : Int} (hi : g.Live i) (hj : g.Live j) :
    ∃ g', g.addEdge i j = .ok g' := by
  obtain ⟨m, hm⟩ := hi
  obtain ⟨n, hn⟩ := hj
  unfold addEdge modify
  rw [module_eq_ok_iff.mpr hm, ok_bind]
  -- The second end may be the first one, changed.
  have hsecond : ∃ n', (g.modules.insert i
      { m with dependsOn := m.dependsOn.insert j }).find? j = some n' := by
    rw [Registry.find?_insert]
    split
    · exact ⟨_, rfl⟩
    · exact ⟨n, hn⟩
  obtain ⟨n', hn'⟩ := hsecond
  exact ⟨_, bind_eq_ok.mpr ⟨_, rfl, bind_eq_ok.mpr ⟨n', module_eq_ok_iff.mpr hn', rfl⟩⟩⟩

/-- A module gets an edge to another one that is found. -/
theorem addNeed_ok {base g : ModuleGraph} (h : SameOwners base g) {m : SchemaModule} {i : Int}
    (hm : base.Live m.id) (hi : base.Live i) (hne : i ≠ m.id) :
    ∃ g', (g.module i >>= fun other => addNeed m g other) = .ok g' := by
  obtain ⟨other, hother⟩ := (h.live i).mpr hi
  have hid := h.keyed hother
  rw [module_eq_ok_iff.mpr hother, ok_bind, addNeed, hid, if_neg hne]
  exact addEdge_ok ((h.live m.id).mpr hm) ((h.live i).mpr hi)

/-- A set of names can be listed in order. -/
theorem sorted_ok {names : OrderedSet Label} (h : ∀ n ∈ names, n ≠ none) :
    ∃ l, Label.sorted names = .ok l ∧ ∀ n ∈ l, n ∈ names := by
  have hnodup : (names.toList.map id).Nodup := by
    rw [List.map_id]
    exact names.nodup_toList
  rcases Label.sortOn_decides hnodup with ⟨l, hl, hperm, -⟩ | ⟨-, hnot⟩
  · exact ⟨l, hl, fun n hn => hperm.mem_iff.mp hn⟩
  · rw [List.map_id] at hnot
    exact absurd (fun hnone => absurd rfl (h none hnone)) hnot

/-- What a module needs is held by other modules. -/
structure Suppliable (base : ModuleGraph) (m : SchemaModule) : Prop where
  live : base.Live m.id
  message : ∀ n ∈ m.dependsOnRootMessages, n ≠ none ∧
    ∃ i, base.messageModule.find? n = some i ∧ base.Live i ∧ i ≠ m.id
  enum : ∀ n ∈ m.dependsOnRootEnums, n ≠ none ∧
    ∃ i, base.enumModule.find? n = some i ∧ base.Live i ∧ i ≠ m.id

theorem addEdgesOf_ok {base g : ModuleGraph} {m : SchemaModule} (h : SameOwners base g)
    (hm : Suppliable base m) : ∃ g', g.addEdgesOf m = .ok g' ∧ SameOwners base g' := by
  obtain ⟨messages, hmessages, hmem⟩ := sorted_ok fun n hn => (hm.message n hn).1
  obtain ⟨enums, henums, hmem'⟩ := sorted_ok fun n hn => (hm.enum n hn).1
  have hfirst := foldlM_ok (f := fun (g : ModuleGraph) name => do
      addNeed m g (← g.moduleForMessage name))
    (fun rest g => rest ⊆ messages ∧ SameOwners base g) ?_ ⟨fun _ hx => hx, h⟩
  · obtain ⟨g₁, hg₁, -, hsame⟩ := hfirst
    have hsecond := foldlM_ok (f := fun (g : ModuleGraph) name => do
        addNeed m g (← g.moduleForEnum name))
      (fun rest g => rest ⊆ enums ∧ SameOwners base g) ?_ ⟨fun _ hx => hx, hsame⟩
    · obtain ⟨g₂, hg₂, -, hsame'⟩ := hsecond
      refine ⟨g₂, ?_, hsame'⟩
      unfold addEdgesOf
      rw [hmessages, ok_bind, hg₁, ok_bind, henums, ok_bind]
      exact hg₂
    · rintro name rest g ⟨hsub, hsame⟩
      obtain ⟨hname, hrest⟩ := List.cons_subset.mp hsub
      obtain ⟨-, i, hi, hlive, hne⟩ := hm.enum name (hmem' name hname)
      obtain ⟨g', hg'⟩ := addNeed_ok hsame hm.live hlive hne
      have hstep : (do addNeed m g (← g.moduleForEnum name)) = .ok g' := by
        unfold moduleForEnum
        rw [hsame.enumModule, hi]
        exact hg'
      exact ⟨g', hstep, hrest, hsame.wires (wires_of_enumNeed hsame hstep)⟩
  · rintro name rest g ⟨hsub, hsame⟩
    obtain ⟨hname, hrest⟩ := List.cons_subset.mp hsub
    obtain ⟨-, i, hi, hlive, hne⟩ := hm.message name (hmem name hname)
    obtain ⟨g', hg'⟩ := addNeed_ok hsame hm.live hlive hne
    have hstep : (do addNeed m g (← g.moduleForMessage name)) = .ok g' := by
      unfold moduleForMessage
      rw [hsame.messageModule, hi]
      exact hg'
    exact ⟨g', hstep, hrest, hsame.wires (wires_of_messageNeed hsame hstep)⟩

theorem addAllEdges_ok {g : ModuleGraph}
    (hkeyed : ∀ {i m}, g.modules.find? i = some m → m.id = i)
    (hall : ∀ {i m}, g.modules.find? i = some m → Suppliable g m) :
    ∃ g', g.addAllEdges = .ok g' := by
  have hsame : SameOwners g g := ⟨rfl, rfl, hkeyed, fun _ => Iff.rfl⟩
  have hfold := foldlM_ok (f := addEdgesOf) (l := g.sortedModules) (b := g)
    (fun rest g' => (∀ m ∈ rest, Suppliable g m) ∧ SameOwners g g') ?_ ⟨?_, hsame⟩
  · obtain ⟨g', hg', -⟩ := hfold
    exact ⟨g', hg'⟩
  · rintro m rest g' ⟨hrest, hsame⟩
    obtain ⟨hm, hrest⟩ := List.forall_mem_cons.mp hrest
    obtain ⟨g'', hg'', hsame'⟩ := addEdgesOf_ok hsame hm
    exact ⟨g'', hg'', hrest, hsame'⟩
  · intro m hm
    unfold sortedModules at hm
    obtain ⟨i, -, hi⟩ := List.mem_filterMap.mp hm
    exact hall hi

end ModuleGraph

/-- The module needs what the families of its root messages need and it does not hold
    itself. -/
def SchemaModule.NeedsFamilies (s : Schema) (m : SchemaModule) : Prop :=
  ∀ x, m.Requires x ↔ (∃ root ∈ m.rootMessages, s.FamilyNeed root x) ∧ ¬ m.Owns x

/-- A module with one root type holds nothing that its family needs. -/
theorem SchemaModule.Single.needsFamilies (h : Schema.Resolved u s) {m : SchemaModule}
    (hsingle : m.Single)
    (hneeds : ∀ x, m.Requires x ↔ ∃ root ∈ m.rootMessages, s.FamilyNeed root x) :
    m.NeedsFamilies s := by
  intro x
  rw [hneeds, iff_self_and]
  rintro ⟨root, hroot, hneed⟩ howns
  -- The module holds no root type but the one whose family has the need.
  rcases hsingle with ⟨r, hr, henums⟩ | ⟨-, -, hnone⟩
  · cases x with
    | message name =>
        rw [hr, OrderedSet.mem_singleton] at hroot
        have hname : name = r := OrderedSet.mem_singleton.mp (hr ▸ howns)
        exact (h.provides hneed).2 (by rw [hname, hroot])
    | enum name => exact OrderedSet.not_mem_empty name (henums ▸ howns)
  · exact OrderedSet.not_mem_empty root (hnone ▸ hroot)

namespace ModuleGraph

/-- What a module needs for its families is held by others, if all root types have
    modules. -/
theorem suppliable_of_needsFamilies (h : Schema.Resolved u s) {g : ModuleGraph}
    (hmessages : g.OwnersExact (·.rootMessages) g.messageModule)
    (henums : g.OwnersExact (·.rootEnums) g.enumModule)
    (hmessageOwned : ∀ n, (∃ i, g.messageModule.find? n = some i) ↔
      ∃ m, s.messages.find? n = some m ∧ m.isRoot = true)
    (henumOwned : ∀ n, (∃ i, g.enumModule.find? n = some i) ↔
      ∃ e, s.enums.find? n = some e ∧ e.isRoot = true)
    {m : SchemaModule} (hm : g.modules.find? m.id = some m) (hneeds : m.NeedsFamilies s) :
    Suppliable g m := by
  refine ⟨⟨m, hm⟩, fun n hn => ?_, fun n hn => ?_⟩
  · obtain ⟨⟨root, -, hneed⟩, hnot⟩ := (hneeds (.message n)).mp hn
    obtain ⟨hname, hfound⟩ := (h.provides hneed).1
    obtain ⟨j, hj⟩ := (hmessageOwned n).mpr hfound
    obtain ⟨m', hm', hmem⟩ := (hmessages n j).mp hj
    refine ⟨hname, j, hj, ⟨m', hm'⟩, ?_⟩
    rintro rfl
    rw [hm, Option.some.injEq] at hm'
    exact hnot (hm' ▸ hmem)
  · obtain ⟨⟨root, -, hneed⟩, hnot⟩ := (hneeds (.enum n)).mp hn
    obtain ⟨hname, hfound⟩ := (h.provides hneed).1
    obtain ⟨j, hj⟩ := (henumOwned n).mpr hfound
    obtain ⟨m', hm', hmem⟩ := (henums n j).mp hj
    refine ⟨hname, j, hj, ⟨m', hm'⟩, ?_⟩
    rintro rfl
    rw [hm, Option.some.injEq] at hm'
    exact hnot (hm' ▸ hmem)

theorem Drafted.needsFamilies (h : Schema.Resolved u s) {g : ModuleGraph} (hg : Drafted s g)
    {i : Int} {m : SchemaModule} (hm : g.modules.find? i = some m) : m.NeedsFamilies s :=
  (hg.single hm).needsFamilies h (hg.needs hm)

/-- The first grouping comes about if the root enums can be put in order. -/
theorem partition_ok (h : Schema.Resolved u s) {g₁ : ModuleGraph}
    (henums : addEnumModules s {} = .ok g₁) : ∃ g, (partition s {}).outcome = .ok g := by
  have hs := h.toWellNested
  obtain ⟨hg₁, hnone, -⟩ := drafted_of_addEnumModules hs henums
  obtain ⟨g₂, hg₂⟩ := addMessageModules_ok h hg₁ hnone
  obtain ⟨hdrafted, hmessageOwned, henumOwned⟩ := drafted_of_stages hs henums hg₂
  obtain ⟨g, hg⟩ := addAllEdges_ok hdrafted.keyed fun hm =>
    suppliable_of_needsFamilies h hdrafted.messages hdrafted.enums hmessageOwned henumOwned
      (hdrafted.keyed hm ▸ hm) (hdrafted.needsFamilies h hm)
  exact ⟨g, by rw [outcome_partition, henums, ok_bind, hg₂, ok_bind, hg]⟩

/-- Enums with names in namespaces can be put in order. -/
theorem addEnumModules_ok (g : ModuleGraph)
    (h : ∀ e ∈ s.rootEnums, e.ns ≠ none ∧ e.fullName ≠ none) :
    ∃ g', addEnumModules s g = .ok g' := by
  have hsort : ∃ r, Label.sortOnPair (fun e : EnumType => (e.ns, e.fullName)) s.rootEnums = .ok r :=
    Label.sortOnPair_ok h
  obtain ⟨enums, henums⟩ := hsort
  exact ⟨_, bind_eq_ok.mpr ⟨enums, henums, rfl⟩⟩

end ModuleGraph

/-! ## What the modules hold -/

namespace SchemaModule

/-- The module is that of a root message. -/
structure OfMessage (x : SchemaModule) (root : MessageType) : Prop where
  messages : x.rootMessages = OrderedSet.singleton root.fullName
  enums : x.rootEnums = ∅
  ns : x.ns = root.ns

/-- The module is that of a root enum. -/
structure OfEnum (x : SchemaModule) (e : EnumType) : Prop where
  enums : x.rootEnums = OrderedSet.singleton e.fullName
  messages : x.rootMessages = ∅
  ns : x.ns = e.ns

end SchemaModule

namespace MessageType

variable (s : Schema) (m : MessageType) (y : SchemaModule)

/-- The message depends on one whose root message the module holds. -/
def NeedsMessageIn : Prop :=
  ∃ name ∈ m.dependsOnMessages, ∃ t, s.messages.find? (some name) = some t ∧
    t.root ∈ y.rootMessages

/-- The message depends on an enum in a root message that the module holds. -/
def NeedsEnumIn : Prop :=
  ∃ name ∈ m.dependsOnEnums, ∃ e r, s.enums.find? (some name) = some e ∧
    e.rootMessage = some r ∧ some r ∈ y.rootMessages

/-- The message depends on a root enum that the module holds. -/
def NeedsRootEnum : Prop :=
  ∃ name ∈ m.dependsOnEnums, ∃ e, s.enums.find? (some name) = some e ∧ e.fullName ∈ y.rootEnums

end MessageType

namespace ModuleGraph

variable {u s : Schema}

/-- A message of the family of a root message depends on something in the module.
    A root message without a name takes root enums for its own. -/
def FamilyLeadsTo (s : Schema) (root : MessageType) (y : SchemaModule) : Prop :=
  ∃ family, s.family root = .ok family ∧ ∃ m ∈ family,
    m.NeedsMessageIn s y ∨ m.NeedsEnumIn s y ∨ m.NeedsRootEnum s y ∧ root.fullName ≠ none

/-- One live module for each root type, which holds nothing else, with edges to the
    other modules that have what its family depends on. -/
structure FirstGrouping (s : Schema) (g : ModuleGraph) : Prop where
  message : ∀ root ∈ s.rootMessages, ∃! i, ∃ x, g.modules.find? i = some x ∧ x.OfMessage root
  enum : ∀ e ∈ s.rootEnums, ∃! i, ∃ x, g.modules.find? i = some x ∧ x.OfEnum e
  module : ∀ i x, g.modules.find? i = some x → x.id = i ∧ x.removed = false ∧
    ((∃ root ∈ s.rootMessages, x.OfMessage root) ∨ ∃ e ∈ s.rootEnums, x.OfEnum e)
  dependsOn : ∀ i x, g.modules.find? i = some x → ∀ j, j ∈ x.dependsOn ↔
    i ≠ j ∧ ∃ y, g.modules.find? j = some y ∧
      ∃ root ∈ s.rootMessages, x.OfMessage root ∧ FamilyLeadsTo s root y
  dependedOnBy : ∀ j y, g.modules.find? j = some y → ∀ i, i ∈ y.dependedOnBy ↔
    ∃ x, g.modules.find? i = some x ∧ j ∈ x.dependsOn
  messageModule : ∀ n i, g.messageModule.find? n = some i ↔
    ∃ root ∈ s.rootMessages, root.fullName = n ∧
      ∃ x, g.modules.find? i = some x ∧ x.OfMessage root
  enumModule : ∀ n i, g.enumModule.find? n = some i ↔
    ∃ e ∈ s.rootEnums, e.fullName = n ∧ ∃ x, g.modules.find? i = some x ∧ x.OfEnum e

section Grouping

variable {g : ModuleGraph} {i j : Int} {x y : SchemaModule}

/-- The names that a look-up sends to a module are those of its root types. -/
theorem OwnersExact.find?_iff {roots : SchemaModule → OrderedSet Label}
    {owners : Registry Label Int} (h : g.OwnersExact roots owners)
    (hx : g.modules.find? i = some x) (n : Label) : owners.find? n = some i ↔ n ∈ roots x := by
  rw [h n i]
  constructor
  · rintro ⟨x', hx', hn⟩
    rw [hx, Option.some.injEq] at hx'
    exact hx' ▸ hn
  · exact fun hn => ⟨x, hx, hn⟩

/-- A module with one root type that holds a root message is that of the message. -/
theorem Consistent.ofMessage_iff (hg : Consistent s g) (hx : g.modules.find? i = some x)
    (hsingle : x.Single) {root : MessageType}
    (hroot : s.messages.find? root.fullName = some root) :
    x.OfMessage root ↔ root.fullName ∈ x.rootMessages := by
  constructor
  · intro h
    rw [h.messages]
    exact OrderedSet.mem_singleton.mpr rfl
  · intro hmem
    obtain ⟨t, ht, hns⟩ := hg.message_ns hx root.fullName hmem
    rw [hroot, Option.some.injEq] at ht
    rcases hsingle with ⟨n, hn, henums⟩ | ⟨n, -, hnone⟩
    · rw [hn, OrderedSet.mem_singleton] at hmem
      exact ⟨hmem ▸ hn, henums, by rw [ht, hns]⟩
    · rw [hnone] at hmem
      exact absurd hmem (OrderedSet.not_mem_empty _)

theorem Consistent.ofEnum_iff (hg : Consistent s g) (hx : g.modules.find? i = some x)
    (hsingle : x.Single) {e : EnumType} (he : s.enums.find? e.fullName = some e) :
    x.OfEnum e ↔ e.fullName ∈ x.rootEnums := by
  constructor
  · intro h
    rw [h.enums]
    exact OrderedSet.mem_singleton.mpr rfl
  · intro hmem
    obtain ⟨t, ht, hns⟩ := hg.enum_ns hx e.fullName hmem
    rw [he, Option.some.injEq] at ht
    rcases hsingle with ⟨n, -, hnone⟩ | ⟨n, hn, hmessages⟩
    · rw [hnone] at hmem
      exact absurd hmem (OrderedSet.not_mem_empty _)
    · rw [hn, OrderedSet.mem_singleton] at hmem
      exact ⟨hmem ▸ hn, hmessages, by rw [ht, hns]⟩

/-- What a family needs in another module is what its messages depend on there. -/
theorem Partitioned.familyLeadsTo_iff (hg : Partitioned s g) (hs : s.WellNested)
    {root : MessageType} (hroot : s.messages.find? root.fullName = some root)
    (hisRoot : root.isRoot = true) (hi : g.messageModule.find? root.fullName = some i)
    (hy : g.modules.find? j = some y) (hij : i ≠ j) :
    (∃ need, s.FamilyNeed root.fullName need ∧ g.Holds need j) ↔ FamilyLeadsTo s root y := by
  obtain ⟨family, hfamily⟩ := hs.family_ok hroot hisRoot
  have hmem : ∀ m, m ∈ family ↔ _ := fun m => Schema.mem_family_iff hs hroot hfamily
  have hmessage : ∀ n, g.messageModule.find? n = some j ↔ n ∈ y.rootMessages :=
    hg.messages.find?_iff hy
  have henum : ∀ n, g.enumModule.find? n = some j ↔ n ∈ y.rootEnums := hg.enums.find?_iff hy
  -- The root message is in another module.
  have hother : ∀ n ∈ y.rootMessages, n ≠ root.fullName := by
    rintro n hn rfl
    have hj := (hmessage _).mpr hn
    rw [hi, Option.some.injEq] at hj
    exact hij hj
  constructor
  · rintro ⟨need, ⟨m, hm, hreach, hneed⟩, hholds⟩
    refine ⟨family, hfamily, m, (hmem m).mpr ⟨hm, hreach⟩, ?_⟩
    rcases hneed with ⟨name, hname, t, ht, -, rfl⟩ | ⟨name, hname, e, he, hown, rfl⟩
    · exact Or.inl ⟨name, hname, t, ht, (hmessage _).mp hholds⟩
    · unfold EnumType.need at hholds
      cases hr : e.rootMessage with
      | some r =>
          rw [hr] at hholds
          exact Or.inr (Or.inl ⟨name, hname, e, r, he, hr, (hmessage _).mp hholds⟩)
      | none =>
          rw [hr] at hholds hown
          exact Or.inr (Or.inr ⟨⟨name, hname, e, he, (henum _).mp hholds⟩, Ne.symm hown⟩)
  · rintro ⟨family', hfamily', m, hm, hleads⟩
    rw [hfamily, Except.ok.injEq] at hfamily'
    obtain ⟨hfound, hreach⟩ := (hmem m).mp (hfamily' ▸ hm)
    rcases hleads with ⟨name, hname, t, ht, hin⟩ | ⟨name, hname, e, r, he, hr, hin⟩ |
      ⟨⟨name, hname, e, he, hin⟩, hnamed⟩
    · exact ⟨.message t.root, ⟨m, hfound, hreach, Or.inl ⟨name, hname, t, ht, hother _ hin, rfl⟩⟩,
        (hmessage _).mpr hin⟩
    · have hneed : e.need = .message (some r) := by
        unfold EnumType.need
        rw [hr]
      exact ⟨.message (some r), ⟨m, hfound, hreach,
        Or.inr ⟨name, hname, e, he, hr ▸ hother _ hin, hneed.symm⟩⟩, (hmessage _).mpr hin⟩
    · -- What a module holds as a root enum is in no message.
      have hrootEnum : e.rootMessage = none := by
        obtain ⟨e', he', hisRootEnum⟩ := (hg.enum_owned _).mp ⟨j, (henum _).mpr hin⟩
        rw [hs.keyed_enum he, he, Option.some.injEq] at he'
        unfold EnumType.isRoot at hisRootEnum
        rw [he']
        exact Option.isNone_iff_eq_none.mp hisRootEnum
      have hneed : e.need = .enum e.fullName := by
        unfold EnumType.need
        rw [hrootEnum]
      exact ⟨.enum e.fullName, ⟨m, hfound, hreach,
        Or.inr ⟨name, hname, e, he, hrootEnum ▸ Ne.symm hnamed, hneed.symm⟩⟩, (henum _).mpr hin⟩

section Single

variable (hg : Partitioned s g) (hs : s.WellNested)
  (hsingle : ∀ {i x}, g.modules.find? i = some x → x.Single)

include hg hs hsingle

/-- A root message is sent to a module exactly if the module is its own. -/
theorem Partitioned.messageModule_root_iff {root : MessageType} (hroot : root ∈ s.rootMessages) :
    g.messageModule.find? root.fullName = some i ↔
      ∃ x, g.modules.find? i = some x ∧ x.OfMessage root := by
  rw [hg.messages]
  refine exists_congr fun x => and_congr_right fun hx => ?_
  have hfound := ((Schema.mem_rootMessages_iff hs.keyed_message).mp hroot).1
  exact (hg.ofMessage_iff hx (hsingle hx) hfound).symm

theorem Partitioned.enumModule_root_iff {e : EnumType} (he : e ∈ s.rootEnums) :
    g.enumModule.find? e.fullName = some i ↔ ∃ x, g.modules.find? i = some x ∧ x.OfEnum e := by
  rw [hg.enums]
  refine exists_congr fun x => and_congr_right fun hx => ?_
  have hfound := ((Schema.mem_rootEnums_iff hs.keyed_enum).mp he).1
  exact (hg.ofEnum_iff hx (hsingle hx) hfound).symm

theorem Partitioned.messageModule_iff (n : Label) (i : Int) :
    g.messageModule.find? n = some i ↔ ∃ root ∈ s.rootMessages, root.fullName = n ∧
      ∃ x, g.modules.find? i = some x ∧ x.OfMessage root := by
  constructor
  · intro hi
    obtain ⟨root, hroot, hisRoot⟩ := (hg.message_owned n).mp ⟨i, hi⟩
    obtain rfl := hs.keyed_message hroot
    have hmem := (Schema.mem_rootMessages_iff hs.keyed_message).mpr ⟨hroot, hisRoot⟩
    exact ⟨root, hmem, rfl, (hg.messageModule_root_iff hs hsingle hmem).mp hi⟩
  · rintro ⟨root, hmem, rfl, hx⟩
    exact (hg.messageModule_root_iff hs hsingle hmem).mpr hx

theorem Partitioned.enumModule_iff (n : Label) (i : Int) :
    g.enumModule.find? n = some i ↔ ∃ e ∈ s.rootEnums, e.fullName = n ∧
      ∃ x, g.modules.find? i = some x ∧ x.OfEnum e := by
  constructor
  · intro hi
    obtain ⟨e, he, hisRoot⟩ := (hg.enum_owned n).mp ⟨i, hi⟩
    obtain rfl := hs.keyed_enum he
    have hmem := (Schema.mem_rootEnums_iff hs.keyed_enum).mpr ⟨he, hisRoot⟩
    exact ⟨e, hmem, rfl, (hg.enumModule_root_iff hs hsingle hmem).mp hi⟩
  · rintro ⟨e, hmem, rfl, hx⟩
    exact (hg.enumModule_root_iff hs hsingle hmem).mpr hx

/-- Edges lead to the other modules that have what a family depends on. -/
theorem Partitioned.edge_iff (hx : g.modules.find? i = some x) (j : Int) :
    g.Edge i j ↔ i ≠ j ∧ ∃ y, g.modules.find? j = some y ∧
      ∃ root ∈ s.rootMessages, x.OfMessage root ∧ FamilyLeadsTo s root y := by
  constructor
  · intro hij
    obtain ⟨y, hy⟩ := hg.live_of_edge hij
    obtain ⟨hne, n, hi, hneed⟩ := (hg.edges i j).mp hij
    obtain ⟨root, hroot, rfl, x', hx', hof⟩ := (hg.messageModule_iff hs hsingle n i).mp hi
    rw [hx, Option.some.injEq] at hx'
    obtain ⟨hfound, hisRoot⟩ := (Schema.mem_rootMessages_iff hs.keyed_message).mp hroot
    exact ⟨hne, y, hy, root, hroot, hx' ▸ hof,
      (hg.familyLeadsTo_iff hs hfound hisRoot hi hy hne).mp hneed⟩
  · rintro ⟨hne, y, hy, root, hroot, hof, hleads⟩
    obtain ⟨hfound, hisRoot⟩ := (Schema.mem_rootMessages_iff hs.keyed_message).mp hroot
    have hi := (hg.messageModule_root_iff hs hsingle hroot).mpr ⟨x, hx, hof⟩
    exact (hg.edges i j).mpr ⟨hne, root.fullName, hi,
      (hg.familyLeadsTo_iff hs hfound hisRoot hi hy hne).mpr hleads⟩

/-- A graph in which every module has one root type is a first grouping. -/
theorem Partitioned.firstGrouping : FirstGrouping s g := by
  constructor
  case message =>
    intro root hroot
    have hfound := (Schema.mem_rootMessages_iff hs.keyed_message).mp hroot
    obtain ⟨i, hi⟩ := (hg.message_owned root.fullName).mpr ⟨root, hfound⟩
    refine ⟨i, (hg.messageModule_root_iff hs hsingle hroot).mp hi, fun j hj => ?_⟩
    have hj := (hg.messageModule_root_iff hs hsingle hroot).mpr hj
    rw [hi, Option.some.injEq] at hj
    exact hj.symm
  case enum =>
    intro e he
    have hfound := (Schema.mem_rootEnums_iff hs.keyed_enum).mp he
    obtain ⟨i, hi⟩ := (hg.enum_owned e.fullName).mpr ⟨e, hfound⟩
    refine ⟨i, (hg.enumModule_root_iff hs hsingle he).mp hi, fun j hj => ?_⟩
    have hj := (hg.enumModule_root_iff hs hsingle he).mpr hj
    rw [hi, Option.some.injEq] at hj
    exact hj.symm
  case module =>
    intro i x hx
    refine ⟨hg.keyed hx, hg.unremoved hx, ?_⟩
    rcases hg.rooted hx with ⟨n, hn⟩ | ⟨n, hn⟩
    · obtain ⟨root, hroot, -, x', hx', hof⟩ :=
        (hg.messageModule_iff hs hsingle n i).mp ((hg.messages.find?_iff hx n).mpr hn)
      rw [hx, Option.some.injEq] at hx'
      exact Or.inl ⟨root, hroot, hx' ▸ hof⟩
    · obtain ⟨e, he, -, x', hx', hof⟩ :=
        (hg.enumModule_iff hs hsingle n i).mp ((hg.enums.find?_iff hx n).mpr hn)
      rw [hx, Option.some.injEq] at hx'
      exact Or.inr ⟨e, he, hx' ▸ hof⟩
  case dependsOn =>
    intro i x hx j
    rw [← hg.edge_iff hs hsingle hx j]
    constructor
    · exact fun hj => ⟨x, hx, hj⟩
    · rintro ⟨x', hx', hj⟩
      rw [hx, Option.some.injEq] at hx'
      exact hx' ▸ hj
  case dependedOnBy =>
    intro j y hy i
    constructor
    · exact hg.back hy
    · rintro ⟨x, hx, hj⟩
      obtain ⟨y', hy', hi⟩ := hg.forth hx hj
      rw [hy, Option.some.injEq] at hy'
      exact hy' ▸ hi
  case messageModule => exact hg.messageModule_iff hs hsingle
  case enumModule => exact hg.enumModule_iff hs hsingle

end Single

/-- The module of a message without a name has no edge to that of a root enum. -/
theorem FirstGrouping.not_mem_dependsOn (h : FirstGrouping s g) (hx : g.modules.find? i = some x)
    {root : MessageType} (hroot : x.OfMessage root) (hnull : root.fullName = none)
    (hy : g.modules.find? j = some y) {e : EnumType} (he : y.OfEnum e) : j ∉ x.dependsOn := by
  rw [h.dependsOn i x hx j]
  rintro ⟨-, y', hy', root', -, hroot', family, -, m, -, hleads⟩
  rw [hy, Option.some.injEq] at hy'
  obtain rfl := hy'
  rcases hleads with ⟨-, -, t, -, hmem⟩ | ⟨-, -, -, r, -, -, hmem⟩ | ⟨-, hnamed⟩
  · rw [he.messages] at hmem
    exact OrderedSet.not_mem_empty _ hmem
  · rw [he.messages] at hmem
    exact OrderedSet.not_mem_empty _ hmem
  · have hsame : root.fullName ∈ x.rootMessages := by
      rw [hroot.messages]
      exact OrderedSet.mem_singleton.mpr rfl
    rw [hroot'.messages, OrderedSet.mem_singleton, hnull] at hsame
    exact hnamed hsame.symm

end Grouping

end ModuleGraph

/-- A type has a namespace if those at the top have one. -/
theorem Listing.ns_ne_none {a : Assembly} {l : List (TypeDescriptor × Label)} (ha : a.Named)
    (hns : ∀ t ∈ a.types, t.ns ≠ none) (hl : Listing none a.types l) {t : TypeDescriptor}
    {r : Label} (ht : (t, r) ∈ l) : t.ns ≠ none := by
  obtain ⟨top, htop, hmem⟩ := TypeDescriptor.mem_families.mp (hl.mem_allTypes ht)
  rw [ha.ns_eq ((TypeDescriptor.sublist_families a.types).subset htop) hmem]
  exact hns top htop

/-- The types of an assembly whose namespaces are not null are grouped once they have
    been analysed. -/
theorem Prepared.firstGrouping {a : Assembly} {l : List (TypeDescriptor × Label)}
    {discovered u : Schema} (h : Prepared a l discovered u) (ha : a.Named)
    (hns : ∀ t ∈ a.types, t.ns ≠ none) :
    ∃ g, (ModuleGraph.partition u.prune.1 {}).outcome = .ok g ∧
      ModuleGraph.FirstGrouping u.prune.1 g := by
  have hs := h.resolved.toWellNested
  -- Enums that are kept have names, and are in namespaces.
  have henums : ∀ e ∈ u.prune.1.rootEnums, e.ns ≠ none ∧ e.fullName ≠ none := by
    intro e he
    obtain ⟨hkept, -⟩ := (Schema.mem_rootEnums_iff hs.keyed_enum).mp he
    obtain ⟨hfound, x, hname, -⟩ := Schema.find?_enums_prune.mp hkept
    rw [h.same.enums] at hfound
    refine ⟨h.listing.ns_ne_none ha hns (h.entered.enum hfound).listed, ?_⟩
    rw [hname]
    exact nofun
  obtain ⟨g₁, hg₁⟩ := ModuleGraph.addEnumModules_ok {} henums
  obtain ⟨g, hg⟩ := ModuleGraph.partition_ok h.resolved hg₁
  exact ⟨g, hg, (ModuleGraph.partitioned_of_partition hs hg).firstGrouping hs
    (ModuleGraph.single_of_partition hs hg)⟩

/-- The first grouping of the types of an assembly whose namespaces are not
    null. -/
theorem ModuleGraph.partition_exact {d : AssemblyDeclaration} {a : Assembly}
    {gathered filled linked u : Schema} (hassembly : Assembly.ofDeclaration d = .ok a)
    (hns : ∀ t ∈ a.types, t.ns ≠ none) (hgather : Schema.gather a {} = .ok gathered)
    (hfields : gathered.populateFields.outcome = .ok filled)
    (hconnect : filled.connect = .ok linked)
    (hneeds : linked.populateDependencies.outcome = .ok u) :
    ∃ g, (partition u.prune.1 {}).outcome = .ok g ∧ FirstGrouping u.prune.1 g := by
  have ha := Assembly.named_of_ofDeclaration hassembly
  obtain ⟨-, l, h⟩ := prepared_of_steps ha hgather hfields hconnect hneeds
  exact h.firstGrouping ha hns

namespace Recovery

/-- The types of a document: a message in which is another one with a field of the
    type of an enum, and a message in which is that enum. -/
def crossingDeclaration : AssemblyDeclaration where
  name := some ""
  references := some [⟨some "Google.Protobuf", none⟩]
  types := some
    [⟨some "A", some "", some .plainClass, some ["Google.Protobuf.IMessage"], some [], some [],
        some [⟨some "B", some "", some .plainClass, some ["Google.Protobuf.IMessage"],
          some [⟨some "XFieldNumber", some "", some (.int 1), some false⟩],
          some [⟨some "X", some "C/E", some true, some false, some false⟩], some []⟩]⟩,
      ⟨some "C", some "", some .plainClass, some ["Google.Protobuf.IMessage"], some [], some [],
        some [⟨some "E", some "", some .enumeration, some [], some [], some [], some []⟩]⟩]

/-- The types that are declared and their analysis before enums are dropped, if all of
    them have namespaces. -/
def preparedIn (d : AssemblyDeclaration) : Option (Assembly × Schema) := do
  let a ← (Assembly.ofDeclaration d).toOption
  let u ← (unpruned a).outcome.toOption
  if ∀ t ∈ a.types, t.ns ≠ none then some (a, u) else none

theorem exists_of_preparedIn {d : AssemblyDeclaration} {a : Assembly} {u : Schema}
    (h : preparedIn d = some (a, u)) :
    Assembly.ofDeclaration d = .ok a ∧ (∀ t ∈ a.types, t.ns ≠ none) ∧
      ∃ gathered filled linked, Schema.gather a {} = .ok gathered ∧
        gathered.populateFields.outcome = .ok filled ∧ filled.connect = .ok linked ∧
        linked.populateDependencies.outcome = .ok u := by
  unfold preparedIn at h
  obtain ⟨a', ha', h⟩ := Option.bind_eq_some_iff.mp h
  obtain ⟨u', hu', h⟩ := Option.bind_eq_some_iff.mp h
  split at h
  · rename_i hns
    obtain ⟨rfl, rfl⟩ := Prod.mk.inj (Option.some.inj h)
    obtain ⟨filled, hfilled, hlinked⟩ := Logged.outcome_bind_eq_ok.mp (eq_ok_of_toOption hu')
    obtain ⟨linked, hconnect, hneeds⟩ := Logged.outcome_bind_eq_ok.mp hlinked
    obtain ⟨gathered, hgather, hfields⟩ := discover_eq_ok hfilled
    exact ⟨eq_ok_of_toOption ha', hns, gathered, filled, linked, hgather, hfields, hconnect, hneeds⟩
  · cases h

theorem isSome_preparedIn_crossing : (preparedIn crossingDeclaration).isSome = true := by
  cbv

/-- The first grouping of these types. -/
theorem partition_exact_crossing :
    ∃ a u g, preparedIn crossingDeclaration = some (a, u) ∧
      (ModuleGraph.partition u.prune.1 {}).outcome = .ok g ∧
      ModuleGraph.FirstGrouping u.prune.1 g := by
  obtain ⟨⟨a, u⟩, hau⟩ := Option.isSome_iff_exists.mp isSome_preparedIn_crossing
  obtain ⟨hassembly, hns, gathered, filled, linked, hgather, hfields, hconnect, hneeds⟩ :=
    exists_of_preparedIn hau
  obtain ⟨g, hg, hgrouping⟩ :=
    ModuleGraph.partition_exact hassembly hns hgather hfields hconnect hneeds
  exact ⟨a, u, g, hau, hg, hgrouping⟩

/-- A message without a name, in which is an enum. The message has a field of the
    type of the enum. -/
def namelessAroundEnum : AssemblyDeclaration where
  name := some ""
  references := some [⟨some "Google.Protobuf", none⟩]
  types := some
    [⟨none, some "", some .plainClass, some ["Google.Protobuf.IMessage"],
        some [⟨some "EFieldNumber", some "", some (.int 1), some false⟩],
        some [⟨some "E", some "None/E", some true, some false, some false⟩],
        some [⟨some "E", some "", some .enumeration, some [], some [], some [], some []⟩]⟩]

theorem preparedIn_nameless : ((preparedIn namelessAroundEnum).map fun x =>
    ((x.2.prune.1.messages.find? none).map fun m => (m.isRoot, m.dependsOnEnums.toList),
      (x.2.prune.1.enums.find? (some "None/E")).map (·.isRoot))) =
    some (some (true, [("None/E" : Text)]), some true) := by
  cbv

/-- The message without a name depends on a root enum, and its module has no edge to
    that of the enum. -/
theorem nameless_without_edge :
    ∃ a gathered filled linked u g, Assembly.ofDeclaration namelessAroundEnum = .ok a ∧
      (∀ t ∈ a.types, t.ns ≠ none) ∧ Schema.gather a {} = .ok gathered ∧
      gathered.populateFields.outcome = .ok filled ∧ filled.connect = .ok linked ∧
      linked.populateDependencies.outcome = .ok u ∧
      (ModuleGraph.partition u.prune.1 {}).outcome = .ok g ∧
      ∃ root family x y, root ∈ u.prune.1.rootMessages ∧ u.prune.1.family root = .ok family ∧
        (∃ m ∈ family, m.NeedsRootEnum u.prune.1 y) ∧ g.modules.find? x.id = some x ∧
        x.OfMessage root ∧ g.modules.find? y.id = some y ∧ x.id ≠ y.id ∧
        y.id ∉ x.dependsOn := by
  obtain ⟨⟨a, u⟩, hau, hnameless⟩ := Option.map_eq_some_iff.mp preparedIn_nameless
  obtain ⟨hmessage, henum⟩ := Prod.mk.inj hnameless
  obtain ⟨root, hroot, hneeds⟩ := Option.map_eq_some_iff.mp hmessage
  obtain ⟨hisRoot, hdeps⟩ := Prod.mk.inj hneeds
  obtain ⟨e, he, hisRootEnum⟩ := Option.map_eq_some_iff.mp henum
  obtain ⟨hassembly, hns, gathered, filled, linked, hgather, hfields, hconnect, hrecord⟩ :=
    exists_of_preparedIn hau
  have ha := Assembly.named_of_ofDeclaration hassembly
  obtain ⟨-, l, h⟩ := prepared_of_steps ha hgather hfields hconnect hrecord
  obtain ⟨g, hg, hgrouping⟩ := h.firstGrouping ha hns
  have hs := h.resolved.toWellNested
  have hnull : root.fullName = none := hs.keyed_message hroot
  have hname : e.fullName = some "None/E" := hs.keyed_enum he
  rw [← hnull] at hroot
  have hmem := (Schema.mem_rootMessages_iff hs.keyed_message).mpr ⟨hroot, hisRoot⟩
  have hmemEnum := (Schema.mem_rootEnums_iff hs.keyed_enum).mpr ⟨hname ▸ he, hisRootEnum⟩
  obtain ⟨family, hfamily⟩ := hs.family_ok hroot hisRoot
  obtain ⟨i, ⟨x, hx, hxof⟩, -⟩ := hgrouping.message root hmem
  obtain ⟨j, ⟨y, hy, hyof⟩, -⟩ := hgrouping.enum e hmemEnum
  obtain rfl := (hgrouping.module i x hx).1
  obtain rfl := (hgrouping.module j y hy).1
  have hneed : root.NeedsRootEnum u.prune.1 y := by
    refine ⟨"None/E", ?_, e, he, ?_⟩
    · show _ ∈ root.dependsOnEnums.toList
      rw [hdeps]
      exact List.mem_cons_self
    · rw [hyof.enums]
      exact OrderedSet.mem_singleton.mpr rfl
  -- The module of the enum holds no message, so the two are different.
  have hne : x.id ≠ y.id := by
    intro heq
    rw [heq, hy, Option.some.injEq] at hx
    have hempty := hxof.enums
    rw [← hx, hyof.enums] at hempty
    exact OrderedSet.not_mem_empty e.fullName (hempty ▸ OrderedSet.mem_singleton.mpr rfl)
  exact ⟨a, gathered, filled, linked, u, g, hassembly, hns, hgather, hfields, hconnect, hrecord,
    hg, root, family, x, y, hmem, hfamily,
    ⟨root, (Schema.mem_family_iff hs hroot hfamily).mpr ⟨hroot, .refl⟩, hneed⟩, hx, hxof, hy, hne,
    hgrouping.not_mem_dependsOn hx hxof hnull hy hyof⟩

end Recovery

end SchemaRecovery
