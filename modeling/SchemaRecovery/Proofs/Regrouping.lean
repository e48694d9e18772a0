/-
  SchemaRecovery.Proofs.Regrouping

  Grouping the messages of a schema once more, after mergers. The modules of root
  messages are made anew one by one, and each takes over the module that holds its
  message; then the edges are added again. This always comes about, and what it gives
  is the graph that was there under other ids (`regroup_messages`): the groups and
  their edges are the same, every module with a root message has a fresh id, and
  nothing refers to the old one.

  One turn of the loop keeps `Renewing`, which holds of all turns by `renewing_fold`.
-/
import SchemaRecovery.Proofs.Replacement

namespace SchemaRecovery

open Relation

namespace ModuleGraph

variable {u s : Schema} {g g' : ModuleGraph} {ρ : Int → Int}

/-! ## Modules for all root messages -/

/-- The state between two turns. The graph is `g` under other ids, fresh ones for the
    modules of the names held so far, and a root message is still to come or its name is
    held. -/
structure Renewing (s : Schema) (g : ModuleGraph) (ρ : Int → Int) (rest : List MessageType)
    (state : ModuleGraph × List Label) : Prop where
  grouped : Grouped s state.1
  relabels : Relabels ρ g state.1
  later : g.nextId ≤ state.1.nextId
  roots : rest ⊆ s.rootMessages
  covered : ∀ root ∈ s.rootMessages, root ∈ rest ∨ root.fullName ∈ state.2
  held : ∀ n, n ∈ state.2 ↔ ∃ i, g.Holds (.message n) i ∧ g.nextId ≤ ρ i
  kept : ∀ {i}, g.Live i → ρ i = i ∨ ∃ n, g.Holds (.message n) i ∧ g.nextId ≤ ρ i

theorem Renewing.start (hg : Grouped s g) : Renewing s g id s.rootMessages (g, []) where
  grouped := hg
  relabels := .refl hg.loopless
  later := Int.le_refl _
  roots _ hx := hx
  covered root hroot := .inl hroot
  held n := by
    refine iff_of_false List.not_mem_nil ?_
    rintro ⟨i, hi, hle⟩
    exact absurd (hg.fresh (hi.live hg.toConsistent)) (Int.not_lt.mpr hle)
  kept _ := .inl rfl

/-- A root message that is held already is passed over. -/
theorem Renewing.skip {root : MessageType} {rest : List MessageType}
    {state : ModuleGraph × List Label} (h : Renewing s g ρ (root :: rest) state)
    (hheld : root.fullName ∈ state.2) : Renewing s g ρ rest state where
  grouped := h.grouped
  relabels := h.relabels
  later := h.later
  roots := (List.cons_subset.mp h.roots).2
  covered x hx := by
    rcases h.covered x hx with hmem | hmem
    · rcases List.mem_cons.mp hmem with rfl | hmem
      · exact .inr hheld
      · exact .inl hmem
    · exact .inr hmem
  held := h.held
  kept := h.kept

/-- A module whose messages are not held has the id that it had, and no other module
    goes to that id. -/
theorem Renewing.eq_of_not_held {rest : List MessageType} {state : ModuleGraph × List Label}
    (h : Renewing s g ρ rest state) (hg : Grouped s g) {n : Label} (hn : n ∉ state.2) {i : Int}
    (hi : state.1.messageModule.find? n = some i) :
    g.Holds (.message n) i ∧ ρ i = i ∧ ∀ {j}, g.Live j → ρ j = i → j = i := by
  obtain ⟨k, hk, rfl⟩ := (h.relabels.holds (.message n) i).mp hi
  have hlive := hk.live hg.toConsistent
  have hold : ¬ g.nextId ≤ ρ k := fun hle => hn ((h.held n).mpr ⟨k, hk, hle⟩)
  have hsame : ρ k = k := (h.kept hlive).resolve_right fun ⟨_, _, hle⟩ => hold hle
  refine ⟨hsame.symm ▸ hk, by rw [hsame, hsame], fun {j} hj heq => ?_⟩
  rw [h.relabels.injective hj hlive heq, hsame]

/-- A root message that is not held gets a fresh module. -/
theorem Renewing.renew {root : MessageType} {rest : List MessageType} {g₁ g₂ : ModuleGraph}
    {held : List Label} {m : SchemaModule} {i : Int}
    (h : Renewing s g ρ (root :: rest) (g₁, held)) (hg : Grouped s g)
    (hnew : root.fullName ∉ held) (hi : g₁.messageModule.find? root.fullName = some i)
    (hg₂ : Grouped s g₂) (hrelabels : Relabels (renamed g₁.nextId i) g₁ g₂)
    (hnext : g₂.nextId = g₁.nextId + 1)
    (hroots : ∀ n, n ∈ m.rootMessages ↔ g₁.messageModule.find? n = some i) :
    Renewing s g (renamed g₁.nextId i ∘ ρ) rest (g₂, held ++ m.rootMessages.toList) := by
  obtain ⟨hhold, hsame, honly⟩ := h.eq_of_not_held hg hnew hi
  have hlater : g.nextId ≤ g₁.nextId := h.later
  -- Only the module of the message is renamed; the new name is fresh.
  have hself : (renamed g₁.nextId i ∘ ρ) i = g₁.nextId := by
    rw [Function.comp_apply, hsame, renamed_right]
  have hothers : ∀ {j}, g.Live j → j ≠ i → (renamed g₁.nextId i ∘ ρ) j = ρ j := by
    intro j hj hne
    exact renamed_of_ne fun heq => hne (honly hj heq)
  have hlive : ∀ {x j}, g.Holds x j → g.Live j := fun hj => hj.live hg.toConsistent
  have hmem : ∀ n, n ∈ m.rootMessages.toList ↔ g.Holds (.message n) i := by
    intro n
    refine (hroots n).trans ((h.relabels.holds (.message n) i).trans ?_)
    constructor
    · rintro ⟨j, hj, hji⟩
      exact honly (hlive hj) hji ▸ hj
    · exact fun hn => ⟨i, hn, hsame⟩
  constructor
  case grouped => exact hg₂
  case relabels => exact h.relabels.trans hrelabels
  case later =>
    show g.nextId ≤ g₂.nextId
    omega
  case roots => exact (List.cons_subset.mp h.roots).2
  case covered =>
    intro x hx
    rcases h.covered x hx with hin | hin
    · rcases List.mem_cons.mp hin with rfl | hin
      · exact .inr (List.mem_append_right held ((hmem _).mpr hhold))
      · exact .inl hin
    · exact .inr (List.mem_append_left _ hin)
  case held =>
    intro n
    rw [List.mem_append, hmem, h.held n]
    constructor
    · rintro (⟨j, hj, hle⟩ | hn)
      · have hne : j ≠ i := by
          rintro rfl
          exact hnew ((h.held _).mpr ⟨j, hhold, hle⟩)
        exact ⟨j, hj, (hothers (hlive hj) hne).symm ▸ hle⟩
      · exact ⟨i, hn, hself.symm ▸ hlater⟩
    · rintro ⟨j, hj, hle⟩
      by_cases hji : j = i
      · exact .inr (hji ▸ hj)
      · rw [hothers (hlive hj) hji] at hle
        exact .inl ⟨j, hj, hle⟩
  case kept =>
    intro j hj
    by_cases hji : j = i
    · rw [hji]
      exact .inr ⟨root.fullName, hhold, hself.symm ▸ hlater⟩
    · rw [hothers hj hji]
      exact h.kept hj

/-- One turn of the loop. -/
theorem Renewing.step (hu : Schema.Resolved u s) (hg : Grouped s g) {root : MessageType}
    {rest : List MessageType} {state : ModuleGraph × List Label}
    (h : Renewing s g ρ (root :: rest) state) :
    ∃ state' ρ', messageModuleStep s state root = .ok state' ∧ Renewing s g ρ' rest state' := by
  obtain ⟨g₁, held⟩ := state
  by_cases hheld : root.fullName ∈ held
  · refine ⟨(g₁, held), ρ, ?_, h.skip hheld⟩
    unfold messageModuleStep
    dsimp only
    rw [if_pos (by simpa using hheld)]
    rfl
  · have hmem := h.roots List.mem_cons_self
    obtain ⟨hroot, hisRoot⟩ :=
      (Schema.mem_rootMessages_iff hu.toWellNested.keyed_message).mp hmem
    -- The message is a root message, so it is in a module.
    obtain ⟨i, hi⟩ := (h.grouped.message_owned root.fullName).mpr ⟨root, hroot, hisRoot⟩
    obtain ⟨g₂, m, hadd, hrelabels, hg₂, hnext, hroots⟩ :=
      h.grouped.addMessageModule hu hroot hisRoot hi
    refine ⟨(g₂, held ++ m.rootMessages.toList), _, ?_,
      h.renew hg hheld hi hg₂ hrelabels hnext hroots⟩
    unfold messageModuleStep
    dsimp only
    rw [if_neg (by simpa using hheld), hadd]
    rfl

/-- The loop runs through, and keeps what each turn keeps. -/
theorem renewing_fold (hu : Schema.Resolved u s) (hg : Grouped s g) :
    ∃ state ρ, s.rootMessages.foldlM (messageModuleStep s) (g, []) = .ok state ∧
      Renewing s g ρ [] state := by
  obtain ⟨state, hfold, ρ, h⟩ := foldlM_ok (fun rest state => ∃ ρ, Renewing s g ρ rest state)
    (fun root rest state ⟨ρ, h⟩ => by
      obtain ⟨state', ρ', hstep, h'⟩ := h.step hu hg
      exact ⟨state', hstep, ρ', h'⟩) ⟨id, Renewing.start hg⟩
  exact ⟨state, ρ, hfold, h⟩

/-! ## Edges that are there -/

section Old

variable {p : Int × Int → Prop} (h : Wires p g g') (hg : g.Simple)
  (hold : ∀ i j, p (i, j) → g.Edge i j)

include h hold in
/-- Edges that are there already change nothing where they begin. -/
theorem Wires.mem_dependsOn_iff {i : Int} {m m' : SchemaModule} (hm : g.modules.find? i = some m)
    (hm' : g'.modules.find? i = some m') (j : Int) : j ∈ m'.dependsOn ↔ j ∈ m.dependsOn := by
  rw [h.dependsOn hm hm' j]
  refine or_iff_left_of_imp fun hp => ?_
  obtain ⟨x, hx, hj⟩ := hold i j hp
  rw [hm, Option.some.injEq] at hx
  exact hx ▸ hj

include h hg hold in
/-- Nor where they end. -/
theorem Wires.mem_dependedOnBy_iff {j : Int} {n n' : SchemaModule}
    (hn : g.modules.find? j = some n) (hn' : g'.modules.find? j = some n') (i : Int) :
    i ∈ n'.dependedOnBy ↔ i ∈ n.dependedOnBy := by
  rw [h.dependedOnBy hn hn' i]
  refine or_iff_left_of_imp fun hp => ?_
  obtain ⟨m, hm, hj⟩ := hold i j hp
  obtain ⟨x, hx, hi⟩ := hg.forth hm hj
  rw [hn, Option.some.injEq] at hx
  exact hx ▸ hi

include h hg hold in
theorem Wires.relabels : Relabels id g g' where
  injective _ _ heq := heq
  live k := by
    rw [h.live_iff]
    simp
  same {i m m'} hm hm' := by
    obtain ⟨x, hx, heq⟩ := h.module hm'
    obtain rfl : x = m := Option.some.inj (hx.symm.trans hm)
    exact .of_unwired heq
  edges k l := by
    rw [quotientBy_id hg.loopless]
    constructor
    · rintro ⟨m', hm', hl⟩
      obtain ⟨m, hm, -⟩ := h.module hm'
      exact ⟨m, hm, (h.mem_dependsOn_iff hold hm hm' l).mp hl⟩
    · rintro ⟨m, hm, hl⟩
      obtain ⟨m', hm'⟩ := (h.live_iff k).mpr ⟨m, hm⟩
      exact ⟨m', hm', (h.mem_dependsOn_iff hold hm hm' l).mpr hl⟩
  holds x k := by
    unfold Holds
    rw [h.messageModule, h.enumModule]
    simp

include h hg hold in
theorem Wires.wired : g'.Wired where
  keyed hm' := by
    obtain ⟨m, hm, heq⟩ := h.module hm'
    rw [SchemaModule.eq_of_unwired_eq SchemaModule.id heq fun _ => rfl]
    exact hg.keyed hm
  forth {i m' j} hm' hj := by
    obtain ⟨m, hm, -⟩ := h.module hm'
    obtain ⟨n, hn, hi⟩ := hg.forth hm ((h.mem_dependsOn_iff hold hm hm' j).mp hj)
    obtain ⟨n', hn'⟩ := (h.live_iff j).mpr ⟨n, hn⟩
    exact ⟨n', hn', (h.mem_dependedOnBy_iff hg hold hn hn' i).mpr hi⟩
  back {j n' i} hn' hi := by
    obtain ⟨n, hn, -⟩ := h.module hn'
    obtain ⟨m, hm, hj⟩ := hg.back hn ((h.mem_dependedOnBy_iff hg hold hn hn' i).mp hi)
    obtain ⟨m', hm'⟩ := (h.live_iff i).mpr ⟨m, hm⟩
    exact ⟨m', hm', (h.mem_dependsOn_iff hold hm hm' j).mpr hj⟩

end Old

/-- Adding the edges of a grouping again changes nothing. -/
theorem Grouped.addAllEdges (hu : Schema.Resolved u s) (hg : Grouped s g) :
    ∃ g', g.addAllEdges = .ok g' ∧ Relabels id g g' ∧ Grouped s g' := by
  obtain ⟨g', hadd⟩ := addAllEdges_ok hg.keyed fun hm =>
    suppliable_of_needsFamilies hu hg.messages hg.enums hg.message_owned hg.enum_owned
      (hg.keyed hm ▸ hm) (hg.needs hm)
  have hw := wires_of_addAllEdges hg.keyed hadd
  -- What a module needs elsewhere gave it an edge before.
  have hold : ∀ i j, (∃ m, g.modules.find? i = some m ∧ ∃ x, m.Requires x ∧ g.Holds x j) →
      g.Edge i j := by
    rintro i j ⟨m, hm, x, hx, hj⟩
    obtain ⟨⟨root, hroot, hneed⟩, -⟩ := (hg.needs hm x).mp hx
    have hne := (hw.ends ⟨m, hm, x, hx, hj⟩).1
    exact (hg.edges i j).mpr ⟨hne, root, (hg.messages root i).mpr ⟨m, hm, hroot⟩, x, hneed, hj⟩
  have hsimple := hg.toConsistent.simple
  have hrelabels := hw.relabels hsimple hold
  refine ⟨g', hadd, hrelabels, hg.relabel hrelabels (hw.wired hsimple hold) fun {k} hk => ?_⟩
  rw [hw.nextId]
  exact hg.fresh ((hw.live_iff k).mp hk)

/-! ## The whole run -/

/-- Nothing in the graph refers to the id. -/
structure Unreferenced (g : ModuleGraph) (i : Int) : Prop where
  dead : ¬ g.Live i
  edges : ∀ {k m}, g.modules.find? k = some m → i ∉ m.dependsOn ∧ i ∉ m.dependedOnBy
  owners : ∀ x, ¬ g.Holds x i

/-- An id that is not live is referred to by nothing in a consistent graph. -/
theorem Consistent.unreferenced (hg : Consistent s g) {i : Int} (hdead : ¬ g.Live i) :
    g.Unreferenced i where
  dead := hdead
  edges hm := by
    refine ⟨fun hi => ?_, fun hi => ?_⟩
    · obtain ⟨n, hn, -⟩ := hg.forth hm hi
      exact hdead ⟨n, hn⟩
    · obtain ⟨n, hn, -⟩ := hg.back hm hi
      exact hdead ⟨n, hn⟩
  owners x hx := hdead (hx.live hg)

/-- The second graph is the first, its messages grouped anew. Live modules go to live
    modules with the same types and needs, edges and look-ups go along, and the ends of
    edges agree. Modules with a root message get fresh ids and nothing refers to their
    old ones; all others stay. -/
structure Regrouped (ρ : Int → Int) (g g' : ModuleGraph) : Prop extends Wired g' where
  injective : ∀ {i j}, g.Live i → g.Live j → ρ i = ρ j → i = j
  live : ∀ k, g'.Live k ↔ ∃ i, g.Live i ∧ ρ i = k
  group : ∀ {i m}, g.modules.find? i = some m →
    ∃ m', g'.modules.find? (ρ i) = some m' ∧ m.SameGroup m'
  edge : ∀ {i j}, g.Live i → g.Live j → (g'.Edge (ρ i) (ρ j) ↔ g.Edge i j)
  holds : ∀ x k, g'.Holds x k ↔ ∃ i, g.Holds x i ∧ ρ i = k
  used : ∀ {i}, g.Live i → i < g.nextId
  fresh : ∀ {i m}, g.modules.find? i = some m → (∃ n, n ∈ m.rootMessages) →
    g.nextId ≤ ρ i ∧ ρ i < g'.nextId
  unreferenced : ∀ {i m}, g.modules.find? i = some m → (∃ n, n ∈ m.rootMessages) →
    g'.Unreferenced i
  kept : ∀ {i m}, g.modules.find? i = some m → (∀ n, n ∉ m.rootMessages) → ρ i = i

/-- When all turns are made, the graph is grouped anew. -/
theorem Renewing.regrouped {state : ModuleGraph × List Label} (h : Renewing s g ρ [] state)
    (hu : Schema.Resolved u s) (hg : Grouped s g) (hrelabels : Relabels ρ g g')
    (hg' : Grouped s g') : Regrouped ρ g g' := by
  -- By now every root message is held.
  have hfresh : ∀ {i m}, g.modules.find? i = some m → (∃ n, n ∈ m.rootMessages) →
      g.nextId ≤ ρ i := by
    rintro i m hm ⟨n, hn⟩
    have hi := (hg.messages n i).mpr ⟨m, hm, hn⟩
    obtain ⟨root, hroot⟩ := (hg.message_owned n).mp ⟨i, hi⟩
    have hname := hu.toWellNested.keyed_message hroot.1
    have hmem := (Schema.mem_rootMessages_iff hu.toWellNested.keyed_message).mpr
      (hname.symm ▸ hroot)
    obtain ⟨j, hj, hle⟩ := (h.held _).mp ((h.covered root hmem).resolve_left List.not_mem_nil)
    rw [hname] at hj
    rw [Option.some.inj (hi.symm.trans hj)]
    exact hle
  refine ⟨hg'.toWired, hrelabels.injective, hrelabels.live, fun {i m} hm => ?_,
    hrelabels.edge_iff hg.toConsistent.simple, hrelabels.holds, hg.fresh, fun {i m} hm hroot => ?_,
    fun {i m} hm hroot => ?_, fun {i m} hm hnone => ?_⟩
  · obtain ⟨m', hm'⟩ := (hrelabels.live (ρ i)).mpr ⟨i, ⟨m, hm⟩, rfl⟩
    exact ⟨m', hm', hrelabels.same hm hm'⟩
  · exact ⟨hfresh hm hroot, hg'.fresh ((hrelabels.live _).mpr ⟨i, ⟨m, hm⟩, rfl⟩)⟩
  · refine hg'.toConsistent.unreferenced fun hlive => ?_
    obtain ⟨j, hj, hji⟩ := (hrelabels.live i).mp hlive
    have hlt := hg.fresh ⟨m, hm⟩
    -- A module that goes to an old id has that id itself.
    rcases h.kept hj with hsame | ⟨-, -, hle⟩
    · have hle := hfresh hm hroot
      rw [← hji, hsame] at hle hlt
      rw [hsame] at hle
      omega
    · omega
  · refine (h.kept ⟨m, hm⟩).resolve_right ?_
    rintro ⟨n, hn, -⟩
    exact hnone n ((hg.messages.find?_iff hm n).mp hn)

/-- The messages of a grouping can be grouped anew. -/
theorem Grouped.regroup (hu : Schema.Resolved u s) (hg : Grouped s g) :
    ∃ g₁ g₂ ρ, addMessageModules s g = .ok g₁ ∧ g₁.addAllEdges = .ok g₂ ∧ Regrouped ρ g g₂ := by
  obtain ⟨⟨g₁, held⟩, ρ, hfold, h⟩ := renewing_fold hu hg
  obtain ⟨g₂, hedges, hsame, hg₂⟩ := h.grouped.addAllEdges hu
  have hmodules : addMessageModules s g = .ok g₁ := bind_eq_ok.mpr ⟨_, hfold, rfl⟩
  exact ⟨g₁, g₂, ρ, hmodules, hedges, h.regrouped hu hg (h.relabels.trans hsame) hg₂⟩

/-- Grouping the messages of an analysed schema once more, after any mergers, gives
    the same groups with the same edges under other ids. -/
theorem regroup_messages {d : AssemblyDeclaration} {a : Assembly}
    {gathered filled linked u : Schema} {g₀ g : ModuleGraph} {pairs : List (Int × Int)}
    (hassembly : Assembly.ofDeclaration d = .ok a) (hgather : Schema.gather a {} = .ok gathered)
    (hfields : gathered.populateFields.outcome = .ok filled)
    (hconnect : filled.connect = .ok linked)
    (hneeds : linked.populateDependencies.outcome = .ok u)
    (hpartition : (partition u.prune.1 {}).outcome = .ok g₀)
    (hmerges : pairs.foldlM (fun g p => g.merge p.1 p.2) g₀ = .ok g) :
    ∃ g₁ g₂ ρ, addMessageModules u.prune.1 g = .ok g₁ ∧ g₁.addAllEdges = .ok g₂ ∧
      Regrouped ρ g g₂ := by
  have ha := Assembly.named_of_ofDeclaration hassembly
  obtain ⟨-, l, h⟩ := prepared_of_steps ha hgather hfields hconnect hneeds
  exact ((grouped_of_partition h.resolved hpartition).merges hmerges).regroup h.resolved

end ModuleGraph

namespace Recovery

/-- The two modules of these messages can be merged. -/
theorem isSome_merged_crossing : ((preparedIn crossingDeclaration).bind fun x =>
    ((ModuleGraph.partition x.2.prune.1 {}).outcome >>= fun g =>
      [((2 : Int), (1 : Int))].foldlM (fun g p => g.merge p.1 p.2) g).toOption).isSome = true := by
  cbv

/-- Grouped anew after the merger of their two modules. -/
theorem regroup_messages_crossing :
    ∃ a u g₀ g g₁ g₂ ρ, preparedIn crossingDeclaration = some (a, u) ∧
      (ModuleGraph.partition u.prune.1 {}).outcome = .ok g₀ ∧
      [((2 : Int), (1 : Int))].foldlM (fun g p => g.merge p.1 p.2) g₀ = .ok g ∧
      ModuleGraph.addMessageModules u.prune.1 g = .ok g₁ ∧ g₁.addAllEdges = .ok g₂ ∧
      ModuleGraph.Regrouped ρ g g₂ := by
  obtain ⟨g, hg⟩ := Option.isSome_iff_exists.mp isSome_merged_crossing
  obtain ⟨⟨a, u⟩, hau, hg⟩ := Option.bind_eq_some_iff.mp hg
  obtain ⟨g₀, hpartition, hmerges⟩ := bind_eq_ok.mp (eq_ok_of_toOption hg)
  obtain ⟨hassembly, -, gathered, filled, linked, hgather, hfields, hconnect, hneeds⟩ :=
    exists_of_preparedIn hau
  obtain ⟨g₁, g₂, ρ, hmodules, hedges, hregrouped⟩ :=
    ModuleGraph.regroup_messages hassembly hgather hfields hconnect hneeds hpartition hmerges
  exact ⟨a, u, g₀, g, g₁, g₂, ρ, hau, hpartition, hmerges, hmodules, hedges, hregrouped⟩

end Recovery

end SchemaRecovery
