/-
  SchemaRecovery.Proofs.FileNames

  The names of the planned files. Modules get their names in turn, and each name
  is a candidate of its namespace: the base with the ending, or with an index
  before it where the namespace has several modules (`Candidate`). A module of
  several finds a free index, so planning fails only if two namespaces have a
  candidate in common; if none have, indices are given from one on, in the order
  of modules (`InTurn.indexed`). The main statement is `plan_names`.
-/
import SchemaRecovery.Proofs.Failures
import SchemaRecovery.Proofs.Forest
import SchemaRecovery.Proofs.IndexedNames
import SchemaRecovery.Proofs.Sorting

namespace SchemaRecovery

/-! ## Types without nulls -/

/-- The types of the schema have names, full names and namespaces. -/
structure Schema.Labelled (s : Schema) : Prop where
  message : ∀ {n m}, s.messages.find? n = some m →
    m.name ≠ none ∧ m.fullName ≠ none ∧ m.ns ≠ none
  enum : ∀ {n e}, s.enums.find? n = some e → e.name ≠ none ∧ e.fullName ≠ none ∧ e.ns ≠ none

/-- The analysis of an assembly without null names leaves none. -/
theorem Recovery.labelled_of_analyze {a : Assembly} (ha : a.Named)
    (hnames : ∀ t ∈ a.allTypes, t.name ≠ none ∧ t.ns ≠ none) {r : Recovery}
    (hr : (analyze a).outcome = .ok r) : r.schema.Labelled := by
  obtain ⟨discovered, g₀, hdiscovered, hs, -⟩ := analyze_eq_ok hr
  obtain ⟨gathered, hgather, hfields⟩ := discover_eq_ok hdiscovered
  obtain ⟨connected, u, hconnect, hneeds, hschema⟩ := relate_eq_ok hs
  obtain ⟨-, l, h⟩ := prepared_of_steps ha hgather hfields hconnect hneeds
  -- All types of the schema come from the listing, so from the assembly.
  have hlabels : ∀ {t : TypeDescriptor} {root : Label}, (t, root) ∈ l →
      t.name ≠ none ∧ t.fullName ≠ none ∧ t.ns ≠ none := by
    intro t root ht
    have hmem := h.listing.mem_allTypes ht
    obtain ⟨hname, hns⟩ := hnames t hmem
    exact ⟨hname, fun hnull => hname (ha.name_of_null hmem hnull), hns⟩
  rw [hschema]
  exact ⟨fun hm => hlabels (h.placed_message hm).listed,
    fun he => hlabels (h.discovered_enum he).listed⟩

namespace OutputFile

variable {s : Schema} {g : ModuleGraph}

/-- A module has the namespace of its root types. -/
theorem exists_ns (hlabelled : s.Labelled) (hg : ModuleGraph.Partitioned s g) {i : Int}
    {m : SchemaModule} (hm : g.modules.find? i = some m) : ∃ ns, m.ns = some ns := by
  refine Option.ne_none_iff_exists'.mp ?_
  rcases hg.rooted hm with ⟨n, hn⟩ | ⟨n, hn⟩
  · obtain ⟨x, hx, hns⟩ := hg.message_ns hm n hn
    rw [← hns]
    exact (hlabelled.message hx).2.2
  · obtain ⟨e, he, hns⟩ := hg.enum_ns hm n hn
    rw [← hns]
    exact (hlabelled.enum he).2.2

/-! ## Candidates -/

/-- The number of modules of a namespace. -/
def share (g : ModuleGraph) (ns : Text) : Nat :=
  (g.modules.values.filter fun m => m.ns = some ns).length

/-- The name is one that a file of the namespace may be given. -/
def Candidate (g : ModuleGraph) (ns name : Text) : Prop :=
  share g ns = 1 ∧ name = baseOf ns ++ ending ∨
    1 < share g ns ∧ ∃ i, 1 ≤ i ∧ name = indexedName (baseOf ns) i

/-- Two namespaces have candidates with one lower case. -/
def SharedName (g : ModuleGraph) : Prop :=
  ∃ ns ns' name name', ns ≠ ns' ∧ Candidate g ns name ∧ Candidate g ns' name' ∧
    Text.lower name = Text.lower name'

/-- The name that a module of the namespace is given next. -/
def nextName (g : ModuleGraph) (used : List Text) (ns : Text) : Text :=
  nameFor used ns (decide (share g ns ≤ 1))

theorem share_pos {m : SchemaModule} {ns : Text} (hm : m ∈ g.modules.values)
    (hns : m.ns = some ns) : 1 ≤ share g ns :=
  List.length_pos_of_mem (List.mem_filter.mpr ⟨hm, by simpa using hns⟩)

theorem share_eq_count (g : ModuleGraph) (ns : Text) :
    share g ns = (g.modules.values.map (·.ns)).count (some ns) := by
  unfold share
  rw [List.count_eq_countP, List.countP_map, List.countP_eq_length_filter]
  refine congrArg List.length (List.filter_congr fun m _ => ?_)
  rw [Function.comp_apply, beq_eq_decide]

theorem share_eq (g : ModuleGraph) (ns : Text) :
    share g ns = ((orderedModules g).filter fun m => m.ns = some ns).length :=
  (((List.mergeSort_perm _ _).filter _).length_eq).symm

theorem nextName_of_alone {ns : Text} (used : List Text) (h : share g ns ≤ 1) :
    nextName g used ns = baseOf ns ++ ending := by
  unfold nextName nameFor
  rw [if_pos (decide_eq_true h)]

theorem nextName_of_several {ns : Text} (used : List Text) (h : 1 < share g ns) :
    nextName g used ns = indexedName (baseOf ns) (freeIndex used (baseOf ns) used.length 1) := by
  unfold nextName nameFor
  rw [if_neg (by simpa using h)]

theorem candidate_nextName {m : SchemaModule} {ns : Text} (used : List Text)
    (hm : m ∈ g.modules.values) (hns : m.ns = some ns) : Candidate g ns (nextName g used ns) := by
  have hpos := share_pos hm hns
  by_cases hone : share g ns ≤ 1
  · exact Or.inl ⟨by omega, nextName_of_alone used hone⟩
  · have hseveral : 1 < share g ns := by omega
    exact Or.inr ⟨hseveral, _, (freeIndex_spec used _ _ 1).1, nextName_of_several used hseveral⟩

/-! ## Names given in turn -/

/-- The drafts have the names that their modules are given one after the other. -/
inductive InTurn (g : ModuleGraph) : List Draft → Prop
  | nil : InTurn g []
  | concat {ds : List Draft} {d : Draft} {m : SchemaModule} {ns : Text} (h : InTurn g ds)
    (hm : m ∈ g.modules.values) (hns : m.ns = some ns) (hfile : d.file.ns = some ns)
    (hname : d.file.fileName = nextName g (ds.map fun d => Text.lower d.file.fileName) ns) :
    InTurn g (ds ++ [d])

namespace InTurn

variable {ds : List Draft}

theorem candidate (h : InTurn g ds) {d : Draft} (hd : d ∈ ds) :
    ∃ ns, d.file.ns = some ns ∧ Candidate g ns d.file.fileName := by
  induction h with
  | nil => cases hd
  | @concat ds d' m ns _ hm hns hfile hname ih =>
      rcases List.mem_append.mp hd with hd | hd
      · exact ih hd
      · rw [List.mem_singleton.mp hd, hname]
        exact ⟨ns, hfile, candidate_nextName _ hm hns⟩

/-- A namespace with one module gives the file its name. -/
theorem alone (h : InTurn g ds) {ns : Text} (hone : share g ns ≤ 1) {d : Draft} (hd : d ∈ ds)
    (hns : d.file.ns = some ns) : d.file.fileName = baseOf ns ++ ending := by
  induction h with
  | nil => cases hd
  | @concat ds d' m ns' _ hm _ hfile hname ih =>
      rcases List.mem_append.mp hd with hd | hd
      · exact ih hd
      · rw [List.mem_singleton.mp hd] at hns ⊢
        rw [hfile, Option.some.injEq] at hns
        rw [hname, hns, nextName_of_alone _ hone]

/-- The least free index is the one after those that the namespace has been given:
    another namespace with that name would share a candidate. -/
theorem nextIndex (h : InTurn g ds) (hshared : ¬SharedName g) {ns : Text}
    (hseveral : 1 < share g ns) {k : Nat}
    (hgiven : (ds.filter fun d => d.file.ns = some ns).map (·.file.fileName) =
      (List.range' 1 k).map (indexedName (baseOf ns))) :
    freeIndex (ds.map fun d => Text.lower d.file.fileName) (baseOf ns)
      (ds.map fun d => Text.lower d.file.fileName).length 1 = k + 1 := by
  refine freeIndex_eq (by omega) (fun j hj hlt => ?_) fun hmem => ?_
  -- The names of the indices before it are in use.
  · have hname : indexedName (baseOf ns) j ∈ (List.range' 1 k).map (indexedName (baseOf ns)) :=
      List.mem_map_of_mem (List.mem_range'_1.mpr (by omega))
    rw [← hgiven] at hname
    obtain ⟨d, hd, heq⟩ := List.mem_map.mp hname
    exact List.mem_map.mpr ⟨d, (List.mem_filter.mp hd).1, congrArg Text.lower heq⟩
  -- Its own name is that of an earlier index or a candidate of another namespace.
  · obtain ⟨d, hd, heq⟩ := List.mem_map.mp hmem
    obtain ⟨ns', hns', hcandidate⟩ := h.candidate hd
    by_cases hsame : ns' = ns
    · have hname : d.file.fileName ∈
          (ds.filter fun d => d.file.ns = some ns).map (·.file.fileName) :=
        List.mem_map_of_mem (List.mem_filter.mpr ⟨hd, by simpa [hsame] using hns'⟩)
      rw [hgiven] at hname
      obtain ⟨j, hj, hindex⟩ := List.mem_map.mp hname
      rw [← hindex] at heq
      have hjk := lower_indexedName_inj _ heq
      rw [List.mem_range'_1] at hj
      omega
    · exact hshared ⟨ns', ns, _, _, hsame, hcandidate, Or.inr ⟨hseveral, k + 1, by omega, rfl⟩, heq⟩

/-- If no candidate is shared, the files of a namespace with several modules are
    numbered from one on. -/
theorem indexed (h : InTurn g ds) (hshared : ¬SharedName g) {ns : Text}
    (hseveral : 1 < share g ns) :
    (ds.filter fun d => d.file.ns = some ns).map (·.file.fileName) =
      (List.range' 1 (ds.filter fun d => d.file.ns = some ns).length).map
        (indexedName (baseOf ns)) := by
  induction h with
  | nil => rfl
  | @concat ds d m ns' hturn hm _ hfile hname ih =>
      rw [List.filter_append, List.map_append, List.length_append, ih]
      by_cases hns : ns' = ns
      · subst hns
        rw [List.filter_cons_of_pos (by simpa using hfile), List.filter_nil, List.map_singleton,
          hname, nextName_of_several _ hseveral, hturn.nextIndex hshared hseveral ih,
          List.length_singleton, List.range'_concat, List.map_append]
        simp [Nat.add_comm]
      · have hother : ¬d.file.ns = some ns := by
          rw [hfile, Option.some.injEq]
          exact hns
        rw [List.filter_cons_of_neg (by simpa using hother)]
        simp

end InTurn

/-- The names of the files of a namespace with `count` modules. -/
def namesOf (ns : Text) (count : Nat) : List Text :=
  if count = 1 then [baseOf ns ++ ending] else (List.range' 1 count).map (indexedName (baseOf ns))

theorem InTurn.namesOf {ds : List Draft} (h : InTurn g ds) (hshared : ¬SharedName g) {ns : Text}
    (hall : (ds.filter fun d => d.file.ns = some ns).length = share g ns) :
    (ds.filter fun d => d.file.ns = some ns).map (·.file.fileName) =
      namesOf ns (share g ns) := by
  unfold OutputFile.namesOf
  rcases Nat.lt_trichotomy (share g ns) 1 with hnone | hone | hseveral
  · have hzero : share g ns = 0 := by omega
    rw [hzero, List.length_eq_zero_iff] at hall
    rw [hall, hzero]
    rfl
  · rw [hone] at hall
    obtain ⟨d, hd⟩ := List.length_eq_one_iff.mp hall
    obtain ⟨hmem, hns⟩ := List.mem_filter.mp (hd ▸ List.mem_singleton_self d)
    rw [hd, if_pos hone, List.map_singleton,
      h.alone (Nat.le_of_eq hone) hmem (of_decide_eq_true hns)]
  · rw [if_neg (Nat.ne_of_gt hseveral), h.indexed hshared hseveral, hall]

/-! ## Drafts -/

theorem fileName_of_draft {used : List Text} {m : SchemaModule} {d : Draft}
    (h : draft s g used m = .ok d) :
    ∃ ns, m.ns = some ns ∧ d.file.ns = some ns ∧ d.file.fileName = nextName g used ns := by
  unfold draft at h
  obtain ⟨ns, hns, h⟩ := bind_eq_ok.mp h
  rw [TypeDescriptor.present_eq_ok_iff] at hns
  dsimp only at h
  split at h
  · cases h
  · obtain ⟨_, -, h⟩ := bind_eq_ok.mp h
    obtain ⟨_, -, h⟩ := bind_eq_ok.mp h
    obtain ⟨_, -, h⟩ := bind_eq_ok.mp h
    obtain ⟨_, -, h⟩ := bind_eq_ok.mp h
    obtain ⟨_, -, h⟩ := bind_eq_ok.mp h
    obtain rfl := Except.ok.inj h
    refine ⟨ns, hns, hns, ?_⟩
    unfold nextName share
    rw [hns]

/-- Drafting fails only on a name that is in use: what is sorted has names. -/
theorem failsOnly_draft_labelled (hs : s.WellNested) (hlabelled : s.Labelled)
    (hg : ModuleGraph.Partitioned s g) (used : List Text) {i : Int} {m : SchemaModule} {ns : Text}
    (hm : g.modules.find? i = some m) (hns : m.ns = some ns) :
    FailsOnly (fun e => e = .fileNameTaken (nextName g used ns) (some ns) ∧
      Text.lower (nextName g used ns) ∈ used) (draft s g used m) := by
  obtain ⟨⟨found, hfound, hroots⟩, foundEnums, hfoundEnums, henums⟩ := roots_ok hs hg hm
  have hsorted : ∃ messages, Label.sortOnPair (fun x : MessageType => (x.name, x.fullName)) found =
      .ok messages := by
    refine Label.sortOnPair_ok fun x hx => ?_
    obtain ⟨hname, hfullName, -⟩ := hlabelled.message (hroots x hx).1
    exact ⟨hname, hfullName⟩
  have hsortedEnums : ∃ enums, Label.sortOnPair (fun x : EnumType => (x.name, x.fullName))
      foundEnums = .ok enums := by
    refine Label.sortOnPair_ok fun x hx => ?_
    obtain ⟨hname, hfullName, -⟩ := hlabelled.enum (henums x hx)
    exact ⟨hname, hfullName⟩
  obtain ⟨messages, hmessages⟩ := hsorted
  obtain ⟨enums, hsortedEnums⟩ := hsortedEnums
  unfold draft
  rw [TypeDescriptor.present_eq_ok_iff.mpr hns, ok_bind, hns]
  dsimp only
  split
  · rename_i htaken
    exact .error ⟨rfl, List.contains_iff_mem.mp htaken⟩
  · rw [hfound, ok_bind, hmessages, ok_bind, hfoundEnums, ok_bind, hsortedEnums,
      ok_bind]
    refine FailsOnly.bind (FailsOnly.mapM fun root hroot => ?_) fun _ _ => .ok _
    obtain ⟨-, family, hfamily⟩ := hroots root
      ((Label.perm_of_sortOnPair hmessages).mem_iff.mp hroot)
    exact .of_ok hfamily

/-- After some modules: their drafts, with names given in turn, which are in use. -/
structure Drafting (g : ModuleGraph) (rest : List SchemaModule) (used : List Text)
    (made : List Draft) : Prop where
  used : used = made.map fun d => Text.lower d.file.fileName
  inTurn : InTurn g made
  done : ∃ done, done ++ rest = orderedModules g ∧ done.map (·.ns) = made.map (·.file.ns)

namespace Drafting

variable {m : SchemaModule} {rest : List SchemaModule} {used : List Text} {made : List Draft}

theorem mem (h : Drafting g (m :: rest) used made) : m ∈ g.modules.values := by
  obtain ⟨done, hdone, -⟩ := h.done
  have hmem : m ∈ orderedModules g := hdone ▸ List.mem_append_right done List.mem_cons_self
  exact List.mem_mergeSort.mp hmem

theorem step (h : Drafting g (m :: rest) used made) {d : Draft} (hd : draft s g used m = .ok d) :
    Drafting g rest (used ++ [Text.lower d.file.fileName]) (made ++ [d]) := by
  obtain ⟨ns, hns, hfile, hname⟩ := fileName_of_draft hd
  obtain ⟨done, hdone, hmap⟩ := h.done
  refine ⟨?_, h.inTurn.concat h.mem hns hfile (h.used ▸ hname), done ++ [m], ?_, ?_⟩
  · rw [h.used, List.map_append]
    rfl
  · rw [List.append_assoc]
    exact hdone
  · rw [List.map_append, List.map_append, hmap]
    simp [hns, hfile]

/-- A module whose namespace has a draft is not its only one. -/
theorem two_le_share (h : Drafting g (m :: rest) used made) {ns : Text} (hns : m.ns = some ns)
    {d : Draft} (hd : d ∈ made) (hfile : d.file.ns = some ns) : 2 ≤ share g ns := by
  obtain ⟨done, hdone, hmap⟩ := h.done
  have hmem : some ns ∈ done.map (·.ns) := by
    rw [hmap, ← hfile]
    exact List.mem_map_of_mem hd
  obtain ⟨m', hm', hns'⟩ := List.mem_map.mp hmem
  have hbefore : 0 < (done.filter fun m => m.ns = some ns).length :=
    List.length_pos_of_mem (List.mem_filter.mpr ⟨hm', by simpa using hns'⟩)
  -- One module of the namespace is done and the next one is another.
  rw [share_eq, ← hdone, List.filter_append, List.length_append,
    List.filter_cons_of_pos (by simpa using hns), List.length_cons]
  omega

/-- A name that is in use belongs to another namespace: a free index is found in a
    namespace with several modules, and there is no second module in one with one. -/
theorem sharedName (h : Drafting g (m :: rest) used made) {ns : Text} (hns : m.ns = some ns)
    (htaken : Text.lower (nextName g used ns) ∈ used) : SharedName g := by
  have hcandidate := candidate_nextName used h.mem hns
  by_cases hone : share g ns ≤ 1
  · have hgiven := htaken
    rw [h.used] at hgiven
    obtain ⟨d, hd, heq⟩ := List.mem_map.mp hgiven
    rw [← h.used] at heq
    obtain ⟨ns', hns', hcandidate'⟩ := h.inTurn.candidate hd
    refine ⟨ns', ns, _, _, fun hsame => ?_, hcandidate', hcandidate, heq⟩
    exact absurd (h.two_le_share hns hd (hsame ▸ hns')) (by omega)
  · rw [nextName_of_several used (by omega)] at htaken
    exact absurd htaken (freeIndex_free used _)

end Drafting

theorem inTurn_of_drafts {ds : List Draft} (h : drafts s g = .ok ds) : InTurn g ds := by
  unfold drafts at h
  obtain ⟨⟨used, made⟩, hfold, h⟩ := bind_eq_ok.mp h
  obtain rfl : made = ds := Except.ok.inj h
  refine (foldlM_keeps (fun rest (state : List Text × List Draft) =>
    Drafting g rest state.1 state.2) ?_ ⟨rfl, .nil, [], rfl, rfl⟩ hfold).inTurn
  rintro m rest ⟨used, made⟩ state' h hstep
  obtain ⟨d, hd, hstep⟩ := bind_eq_ok.mp hstep
  obtain rfl := Except.ok.inj hstep
  exact h.step hd

/-- The failure is that of a file name, and two namespaces share a candidate. -/
def OfSharedName (g : ModuleGraph) (e : Failure) : Prop := e.kind = .rebuild ∧ SharedName g

theorem failsOnly_drafts (hs : s.WellNested) (hlabelled : s.Labelled)
    (hg : ModuleGraph.Partitioned s g) : FailsOnly (OfSharedName g) (drafts s g) := by
  unfold drafts
  refine FailsOnly.bind ?_ fun _ _ => .ok _
  refine FailsOnly.foldlM (fun rest (state : List Text × List Draft) =>
    Drafting g rest state.1 state.2) ?_ ⟨rfl, .nil, [], rfl, rfl⟩
  rintro m rest ⟨used, made⟩ h
  constructor
  · obtain ⟨i, hm⟩ := Registry.mem_values.mp h.mem
    obtain ⟨ns, hns⟩ := exists_ns hlabelled hg hm
    refine FailsOnly.bind ?_ fun _ _ => .ok _
    refine (failsOnly_draft_labelled hs hlabelled hg used hm hns).mono ?_
    rintro e ⟨rfl, htaken⟩
    exact ⟨rfl, h.sharedName hns htaken⟩
  · intro state' hstep
    obtain ⟨d, hd, hstep⟩ := bind_eq_ok.mp hstep
    obtain rfl := Except.ok.inj hstep
    exact h.step hd

/-! ## The order of modules -/

theorem moduleLe_iff {a b : SchemaModule} : moduleLe a b = true ↔
    (a.dependsOn.isEmpty = true ∧ b.dependsOn.isEmpty = false) ∨
      a.dependsOn.isEmpty = b.dependsOn.isEmpty ∧
        (a.rootMessages.size < b.rootMessages.size ∨
          a.rootMessages.size = b.rootMessages.size ∧ a.id ≤ b.id) := by
  unfold moduleLe
  cases a.dependsOn.isEmpty <;> cases b.dependsOn.isEmpty <;> grind

theorem pairwise_orderedModules (g : ModuleGraph) :
    (orderedModules g).Pairwise fun a b => moduleLe a b = true := by
  refine List.pairwise_mergeSort (fun a b c hab hbc => ?_) (fun a b => ?_) _
  · rw [moduleLe_iff] at hab hbc ⊢
    grind
  · rw [Bool.or_eq_true, moduleLe_iff, moduleLe_iff]
    grind

/-! ## Files -/

/-- The file has the namespace and the root types of the module. -/
structure FileOf (s : Schema) (m : SchemaModule) (f : OutputFile) : Prop where
  ns : f.ns = m.ns
  messages : ∀ x, x ∈ f.messages ↔ ∃ n ∈ m.rootMessages, s.messages.find? n = some x
  enums : ∀ x, x ∈ f.enums ↔ ∃ n ∈ m.rootEnums, s.enums.find? n = some x

/-- The files are those of the modules, one each, by their names. No name is given
    twice, so none of the rendered texts replaces another. If no two namespaces share
    a candidate, the modules of each have the names of the namespace, in their order. -/
structure OnePerModule (s : Schema) (g : ModuleGraph) (files : List OutputFile) : Prop where
  sorted : files.Pairwise fun f f' => Text.le f.fileName f'.fileName = true
  names : (files.map fun f => Text.lower f.fileName).Nodup
  texts : ∀ texts, (Recovery.renderFiles s files).outcome = .ok texts → texts.map (·.1) = files
  modules : ∃ modules made, modules.Perm g.modules.values ∧
    (modules.Pairwise fun m m' => moduleLe m m' = true) ∧
    List.Forall₂ (FileOf s) modules made ∧ files.Perm made ∧
    (¬SharedName g → ∀ ns, ((made.filter fun f => f.ns = some ns).map (·.fileName)) =
      namesOf ns (share g ns))

theorem map_renderFiles {files : List OutputFile} {texts : List (OutputFile × Text)}
    (h : (Recovery.renderFiles s files).outcome = .ok texts) : texts.map (·.1) = files := by
  unfold Recovery.renderFiles at h
  rw [Logged.outcome_mapM, mapM_eq_ok_iff] at h
  rw [← List.map_id files]
  refine (map_eq_of_forall₂ h fun file text htext => ?_).symm
  obtain ⟨_, -, htext⟩ := Logged.outcome_bind_eq_ok.mp htext
  exact congrArg Prod.fst (Except.ok.inj htext)

theorem onePerModule_of_plan (hs : s.WellNested) {files : List OutputFile}
    (h : plan s g = .ok files) : OnePerModule s g files := by
  unfold plan at h
  obtain ⟨ds, hds, h⟩ := bind_eq_ok.mp h
  obtain ⟨made, hmade, h⟩ := bind_eq_ok.mp h
  obtain rfl := Except.ok.inj h
  obtain ⟨hall, hlower⟩ := drafts_eq_ok hs hds
  have hfinish := mapM_eq_ok_iff.mp hmade
  have hperm : (made.mergeSort fun a b => Text.le a.fileName b.fileName).Perm made :=
    List.mergeSort_perm _ _
  constructor
  case sorted =>
    apply List.pairwise_mergeSort
    · exact fun _ _ _ => Text.le_trans
    · exact fun _ _ => Text.le_total _ _
  case names =>
    refine (hperm.map _).nodup_iff.mpr ?_
    have heq : (ds.map fun d => Text.lower d.file.fileName) =
        made.map fun f => Text.lower f.fileName :=
      map_eq_of_forall₂ hfinish fun d f hf => by rw [(finish_eq_ok hf).1]
    exact heq ▸ hlower
  case texts => exact fun texts => map_renderFiles
  case modules =>
    refine ⟨orderedModules g, made, List.mergeSort_perm _ _, pairwise_orderedModules g, ?_, hperm,
      fun hshared ns => ?_⟩
    · refine forall₂_trans hall hfinish fun m d f hd hf => ?_
      obtain ⟨-, hmessages, henums, hns, -⟩ := finish_eq_ok hf
      exact ⟨hns.trans hd.ns, hmessages ▸ hd.messages, henums ▸ hd.enums⟩
    · -- All modules of the namespace have a draft, and a file keeps the name of its draft.
      have hlength : (ds.filter fun d => d.file.ns = some ns).length = share g ns := by
        rw [share_eq]
        exact (forall₂_filter hall fun m d hd => by rw [hd.ns]).length_eq.symm
      rw [← (inTurn_of_drafts hds).namesOf hshared hlength]
      exact (map_eq_of_forall₂ (forall₂_filter hfinish fun d f hf => by
        rw [(finish_eq_ok hf).2.2.2.1]) fun d f hf => (finish_eq_ok hf).1.symm).symm

theorem failsOnly_plan_labelled (hs : s.WellNested) (hlabelled : s.Labelled)
    (hg : ModuleGraph.Partitioned s g) : FailsOnly (OfSharedName g) (plan s g) := by
  unfold plan
  refine (failsOnly_drafts hs hlabelled hg).bind fun ds hds => ?_
  obtain ⟨files, hfiles⟩ := exists_mapM_eq_ok fun d hd => finish_ok hs hg.toWired hds hd
  rw [hfiles]
  exact .ok _

end OutputFile

namespace Recovery

open OutputFile

/-- The files of analysed types without null names are planned, one for each module,
    unless two namespaces share a candidate. The search for an index finds the least
    one that is free. -/
theorem plan_names {d : AssemblyDeclaration} {a : Assembly} {r : Recovery}
    (hassembly : Assembly.ofDeclaration d = .ok a)
    (hnames : ∀ t ∈ a.allTypes, t.name ≠ none ∧ t.ns ≠ none)
    (hr : (analyze a).outcome = .ok r) :
    (∀ used base, IsLeast {i | 1 ≤ i ∧ Text.lower (indexedName base i) ∉ used}
      (freeIndex used base used.length 1)) ∧
    (∀ e, plan r.schema r.graph = .error e → e.kind = .rebuild ∧ SharedName r.graph) ∧
    ∀ files, plan r.schema r.graph = .ok files → OnePerModule r.schema r.graph files := by
  have ha := Assembly.named_of_ofDeclaration hassembly
  obtain ⟨hs, hg⟩ := partitioned_of_analyze ha hr
  have hlabelled := labelled_of_analyze ha hnames hr
  exact ⟨isLeast_freeIndex, failsOnly_plan_labelled hs hlabelled hg,
    fun files => onePerModule_of_plan hs⟩

/-- A declaration of a message with a field of each of the types. -/
def declareLinks (name ns : Text) (types : List Text) : TypeDeclaration :=
  ⟨some name, some ns, some .plainClass, some ["Google.Protobuf.IMessage"],
    some (types.map fun _ => ⟨some "XFieldNumber", some "", some (.int 1), some false⟩),
    some (types.map fun t => ⟨some "X", some t, some true, some false, some false⟩), some []⟩

/-- The type that is declared. -/
def linksNode (name ns : Text) (types : List Text) : TypeDescriptor :=
  ⟨some name, some ns, some .plainClass, some ["Google.Protobuf.IMessage"],
    some (types.map fun _ => ⟨some "XFieldNumber", some "", some (.int 1), some false⟩),
    some (types.map fun t => ⟨some "X", some t, some true, some false, some false⟩),
    some (ns ++ "." ++ name), none, []⟩

/-- Two messages in a namespace, with a field of a type in another one between them. -/
def crossedDeclaration : AssemblyDeclaration :=
  ⟨some "", some [⟨some "Google.Protobuf", none⟩],
    some [declareLinks "A" "M" [], declareLinks "B" "M" ["N.C"], declareLinks "C" "N" ["M.A"]]⟩

def crossedTypes : Assembly :=
  .ofTypes (some "") (some [⟨some "Google.Protobuf", none⟩])
    [linksNode "A" "M" [], linksNode "B" "M" ["N.C"], linksNode "C" "N" ["M.A"]]

/-- Messages in two namespaces that differ in case. -/
def casedDeclaration : AssemblyDeclaration :=
  ⟨some "", some [⟨some "Google.Protobuf", none⟩],
    some [declareLinks "A" "M" [], declareLinks "B" "m" []]⟩

def casedTypes : Assembly :=
  .ofTypes (some "") (some [⟨some "Google.Protobuf", none⟩])
    [linksNode "A" "M" [], linksNode "B" "m" []]

theorem moduleNamespaces_crossed :
    (analyze crossedTypes).outcome.toOption.map (fun r => r.graph.modules.values.map (·.ns)) =
      some [some ("M" : Text), some ("M" : Text), some ("N" : Text)] := by
  rw [outcome_analyze_steps]
  cbv

/-- The names of the first namespace begin with its letter, and so does that of the
    second. -/
theorem head_of_crossed {g : ModuleGraph}
    (h : g.modules.values.map (·.ns) = [some ("M" : Text), some ("M" : Text), some ("N" : Text)])
    {ns name : Text} (hname : Candidate g ns name) :
    ns = "M" ∧ (Text.lower name).head? = some (.char 'm') ∨
      ns = "N" ∧ (Text.lower name).head? = some (.char 'n') := by
  have hM : share g "M" = 2 := by
    rw [share_eq_count, h]
    decide
  have hN : share g "N" = 1 := by
    rw [share_eq_count, h]
    decide
  have hns : ns = "M" ∨ ns = "N" := by
    have hpos : 0 < share g ns := by
      rcases hname with ⟨hone, -⟩ | ⟨hseveral, -⟩
      · omega
      · omega
    rw [share_eq_count, List.count_pos_iff, h] at hpos
    simpa using hpos
  have hbase : baseOf "M" = ("m" : Text) := by decide
  rcases hns with rfl | rfl
  · rcases hname with ⟨hone, -⟩ | ⟨-, i, -, rfl⟩
    · omega
    · refine Or.inl ⟨rfl, ?_⟩
      rw [hbase, indexedName_eq]
      rfl
  · rcases hname with ⟨-, rfl⟩ | ⟨hseveral, -⟩
    · exact Or.inr ⟨rfl, by decide⟩
    · omega

theorem not_sharedName_crossed {g : ModuleGraph}
    (h : g.modules.values.map (·.ns) = [some ("M" : Text), some ("M" : Text), some ("N" : Text)]) :
    ¬SharedName g := by
  rintro ⟨ns, ns', name, name', hne, hname, hname', heq⟩
  have hmn : some (CodePoint.char 'm') ≠ some (.char 'n') := by decide
  have hhead := congrArg List.head? heq
  rcases head_of_crossed h hname with ⟨rfl, hm⟩ | ⟨rfl, hm⟩
  · rcases head_of_crossed h hname' with ⟨rfl, -⟩ | ⟨rfl, hn⟩
    · exact hne rfl
    · exact hmn (hm.symm.trans (hhead.trans hn))
  · rcases head_of_crossed h hname' with ⟨rfl, hn⟩ | ⟨rfl, -⟩
    · exact hmn (hn.symm.trans (hhead.symm.trans hm))
    · exact hne rfl

theorem fails_cased : (analyze casedTypes).outcome.toOption.map
    (fun r => (plan r.schema r.graph).toOption.isNone) = some true := by
  rw [outcome_analyze_steps]
  cbv

/-- Where no candidate is shared files are planned, among them two of one namespace.
    Namespaces that differ in case share one. -/
theorem plan_names_crossed :
    (∃ r files, (analyze crossedTypes).outcome = .ok r ∧ plan r.schema r.graph = .ok files ∧
      ¬SharedName r.graph ∧ share r.graph "M" = 2 ∧ OnePerModule r.schema r.graph files) ∧
    ∃ r e, (analyze casedTypes).outcome = .ok r ∧ plan r.schema r.graph = .error e ∧
      e.kind = .rebuild ∧ SharedName r.graph := by
  constructor
  · obtain ⟨r, hr, hns⟩ := Option.map_eq_some_iff.mp moduleNamespaces_crossed
    have hok := eq_ok_of_toOption hr
    obtain ⟨-, hfails, hplans⟩ :=
      plan_names (d := crossedDeclaration) (by cbv) (by decide) hok
    have hshared := not_sharedName_crossed hns
    cases hplan : plan r.schema r.graph with
    | error e => exact absurd (hfails e hplan).2 hshared
    | ok files =>
        refine ⟨r, files, hok, hplan, hshared, ?_, hplans files hplan⟩
        rw [share_eq_count, hns]
        decide
  · obtain ⟨r, hr, hnone⟩ := Option.map_eq_some_iff.mp fails_cased
    have hok := eq_ok_of_toOption hr
    cases hplan : plan r.schema r.graph with
    | ok files =>
        rw [hplan] at hnone
        cases hnone
    | error e =>
        exact ⟨r, e, hok, hplan,
          (plan_names (d := casedDeclaration) (by cbv) (by decide) hok).2.1 e hplan⟩

end Recovery

end SchemaRecovery
