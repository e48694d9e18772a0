/-
  SchemaRecovery.Proofs.Plan

  What the planned files hold. There is one file for each module, and no two have
  the same name. A file has the root types of its module; it imports what the
  messages it emits import, and the files of the modules that its module depends
  on (`planned_of_plan`).
-/
import SchemaRecovery.OutputFile.Plan
import SchemaRecovery.Proofs.Consistency
import SchemaRecovery.Proofs.LabelOrder
import SchemaRecovery.Proofs.Nesting

namespace SchemaRecovery.OutputFile

open Relation

variable {s : Schema} {g : ModuleGraph}

/-- The messages in a file: its root messages and the messages nested in these,
    at any depth. -/
def Emits (s : Schema) (file : OutputFile) (m : MessageType) : Prop :=
  s.messages.find? m.fullName = some m ∧
    ∃ root ∈ file.messages, ReflTransGen s.Nested root.fullName m.fullName

/-- The types in a file: its messages, the enums nested in these and its root
    enums. -/
def Declares (s : Schema) (file : OutputFile) (n : Label) : Prop :=
  (∃ m, file.Emits s m ∧ m.fullName = n) ∨ (∃ m, file.Emits s m ∧ n ∈ m.nestedEnums) ∨
    ∃ e ∈ file.enums, e.fullName = n

/-! ## Drafts -/

/-- The draft has the package of the module's namespace and the root types of the
    module, and the imports of the messages that it emits. -/
structure DraftOf (s : Schema) (m : SchemaModule) (d : Draft) : Prop where
  moduleId : m.id = d.moduleId
  ns : d.file.ns = m.ns
  package : ∃ ns, m.ns = some ns ∧ d.file.packageName = packageOf ns
  messages : ∀ x, x ∈ d.file.messages ↔ ∃ n ∈ m.rootMessages, s.messages.find? n = some x
  enums : ∀ x, x ∈ d.file.enums ↔ ∃ n ∈ m.rootEnums, s.enums.find? n = some x
  imports : ∀ path, path ∈ d.imports ↔ ∃ x, d.file.Emits s x ∧ path ∈ x.imports
  nodup_messages : (d.file.messages.map (·.fullName)).Nodup
  nodup_enums : (d.file.enums.map (·.fullName)).Nodup

theorem mem_foldl_union_imports {path : Text} (l : List MessageType) (acc : OrderedSet Text) :
    path ∈ l.foldl (fun acc x => acc.union x.imports) acc ↔
      path ∈ acc ∨ ∃ x ∈ l, path ∈ x.imports := by
  induction l generalizing acc with
  | nil => simp
  | cons x rest ih =>
      rw [List.foldl_cons, ih, OrderedSet.mem_union, or_assoc]
      simp

/-- Types that are looked up by different names are different. -/
theorem nodup_of_lookups {α : Type} {lookup : Label → Except Failure α} {fullName : α → Label}
    {names : OrderedSet Label} {found sorted : List α}
    (hkeyed : ∀ {n x}, lookup n = .ok x → fullName x = n)
    (hfound : names.toList.mapM lookup = .ok found) (hperm : sorted.Perm found) :
    (sorted.map fullName).Nodup := by
  have hnames : found.map fullName = names.toList := by
    rw [← List.forall₂_eq_eq_eq, List.forall₂_map_left_iff]
    exact (mapM_eq_ok_iff.mp hfound).flip.imp fun _ _ h => hkeyed h
  refine (hperm.map fullName).nodup_iff.mpr ?_
  rw [hnames]
  exact names.nodup_toList

theorem draftOf_of_draft (hs : s.WellNested) {used : List Text} {m : SchemaModule} {d : Draft}
    (h : draft s g used m = .ok d) :
    DraftOf s m d ∧ Text.lower d.file.fileName ∉ used := by
  unfold draft at h
  obtain ⟨ns, hns, h⟩ := bind_eq_ok.mp h
  dsimp only at h
  split at h
  · cases h
  · rename_i hfree
    obtain ⟨found, hfound, h⟩ := bind_eq_ok.mp h
    obtain ⟨messages, hmessages, h⟩ := bind_eq_ok.mp h
    obtain ⟨foundEnums, hfoundEnums, h⟩ := bind_eq_ok.mp h
    obtain ⟨enums, henums, h⟩ := bind_eq_ok.mp h
    obtain ⟨families, hfamilies, h⟩ := bind_eq_ok.mp h
    obtain rfl := Except.ok.inj h
    have hmem : ∀ x, x ∈ messages ↔ ∃ n ∈ m.rootMessages, s.messages.find? n = some x := by
      intro x
      rw [(Label.perm_of_sortOnPair hmessages).mem_iff, mem_mapM_iff hfound]
      simp only [Schema.message_eq_ok_iff]
      rfl
    have hmemEnums : ∀ x, x ∈ enums ↔ ∃ n ∈ m.rootEnums, s.enums.find? n = some x := by
      intro x
      rw [(Label.perm_of_sortOnPair henums).mem_iff, mem_mapM_iff hfoundEnums]
      simp only [Schema.enum_eq_ok_iff]
      rfl
    have hnodup := nodup_of_lookups (fun h => hs.keyed_message (Schema.message_eq_ok_iff.mp h))
      hfound (Label.perm_of_sortOnPair hmessages)
    have hnodupEnums := nodup_of_lookups (fun h => hs.keyed_enum (Schema.enum_eq_ok_iff.mp h))
      hfoundEnums (Label.perm_of_sortOnPair henums)
    have hpackage := TypeDescriptor.present_eq_ok_iff.mp hns
    refine ⟨⟨rfl, rfl, ⟨ns, hpackage, rfl⟩, hmem, hmemEnums, fun path => ?_, hnodup,
      hnodupEnums⟩, by simpa using hfree⟩
    rw [mem_foldl_union_imports]
    simp only [OrderedSet.not_mem_empty, false_or, List.mem_flatten, mem_mapM_iff hfamilies]
    -- The families of the root messages are the messages that are emitted.
    have hfamily : ∀ {root l}, root ∈ messages → s.family root = .ok l → ∀ x, x ∈ l ↔
        s.messages.find? x.fullName = some x ∧
          ReflTransGen s.Nested root.fullName x.fullName := by
      intro root l hroot hl x
      obtain ⟨n, -, hn⟩ := (hmem root).mp hroot
      exact Schema.mem_family_iff hs (hs.keyed_message hn ▸ hn) hl
    constructor
    · rintro ⟨x, ⟨l, ⟨root, hroot, hl⟩, hx⟩, hpath⟩
      obtain ⟨hx, hreach⟩ := (hfamily hroot hl x).mp hx
      exact ⟨x, ⟨hx, root, hroot, hreach⟩, hpath⟩
    · rintro ⟨x, ⟨hx, root, hroot, hreach⟩, hpath⟩
      obtain ⟨l, -, hl⟩ := exists_mem_of_mapM hfamilies hroot
      exact ⟨x, ⟨l, ⟨root, hroot, hl⟩, (hfamily hroot hl x).mpr ⟨hx, hreach⟩⟩, hpath⟩

/-- The modules in the order in which they get their names. -/
def orderedModules (g : ModuleGraph) : List SchemaModule := g.modules.values.mergeSort moduleLe

/-- The drafts are those of the modules in order, and their names are different
    in lower case. -/
theorem drafts_eq_ok (hs : s.WellNested) {ds : List Draft} (h : drafts s g = .ok ds) :
    List.Forall₂ (DraftOf s) (orderedModules g) ds ∧
      (ds.map fun d => Text.lower d.file.fileName).Nodup := by
  unfold drafts at h
  obtain ⟨⟨used, made⟩, hfold, h⟩ := bind_eq_ok.mp h
  obtain rfl : made = ds := Except.ok.inj h
  -- The drafts so far belong to the modules so far, and their names are in use.
  have hend := foldlM_keeps (fun rest (state : List Text × List Draft) =>
    ∃ done, done ++ rest = orderedModules g ∧ List.Forall₂ (DraftOf s) done state.2 ∧
      state.1 = state.2.map (fun d => Text.lower d.file.fileName) ∧ state.1.Nodup) ?_
    ⟨[], rfl, .nil, rfl, List.nodup_nil⟩ hfold
  · obtain ⟨done, hdone, hall, hused, hnodup⟩ := hend
    rw [List.append_nil] at hdone
    exact ⟨hdone ▸ hall, hused ▸ hnodup⟩
  · rintro m rest ⟨used, ds⟩ state' ⟨done, hdone, hall, hused, hnodup⟩ hstep
    obtain ⟨d, hd, hstep⟩ := bind_eq_ok.mp hstep
    obtain rfl := Except.ok.inj hstep
    obtain ⟨hdraft, hfree⟩ := draftOf_of_draft hs hd
    refine ⟨done ++ [m], ?_, ?_, ?_, ?_⟩
    · rw [List.append_assoc]
      exact hdone
    · exact List.rel_append hall (.cons hdraft .nil)
    · dsimp only at hused ⊢
      rw [List.map_append, hused]
      rfl
    · exact hnodup.append (List.nodup_singleton _) (by simpa using hfree)

/-! ## Files -/

/-- The files of the modules of a graph. -/
structure Planned (s : Schema) (g : ModuleGraph) (file : Int → OutputFile)
    (files : List OutputFile) : Prop where
  mem_iff : ∀ f, f ∈ files ↔ ∃ i, g.Live i ∧ file i = f
  names : (files.map (·.fileName)).Nodup
  name_inj : ∀ {i j}, g.Live i → g.Live j → (file i).fileName = (file j).fileName → i = j
  ns : ∀ {i m}, g.modules.find? i = some m → (file i).ns = m.ns
  package : ∀ {i m}, g.modules.find? i = some m →
    ∃ ns, m.ns = some ns ∧ (file i).packageName = packageOf ns
  messages : ∀ {i m}, g.modules.find? i = some m → ∀ x, x ∈ (file i).messages ↔
    ∃ n ∈ m.rootMessages, s.messages.find? n = some x
  enums : ∀ {i m}, g.modules.find? i = some m → ∀ x, x ∈ (file i).enums ↔
    ∃ n ∈ m.rootEnums, s.enums.find? n = some x
  imports : ∀ {i m}, g.modules.find? i = some m → ∀ path, path ∈ (file i).imports ↔
    (∃ x, (file i).Emits s x ∧ path ∈ x.imports) ∨
      ∃ j ∈ m.dependsOn, path = (file j).fileName
  nodup_messages : ∀ {i}, g.Live i → ((file i).messages.map (·.fullName)).Nodup
  nodup_enums : ∀ {i}, g.Live i → ((file i).enums.map (·.fullName)).Nodup

theorem finish_eq_ok {ds : List Draft} {d : Draft} {f : OutputFile}
    (h : finish g ds d = .ok f) :
    f.fileName = d.file.fileName ∧ f.messages = d.file.messages ∧ f.enums = d.file.enums ∧
      f.ns = d.file.ns ∧ f.packageName = d.file.packageName ∧
      ∃ m, g.modules.find? d.moduleId = some m ∧ ∀ path, path ∈ f.imports ↔
        path ∈ d.imports ∨ ∃ j ∈ m.dependsOn,
          ∃ x, (ds.find? fun x => x.moduleId == j) = some x ∧ path = x.file.fileName := by
  unfold finish at h
  obtain ⟨m, hm, h⟩ := bind_eq_ok.mp h
  obtain ⟨names, hnames, h⟩ := bind_eq_ok.mp h
  obtain rfl := Except.ok.inj h
  refine ⟨rfl, rfl, rfl, rfl, rfl, m, ModuleGraph.module_eq_ok_iff.mp hm, fun path => ?_⟩
  show path ∈ d.imports.insertAll names ↔ _
  rw [OrderedSet.mem_insertAll, mem_mapM_iff hnames]
  refine or_congr_right (exists_congr fun j => and_congr_right fun _ => ?_)
  cases ds.find? fun x => x.moduleId == j with
  | none => simp
  | some x => simp [eq_comm]

section Drafts

variable {ds : List Draft}

theorem mem_orderedModules (hkeyed : ∀ {i m}, g.modules.find? i = some m → m.id = i)
    {m : SchemaModule} : m ∈ orderedModules g ↔ g.modules.find? m.id = some m := by
  unfold orderedModules
  rw [List.mem_mergeSort, Registry.mem_values]
  constructor
  · rintro ⟨i, hi⟩
    rw [hkeyed hi]
    exact hi
  · exact fun hm => ⟨m.id, hm⟩

/-- No two drafts are of one module. -/
theorem nodup_moduleIds (hkeyed : ∀ {i m}, g.modules.find? i = some m → m.id = i)
    (hall : List.Forall₂ (DraftOf s) (orderedModules g) ds) : (ds.map (·.moduleId)).Nodup := by
  have heq : (orderedModules g).map (·.id) = ds.map (·.moduleId) :=
    map_eq_of_forall₂ hall fun _ _ h => h.moduleId
  have hperm : (orderedModules g).Perm g.modules.values := List.mergeSort_perm _ _
  rw [← heq]
  exact (hperm.map _).nodup_iff.mpr (Registry.nodup_map_values hkeyed)

theorem find?_moduleId (hids : (ds.map (·.moduleId)).Nodup) {d : Draft} (hd : d ∈ ds) :
    (ds.find? fun x => x.moduleId == d.moduleId) = some d := by
  have hfind : (ds.find? fun x => x.moduleId == d.moduleId).isSome = true := by
    rw [List.find?_isSome]
    exact ⟨d, hd, by simp⟩
  obtain ⟨x, hx⟩ := Option.isSome_iff_exists.mp hfind
  have hid : x.moduleId = d.moduleId := by simpa using List.find?_some hx
  rw [hx, List.inj_on_of_nodup_map hids (List.mem_of_find?_eq_some hx) hd hid]

end Drafts

/-- The plan of a graph. -/
theorem planned_of_plan (hs : s.WellNested) (hw : g.Wired) {files : List OutputFile}
    (h : plan s g = .ok files) : ∃ file, Planned s g file files := by
  unfold plan at h
  obtain ⟨ds, hds, h⟩ := bind_eq_ok.mp h
  obtain ⟨made, hmade, h⟩ := bind_eq_ok.mp h
  obtain rfl := Except.ok.inj h
  obtain ⟨hall, hlower⟩ := drafts_eq_ok hs hds
  have hids := nodup_moduleIds hw.keyed hall
  have hperm : (made.mergeSort fun a b => Text.le a.fileName b.fileName).Perm made :=
    List.mergeSort_perm _ _
  -- The file of a module is the one that its draft becomes.
  have hchoose : ∀ i, ∃ f, ∀ m, g.modules.find? i = some m → ∃ d ∈ ds, DraftOf s m d ∧
      (ds.find? fun x => x.moduleId == i) = some d ∧ f ∈ made ∧ finish g ds d = .ok f := by
    intro i
    cases hm : g.modules.find? i with
    | none => exact ⟨⟨"", "", none, [], [], []⟩, fun m hm => by cases hm⟩
    | some m =>
        obtain rfl := hw.keyed hm
        obtain ⟨d, hd, hdraft⟩ := exists_right_of_forall₂ hall
          ((mem_orderedModules hw.keyed).mpr hm)
        obtain ⟨f, hf, hfinish⟩ := exists_mem_of_mapM hmade hd
        refine ⟨f, fun m' hm' => ?_⟩
        rw [← Option.some.inj hm', hdraft.moduleId]
        exact ⟨d, hd, hdraft, find?_moduleId hids hd, hf, hfinish⟩
  choose file hfile using hchoose
  refine ⟨file, ?_⟩
  constructor
  case mem_iff =>
    intro f
    rw [hperm.mem_iff]
    constructor
    · intro hf
      obtain ⟨d, hd, hfinish⟩ := exists_of_mem_mapM hmade hf
      obtain ⟨-, -, -, -, -, m, hm, -⟩ := finish_eq_ok hfinish
      obtain ⟨d', -, -, hfind, -, hfinish'⟩ := hfile _ m hm
      rw [find?_moduleId hids hd, Option.some.injEq] at hfind
      rw [← hfind, hfinish, Except.ok.injEq] at hfinish'
      exact ⟨d.moduleId, ⟨m, hm⟩, hfinish'.symm⟩
    · rintro ⟨i, ⟨m, hm⟩, rfl⟩
      obtain ⟨-, -, -, -, hmem, -⟩ := hfile i m hm
      exact hmem
  case names =>
    refine (hperm.map _).nodup_iff.mpr ?_
    have heq : ds.map (fun d => Text.lower d.file.fileName) =
        (made.map (·.fileName)).map Text.lower := by
      rw [List.map_map]
      refine map_eq_of_forall₂ (mapM_eq_ok_iff.mp hmade) fun d f hfinish => ?_
      rw [Function.comp_apply, (finish_eq_ok hfinish).1]
    rw [heq] at hlower
    exact hlower.of_map _
  case name_inj =>
    rintro i j ⟨m, hm⟩ ⟨n, hn⟩ hname
    obtain ⟨d, hd, hdraft, -, -, hfinish⟩ := hfile i m hm
    obtain ⟨d', hd', hdraft', -, -, hfinish'⟩ := hfile j n hn
    have hsame : Text.lower d.file.fileName = Text.lower d'.file.fileName := by
      rw [← (finish_eq_ok hfinish).1, ← (finish_eq_ok hfinish').1, hname]
    obtain rfl := List.inj_on_of_nodup_map hlower hd hd' hsame
    rw [← hw.keyed hm, ← hw.keyed hn, hdraft.moduleId, hdraft'.moduleId]
  case ns =>
    intro i m hm
    obtain ⟨d, -, hdraft, -, -, hfinish⟩ := hfile i m hm
    rw [(finish_eq_ok hfinish).2.2.2.1]
    exact hdraft.ns
  case package =>
    intro i m hm
    obtain ⟨d, -, hdraft, -, -, hfinish⟩ := hfile i m hm
    rw [(finish_eq_ok hfinish).2.2.2.2.1]
    exact hdraft.package
  case nodup_messages =>
    rintro i ⟨m, hm⟩
    obtain ⟨d, -, hdraft, -, -, hfinish⟩ := hfile i m hm
    rw [(finish_eq_ok hfinish).2.1]
    exact hdraft.nodup_messages
  case nodup_enums =>
    rintro i ⟨m, hm⟩
    obtain ⟨d, -, hdraft, -, -, hfinish⟩ := hfile i m hm
    rw [(finish_eq_ok hfinish).2.2.1]
    exact hdraft.nodup_enums
  case messages =>
    intro i m hm x
    obtain ⟨d, -, hdraft, -, -, hfinish⟩ := hfile i m hm
    rw [(finish_eq_ok hfinish).2.1]
    exact hdraft.messages x
  case enums =>
    intro i m hm x
    obtain ⟨d, -, hdraft, -, -, hfinish⟩ := hfile i m hm
    rw [(finish_eq_ok hfinish).2.2.1]
    exact hdraft.enums x
  case imports =>
    intro i m hm path
    obtain ⟨d, -, hdraft, -, -, hfinish⟩ := hfile i m hm
    obtain ⟨-, hmessages, -, -, -, m', hm', himports⟩ := finish_eq_ok hfinish
    rw [← hdraft.moduleId, hw.keyed hm, hm, Option.some.injEq] at hm'
    rw [himports, hdraft.imports, ← hm']
    unfold Emits
    rw [hmessages]
    refine or_congr_right (exists_congr fun j => and_congr_right fun hj => ?_)
    -- What the module depends on has a draft, under the name of its file.
    obtain ⟨n, hn, -⟩ := hw.forth hm hj
    obtain ⟨x, -, -, hfind, -, hfinish'⟩ := hfile j n hn
    rw [hfind, (finish_eq_ok hfinish').1]
    simp

end SchemaRecovery.OutputFile
