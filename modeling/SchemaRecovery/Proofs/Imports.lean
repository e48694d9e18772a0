/-
  SchemaRecovery.Proofs.Imports

  The imports of the output files. Every type that a file mentions is declared in
  exactly one file, and a file imports the other files that declare what it
  mentions, and the external files that it needs. It imports nothing that the
  analysis did not find to be needed, and files do not refer to each other in a
  circle (`rebuild_imports`).
-/
import SchemaRecovery.Proofs.Decoding
import SchemaRecovery.Proofs.Homes
import SchemaRecovery.Proofs.Plan
import SchemaRecovery.Recovery

namespace SchemaRecovery

open Relation TypeDescriptor

namespace OutputFile

variable {u s : Schema} {g : ModuleGraph} {file : Int → OutputFile} {files : List OutputFile}

/-- What the fields of the messages in a file need, by their schema types in
    `u`. -/
def Mentions (s u : Schema) (f : OutputFile) (x : Need) : Prop := ∃ m, f.Emits s m ∧ u.Needs m x

/-- A field of a message in the first file has a schema type that mentions a type
    which the second declares. -/
def Refers (s : Schema) (f f' : OutputFile) : Prop :=
  ∃ n, f.Mentions s s (.type n) ∧ f'.Declares s (some n)

/-! ## Files and modules -/

theorem Planned.emits_iff (hp : Planned s g file files) (hs : s.WellNested)
    (hg : ModuleGraph.Consistent s g) {i : Int} (hi : g.Live i) {m : MessageType} :
    (file i).Emits s m ↔ g.HasMessage s i m := by
  obtain ⟨mod, hmod⟩ := hi
  refine and_congr_right fun _ => ?_
  constructor
  · rintro ⟨root, hroot, hreach⟩
    obtain ⟨n, hn, hfound⟩ := (hp.messages hmod root).mp hroot
    obtain rfl := hs.keyed_message hfound
    exact ⟨_, (hg.messages _ i).mpr ⟨mod, hmod, hn⟩, hreach⟩
  · rintro ⟨n, hn, hreach⟩
    obtain ⟨mod', hmod', hroot⟩ := (hg.messages n i).mp hn
    obtain ⟨root, hfound, -⟩ := hg.message_ns hmod' n hroot
    rw [hmod, Option.some.injEq] at hmod'
    obtain rfl := hs.keyed_message hfound
    exact ⟨root, (hp.messages hmod root).mpr ⟨_, hmod' ▸ hroot, hfound⟩, hreach⟩

theorem Planned.declares_iff (hp : Planned s g file files) (hs : s.WellNested)
    (hg : ModuleGraph.Partitioned s g) {i : Int} (hi : g.Live i) {n : Label} :
    (file i).Declares s n ↔ g.HasType s i n := by
  have hemits : ∀ m, (file i).Emits s m ↔ g.HasMessage s i m :=
    fun m => hp.emits_iff hs hg.toConsistent hi
  obtain ⟨mod, hmod⟩ := hi
  unfold Declares
  simp only [hemits]
  constructor
  -- Each way to be in a file is a home that the module of the file holds.
  · rintro (⟨m, ⟨hm, r, hr, hreach⟩, rfl⟩ | ⟨m, ⟨hm, r, hr, hreach⟩, hn⟩ | ⟨e, he, rfl⟩)
    · obtain ⟨root, hroot, hisRoot⟩ := (hg.message_owned r).mp ⟨i, hr⟩
      exact ⟨_, .message hroot hisRoot hreach hm, hr⟩
    · obtain ⟨root, hroot, hisRoot⟩ := (hg.message_owned r).mp ⟨i, hr⟩
      exact ⟨_, .nestedEnum hroot hisRoot hreach hm hn, hr⟩
    · obtain ⟨n, hn, hfound⟩ := (hp.enums hmod e).mp he
      obtain rfl := hs.keyed_enum hfound
      have hheld := (hg.enums _ i).mpr ⟨mod, hmod, hn⟩
      obtain ⟨e', he', hisRoot⟩ := (hg.enum_owned _).mp ⟨i, hheld⟩
      exact ⟨_, .rootEnum he' hisRoot, hheld⟩
  · rintro ⟨x, hhome, hheld⟩
    cases hhome with
    | message _ _ hreach hm =>
        obtain rfl := hs.keyed_message hm
        exact Or.inl ⟨_, ⟨hm, _, hheld, hreach⟩, rfl⟩
    | nestedEnum _ _ hreach hm hn =>
        obtain rfl := hs.keyed_message hm
        exact Or.inr (Or.inl ⟨_, ⟨hm, _, hheld, hreach⟩, hn⟩)
    | rootEnum he _ =>
        obtain ⟨mod', hmod', hn⟩ := (hg.enums _ i).mp hheld
        rw [hmod, Option.some.injEq] at hmod'
        have hmem := (hp.enums hmod _).mpr ⟨_, hmod' ▸ hn, he⟩
        exact Or.inr (Or.inr ⟨_, hmem, hs.keyed_enum he⟩)

/-! ## Exact imports -/

/-- The imports of the files are those they need. `u` is the schema before enums
    are dropped, by which imports were found. -/
structure ExactImports (s u : Schema) (files : List OutputFile) : Prop where
  names : (files.map (·.fileName)).Nodup
  declared : ∀ f ∈ files, ∀ n, f.Mentions s s (.type n) → ∃! f', f' ∈ files ∧ f'.Declares s (some n)
  internal : ∀ f ∈ files, ∀ f' ∈ files, f.Refers s f' → f' ≠ f → f'.fileName ∈ f.imports
  external : ∀ f ∈ files, ∀ path, f.Mentions s s (.path path) → path ∈ f.imports
  needed : ∀ f ∈ files, ∀ path ∈ f.imports, f.Mentions s u (.path path) ∨
    ∃ f' ∈ files, f' ≠ f ∧ f'.fileName = path ∧
      ∃ n, f.Mentions s u (.type n) ∧ f'.Declares s (some n)
  acyclic : Acyclic fun f f' => f ∈ files ∧ f' ∈ files ∧ f.Refers s f' ∧ f' ≠ f

theorem Mentions.of_within (h : Schema.Within s u) {f : OutputFile} {x : Need}
    (hx : f.Mentions s s x) : f.Mentions s u x := by
  obtain ⟨m, hm, field, hfield, t, ht, hneed⟩ := hx
  exact ⟨m, hm, field, hfield, t, Schema.mapType_of_within h ht, hneed⟩

section Exact

variable (hp : Planned s g file files) (hs : Schema.Analysed u s)
  (hg : ModuleGraph.Partitioned s g) (hf : ModuleGraph.Faithful u s g)

include hp hs hg hf

/-- A type that a file mentions is declared in the file of one module. -/
theorem Planned.exists_declares {i : Int} {n : Text}
    (h : (file i).Mentions s s (.type n)) : ∃ j, g.Live j ∧ (file j).Declares s (some n) := by
  obtain ⟨m, ⟨hm, -⟩, hneed⟩ := h.of_within hs.within
  obtain ⟨x, hx⟩ : ∃ x, s.Home (some n) x := by
    obtain ⟨-, ⟨e, he, -⟩ | ⟨y, hy, -⟩⟩ := hs.mentioned hm hneed
    · exact hs.exists_home_of_enum he
    · exact hs.exists_home_of_message hy
  obtain ⟨j, hj⟩ := hf.declared hx
  have hlive := hj.live hg.toConsistent
  exact ⟨j, hlive, (hp.declares_iff hs.toWellNested hg hlive).mpr ⟨x, hx, hj⟩⟩

theorem Planned.eq_of_declares {i j : Int} (hi : g.Live i) (hj : g.Live j) {n : Label}
    (h : (file i).Declares s n) (h' : (file j).Declares s n) : i = j := by
  rw [hp.declares_iff hs.toWellNested hg hi] at h
  rw [hp.declares_iff hs.toWellNested hg hj] at h'
  exact hf.unique h h'

/-- Edges lead to the other files that declare what the file mentions. -/
theorem Planned.edge_iff {i j : Int} (hi : g.Live i) (hj : g.Live j) : g.Edge i j ↔
    i ≠ j ∧ ∃ n, (file i).Mentions s u (.type n) ∧ (file j).Declares s (some n) := by
  rw [hf.edges]
  refine and_congr_right fun _ => ?_
  constructor
  · rintro ⟨m, n, hm, hneed, htype⟩
    exact ⟨n, ⟨m, (hp.emits_iff hs.toWellNested hg.toConsistent hi).mpr hm, hneed⟩,
      (hp.declares_iff hs.toWellNested hg hj).mpr htype⟩
  · rintro ⟨n, ⟨m, hm, hneed⟩, hdeclares⟩
    exact ⟨m, n, (hp.emits_iff hs.toWellNested hg.toConsistent hi).mp hm, hneed,
      (hp.declares_iff hs.toWellNested hg hj).mp hdeclares⟩

theorem Planned.edge_of_refers {i j : Int} (hi : g.Live i) (hj : g.Live j)
    (h : (file i).Refers s (file j)) (hne : file j ≠ file i) : g.Edge i j := by
  obtain ⟨n, hmention, hdeclares⟩ := h
  refine (hp.edge_iff hs hg hf hi hj).mpr ⟨?_, n, hmention.of_within hs.within, hdeclares⟩
  rintro rfl
  exact hne rfl

/-- The planned files import what they need, if edges are faithful. -/
theorem Planned.exactImports (hacyclic : Acyclic g.Edge) : ExactImports s u files where
  names := hp.names
  declared := by
    intro f hfile n hmention
    obtain ⟨i, hi, rfl⟩ := (hp.mem_iff f).mp hfile
    obtain ⟨j, hj, hdeclares⟩ := hp.exists_declares hs hg hf hmention
    refine ⟨file j, ⟨(hp.mem_iff _).mpr ⟨j, hj, rfl⟩, hdeclares⟩, ?_⟩
    rintro f' ⟨hfile', hdeclares'⟩
    obtain ⟨k, hk, rfl⟩ := (hp.mem_iff f').mp hfile'
    rw [hp.eq_of_declares hs hg hf hk hj hdeclares' hdeclares]
  internal := by
    intro f hfile f' hfile' hrefers hne
    obtain ⟨i, ⟨m, hm⟩, rfl⟩ := (hp.mem_iff f).mp hfile
    obtain ⟨j, hj, rfl⟩ := (hp.mem_iff f').mp hfile'
    obtain ⟨m', hm', hdep⟩ := hp.edge_of_refers hs hg hf ⟨m, hm⟩ hj hrefers hne
    exact (hp.imports hm' _).mpr (Or.inr ⟨j, hdep, rfl⟩)
  external := by
    intro f hfile path hmention
    obtain ⟨i, ⟨m, hm⟩, rfl⟩ := (hp.mem_iff f).mp hfile
    obtain ⟨x, hx, hneed⟩ := hmention.of_within hs.within
    exact (hp.imports hm path).mpr (Or.inl ⟨x, hx, ((hs.recorded hx.1).imports path).mpr hneed⟩)
  needed := by
    intro f hfile path hpath
    obtain ⟨i, ⟨m, hm⟩, rfl⟩ := (hp.mem_iff f).mp hfile
    rcases (hp.imports hm path).mp hpath with ⟨x, hx, himport⟩ | ⟨j, hdep, rfl⟩
    · exact Or.inl ⟨x, hx, ((hs.recorded hx.1).imports path).mp himport⟩
    · have hedge : g.Edge i j := ⟨m, hm, hdep⟩
      have hj := hg.toWired.live_of_edge hedge
      obtain ⟨hij, hmention⟩ := (hp.edge_iff hs hg hf ⟨m, hm⟩ hj).mp hedge
      refine Or.inr ⟨file j, (hp.mem_iff _).mpr ⟨j, hj, rfl⟩, fun heq => hij ?_, rfl, hmention⟩
      exact hp.name_inj ⟨m, hm⟩ hj (congrArg fileName heq.symm)
  acyclic := by
    -- A circle of files is one of their modules.
    have hpath : ∀ {f f'}, TransGen (fun f f' => f ∈ files ∧ f' ∈ files ∧ f.Refers s f' ∧
        f' ≠ f) f f' → ∀ i j, g.Live i → g.Live j → file i = f → file j = f' →
          TransGen g.Edge i j := by
      intro f f' hcycle
      induction hcycle with
      | single hstep =>
          rintro i j hi hj rfl rfl
          exact .single (hp.edge_of_refers hs hg hf hi hj hstep.2.2.1 hstep.2.2.2)
      | tail _ hstep ih =>
          rintro i k hi hk rfl rfl
          obtain ⟨j, hj, rfl⟩ := (hp.mem_iff _).mp hstep.1
          exact (ih i j hi hj rfl rfl).tail
            (hp.edge_of_refers hs hg hf hj hk hstep.2.2.1 hstep.2.2.2)
    intro f hcycle
    obtain ⟨f', ⟨hfile, -⟩, -⟩ := TransGen.head'_iff.mp hcycle
    obtain ⟨i, hi, rfl⟩ := (hp.mem_iff f).mp hfile
    exact hacyclic i (hpath hcycle i i hi hi rfl rfl)

end Exact

end OutputFile

namespace Recovery

/-- The files that are recovered from a document, no enum of which is listed as a
    message, import what they need. -/
theorem rebuild_imports {text : Text} {a : Assembly} {r : Recovery} {files : List OutputFile}
    (hload : Assembly.load text = .ok a)
    (hkinds : ∀ t ∈ a.allTypes, t.isEnum = true → t.implements messageInterface ≠ .ok true)
    (hok : (rebuild a).outcome = .ok (r, files)) :
    ∃ u, (unpruned a).outcome = .ok u ∧ r.schema = u.prune.1 ∧
      OutputFile.ExactImports r.schema u files := by
  obtain ⟨s₀, g₀, hdiscover, hrelate, hpartition, hcompact, hplan⟩ := rebuild_eq_ok hok
  obtain ⟨u, hu, hprune, hs⟩ :=
    analysed_of_relate (Assembly.named_of_load hload) hkinds hdiscover hrelate
  obtain ⟨hg, hacyclic, hfaithful⟩ := ModuleGraph.faithful_of_compact hs hpartition hcompact
  obtain ⟨file, hp⟩ := OutputFile.planned_of_plan hs.toWellNested hg.toWired hplan
  exact ⟨u, hu, hprune, hp.exactImports hs hg hfaithful hacyclic⟩

/-! ## Two messages -/

/-- A document with a message `A` outside namespaces, which has a field of the
    type of a message `M.B`. -/
def twoMessages : Text :=
  List.flatten
    ["\x7b\"name\":\"\",", "\"references\":[\x7b\"name\":", "\"Google.Protobuf\"\x7d],",
      "\"types\":[\x7b\"name\":\"A\",", "\"interfaces\":[", "\"Google.Protobuf.IMessage\"],",
      "\"fields\":[\x7b\"name\":", "\"BFieldNumber\",", "\"type\":\"\",\"constant\":1\x7d],",
      "\"properties\":[\x7b", "\"name\":\"B\",\"type\":\"M.B\"\x7d]\x7d,",
      "\x7b\"name\":\"B\",\"namespace\":\"M\",", "\"interfaces\":[",
      "\"Google.Protobuf.IMessage\"]\x7d]\x7d"]

def membersOfA : Decode.Members :=
  [("name", .str "A"), ("interfaces", .arr [.str "Google.Protobuf.IMessage"]),
    ("fields", .arr [.obj [("name", .str "BFieldNumber"), ("type", .str ""),
      ("constant", .int 1)]]),
    ("properties", .arr [.obj [("name", .str "B"), ("type", .str "M.B")]])]

def membersOfB : Decode.Members :=
  [("name", .str "B"), ("namespace", .str "M"),
    ("interfaces", .arr [.str "Google.Protobuf.IMessage"])]

/-- The assembly that the document describes. -/
def twoTypes : Assembly :=
  .ofTypes (some "") (some [⟨some "Google.Protobuf", none⟩])
    [⟨some "A", some "", some .plainClass, some ["Google.Protobuf.IMessage"],
        some [⟨some "BFieldNumber", some "", some (.int 1), some false⟩],
        some [⟨some "B", some "M.B", some true, some false, some false⟩], some "A", none, []⟩,
      ⟨some "B", some "M", some .plainClass, some ["Google.Protobuf.IMessage"], some [], some [],
        some "M.B", none, []⟩]

set_option maxRecDepth 8000 in
theorem read_twoMessages : Json.read twoMessages = .ok (.obj [("name", .str ""),
    ("references", .arr [.obj [("name", .str "Google.Protobuf")]]),
    ("types", .arr [.obj membersOfA, .obj membersOfB])]) := by
  cbv

theorem load_twoMessages : Assembly.load twoMessages = .ok twoTypes := by
  have hA : Decode.type (.obj membersOfA) = .ok ⟨some "A", some "", some .plainClass,
      some ["Google.Protobuf.IMessage"],
      some [⟨some "BFieldNumber", some "", some (.int 1), some false⟩],
      some [⟨some "B", some "M.B", some true, some false, some false⟩], some []⟩ := by
    rw [Decode.type_obj]
    cbv
  have hB : Decode.type (.obj membersOfB) = .ok ⟨some "B", some "M", some .plainClass,
      some ["Google.Protobuf.IMessage"], some [], some [], some []⟩ := by
    rw [Decode.type_obj]
    cbv
  have htypes := mapM_eq_ok_iff.mpr (.cons hA (.cons hB .nil))
  unfold Assembly.load
  rw [read_twoMessages]
  show Assembly.ofJson _ = _
  unfold Assembly.ofJson
  rw [Decode.assembly_of_types (by cbv) (by cbv) htypes]
  cbv

/-- The names and imports of the recovered files. -/
def nameImports (x : Except Failure (Recovery × List OutputFile)) : List (Text × List Text) :=
  match x with
  | .ok (_, files) => files.map fun f => (f.fileName, f.imports)
  | .error _ => []

theorem nameImports_twoTypes : nameImports (rebuild twoTypes).outcome =
    [(("base.proto" : Text), [("m.proto" : Text)]), (("m.proto" : Text), [])] := by
  rw [outcome_rebuild, outcome_analyze_steps]
  cbv

/-- Two files are recovered from the document, the first of which imports the
    second. -/
theorem rebuild_imports_twoMessages :
    Assembly.load twoMessages = .ok twoTypes ∧ ∃ r files u,
      (rebuild twoTypes).outcome = .ok (r, files) ∧
      files.map (fun f => (f.fileName, f.imports)) =
        [(("base.proto" : Text), [("m.proto" : Text)]), (("m.proto" : Text), [])] ∧
      (unpruned twoTypes).outcome = .ok u ∧ OutputFile.ExactImports r.schema u files := by
  refine ⟨load_twoMessages, ?_⟩
  have hkinds : ∀ t ∈ twoTypes.allTypes, t.isEnum = true →
      t.implements messageInterface ≠ .ok true := by
    intro t ht henum
    have hall : ∀ t ∈ twoTypes.allTypes, t.isEnum = false := by decide
    rw [hall t ht] at henum
    cases henum
  have hnames := nameImports_twoTypes
  cases hok : (rebuild twoTypes).outcome with
  | error e =>
      rw [hok] at hnames
      cases hnames
  | ok result =>
      rw [hok] at hnames
      obtain ⟨u, hu, -, hexact⟩ := rebuild_imports load_twoMessages hkinds hok
      exact ⟨result.1, result.2, u, rfl, hnames, hu, hexact⟩

end Recovery

end SchemaRecovery
