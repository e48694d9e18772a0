/-
  SchemaRecovery.Proofs.WrittenFiles

  What the command leaves in the tree of files. Unless the document is read, its schema
  recovered and every file rendered, the command ends with code 1 and the tree is as
  before. If it ends with code 0 it has written one file for each module, and at most
  the directories on the way to the output directory are new. The names of files come
  from namespaces and are followed as paths, so the files are in the output directory,
  and all others as before, exactly if no name holds a slash (`run_written`).
-/
import SchemaRecovery.CommandLine.Command
import SchemaRecovery.Proofs.FileNames
import SchemaRecovery.Proofs.FullNames

namespace SchemaRecovery.CommandLine

open Recovery (rebuild renderFiles)

/-! ## Places of files -/

namespace Place

theorem rootOf_of_not_mem {path : Text} (h : CodePoint.char '/' ∉ path) : rootOf path = [] := by
  cases path with
  | nil => rfl
  | cons c rest =>
      have hc : c ≠ .char '/' := fun heq => h (heq ▸ List.mem_cons_self)
      unfold rootOf
      split
      · rename_i heq
        exact absurd (List.cons.inj heq).1 hc
      · rename_i heq
        exact absurd (List.cons.inj heq).1 hc
      · rename_i heq
        exact absurd (List.cons.inj heq).1 hc
      · rfl

/-- A path without slashes is one name, or leads nowhere. -/
theorem namesOf_of_not_mem {path : Text} (h : CodePoint.char '/' ∉ path) :
    namesOf path = [] ∨ namesOf path = [path] := by
  have hjoin : Text.join [.char '/'] [path] = path := by simp [Text.join]
  have hpieces : Text.pieces '/' (Text.join [.char '/'] [path]) = [path] :=
    Text.pieces_join (List.cons_ne_nil _ _) (List.forall_mem_singleton.mpr h)
  rw [hjoin] at hpieces
  unfold namesOf
  rw [hpieces]
  exact List.sublist_singleton.mp List.filter_sublist

end Place

namespace FileTree

variable {t t' : FileTree} {dir cur p : Place} {path : Text}

theorem target?_eq_some (h : t.target? dir path = some p) : ∃ around last,
    p = around ++ [last] ∧ (Place.namesOf path).getLast? = some last ∧
      t.walk (Place.startOf dir path) (Place.namesOf path).dropLast = .ok around := by
  unfold target? at h
  obtain ⟨last, hlast, h⟩ := Option.bind_eq_some_iff.mp h
  obtain ⟨around, haround, h⟩ := Option.bind_eq_some_iff.mp h
  dsimp only at h
  split at h
  · exact ⟨around, last, (Option.some.inj h).symm, hlast, eq_ok_of_toOption haround⟩
  · cases h

/-- A name without slashes leads to the file of that name in the directory. -/
theorem target?_of_not_mem (hpath : CodePoint.char '/' ∉ path)
    (h : t.target? dir path = some p) : p = dir ++ [path] := by
  obtain ⟨around, last, rfl, hlast, haround⟩ := target?_eq_some h
  rcases Place.namesOf_of_not_mem hpath with hnames | hnames
  · rw [hnames] at hlast
    cases hlast
  · rw [hnames] at hlast haround
    have hstart : Place.startOf dir path = dir := by
      unfold Place.startOf
      rw [Place.rootOf_of_not_mem hpath]
      rfl
    rw [List.dropLast_singleton, hstart] at haround
    obtain rfl := Except.ok.inj haround
    obtain rfl := Option.some.inj hlast
    rfl

/-- A text with an encoding is stored at the place of its file. -/
theorem write_eq {text : Text} {bytes : ByteArray} (hp : t.target? dir path = some p)
    (hbytes : text.utf8? = some bytes) :
    t.write dir path text = ({ t with files := t.files.insert p bytes }, true) := by
  unfold write
  rw [hp, hbytes]

/-- No file is written under a name with a slash. -/
theorem slash_not_mem_of_target? (h : t.target? dir path = some p) {last : Text}
    (hlast : p.getLast? = some last) : CodePoint.char '/' ∉ last := by
  obtain ⟨around, last', rfl, hlast', -⟩ := target?_eq_some h
  rw [List.getLast?_concat] at hlast
  obtain rfl := Option.some.inj hlast
  have hmem := List.mem_of_getLast? hlast'
  exact Text.sep_not_mem_pieces (List.mem_filter.mp hmem).1

/-- The second tree has the files of the first, and besides its directories at most
    those on the way to a place. -/
structure Grows (p : Place) (t t' : FileTree) : Prop where
  files : t'.files = t.files
  kept : ∀ q, t.isDir q = true → t'.isDir q = true
  made : ∀ q, t'.isDir q = true → t.isDir q = true ∨ q <+: p

theorem Grows.refl (p : Place) (t : FileTree) : Grows p t t :=
  ⟨rfl, fun _ h => h, fun _ h => Or.inl h⟩

theorem Grows.trans {t₁ t₂ t₃ : FileTree} (h : Grows p t₁ t₂) (h' : Grows p t₂ t₃) :
    Grows p t₁ t₃ :=
  ⟨h'.files.trans h.files, fun q hq => h'.kept q (h.kept q hq),
    fun q hq => (h'.made q hq).elim (h.made q) Or.inr⟩

theorem isDir_append {t : FileTree} {q : Place} :
    FileTree.isDir { t with dirs := t.dirs ++ [p] } q = true ↔ t.isDir q = true ∨ q = p := by
  unfold isDir
  simp [or_assoc]

/-- Making the directories on the way to a place makes no others. -/
theorem grows_makeWay (t : FileTree) (cur : Place) (names : List Text) :
    Grows (cur ++ names) t (t.makeWay cur names).1 := by
  induction names generalizing t cur with
  | nil => exact .refl _ t
  | cons name rest ih =>
      rw [makeWay, List.append_cons]
      split
      · exact ih t (cur ++ [name])
      · split
        · exact .refl _ t
        · -- The directory is made, and lies on the way to what is still to come.
          have hmade : Grows (cur ++ [name] ++ rest) t
              { t with dirs := t.dirs ++ [cur ++ [name]] } := by
            refine ⟨rfl, fun q hq => isDir_append.mpr (Or.inl hq), fun q hq => ?_⟩
            refine (isDir_append.mp hq).imp_right ?_
            rintro rfl
            exact List.prefix_append _ _
          exact hmade.trans (ih _ (cur ++ [name]))

end FileTree

/-! ## Writing -/

/-- Seeing that a directory is there makes at most the directories on the way to it. -/
theorem grows_prepare (t : FileTree) (dir : Place) :
    FileTree.Grows dir t (prepare t dir).2.1 := by
  unfold prepare
  split
  · exact .refl dir t
  · exact .refl dir t
  · exact t.grows_makeWay [] dir

/-- The texts are stored one after another, each at the place to which the name of its
    file leads from the directory. -/
inductive Stores (dir : Place) : FileTree → List (OutputFile × Text) → FileTree → Prop
  | nil (t : FileTree) : Stores dir t [] t
  | cons {t t' : FileTree} {f : OutputFile} {text : Text} {rest : List (OutputFile × Text)}
      {p : Place} {bytes : ByteArray} (hp : t.target? dir f.fileName = some p)
      (hbytes : text.utf8? = some bytes)
      (h : Stores dir { t with files := t.files.insert p bytes } rest t') :
      Stores dir t ((f, text) :: rest) t'

/-- The tree `t'` has each text in the directory, under the name of its file, and all
    other files of the tree `t`. -/
structure Contained (t t' : FileTree) (dir : Place) (texts : List (OutputFile × Text)) :
    Prop where
  stored : ∀ x ∈ texts, ∃ bytes, x.2.utf8? = some bytes ∧
    t'.files.find? (dir ++ [x.1.fileName]) = some bytes
  others : ∀ p, (∀ x ∈ texts, p ≠ dir ++ [x.1.fileName]) → t'.files.find? p = t.files.find? p

section Writing

variable {t t' : FileTree} {dir : Place} {texts : List (OutputFile × Text)}

theorem stores_of_writeFiles (h : (writeFiles dir t texts).2.2 = true) :
    Stores dir t texts (writeFiles dir t texts).2.1 := by
  induction texts generalizing t with
  | nil => exact .nil t
  | cons x rest ih =>
      obtain ⟨f, text⟩ := x
      rw [writeFiles] at h ⊢
      dsimp only at h ⊢
      split at h
      · cases h
      · rename_i t₁ hwrite
        unfold FileTree.write at hwrite
        split at hwrite
        · cases hwrite
        · rename_i p hp
          split at hwrite
          · cases hwrite
          · rename_i bytes hbytes
            cases hwrite
            exact .cons hp hbytes (ih h)

theorem Stores.dirs (h : Stores dir t texts t') : t'.dirs = t.dirs := by
  induction h with
  | nil t => rfl
  | cons _ _ _ ih => exact ih

/-- Nothing is stored at a place whose name holds a slash. -/
theorem Stores.find?_of_slash (h : Stores dir t texts t') {p : Place} {last : Text}
    (hlast : p.getLast? = some last) (hslash : CodePoint.char '/' ∈ last) :
    t'.files.find? p = t.files.find? p := by
  induction h with
  | nil t => rfl
  | cons hp _ _ ih =>
      rw [ih, Registry.find?_insert, if_neg]
      rintro rfl
      exact FileTree.slash_not_mem_of_target? hp hlast hslash

/-- Under different names without slashes, all texts are stored in the directory. -/
theorem Stores.contained (h : Stores dir t texts t')
    (hslash : ∀ x ∈ texts, CodePoint.char '/' ∉ x.1.fileName)
    (hnames : (texts.map fun x => x.1.fileName).Nodup) : Contained t t' dir texts := by
  induction h with
  | nil t => exact ⟨by simp, fun _ _ => rfl⟩
  | @cons t t' f text rest p bytes hp hbytes h ih =>
      obtain ⟨hf, hslash⟩ := List.forall_mem_cons.mp hslash
      rw [List.map_cons, List.nodup_cons] at hnames
      obtain rfl := FileTree.target?_of_not_mem hf hp
      obtain ⟨hstored, hothers⟩ := ih hslash hnames.2
      constructor
      · refine List.forall_mem_cons.mpr ⟨⟨bytes, hbytes, ?_⟩, hstored⟩
        -- The texts that follow have other names.
        rw [hothers _ fun x hx heq => hnames.1 ?_, Registry.find?_insert, if_pos rfl]
        rw [List.append_cancel_left_eq, List.singleton_inj] at heq
        exact List.mem_map.mpr ⟨x, hx, heq.symm⟩
      · intro q hq
        obtain ⟨hhead, hrest⟩ := List.forall_mem_cons.mp hq
        rw [hothers q hrest, Registry.find?_insert, if_neg hhead]

/-- Texts that are all in the directory have names without slashes, if no name in the
    tree held one before. -/
theorem Stores.slash_not_mem (h : Stores dir t texts t')
    (ht : ∀ p, t.isFile p = true → ∀ n ∈ p, CodePoint.char '/' ∉ n)
    (hcontained : Contained t t' dir texts) :
    ∀ x ∈ texts, CodePoint.char '/' ∉ x.1.fileName := by
  intro x hx hslash
  -- Otherwise the file would have been in the tree already.
  obtain ⟨bytes, -, hfound⟩ := hcontained.stored x hx
  rw [h.find?_of_slash (List.getLast?_concat ..) hslash] at hfound
  exact ht _ (Registry.contains_iff.mpr ⟨bytes, hfound⟩) _ (List.mem_append_right dir (by simp))
    hslash

/-- What holds besides the texts depends on the files of the first tree only. -/
theorem Contained.congr {t₁ : FileTree} (h : Contained t t' dir texts)
    (hfiles : t₁.files = t.files) : Contained t₁ t' dir texts :=
  ⟨h.stored, hfiles ▸ h.others⟩

/-- A delivery that ends well has made the directory and stored the texts. -/
theorem stores_of_deliver (h : (deliver t dir texts).exitCode = 0) :
    ∃ t₁, FileTree.Grows dir t t₁ ∧ Stores dir t₁ texts (deliver t dir texts).tree := by
  have hgrows := grows_prepare t dir
  unfold deliver at h ⊢
  split at h
  · cases h
  · rename_i log t₁ hprepare
    rw [hprepare] at hgrows
    have hstores : (writeFiles dir t₁ texts).2.2 = true →
        Stores dir t₁ texts (writeFiles dir t₁ texts).2.1 := stores_of_writeFiles
    split at h
    · cases h
    · rename_i entries t₂ hwrite
      rw [hwrite] at hstores
      split at h
      · cases h
      · rename_i lines hlines
        exact ⟨t₁, hgrows, hstores rfl⟩

/-- A delivery ends well if all its steps do. -/
theorem deliver_of_steps {t₁ t₂ : FileTree} (hprepare : (prepare t dir).2 = (t₁, true))
    (hwrite : (writeFiles dir t₁ texts).2 = (t₂, true))
    (hlines : (Summary.tableLines (texts.map (·.1))).isSome = true) :
    (deliver t dir texts).exitCode = 0 ∧ (deliver t dir texts).tree = t₂ := by
  have hprepared : prepare t dir = ((prepare t dir).1, t₁, true) := Prod.ext rfl hprepare
  have hwritten : writeFiles dir t₁ texts = ((writeFiles dir t₁ texts).1, t₂, true) :=
    Prod.ext rfl hwrite
  obtain ⟨lines, hlines⟩ := Option.isSome_iff_exists.mp hlines
  unfold deliver
  rw [hprepared]
  dsimp only
  rw [hwritten]
  dsimp only
  rw [hlines]
  exact ⟨rfl, rfl⟩

end Writing

/-! ## The command -/

/-- The document with the given content, whose path is `path`, is read, its schema is
    recovered, and all files are rendered. -/
structure Recovers (path : Text) (content : ByteArray) (r : Recovery) (files : List OutputFile)
    (texts : List (OutputFile × Text)) : Prop where
  rebuilt : ∃ a, (loadFile path content).outcome = .ok a ∧
    (rebuild a).outcome = .ok (r, files)
  rendered : (renderFiles r.schema files).outcome = .ok texts

section Command

variable {cwd : Place} {args : List Text} {t : FileTree} {assemblyPath outputDir path : Text}
  {verbose : Bool} {source : Place} {content : ByteArray} {r : Recovery}
  {files : List OutputFile} {texts : List (OutputFile × Text)}

theorem exists_recovers_iff : (∃ r files, Recovers path content r files texts) ↔
    ∃ a, (loadFile path content).outcome = .ok a ∧ (Recovery.run a).outcome = .ok texts := by
  constructor
  · rintro ⟨r, files, ⟨a, hload, hrebuild⟩, hrendered⟩
    refine ⟨a, hload, ?_⟩
    rw [Recovery.outcome_run, hrebuild]
    exact hrendered
  · rintro ⟨a, hload, hrun⟩
    rw [Recovery.outcome_run] at hrun
    obtain ⟨⟨r, files⟩, hrebuild, hrendered⟩ := bind_eq_ok.mp hrun
    exact ⟨r, files, ⟨a, hload, hrebuild⟩, hrendered⟩

/-- The content of a file from which an assembly is loaded is the text of a document. -/
theorem load_of_loadFile {a : Assembly} (h : (loadFile path content).outcome = .ok a) :
    ∃ text, Assembly.load text = .ok a := by
  unfold loadFile at h
  obtain ⟨text, -, h⟩ := Logged.outcome_bind_eq_ok.mp h
  obtain ⟨a', ha', h⟩ := Logged.outcome_bind_eq_ok.mp h
  obtain ⟨-, -, h⟩ := Logged.outcome_bind_eq_ok.mp h
  obtain rfl := Except.ok.inj h
  exact ⟨text, ha'⟩

/-- A file with the text of a document is read as that. -/
theorem loadFile_toUTF8 {cs : List Char} {a : Assembly}
    (h : Assembly.load (Text.ofChars cs) = .ok a) :
    (loadFile path (String.ofList cs).toUTF8).outcome = .ok a := by
  have hdecode : ∀ s : String, String.fromUTF8? s.toUTF8 = some s := fun s =>
    dif_pos s.isValidUTF8
  have htext : Text.ofString (String.ofList cs) = Text.ofChars cs := by
    rw [Text.ofString, String.toList_ofList]
  unfold loadFile
  rw [hdecode, Logged.outcome_bind]
  dsimp only [Logged.lift]
  rw [ok_bind, htext, h]
  rfl

/-- Characters have an encoding. -/
theorem utf8?_ofChars (cs : List Char) :
    (Text.ofChars cs).utf8? = some (String.ofList cs).toUTF8 := by
  have hchars : (Text.ofChars cs).chars? = some cs := by
    unfold Text.chars? Text.ofChars
    induction cs with
    | nil => rfl
    | cons c rest ih => rw [List.map_cons, List.mapM_cons, ih]; rfl
  rw [Text.utf8?, hchars, Option.map_some]

theorem Recovers.onePerModule (h : Recovers path content r files texts) :
    OutputFile.OnePerModule r.schema r.graph files ∧ texts.map (·.1) = files := by
  obtain ⟨a, hload, hrebuild⟩ := h.rebuilt
  obtain ⟨text, htext⟩ := load_of_loadFile hload
  rw [Recovery.outcome_rebuild] at hrebuild
  obtain ⟨r', hr, hrebuild⟩ := bind_eq_ok.mp hrebuild
  obtain ⟨files', hplan, hrebuild⟩ := bind_eq_ok.mp hrebuild
  obtain ⟨rfl, rfl⟩ := Prod.mk.inj (Except.ok.inj hrebuild)
  obtain ⟨hs, -⟩ := Recovery.partitioned_of_analyze (Assembly.named_of_load htext) hr
  exact ⟨OutputFile.onePerModule_of_plan hs hplan, OutputFile.map_renderFiles h.rendered⟩

/-- What a run that ends with code 0 leaves in the tree: at most directories on the way
    to the output directory are new, and the files are in it, with all others as before,
    exactly if no name holds a slash. -/
structure Written (t t' : FileTree) (dir : Place) (texts : List (OutputFile × Text)) : Prop where
  kept : ∀ q, t.isDir q = true → t'.isDir q = true
  made : ∀ q, t'.isDir q = true → t.isDir q = true ∨ q <+: dir
  contained : (∀ x ∈ texts, CodePoint.char '/' ∉ x.1.fileName) → Contained t t' dir texts
  slash_not_mem : (∀ p, t.isFile p = true → ∀ n ∈ p, CodePoint.char '/' ∉ n) →
    Contained t t' dir texts → ∀ x ∈ texts, CodePoint.char '/' ∉ x.1.fileName

theorem written_of_deliver {dir : Place} (h : (deliver t dir texts).exitCode = 0)
    (hnames : (texts.map fun x => x.1.fileName).Nodup) :
    Written t (deliver t dir texts).tree dir texts := by
  obtain ⟨t₁, hgrows, hstores⟩ := stores_of_deliver h
  have hdirs : ∀ q, (deliver t dir texts).tree.isDir q = t₁.isDir q := by
    intro q
    unfold FileTree.isDir
    rw [hstores.dirs]
  refine ⟨fun q hq => ?_, fun q hq => hgrows.made q (hdirs q ▸ hq), fun hslash => ?_,
    fun ht hall => ?_⟩
  · rw [hdirs]
    exact hgrows.kept q hq
  · exact (hstores.contained hslash hnames).congr hgrows.files.symm
  · refine hstores.slash_not_mem (fun p hp => ht p ?_) (hall.congr hgrows.files)
    unfold FileTree.isFile at hp ⊢
    rwa [hgrows.files] at hp

/-- Unless a schema is recovered and its files rendered, a run leaves the tree as it is. -/
theorem run_of_not (hargs : Invocation.ofArguments args = .rebuild assemblyPath outputDir verbose)
    (h : ¬∃ source content r files texts,
      Paths.look cwd t assemblyPath outputDir = .accepted source content ∧
        Recovers assemblyPath content r files texts) :
    (run cwd args t).exitCode = 1 ∧ (run cwd args t).tree = t := by
  unfold run
  rw [hargs]
  dsimp only
  split
  · exact ⟨rfl, rfl⟩
  · exact ⟨rfl, rfl⟩
  · -- The tree is only touched once all texts are there.
    rename_i source content hlook
    unfold rebuildFile
    dsimp only
    rw [Logged.outcome_bind]
    split
    · exact ⟨rfl, rfl⟩
    · rename_i texts hrun
      obtain ⟨r, files, hrecovers⟩ := exists_recovers_iff.mpr (bind_eq_ok.mp hrun)
      exact absurd ⟨source, content, r, files, texts, hlook, hrecovers⟩ h

/-- A run with rendered files delivers them. -/
theorem run_of_recovers
    (hargs : Invocation.ofArguments args = .rebuild assemblyPath outputDir verbose)
    (hlook : Paths.look cwd t assemblyPath outputDir = .accepted source content)
    (h : Recovers assemblyPath content r files texts) :
    (run cwd args t).exitCode = (deliver t (Place.ofPath cwd outputDir) texts).exitCode ∧
      (run cwd args t).tree = (deliver t (Place.ofPath cwd outputDir) texts).tree := by
  obtain ⟨a, hload, hrun⟩ := exists_recovers_iff.mp ⟨r, files, h⟩
  have hrecovered : ((loadFile assemblyPath content).outcome >>= fun a =>
      (Recovery.run a).outcome) = .ok texts := by
    rw [hload]
    exact hrun
  unfold run
  rw [hargs]
  dsimp only
  rw [hlook]
  dsimp only
  unfold rebuildFile
  dsimp only
  rw [Logged.outcome_bind, hrecovered]
  exact ⟨rfl, rfl⟩

/-- The run of the command on two paths. If a path cannot be taken, or the document is
    not read, its schema not recovered or a file not rendered, it ends with code 1 and
    leaves the tree as it is. If it ends with code 0, the schema is recovered, there is
    one file for each module, and the files are written into the output directory
    exactly if no name holds a slash. -/
theorem run_written
    (hargs : Invocation.ofArguments args = .rebuild assemblyPath outputDir verbose) :
    ((¬∃ source content r files texts,
        Paths.look cwd t assemblyPath outputDir = .accepted source content ∧
          Recovers assemblyPath content r files texts) →
      (run cwd args t).exitCode = 1 ∧ (run cwd args t).tree = t) ∧
    ((run cwd args t).exitCode = 0 → ∃ source content r files texts,
      Paths.look cwd t assemblyPath outputDir = .accepted source content ∧
        Recovers assemblyPath content r files texts ∧
        OutputFile.OnePerModule r.schema r.graph files ∧ texts.map (·.1) = files ∧
        Written t (run cwd args t).tree (Place.ofPath cwd outputDir) texts) := by
  refine ⟨run_of_not hargs, fun hcode => ?_⟩
  by_cases h : ∃ source content r files texts,
      Paths.look cwd t assemblyPath outputDir = .accepted source content ∧
        Recovers assemblyPath content r files texts
  · obtain ⟨source, content, r, files, texts, hlook, hrecovers⟩ := h
    obtain ⟨hmodules, hfiles⟩ := hrecovers.onePerModule
    obtain ⟨hdelivered, htree⟩ := run_of_recovers hargs hlook hrecovers
    refine ⟨source, content, r, files, texts, hlook, hrecovers, hmodules, hfiles, ?_⟩
    rw [htree]
    -- The names differ even in lower case.
    refine written_of_deliver (hdelivered.symm.trans hcode) (List.Nodup.of_map Text.lower ?_)
    have hlower := hmodules.names
    rw [← hfiles, List.map_map] at hlower
    rw [List.map_map]
    exact hlower
  · obtain ⟨hfailed, -⟩ := run_of_not hargs h
    rw [hfailed] at hcode
    cases hcode

end Command

/-! ## A file outside the directory -/

section Escaping

/-- The characters of a document with a message `A` in the namespace `../Up`. -/
def escapingChars : List Char :=
  List.flatten
    ["\x7b\"name\":\"\",".toList, "\"references\":[\x7b\"name\":".toList,
      "\"Google.Protobuf\"\x7d],".toList, "\"types\":[\x7b\"name\":\"A\",".toList,
      "\"namespace\":\"../Up\",".toList, "\"interfaces\":[".toList,
      "\"Google.Protobuf.IMessage\"]\x7d]\x7d".toList]

def membersOfEscaping : Decode.Members :=
  [("name", .str "A"), ("namespace", .str "../Up"),
    ("interfaces", .arr [.str "Google.Protobuf.IMessage"])]

set_option maxRecDepth 8000 in
theorem read_escapingChars : Json.read (Text.ofChars escapingChars) = .ok (.obj
    [("name", .str ""), ("references", .arr [.obj [("name", .str "Google.Protobuf")]]),
      ("types", .arr [.obj membersOfEscaping])]) := by
  cbv

/-- The message that the document declares. -/
def escapingMessage : TypeDescriptor :=
  ⟨some "A", some "../Up", some .plainClass, some ["Google.Protobuf.IMessage"], some [], some [],
    some "../Up.A", none, []⟩

/-- The assembly that the document describes. -/
def escapingAssembly : Assembly :=
  .ofTypes (some "") (some [⟨some "Google.Protobuf", none⟩]) [escapingMessage]

theorem load_escapingChars : Assembly.load (Text.ofChars escapingChars) = .ok escapingAssembly := by
  have hmessage : Decode.type (.obj membersOfEscaping) = .ok ⟨some "A", some "../Up",
      some .plainClass, some ["Google.Protobuf.IMessage"], some [], some [], some []⟩ := by
    rw [Decode.type_obj]
    cbv
  have htypes := mapM_eq_ok_iff.mpr (.cons hmessage .nil)
  unfold Assembly.load
  rw [read_escapingChars]
  show Assembly.ofJson _ = _
  unfold Assembly.ofJson
  rw [Decode.assembly_of_types (by cbv) (by cbv) htypes]
  cbv

/-- The file of the message. -/
def escapingFile : OutputFile where
  fileName := "../up.proto"
  packageName := "../up"
  ns := some "../Up"
  imports := []
  messages := [{ descriptor := escapingMessage, rootMessage := none }]
  enums := []

/-- The characters of the file. -/
def escapingContent : List Char :=
  List.flatten
    ["syntax = \"proto3\";\n".toList, "package ../up;\n".toList,
      "option csharp_namespace = \"../Up\";\n".toList, "\nmessage A \x7b\n\x7d\n".toList]

theorem run_escapingAssembly : (Recovery.run escapingAssembly).outcome =
    .ok [(escapingFile, Text.ofChars escapingContent)] := by
  rw [Recovery.outcome_run, Recovery.outcome_rebuild, Recovery.outcome_analyze_steps]
  cbv

/-- The document as it stands in a file. -/
def escapingBytes : ByteArray := (String.ofList escapingChars).toUTF8

theorem loadFile_escapingBytes (path : Text) :
    (loadFile path escapingBytes).outcome = .ok escapingAssembly :=
  loadFile_toUTF8 load_escapingChars

/-- A directory with the document. -/
def escapingTree : FileTree where
  dirs := [["w"]]
  files := ⟨[(["w", "in.json"], escapingBytes)], List.nodup_singleton _⟩

/-- The same with a directory beside it. -/
def escapingTree' : FileTree := { escapingTree with dirs := [["w"], ["w", "out"]] }

theorem look_escapingTree : Paths.look ["w"] escapingTree "in.json" "out" =
    .accepted ["w", "in.json"] escapingBytes := by
  cbv

theorem prepare_escapingTree : (prepare escapingTree ["w", "out"]).2 = (escapingTree', true) := by
  cbv

theorem target?_escapingFile : escapingTree'.target? ["w", "out"] escapingFile.fileName =
    some (["w", "up.proto"] : Place) := by
  cbv

/-- The text of the file. -/
def escapingTexts : List (OutputFile × Text) := [(escapingFile, Text.ofChars escapingContent)]

theorem tableLines_escapingTexts :
    (Summary.tableLines (escapingTexts.map (·.1))).isSome = true := by
  cbv

/-- The delivery makes the directory, and leaves the file beside it. -/
theorem deliver_escapingTexts : (deliver escapingTree ["w", "out"] escapingTexts).exitCode = 0 ∧
    (deliver escapingTree ["w", "out"] escapingTexts).tree.isFile ["w", "up.proto"] = true := by
  have hstore := FileTree.write_eq target?_escapingFile (utf8?_ofChars escapingContent)
  have hwrite : (writeFiles ["w", "out"] escapingTree' escapingTexts).2 =
      (⟨escapingTree'.dirs, escapingTree'.files.insert ["w", "up.proto"]
        (String.ofList escapingContent).toUTF8⟩, true) := by
    rw [escapingTexts, writeFiles, hstore]
    rfl
  obtain ⟨hcode, htree⟩ := deliver_of_steps prepare_escapingTree hwrite tableLines_escapingTexts
  refine ⟨hcode, ?_⟩
  rw [htree]
  refine Registry.contains_iff.mpr ⟨(String.ofList escapingContent).toUTF8, ?_⟩
  rw [Registry.find?_insert, if_pos rfl]

theorem ofArguments_paths : Invocation.ofArguments ["in.json", "out"] =
    .rebuild "in.json" "out" false := by
  decide

theorem ofPath_out : Place.ofPath ["w"] "out" = ["w", "out"] := by
  decide

theorem recovers_escaping : ∃ r files, Recovers "in.json" escapingBytes r files escapingTexts :=
  exists_recovers_iff.mpr ⟨escapingAssembly, loadFile_escapingBytes _, run_escapingAssembly⟩

theorem run_escapingTree : (run ["w"] ["in.json", "out"] escapingTree).exitCode = 0 ∧
    (run ["w"] ["in.json", "out"] escapingTree).tree =
      (deliver escapingTree ["w", "out"] escapingTexts).tree := by
  obtain ⟨r, files, hrecovers⟩ := recovers_escaping
  have hrun := run_of_recovers ofArguments_paths look_escapingTree hrecovers
  rw [ofPath_out] at hrun
  exact ⟨hrun.1.trans deliver_escapingTexts.1, hrun.2⟩

/-- The file of the namespace `../Up` is written beside the output directory, by a run
    that ends with code 0. -/
theorem written_outside : (run ["w"] ["in.json", "out"] escapingTree).exitCode = 0 ∧
    Place.ofPath ["w"] "out" = ["w", "out"] ∧ escapingTree.isFile ["w", "up.proto"] = false ∧
    (run ["w"] ["in.json", "out"] escapingTree).tree.isFile ["w", "up.proto"] = true := by
  obtain ⟨hcode, htree⟩ := run_escapingTree
  refine ⟨hcode, ofPath_out, by cbv, ?_⟩
  rw [htree]
  exact deliver_escapingTexts.2

/-- The run ends with code 0. As the name of its one file holds a slash, the file is not
    in the output directory. -/
theorem run_written_escaping :
    (run ["w"] ["in.json", "out"] escapingTree).exitCode = 0 ∧
    Written escapingTree (run ["w"] ["in.json", "out"] escapingTree).tree ["w", "out"]
      escapingTexts ∧
    ¬Contained escapingTree (run ["w"] ["in.json", "out"] escapingTree).tree ["w", "out"]
      escapingTexts := by
  obtain ⟨hcode, -⟩ := run_escapingTree
  obtain ⟨source, content, r, files, texts, hlook, hrecovers, -, -, hwritten⟩ :=
    (run_written ofArguments_paths).2 hcode
  -- The document at the path has this one file.
  rw [look_escapingTree] at hlook
  obtain ⟨-, rfl⟩ := Paths.accepted.inj hlook
  obtain ⟨a, hload, hrun⟩ := exists_recovers_iff.mp ⟨r, files, hrecovers⟩
  rw [loadFile_escapingBytes, Except.ok.injEq] at hload
  rw [← hload, run_escapingAssembly, Except.ok.injEq] at hrun
  subst hrun
  rw [ofPath_out] at hwritten
  refine ⟨hcode, hwritten, fun hcontained => ?_⟩
  have hslash := hwritten.slash_not_mem (fun p hp => ?_) hcontained _ List.mem_cons_self
  · exact absurd hslash (by decide)
  · have hp : p = ["w", "in.json"] := by
      simpa [FileTree.isFile, escapingTree, Registry.contains, eq_comm] using hp
    rw [hp]
    decide

end Escaping

end SchemaRecovery.CommandLine
