/-
  SchemaRecovery.CommandLine.Command

  The command: it reads the metadata document of an assembly, recovers the
  schema and writes its files into a directory, all in a tree of files. If the
  schema cannot be recovered nothing is written.
-/
import SchemaRecovery.Assembly.Link
import SchemaRecovery.CommandLine.Arguments
import SchemaRecovery.CommandLine.FileTree
import SchemaRecovery.CommandLine.Summary
import SchemaRecovery.Recovery

namespace SchemaRecovery.CommandLine

/-- What the command leaves: its exit code, the tree of files, the log, and the
lines that it printed. -/
structure Outcome where
  exitCode : Nat
  tree : FileTree
  log : List LogEntry := []
  printed : List Text := []

/-- The entry for an end that nobody foresaw. -/
def unforeseen : LogEntry := ⟨.error, "Unhandled error"⟩

/-- The entry for a failure: failures of the metadata and of the recovery are
told, others are unforeseen. -/
def failureEntry (e : Failure) : LogEntry :=
  match e.kind, e.message? with
  | .metadata, some text | .missingDependency, some text | .rebuild, some text
  | .invariant, some text => ⟨.error, "Error: " ++ text⟩
  | _, _ => unforeseen

/-- The assembly in a file: its content must be a text. -/
def loadFile (path : Text) (content : ByteArray) : Logged Assembly := do
  let text ← Logged.lift <|
    match String.fromUTF8? content with
    | some text => .ok text
    | none => .error .invalidEncoding
  let a ← Assembly.load text
  Logged.debug ("Loaded " ++ toString a.types.length ++ " top-level types from " ++
    Place.tidy path)
  return a

/-- Writes files into a directory that is there, until one cannot be written.
Returns the log of it, the tree, and whether all were written. -/
def writeFiles (dir : Place) :
    FileTree → List (OutputFile × Text) → List LogEntry × FileTree × Bool
  | t, [] => ([], t, true)
  | t, (file, text) :: rest =>
    let entry : LogEntry := ⟨.info, "Writing " ++ Place.under dir file.fileName ++ "..."⟩
    match t.write dir file.fileName text with
    | (t, false) => ([entry], t, false)
    | (t, true) =>
      let (log, t, done) := writeFiles dir t rest
      (entry :: log, t, done)

/-- Sees that a directory is there. Returns the log of it, the tree, and whether
it is there now. A path that cannot even be looked up ends this at once. -/
def prepare (t : FileTree) (dir : Place) : List LogEntry × FileTree × Bool :=
  match t.locate [] dir.toPath with
  | .ok _ => ([], t, true)
  | .error .tooLong => ([], t, false)
  | .error _ =>
    ([⟨.warning, "Directory does not exist, creating: " ++ dir.toPath⟩], t.makeDirs dir)

/-- Writes files into a directory, which is made if it is not there, and tells
of them. -/
def deliver (t : FileTree) (dir : Place) (files : List (OutputFile × Text)) : Outcome :=
  let start : LogEntry := ⟨.info, "Writing .proto files to " ++ dir.toPath ++ "..."⟩
  match prepare t dir with
  | (log, t, false) => { exitCode := 1, tree := t, log := start :: log ++ [unforeseen] }
  | (log, t, true) =>
    match writeFiles dir t files with
    | (entries, t, false) =>
      { exitCode := 1, tree := t, log := start :: log ++ entries ++ [unforeseen] }
    | (entries, t, true) =>
      match Summary.tableLines (files.map (·.1)) with
      | none =>
        { exitCode := 1, tree := t, log := start :: log ++ entries ++ [unforeseen]
          printed := [Summary.heading] }
      | some lines =>
        { exitCode := 0, tree := t, log := start :: log ++ entries ++ [⟨.info, "Done."⟩]
          printed := Summary.heading :: lines }

/-- Recovers the schema of the assembly in a file and writes its files. -/
def rebuildFile (t : FileTree) (path : Text) (source : Place) (content : ByteArray)
    (dir : Place) : Outcome :=
  let start : LogEntry := ⟨.info, "Analyzing assembly: " ++ source.toPath⟩
  let recovered : Logged (List (OutputFile × Text)) := do
    Recovery.run (← loadFile path content)
  match recovered.outcome with
  | .error e => { exitCode := 1, tree := t, log := start :: recovered.log ++ [failureEntry e] }
  | .ok files =>
    let delivered := deliver t dir files
    { delivered with log := start :: recovered.log ++ delivered.log }

/-- Entries that the command shows: those for debugging only when asked. -/
def shown (verbose : Bool) (log : List LogEntry) : List LogEntry :=
  if verbose then log else log.filter fun e => e.level ≠ .debug

/-- What the two paths lead to. -/
inductive Paths where
  | accepted (source : Place) (content : ByteArray)
  /-- The first path leads to no file, or the second leads to one. -/
  | refused
  /-- A path that no file can have. -/
  | unaskable

/-- Looks at the two paths in turn. -/
def Paths.look (cwd : Place) (t : FileTree) (assemblyPath outputDir : Text) : Paths :=
  if !Place.isAskable assemblyPath then .unaskable
  else
    match t.locate cwd assemblyPath with
    | .error _ => .refused
    | .ok source =>
      match t.files.find? source with
      | none => .refused
      | some content =>
        if !Place.isAskable outputDir then .unaskable
        else
          match t.locate cwd outputDir with
          | .error _ => .accepted source content
          | .ok target => if t.isFile target then .refused else .accepted source content

/-- Runs the command in a tree of files, with the working directory `cwd`. -/
def run (cwd : Place) (args : List Text) (t : FileTree) : Outcome :=
  match Invocation.ofArguments args with
  | .help => { exitCode := 0, tree := t }
  | .misuse => { exitCode := 1, tree := t }
  | .rebuild assemblyPath outputDir verbose =>
    match Paths.look cwd t assemblyPath outputDir with
    | .refused => { exitCode := 1, tree := t }
    | .unaskable => { exitCode := 1, tree := t, log := [unforeseen] }
    | .accepted source content =>
      let outcome := rebuildFile t assemblyPath source content (Place.ofPath cwd outputDir)
      { outcome with log := shown verbose outcome.log }

end SchemaRecovery.CommandLine
