/-
  SchemaRecovery.Main

  The program. What the command may look at is read into a tree of files, the
  command runs on the tree, and what it added to the tree is written out.
-/
import SchemaRecovery.CommandLine.Command

namespace SchemaRecovery.CommandLine

/-- What is told when help is asked for or the arguments cannot be used. -/
def usage : String :=
  "Usage: schema-recovery [-v | --verbose] ASSEMBLY_PATH OUTPUT_DIR\n\n" ++
    "Recovers the .proto files of an assembly from its metadata document.\n" ++
    "ASSEMBLY_PATH is the document, OUTPUT_DIR the directory for the files."

/-- The directory in which the program runs. -/
def workingDirectory : IO Place := do
  return Place.namesOf (Text.ofString (← IO.currentDir).toString)

/-- The tree with the directories on the way to a place that are there. -/
def readWay (t : FileTree) (p : Place) : IO FileTree := do
  let root ← IO.currentDir
  p.way.foldlM (fun t q => return if ← (root / q.toPath.display).isDir then t.withDir q else t) t

/-- The tree with what a path leads to: the directories on the way, the
directories directly in it, and its content if it is a file. -/
def readPath (cwd : Place) (t : FileTree) (path : Text) : IO FileTree := do
  let place := Place.ofPath cwd path
  let t ← readWay t place
  let target := (← IO.currentDir) / place.toPath.display
  if ← target.isDir then
    (← target.readDir).foldlM (fun t e => readWay t (place ++ [Text.ofString e.fileName])) t
  else if ← target.pathExists then
    return { t with files := t.files.insert place (← IO.FS.readBinFile target) }
  else
    return t

/-- Writes what `after` has and `before` has not. -/
def writeChanges (before after : FileTree) : IO Unit := do
  for d in after.dirs do
    unless before.isDir d do IO.FS.createDirAll d.toPath.display
  for (p, content) in after.files.entries do
    unless (before.files.find? p).any (·.data == content.data) do
      IO.FS.writeBinFile p.toPath.display content

/-- Shows the log and the lines of an outcome, or the usage if the command
did not get to work. -/
def report (outcome : Outcome) : IO Unit := do
  if outcome.log.isEmpty then
    if outcome.exitCode = 0 then IO.println usage else IO.eprintln usage
  for e in outcome.log do IO.eprintln (e.level.name ++ " " ++ e.text.display)
  for line in outcome.printed do IO.println line.display

end SchemaRecovery.CommandLine

open SchemaRecovery SchemaRecovery.CommandLine in
/-- Runs the command with the given arguments and returns its exit code. -/
def main (args : List String) : IO UInt32 := do
  let args := args.map Text.ofString
  let cwd ← workingDirectory
  try
    let before ← match Invocation.ofArguments args with
      | .rebuild assemblyPath outputDir _ => [assemblyPath, outputDir].foldlM (readPath cwd) {}
      | _ => pure {}
    let outcome := run cwd args before
    writeChanges before outcome.tree
    report outcome
    return UInt32.ofNat outcome.exitCode
  catch _ =>
    IO.eprintln unforeseen.text.display
    return 1
