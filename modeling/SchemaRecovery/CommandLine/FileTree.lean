/-
  SchemaRecovery.CommandLine.FileTree

  Files and directories. A place is given by the names that lead there from
  the root; a path is read from a working directory, unless it begins with a
  slash. Names and paths have a greatest length in bytes.
-/
import SchemaRecovery.Container.Registry
import SchemaRecovery.Text.Affix

namespace SchemaRecovery.CommandLine

/-- The names from the root to a place. -/
abbrev Place := List Text

namespace Place

/-- The path of a place. -/
def toPath (p : Place) : Text := "/" ++ Text.join "/" p

/-- What a path begins with if it is read from the root. -/
def rootOf (path : Text) : Text :=
  match path with
  | .char '/' :: .char '/' :: .char '/' :: _ => "/"
  | .char '/' :: .char '/' :: _ => "//"
  | .char '/' :: _ => "/"
  | _ => []

/-- Where a path starts, read from the directory `cwd`. -/
def startOf (cwd : Place) (path : Text) : Place := if (rootOf path).isEmpty then cwd else []

/-- The names of a path, without those that lead nowhere. -/
def namesOf (path : Text) : List Text :=
  (Text.pieces '/' path).filter fun name => name ≠ "" && name ≠ "."

/-- A path without the names that lead nowhere. -/
def tidy (path : Text) : Text := rootOf path ++ Text.join "/" (namesOf path)

/-- The tidy path, read from the directory `dir`. -/
def under (dir : Place) (path : Text) : Text :=
  if (rootOf path).isEmpty then toPath (dir ++ namesOf path) else tidy path

/-- The place that one name leads to: `..` takes the last name away, and at the
root does nothing. -/
def step (cur : Place) (name : Text) : Place :=
  if name = "" || name = "." then cur
  else if name = ".." then cur.dropLast
  else cur ++ [name]

/-- The place that a path means, read from the directory `cwd`, whatever is
there. -/
def ofPath (cwd : Place) (path : Text) : Place :=
  (Text.pieces '/' path).foldl step (startOf cwd path)

/-- The places on the way to a place, and itself, outer before inner. -/
def way (p : Place) : List Place := (List.range p.length).map fun i => p.take (i + 1)

/-- The code of a half that stands for one byte which is no text. -/
def isByteHalf (n : Nat) : Bool := 0xdc80 ≤ n && n ≤ 0xdcff

/-- The bytes that a code point of a path takes. -/
def pointBytes : CodePoint → Nat
  | .char c => c.utf8Size
  | .half n => if isByteHalf (CodePoint.half n).toNat then 1 else 3

/-- The bytes that a path takes. -/
def bytes (path : Text) : Nat := path.foldl (fun n c => n + pointBytes c) 0

/-- The longest name, in bytes, that a file or directory can have. -/
def maxNameBytes : Nat := 255

/-- The longest path, in bytes, that can be followed. -/
def maxPathBytes : Nat := 4095

/-- A name that is not too long. -/
def fits (name : Text) : Bool := bytes name ≤ maxNameBytes

/-- A text that can be asked for as a path: it has no null character, and each
half in it stands for a byte. -/
def isAskable (path : Text) : Bool :=
  path.all fun
    | .char c => c ≠ '\x00'
    | .half n => isByteHalf (CodePoint.half n).toNat

end Place

/-- Why a path leads nowhere. -/
inductive Obstacle where
  /-- A name is not there. -/
  | missing
  /-- A name in the middle is no directory. -/
  | notDirectory
  /-- A name or the whole path is too long. -/
  | tooLong
  deriving DecidableEq

/-- Directories and files. The root is always there. -/
structure FileTree where
  dirs : List Place := []
  files : Registry Place ByteArray := ∅

namespace FileTree

/-- The place is a directory. -/
def isDir (t : FileTree) (p : Place) : Bool := p.isEmpty || t.dirs.contains p

/-- The place is a file. -/
def isFile (t : FileTree) (p : Place) : Bool := t.files.contains p

/-- Something is at the place. -/
def isThere (t : FileTree) (p : Place) : Bool := t.isDir p || t.isFile p

/-- Follows names from the place `cur`, each through a directory that is there
to something that is there. -/
def walk (t : FileTree) (cur : Place) : List Text → Except Obstacle Place
  | [] => .ok cur
  | name :: rest =>
    if !t.isDir cur then .error .notDirectory
    else if !Place.fits name then .error .tooLong
    else if !t.isThere (cur.step name) then .error .missing
    else t.walk (cur.step name) rest

/-- The place that a path leads to from the directory `cwd`. -/
def locate (t : FileTree) (cwd : Place) (path : Text) : Except Obstacle Place :=
  if path.isEmpty then .error .missing
  else if Place.maxPathBytes < Place.bytes path then .error .tooLong
  else t.walk (Place.startOf cwd path) (Text.pieces '/' path)

/-- Makes the directories that the names lead to from `cur`, outer before
inner, as far as that goes; also tells whether all are there now. A file or a
name that is too long is in the way. -/
def makeWay (t : FileTree) (cur : Place) : List Text → FileTree × Bool
  | [] => (t, true)
  | name :: rest =>
    let p := cur ++ [name]
    if t.isDir p then t.makeWay p rest
    else if t.isFile p || !Place.fits name then (t, false)
    else FileTree.makeWay { t with dirs := t.dirs ++ [p] } p rest

/-- Makes a directory and those around it. -/
def makeDirs (t : FileTree) (p : Place) : FileTree × Bool := t.makeWay [] p

/-- The place where a file can be written that a path names from the directory
`dir`: the directory it goes to is there and has no directory of that name. -/
def target? (t : FileTree) (dir : Place) (path : Text) : Option Place := do
  let last ← (Place.namesOf path).getLast?
  let around ← (t.walk (Place.startOf dir path) (Place.namesOf path).dropLast).toOption
  let p := around ++ [last]
  if Place.isAskable path && Place.bytes (Place.under dir path) ≤ Place.maxPathBytes &&
      t.isDir around && Place.fits last && !t.isDir p then some p
  else none

/-- Writes a file that a path names from the directory `dir`; also tells
whether all of it was written. A text without an encoding leaves the file
empty. -/
def write (t : FileTree) (dir : Place) (path content : Text) : FileTree × Bool :=
  match t.target? dir path with
  | none => (t, false)
  | some p =>
    match content.utf8? with
    | none => ({ t with files := t.files.insert p ByteArray.empty }, false)
    | some bytes => ({ t with files := t.files.insert p bytes }, true)

/-- The tree with a directory and those around it. -/
def withDir (t : FileTree) (p : Place) : FileTree := (t.makeDirs p).1

/-- The tree with a file and the directories around it. -/
def withFile (t : FileTree) (p : Place) (content : ByteArray) : FileTree :=
  let t := t.withDir p.dropLast
  { t with files := t.files.insert p content }

end FileTree

end SchemaRecovery.CommandLine
