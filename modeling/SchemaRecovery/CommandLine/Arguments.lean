/-
  SchemaRecovery.CommandLine.Arguments

  The arguments of the command: two paths and a few flags. Flags may stand
  anywhere, short ones may be joined, and `--` ends them. Asking for help wins
  over paths that are missing, but not over a flag that does not exist.
-/
import SchemaRecovery.Text.Basic

namespace SchemaRecovery.CommandLine

/-- What the arguments ask for. -/
inductive Invocation where
  | help
  | rebuild (assemblyPath outputDir : Text) (verbose : Bool)
  | misuse
  deriving DecidableEq

/-- The flags and paths read so far. -/
structure Scan where
  verbose : Bool := false
  help : Bool := false
  paths : List Text := []

/-- Reads a short flag. -/
def Scan.short (s : Scan) : CodePoint → Option Scan
  | .char 'v' => some { s with verbose := true }
  | .char 'h' => some { s with help := true }
  | _ => none

/-- Reads a long flag. -/
def Scan.long (s : Scan) (arg : Text) : Option Scan :=
  if arg = "--verbose" then some { s with verbose := true }
  else if arg = "--help" then some { s with help := true }
  else none

/-- Reads one argument other than `--`. -/
def Scan.read (s : Scan) (arg : Text) : Option Scan :=
  match arg with
  | .char '-' :: .char '-' :: _ => s.long arg
  | .char '-' :: c :: rest => (c :: rest).foldlM Scan.short s
  | _ => some { s with paths := s.paths ++ [arg] }

/-- Reads all arguments; fails on a flag that does not exist. -/
def Scan.readAll (s : Scan) : List Text → Option Scan
  | [] => some s
  | arg :: rest =>
    if arg = "--" then some { s with paths := s.paths ++ rest }
    else do
      let s ← s.read arg
      s.readAll rest

/-- Another spelling of the flag for help. -/
def slashHelp : Text := "/?"

/-- What a list of arguments asks for. -/
def Invocation.ofArguments (args : List Text) : Invocation :=
  match Scan.readAll {} (args.map fun arg => if arg = slashHelp then "--help" else arg) with
  | none => .misuse
  | some s =>
    if s.help then .help
    else
      match s.paths with
      | [assemblyPath, outputDir] => .rebuild assemblyPath outputDir s.verbose
      | _ => .misuse

end SchemaRecovery.CommandLine
