import DeclScope.CommandLine.Basic
import DeclScope.Tree.Listing

/-!
# The command as a program

Reads what the command needs to know of the world, runs it, and writes what it leaves.  The syntax
tree of the source comes as a listing, in a file that the variable `CLANALYZE_TREE` names.
-/

namespace DeclScope.CommandLine

/-- Why something cannot be read. -/
def reasonOf : IO.Error → String
  | .inappropriateType _ code details => s!"{details} (os error {code})"
  | error => toString error

/-- What there is at a path. -/
def statusOf (path : String) : IO PathStatus := do
  try
    return .file (← IO.FS.readBinFile path).toList
  catch error =>
    match error with
    | .noFileOrDirectory .. => return .missing
    | error => return .unreadable (reasonOf error)

/-- All bytes of a stream. -/
partial def readAll (stream : IO.FS.Stream) (read : ByteArray) : IO ByteArray := do
  let block ← stream.read 65536
  if block.isEmpty then return read else readAll stream (read ++ block)

/-- Standard input, read to its end or to a failure. -/
def standardInput : IO Stream := do
  try
    return { bytes := (← readAll (← IO.getStdin) .empty).toList }
  catch error =>
    return { bytes := [], failure? := some (reasonOf error) }

/-- What lies at `.env` in the directories above the working directory, the nearest first. -/
def environmentFilesAbove : IO (List PathStatus) := do
  let steps := ((← IO.currentDir).toString.splitOn "/").filter (· ≠ "")
  steps.zipIdx.mapM fun (_, depth) =>
    statusOf (String.join (List.replicate (depth + 1) "../") ++ ".env")

/-- The variables with the given names that are set. -/
def variablesOf (names : List String) : IO DotEnv.Variables :=
  names.filterMapM fun name => do return (← IO.getEnv name).map (name, ·)

/-- The tree of a source that the front end could not read at all. -/
def noTree : Tree := .node ⟨.error, none, 0, 0, true, false, true⟩ []

/-- The tree that is handed over in a file. -/
def handedTree : IO Tree := do
  match (← IO.getEnv "CLANALYZE_TREE") with
  | some path =>
    match (← statusOf path) with
    | .file bytes => return (Tree.ofListing? (String.ofList (Utf8.decode bytes))).getD noTree
    | _ => return noTree
  | none => return noTree

/-- What the command finds around it, given the options. -/
def worldOf (arguments : List String) (options : Options) : IO World := do
  let tree ← handedTree
  let dotEnv ← statusOf ".env"
  let above ← environmentFilesAbove
  let file ← match options.file? with
    | some path => statusOf path
    | none => pure .missing
  let mentioned := ((DotEnv.find? (dotEnv :: above)).map DotEnv.mentioned).getD []
  return {
    arguments
    environment := { assigned := ← variablesOf (Config.variableNames ++ mentioned), above }
    files := fun path => if path = ".env" then dotEnv else if some path = options.file? then file
      else .missing
    stdin := ← if options.stdin then standardInput else pure { bytes := [] }
    frontEnd := fun _ _ => tree }

/-- Write what the command leaves. -/
def deliver (outcome : Outcome) : IO UInt32 := do
  (← IO.getStdout).putStr outcome.stdout
  (← IO.getStderr).putStr (outcome.stderr?.getD helpText)
  return outcome.code.toUInt32

end DeclScope.CommandLine

open DeclScope.CommandLine in
/-- Run the command. -/
def main (arguments : List String) : IO UInt32 := do
  let options := match Request.ofArguments arguments with
    | .run options => options
    | _ => {}
  deliver (run (← worldOf arguments options))
