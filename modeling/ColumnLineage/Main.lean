import ColumnLineage.Cli.Commands
/-
ColumnLineage/Main.lean

The `lflow` program: the command line run against the host's files.

The host answers the file operations through file handles: a path names a
file when it opens and reads, and a directory when it opens and refuses to
be read as a file. Handles list no directory entries, so here a directory
holds no files; everything else the command line does is the same as over
files held in memory.
-/

namespace ColumnLineage.Cli

/-- A host failure in the host's words: the description and the error
number. -/
def hostMessage (e : IO.Error) : String :=
  let withCode := fun (details : String) (code : UInt32) =>
    details ++ " (os error " ++ toString code ++ ")"
  match e with
  | .noFileOrDirectory _ code _ => withCode "No such file or directory" code
  | .inappropriateType _ code details => withCode details code
  | .permissionDenied _ code details => withCode details code
  | .invalidArgument _ code details => withCode details code
  | .noSuchThing _ code details => withCode details code
  | .otherError code details => withCode details code
  | e => toString e

/-- What a host path names: it opens, and reading it either works (a file)
or fails as a directory. -/
def hostEntry (path : String) : IO (Option EntryKind) := do
  match ← (IO.FS.Handle.mk path .read).toBaseIO with
  | .error _ => pure none
  | .ok h =>
    match ← (h.read 1).toBaseIO with
    | .ok _ => pure (some .file)
    | .error (.inappropriateType _ _ _) => pure (some .directory)
    | .error _ => pure (some .file)

instance : MonadFiles IO where
  entry := hostEntry
  readBytes path := do
    match ← (IO.FS.readBinFile path).toBaseIO with
    | .ok bytes => pure (.ok bytes)
    | .error e => pure (.error (hostMessage e))
  children _ := pure []
  workingDir := do return toString (← IO.currentDir)

end ColumnLineage.Cli

/-- Runs `lflow` with the arguments given, printing what it prints and
exiting with its code. -/
def main (args : List String) : IO UInt32 := do
  let rustLog ← IO.getEnv "RUST_LOG"
  let out ← (ColumnLineage.Cli.runCommandLine args rustLog : IO ColumnLineage.Cli.Outcome)
  IO.print out.stdout
  IO.eprint out.stderr
  return out.code.toUInt32
