import SchemaDraft.CommandLine.Run

/-!
The command-line program. It reads the files its arguments name; it has no database to connect to.
-/

open SchemaDraft CommandLine

/-- The content of an open file. What can be opened and not be read is a directory. -/
def readHandle (handle : IO.FS.Handle) : IO FileContent := do
  try
    let content ← handle.readBinToEnd
    return .bytes content
  catch _ => return .unreadable .directory

/-- Why a file cannot be opened. -/
def openError : IO.Error → ReadError
  | .inappropriateType _ _ _ => .notDirectory
  | .invalidArgument _ 36 _ => .nameTooLong
  | _ => .missing

/-- What is found under a path. -/
def readPath (path : String) : IO FileContent := do
  try
    let handle ← IO.FS.Handle.mk ⟨path⟩ .read
    readHandle handle
  catch error => return .unreadable (openError error)

/-- The files that the arguments name. -/
def namedPaths (arguments : List String) : List String :=
  match invocation {} arguments with
  | .ok invocation => invocation.request.paths
  | .error _ => []

def main (arguments : List String) : IO UInt32 := do
  let files ← (namedPaths arguments).mapM fun path => return (path, ← readPath path)
  let surroundings : Surroundings :=
    { file := fun path => (files.lookup path).getD (.unreadable .missing)
      defaultUrl := ← IO.getEnv "DATABASE_URL"
      database := fun _ => none }
  let outcome := run surroundings arguments
  IO.print outcome.output
  match outcome.failure with
  | some failure => IO.eprint failure.report
  | none => pure ()
  return outcome.status.toUInt32
