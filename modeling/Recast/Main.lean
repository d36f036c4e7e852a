import Recast.Cli.Run
/-!
The workflow tool as a program: its file operations are the operating system's, its output
streams the process's.
-/

namespace Recast

/-- The operating system's error, as a file operation reports it. -/
def osErrorOf (error : IO.Error) : OsError :=
  match error with
  | .noFileOrDirectory .. => .notFound
  | .alreadyExists .. => .alreadyExists
  | .inappropriateType _ code _ =>
    if code == 21 then .isDirectory else if code == 20 then .notDirectory
    else .other (toString error) code.toNat
  | _ => .other (toString error) 0

/-- Runs a file operation, keeping its error. -/
def attempt {α : Type} (action : IO α) : IO (Except OsError α) := do
  try
    let value ← action
    return .ok value
  catch error =>
    return .error (osErrorOf error)

/-- The operating system's files. -/
instance : FileSystem IO where
  readBytes path := attempt (IO.FS.readBinFile path)
  writeBytes path bytes := attempt (IO.FS.writeBinFile path bytes)
  createDirAll path := if path.isEmpty then pure (.ok ()) else attempt (IO.FS.createDirAll path)

end Recast

/-- Runs the workflow tool on the process's arguments. -/
def main (arguments : List String) : IO UInt32 := do
  let outcome ← Recast.Cli.main (m := IO) arguments
  IO.print outcome.stdout
  IO.eprint outcome.stderr
  return outcome.status.toUInt32
