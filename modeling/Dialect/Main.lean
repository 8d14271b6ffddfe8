import Dialect.Cli.Files
import Dialect.Cli.Run
import Dialect.Host.Launch

/-! The program: reads the named files, runs the command line on them and writes back what changed.
Everything is decided before anything is written. -/
namespace Dialect

open Cli

/-- A finding as it is printed: where it stands, what it is, and what to do about it. -/
def renderNotice : Notice → String
  | .line text => text
  | .finding path report =>
    s!"{path}: {report.message}\n  {report.label}\n  help: {report.help}"

/-- Why the system could not read a file. -/
def reasonOf : IO.Error → ReadError
  | .permissionDenied .. => .denied
  | .inappropriateType none .. => .isDirectory
  | .inappropriateType .. => .notDirectory
  | .invalidArgument .. => .nameTooLong
  | _ => .notFound

/-- The name under which the file of a path is kept. A path that leads out of the working directory
keeps its own text. -/
def entryName (path : String) : String :=
  if path.startsWith "/" || (path.splitOn "/").contains ".." then path else pathKey path

/-- The files that a request names, and the reasons why others cannot be read. -/
def loadFiles (request : Request) : IO Files := do
  match request with
  | .run invocation =>
    let mut files : Files := { entries := [] }
    for path in invocation.files do
      try
        let bytes ← IO.FS.readBinFile path
        if (files.entries.lookup (entryName path)).isNone then
          files := { files with entries := files.entries ++ [(entryName path, bytes.toList)] }
      catch error => files := { files with faults := files.faults ++ [(path, reasonOf error)] }
    return files
  | _ => return { entries := [] }

def storeFiles (before after : Files) : IO Unit := do
  for (path, bytes) in after.entries do
    if before.entries.lookup path ≠ some bytes then
      IO.FS.writeBinFile path ⟨bytes.toArray⟩

end Dialect

open Dialect Dialect.Cli in
def main (arguments : List String) : IO UInt32 := do
  let request := readArgs arguments
  let files ← loadFiles request
  let (console, verdict) := run launch files request
  storeFiles files console.files
  IO.print (String.ofList console.stdout)
  for notice in console.notices do
    IO.eprintln (renderNotice notice)
  return verdict.code.toUInt32
