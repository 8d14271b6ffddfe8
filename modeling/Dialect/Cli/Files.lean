import Dialect.Cli.FileSystem

/-! Files that are kept in memory, by their paths from a directory, and the few places outside it that every system
has. The program reads the files of a request into them before it runs, and tests are run on them. -/
namespace Dialect.Cli

inductive ReadError where
  | notFound | denied | notDirectory | isDirectory | nameTooLong
  deriving Repr, DecidableEq

def ReadError.message : ReadError → String
  | .notFound => "No such file or directory (os error 2)"
  | .denied => "Permission denied (os error 13)"
  | .notDirectory => "Not a directory (os error 20)"
  | .isDirectory => "Is a directory (os error 21)"
  | .nameTooLong => "File name too long (os error 36)"

structure Files where
  entries : List (String × Bytes)
  /-- Paths that cannot be read for reasons that the entries do not show. -/
  faults : List (String × ReadError) := []
  deriving Repr, DecidableEq

def stepMax : Nat := 255

def pathMax : Nat := 4095

def pathKey (path : String) : String :=
  String.intercalate "/" ((path.splitOn "/").filter fun step => step ≠ "" && step ≠ ".")

inductive Place where
  /-- In the directory of the files, by the name of the place there. -/
  | inside (name : String)
  | above (levels : Nat)
  | root
  | system (name : String)
  deriving Repr, DecidableEq

inductive Target where
  | directory (place : Place)
  | file (name : String)
  | void
  deriving Repr, DecidableEq

def systemDirectories : List String :=
  ["bin", "boot", "dev", "etc", "home", "lib", "media", "mnt", "opt", "proc", "root", "run", "sbin",
    "srv", "sys", "tmp", "usr", "var"]

/-- The devices that hold nothing; the program gets no input of its own. -/
def voidDevices : List String := ["null", "stdin"]

namespace Files

def lookup (files : Files) (name : String) : Except ReadError Target :=
  if (files.entries.lookup name).isSome then .ok (.file name)
  else if files.entries.any fun entry => entry.1.startsWith (name ++ "/") then
    .ok (.directory (.inside name))
  else .error .notFound

def parentOf (name : String) : Place :=
  if name.isEmpty then .above 1
  else .inside (String.intercalate "/" (name.splitOn "/").dropLast)

def enter (files : Files) (place : Place) (step : String) : Except ReadError Target :=
  if step = "" ∨ step = "." then .ok (.directory place)
  else if step = ".." then
    .ok (.directory (match place with
      | .inside name => parentOf name
      | .above levels => .above (levels + 1)
      | .root | .system _ => .root))
  else if stepMax < step.utf8ByteSize then .error .nameTooLong
  else match place with
    | .inside name => files.lookup (if name.isEmpty then step else name ++ "/" ++ step)
    | .root =>
      if systemDirectories.contains step then .ok (.directory (.system step)) else .error .notFound
    | .system "dev" => if voidDevices.contains step then .ok .void else .error .notFound
    | .system _ | .above _ => .error .notFound

/-- Goes the steps of a path. Only a directory has a way on. -/
def follow (files : Files) : Target → List String → Except ReadError Target
  | target, [] => .ok target
  | .directory place, step :: rest =>
    match files.enter place step with
    | .ok target => files.follow target rest
    | .error reason => .error reason
  | _, _ :: _ => .error .notDirectory

/-- Where a path leads. The name of an entry leads there at once. -/
def target (files : Files) (path : String) : Except ReadError Target :=
  if (files.entries.lookup path).isSome then .ok (.file path)
  else match files.faults.lookup path with
    | some reason => .error reason
    | none =>
      if pathMax < path.utf8ByteSize then .error .nameTooLong
      else
        files.follow (.directory (if path.startsWith "/" then .root else .inside ""))
          (path.splitOn "/")

def read (files : Files) : Target → Except ReadError Bytes
  | .directory _ => .error .isDirectory
  | .void => .ok []
  | .file name => .ok ((files.entries.lookup name).getD [])

def write (files : Files) (target : Target) (bytes : Bytes) : Except ReadError Files :=
  match target with
  | .directory _ => .error .isDirectory
  | .void => .ok files
  | .file name =>
    .ok { files with
      entries := files.entries.map fun entry => if entry.1 = name then (entry.1, bytes) else entry }

instance : FileSystem Files Target where
  target files path := (files.target path).mapError ReadError.message
  read files target := (files.read target).mapError ReadError.message
  write files target bytes := (files.write target bytes).mapError ReadError.message

end Files

end Dialect.Cli
