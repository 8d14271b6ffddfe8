import Dialect.Text.Utf8

/-! Files as a run of the program sees them. Where paths lead, what stands there and what writing leaves behind belongs
to the system, so it is a parameter; errors come in the words of the system. -/
namespace Dialect.Cli

class FileSystem (State : Type) (File : outParam Type) where
  target : State → String → Except String File
  read : State → File → Except String Bytes
  write : State → File → Bytes → Except String State

namespace FileSystem

variable {State File : Type} [FileSystem State File]

def readPath (state : State) (path : String) : Except String Bytes := do
  read state (← target state path)

def writePath (state : State) (path : String) (bytes : Bytes) : Except String State := do
  write state (← target state path) bytes

def readText (state : State) (path : String) : Except String (List Char) := do
  match Utf8.decode (← readPath state path) with
  | .ok text => return text
  | .error _ => throw "stream did not contain valid UTF-8"

end FileSystem

end Dialect.Cli
