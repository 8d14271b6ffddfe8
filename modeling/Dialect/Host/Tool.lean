import Dialect.Host.Command
import Dialect.Text.Blank
import Dialect.Text.Utf8

/-! Runs of the host tools and what can go wrong with them. How a program is started is a parameter:
a `Launcher` is a function from a command and its input to what the program leaves behind. -/
namespace Dialect

inductive Tool where
  | formatter | parser
  deriving Repr, DecidableEq

def Tool.name : Tool → String
  | .formatter => "formatter"
  | .parser => "parser"

/-- How a program ends: by itself, or by a signal, which has a number and may have a name. -/
inductive Ending where
  | exited (code : Nat)
  | killed (signal : Nat) (name : Option String)
  deriving Repr, DecidableEq

def Ending.status : Ending → String
  | .exited code => s!"exit status: {code}"
  | .killed signal none => s!"signal: {signal}"
  | .killed signal (some name) => s!"signal: {signal} (SIG{name})"

structure Exit where
  ending : Ending
  stdout : Bytes
  stderr : Bytes
  deriving Repr, DecidableEq

/-- Why a run does not come to an end of its own. -/
inductive LaunchFault where
  | spawn (reason : String)
  | io (reason : String)
  deriving Repr, DecidableEq

abbrev Launcher := Command → Bytes → Except LaunchFault Exit

inductive Failure where
  | spawn (tool : Tool) (command : Command) (reason : String)
  | io (tool : Tool) (reason : String)
  | failed (tool : Tool) (status : String) (stderr : List Char)
  | emptyOutput (tool : Tool)
  | invalidOutput (tool : Tool) (fault : Utf8.Fault)
  | invalidCommand (text : List Char)
  deriving Repr, DecidableEq

namespace Failure

def tool? : Failure → Option Tool
  | .spawn tool _ _ | .io tool _ | .failed tool _ _ | .emptyOutput tool | .invalidOutput tool _ => some tool
  | .invalidCommand _ => none

def message : Failure → String
  | .spawn tool command reason =>
    "failed to run " ++ tool.name ++ " `" ++ command.display ++ "`: " ++ reason
  | .io tool reason => s!"I/O error while running {tool.name}: {reason}"
  | .failed tool status stderr => s!"{tool.name} exited with {status}: {String.ofList stderr}"
  | .emptyOutput tool => s!"{tool.name} produced no output"
  | .invalidOutput tool fault => s!"{tool.name} produced invalid UTF-8: {fault.message}"
  | .invalidCommand text => s!"Invalid tool command: {String.ofList text}"

end Failure

structure ToolOutput where
  success : Bool
  status : String
  stdout : List Char
  stderr : List Char
  deriving Repr, DecidableEq

def ToolOutput.result (output : ToolOutput) (tool : Tool) : Except Failure (List Char) :=
  if !output.success then .error (.failed tool output.status (trim output.stderr))
  else if isBlankText output.stdout then .error (.emptyOutput tool)
  else .ok output.stdout

/-- Runs a command on a text. Output that is no text is an error even if the tool failed; in its
messages such bytes are replaced. -/
def Tool.run (launch : Launcher) (tool : Tool) (command : Command) (input : List Char) :
    Except Failure ToolOutput :=
  match launch command (Utf8.encode input) with
  | .error (.spawn reason) => .error (.spawn tool command reason)
  | .error (.io reason) => .error (.io tool reason)
  | .ok exit =>
    match Utf8.decode exit.stdout with
    | .error fault => .error (.invalidOutput tool fault)
    | .ok stdout =>
      .ok ⟨exit.ending == .exited 0, exit.ending.status, stdout, Utf8.decodeLossy exit.stderr⟩

end Dialect
