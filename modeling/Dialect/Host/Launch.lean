import Dialect.Host.Tool
import Dialect.Shell.Run

/-! The programs that come with the project. A command that names none of them cannot be started. -/
namespace Dialect

open Dialect.Filter (Outcome ofString ofBytes toBytes program?)

def notFound : String := "No such file or directory (os error 2)"

/-- The reason why a command with a NUL in it does not start. -/
def nulFound : String := "nul byte found in provided data"

def launch : Launcher := fun command input =>
  let path := ofString command.program
  let name := Shell.programName path
  let args := command.args.map ofString
  let input := ofBytes input
  let ended (outcome : Outcome) (ending : Ending) : Except LaunchFault Exit :=
    .ok ⟨ending, toBytes outcome.out, toBytes outcome.err⟩
  if (command.program :: command.args).any (·.toList.contains '\x00') then .error (.spawn nulFound)
  else if Shell.isShell name || name == "env".toList then
    let result := if Shell.isShell name then Shell.run path args input else Shell.runEnv args input
    ended result.outcome (match result.signal with
      | some signal => .killed signal (Shell.signalName? signal)
      | none => .exited result.outcome.code)
  else match program? (String.ofList name) with
    | some program =>
      let outcome := program.run args input
      ended outcome (.exited outcome.code)
    | none => .error (.spawn notFound)

end Dialect
