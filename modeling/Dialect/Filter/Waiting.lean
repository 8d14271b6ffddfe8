import Dialect.Filter.Arguments
import Dialect.Filter.Printing.Number

/-! The program `sleep`, which here takes no time. -/
namespace Dialect.Filter

def isInterval (text : Octets) : Bool :=
  let reading := Printing.readReal 64 16384 text
  reading.found && !reading.value.1 &&
    match reading.rest with
    | [] => true
    | [unit] => unit == 's' || unit == 'm' || unit == 'h' || unit == 'd'
    | _ => false

def sleep (args : List Octets) : Outcome :=
  let hint := "Try 'sleep --help' for more information.\n".toList
  match Arguments.read [] args with
  | .error misuse => misused "sleep" 1 misuse
  | .ok arguments =>
    let bad := arguments.operands.filter fun text => !isInterval text
    if arguments.operands.isEmpty then ⟨1, [], "sleep: missing operand\n".toList ++ hint⟩
    else if bad.isEmpty then {}
    else
      ⟨1, [], bad.flatMap (fun text =>
        "sleep: invalid time interval ".toList ++ quoted text ++ ['\n']) ++ hint⟩

end Dialect.Filter
