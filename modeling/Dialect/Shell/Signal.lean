import Dialect.Filter.Octet

/-! The signals that can end a process. -/
namespace Dialect.Shell

open Dialect.Filter (Octets)

/-- Signals in the order of their numbers, the first of which is 1. -/
def signalNames : List String := [
  "HUP", "INT", "QUIT", "ILL", "TRAP", "ABRT", "BUS", "FPE", "KILL", "USR1", "SEGV", "USR2", "PIPE",
  "ALRM", "TERM", "STKFLT", "CHLD", "CONT", "STOP", "TSTP", "TTIN", "TTOU", "URG", "XCPU", "XFSZ",
  "VTALRM", "PROF", "WINCH", "IO", "PWR", "SYS"]

def signalName? (number : Nat) : Option String :=
  if number = 0 then none else signalNames[number - 1]?

/-- The signal that a number or a name means; 0 and `EXIT` mean none. -/
def signal? (text : Octets) : Option Nat :=
  match Dialect.Filter.number? text with
  | some number => if number = 0 ∨ (signalName? number).isSome then some number else none
  | none =>
    if text = "EXIT".toList then some 0
    else (signalNames.findIdx? (·.toList == text)).map (· + 1)

/-- Signals that do nothing to a process that does not ask for them. -/
def isHarmless (signal : Nat) : Bool :=
  match signalName? signal with
  | some name => ["CHLD", "CONT", "URG", "WINCH"].contains name
  | none => true

end Dialect.Shell
