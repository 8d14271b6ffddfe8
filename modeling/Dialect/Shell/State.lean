import Dialect.Filter.Octet
import Dialect.Shell.Token

/-! What a running shell knows and has written. -/
namespace Dialect.Shell

open Dialect.Filter (Octets)

inductive Sink where
  /-- A pipe, by the number of pipes around it. The outermost is the output of the shell. -/
  | pipe (level : Nat)
  | errors
  | nowhere
  deriving Repr, DecidableEq

inductive Flow where
  | onward
  | breaks (count : Nat)
  /-- Leaves all but one of so many loops, and starts that one again. -/
  | continues (count : Nat)
  | returns
  | exits
  | killed (signal : Nat)
  deriving Repr, DecidableEq

structure Options where
  exitOnFailure : Bool := false
  unsetIsFault : Bool := false
  trace : Bool := false
  deriving Repr, DecidableEq

structure Function where
  name : Octets
  line : Nat
  body : Command

structure Job where
  command : Command
  args : List Octets
  bindings : List (Octets × Octets)
  functions : List Function
  sinks : List (Nat × Sink)
  line : Nat

structure State where
  args : List Octets
  bindings : List (Octets × Octets) := [
    ("IFS".toList, " \t\n".toList),
    ("PATH".toList, "/usr/local/sbin:/usr/local/bin:/usr/sbin:/usr/bin:/sbin:/bin".toList),
    ("OPTIND".toList, ['1'])]
  functions : List Function := []
  documents : List (Nat × List Part) := []
  documentCount : Nat := 0
  options : Options := {}
  input : Octets
  /-- The texts of the pipes that are being written, the innermost first. -/
  pipes : List Octets := [[]]
  errors : Octets := []
  sinks : List (Nat × Sink) := [(1, .pipe 0), (2, .errors)]
  status : Nat := 0
  outputStatus : Option Nat := none
  flow : Flow := .onward
  line : Nat := 1
  functionLine : Nat := 0
  loops : Nat := 0
  calls : Nat := 0
  /-- The command that runs a script of its own, as messages show it. -/
  caller : Octets := []
  constants : List Octets := []
  /-- Variables of the running function, with the values that they had before. -/
  locals : List (Octets × Option Octets) := []
  /-- What runs when a signal comes, and, under number 0, when the shell ends. -/
  traps : List (Nat × Octets) := []
  awaiting : List Octets := []
  mask : Octets := "0022".toList
  /-- Commands in the background. They run when the shell waits for something. -/
  jobs : List Job := []

def processNumber : Nat := 4321

namespace State

def goesOn (state : State) : Bool := state.flow == .onward

def sink? (state : State) (fd : Nat) : Option Sink := (state.sinks.find? (·.1 == fd)).map (·.2)

def write (state : State) (fd : Nat) (text : Octets) : State :=
  match state.sink? fd with
  | some (.pipe level) =>
    let place := state.pipes.length - 1 - level
    { state with pipes := state.pipes.modify place (· ++ text) }
  | some .errors => { state with errors := state.errors ++ text }
  | some .nowhere | none => state

def setSink (state : State) (fd : Nat) (sink : Option Sink) : State :=
  let others := state.sinks.filter (·.1 != fd)
  { state with sinks := match sink with
    | some sink => (fd, sink) :: others
    | none => others }

def label (state : State) : Octets :=
  state.args.headD [] ++ ": ".toList ++
    (toString (state.line - state.functionLine)).toList ++ ": ".toList

def warn (state : State) (message : Octets) : State :=
  state.write 2 (state.label ++ state.caller ++ message ++ ['\n'])

def refuse (state : State) (message : Octets) (status : Nat := 2) : State :=
  { state.warn message with status := status }

def abort (state : State) (message : Octets) : State :=
  { state.refuse message with flow := .exits }

def lookup? (state : State) (name : Octets) : Option Octets :=
  (state.bindings.find? (·.1 == name)).map (·.2)

def unset (state : State) (name : Octets) : State :=
  { state with bindings := state.bindings.filter (·.1 != name) }

def assign (state : State) (name value : Octets) : State :=
  if state.constants.contains name then state.abort (name ++ ": is read only".toList)
  else { state with bindings := (name, value) :: (state.unset name).bindings }

def optionLetters (state : State) : Octets :=
  (if state.options.exitOnFailure then ['e'] else []) ++
    (if state.options.unsetIsFault then ['u'] else []) ++ if state.options.trace then ['x'] else []

/-- The value of a parameter that is one text, if it has one. -/
def parameter? (state : State) (name : Octets) : Option Octets :=
  match String.ofList name with
  | "?" => some (toString state.status).toList
  | "#" => some (toString (state.args.length - 1)).toList
  | "$" => some (toString processNumber).toList
  | "-" => some state.optionLetters
  | "!" => none
  | _ =>
    match Dialect.Filter.number? name with
    | some n => state.args[n]?
    | none => state.lookup? name

def document (state : State) (number : Nat) : List Part :=
  match state.documents.find? fun (other, _) => other == number with
  | some (_, parts) => parts
  | none => []

def separators (state : State) : Octets := (state.lookup? "IFS".toList).getD " \t\n".toList

/-- Runs a part of a script apart: only what it has read and written, and how it ended, stays. -/
def apart (state : State) (run : State → State) : State :=
  let inner := run { state with loops := 0, traps := [], jobs := [] }
  { state with
    input := inner.input
    pipes := inner.pipes
    errors := inner.errors
    documents := inner.documents
    documentCount := inner.documentCount
    status := inner.status
    flow := match inner.flow with
      | .killed signal => .killed signal
      | _ => .onward }

def captured (state : State) (run : State → State) : Octets × State :=
  let inside := { state.setSink 1 (some (.pipe state.pipes.length)) with pipes := [] :: state.pipes }
  let after := run inside
  (after.pipes.headD [], { after with pipes := after.pipes.tail, sinks := state.sinks })

end State

inductive Chunk where
  | bare (text : Octets)
  | quoted (text : Octets)
  | loose (text : Octets)
  | border
  deriving Repr, DecidableEq

structure Fields where
  complete : List Octets := []
  current : Option Octets := none
  /-- Blanks have ended a field, and another separator would still belong to them. -/
  afterBlanks : Bool := false

namespace Fields

def close (fields : Fields) : Fields :=
  match fields.current with
  | none => fields
  | some word => { fields with complete := word.reverse :: fields.complete, current := none }

def extend (fields : Fields) (text : Octets) : Fields :=
  { fields with current := some (text.reverse ++ fields.current.getD []), afterBlanks := false }

/-- Reads one character that may divide fields. Blanks between fields count once, each other
separator for itself. -/
def step (separators : Octets) (fields : Fields) (c : Char) : Fields :=
  if !separators.contains c then fields.extend [c]
  else if c = ' ' ∨ c = '\t' ∨ c = '\n' then
    if fields.current.isSome then { fields.close with afterBlanks := true } else fields
  else if fields.current.isSome then { fields.close with afterBlanks := false }
  else if fields.afterBlanks then { fields with afterBlanks := false }
  else { fields with complete := [] :: fields.complete }

def add (separators : Octets) (fields : Fields) : Chunk → Fields
  | .bare text | .quoted text => fields.extend text
  | .loose text => text.foldl (step separators) fields
  | .border => { fields.close with afterBlanks := false }

def ofChunks (separators : Octets) (chunks : List Chunk) : List Octets :=
  (chunks.foldl (add separators) {}).close.complete.reverse

end Fields

def chomp (text : Octets) : Octets := (text.reverse.dropWhile (· == '\n')).reverse

end Dialect.Shell
