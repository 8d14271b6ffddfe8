import Dialect.Shell.Builtin
import Dialect.Shell.Expansion
import Dialect.Shell.Reader

/-! Running shell scripts on an input. Commands of a script share the input: what one has read, the
next does not see. Pauses take no time. -/
namespace Dialect.Shell

open Dialect.Filter (Octets Outcome program?)

/-- How a shell ended: what it left behind, and the signal that ended it, if one did. -/
structure Ending where
  outcome : Outcome
  signal : Option Nat := none
  deriving Repr, DecidableEq

namespace State

/-- A failure ends the shell if that has been asked for and nothing tests the failure. -/
def checkFailure (state : State) (tested : Bool) : State :=
  if state.goesOn && !tested && state.options.exitOnFailure && state.status ≠ 0 then
    { state with flow := .exits }
  else state

def descriptor? (path : Octets) : Option Nat :=
  match String.ofList path with
  | "/dev/stdin" => some 0
  | "/dev/stdout" => some 1
  | "/dev/stderr" => some 2
  | _ =>
    if "/dev/fd/".toList.isPrefixOf path then Dialect.Filter.number? (path.drop 8) else none

def refusal? (path : Octets) : Option String :=
  let folder := (path.reverse.dropWhile (· ≠ '/')).tail.reverse
  if Dialect.Filter.Condition.isFolder path then some "Is a directory"
  else if path.isEmpty then some "Directory nonexistent"
  else if path = "/dev/tty".toList then some "No such device or address"
  else if !path.contains '/' || folder.isEmpty || Dialect.Filter.Condition.isFolder folder then none
  else some "Directory nonexistent"

/-- Makes a descriptor write into a file, or not if the file cannot be written. -/
def openOutput (state : State) (fd : Nat) (path : Octets) : State × Bool :=
  match descriptor? path with
  | some other => (state.setSink fd (state.sink? other), true)
  | none =>
    match refusal? path with
    | some reason =>
      if path = "/dev/null".toList then (state.setSink fd (some .nowhere), true)
      else
        (state.refuse ("cannot create ".toList ++ path ++ ": ".toList ++ reason.toList), false)
    | none => (state.setSink fd (some .nowhere), true)

def openInput (state : State) (path : Octets) : State × Bool :=
  if path = "/dev/stdin".toList then (state, true)
  else if path = "/dev/null".toList then ({ state with input := [] }, true)
  else (state.refuse ("cannot open ".toList ++ path ++ ": No such file".toList), false)

def duplicate (state : State) (fd : Nat) (target : Octets) : State × Bool :=
  match target with
  | ['-'] => if fd = 0 then ({ state with input := [] }, true) else (state.setSink fd none, true)
  | ['0'] => (state, true)
  | _ =>
    match Dialect.Filter.number? target with
    | none => (state.abort "Syntax error: Bad fd number".toList, false)
    | some other =>
      match state.sink? other with
      | some sink =>
        if fd = 0 then ({ state with input := [] }, true) else (state.setSink fd (some sink), true)
      | none => (state.refuse (target ++ ": Bad file descriptor".toList), false)

end State

def Redirect.isInput : Redirect → Bool
  | .file fd access _ => fd == 0 && access == .read
  | .duplicate fd target => fd == 0 && (bareText? target) ≠ some ['0']
  | .document fd _ => fd == 0

/-- Follows redirections from left to right, up to the first that fails. -/
def redirectAll (run : Runner) (fuel : Nat) : List Redirect → State → State × Bool
  | [], state => (state, true)
  | redirect :: rest, state =>
    let (state, done) := match redirect with
      | .file fd access target =>
        let (path, state) := expandJoined run fuel target state
        if !state.goesOn then (state, false)
        else match access with
          | .read => if fd = 0 then state.openInput path else (state, true)
          | .write => state.openOutput fd path
      | .duplicate fd target =>
        let (number, state) := expandJoined run fuel target state
        if !state.goesOn then (state, false) else state.duplicate fd number
      | .document _ number =>
        let (text, state) := expandJoined run fuel (state.document number) state
        if !state.goesOn then (state, false) else ({ state with input := text }, true)
    if done then redirectAll run fuel rest state else (state, false)

def redirecting (run : Runner) (fuel : Nat) (redirects : List Redirect) (state : State)
    (body : State → State) (refused : State → State) : State :=
  let (inside, done) := redirectAll run fuel redirects state
  let after := if done then body inside else refused inside
  { after with
    sinks := state.sinks
    input := if redirects.any (·.isInput) then state.input else after.input }

def assignAll (run : Runner) (fuel : Nat) : List (Octets × List Part) → State → State
  | [], state => state
  | (name, word) :: rest, state =>
    let (value, state) := expandJoined run fuel word state
    if state.goesOn then assignAll run fuel rest (state.assign name value) else state

/-- Shows a command before it runs, if that has been asked for. -/
def State.trace (state : State) (assigned : List (Octets × List Part)) (fields : List Octets) : State :=
  let settings := assigned.map fun (name, _) => name ++ '=' :: (state.lookup? name).getD []
  if state.options.trace then state.write 2 ("+ ".toList ++ [' '].intercalate (settings ++ fields) ++ ['\n'])
  else state

def programName (path : Octets) : Octets :=
  if "/usr/bin/".toList.isPrefixOf path then path.drop 9
  else if "/bin/".toList.isPrefixOf path then path.drop 5
  else path

def isShell (name : Octets) : Bool := name == "sh".toList || name == "dash".toList

/-- The words at the start that are options of the shell, with the names that belong to them. -/
def optionWords : List Octets → List Octets
  | [] => []
  | word :: rest =>
    let isOption := (word.head? = some '-' || word.head? = some '+') && 1 < word.length && word ≠ ['-', '-']
    if !isOption then []
    else match word, rest with
      | [_, 'o'], name :: rest => word :: name :: optionWords rest
      | _, rest => word :: optionWords rest

def matchingCase (run : Runner) (fuel : Nat) (text : Octets) :
    List (List (List Part) × Command) → State → Option Command × State
  | [], state => (none, state)
  | (patterns, body) :: rest, state =>
    let (found, state) := firstMatch patterns state
    if found then (some body, state) else matchingCase run fuel text rest state
where
  firstMatch : List (List Part) → State → Bool × State
    | [], state => (false, state)
    | pattern :: rest, state =>
      let (chunks, state) := expand run fuel pattern state
      if globMatches (patternSigns chunks) text then (true, state) else firstMatch rest state

/-- How a loop goes on after its body: whether it does, and the state. -/
def afterBody (state : State) : Bool × State :=
  match state.flow with
  | .onward => (true, state)
  | .breaks count => (false, { state with flow := if count ≤ 1 then .onward else .breaks (count - 1) })
  | .continues count =>
    if count ≤ 1 then (true, { state with flow := .onward })
    else (false, { state with flow := .continues (count - 1) })
  | .returns | .exits | .killed _ => (false, state)

mutual

/-- Runs a command. A failure that is `tested` never ends the shell. -/
def runCommand : Nat → Bool → Command → State → State
  | 0, _, _, state => { state with flow := .exits }
  | fuel + 1, tested, command, state =>
    if !state.goesOn then state
    else match command with
      | .empty => { state with status := 0 }
      | .simple line assignments words redirects =>
        runAwaiting fuel
          ((runSimple fuel tested line assignments words redirects state).checkFailure tested)
      | .pipeline negated stages =>
        let after := match stages with
          | [stage] => runCommand fuel (tested || negated) stage state
          | stages => runStages fuel stages state
        if !after.goesOn then after
        else if negated then { after with status := if after.status = 0 then 1 else 0 }
        else after.checkFailure tested
      | .sequence first second => runCommand fuel tested second (runCommand fuel tested first state)
      | .dependent onFailure first second =>
        let after := runCommand fuel true first state
        if after.goesOn && (after.status != 0) == onFailure then runCommand fuel tested second after
        else after
      | .background command =>
        let job : Job :=
          ⟨command, state.args, state.bindings, state.functions, state.sinks, state.line⟩
        { state with jobs := state.jobs ++ [job], status := 0 }
      | .apart line command =>
        let state := { state with line := line }
        (state.apart fun inside => runJobs fuel (runCommand fuel tested command inside)).checkFailure
          tested
      | .redirected line command redirects =>
        redirecting (runWhole fuel) fuel redirects { state with line := line }
          (runCommand fuel tested command) (·.checkFailure tested)
      | .branch condition yes no =>
        let after := runCommand fuel true condition state
        if !after.goesOn then after
        else if after.status = 0 then runCommand fuel tested yes after
        else runCommand fuel tested no after
      | .loop awaits condition body =>
        let after := runLoop fuel tested awaits condition body
          { state with loops := state.loops + 1, status := 0 } 0
        { after with loops := state.loops }
      | .each line name words body =>
        let state := { state with line := line }
        let (fields, state) := match words with
          | some words => expandFields (runWhole fuel) fuel words state
          | none => (state.args.tail, state)
        if !state.goesOn then state
        else
          let after := runEach fuel tested name body fields
            { state with loops := state.loops + 1, status := 0 }
          { after with loops := state.loops }
      | .choice line word cases =>
        let state := { state with line := line }
        let (text, state) := expandJoined (runWhole fuel) fuel word state
        let (body, state) := matchingCase (runWhole fuel) fuel text cases state
        match body with
        | some body => runCommand fuel tested body state
        | none => if state.goesOn then { state with status := 0 } else state
      | .define line name body =>
        let others := state.functions.filter (·.name != name)
        { state with functions := ⟨name, line, body⟩ :: others, status := 0 }

/-- Runs a command apart, with all that it leaves in the background. -/
def runWhole : Nat → Command → State → State
  | 0, _, state => state
  | fuel + 1, command, state => runJobs fuel (runCommand fuel false command state)

def runJobs : Nat → State → State
  | 0, state => state
  | fuel + 1, state =>
    match state.jobs with
    | [] => state
    | job :: rest =>
      let after := { state with flow := .onward }.apart fun inside =>
        runWhole fuel job.command { inside with
          args := job.args
          bindings := job.bindings
          functions := job.functions
          sinks := job.sinks
          line := job.line
          input := [] }
      runJobs fuel { after with
        jobs := rest
        input := state.input
        status := state.status
        flow := if after.goesOn then state.flow else after.flow }

def runAwaiting : Nat → State → State
  | 0, state => state
  | fuel + 1, state =>
    match state.awaiting with
    | [] => state
    | action :: rest =>
      if state.goesOn then
        let after := runText fuel false ⟨action, 1, none, [], [], state.documentCount⟩
          { state with awaiting := [] }
        runAwaiting fuel { after with awaiting := rest, status := state.status }
      else state

/-- Each command of a pipeline but the last writes into the input of the next, and all of them keep
their state to themselves. -/
def runStages : Nat → List Command → State → State
  | 0, _, state => state
  | _ + 1, [], state => state
  | fuel + 1, [stage], state => state.apart (runWhole fuel stage)
  | fuel + 1, stage :: rest, state =>
    let (text, first) := state.captured fun inside => inside.apart (runWhole fuel stage)
    let last := runStages fuel rest { first with input := text, status := state.status }
    { last with input := first.input }

def runLoop : Nat → Bool → Bool → Command → Command → State → Nat → State
  | 0, _, _, _, _, state, _ => { state with flow := .exits }
  | fuel + 1, tested, awaits, condition, body, state, status =>
    let (goesOn, state) := afterBody (runCommand fuel true condition state)
    if !goesOn then state
    else if (state.status = 0) = awaits then { state with status := status }
    else
      let (goesOn, state) := afterBody (runCommand fuel tested body state)
      if goesOn then runLoop fuel tested awaits condition body state state.status else state

def runEach : Nat → Bool → Octets → Command → List Octets → State → State
  | 0, _, _, _, _, state => state
  | _ + 1, _, _, _, [], state => state
  | fuel + 1, tested, name, body, field :: rest, state =>
    let (goesOn, state) := afterBody (runCommand fuel tested body (state.assign name field))
    if goesOn then runEach fuel tested name body rest state else state

def runSimple : Nat → Bool → Nat → List (Octets × List Part) → List (List Part) → List Redirect →
    State → State
  | 0, _, _, _, _, _, state => state
  | fuel + 1, tested, line, assignments, words, redirects, state =>
    let run := runWhole fuel
    let start := { state with line := line, outputStatus := none }
    let (fields, start) := expandFields run fuel words start
    if !start.goesOn then start
    else
      match fields with
      | [] =>
        redirecting run fuel redirects start
          (fun state =>
            let state := assignAll run fuel assignments state
            if state.goesOn then { state.trace assignments [] with status := state.outputStatus.getD 0 }
            else state)
          id
      | name :: args =>
        let refused (state : State) : State :=
          if isSpecial name then { state with flow := .exits } else state
        if name = "exec".toList then
          let (inside, done) := redirectAll run fuel redirects start
          let inside := inside.trace [] fields
          if !done then { inside with flow := .exits }
          else if args.isEmpty then { assignAll run fuel assignments inside with status := 0 }
          else
            let after := runProgram fuel "exec: ".toList args inside
            { after with flow := .exits }
        else
          redirecting run fuel redirects start
            (fun state =>
              let before := state
              let state := assignAll run fuel assignments state
              if !state.goesOn then state
              else
                let after := runNamed fuel tested name args (state.trace assignments fields)
                if isSpecial name then after
                else after.restoreLocals
                  (assignments.map fun (name, _) => (name, before.lookup? name)))
            refused

def runNamed : Nat → Bool → Octets → List Octets → State → State
  | 0, _, _, _, state => state
  | fuel + 1, tested, name, args, state =>
    let special := isSpecial name
    match if special then none else state.functions.find? (·.name == name) with
    | some function => runFunction fuel tested function args state
    | none =>
      match String.ofList name with
      | "eval" =>
        let text := [' '].intercalate args
        if text.all fun c => c == ' ' then state.succeed
        else
          let after := runText fuel tested ⟨text, 1, none, [], [], state.documentCount⟩
            { state with caller := "eval: ".toList }
          { after with caller := state.caller }
      | "." =>
        match args with
        | [] => state.succeed
        | file :: _ =>
          if file.contains '/' then
            state.complain name ("cannot open ".toList ++ file ++ ": No such file".toList)
          else state.complain name (file ++ ": not found".toList)
      | "exec" => { runProgram fuel "exec: ".toList args state with flow := .exits }
      | "command" => runPlain fuel tested args state
      | "wait" => (runJobs fuel state).succeed
      | _ =>
        match state.builtin? name args with
        | some after => after
        | none => runProgram fuel [] (name :: args) state

/-- Runs a command by its name, even if there is a function of that name, or says what it is. -/
def runPlain : Nat → Bool → List Octets → State → State
  | 0, _, _, state => state
  | _ + 1, _, [], state => state.succeed
  | fuel + 1, tested, name :: args, state =>
    match String.ofList name with
    | "-v" =>
      match args.head?.bind state.meaning? with
      | some (_, shown) => (state.write 1 (shown ++ ['\n'])).succeed
      | none => { state with status := if args.isEmpty then 0 else 127 }
    | "-V" => state.succeed.describe (args.take 1)
    | "-p" | "--" => runPlain fuel tested args state
    | _ =>
      match name with
      | '-' :: c :: rest =>
        let letter := if c = 'v' ∨ c = 'V' ∨ c = 'p' then rest.headD c else c
        state.complain "command".toList ("Illegal option -".toList ++ [letter])
      | _ =>
        let functions := state.functions
        { runNamed fuel tested name args { state with functions := [] } with functions := functions }

/-- Runs a function. Its arguments and its own variables end with it. -/
def runFunction : Nat → Bool → Function → List Octets → State → State
  | 0, _, _, _, state => state
  | fuel + 1, tested, function, args, state =>
    let inside := { state with
      args := state.args.take 1 ++ args
      calls := state.calls + 1
      loops := 0
      locals := []
      functionLine := function.line - 1 }
    let after := runCommand fuel tested function.body inside
    let restored := after.restoreLocals after.locals
    { restored with
      args := state.args
      calls := state.calls
      loops := state.loops
      locals := state.locals
      functionLine := state.functionLine
      flow := if restored.flow = .returns then .onward else restored.flow }

/-- Runs a program that is not part of the shell; `caller` starts a message that it does not exist.
Starting one takes so long that commands in the background come first. -/
def runProgram : Nat → Octets → List Octets → State → State
  | 0, _, _, state => state
  | _ + 1, _, [], state => state
  | fuel + 1, caller, path :: args, state =>
    let name := programName path
    let finish (state : State) (reads : Bool) (outcome : Outcome) : State :=
      { (state.write 1 outcome.out).write 2 outcome.err with
        input := if reads && !outcome.isRefusal then [] else state.input
        status := outcome.code }
    if isShell name then
      let state := runJobs fuel state
      let ending := runShell fuel path args state.input
      let said : Octets := match ending.signal with
        | some 9 => "Killed\n".toList
        | some 15 => "Terminated\n".toList
        | _ => []
      (finish state true ending.outcome).write 2 said
    else if name = "env".toList then
      let rest := args.dropWhile fun word =>
        (word.contains '=' && word.head? ≠ some '=') || word == ['-', 'i']
      match rest with
      | [] => state.succeed
      | inner :: _ =>
        if (program? (String.ofList (programName inner))).isSome || isShell (programName inner) then
          runProgram fuel caller rest state
        else
          { state.write 2 ("env: ".toList ++ Dialect.Filter.quoted inner ++
            ": No such file or directory\n".toList) with status := 127 }
    else match program? (String.ofList name) with
      | some program =>
        let state := runJobs fuel state
        finish state program.reads (program.run args state.input)
      | none =>
        let denied := path.isEmpty || Dialect.Filter.Condition.isFolder path && path.contains '/'
        state.refuse (caller ++ path ++ (if denied then ": Permission denied" else ": not found").toList)
          (if denied && !path.isEmpty then 126 else 127)

/-- Runs a script line by line: a line that cannot be read stops it only after the lines before it
have run. -/
def runText : Nat → Bool → Cursor → State → State
  | 0, _, _, state => { state with flow := .exits }
  | fuel + 1, tested, cursor, state =>
    if !state.goesOn then state
    else match readLine { cursor with count := state.documentCount } with
      | .error fault =>
        { state with line := fault.line, functionLine := 0 }.abort
          ("Syntax error: ".toList ++ fault.message.toList)
      | .ok (none, _) => state
      | .ok (some command, next) =>
        let known := { state with
          documents := next.documents ++ state.documents
          documentCount := next.count }
        let after := match command with
          | .empty => known
          | command => runCommand fuel tested command known
        runText fuel tested { next with documents := [] } after

/-- The shell as a program: its script is an argument, or else its input. -/
def runShell : Nat → Octets → List Octets → Octets → Ending
  | 0, _, _, _ => ⟨{}, none⟩
  | fuel + 1, self, args, input =>
    let letters := optionWords args
    let operands := args.drop letters.length
    let operands := if operands.head? = some ['-', '-'] then operands.tail else operands
    let inArgument := letters.any fun word => word.head? = some '-' && word.tail.contains 'c'
    let fromInput := letters.any fun word => word.head? = some '-' && word.tail.contains 's'
    let options := (letters.map fun word =>
      if word.head? = some '-' then word.filter (· ≠ 'c') else word).filter (· ≠ ['-'])
    let prepared := State.setOptions (options.length + 1) options { args := [self], input := [] }
    let begin := fun (script : Octets) (args : List Octets) (input : Octets) =>
      let start : State := { args := args, input := input, options := match prepared with
        | .ok state => state.options
        | .error _ => {} }
      let after := runJobs fuel (runText fuel false ⟨script, 1, none, [], [], 0⟩ start)
      let final := match after.traps.find? (·.1 == 0), after.flow with
        | _, .killed _ => after
        | none, _ => after
        | some (_, action), _ =>
          let last := runText fuel false ⟨action, 1, none, [], [], after.documentCount⟩
            { after with flow := .onward, traps := [] }
          if last.goesOn then { last with status := after.status } else last
      let signal : Option Nat := match final.flow with
        | .killed signal => some signal
        | _ => none
      (⟨⟨match signal with
          | some number => 128 + number
          | none => final.status, (final.pipes.getLast?).getD [], final.errors⟩, signal⟩ : Ending)
    if let .error option := prepared then
      ⟨⟨2, [], self ++ ": 0: Illegal option ".toList ++ option ++ ['\n']⟩, none⟩
    else if inArgument then
      match operands with
      | [] => ⟨⟨2, [], self ++ ": 0: -c requires an argument\n".toList⟩, none⟩
      | script :: args => begin script (if args.isEmpty then [self] else args) input
    else match operands with
      | [] => begin input [self] []
      | file :: _ =>
        if fromInput then begin input (self :: operands) []
        else ⟨⟨2, [], self ++ ": 0: cannot open ".toList ++ file ++ ": No such file\n".toList⟩, none⟩

end

/-- How long a run may take. A loop that goes on for longer is stopped. -/
def patience (args : List Octets) (input : Octets) : Nat :=
  100000 + 16 * (args.flatten.length + args.length + input.length)

def run (self : Octets) (args : List Octets) (input : Octets) : Ending :=
  runShell (patience args input) self args input

def runEnv (args : List Octets) (input : Octets) : Ending :=
  let after := runProgram (patience args input) [] ("env".toList :: args) { args := [[]], input := input }
  ⟨⟨after.status, (after.pipes.getLast?).getD [], after.errors⟩, none⟩

end Dialect.Shell
