import Dialect.Filter.Condition
import Dialect.Filter.Program
import Dialect.Shell.Signal
import Dialect.Shell.State

/-! The commands that the shell runs itself and that run no others. -/
namespace Dialect.Shell

open Dialect.Filter (Octets Outcome number?)

def builtinNames : List String :=
  ["[", "alias", "bg", "cd", "chdir", "command", "echo", "false", "fg", "getopts", "hash", "jobs", "kill",
    "local", "printf", "pwd", "read", "test", "true", "type", "ulimit", "umask", "unalias", "wait"]

def isSpecial (name : Octets) : Bool := specialNames.any (·.toList == name)

def isBuiltin (name : Octets) : Bool := isSpecial name || builtinNames.any (·.toList == name)

namespace State

def succeed (state : State) : State := { state with status := 0 }

/-- The complaint of a command by its name. It ends the shell if the command is special. -/
def complain (state : State) (name message : Octets) : State :=
  let text := name ++ ": ".toList ++ message
  let alone := { state with caller := [] }
  let after := if isSpecial name then alone.abort text else alone.refuse text
  { after with caller := state.caller }

/-- Takes over what a command that runs at once has written; its messages come first. -/
def adopt (state : State) (outcome : Outcome) : State :=
  { (state.write 2 outcome.err).write 1 outcome.out with status := outcome.code }

def illegalNumber (state : State) (name text : Octets) : State :=
  state.complain name ("Illegal number: ".toList ++ text)

/-- Leaves the shell, with the last status if no other is given. -/
def exit (state : State) (name : Octets) (args : List Octets) (flow : Flow) : State :=
  match args with
  | [] => { state with flow := flow }
  | text :: _ =>
    match number? text with
    | some code =>
      if code < 2147483648 then { state with status := code % 256, flow := flow }
      else state.illegalNumber name text
    | none => state.illegalNumber name text

def leave (state : State) (name : Octets) (args : List Octets) (flow : Nat → Flow) : State :=
  let text := args.headD ['1']
  match number? text with
  | some 0 | none => state.illegalNumber name text
  | some count =>
    if state.loops = 0 then state.succeed
    else { state.succeed with flow := flow (min count state.loops) }

def shift (state : State) (name : Octets) (args : List Octets) : State :=
  let text := args.headD ['1']
  match number? text with
  | none => state.illegalNumber name text
  | some count =>
    if state.args.length ≤ count then state.complain name "can't shift that many".toList
    else { state.succeed with args := state.args.take 1 ++ state.args.drop (count + 1) }

/-- Turns an option on or off; there are more letters than those with an effect here. -/
def setOption? (state : State) (on : Bool) (letter : Char) : Option State :=
  let options := state.options
  match letter with
  | 'e' => some { state with options := { options with exitOnFailure := on } }
  | 'u' => some { state with options := { options with unsetIsFault := on } }
  | 'x' => some { state with options := { options with trace := on } }
  | c => if "fIimnsvVECab".toList.contains c then some state else none

def optionLetter? (name : Octets) : Option Char :=
  match String.ofList name with
  | "errexit" => some 'e'
  | "nounset" => some 'u'
  | "xtrace" => some 'x'
  | "noglob" => some 'f'
  | "ignoreeof" => some 'I'
  | "interactive" => some 'i'
  | "monitor" => some 'm'
  | "noexec" => some 'n'
  | "stdin" => some 's'
  | "verbose" => some 'v'
  | "vi" => some 'V'
  | "emacs" => some 'E'
  | "noclobber" => some 'C'
  | "allexport" => some 'a'
  | "notify" => some 'b'
  | _ => none

def setLetters (state : State) (on : Bool) : Octets → Except Char State
  | [] => .ok state
  | letter :: rest =>
    match state.setOption? on letter with
    | some state => state.setLetters on rest
    | none => .error letter

/-- Sets options and arguments. The fault is the option that does not exist. -/
def setOptions : Nat → List Octets → State → Except Octets State
  | 0, _, state => .ok state
  | _ + 1, [], state => .ok state
  | fuel + 1, word :: rest, state =>
    let replace (args : List Octets) : Except Octets State :=
      .ok { state with args := state.args.take 1 ++ args }
    match word with
    | ['-', '-'] => replace rest
    | ['-'] => if rest.isEmpty then .ok state else replace rest
    | [sign, 'o'] =>
      if sign = '-' ∨ sign = '+' then
        match rest with
        | [] => .ok state
        | name :: rest =>
          match (optionLetter? name).bind (state.setOption? (sign == '-')) with
          | some state => setOptions fuel rest state
          | none => .error ("-o ".toList ++ name)
      else replace (word :: rest)
    | sign :: letter :: letters =>
      if sign = '-' ∨ sign = '+' then
        match state.setLetters (sign == '-') (letter :: letters) with
        | .ok state => setOptions fuel rest state
        | .error letter => .error ['-', letter]
      else replace (word :: rest)
    | _ => replace (word :: rest)

def set (state : State) (name : Octets) (args : List Octets) : State :=
  match setOptions (args.length + 1) args state with
  | .ok state => state.succeed
  | .error option => state.complain name ("Illegal option ".toList ++ option)

def unsetAll (state : State) (name : Octets) (functions : Bool) : List Octets → State
  | [] => state.succeed
  | word :: rest =>
    if word = ['-', 'f'] then state.unsetAll name true rest
    else if word = ['-', 'v'] then state.unsetAll name false rest
    else if functions then
      { state with functions := state.functions.filter (·.name != word) }.unsetAll name true rest
    else if !isName word then state.complain name (word ++ ": bad variable name".toList)
    else if state.constants.contains word then state.complain name (word ++ ": is read only".toList)
    else (state.unset word).unsetAll name false rest

def declaration (word : Octets) : Octets × Option Octets :=
  let name := word.takeWhile (· ≠ '=')
  (name, if name.length < word.length then some (word.drop (name.length + 1)) else none)

def declareAll (state : State) (name : Octets) (constant : Bool) : List Octets → State
  | [] => state.succeed
  | word :: rest =>
    let (variableName, value) := declaration word
    if word = ['-', 'p'] then state.declareAll name constant rest
    else if !isName variableName then
      state.complain name (variableName ++ ": bad variable name".toList)
    else
      let state := match value with
        | some value => state.assign variableName value
        | none => state
      if !state.goesOn then state
      else if constant then
        { state with constants := variableName :: state.constants }.declareAll name constant rest
      else state.declareAll name constant rest

def declareLocal (state : State) (name : Octets) : List Octets → State
  | [] => state.succeed
  | word :: rest =>
    let (variableName, value) := declaration word
    if !isName variableName then
      state.abort (name ++ ": ".toList ++ variableName ++ ": bad variable name".toList)
    else
      let state := { state with
        locals := (variableName, state.lookup? variableName) :: state.locals }
      (match value with
        | some value => state.assign variableName value
        | none => state).declareLocal name rest

def restoreLocals (state : State) (locals : List (Octets × Option Octets)) : State :=
  locals.foldl
    (fun state (name, value) => match value with
      | some value => { state.unset name with bindings := (name, value) :: (state.unset name).bindings }
      | none => state.unset name)
    state

/-- A line of the input. A backslash keeps the next character from dividing fields, unless the line is
`raw`. The result holds its characters with that mark, and whether a newline ended it. -/
def inputLine (raw : Bool) : Octets → List (Char × Bool) × Octets × Bool
  | [] => ([], [], false)
  | '\\' :: c :: rest =>
    if raw then
      if c = '\n' then ([('\\', false)], rest, true)
      else
        let (line, after, ended) := inputLine raw (c :: rest)
        (('\\', false) :: line, after, ended)
    else
      let (line, after, ended) := inputLine raw rest
      (if c = '\n' then line else (c, true) :: line, after, ended)
  | c :: rest =>
    if c = '\n' then ([], rest, true)
    else if c = '\\' ∧ !raw then ([], rest, false)
    else
      let (line, after, ended) := inputLine raw rest
      ((c, false) :: line, after, ended)

/-- Divides a line among variables. The last one takes all that is left. -/
def divide (separators : Octets) : Nat → List (Char × Bool) → List Octets
  | 0, _ => []
  | count + 1, line =>
    let divides (item : Char × Bool) : Bool := !item.2 && separators.contains item.1
    let isBlank (item : Char × Bool) : Bool :=
      divides item && (item.1 == ' ' || item.1 == '\t' || item.1 == '\n')
    let line := line.dropWhile isBlank
    let field := line.takeWhile (!divides ·)
    let after := (line.drop field.length).dropWhile isBlank
    let text (items : List (Char × Bool)) : Octets := items.map (·.1)
    if count = 0 then
      let trimmed := (line.reverse.dropWhile isBlank).reverse
      -- A separator that ends the only field left is not part of it.
      if (line.drop field.length).isEmpty then [text field]
      else
        let next := if after.head?.any divides then after.tail else after
        let alone := (next.dropWhile isBlank).isEmpty
        [if alone then text field else text trimmed]
    else
      let next := if after.head?.any divides && !(after.head?.any isBlank) then after.tail else after
      text field :: divide separators count next

def read (state : State) (name : Octets) (raw : Bool) (names : List Octets) : State :=
  match names.find? (!isName ·) with
  | some bad => state.complain name (bad ++ ": bad variable name".toList)
  | none =>
    let (line, rest, ended) := inputLine raw state.input
    let values := divide state.separators names.length line
    let state := { state with input := rest }
    let state := (names.zip (values ++ List.replicate names.length [])).foldl
      (fun state (name, value) => state.assign name value) state
    if state.goesOn then { state with status := if ended then 0 else 1 } else state

/-- The letters of an option word of `read`: whether the line is raw, and whether the next word is a
prompt, which is not shown. The fault is a letter that it does not know. -/
def readLetters (raw : Bool) : Octets → Except Char (Bool × Bool)
  | [] => .ok (raw, false)
  | 'r' :: rest => readLetters true rest
  | 'p' :: rest => .ok (raw, rest.isEmpty)
  | c :: _ => .error c

def readCommand (state : State) (name : Octets) : Nat → Bool → List Octets → State
  | 0, _, _ | _ + 1, _, [] => state.complain name "arg count".toList
  | fuel + 1, raw, word :: rest =>
    match word with
    | ['-', '-'] =>
      if rest.isEmpty then state.complain name "arg count".toList else state.read name raw rest
    | '-' :: c :: letters =>
      match readLetters raw (c :: letters) with
      | .error letter => state.complain name ("Illegal option -".toList ++ [letter])
      | .ok (raw, prompted) =>
        state.readCommand name fuel raw (if prompted then rest.tail else rest)
    | _ => state.read name raw (word :: rest)

/-- Sends a signal to processes. Only the shell itself can be reached. -/
def kill (state : State) (name : Octets) (args : List Octets) : State :=
  let send (signal : Nat) (targets : List Octets) : State :=
    match targets with
    | [] =>
      state.complain name ("Usage: kill [-s sigspec | -signum | -sigspec] [pid | job]... or\n" ++
        "kill -l [exitstatus]").toList
    | target :: _ =>
      match number? target with
      | none => state.illegalNumber name target
      | some number =>
        if number ≠ processNumber then
          state.refuse (name ++ ": No such process".toList) 1
        else if signal = 0 ∨ isHarmless signal then state.succeed
        else match state.traps.find? (·.1 == signal) with
          | some (_, action) => { state.succeed with awaiting := state.awaiting ++ [action] }
          | none => { state with flow := .killed signal }
  match args with
  | ['-', 'l'] :: text :: _ =>
    match (number? text).bind fun number => signalName? (number % 128) with
    | some found => (state.write 1 (found.toList ++ ['\n'])).succeed
    | none => state.illegalNumber name text
  | [['-', 'l']] =>
    (state.write 1 (("0" :: signalNames).flatMap fun found => found.toList ++ ['\n'])).succeed
  | ['-', 's'] :: text :: targets =>
    match signal? text with
    | some signal => send signal targets
    | none => state.complain name ("invalid signal number or name: ".toList ++ text)
  | ['-', '-'] :: targets => send 15 targets
  | ('-' :: c :: text) :: targets =>
    match signal? (c :: text) with
    | some signal => send signal targets
    | none => state.complain name ("Illegal option -".toList ++ [c])
  | targets => send 15 targets

/-- Remembers what to run when a signal comes, or at the end. -/
def trap (state : State) (name : Octets) (args : List Octets) : State :=
  let args := if args.head? = some ['-', '-'] then args.tail else args
  match args with
  | [] => state.succeed
  | action :: events =>
    let (action?, events) :=
      if events.isEmpty then (none, [action])
      else if action = ['-'] then (none, events)
      else (some action, events)
    events.foldl
      (fun state event => match signal? event with
        | none =>
          { state.write 2 (name ++ ": ".toList ++ event ++ ": bad trap\n".toList) with status := 1 }
        | some signal =>
          let others := state.traps.filter (·.1 != signal)
          { state with traps := match action? with
            | some action => (signal, action) :: others
            | none => others })
      state.succeed

/-- What a name of a command stands for: a word to say so, and a path or the name itself. -/
def meaning? (state : State) (name : Octets) : Option (String × Octets) :=
  if keywords.any (·.toList == name) then some ("is a shell keyword", name)
  else if isSpecial name then some ("is a special shell builtin", name)
  else if state.functions.any (·.name == name) then some ("is a shell function", name)
  else if isBuiltin name then some ("is a shell builtin", name)
  else if (Dialect.Filter.program? (String.ofList name)).isSome || name == "sh".toList ||
      name == "env".toList then
    some ("is /usr/bin/" ++ String.ofList name, "/usr/bin/".toList ++ name)
  else none

def describe (state : State) : List Octets → State
  | [] => state
  | name :: rest =>
    match state.meaning? name with
    | some (text, _) => (state.write 1 (name ++ ' ' :: text.toList ++ ['\n'])).describe rest
    | none =>
      { state.write 1 (name ++ ": not found\n".toList) with status := 127 }.describe rest

def setMask (state : State) (name : Octets) (args : List Octets) : State :=
  match args with
  | [] => (state.write 1 (state.mask ++ ['\n'])).succeed
  | text :: _ =>
    if text.all (fun c => '0' ≤ c && c ≤ '7') && text.length ≤ 4 then
      { state.succeed with mask := List.replicate (4 - text.length) '0' ++ text }
    else state.complain name ("Illegal number: ".toList ++ text)

def changeFolder (state : State) (name : Octets) (args : List Octets) : State :=
  match args with
  | [] => state.succeed
  | target :: _ =>
    if Dialect.Filter.Condition.isFolder target then state.succeed
    else state.complain name ("can't cd to ".toList ++ target)

/-- Runs a command that the shell knows, if it runs no others. -/
def builtin? (state : State) (name : Octets) (args : List Octets) : Option State :=
  let label := state.label ++ name
  match String.ofList name with
  | ":" | "true" | "alias" | "unalias" | "hash" | "jobs" | "times" | "ulimit" | "wait" => some state.succeed
  | "false" => some { state with status := 1 }
  | "echo" => some (state.adopt (Dialect.Filter.echo .shell args))
  | "printf" => some (state.adopt (Dialect.Filter.Printing.run .shell label args))
  | "test" => some (state.adopt (Dialect.Filter.Condition.run .shell label args))
  | "[" => some (state.adopt (Dialect.Filter.Condition.bracketed .shell label args))
  | "exit" => some (state.exit name args .exits)
  | "return" => some (state.exit name args (if state.calls = 0 then .exits else .returns))
  | "break" => some (state.leave name args .breaks)
  | "continue" => some (state.leave name args .continues)
  | "shift" => some (state.shift name args)
  | "set" => some (state.set name args)
  | "unset" => some (state.unsetAll name false args)
  | "export" => some (state.declareAll name false args)
  | "readonly" => some (state.declareAll name true args)
  | "local" =>
    some (if state.calls = 0 then state.abort "local: not in a function".toList
      else state.declareLocal name args)
  | "read" => some (state.readCommand name (args.length + 1) false args)
  | "kill" => some (state.kill name args)
  | "trap" => some (state.trap name args)
  | "type" => some (state.succeed.describe args)
  | "umask" => some (state.setMask name args)
  | "cd" | "chdir" => some (state.changeFolder name args)
  | "fg" | "bg" => some (state.complain name "No current job".toList)
  | _ => none

end State

end Dialect.Shell
