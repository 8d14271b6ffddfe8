import Dialect.Filter.StreamEdit.Reader

/-! Running scripts. Each line is read into the pattern space, the instructions change it, and at the
end of the cycle it is printed. -/
namespace Dialect.Filter.StreamEdit

structure Space where
  text : Octets := []
  ended : Bool := true
  deriving Repr, DecidableEq

inductive Progress where
  | waiting
  | within (last : Option Nat)
  | finished
  deriving Repr, DecidableEq

inductive Queued where
  | text (text : Octets)
  | file (name : Octets)
  deriving Repr, DecidableEq

structure Settings where
  quiet : Bool := false
  delimiter : Char := '\n'
  width : Nat := 70
  deriving Repr, DecidableEq

structure Machine where
  space : Space := {}
  held : Space := {}
  unread : List (Octets × Bool)
  number : Nat := 0
  queue : List Queued := []
  replaced : Bool := false
  ranges : Array Progress
  recent : Option Matcher := none
  /-- It is the pattern of an address, whose groups nothing has asked for. -/
  fromAddress : Bool := false
  out : List Octets := []
  err : List Octets := []
  dangling : Bool := false
  outDangling : Bool := false
  errDangling : Bool := false
  code : Nat := 0
  stuck : Option Mistake := none

namespace Machine

/-- Writes to the output, after the end that its last line may lack. -/
def say (machine : Machine) (settings : Settings) (text : Octets) : Machine :=
  { machine with
    out := text :: (if machine.dangling then [settings.delimiter] :: machine.out else machine.out)
    dangling := false }

def print (machine : Machine) (settings : Settings) (space : Space) : Machine :=
  let text := if space.ended then space.text ++ [settings.delimiter] else space.text
  { machine.say settings text with dangling := !space.ended }

def write (machine : Machine) (settings : Settings) (outlet : Outlet) (space : Space) : Machine :=
  let text := if space.ended then space.text ++ [settings.delimiter] else space.text
  let after (dangling : Bool) : Octets := if dangling then settings.delimiter :: text else text
  match outlet with
  | .output =>
    { machine with out := after machine.outDangling :: machine.out, outDangling := !space.ended }
  | .errors =>
    { machine with err := after machine.errDangling :: machine.err, errDangling := !space.ended }
  | .nowhere => machine

def flush (machine : Machine) (settings : Settings) : Machine :=
  let written := machine.queue.foldl
    (fun (machine : Machine) queued => match queued with
      | .text text => machine.say settings text
      | .file name =>
        if name = "/dev/stdin".toList then
          { machine.say settings (unrows machine.unread) with unread := [] }
        else machine.say settings [])
    machine
  { written with queue := [] }

def read? (machine : Machine) (settings : Settings) (join : Space → Space) : Option Machine :=
  match machine.unread with
  | [] => none
  | (text, ended) :: unread =>
    some { machine.flush settings with
      space := join ⟨text, ended⟩
      unread := unread
      number := machine.number + 1
      replaced := false }

/-- Whether a pattern matches the line; without one, the last one that was used. -/
def matching (machine : Machine) (matcher : Option Matcher) : Bool × Machine :=
  match matcher.or machine.recent with
  | none => (false, { machine with stuck := some .noPattern })
  | some found =>
    (found.accepts machine.space.text,
      { machine with recent := some found, fromAddress := machine.fromAddress || matcher.isSome })

def holds (machine : Machine) (address : Address) : Bool × Machine :=
  match address with
  | .line number => (number == machine.number, machine)
  | .every first step =>
    (first ≤ machine.number && (machine.number - first) % step == 0, machine)
  | .lastLine => (machine.unread.isEmpty, machine)
  | .matching matcher => machine.matching matcher

/-- What becomes of a range on the line where it starts: the line may be its last one, and a range
between two numbers that have both been passed does not start. -/
def started (machine : Machine) (first : Address) (last : RangeEnd) : Bool × Progress :=
  let upTo (line : Nat) : Progress := if line ≤ machine.number then .finished else .within (some line)
  match last with
  | .at (.line line) =>
    (line ≥ machine.number || (match first with
      | .line number => number == machine.number
      | _ => true), upTo line)
  | .at (.every line step) =>
    (true, if (machine.holds (.every line step)).1 then .finished else .within none)
  | .at .lastLine => (true, if machine.unread.isEmpty then .finished else .within none)
  | .at _ => (true, .within none)
  | .after count => (true, upTo (machine.number + count))
  | .multiple factor =>
    (true, upTo (if factor = 0 then 0 else (machine.number / factor + 1) * factor))

def applies (machine : Machine) (index : Nat) (scope : Scope) : Bool × Machine :=
  match scope with
  | .all => (true, machine)
  | .one address => machine.holds address
  | .between first last =>
    let keep (machine : Machine) (progress : Progress) : Machine :=
      { machine with ranges := machine.ranges.setIfInBounds index progress }
    let start (machine : Machine) : Bool × Machine :=
      let (applies, progress) := machine.started first last
      (applies, keep machine progress)
    match machine.ranges[index]?.getD .waiting, first, last with
    | .within (some line), _, _ =>
      let passes := match last with
        | .at _ => false
        | _ => true
      (passes || machine.number ≤ line,
        if line ≤ machine.number then keep machine .finished else machine)
    | .within none, _, .at address =>
      let (ends, machine) := machine.holds address
      (true, if ends then keep machine .finished else machine)
    | .within none, _, _ => (true, machine)
    | .finished, .line _, _ => (false, machine)
    | .waiting, .line number, _ =>
      if machine.number < number then (false, machine) else start machine
    | _, address, _ =>
      let (starts, machine) := machine.holds address
      if starts then start machine else (false, machine)

end Machine

/-- Replaces in a text from a point on. `count` occurrences are to come, counting the first one that
is replaced; right after a match an empty one does not count. -/
def replaceFrom (matcher : Matcher) (substitution : Substitution) :
    Nat → Option Char → Nat → Bool → Octets → Octets × Bool
  | 0, _, _, _, text => (text, false)
  | fuel + 1, before, count, adjacent, text =>
    match matcher.find? before text with
    | none => (text, false)
    | some found =>
      let skipOne (count : Nat) : Octets × Bool :=
        match found.after.rest with
        | [] => ([], false)
        | c :: rest =>
          let (text, changed) := replaceFrom matcher substitution fuel (some c) count false rest
          (c :: text, changed)
      let onward (count : Nat) : Octets × Bool :=
        if found.whole.isEmpty then skipOne count
        else replaceFrom matcher substitution fuel found.after.before count true found.after.rest
      if found.whole.isEmpty && found.lead.isEmpty && adjacent then skipOne count
      else if 1 < count then
        let (text, changed) := onward (count - 1)
        (found.lead ++ found.whole ++ text, changed)
      else
        let text := if substitution.onward then (onward 1).1 else found.after.rest
        (found.lead ++ instantiate found.whole found.groups .kept substitution.replacement ++ text, true)

def listed (delimiter : Char) (width : Nat) : Nat → Octets → Octets
  | _, [] => ['$', delimiter]
  | column, c :: rest =>
    let shown : Octets := match c with
      | '\\' => ['\\', '\\']
      | '\x07' => ['\\', 'a']
      | '\x08' => ['\\', 'b']
      | '\x0c' => ['\\', 'f']
      | '\n' => ['\\', 'n']
      | '\r' => ['\\', 'r']
      | '\t' => ['\\', 't']
      | '\x0b' => ['\\', 'v']
      | c => if isPrintable c then [c] else '\\' :: octal c
    if 0 < width ∧ width - 1 < column + shown.length then
      '\\' :: delimiter :: shown ++ listed delimiter width shown.length rest
    else shown ++ listed delimiter width (column + shown.length) rest

inductive Flow where
  | goto (index : Nat)
  /-- The end of the cycle, perhaps without the print of its line. -/
  | endCycle (print : Bool)
  | restart
  | stop
  deriving Repr, DecidableEq

/-- The index after the end of the block whose inside these instructions start with. -/
def afterBlock (depth index : Nat) : List Instruction → Nat
  | [] => index
  | instruction :: rest =>
    match instruction.edit, depth with
    | .block, depth => afterBlock (depth + 1) (index + 1) rest
    | .blockEnd, 0 => index + 1
    | .blockEnd, depth + 1 => afterBlock depth (index + 1) rest
    | _, depth => afterBlock depth (index + 1) rest

/-- The line up to the first delimiter in it, and what follows. -/
def firstLine (delimiter : Char) (text : Octets) : Octets × Option Octets :=
  let line := text.takeWhile (· ≠ delimiter)
  (line, if line.length < text.length then some (text.drop (line.length + 1)) else none)

def Edit.apply (edit : Edit) (script : List Instruction) (settings : Settings) (index : Nat)
    (machine : Machine) : Flow × Machine :=
  let go (machine : Machine) : Flow × Machine := (.goto (index + 1), machine)
  let space := machine.space
  let withText (text : Octets) : Machine := { machine with space := { space with text := text } }
  let joined (first second : Octets) : Octets := first ++ settings.delimiter :: second
  let closed (text : Octets) : Octets :=
    if text.isEmpty then [] else text.dropLast ++ [settings.delimiter]
  let first := firstLine settings.delimiter space.text
  let firstSpace : Space := ⟨first.1, first.2.isSome || space.ended⟩
  match edit with
  | .block | .blockEnd | .label _ => go machine
  | .jump condition name =>
    let target :=
      if name.isEmpty then script.length
      else script.findIdx fun instruction => instruction.edit == .label name
    match condition with
    | .always => (.goto target, machine)
    | .replaced =>
      if machine.replaced then (.goto target, { machine with replaced := false }) else go machine
    | .unreplaced =>
      if machine.replaced then go { machine with replaced := false } else (.goto target, machine)
  | .substitute substitution =>
    match substitution.matcher.or machine.recent with
    | none => (.stop, { machine with stuck := some .noPattern })
    | some matcher =>
      let largest := largestGroup substitution.replacement
      let (text, changed) := replaceFrom matcher substitution (2 * space.text.length + 2) none
        substitution.occurrence false space.text
      if substitution.matcher.isNone && machine.fromAddress && matcher.groups < largest then
        (.stop, { machine with stuck := some (.badReference largest) })
      else if changed then
        let machine :=
          { withText text with recent := some matcher, fromAddress := false, replaced := true }
        let machine := if substitution.print then machine.print settings machine.space else machine
        go (match substitution.write with
          | some outlet => machine.write settings outlet machine.space
          | none => machine)
      else go { machine with recent := some matcher, fromAddress := false }
  | .exchange sources targets =>
    go (withText (space.text.map fun c =>
      (((sources.zip targets).reverse.find? fun pair => pair.1 == c).map (·.2)).getD c))
  | .delete => (.endCycle false, machine)
  | .deleteFirst =>
    match first.2 with
    | none => (.endCycle false, machine)
    | some rest => (.restart, withText rest)
  | .print => go (machine.print settings space)
  | .printFirst => go (machine.print settings firstSpace)
  | .next =>
    if machine.unread.isEmpty then (.endCycle true, machine)
    else
      let machine := if settings.quiet then machine else machine.print settings space
      go ((machine.read? settings id).getD machine)
  | .appendNext =>
    match machine.read? settings fun line => { line with text := joined space.text line.text } with
    | none => (.endCycle true, machine)
    | some machine => go machine
  | .hold => go { machine with held := space }
  | .appendHold => go { machine with held := ⟨joined machine.held.text space.text, space.ended⟩ }
  | .get => go { machine with space := machine.held }
  | .appendGet =>
    go { machine with space := ⟨joined space.text machine.held.text, machine.held.ended⟩ }
  | .swap => go { machine with space := machine.held, held := space }
  | .clear => go (withText [])
  | .list width => go (machine.say settings (listed settings.delimiter (width.getD settings.width) 0 space.text))
  | .lineNumber => go (machine.say settings ((toString machine.number).toList ++ [settings.delimiter]))
  | .fileName => go (machine.say settings ['-', settings.delimiter])
  | .quit silent code =>
    let machine := { machine with code := code % 256 }
    if silent then (.stop, machine)
    else
      let machine := if settings.quiet then machine else machine.print settings space
      (.stop, (machine.say settings []).flush settings)
  | .insertText text => go (machine.say settings (closed text))
  | .appendText text => go { machine with queue := machine.queue ++ [.text text] }
  | .changeText text =>
    let going := match machine.ranges[index]?.getD .waiting with
      | .within _ => true
      | _ => false
    (.endCycle false, if going then machine else machine.say settings (closed text))
  | .readFile name => go { machine with queue := machine.queue ++ [.file name] }
  | .readLine name =>
    match machine.unread with
    | line :: unread =>
      if name = "/dev/stdin".toList then
        go { machine with unread := unread, queue := machine.queue ++ [.text (unrows [line])] }
      else go machine
    | [] => go machine
  | .write outlet => go (machine.write settings outlet space)
  | .writeFirst outlet => go (machine.write settings outlet firstSpace)

def step (script : List Instruction) (settings : Settings) (index : Nat) (machine : Machine) :
    Flow × Machine :=
  match script[index]? with
  | none => (.endCycle true, machine)
  | some instruction =>
    let (applies, machine) := machine.applies index instruction.scope
    if machine.stuck.isSome then (.stop, machine)
    else if applies != instruction.negated then
      instruction.edit.apply script settings index machine
    else match instruction.edit with
      | .block => (.goto (afterBlock 0 (index + 1) (script.drop (index + 1))), machine)
      | _ => (.goto (index + 1), machine)

/-- Runs cycles from an instruction on; no run takes more than `fuel` steps. -/
def cycles (script : List Instruction) (settings : Settings) : Nat → Nat → Machine → Machine
  | 0, _, machine => machine
  | fuel + 1, index, machine =>
    match step script settings index machine with
    | (.goto index, machine) => cycles script settings fuel index machine
    | (.stop, machine) => machine
    | (.restart, machine) => cycles script settings fuel 0 (machine.flush settings)
    | (.endCycle print, machine) =>
      let machine :=
        if print && !settings.quiet then machine.print settings machine.space else machine
      match machine.read? settings id with
      | none => machine.flush settings
      | some machine => cycles script settings fuel 0 machine

/-- The state before the first line. A range from line 0 on has already started. -/
def initial (script : List Instruction) (lines : List (Octets × Bool)) : Machine where
  unread := lines
  ranges := (script.map fun instruction => match instruction.scope with
    | .between (.line 0) _ => Progress.within none
    | _ => .waiting).toArray

def edited (script : List Instruction) (settings : Settings) (fuel : Nat)
    (lines : List (Octets × Bool)) : Machine :=
  let machine := initial script lines
  match machine.read? settings id with
  | none => machine
  | some machine => cycles script settings fuel 0 machine

end Dialect.Filter.StreamEdit
