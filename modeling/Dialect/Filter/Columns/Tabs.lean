import Dialect.Filter.Files

/-! The programs `expand` and `unexpand`, which exchange tabs and spaces. -/
namespace Dialect.Filter.Tabs

structure Stops where
  listed : List Nat := []
  every : Option Nat := some 8
  apart : Option Nat := none
  deriving Repr, DecidableEq

def Stops.next? (stops : Stops) (column : Nat) : Option Nat :=
  match stops.listed.find? (column < ·) with
  | some stop => some stop
  | none =>
    match stops.every, stops.apart with
    | some size, _ => some ((column / size + 1) * size)
    | none, some size =>
      let last := stops.listed.getLast?.getD 0
      some (last + ((column - last) / size + 1) * size)
    | none, none => none

def expanded (stops : Stops) (initial : Bool) (column : Nat) (blank : Bool) : Octets → Octets
  | [] => []
  | c :: rest =>
    match c with
    | '\n' => c :: expanded stops initial 0 true rest
    | '\x08' => c :: expanded stops initial (column - 1) false rest
    | '\t' =>
      if initial && !blank then c :: expanded stops initial column blank rest
      else
        let next := (stops.next? column).getD (column + 1)
        List.replicate (next - column) ' ' ++ expanded stops initial next blank rest
    | ' ' => c :: expanded stops initial (column + 1) blank rest
    | c => c :: expanded stops initial (column + 1) false rest

/-- Replaces spaces by tabs. `spaces` holds the blanks that have not been written: the column where
they start and their text. -/
def collapsed (stops : Stops) (all : Bool) (column : Nat) (start : Nat) (pending : Octets)
    (blank : Bool) : Octets → Octets
  | [] => pending
  | c :: rest =>
    let flush (column : Nat) (blank : Bool) : Octets :=
      pending ++ c :: collapsed stops all column column [] blank rest
    if c = '\n' then flush 0 true
    else if !blank then
      flush (if c = '\x08' then column - 1 else column + 1) blank
    else match c with
      | ' ' =>
        match stops.next? column with
        | none => flush (column + 1) all
        | some stop =>
          if column + 1 = stop then
            if pending.isEmpty && rest.head?.all fun d => d ≠ ' ' && d ≠ '\t' then
              collapsed stops all (column + 1) start [c] blank rest
            else
              '\t' :: collapsed stops all (column + 1) (column + 1) [] blank rest
          else collapsed stops all (column + 1) start (pending ++ [c]) blank rest
      | '\t' =>
        match stops.next? column with
        | none => flush (column + 1) all
        | some stop => '\t' :: collapsed stops all stop stop [] blank rest
      | '\x08' => flush (column - 1) all
      | _ => flush (column + 1) all

inductive Fault where
  | zero
  | character (text : Octets)
  | order

def Stops.ofText (text : Octets) : Except Fault Stops := do
  let parts := (text.splitBy fun a b => isMark a == isMark b).filter fun part => !part.all isMark
  let last := parts.getLast?
  let repeated := last.bind fun part => match part with
    | '/' :: digits => (number? digits).map fun n => (true, n)
    | '+' :: digits => (number? digits).map fun n => (false, n)
    | _ => none
  let single := if repeated.isSome then parts.dropLast else parts
  let stops ← single.mapM fun part =>
    match number? part with
    | some n => .ok n
    | none => .error (Fault.character (part.dropWhile Char.isDigit))
  if stops.contains 0 || repeated.any (·.2 == 0) then throw .zero
  if !(stops.zip stops.tail).all fun (a, b) => a < b then throw .order
  match repeated, stops with
  | some (true, n), stops => return ⟨stops, some n, none⟩
  | some (false, n), stops => return ⟨stops, none, some n⟩
  | none, [size] => return ⟨[], some size, none⟩
  | none, [] => return {}
  | none, stops => return ⟨stops, none, none⟩
where
  isMark (c : Char) : Bool := c == ',' || c == ' ' || c == '\t'

def Fault.message : Fault → Octets
  | .zero => "tab size cannot be 0".toList
  | .character text => "tab size contains invalid character(s): ".toList ++ quoted text
  | .order => "tab sizes must be ascending".toList

def expandSwitches : List Switch := [
  ⟨'i', ["initial"], .nothing, true⟩,
  ⟨'0', [], .value, true⟩,
  ⟨'t', ["tabs"], .value, true⟩]

def unexpandSwitches : List Switch := [
  ⟨'a', ["all"], .nothing, true⟩,
  ⟨'1', ["first-only"], .nothing, false⟩,
  ⟨'0', [], .value, true⟩,
  ⟨'t', ["tabs"], .value, true⟩]

/-- A word such as `-4` gives the stops; the digit 0 stands for the option that it is. -/
def longForm (word : Octets) : Octets :=
  match word with
  | '-' :: c :: rest => if c.isDigit then '-' :: '0' :: c :: rest else word
  | _ => word

def withStops (program : String) (switches : List Switch) (args : List Octets) (input : Octets)
    (change : Arguments → Stops → Octets → Octets) : Outcome :=
  match Arguments.read switches (args.map longForm) with
  | .error misuse => misused program 1 misuse
  | .ok arguments =>
    let given := arguments.given.filter fun given => given.key == 't' || given.key == '0'
    match Stops.ofText ([','].intercalate (given.map (·.value))) with
    | .error fault => ⟨1, [], program.toList ++ ": ".toList ++ fault.message ++ ['\n']⟩
    | .ok stops => transforming program (filesOf input arguments.operands) (change arguments stops)

def expand (args : List Octets) (input : Octets) : Outcome :=
  withStops "expand" expandSwitches args input fun arguments stops =>
    expanded stops (arguments.has 'i') 0 true

def unexpand (args : List Octets) (input : Octets) : Outcome :=
  withStops "unexpand" unexpandSwitches args input fun arguments stops =>
    let all := (arguments.has 'a' || arguments.has 't') && !arguments.has '1'
    collapsed stops all 0 0 [] true

end Dialect.Filter.Tabs
