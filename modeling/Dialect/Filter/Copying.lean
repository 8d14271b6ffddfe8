import Dialect.Filter.Files

/-! Programs that copy their input: as it is, with marks, backwards, or to several places. -/
namespace Dialect.Filter

def inColumn (width n : Nat) : Octets :=
  let digits := (toString n).toList
  List.replicate (width - digits.length) ' ' ++ digits

/-- A byte with a visible form: control characters after `^`, bytes beyond ASCII after `M-`. -/
def visible (c : Char) : Octets :=
  let plain (n : Nat) : Octets :=
    if n < 32 then ['^', Char.ofNat (n + 64)] else if n = 127 then ['^', '?'] else [Char.ofNat n]
  if c = '\n' ∨ c = '\t' then [c]
  else if c.toNat < 128 then plain c.toNat
  else 'M' :: '-' :: plain (c.toNat - 128)

def squeezeBlank (blankBefore : Bool) : List (Octets × Bool) → List (Octets × Bool)
  | [] => []
  | (row, ended) :: rest =>
    if row.isEmpty && blankBefore then squeezeBlank true rest
    else (row, ended) :: squeezeBlank row.isEmpty rest

/-- The numbers before the lines, from `next` on; with `onlyFilled` blank lines have none. -/
def lineNumbers (onlyFilled : Bool) (next : Nat) : List (Octets × Bool) → List Octets
  | [] => []
  | (row, _) :: rest =>
    if onlyFilled && row.isEmpty then [] :: lineNumbers onlyFilled next rest
    else (inColumn 6 next ++ ['\t']) :: lineNumbers onlyFilled (next + 1) rest

def catSwitches : List Switch := [
  ⟨'A', ["show-all"], .nothing, true⟩,
  ⟨'b', ["number-nonblank"], .nothing, true⟩,
  ⟨'e', [], .nothing, true⟩,
  ⟨'E', ["show-ends"], .nothing, true⟩,
  ⟨'n', ["number"], .nothing, true⟩,
  ⟨'s', ["squeeze-blank"], .nothing, true⟩,
  ⟨'t', [], .nothing, true⟩,
  ⟨'T', ["show-tabs"], .nothing, true⟩,
  ⟨'u', [], .nothing, true⟩,
  ⟨'v', ["show-nonprinting"], .nothing, true⟩]

/-- Copies its input, perhaps with marks that show what cannot be seen. -/
def cat (args : List Octets) (input : Octets) : Outcome :=
  match Arguments.read catSwitches args with
  | .error misuse => misused "cat" 1 misuse
  | .ok arguments =>
    let has (letters : List Char) : Bool := letters.any arguments.has
    transforming "cat" (filesOf input arguments.operands) fun text =>
      let found := if has ['s'] then squeezeBlank false (rows text) else rows text
      let numbers :=
        if has ['b', 'n'] then lineNumbers (has ['b']) 1 found else found.map fun _ => []
      let ends := has ['E', 'A', 'e']
      let shown := (numbers.zip found).map fun (number, row, ended) =>
        let returned := ends && ended && row.getLast? = some '\r'
        let body := if returned then row.dropLast else row
        let body := if has ['v', 'A', 'e', 't'] then body.flatMap visible else body
        let body :=
          if has ['T', 'A', 't'] then body.flatMap fun c => if c = '\t' then ['^', 'I'] else [c] else body
        let body := if returned then body ++ ['^', 'M'] else body
        (number ++ body ++ (if ended && ends then ['$'] else []), ended)
      unrows shown

def splitAround (separator : Octets) (before : Bool) : Nat → Octets → Octets → List Octets
  | 0, current, text => [current.reverse ++ text]
  | _ + 1, current, [] => [current.reverse]
  | fuel + 1, current, c :: rest =>
    if separator.isPrefixOf (c :: rest) then
      let after := (c :: rest).drop separator.length
      if before then current.reverse :: splitAround separator before fuel separator.reverse after
      else (current.reverse ++ separator) :: splitAround separator before fuel [] after
    else splitAround separator before fuel (c :: current) rest

def tacSwitches : List Switch := [
  ⟨'b', ["before"], .nothing, true⟩,
  ⟨'r', ["regex"], .nothing, true⟩,
  ⟨'s', ["separator"], .value, true⟩]

def tac (args : List Octets) (input : Octets) : Outcome :=
  match Arguments.read tacSwitches args with
  | .error misuse => misused "tac" 1 misuse
  | .ok arguments =>
    let separator := (arguments.value? 's').getD ['\n']
    let separator := if separator.isEmpty then ['\x00'] else separator
    let found := gathered (cannotOpen "tac" "failed to open") (filesOf input arguments.operands)
    let parts := splitAround separator (arguments.has 'b') (found.out.length + 1) [] found.out
    { found with out := parts.reverse.flatten }

def rev (args : List Octets) (input : Octets) : Outcome :=
  transforming "rev" (filesOf input args) fun text =>
    unrows ((rows text).map fun (row, ended) => (row.reverse, ended))

def teeSwitches : List Switch := [
  ⟨'a', ["append"], .nothing, true⟩,
  ⟨'i', ["ignore-interrupts"], .nothing, true⟩,
  ⟨'p', ["output-error"], .attached, true⟩]

def tee (args : List Octets) (input : Octets) : Outcome :=
  match Arguments.read teeSwitches args with
  | .error misuse => misused "tee" 1 misuse
  | .ok arguments =>
    arguments.operands.foldl
      (fun outcome name => match String.ofList name with
        | "/dev/stderr" => { outcome with err := outcome.err ++ input }
        | "/dev/stdout" => { outcome with out := outcome.out ++ input }
        | _ => outcome)
      (prints input)

end Dialect.Filter
