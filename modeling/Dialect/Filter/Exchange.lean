import Dialect.Filter.Arguments
import Dialect.Filter.Exchange.Listing

/-! The filter `tr`, which exchanges, deletes or squeezes single bytes. -/
namespace Dialect.Filter.Exchange

/-- Keeps one of each run of a member of `members`; `last` is the byte before. -/
def squeeze (members : Octets) (last : Option Char) : Octets → Octets
  | [] => []
  | c :: rest =>
    if last = some c ∧ members.contains c then squeeze members last rest
    else c :: squeeze members (some c) rest

/-- The byte that stands for `c`. A second list that is too short goes on with its last member; of a
member that is listed twice the last place counts. -/
def imageOf (first second : Octets) (c : Char) : Char :=
  match first.reverse.findIdx? (· == c) with
  | none => c
  | some fromEnd =>
    let index := first.length - 1 - fromEnd
    (second[index]?).getD ((second.getLast?).getD c)

structure Options where
  delete : Bool := false
  squeeze : Bool := false
  complement : Bool := false
  truncate : Bool := false
  deriving Repr, DecidableEq

def switches : List Switch := [
  ⟨'c', ["complement"], .nothing, true⟩,
  ⟨'C', [], .nothing, true⟩,
  ⟨'A', [], .nothing, true⟩,
  ⟨'d', ["delete"], .nothing, true⟩,
  ⟨'s', ["squeeze-repeats"], .nothing, true⟩,
  ⟨'t', ["truncate-set1"], .nothing, true⟩]

structure Sets where
  first : Octets
  second : Option Octets
  deriving Repr, DecidableEq

/-- What is wrong with two lists when one is exchanged for the other. -/
def exchangeFault? (options : Options) (first second : List Element) (firstSize : Nat)
    (targets : Octets) : Option Fault :=
  let secondSize := targets.length
  let hasClass := first.any fun element => element.className?.isSome
  if second.any (·.isEqual) then some .equalInSecond
  else if second.any fun element => element.className?.isSome && !element.isCase then some .classInSecond
  else if !options.complement &&
      !(caseStarts 0 second).all fun place =>
        firstSize < place || (caseStarts 0 first).contains place then
    some .misaligned
  else if secondSize < firstSize && !options.truncate && secondSize = 0 then some .emptySecond
  else if secondSize < firstSize && !options.truncate &&
      second.getLast?.any fun element => element.className?.isSome then
    some .classAtEnd
  else
    let uniform := targets.all fun c => some c == targets.head?
    let covers := secondSize == firstSize || (secondSize < firstSize && !options.truncate)
    if options.complement && hasClass && !(uniform && covers) then some .complementedClass else none

def setsOf (options : Options) (firstText : Octets) (secondText : Option Octets) : Except Fault Sets := do
  let first ← elementsOf firstText
  let second ← match secondText with
    | some text => (elementsOf text).map some
    | none => .ok none
  let listed := first.flatMap (·.members 0)
  let members :=
    if options.complement then (range '\x00' '\u00ff').filter fun c => !listed.contains c else listed
  if first.any (·.isUnbounded) then throw .repeatInFirst
  match second with
  | none => return ⟨members, none⟩
  | some elements =>
    let size := (elements.flatMap (·.members 0)).length
    let fill := members.length - size
    let targets := elements.flatMap (·.members fill)
    if 1 < (elements.filter (·.isUnbounded)).length then throw .repeatsInSecond
    if options.delete then
      if elements.any (·.isUnbounded) then throw .repeatWithoutTarget
      return ⟨members, some targets⟩
    match exchangeFault? options first elements members.length targets with
    | some fault => throw fault
    | none =>
      return ⟨if options.truncate then members.take targets.length else members, some targets⟩

def hint : Octets := "Try 'tr --help' for more information.\n".toList

def countFault? (options : Options) : List Octets → Option Octets
  | [] => some ("missing operand\n".toList ++ hint)
  | [first] =>
    if options.delete == options.squeeze then
      some ("missing operand after ".toList ++ quoted first ++
        (if options.squeeze then "\nTwo strings must be given when both deleting and squeezing repeats.\n"
          else "\nTwo strings must be given when translating.\n").toList ++ hint)
    else none
  | [_, second] =>
    if options.delete && !options.squeeze then
      some ("extra operand ".toList ++ quoted second ++
        "\nOnly one string may be given when deleting without squeezing repeats.\n".toList ++ hint)
    else none
  | _ :: second :: third :: _ =>
    let extra := if options.delete && !options.squeeze then second else third
    some ("extra operand ".toList ++ quoted extra ++ '\n' :: hint)

/-- The warnings about the lists; the second is looked at only if the first can be read. -/
def warnings : List Octets → Octets
  | [] => []
  | first :: rest =>
    warningsOf first ++
      match elementsOf first with
      | .ok _ => rest.flatMap warningsOf
      | .error _ => []

def run (args : List Octets) (input : Octets) : Outcome :=
  match Arguments.read switches args false with
  | .error misuse => misused "tr" 1 misuse
  | .ok arguments =>
    let options : Options :=
      ⟨arguments.has 'd', arguments.has 's', arguments.has 'c' || arguments.has 'C', arguments.has 't'⟩
    let operands := arguments.operands
    match countFault? options operands with
    | some message => ⟨1, [], "tr: ".toList ++ message⟩
    | none =>
      let warned := warnings operands
      match setsOf options (operands.head?.getD []) operands.tail.head? with
      | .error fault => ⟨1, [], warned ++ "tr: ".toList ++ fault.message ++ ['\n']⟩
      | .ok sets =>
        let kept := if options.delete then input.filter fun c => !sets.first.contains c else input
        let changed := match sets.second with
          | some targets => if options.delete then kept else kept.map (imageOf sets.first targets)
          | none => kept
        let out := if options.squeeze then squeeze (sets.second.getD sets.first) none changed else changed
        ⟨0, out, warned⟩

end Dialect.Filter.Exchange
