import Dialect.Filter.Files

/-! Programs that print words: the parts of paths, and sequences of numbers. -/
namespace Dialect.Filter

/-- Without the slashes at the end; a path of slashes only keeps one. -/
def withoutSlashes (path : Octets) : Octets :=
  let kept := (path.reverse.dropWhile (· == '/')).reverse
  if kept.isEmpty && !path.isEmpty then ['/'] else kept

def lastName (path : Octets) : Octets :=
  let path := withoutSlashes path
  if path = ['/'] then path else (path.reverse.takeWhile (· ≠ '/')).reverse

def folderName (path : Octets) : Octets :=
  let path := withoutSlashes path
  let folder := (path.reverse.dropWhile (· ≠ '/')).reverse
  if path = ['/'] then path
  else if folder.isEmpty then ['.']
  else withoutSlashes folder

def withoutEnding (name ending : Octets) : Octets :=
  if name ≠ ending ∧ ending.reverse.isPrefixOf name.reverse then name.take (name.length - ending.length)
  else name

def basenameSwitches : List Switch := [
  ⟨'a', ["multiple"], .nothing, true⟩,
  ⟨'s', ["suffix"], .value, true⟩,
  ⟨'z', ["zero"], .nothing, true⟩]

def basename (args : List Octets) : Outcome :=
  match Arguments.read basenameSwitches args false with
  | .error misuse => misused "basename" 1 misuse
  | .ok arguments =>
    let finish : Octets := if arguments.has 'z' then ['\x00'] else ['\n']
    let hint := "Try 'basename --help' for more information.\n".toList
    let several := arguments.has 'a' || arguments.has 's'
    match arguments.operands with
    | [] => ⟨1, [], "basename: missing operand\n".toList ++ hint⟩
    | operands =>
      if several then
        prints (operands.flatMap fun path =>
          withoutEnding (lastName path) ((arguments.value? 's').getD []) ++ finish)
      else match operands with
        | [path] => prints (lastName path ++ finish)
        | [path, ending] => prints (withoutEnding (lastName path) ending ++ finish)
        | _ :: _ :: extra :: _ =>
          ⟨1, [], "basename: extra operand ".toList ++ quoted extra ++ '\n' :: hint⟩
        | [] => {}

def dirname (args : List Octets) : Outcome :=
  match Arguments.read [⟨'z', ["zero"], .nothing, true⟩] args with
  | .error misuse => misused "dirname" 1 misuse
  | .ok arguments =>
    let finish : Octets := if arguments.has 'z' then ['\x00'] else ['\n']
    if arguments.operands.isEmpty then
      ⟨1, [], "dirname: missing operand\nTry 'dirname --help' for more information.\n".toList⟩
    else prints (arguments.operands.flatMap fun path => folderName path ++ finish)

namespace Sequence

structure Decimal where
  value : Int
  places : Nat
  deriving Repr, DecidableEq

def Decimal.of? (text : Octets) : Option Decimal := do
  let body := match text with
    | '-' :: rest | '+' :: rest => rest
    | rest => rest
  let whole := body.takeWhile Char.isDigit
  let rest := body.drop whole.length
  let fraction ← match rest with
    | [] => some []
    | '.' :: fraction => if fraction.all Char.isDigit then some fraction else none
    | _ => none
  let n ← number? (whole ++ fraction)
  return ⟨if text.head? = some '-' then -(n : Int) else n, fraction.length⟩

def Decimal.scaled (number : Decimal) (places : Nat) : Int :=
  number.value * (Nat.pow 10 (places - number.places) : Nat)

def shown (places width n : Nat) (negative padded : Bool) : Octets :=
  let digits := (toString n).toList
  let digits := List.replicate (places + 1 - digits.length) '0' ++ digits
  let text :=
    if places = 0 then digits
    else digits.take (digits.length - places) ++ '.' :: digits.drop (digits.length - places)
  let sign : Octets := if negative then ['-'] else []
  let fill := if padded then List.replicate (width - text.length - sign.length) '0' else []
  sign ++ fill ++ text

def numbers (last step : Int) : Nat → Int → List Int
  | 0, _ => []
  | fuel + 1, next =>
    if (0 < step ∧ last < next) ∨ (step < 0 ∧ next < last) then []
    else next :: numbers last step fuel (next + step)

def switches : List Switch := [
  ⟨'f', ["format"], .value, true⟩,
  ⟨'s', ["separator"], .value, true⟩,
  ⟨'w', ["equal-width"], .nothing, true⟩]

/-- A negative number is no option, and with it the operands begin. -/
def protectedWords : List Octets → List Octets
  | [] => []
  | word :: rest =>
    match word with
    | ['-', 's'] | ['-', 'f'] =>
      match rest with
      | value :: rest => word :: value :: protectedWords rest
      | [] => [word]
    | '-' :: c :: _ => if c.isDigit || c == '.' then ['-', '-'] :: word :: rest else word :: protectedWords rest
    | _ => word :: rest

def run (args : List Octets) : Outcome :=
  let hint := "Try 'seq --help' for more information.\n".toList
  match Arguments.read switches (protectedWords args) false with
  | .error misuse => misused "seq" 1 misuse
  | .ok arguments =>
    let words? : Option (Octets × Octets × Octets) := match arguments.operands with
      | [last] => some (['1'], ['1'], last)
      | [first, last] => some (first, ['1'], last)
      | [first, step, last] => some (first, step, last)
      | _ => none
    match words? with
    | none =>
      match arguments.operands with
      | _ :: _ :: _ :: extra :: _ => ⟨1, [], "seq: extra operand ".toList ++ quoted extra ++ '\n' :: hint⟩
      | _ => ⟨1, [], "seq: missing operand\n".toList ++ hint⟩
    | some (firstText, stepText, lastText) =>
      match Decimal.of? firstText, Decimal.of? stepText, Decimal.of? lastText with
      | some first, some step, some last =>
        if step.value = 0 then
          ⟨1, [], "seq: invalid Zero increment value: ".toList ++ quoted stepText ++ '\n' :: hint⟩
        else
          let places := max first.places step.places
          let scale := max places last.places
          let start := first.scaled scale
          let finish := last.scaled scale
          let stride := step.scaled scale
          let count := ((finish - start).natAbs / stride.natAbs) + 1
          let factor : Int := (Nat.pow 10 (scale - places) : Nat)
          let found := (numbers finish stride count start).map (· / factor)
          let text (padded : Bool) (width : Nat) (n : Int) : Octets :=
            shown places width n.natAbs (n < 0) padded
          let width := [start / factor, finish / factor].foldl
            (fun most n => max most (text false 0 n).length) 0
          let separator := (arguments.value? 's').getD ['\n']
          let body := separator.intercalate (found.map (text (arguments.has 'w') width))
          prints (if found.isEmpty then [] else body ++ ['\n'])
      | none, _, _ =>
        ⟨1, [], "seq: invalid floating point argument: ".toList ++ quoted firstText ++ '\n' :: hint⟩
      | _, none, _ =>
        ⟨1, [], "seq: invalid floating point argument: ".toList ++ quoted stepText ++ '\n' :: hint⟩
      | _, _, none =>
        ⟨1, [], "seq: invalid floating point argument: ".toList ++ quoted lastText ++ '\n' :: hint⟩

end Sequence

end Dialect.Filter
