import Dialect.Filter.Files

/-! The programs `head` and `tail`, which copy one end of their input. -/
namespace Dialect.Filter.Ends

inductive Measure where
  | lines | bytes
  deriving Repr, DecidableEq

def Measure.name : Measure → String
  | .lines => "lines"
  | .bytes => "bytes"

inductive Part where
  | first (count : Nat)
  | butLast (count : Nat)
  | last (count : Nat)
  | onward (item : Nat)
  deriving Repr, DecidableEq

def Part.of {α : Type} (part : Part) (items : List α) : List α :=
  match part with
  | .first count => items.take count
  | .butLast count => items.take (items.length - count)
  | .last count => items.drop (items.length - count)
  | .onward item => items.drop (item - 1)

def Part.ofText (part : Part) (measure : Measure) (delimiter : Char) (text : Octets) : Octets :=
  match measure with
  | .bytes => part.of text
  | .lines =>
    let exchange (c : Char) : Char :=
      if delimiter = '\n' then c
      else if c = '\n' then delimiter else if c = delimiter then '\n' else c
    (unrows (part.of (rows (text.map exchange)))).map exchange

def switches : List Switch := [
  ⟨'n', ["lines"], .value, true⟩,
  ⟨'c', ["bytes"], .value, true⟩,
  ⟨'q', ["quiet", "silent"], .nothing, true⟩,
  ⟨'v', ["verbose"], .nothing, true⟩,
  ⟨'z', ["zero-terminated"], .nothing, true⟩]

def tailSwitches : List Switch := switches ++ [
  ⟨'f', ["follow"], .attached, true⟩,
  ⟨'F', [], .nothing, true⟩,
  ⟨'s', ["sleep-interval"], .value, true⟩,
  ⟨'1', ["pid"], .value, false⟩,
  ⟨'2', ["retry"], .nothing, false⟩]

def withNames (part : Octets → Octets) (first : Bool) : List File → Octets
  | [] => []
  | file :: rest =>
    match file.text with
    | none => withNames part first rest
    | some text =>
      let name := if file.name = ['-'] then "standard input".toList else file.name
      (if first then [] else ['\n']) ++ "==> ".toList ++ name ++ " <==\n".toList ++ part text ++
        withNames part false rest

def copyParts (program : String) (arguments : Arguments) (measure : Measure) (part : Part)
    (input : Octets) : Outcome :=
  let files := filesOf input arguments.operands
  let delimiter := if arguments.has 'z' then '\x00' else '\n'
  let headed := ((arguments.given.map (·.key)).filter fun key => key == 'q' || key == 'v').getLast?
  let shown := part.ofText measure delimiter
  let found := gathered (cannotOpen program "cannot open") files
  let named := headed = some 'v' || (headed = none && 1 < files.length)
  { found with
    out := if named then withNames shown true files
      else files.flatMap fun file => (file.text.map shown).getD [] }

def badCount (program : String) (measure : Measure) (text : Octets) : Outcome :=
  ⟨1, [], s!"{program}: invalid number of {measure.name}: ".toList ++ quoted text ++ ['\n']⟩

def lastCount? (arguments : Arguments) : Option (Measure × Octets) :=
  (arguments.given.reverse.find? fun given => given.key == 'n' || given.key == 'c').map fun given =>
    (if given.key = 'c' then .bytes else .lines, given.value)

/-- Writes out a first word such as `-3`: a number, then letters for a unit and for other options. -/
def longForm : List Octets → List Octets
  | ('-' :: word) :: rest =>
    let digits := word.takeWhile Char.isDigit
    let letters := word.drop digits.length
    if digits.isEmpty then ('-' :: word) :: rest
    else
      let unit := letters.filter fun c => c == 'b' || c == 'k' || c == 'm'
      let bytes := letters.contains 'c' || !unit.isEmpty
      let others := (letters.filter fun c => c == 'q' || c == 'v' || c == 'z').map fun c => ['-', c]
      (['-', if bytes then 'c' else 'n'] ++ digits ++ unit) :: others ++ rest
  | words => words

def head (args : List Octets) (input : Octets) : Outcome :=
  match Arguments.read switches (longForm args) with
  | .error (.unknownLetter c) =>
    if c.isDigit then
      ⟨1, [], "head: invalid trailing option -- ".toList ++
        [c, '\n'] ++ "Try 'head --help' for more information.\n".toList⟩
    else misused "head" 1 (.unknownLetter c)
  | .error misuse => misused "head" 1 misuse
  | .ok arguments =>
    let (measure, text) := (lastCount? arguments).getD (.lines, ['1', '0'])
    let elided := text.head? = some '-'
    let digits := if elided then text.tail else text
    match size? digits with
    | none => badCount "head" measure digits
    | some count =>
      copyParts "head" arguments measure (if elided then .butLast count else .first count) input

def tailLongForm : List Octets → List Octets
  | (sign :: word) :: rest =>
    let digits := word.takeWhile Char.isDigit
    let letters := word.drop digits.length
    if (sign = '-' ∨ sign = '+') ∧ !digits.isEmpty ∧ letters.all (fun c => "bclf".toList.contains c) then
      let key := if letters.contains 'c' || letters.contains 'b' then 'c' else 'n'
      let count := if letters.contains 'b' then digits ++ ['b'] else digits
      (['-', key] ++ (if sign = '+' then '+' :: count else count)) :: rest
    else (sign :: word) :: rest
  | words => words

def tail (args : List Octets) (input : Octets) : Outcome :=
  match Arguments.read tailSwitches (tailLongForm args) with
  | .error misuse => misused "tail" 1 misuse
  | .ok arguments =>
    let (measure, text) := (lastCount? arguments).getD (.lines, ['1', '0'])
    let part? : Option Part := match text with
      | '+' :: digits => (size? digits).map .onward
      | '-' :: digits => (size? digits).map .last
      | digits => (size? digits).map .last
    match part? with
    | none => badCount "tail" measure text
    | some part =>
      if arguments.has 'F' && arguments.operands.all isInput then
        complains 1 "tail: cannot follow '-' by name"
      else copyParts "tail" arguments measure part input

end Dialect.Filter.Ends
