import Dialect.Filter.Arguments
import Dialect.Filter.Pattern.Reader

/-! The filter `grep`, which selects the lines that match. -/
namespace Dialect.Filter.Search

structure Query where
  matchers : List Matcher
  wholeLine : Bool := false
  wholeWord : Bool := false
  inverted : Bool := false
  deriving Repr

/-- The end of the match at a point that a query accepts: the longest one, or a shorter one that is not
empty. -/
def Query.endOf? (query : Query) (matcher : Matcher) (before : Option Char) (rest : Octets) :
    Option Point :=
  let found := matcher.search matcher.pattern.recalls matcher.pattern ⟨before, rest, rest.length, []⟩
  let longest := found.foldl (fun (least : Nat) point => min least point.left) rest.length
  let accepted := found.filter fun point =>
    (!query.wholeLine || (before.isNone && point.left == 0)) &&
    (!query.wholeWord || (!before.any isWordChar && !point.rest.head?.any isWordChar &&
      (point.left == longest || point.left < rest.length)))
  accepted.foldl
    (fun (best : Option Point) point =>
      match best with
      | none => some point
      | some kept => if point.left < kept.left then some point else some kept)
    none

def Query.longest? (query : Query) (before : Option Char) (rest : Octets) : Option Point :=
  (query.matchers.filterMap fun matcher => query.endOf? matcher before rest).foldl
    (fun (best : Option Point) point =>
      match best with
      | none => some point
      | some kept => if point.left < kept.left then some point else some kept)
    none

/-- Whether a line has a match at a point or after it. -/
def Query.matchesFrom (query : Query) (before : Option Char) : Octets → Bool
  | [] => (query.longest? before []).isSome
  | c :: rest => (query.longest? before (c :: rest)).isSome || query.matchesFrom (some c) rest

def Query.selects (query : Query) (line : Octets) : Bool :=
  query.matchesFrom none line != query.inverted

/-- The matches in a line that are not empty, with their places. `skip` characters belong to the last
one. -/
def Query.parts (query : Query) (before : Option Char) (place skip : Nat) : Octets → List (Nat × Octets)
  | [] => []
  | c :: rest =>
    match skip with
    | skip + 1 => query.parts (some c) (place + 1) skip rest
    | 0 =>
      match query.longest? before (c :: rest) with
      | some point =>
        let length := rest.length + 1 - point.left
        if length = 0 then query.parts (some c) (place + 1) 0 rest
        else (place, (c :: rest).take length) ::
          query.parts (some c) (place + 1) (length - 1) rest
      | none => query.parts (some c) (place + 1) 0 rest

structure Line where
  text : Octets
  number : Nat
  offset : Nat
  selected : Bool
  deriving Repr

def linesFrom (query : Query) (number offset : Nat) : List Octets → List Line
  | [] => []
  | text :: rest =>
    ⟨text, number, offset, query.selects text⟩ ::
      linesFrom query (number + 1) (offset + text.length + 1) rest

def limited (limit : Nat) : List Line → List Line
  | [] => []
  | line :: rest =>
    if !line.selected then line :: limited limit rest
    else match limit with
      | 0 => { line with selected := false } :: limited 0 rest
      | limit + 1 => line :: limited limit rest

structure Display where
  fileName : Option Octets := none
  nulName : Bool := false
  numbers : Bool := false
  offsets : Bool := false
  aligned : Bool := false
  onlyParts : Bool := false
  before : Option Nat := none
  after : Option Nat := none
  delimiter : Char := '\n'
  deriving Repr

/-- What stands before a line; the sign tells selected lines from others. -/
def Display.head (display : Display) (line : Line) (offset : Nat) (sign : Char) : Octets :=
  let column (width n : Nat) : Octets :=
    let digits := (toString n).toList
    (if display.aligned then List.replicate (width - digits.length) ' ' else []) ++ digits ++ [sign]
  let head :=
    (match display.fileName with
      | some name => name ++ [if display.nulName then '\x00' else sign]
      | none => []) ++
    (if display.numbers then column 19 line.number else []) ++
    (if display.offsets then column 19 offset else [])
  if display.aligned && !head.isEmpty then head ++ ['\t'] else head

def Display.text (display : Display) (query : Query) (line : Line) : Octets :=
  if display.onlyParts then
    if line.selected && !query.inverted then
      (query.parts none 0 0 line.text).flatMap fun (place, part) =>
        display.head line (line.offset + place) ':' ++ part ++ [display.delimiter]
    else []
  else
    display.head line line.offset (if line.selected then ':' else '-') ++ line.text ++
      [display.delimiter]

/-- The lines that are shown: the selected ones and those around them. -/
def shownLines (before after : Nat) (lines : List Line) : List Line :=
  let near := lines.filter (·.selected) |>.map (·.number)
  lines.filter fun line =>
    near.any fun number => number ≤ line.number + before && line.number ≤ number + after

/-- The text of shown lines, with a mark between those that are not neighbours. -/
def Display.render (display : Display) (query : Query) (last : Option Nat) : List Line → Octets
  | [] => []
  | line :: rest =>
    let around := display.before.isSome || display.after.isSome
    let gap := around && last.any (· + 1 < line.number)
    (if gap then ['-', '-', '\n'] else []) ++ display.text query line ++
      display.render query (some line.number) rest

def switches : List Switch := [
  ⟨'E', ["extended-regexp"], .nothing, true⟩,
  ⟨'F', ["fixed-strings"], .nothing, true⟩,
  ⟨'G', ["basic-regexp"], .nothing, true⟩,
  ⟨'P', ["perl-regexp"], .nothing, true⟩,
  ⟨'e', ["regexp"], .value, true⟩,
  ⟨'f', ["file"], .value, true⟩,
  ⟨'i', ["ignore-case"], .nothing, true⟩,
  ⟨'y', [], .nothing, true⟩,
  ⟨'1', ["no-ignore-case"], .nothing, false⟩,
  ⟨'v', ["invert-match"], .nothing, true⟩,
  ⟨'w', ["word-regexp"], .nothing, true⟩,
  ⟨'x', ["line-regexp"], .nothing, true⟩,
  ⟨'c', ["count"], .nothing, true⟩,
  ⟨'l', ["files-with-matches"], .nothing, true⟩,
  ⟨'L', ["files-without-match"], .nothing, true⟩,
  ⟨'m', ["max-count"], .value, true⟩,
  ⟨'o', ["only-matching"], .nothing, true⟩,
  ⟨'q', ["quiet", "silent"], .nothing, true⟩,
  ⟨'s', ["no-messages"], .nothing, true⟩,
  ⟨'b', ["byte-offset"], .nothing, true⟩,
  ⟨'H', ["with-filename"], .nothing, true⟩,
  ⟨'h', ["no-filename"], .nothing, true⟩,
  ⟨'2', ["label"], .value, false⟩,
  ⟨'n', ["line-number"], .nothing, true⟩,
  ⟨'T', ["initial-tab"], .nothing, true⟩,
  ⟨'Z', ["null"], .nothing, true⟩,
  ⟨'A', ["after-context"], .value, true⟩,
  ⟨'B', ["before-context"], .value, true⟩,
  ⟨'C', ["context"], .value, true⟩,
  ⟨'a', ["text"], .nothing, true⟩,
  ⟨'I', [], .nothing, true⟩,
  ⟨'U', ["binary"], .nothing, true⟩,
  ⟨'z', ["null-data"], .nothing, true⟩,
  ⟨'3', ["line-buffered"], .nothing, false⟩,
  ⟨'4', ["color", "colour"], .attached, false⟩,
  ⟨'r', ["recursive"], .nothing, true⟩,
  ⟨'R', ["dereference-recursive"], .nothing, true⟩]

def usage : Octets :=
  "Usage: grep [OPTION]... PATTERNS [FILE]...\nTry 'grep --help' for more information.\n".toList

/-- A word such as `-3` asks for so many lines around each selected one. -/
def aroundWord (word : Octets) : Octets :=
  match word with
  | '-' :: digits =>
    if digits.isEmpty || !digits.all Char.isDigit then word else '-' :: 'C' :: digits
  | _ => word

def literalPattern (text : Octets) : Pattern :=
  text.foldr (fun c more => if more = .empty then .literal c else .sequence (.literal c) more) .empty

structure Readings where
  matchers : List Matcher := []
  warnings : List String := []
  faults : List PatternFault := []

def readingsOf (fixed extended ignoreCase : Bool) : List Octets → Readings
  | [] => {}
  | text :: rest =>
    let more := readingsOf fixed extended ignoreCase rest
    let reading :=
      if fixed then .ok { pattern := literalPattern text } else Pattern.ofText ⟨extended, true⟩ text
    match reading with
    | .error fault => { more with faults := fault :: more.faults }
    | .ok reading =>
      { more with
        matchers := ⟨reading.pattern, reading.groups, ignoreCase, false⟩ :: more.matchers
        warnings := reading.skipped ++ more.warnings }

def inputName : Octets := "(standard input)".toList

def searchFile (arguments : Arguments) (query : Query) (display : Display) (limit : Option Nat)
    (name : Octets) (text : Octets) : Octets × Bool :=
  let swapped (c : Char) : Char :=
    if display.delimiter = '\n' then c
    else if c = '\n' then '\x00' else if c = '\x00' then '\n' else c
  let lines := linesFrom query 1 0 ((rows (text.map swapped)).map fun row => row.1.map swapped)
  let lines := match limit with
    | some limit => limited limit lines
    | none => lines
  let count := (lines.filter (·.selected)).length
  let found := count != 0
  let lister := ((arguments.given.map (·.key)).filter fun key => key == 'l' || key == 'L').getLast?
  let nameEnd : Octets := if arguments.has 'Z' then ['\x00'] else ['\n']
  let binary := text.contains '\x00' && !arguments.has 'a' && !arguments.has 'z'
  let out : Octets :=
    if arguments.has 'q' then []
    else if lister = some 'l' then if found then name ++ nameEnd else []
    else if lister = some 'L' then if found then [] else name ++ nameEnd
    else if arguments.has 'c' then
      (match display.fileName with
        | some name => name ++ [if display.nulName then '\x00' else ':']
        | none => []) ++ (toString count).toList ++ ['\n']
    else if binary then
      if found then "grep: ".toList ++ name ++ ": binary file matches\n".toList else []
    else display.render query none (shownLines (display.before.getD 0) (display.after.getD 0) lines)
  (out, found)

/-- Searches files one after the other, of which only the standard input and empty ones exist. -/
def searchFiles (arguments : Arguments) (query : Query) (display : Display) (limit : Option Nat)
    (named : Bool) : List Octets → Octets → Outcome × Bool
  | [], _ => ({}, false)
  | file :: rest, input =>
    let isInput := file = ['-'] ∨ file = "/dev/stdin".toList
    if isInput ∨ file = "/dev/null".toList then
      let name := if file = ['-'] then (arguments.value? '2').getD inputName else file
      let display := { display with fileName := if named then some name else none }
      let (out, found) := searchFile arguments query display limit name (if isInput then input else [])
      let (more, later) := searchFiles arguments query display limit named rest (if isInput then [] else input)
      ({ more with out := out ++ more.out }, found || later)
    else
      let (more, later) := searchFiles arguments query display limit named rest input
      let complaint :=
        if arguments.has 's' then []
        else "grep: ".toList ++ file ++ ": No such file or directory\n".toList
      ({ more with code := 2, err := complaint ++ more.err }, later)

/-- The number of lines around a selected one that options ask for. -/
def around (arguments : Arguments) (key : Char) : Except Octets (Option Nat) :=
  match (arguments.value? key).or (arguments.value? 'C') with
  | none => .ok none
  | some text =>
    match number? text with
    | some n => .ok (some n)
    | none => .error text

def run (args : List Octets) (input : Octets) : Outcome :=
  match Arguments.read switches (args.map aroundWord) with
  | .error misuse => ⟨2, [], "grep: ".toList ++ misuse.message ++ '\n' :: usage⟩
  | .ok arguments =>
    let kinds := (arguments.given.map (·.key)).filter fun key => "EFGP".toList.contains key
    if kinds.any fun kind => kinds.any (· ≠ kind) then complains 2 "grep: conflicting matchers specified"
    else match around arguments 'A', around arguments 'B', arguments.value? 'm' with
      | .error text, _, _ | _, .error text, _ =>
        ⟨2, [], "grep: ".toList ++ text ++ ": invalid context length argument\n".toList⟩
      | .ok after, .ok before, most =>
        let limit? : Option (Option Nat) := match most with
          | none => some none
          | some ('-' :: digits) => (number? digits).map fun _ => none
          | some digits => (number? digits).map some
        let given := arguments.values 'e'
        let fromFile := arguments.has 'f'
        let (texts, files) :=
          if given.isEmpty && !fromFile then (arguments.operands.take 1, arguments.operands.drop 1)
          else (given, arguments.operands)
        match limit? with
        | none => complains 2 "grep: invalid max count"
        | some limit =>
          if texts.isEmpty && !fromFile then ⟨2, [], usage⟩
          else match (arguments.values 'f').find? (· ≠ "/dev/null".toList) with
            | some name =>
              ⟨2, [], "grep: ".toList ++ name ++ ": No such file or directory\n".toList⟩
            | none =>
              let readings := readingsOf (kinds.contains 'F') (kinds.contains 'E' || kinds.contains 'P')
                (arguments.has 'i' || arguments.has 'y') (texts.flatMap (·.splitOn '\n'))
              if !readings.faults.isEmpty then
                ⟨2, [], readings.faults.flatMap fun fault => s!"grep: {fault.message}\n".toList⟩
              else
                let query : Query :=
                  ⟨readings.matchers, arguments.has 'x', arguments.has 'w', arguments.has 'v'⟩
                let display : Display := {
                  nulName := arguments.has 'Z'
                  numbers := arguments.has 'n'
                  offsets := arguments.has 'b'
                  aligned := arguments.has 'T'
                  onlyParts := arguments.has 'o'
                  before := before
                  after := after
                  delimiter := if arguments.has 'z' then '\x00' else '\n' }
                let files := if files.isEmpty then [['-']] else files
                let named := !arguments.has 'h' && (arguments.has 'H' || 1 < files.length)
                let (outcome, found) := searchFiles arguments query display limit named files input
                let warned := readings.warnings.flatMap fun sign =>
                  s!"grep: warning: {sign} at start of expression\n".toList
                let code :=
                  if found && (outcome.code == 0 || arguments.has 'q') then 0
                  else if outcome.code = 0 then 1 else outcome.code
                { outcome with code := code, err := warned ++ outcome.err }

end Dialect.Filter.Search
