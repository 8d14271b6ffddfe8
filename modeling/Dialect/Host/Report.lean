import Dialect.Text.Blank
import Dialect.Text.Digit
import Dialect.Text.Line
import Dialect.Text.Search

/-! The error reports of the host parser. It writes `error: MESSAGE at TAG:LINE:COLUMN`, or the
message on one line and `at TAG:LINE:COLUMN:` on a later one, both possibly coloured. -/
namespace Dialect

/-- An error as the parser counts: lines and columns from one, of the text that it was given. -/
structure ErrorReport where
  message : List Char
  line : Nat
  column : Nat
  deriving Repr, DecidableEq

namespace ErrorReport

def colour? (here : List Char) : Option (List Char × Nat) := do
  let rest ← after? ['\x1b', '['] here
  let parameters := rest.takeWhile (fun c => isAsciiDigit c || c == ';' || c == '?')
  let letter ← rest[parameters.length]?
  if isAsciiLetter letter then some ([], parameters.length + 3) else none

def stripColours (output : List Char) : List Char := replaceFrom colour? 0 output

/-- A line and a column as they are written, each after a colon. -/
structure Written where
  line : List Char
  column : List Char
  deriving Repr, DecidableEq

def numbers? (here : List Char) : Option (Written × List Char) := do
  let rest ← after? [':'] here
  let line := rest.takeWhile isDecimal
  let rest ← after? [':'] (rest.drop line.length)
  let column := rest.takeWhile isDecimal
  if line.isEmpty || column.isEmpty then none
  return (⟨line, column⟩, rest.drop column.length)

/-- The numbers behind the longest tag for which `accept` holds of what follows them. A tag has at
least one character. -/
def location? (accept : List Char → Bool) : List Char → Option Written
  | [] => none
  | _ :: rest =>
    match location? accept rest with
    | some found => some found
    | none => ((numbers? rest).filter (fun found => accept found.2)).map (·.1)

def placeAfter? (here : List Char) : Option (List Char × List Char) := do
  let rest ← after? ['a', 't'] here
  if !rest.head?.any isBlank then none
  let run := (trimStart rest).takeWhile (fun c => !isBlank c)
  return (run, (trimStart rest).drop run.length)

/-- A location that follows a message: perhaps a comma, then blanks, `at` and the place. -/
def following? (here : List Char) : Option Written := do
  let rest := (after? [','] here).getD here
  if !rest.head?.any isBlank then none
  let (run, _) ← placeAfter? (trimStart rest)
  location? (fun _ => true) run

/-- The shortest message, of at least one character and within its line, that a location follows.
`taken` holds the characters taken so far, in reverse. -/
def shortestMessage? (taken : List Char) : List Char → Option (List Char × Written)
  | [] => none
  | c :: rest =>
    if c = '\n' then none
    else match following? rest with
      | some written => some ((c :: taken).reverse, written)
      | none => shortestMessage? (c :: taken) rest

def messageAfterBlanks? : List Char → Option (List Char × Written)
  | [] => none
  | c :: rest =>
    match if isBlank c then messageAfterBlanks? rest else none with
    | some found => some found
    | none => shortestMessage? [] (c :: rest)

def errorMark : List Char := "error:".toList

/-- The first `error:` with a message and a location right after it. -/
def inline? : List Char → Option (List Char × Written)
  | [] => none
  | c :: rest =>
    match (after? errorMark (c :: rest)).bind messageAfterBlanks? with
    | some found => some found
    | none => inline? rest

def afterMark? : List Char → Option (List Char)
  | [] => none
  | c :: rest =>
    match after? errorMark (c :: rest) with
    | some message => some message
    | none => afterMark? rest

/-- The message on a line: what follows the mark, without blanks around it. Of blanks alone the last
one is the message. -/
def lineMessage? (line : List Char) : Option (List Char) := do
  let rest ← afterMark? line
  if isBlankText rest then (rest.getLast?).map ([·]) else some (trim rest)

def read? (written : Written) : Option (Nat × Nat) := do
  return (← readDecimal? written.line, ← readDecimal? written.column)

def lineLocation? (line : List Char) : Option (Nat × Nat) := do
  let (run, rest) ← placeAfter? (trimStart line)
  if !isBlankText rest then none
  read? (← location? (fun after => after.isEmpty || after == [':']) run)

/-- The message on one line and the location on a later one. -/
def spread? : List (List Char) → Option ErrorReport
  | [] => none
  | line :: rest =>
    match lineMessage? line with
    | some message =>
      (rest.findSome? lineLocation?).map fun (line, column) => ⟨message, line, column⟩
    | none => spread? rest

def ofOutput? (output : List Char) : Option ErrorReport :=
  let clean := stripColours output
  let inline := (inline? clean).bind fun (message, written) =>
    (read? written).map fun (line, column) => (⟨trim message, line, column⟩ : ErrorReport)
  match inline with
  | some report => some report
  | none => spread? (lines clean)

end ErrorReport

end Dialect
