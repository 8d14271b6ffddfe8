import Dialect.Code.Line
import Dialect.Diagnostic

/-! Brackets of the code view, matched on a stack that is carried from line to line, and the action
blocks that some of them open. -/
namespace Dialect

/-- An opening bracket that waits for its closer. -/
structure Bracket where
  char : Char
  line : Nat
  column : Nat
  deriving Repr, DecidableEq

/-- What is open at some point of a document. -/
structure Nesting where
  stack : List Bracket := []
  arrayDepth : Nat := 0
  /-- Inside an action block: how many brackets were open right after its opening brace. -/
  block : Option Nat := none
  deriving Repr, DecidableEq

namespace Nesting

/-- Whether an opening bracket starts an action block. Blocks do not nest. -/
def enters (nesting : Nesting) (opener : Char) (marked : Bool) : Bool :=
  opener == '{' && marked && nesting.block.isNone

/-- Opens a bracket; `marked` says that an action marker stands before it on its line. -/
def push (nesting : Nesting) (bracket : Bracket) (marked : Bool) : Nesting where
  stack := bracket :: nesting.stack
  arrayDepth := if bracket.char = '[' then nesting.arrayDepth + 1 else nesting.arrayDepth
  block :=
    if nesting.enters bracket.char marked then some (nesting.stack.length + 1) else nesting.block

def closes (nesting : Nesting) (closer : Char) : Bool :=
  nesting.stack.head?.any (fun bracket => closerOf bracket.char == closer)

/-- Closes the innermost bracket, whether `closer` fits it or not. -/
def pop (nesting : Nesting) (closer : Char) : Nesting where
  stack := nesting.stack.tail
  arrayDepth := if closer = ']' then nesting.arrayDepth - 1 else nesting.arrayDepth
  block := nesting.block.filter (fun depth => depth ≤ nesting.stack.tail.length)

/-- One finding per bracket that is still open, in the order of the document. -/
def unclosed (nesting : Nesting) : List Finding :=
  nesting.stack.reverse.map fun bracket =>
    ⟨.unclosed bracket.char, .onLine bracket.line bracket.column 1⟩

end Nesting

def charBefore? (chars : List Char) : Nat → Option Char
  | 0 => none
  | before + 1 => chars[before]?

/-- Whether a shorthand at a column has no identifier next to it and a brace behind it. -/
def standsAlone (chars : List Char) (column : Nat) : Bool :=
  let rest := chars.drop (column + actionShorthand.length)
  !(charBefore? chars column).any isIdentChar && !rest.head?.any isIdentChar &&
    rest.find? (fun c => !isBlank c) == some '{'

/-- The column of the first shorthand of a line. -/
def shorthandColumn? (chars : List Char) : Option Nat :=
  (List.range (chars.length + 1 - actionShorthand.length)).find? fun column =>
    (chars.drop column).take actionShorthand.length == actionShorthand && standsAlone chars column

/-- The column of the first `=` after an action keyword, or of a shorthand: from there on, the first
brace of the line opens an action block. -/
def actionMarker? (line : CodeLine) : Option Nat :=
  match line.firstColumn? with
  | none => none
  | some first =>
    match (line.wordAt? first).filter (actionKeywords.contains ·) with
    | some word =>
      let gap := (line.chars.drop (first + word.length)).takeWhile isBlank
      let column := first + word.length + gap.length
      if line.chars[column]? = some '=' then some column else none
    | none => shorthandColumn? line.chars

/-- The state of the bracket pass within one line. -/
structure BracketPass where
  nesting : Nesting
  /-- The action marker of the line, until a block has been entered. -/
  marker : Option Nat
  arrayClosers : List Nat := []
  findings : List Finding := []
  deriving Repr

namespace BracketPass

def step (line : Nat) (pass : BracketPass) (c : Char) (column : Nat) : BracketPass :=
  if isOpener c then
    let marked := pass.marker.any (· ≤ column)
    { pass with
      nesting := pass.nesting.push ⟨c, line, column⟩ marked
      marker := if pass.nesting.enters c marked then none else pass.marker }
  else if isCloser c then
    { pass with
      nesting := pass.nesting.pop c
      arrayClosers :=
        if c = '}' ∧ 0 < pass.nesting.arrayDepth then pass.arrayClosers ++ [column]
        else pass.arrayClosers
      findings :=
        if pass.nesting.closes c then pass.findings
        else pass.findings ++ [⟨.unexpectedCloser c, .onLine line column 1⟩] }
  else pass

/-- The pass over the characters from `column` on. -/
def run (line : Nat) (pass : BracketPass) (column : Nat) : List Char → BracketPass
  | [] => pass
  | c :: rest => run line (pass.step line c column) (column + 1) rest

end BracketPass

def scanBrackets (nesting : Nesting) (line : Nat) (code : CodeLine) : BracketPass :=
  BracketPass.run line ⟨nesting, actionMarker? code, [], []⟩ 0 code.chars

end Dialect
