import Dialect.Structure.Bracket
import Dialect.Structure.Statement

/-! The scan of a document: brackets and the shape of statements, line by line. There is no grammar
behind it, so it accepts that it is wrong at times and stays fast enough for every keystroke. -/
namespace Dialect

/-- What one line hands on to the next. -/
structure ScanState where
  nesting : Nesting := {}
  expectsValue : Bool := false
  deriving Repr, DecidableEq

namespace ScanState

/-- The findings on one line, which `rest` follows, and the state after it. Lines that start inside a
raw string, an action block or an array hold no statements. -/
def line (state : ScanState) (number : Nat) (code : CodeLine) (rest : List CodeLine) :
    List Finding × ScanState :=
  let pass := scanBrackets state.nesting number code
  let followers :=
    if code.startsRaw then []
    else gluedWords number code pass.arrayClosers ++ openEnd number code rest pass.arrayClosers
  let statement :=
    if !code.startsRaw && state.nesting.block.isNone && state.nesting.arrayDepth == 0 &&
        pass.nesting.arrayDepth == 0 then
      checkStatement number code state.expectsValue
    else []
  (pass.findings ++ followers ++ statement,
    ⟨pass.nesting, if code.isBlank then state.expectsValue else code.expectsValue⟩)

/-- The findings from line `number` on, and at the end the brackets still open. -/
def run (state : ScanState) (number : Nat) : List CodeLine → List Finding
  | [] => state.nesting.unclosed
  | code :: rest =>
    (state.line number code rest).1 ++ run (state.line number code rest).2 (number + 1) rest

end ScanState

def scan (text : List Char) : List Finding := ScanState.run {} 0 (CodeLine.ofDocument text)

end Dialect
