import Dialect.Diagnostic
import Dialect.Host.Report
import Dialect.Host.Tool
import Dialect.Mask.Basic

/-! Checking a document with the host parser. -/
namespace Dialect

/-- The error that the parser reports, at its place in the document. There is none when the parser
accepts the document or its output is not understood. -/
def checkHost (launch : Launcher) (parser : Command) (text : List Char) :
    Except Failure (Option Finding) := do
  let masked := mask .check text
  let output ← Tool.run launch .parser parser masked.text
  if output.success then return none
  return (ErrorReport.ofOutput? output.stderr).map fun report =>
    let place := masked.sourcePosition report.line report.column (lineCount text)
    ⟨.reported report.message, .onLine place.line place.column 1⟩

def hostFinding? (launch : Launcher) (parser : Command) (text : List Char) : Option Finding :=
  match checkHost launch parser text with
  | .ok found => found
  | .error _ => none

end Dialect
