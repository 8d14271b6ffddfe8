import Dialect.Host.Tool
import Dialect.Mask.Restore

/-! Formatting a document through the host formatter. -/
namespace Dialect

/-- Masks the document, formats it, and puts the dialect back. A blank document stays as it is, and
no tool is run for it. -/
def formatText (launch : Launcher) (formatter : Command) (text : List Char) :
    Except Failure (List Char) :=
  if isBlankText text then .ok text
  else do
    let masked := mask .format text
    let output ← Tool.run launch .formatter formatter masked.text
    return masked.restore (← output.result .formatter)

end Dialect
