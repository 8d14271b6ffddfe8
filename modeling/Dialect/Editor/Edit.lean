import Dialect.Editor.Encoding
import Dialect.Host.Format

/-! Formatting as edits of the document. -/
namespace Dialect.Editor

structure Edit where
  area : Area
  newText : List Char
  deriving Repr, DecidableEq

/-- One edit that replaces the whole document, or none when nothing changes. -/
def editsBetween (source formatted : List Char) (encoding : Encoding) : List Edit :=
  if source = formatted then [] else [⟨fullArea source encoding, formatted⟩]

def formatDocument (launch : Launcher) (formatter : Command) (text : List Char)
    (encoding : Encoding) : Except Failure (List Edit) :=
  (formatText launch formatter text).map (editsBetween text · encoding)

end Dialect.Editor
