import Dialect.Editor.Diagnostic
import Dialect.Editor.Table

/-! The open documents. -/
namespace Dialect.Editor

/-- An open document with what the project finds in it on its own. -/
structure Document where
  text : List Char
  version : Int
  diagnostics : List Diagnostic
  deriving Repr, DecidableEq

def Document.of (text : List Char) (version : Int) (encoding : Encoding) : Document :=
  ⟨text, version, diagnose text encoding⟩

abbrev Workspace := Table Document

end Dialect.Editor
