import Dialect.Diagnostic

/-! Diagnostics as the command line shows them: a labelled stretch of the source with advice. -/
namespace Dialect.Cli

structure Report where
  message : String
  help : String
  offset : Nat
  length : Nat
  label : String
  deriving Repr, DecidableEq

def advice : Kind → String
  | .structural => "every '\x7b', '[' and '(' needs a matching close"
  | .statementShape => "attribute statements look like `name = value;`"
  | .typeMismatch => "the value must match the declared type"
  | .externalTool => "reported by the host parser"

def Report.of (source : List Char) (d : Diagnostic) : Report :=
  let start := Position.toByte source d.range.start
  let stop := max (Position.toByte source d.range.stop) start
  ⟨d.message, advice d.kind, start, stop - start,
    s!"here (line {d.range.start.line + 1}, column {d.range.start.column + 1})"⟩

end Dialect.Cli
