import Dialect.Analysis
import Dialect.Editor.Encoding

/-! Diagnostics as editors show them. -/
namespace Dialect.Editor

structure Diagnostic where
  area : Area
  severity : Nat
  code : String
  message : String
  deriving Repr, DecidableEq

def source : String := "znix"

def severityLevel : Severity → Nat
  | .error => 1
  | .warning => 2
  | .information => 3
  | .hint => 4

def kindCode : Kind → String
  | .structural => "structural"
  | .statementShape => "statement-shape"
  | .typeMismatch => "type-mismatch"
  | .externalTool => "syntax"

def Diagnostic.of (text : List Char) (encoding : Encoding) (d : Dialect.Diagnostic) : Diagnostic :=
  ⟨Editor.area text encoding d.range, severityLevel d.severity, kindCode d.kind, d.message⟩

def diagnose (text : List Char) (encoding : Encoding) : List Diagnostic :=
  (analyze text).map fun f => .of text encoding f.diagnostic

end Dialect.Editor
