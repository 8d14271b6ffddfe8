import Dialect.Position
import Dialect.Vocabulary

/-! What the project reports about a document. A `Problem` is a cause; its wording and its kind
follow from it. A `Finding` says where a problem stands, a `Diagnostic` is what readers receive. -/
namespace Dialect

inductive Severity where
  | error | warning | information | hint
  deriving Repr, DecidableEq

/-- What part of the analysis a diagnostic comes from. -/
inductive Kind where
  | structural
  | statementShape
  | typeMismatch
  | externalTool
  deriving Repr, DecidableEq

structure Diagnostic where
  range : Range
  message : String
  severity : Severity := .error
  kind : Kind
  deriving Repr, DecidableEq

def Diagnostic.display (d : Diagnostic) : String := s!"{d.range.start.display}: {d.message}"

/-- The type that a declaration gives to its value. -/
inductive DeclaredType where
  | string | int | float | boolean | enum
  | other (name : List Char)
  deriving Repr, DecidableEq

namespace DeclaredType

def ofName (name : List Char) : DeclaredType :=
  if name = "string".toList then .string
  else if name = "int".toList ∨ name = "integer".toList then .int
  else if name = "float".toList then .float
  else if name = "boolean".toList ∨ name = "bool".toList then .boolean
  else if name = "enum".toList then .enum
  else .other name

def display : DeclaredType → String
  | .string => "string"
  | .int => "int"
  | .float => "float"
  | .boolean => "boolean"
  | .enum => "enum"
  | .other name => String.ofList name

end DeclaredType

inductive Problem where
  | unexpectedCloser (closer : Char)
  | unclosed (opener : Char)
  | wordAfterBrace (word : List Char)
  | unterminatedBrace
  | missingEquals
  | missingTerminator
  | mismatch (name : List Char) (type : DeclaredType)
  | invalidOption (value name : List Char) (options : List (List Char))
  | reported (message : List Char)
  deriving Repr, DecidableEq

namespace Problem

def kind : Problem → Kind
  | .unexpectedCloser _ | .unclosed _ => .structural
  | .wordAfterBrace _ | .unterminatedBrace | .missingEquals | .missingTerminator => .statementShape
  | .mismatch _ _ | .invalidOption _ _ _ => .typeMismatch
  | .reported _ => .externalTool

def message : Problem → String
  | .unexpectedCloser closer => s!"Unexpected closing character '{closer}'"
  | .unclosed opener => s!"Unclosed character '{opener}'"
  | .wordAfterBrace word => s!"Expected ';' after '\x7d' but found '{String.ofList word}'"
  | .unterminatedBrace => "Missing ';' after '\x7d'"
  | .missingEquals => "Missing '=' in statement"
  | .missingTerminator => "Missing ';' at end of statement"
  | .mismatch name type =>
    s!"Type mismatch: '{String.ofList name}' is declared as {type.display} " ++
      s!"but the value is not a valid {type.display}"
  | .invalidOption value name options =>
    let listed := String.intercalate ", " (options.map String.ofList)
    s!"Invalid enum value '{String.ofList value}' for '{String.ofList name}'. " ++
      s!"Valid options: {listed}"
  | .reported message => String.ofList message

end Problem

structure Finding where
  problem : Problem
  range : Range
  deriving Repr, DecidableEq

/-- Every finding of the project is an error. -/
def Finding.diagnostic (f : Finding) : Diagnostic :=
  ⟨f.range, f.problem.message, .error, f.problem.kind⟩

end Dialect
