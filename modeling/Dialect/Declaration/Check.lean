import Dialect.Declaration.Basic

/-! Values against declared types, by their first and last characters and their digits only. -/
namespace Dialect

def isDigits (text : List Char) : Bool := !text.isEmpty && text.all isAsciiDigit

def unsigned : List Char → List Char
  | '+' :: rest => rest
  | '-' :: rest => rest
  | text => text

def isInteger (value : List Char) : Bool := isDigits (unsigned value)

/-- Digits, and after a point, if there is one, digits again. -/
def isFloat (value : List Char) : Bool :=
  let number := unsigned value
  let whole := number.takeWhile (· ≠ '.')
  match number.drop whole.length with
  | [] => isDigits number
  | _ :: fraction => isDigits whole && isDigits fraction

def unquoted (value : List Char) : List Char :=
  match value with
  | '"' :: rest => if rest.getLast? = some '"' then rest.dropLast else value
  | _ => value

namespace DeclaredType

/-- Whether `value` may be given to a declaration of this type with these options. -/
def accepts (type : DeclaredType) (options : List (List Char)) (value : List Char) : Bool :=
  match type with
  | .string => startsWith ['"'] value || startsWith rawDelimiter value
  | .int => isInteger value
  | .float => isFloat value
  | .boolean => value == "true".toList || value == "false".toList
  | .enum => options.contains (unquoted value)
  | .other _ => true

end DeclaredType

namespace Declaration

/-- What is wrong with a value that the type does not accept. -/
def problem (d : Declaration) (value : List Char) : Problem :=
  if d.type = .enum then .invalidOption (unquoted value) d.name d.options
  else .mismatch d.name d.type

/-- The finding on a declaration. A declaration without value has none. -/
def finding? (text : List Char) (d : Declaration) : Option Finding :=
  d.value.bind fun span =>
    if d.type.accepts d.options (span.slice text) then none
    else some ⟨d.problem (span.slice text), .ofSpan text span⟩

end Declaration

def checkDeclarations (text : List Char) : List Finding :=
  (findDeclarations text).filterMap (Declaration.finding? text)

end Dialect
