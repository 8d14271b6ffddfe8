import Dialect.Text.Digit

/-! Structured values, as clients send them. -/
namespace Dialect

inductive Value where
  | null
  | bool (b : Bool)
  | integer (n : Int)
  | fraction
  | string (s : String)
  | list (items : List Value)
  | object (fields : List (String × Value))
  deriving Inhabited

namespace Value

def string? : Value → Option String
  | .string s => some s
  | _ => none

def strings? : Value → Option (List String)
  | .list items => items.mapM string?
  | _ => none

def delay? : Value → Option Nat
  | .integer n => if 0 ≤ n ∧ n.toNat ≤ wordMax then some n.toNat else none
  | _ => none

/-- Reads a field with `read`; a field that is missing takes its default, a field of the wrong shape
is an error. -/
def read? {α : Type} (read : Value → Option α) (default : α) : Option Value → Option α
  | none => some default
  | some value => read value

end Value

end Dialect
