import Dialect.Filter.Printing.Number

/-! Integer expressions in scripts. Numbers have 64 bits, and variables may be read and set. -/
namespace Dialect.Shell.Arithmetic

open Dialect.Filter (Octets)

inductive Fault where
  | expected (what : String)
  | zeroDivision
  | illegal (value : Octets)
  deriving Repr, DecidableEq

def Fault.message (fault : Fault) (expression : Octets) : Octets :=
  let about (what : String) : Octets :=
    "arithmetic expression: ".toList ++ what.toList ++ ": \"".toList ++ expression ++ ['"']
  match fault with
  | .expected what => about s!"expecting {what}"
  | .zeroDivision => about "division by zero"
  | .illegal value => "Illegal number: ".toList ++ value

inductive Token where
  | number (value : Int)
  | name (text : Octets)
  | sign (text : String)
  | unknown
  deriving Repr, DecidableEq

def signs : List String :=
  ["<<=", ">>=", "||", "&&", "<=", ">=", "==", "!=", "<<", ">>", "*=", "/=", "%=", "+=", "-=", "&=", "^=",
    "|=", "=", "<", ">", "|", "^", "&", "+", "-", "*", "/", "%", "!", "~", "(", ")", "?", ":"]

def wrap (value : Int) : Int := value.bmod (Nat.pow 2 64)

/-- The tokens of an expression. After one that is unknown nothing is read. -/
def tokens : Nat → Octets → List Token
  | 0, _ => []
  | _ + 1, [] => []
  | fuel + 1, c :: rest =>
    if Dialect.Filter.Printing.isSpace c then tokens fuel rest
    else if c.isDigit then
      let reading := Dialect.Filter.Printing.readMagnitude (c :: rest)
      .number (min reading.value (Nat.pow 2 63 - 1)) :: tokens fuel reading.rest
    else if c.isAlpha || c == '_' then
      let name := c :: rest.takeWhile fun c => c.isAlphanum || c == '_'
      .name name :: tokens fuel ((c :: rest).drop name.length)
    else match signs.find? fun sign => sign.toList.isPrefixOf (c :: rest) with
      | some sign => .sign sign :: tokens fuel ((c :: rest).drop sign.length)
      | none => [.unknown]

abbrev Variables := List (Octets × Octets)

structure State where
  rest : List Token
  bindings : Variables

abbrev Evaluation := StateT State (Except Fault)

def Variables.number (bindings : Variables) (name : Octets) : Except Fault Int :=
  match bindings.find? (·.1 == name) with
  | none => .ok 0
  | some (_, text) =>
    let reading := Dialect.Filter.Printing.readSigned text
    let rest := reading.rest.dropWhile Dialect.Filter.Printing.isSpace
    if rest.isEmpty && reading.inRange then .ok reading.value else .error (.illegal text)

def Variables.put (bindings : Variables) (name value : Octets) : Variables :=
  (name, value) :: bindings.filter (·.1 != name)

def strength? : String → Option Nat
  | "||" => some 1
  | "&&" => some 2
  | "|" => some 3
  | "^" => some 4
  | "&" => some 5
  | "==" | "!=" => some 6
  | "<" | ">" | "<=" | ">=" => some 7
  | "<<" | ">>" => some 8
  | "+" | "-" => some 9
  | "*" | "/" | "%" => some 10
  | _ => none

def truth (holds : Bool) : Int := if holds then 1 else 0

def bits (value : Int) : Nat := (value % (Nat.pow 2 64 : Nat)).toNat

def apply (sign : String) (a b : Int) : Except Fault Int :=
  let onBits (operation : Nat → Nat → Nat) : Except Fault Int := .ok (wrap (operation (bits a) (bits b)))
  match sign with
  | "||" => .ok (truth (a ≠ 0 || b ≠ 0))
  | "&&" => .ok (truth (a ≠ 0 && b ≠ 0))
  | "|" => onBits (· ||| ·)
  | "^" => onBits (· ^^^ ·)
  | "&" => onBits (· &&& ·)
  | "==" => .ok (truth (a == b))
  | "!=" => .ok (truth (a != b))
  | "<" => .ok (truth (a < b))
  | ">" => .ok (truth (b < a))
  | "<=" => .ok (truth (a ≤ b))
  | ">=" => .ok (truth (b ≤ a))
  | "<<" => .ok (wrap (a * (Nat.pow 2 (bits b % 64) : Nat)))
  | ">>" => .ok (Int.fdiv a (Nat.pow 2 (bits b % 64) : Nat))
  | "+" => .ok (wrap (a + b))
  | "-" => .ok (wrap (a - b))
  | "*" => .ok (wrap (a * b))
  | "/" => if b = 0 then .error .zeroDivision else .ok (wrap (Int.tdiv a b))
  | "%" => if b = 0 then .error .zeroDivision else .ok (Int.tmod a b)
  | _ => .ok b

def assigned? : String → Option String
  | "=" => some "="
  | "*=" => some "*"
  | "/=" => some "/"
  | "%=" => some "%"
  | "+=" => some "+"
  | "-=" => some "-"
  | "<<=" => some "<<"
  | ">>=" => some ">>"
  | "&=" => some "&"
  | "^=" => some "^"
  | "|=" => some "|"
  | _ => none

def next? : Evaluation (Option Token) := return (← get).rest.head?

def advance : Evaluation Unit := modify fun state => { state with rest := state.rest.tail }

def expect (text : String) : Evaluation Unit := do
  if (← next?) = some (.sign text) then advance
  else throw (.expected s!"'{text}'")

mutual

def assignment : Nat → Bool → Evaluation Int
  | 0, _ => throw (.expected "primary")
  | fuel + 1, live => do
    match (← get).rest with
    | .name name :: .sign sign :: rest =>
      match assigned? sign with
      | none => conditional fuel live
      | some operation =>
        modify fun state => { state with rest := rest }
        let right ← assignment fuel live
        if live then
          let left ← if operation = "=" then pure 0 else (← get).bindings.number name
          let value ← apply operation left right
          modify fun state => { state with
            bindings := state.bindings.put name (toString value).toList }
          return value
        else return right
    | _ => conditional fuel live

def conditional : Nat → Bool → Evaluation Int
  | 0, _ => throw (.expected "primary")
  | fuel + 1, live => do
    let condition ← operand fuel live
    let value ← operations fuel live 1 condition
    if (← next?) = some (.sign "?") then
      advance
      let yes ← assignment fuel (live && value ≠ 0)
      expect ":"
      let no ← conditional fuel (live && value = 0)
      return if value ≠ 0 then yes else no
    else return value

def operations : Nat → Bool → Nat → Int → Evaluation Int
  | 0, _, _, _ => throw (.expected "primary")
  | fuel + 1, live, least, left => do
    match ← next? with
    | some (.sign sign) =>
      match strength? sign with
      | none => return left
      | some strength =>
        if strength < least then return left
        else
          advance
          let needed := match sign with
            | "||" => left = 0
            | "&&" => left ≠ 0
            | _ => true
          let right ← operand fuel (live && needed)
          let right ← operations fuel (live && needed) (strength + 1) right
          let value ← if live && needed then apply sign left right else pure (truth (sign = "||"))
          operations fuel live least value
    | _ => return left

/-- A number, a variable, a sign before an operand, or an expression between brackets. -/
def operand : Nat → Bool → Evaluation Int
  | 0, _ => throw (.expected "primary")
  | fuel + 1, live => do
    match ← next? with
    | some (.number value) =>
      advance
      return value
    | some (.name name) =>
      advance
      if live then (← get).bindings.number name else return 0
    | some (.sign "(") =>
      advance
      let value ← assignment fuel live
      expect ")"
      return value
    | some (.sign "-") =>
      advance
      return wrap (-(← operand fuel live))
    | some (.sign "+") =>
      advance
      operand fuel live
    | some (.sign "!") =>
      advance
      return truth ((← operand fuel live) == 0)
    | some (.sign "~") =>
      advance
      return -(← operand fuel live) - 1
    | _ => throw (.expected "primary")

end

def evaluate (bindings : Variables) (expression : Octets) : Except Fault (Int × Variables) := do
  let found := tokens (expression.length + 1) expression
  let (value, state) ← assignment (4 * found.length + 8) true ⟨found, bindings⟩
  if state.rest.isEmpty then return (value, state.bindings) else throw (.expected "EOF")

end Dialect.Shell.Arithmetic
