import Dialect.Filter.Printing

/-! The program `test`, which tells by its exit code whether a condition holds. -/
namespace Dialect.Filter.Condition

open Printing (Voice)

inductive Fault where
  | illegalNumber (text : Octets)
  | unexpected (word next : Octets) (count : Nat)
  | lacksArgument (operator : Octets)
  | openBracket
  | lacksEnd
  deriving Repr, DecidableEq

def Fault.message (voice : Voice) (fault : Fault) : Octets :=
  match voice, fault with
  | .shell, .illegalNumber text => "Illegal number: ".toList ++ text
  | .program, .illegalNumber text => "invalid integer ".toList ++ quoted text
  | .shell, .unexpected word _ _ =>
    (if word.isEmpty then [] else word ++ ": ".toList) ++ "unexpected operator".toList
  | .program, .unexpected _ next 2 => "missing argument after ".toList ++ quoted next
  | .program, .unexpected _ next 3 => quoted next ++ ": binary operator expected".toList
  | .program, .unexpected _ next _ => "extra argument ".toList ++ quoted next
  | .shell, .lacksArgument operator => operator ++ ": argument expected".toList
  | .program, .lacksArgument operator => "missing argument after ".toList ++ quoted operator
  | .shell, .openBracket => "closing paren expected".toList
  | .program, .openBracket => "')' expected".toList
  | .shell, .lacksEnd => "missing ]".toList
  | .program, .lacksEnd => "missing ']'".toList

def integer (text : Octets) : Except Fault Int :=
  let body := ((text.dropWhile Printing.isSpace).reverse.dropWhile Printing.isSpace).reverse
  let digits := match body with
    | '-' :: digits | '+' :: digits => digits
    | digits => digits
  match number? digits with
  | some n =>
    let value : Int := if body.head? = some '-' then -(n : Int) else n
    if -9223372036854775808 ≤ value ∧ value ≤ 9223372036854775807 then .ok value
    else .error (.illegalNumber text)
  | none => .error (.illegalNumber text)

def isDevice (name : Octets) : Bool :=
  ["/dev/null", "/dev/stdin", "/dev/stdout", "/dev/stderr"].any (·.toList == name)

def isFolder (name : Octets) : Bool :=
  ["/", ".", "..", "/dev", "/tmp", "/bin", "/usr", "/usr/bin", "/etc", "/root", "/home", "/var",
    "/proc"].any (·.toList == name)

def unary? (operator : Octets) : Option (Octets → Except Fault Bool) :=
  match String.ofList operator with
  | "-n" => some fun text => .ok (!text.isEmpty)
  | "-z" => some fun text => .ok text.isEmpty
  | "-e" | "-r" | "-w" => some fun name => .ok (isDevice name || isFolder name)
  | "-c" => some fun name => .ok (isDevice name)
  | "-d" | "-x" => some fun name => .ok (isFolder name)
  | "-O" | "-G" => some fun name => .ok (isDevice name || isFolder name)
  | "-f" | "-s" | "-h" | "-L" | "-p" | "-S" | "-b" | "-g" | "-k" | "-u" => some fun _ => .ok false
  | "-t" => some fun text => do
    let _ ← integer text
    return false
  | _ => none

def binary? (operator : Octets) : Option (Octets → Octets → Except Fault Bool) :=
  let numbers (holds : Int → Int → Bool) (left right : Octets) : Except Fault Bool := do
    return holds (← integer left) (← integer right)
  match String.ofList operator with
  | "=" => some fun left right => .ok (left == right)
  | "!=" => some fun left right => .ok (left != right)
  | "<" => some fun left right => .ok (String.ofList left < String.ofList right)
  | ">" => some fun left right => .ok (String.ofList right < String.ofList left)
  | "-eq" => some (numbers (· == ·))
  | "-ne" => some (numbers (· != ·))
  | "-lt" => some (numbers fun a b => a < b)
  | "-le" => some (numbers fun a b => a ≤ b)
  | "-gt" => some (numbers fun a b => b < a)
  | "-ge" => some (numbers fun a b => b ≤ a)
  | "-nt" | "-ot" | "-ef" => some fun _ _ => .ok false
  | _ => none

inductive Role where
  | missing
  | operand
  | unary
  | binary
  | negation
  | conjunction
  | disjunction
  | opening
  | closing
  deriving Repr, DecidableEq

/-- The role of a word before others. An operator that could be an operand of the next is one. -/
def role : List Octets → Role
  | [] => .missing
  | word :: rest =>
    let isOperand := match rest with
      | [] => true
      | [_] => false
      | next :: _ => (binary? next).isSome
    if (unary? word).isSome then if isOperand then .operand else .unary
    else if (binary? word).isSome then .binary
    else match String.ofList word with
      | "!" => .negation
      | "-a" => .conjunction
      | "-o" => .disjunction
      | "(" => if rest.isEmpty then .operand else .opening
      | ")" => .closing
      | _ => .operand

mutual

/-- Conditions that `-o` joins, of which the first word has a role. The result holds the words from the
last one on that was read. -/
def either : Nat → Role → List Octets → Except Fault (Bool × List Octets)
  | 0, _, words => .ok (false, words)
  | fuel + 1, first, words => do
    let (left, rest) ← both fuel first words
    if role rest.tail = .disjunction then
      let (right, rest) ← either fuel (role (rest.drop 2)) (rest.drop 2)
      return (left || right, rest)
    else return (left, rest)

def both : Nat → Role → List Octets → Except Fault (Bool × List Octets)
  | 0, _, words => .ok (false, words)
  | fuel + 1, first, words => do
    let (left, rest) ← negated fuel first words
    if role rest.tail = .conjunction then
      let (right, rest) ← both fuel (role (rest.drop 2)) (rest.drop 2)
      return (left && right, rest)
    else return (left, rest)

def negated : Nat → Role → List Octets → Except Fault (Bool × List Octets)
  | 0, _, words => .ok (false, words)
  | fuel + 1, first, words =>
    if first = .negation then do
      let next := role words.tail
      let (holds, rest) ← negated fuel next (if next = .missing then words else words.tail)
      return (!holds, rest)
    else primary fuel first words

def primary : Nat → Role → List Octets → Except Fault (Bool × List Octets)
  | 0, _, words => .ok (false, words)
  | fuel + 1, first, words =>
    match first, words with
    | .missing, words => .ok (false, words)
    | .opening, words => do
      let next := role words.tail
      if next = .closing then return (false, words.tail)
      else
        let (holds, rest) ← either fuel next words.tail
        if role rest.tail = .closing then return (holds, rest.tail) else throw .openBracket
    | .unary, word :: rest =>
      match unary? word, rest with
      | some holds, operand :: _ => return (← holds operand, rest)
      | _, _ => .error (.lacksArgument word)
    | _, word :: operator :: rest =>
      match binary? operator, rest with
      | some holds, right :: _ => return (← holds word right, rest)
      | some _, [] => .error (.lacksArgument operator)
      | none, _ => .ok (!word.isEmpty, words)
    | _, [word] => .ok (!word.isEmpty, words)
    | _, [] => .ok (false, [])

end

/-- What words say that start with a role. All of them have to be read. -/
def whole (first : Role) (words : List Octets) : Except Fault Bool := do
  let (holds, rest) ← either (8 * words.length + 8) first words
  match rest with
  | word :: next :: _ => throw (.unexpected word next words.length)
  | _ => return holds

/-- What words say. Of three words with a comparison in the middle the outer two are operands, and
three or four words may stand in brackets or after a word that inverts. -/
def verdict : List Octets → Except Fault Bool
  | [] => .ok false
  | first :: rest =>
    let words := first :: rest
    let comparison := match rest with
      | [operator, _] => (binary? operator).isSome
      | _ => false
    if comparison then whole .operand words
    else if rest.length = 2 ∨ rest.length = 3 then
      if first = ['('] ∧ rest.getLast? = some [')'] then whole (role rest.dropLast) rest.dropLast
      else if first = ['!'] then do return !(← verdict rest)
      else whole (role words) words
    else whole (role words) words

def run (voice : Voice) (name : Octets) (words : List Octets) : Outcome :=
  match verdict words with
  | .ok holds => ⟨if holds then 0 else 1, [], []⟩
  | .error fault => ⟨2, [], name ++ ": ".toList ++ fault.message voice ++ ['\n']⟩

/-- The form `[ … ]`. The shell looks only at the first character of the last word. -/
def bracketed (voice : Voice) (name : Octets) (words : List Octets) : Outcome :=
  let last := words.getLast?.getD []
  if last = [']'] ∨ (voice = .shell ∧ last.head? = some ']') then run voice name words.dropLast
  else ⟨2, [], name ++ ": ".toList ++ Fault.lacksEnd.message voice ++ ['\n']⟩

end Dialect.Filter.Condition
