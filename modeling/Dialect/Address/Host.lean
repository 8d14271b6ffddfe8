import Dialect.Address.Escape
import Dialect.Address.Name

/-! The hosts of addresses: names, numbers of four bytes and numbers of eight groups. -/
namespace Dialect.Address

/-- The value of digits of a base up to sixteen; none if there is another character. -/
def number? (base : Nat) (digits : List Char) : Option Nat :=
  digits.foldl (fun value c => do
    let digit ← hexValue? c
    if digit < base then some (base * (← value) + digit) else none) (some 0)

namespace Quad

/-- Reads one number of a dotted address: after `0x` in base sixteen, after a further `0` in base
eight. -/
def part? : List Char → Option Nat
  | [] => none
  | '0' :: 'x' :: digits => number? 16 digits
  | '0' :: 'X' :: digits => number? 16 digits
  | '0' :: c :: digits => number? 8 (c :: digits)
  | digits => number? 10 digits

/-- The numbers of a dotted address; a final dot does not count. -/
def parts (name : List Char) : List (List Char) :=
  let pieces := piecesBetween '.' name
  if pieces.getLast? = some [] ∧ 1 < pieces.length then pieces.dropLast else pieces

/-- A name whose last part is a number has to be a dotted address. -/
def isMeant (name : List Char) : Bool :=
  match (parts name).getLast? with
  | some last => (!last.isEmpty && last.all isAsciiDigit) || (part? last).isSome
  | none => false

/-- The four bytes as one number. All numbers but the last are one byte, the last fills the rest. -/
def value? (name : List Char) : Option Nat := do
  let numbers ← (parts name).mapM part?
  let last ← numbers.getLast?
  let leading := numbers.dropLast
  guard (numbers.length ≤ 4 ∧ leading.all (· < 256) ∧ last < Nat.pow 256 (4 - leading.length))
  return leading.foldl (fun value n => 256 * value + n) 0 * Nat.pow 256 (4 - leading.length) + last

def render (value : Nat) : List Char :=
  (String.intercalate "." ([value / 0x1000000, value / 0x10000 % 0x100, value / 0x100 % 0x100,
    value % 0x100].map toString)).toList

end Quad

namespace Groups

def group? (digits : List Char) : Option Nat :=
  if digits.isEmpty || 4 < digits.length then none else number? 16 digits

def byte? (digits : List Char) : Option Nat :=
  if digits.isEmpty || 3 < digits.length || (1 < digits.length && digits.head? == some '0') then none
  else (number? 10 digits).filter (· < 256)

def tail? (piece : List Char) : Option (List Nat) :=
  match piecesBetween '.' piece with
  | [_] => (group? piece).map ([·])
  | [a, b, c, d] => do
    return [256 * (← byte? a) + (← byte? b), 256 * (← byte? c) + (← byte? d)]
  | _ => none

/-- The groups of a run; `final` says that the address ends with it. -/
def run? (final : Bool) (text : List Char) : Option (List Nat) :=
  if text.isEmpty then some []
  else
    let pieces := piecesBetween ':' text
    match pieces.getLast? with
    | none => none
    | some last => do
      let leading ← pieces.dropLast.mapM group?
      let rest ← if final then tail? last else (group? last).map ([·])
      return leading ++ rest

def gap? : List Char → Option (List Char × List Char)
  | ':' :: ':' :: rest => some ([], rest)
  | c :: rest => (gap? rest).map fun (before, after) => (c :: before, after)
  | [] => none

def read? (text : List Char) : Option (List Nat) :=
  match gap? text with
  | none => (run? true text).filter (·.length = 8)
  | some (before, after) => do
    let first ← run? false before
    let last ← run? true after
    guard (first.length + last.length < 8)
    return first ++ List.replicate (8 - first.length - last.length) 0 ++ last

def zeros (groups : List Nat) : Nat := (groups.takeWhile (· = 0)).length

/-- Where the longest run of zeros starts, the first one of equals. -/
def longest (groups : List Nat) : Nat :=
  (List.range groups.length).foldl
    (fun best i => if zeros (groups.drop best) < zeros (groups.drop i) then i else best) 0

def join (groups : List Nat) : List Char :=
  (String.intercalate ":" (groups.map fun n => String.ofList (Nat.toDigits 16 n))).toList

def render (groups : List Nat) : List Char :=
  let start := longest groups
  let length := zeros (groups.drop start)
  let shown := if length < 2 then join groups
    else join (groups.take start) ++ [':', ':'] ++ join (groups.drop (start + length))
  '[' :: shown ++ [']']

end Groups

def bracketed? (host : List Char) : Option (List Char) :=
  match host.getLast? with
  | some ']' => (Groups.read? host.dropLast.tail).map Groups.render
  | _ => none

def isForbidden (c : Char) : Bool :=
  [' ', '#', '/', ':', '<', '>', '?', '@', '[', '\\', ']', '^', '|'].contains c

/-- The host of an address whose scheme is known, in its normal form: escapes undone, plain characters,
ASCII only. -/
def knownHost? (host : List Char) : Option (List Char) :=
  match host with
  | '[' :: _ => bracketed? host
  | _ =>
    match Utf8.decode (unescape host) with
    | .error _ => none
    | .ok decoded => do
      let name ← Name.ascii? decoded
      if name.isEmpty || name.any (fun c => isControl c || isForbidden c || c == '%') then none
      else if Quad.isMeant name then (Quad.value? name).map Quad.render
      else some name

def otherHost? (host : List Char) : Option (List Char) :=
  match host with
  | '[' :: _ => bracketed? host
  | _ => if host.any (fun c => c.toNat == 0 || isForbidden c) then none else some (escape .plain host)

end Dialect.Address
