import Dialect.Text.Utf8

/-! Programs read and write bytes. Here a byte is written as the character with its number, so that
ASCII texts look like themselves and other texts are sequences of such characters. -/
namespace Dialect.Filter

abbrev Octets := List Char

def ofBytes (bytes : Bytes) : Octets := bytes.map fun b => Char.ofNat b.toNat

def toBytes (octets : Octets) : Bytes := octets.map fun c => c.toNat.toUInt8

def ofString (s : String) : Octets := ofBytes (Utf8.encode s.toList)

structure Outcome where
  code : Nat := 0
  out : Octets := []
  err : Octets := []
  deriving Repr, DecidableEq

/-- A failure with nothing but messages: the program has not come to read its input. -/
def Outcome.isRefusal (outcome : Outcome) : Bool :=
  outcome.code ≠ 0 && outcome.out.isEmpty && !outcome.err.isEmpty

/-- A program that has read all of its input and printed `out`. -/
def prints (out : Octets) : Outcome := ⟨0, out, []⟩

def complains (code : Nat) (message : String) : Outcome := ⟨code, [], ofString (message ++ "\n")⟩

/-- The lines of an input, each with whether a newline ends it. -/
def rows (input : Octets) : List (Octets × Bool) :=
  input.foldr
    (fun c (found : List (Octets × Bool)) =>
      if c = '\n' then ([], true) :: found
      else match found with
        | [] => [([c], false)]
        | (row, ended) :: rest => (c :: row, ended) :: rest)
    []

/-- The lines of an input without their ends, which are newlines or, with `zero`, NULs. -/
def linesOf (zero : Bool) (input : Octets) : List Octets :=
  let swapped (c : Char) : Char :=
    if !zero then c else if c = '\n' then '\x00' else if c = '\x00' then '\n' else c
  (rows (input.map swapped)).map fun row => row.1.map swapped

def unrows (found : List (Octets × Bool)) : Octets :=
  found.flatMap fun (row, ended) => if ended then row ++ ['\n'] else row

def number? (digits : Octets) : Option Nat :=
  if digits.isEmpty || !digits.all (fun c => '0' ≤ c && c ≤ '9') then none
  else some (digits.foldl (fun value c => 10 * value + (c.toNat - '0'.toNat)) 0)

def digitValue? (base : Nat) (c : Char) : Option Nat :=
  let value :=
    if '0' ≤ c ∧ c ≤ '9' then c.toNat - '0'.toNat
    else if 'a' ≤ c ∧ c ≤ 'f' then c.toNat - 'a'.toNat + 10
    else if 'A' ≤ c ∧ c ≤ 'F' then c.toNat - 'A'.toNat + 10
    else base
  if value < base then some value else none

/-- Up to `limit` digits in `base`: their value modulo one byte, and how many there are. -/
def byteNumber (base limit : Nat) (text : Octets) : Nat × Nat :=
  let digits := (text.take limit).takeWhile fun c => (digitValue? base c).isSome
  (digits.foldl (fun value c => base * value + (digitValue? base c).getD 0) 0 % 256, digits.length)

def escapeOf? : Char → Option Char
  | 'a' => some '\x07'
  | 'b' => some '\x08'
  | 'f' => some '\x0c'
  | 'n' => some '\n'
  | 'r' => some '\r'
  | 't' => some '\t'
  | 'v' => some '\x0b'
  | '\\' => some '\\'
  | _ => none

def octal (c : Char) : Octets :=
  [c.toNat / 64, c.toNat / 8 % 8, c.toNat % 8].map fun digit => Char.ofNat ('0'.toNat + digit)

def isPrintable (c : Char) : Bool := ' ' ≤ c && c ≤ '~'

def quoted (text : Octets) : Octets :=
  let shown (c : Char) : Octets := match c with
    | '\'' => ['\\', '\'']
    | '\\' => ['\\', '\\']
    | '\x07' => ['\\', 'a']
    | '\x08' => ['\\', 'b']
    | '\x0c' => ['\\', 'f']
    | '\n' => ['\\', 'n']
    | '\r' => ['\\', 'r']
    | '\t' => ['\\', 't']
    | '\x0b' => ['\\', 'v']
    | c => if isPrintable c then [c] else '\\' :: octal c
  '\'' :: text.flatMap shown ++ ['\'']

def isShellSign (c : Char) : Bool := " !\"$&()*;<=>[^\x60|?\\'".toList.contains c

/-- A text as a shell reads it back, between quotes only where it needs them. With `colon`, a colon
needs them too. -/
def shellQuoted (colon : Bool) (text : Octets) : Octets :=
  let isBare := !text.isEmpty && text.all (fun c => isPrintable c && !isShellSign c) &&
    text.head? ≠ some '#' && text.head? ≠ some '~' && text ≠ ['\x7b'] && text ≠ ['\x7d'] &&
    !(colon && text.contains ':')
  if isBare then text
  else if text.contains '\'' && !text.any (fun c => "\"$\\!\x60".toList.contains c) then
    '"' :: text ++ ['"']
  else
    '\'' :: text.flatMap (fun c => if c = '\'' then "'\\''".toList else [c]) ++ ['\'']

end Dialect.Filter
