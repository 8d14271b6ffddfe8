import Dialect.Filter.Pattern.Basic

/-! Bracket expressions, which list the characters that may stand in one place. -/
namespace Dialect.Filter

inductive PatternFault where
  | badPattern
  | badRepeat
  | badBounds
  | openBounds
  | tooBig
  | openGroup
  | closeGroup
  | openBracket
  | badClass
  | badRange
  | badCollation
  | badBack
  | trailingBackslash
  | bareClass
  deriving Repr, DecidableEq

def PatternFault.message : PatternFault → String
  | .badPattern => "Invalid regular expression"
  | .badRepeat => "Invalid preceding regular expression"
  | .badBounds => "Invalid content of \\\x7b\\\x7d"
  | .openBounds => "Unmatched \\\x7b"
  | .tooBig => "Regular expression too big"
  | .openGroup => "Unmatched ( or \\("
  | .closeGroup => "Unmatched ) or \\)"
  | .openBracket => "Unmatched [, [^, [:, [., or [="
  | .badClass => "Invalid character class name"
  | .badRange => "Invalid range end"
  | .badCollation => "Invalid collation character"
  | .badBack => "Invalid back reference"
  | .trailingBackslash => "Trailing backslash"
  | .bareClass => "character class syntax is [[:space:]], not [:space:]"

def spaceRanges : Ranges := [('\t', '\r'), (' ', ' ')]

def wordRanges : Ranges := [('0', '9'), ('A', 'Z'), ('_', '_'), ('a', 'z')]

def classRanges? (name : Octets) : Option Ranges :=
  match String.ofList name with
  | "alpha" => some [('A', 'Z'), ('a', 'z')]
  | "digit" => some [('0', '9')]
  | "alnum" => some [('0', '9'), ('A', 'Z'), ('a', 'z')]
  | "upper" => some [('A', 'Z')]
  | "lower" => some [('a', 'z')]
  | "space" => some spaceRanges
  | "blank" => some [('\t', '\t'), (' ', ' ')]
  | "punct" => some [('!', '/'), (':', '@'), ('[', '\x60'), ('\x7b', '~')]
  | "print" => some [(' ', '~')]
  | "graph" => some [('!', '~')]
  | "cntrl" => some [('\x00', '\x1f'), ('\x7f', '\x7f')]
  | "xdigit" => some [('0', '9'), ('A', 'F'), ('a', 'f')]
  | _ => none

inductive Member where
  | single (c : Char)
  | several (ranges : Ranges)
  deriving Repr, DecidableEq

/-- The name up to `kind` and a closing bracket, and what follows. -/
def symbolName? (kind : Char) : Octets → Option (Octets × Octets)
  | [] => none
  | c :: rest =>
    if c = kind ∧ rest.head? = some ']' then some ([], rest.tail)
    else (symbolName? kind rest).map fun (name, rest) => (c :: name, rest)

/-- Reads one member. A hyphen that is neither first nor last can only be part of a range. -/
def readMember (hyphen : Bool) : Octets → Except PatternFault (Member × Octets)
  | [] => .error .openBracket
  | '[' :: ':' :: rest =>
    match symbolName? ':' rest with
    | none => .error .openBracket
    | some (name, rest) =>
      match classRanges? name with
      | some ranges => .ok (.several ranges, rest)
      | none => .error .badClass
  | '[' :: '.' :: rest =>
    match symbolName? '.' rest with
    | none => .error .openBracket
    | some ([c], rest) => .ok (.single c, rest)
    | some _ => .error .badCollation
  | '[' :: '=' :: rest =>
    match symbolName? '=' rest with
    | none => .error .openBracket
    | some ([c], rest) => .ok (.several [(c, c)], rest)
    | some _ => .error .badCollation
  | c :: rest =>
    if c = '-' ∧ hyphen = false ∧ rest.head? ≠ some ']' then .error .badRange
    else .ok (.single c, rest)

def readMembers : Nat → Bool → Octets → Except PatternFault (Ranges × Octets)
  | 0, _, _ => .error .openBracket
  | fuel + 1, first, text => do
    let (member, rest) ← readMember first text
    let (ranges, rest) ← match member, rest with
      | .several ranges, rest => .ok (ranges, rest)
      | .single _, [] | .single _, ['-'] => .error .openBracket
      | .single low, '-' :: c :: more =>
        if c = ']' then .ok ([(low, low)], '-' :: c :: more)
        else do
          let (finish, more) ← readMember true (c :: more)
          match finish with
          | .single high => if low ≤ high then .ok ([(low, high)], more) else .error .badRange
          | .several _ => .error .badRange
      | .single c, rest => .ok ([(c, c)], rest)
    match rest with
    | [] => .error .openBracket
    | ']' :: rest => return (ranges, rest)
    | rest =>
      let (more, rest) ← readMembers fuel false rest
      return (ranges ++ more, rest)

def isBareClass (text : Octets) : Bool :=
  let inner := text.takeWhile (· ≠ ']')
  inner.head? = some ':' && inner.getLast? = some ':' && inner.any (· ≠ ':') &&
    !inner.contains '-' && !inner.contains '['

structure Bracket where
  negated : Bool
  ranges : Ranges
  bareClass : Bool
  deriving Repr, DecidableEq

def readBracket (text : Octets) : Except PatternFault (Bracket × Octets) := do
  let negated := text.head? = some '^'
  let text := if negated then text.tail else text
  if text.isEmpty then throw .badPattern
  let (ranges, rest) ← readMembers text.length true text
  return (⟨negated, ranges, isBareClass text⟩, rest)

end Dialect.Filter
