import Dialect.Filter.StreamEdit.Basic

/-! The texts inside scripts: what stands between delimiters, escapes, and replacements. -/
namespace Dialect.Filter.StreamEdit

structure Delimited where
  text : Octets
  length : Nat
  closed : Bool
  deriving Repr, DecidableEq

def Delimited.after (more : Delimited) (text : Octets) (length : Nat) : Delimited :=
  ⟨text ++ more.text, more.length + length, more.closed⟩

/-- Where a reader of patterns stands: a delimiter inside brackets is an ordinary character. -/
inductive Place where
  | outside
  | opened
  | negated
  | inside
  /-- In a class or another symbol that ends with its sign and a bracket. -/
  | symbol (sign : Char)
  deriving Repr, DecidableEq

/-- Reads up to an unescaped delimiter on the same line. An escaped delimiter stands for itself and,
in a pattern, an escaped `n` for a newline. -/
def delimited (delimiter : Char) (pattern : Bool) : Place → Octets → Delimited
  | _, [] => ⟨[], 0, false⟩
  | .outside, ['\\'] => ⟨[], 1, false⟩
  | .outside, c :: d :: rest =>
    if c = delimiter then ⟨[], 1, true⟩
    else if c = '\n' then ⟨[], 0, false⟩
    else if c = '\\' then
      let text :=
        if d = 'n' ∧ pattern then ['\n']
        else if d = '\n' ∨ (d = delimiter ∧ (pattern ∨ d ≠ '&')) then [d]
        else ['\\', d]
      (delimited delimiter pattern .outside rest).after text 2
    else
      (delimited delimiter pattern (if c = '[' ∧ pattern then .opened else .outside)
        (d :: rest)).after [c] 1
  | .outside, [c] =>
    if c = delimiter then ⟨[], 1, true⟩ else if c = '\n' then ⟨[], 0, false⟩ else ⟨[], 1, false⟩
  | place, c :: rest =>
    let go (place : Place) := (delimited delimiter pattern place rest).after [c] 1
    if c = '\n' then ⟨[], 0, false⟩
    else match place with
      | .symbol sign => go (if c = sign ∧ rest.head? = some ']' then .opened else .symbol sign)
      | place =>
        if c = '^' ∧ place = .opened then go .negated
        else if c = ']' ∧ place = .inside then go .outside
        else if c = '[' then
          match rest with
          | sign :: more =>
            if sign = ':' ∨ sign = '.' ∨ sign = '=' then
              (delimited delimiter pattern (.symbol sign) more).after [c, sign] 2
            else go .inside
          | [] => go .inside
        else if c = '\\' then
          match rest with
          | 'n' :: more => (delimited delimiter pattern .inside more).after ['\n'] 2
          | _ => go .inside
        else go .inside

/-- The character that an escape stands for, after its backslash, and how many characters it takes. -/
def escape? : Octets → Option (Char × Nat)
  | 'a' :: _ => some ('\x07', 1)
  | 'f' :: _ => some ('\x0c', 1)
  | 'n' :: _ => some ('\n', 1)
  | 'r' :: _ => some ('\r', 1)
  | 't' :: _ => some ('\t', 1)
  | 'v' :: _ => some ('\x0b', 1)
  | 'c' :: c :: _ => some (Char.ofNat (c.toUpper.toNat ^^^ 64), 2)
  | 'd' :: rest => numbered 10 3 rest
  | 'o' :: rest => numbered 8 3 rest
  | 'x' :: rest => numbered 16 2 rest
  | _ => none
where
  numbered (base limit : Nat) (rest : Octets) : Option (Char × Nat) :=
    let (value, length) := byteNumber base limit rest
    if length = 0 then none else some (Char.ofNat value, length + 1)

def resolve : Nat → Octets → Octets
  | 0, text => text
  | _ + 1, [] => []
  | fuel + 1, '\\' :: rest =>
    match escape? rest, rest with
    | some (c, length), rest => c :: resolve fuel (rest.drop length)
    | none, [] => ['\\']
    | none, c :: rest => '\\' :: c :: resolve fuel rest
  | fuel + 1, c :: rest => c :: resolve fuel rest

def plainText : Nat → Octets → Octets
  | 0, text => text
  | _ + 1, [] => []
  | fuel + 1, '\\' :: rest =>
    match escape? rest, rest with
    | some (c, length), rest => c :: plainText fuel (rest.drop length)
    | none, [] => []
    | none, c :: rest => c :: plainText fuel rest
  | fuel + 1, c :: rest => c :: plainText fuel rest

/-- Reads a replacement. `casing` applies to the piece under construction, `saved` to those after it,
and `text` holds its characters in reverse. -/
def readPieces : Nat → Casing → Casing → Octets → Octets → List Piece
  | 0, casing, _, text, _ => [⟨text.reverse, none, casing⟩]
  | _ + 1, casing, _, text, [] => if text.isEmpty then [] else [⟨text.reverse, none, casing⟩]
  | fuel + 1, casing, saved, text, '&' :: rest =>
    ⟨text.reverse, some 0, casing⟩ :: readPieces fuel saved saved [] rest
  | fuel + 1, casing, saved, text, '\\' :: rest =>
    let piece (group : Option Nat) : Piece := ⟨text.reverse, group, casing⟩
    match escape? rest, rest with
    | some (c, length), rest => readPieces fuel casing saved (c :: text) (rest.drop length)
    | none, [] => [⟨('\\' :: text).reverse, none, casing⟩]
    | none, c :: rest =>
      let all (case : Case) : List Piece :=
        piece none :: readPieces fuel { all := case } { all := case } [] rest
      let first (case : Case) : List Piece :=
        piece none :: readPieces fuel { saved with first := case } saved [] rest
      match c with
      | 'L' => all .lower
      | 'U' => all .upper
      | 'E' => all .kept
      | 'l' => first .lower
      | 'u' => first .upper
      | c =>
        if c.isDigit then
          piece (some (c.toNat - '0'.toNat)) :: readPieces fuel saved saved [] rest
        else ⟨(c :: text).reverse, none, casing⟩ :: readPieces fuel saved saved [] rest
  | fuel + 1, casing, saved, text, c :: rest => readPieces fuel casing saved (c :: text) rest

def replacementOf (text : Octets) : List Piece := readPieces (text.length + 1) {} {} [] text

def largestGroup (replacement : List Piece) : Nat :=
  replacement.foldl (fun largest piece => max largest (piece.group.getD 0)) 0

/-- The text of a replacement. The case of a first letter waits while there is none: `pending` is
taken over by the next piece without such a case of its own. -/
def instantiate (whole : Octets) (groups : Groups) : Case → List Piece → Octets
  | _, [] => []
  | pending, piece :: rest =>
    let casing :=
      if piece.casing.first = .kept then { piece.casing with first := pending } else piece.casing
    let text := casing.apply piece.text
    let casing := if piece.text.isEmpty then casing else { casing with first := .kept }
    match piece.group with
    | none => text ++ instantiate whole groups .kept rest
    | some number =>
      let matched := if number = 0 then whole else (groups.lookup number).getD []
      let pending :=
        if matched.isEmpty ∧ piece.casing.first ≠ .kept then casing.first else .kept
      text ++ casing.apply matched ++ instantiate whole groups pending rest

end Dialect.Filter.StreamEdit
