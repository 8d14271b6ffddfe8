import Dialect.Filter.Files

/-! Programs that write bytes as text: `base64` and `od`. -/
namespace Dialect.Filter

namespace Base64

def alphabet : Octets :=
  "ABCDEFGHIJKLMNOPQRSTUVWXYZabcdefghijklmnopqrstuvwxyz0123456789+/".toList

def digit (n : Nat) : Char := (alphabet[n % 64]?).getD 'A'

def encode : Octets → Octets
  | a :: b :: c :: rest =>
    let n := a.toNat * 65536 + b.toNat * 256 + c.toNat
    digit (n / 262144) :: digit (n / 4096) :: digit (n / 64) :: digit n :: encode rest
  | [a, b] =>
    let n := a.toNat * 65536 + b.toNat * 256
    [digit (n / 262144), digit (n / 4096), digit (n / 64), '=']
  | [a] =>
    let n := a.toNat * 65536
    [digit (n / 262144), digit (n / 4096), '=', '=']
  | [] => []

def decode : Octets → Octets × Bool
  | [] => ([], true)
  | a :: b :: c :: d :: rest =>
    let value (c : Char) : Option Nat := alphabet.findIdx? (· == c)
    match value a, value b, value c, value d with
    | some p, some q, some r, some s =>
      let n := p * 262144 + q * 4096 + r * 64 + s
      let (bytes, fine) := decode rest
      (Char.ofNat (n / 65536) :: Char.ofNat (n / 256 % 256) :: Char.ofNat (n % 256) :: bytes, fine)
    | some p, some q, some r, none =>
      let n := p * 262144 + q * 4096 + r * 64
      ([Char.ofNat (n / 65536), Char.ofNat (n / 256 % 256)], d == '=' && rest.isEmpty)
    | some p, some q, none, _ =>
      ([Char.ofNat (p * 4 + q / 16)], c == '=' && d == '=' && rest.isEmpty)
    | _, _, _, _ => ([], false)
  | _ => ([], false)

def wrapped (width : Nat) : Nat → Octets → Octets
  | 0, _ => []
  | _ + 1, [] => []
  | fuel + 1, text => text.take width ++ '\n' :: wrapped width fuel (text.drop width)

def switches : List Switch := [
  ⟨'d', ["decode"], .nothing, true⟩,
  ⟨'i', ["ignore-garbage"], .nothing, true⟩,
  ⟨'w', ["wrap"], .value, true⟩]

def run (args : List Octets) (input : Octets) : Outcome :=
  match Arguments.read switches args with
  | .error misuse => misused "base64" 1 misuse
  | .ok arguments =>
    let width := (arguments.value? 'w').getD "76".toList
    match number? width with
    | none => ⟨1, [], "base64: invalid wrap size: ".toList ++ quoted width ++ ['\n']⟩
    | some width =>
      let found := gathered (missingFile "base64") (filesOf input (arguments.operands.take 1))
      if found.code ≠ 0 then found
      else if arguments.has 'd' then
        let kept := found.out.filter fun c =>
          c ≠ '\n' && (!arguments.has 'i' || c == '=' || alphabet.contains c)
        let (bytes, fine) := decode kept
        if fine then prints bytes else ⟨1, bytes, "base64: invalid input\n".toList⟩
      else
        let text := encode found.out
        prints (if width = 0 then text else wrapped width (text.length + 1) text)

end Base64

namespace Dump

inductive Form where
  | char
  | name
  | octal | decimal | unsigned | hex
  deriving Repr, DecidableEq

structure Style where
  form : Form
  size : Nat
  shown : Bool := false
  deriving Repr, DecidableEq

def digits (base width n : Nat) (fill : Char) : Octets :=
  let text := Nat.toDigits base n
  List.replicate (width - text.length) fill ++ text

def Style.width (style : Style) : Nat :=
  let bits := 8 * style.size
  match style.form with
  | .char | .name => 3
  | .octal => (bits + 2) / 3
  | .hex => bits / 4
  | .unsigned => (Nat.toDigits 10 (Nat.pow 2 bits - 1)).length
  | .decimal => (Nat.toDigits 10 (Nat.pow 2 (bits - 1))).length + 1

def names : List String := [
  "nul", "soh", "stx", "etx", "eot", "enq", "ack", "bel", "bs", "ht", "nl", "vt", "ff", "cr", "so",
  "si", "dle", "dc1", "dc2", "dc3", "dc4", "nak", "syn", "etb", "can", "em", "sub", "esc", "fs", "gs",
  "rs", "us", "sp"]

def Style.unit (style : Style) (bytes : Octets) : Octets :=
  let n := bytes.reverse.foldl (fun n c => 256 * n + c.toNat) 0
  let right (text : Octets) : Octets := List.replicate (style.width - text.length) ' ' ++ text
  match style.form with
  | .octal => digits 8 style.width n '0'
  | .hex => digits 16 style.width n '0'
  | .unsigned => digits 10 style.width n ' '
  | .decimal =>
    let limit := Nat.pow 2 (8 * style.size)
    right (toString (if limit / 2 ≤ n then (n : Int) - limit else n)).toList
  | .name =>
    let code := n % 128
    right (if code = 127 then "del".toList else match names[code]? with
      | some name => name.toList
      | none => [Char.ofNat code])
  | .char =>
    let c := Char.ofNat n
    right (match c with
      | '\x00' => ['\\', '0']
      | '\x07' => ['\\', 'a']
      | '\x08' => ['\\', 'b']
      | '\x0c' => ['\\', 'f']
      | '\n' => ['\\', 'n']
      | '\r' => ['\\', 'r']
      | '\t' => ['\\', 't']
      | '\x0b' => ['\\', 'v']
      | c => if isPrintable c then [c] else octal c)

/-- Pieces of a size; the last one is filled up with zeros. -/
def units (size : Nat) : Nat → Octets → List Octets
  | 0, _ => []
  | _ + 1, [] => []
  | fuel + 1, bytes =>
    let unit := bytes.take size
    (unit ++ List.replicate (size - unit.length) '\x00') :: units size fuel (bytes.drop size)

/-- How wide all units of a block are in a style, each with a blank before it. -/
def Style.blockWidth (style : Style) (block : Nat) : Nat := (style.width + 1) * (block / style.size)

/-- One line for a block of bytes in one style. The room that another style needs is spread over the
units, so that they stand below each other. -/
def Style.line (style : Style) (room : Nat) (block : Nat) (bytes : Octets) : Octets :=
  let count := block / style.size
  let spare := room - count * style.width
  let shares (k : Nat) : Nat := spare * k / count
  let found := units style.size (bytes.length + 1) bytes
  let text := found.zipIdx.flatMap fun (unit, i) =>
    let text := style.unit unit
    let width := style.width + shares (count - i) - shares (count - i - 1)
    List.replicate (width - text.length) ' ' ++ text
  if style.shown then
    let blank := count - found.length
    text ++ List.replicate (blank * style.width + shares blank) ' ' ++ "  >".toList ++
      bytes.map (fun c => if isPrintable c then c else '.') ++ ['<']
  else text

inductive Radix where
  | octal | decimal | hex | nothing
  deriving Repr, DecidableEq

def Radix.offset (radix : Radix) (n : Nat) : Octets :=
  match radix with
  | .octal => digits 8 7 n '0'
  | .decimal => digits 10 7 n '0'
  | .hex => digits 16 6 n '0'
  | .nothing => []

def blocks (size : Nat) : Nat → Nat → Octets → List (Nat × Octets)
  | 0, _, _ => []
  | _ + 1, _, [] => []
  | fuel + 1, offset, bytes =>
    (offset, bytes.take size) :: blocks size fuel (offset + size) (bytes.drop size)

/-- The lines of a dump. A block that repeats the one before is only marked, and the mark stands once. -/
def lines (radix : Radix) (styles : List Style) (all : Bool) (size : Nat) (last : Option Octets)
    (marked : Bool) : List (Nat × Octets) → Octets
  | [] => []
  | (offset, bytes) :: rest =>
    if !all && last = some bytes && bytes.length = size && !rest.isEmpty then
      (if marked then [] else ['*', '\n']) ++ lines radix styles all size last true rest
    else
      let room := styles.foldl (fun most style => max most (style.blockWidth size)) 0
      let start := radix.offset offset
      let text := styles.zipIdx.flatMap fun (style, i) =>
        (if i = 0 then start else List.replicate start.length ' ') ++
          style.line room size bytes ++ ['\n']
      text ++ lines radix styles all size (some bytes) false rest

def Form.ofLetter? : Char → Option Form
  | 'a' => some .name
  | 'c' => some .char
  | 'd' => some .decimal
  | 'o' => some .octal
  | 'u' => some .unsigned
  | 'x' => some .hex
  | _ => none

/-- A size in front of other types: a letter or a number. -/
def readSize (text : Octets) : Nat × Octets :=
  match text with
  | 'C' :: rest => (1, rest)
  | 'S' :: rest => (2, rest)
  | 'I' :: rest => (4, rest)
  | 'L' :: rest => (8, rest)
  | text =>
    let digits := text.takeWhile Char.isDigit
    ((number? digits).getD 4, text.drop digits.length)

/-- Reads types such as `x1` or `c`, of which `whole` is the text. -/
def readStyles (whole : Octets) : Nat → Octets → Except Octets (List Style)
  | 0, _ => .ok []
  | _ + 1, [] => .ok []
  | fuel + 1, c :: rest =>
    match Form.ofLetter? c with
    | none => .error ("invalid character '".toList ++ c :: "' in type string ".toList ++ quoted whole)
    | some form => do
      let (size, rest) := if form = .name ∨ form = .char then (1, rest) else readSize rest
      if !([1, 2, 4, 8].contains size) then
        throw ("invalid type string ".toList ++ quoted whole ++
          s!";\nthis system doesn't provide a {size}-byte integral type".toList)
      let shown := rest.head? = some 'z'
      let more ← readStyles whole fuel (if shown then rest.tail else rest)
      return ⟨form, size, shown⟩ :: more

def switches : List Switch := [
  ⟨'A', ["address-radix"], .value, true⟩,
  ⟨'j', ["skip-bytes"], .value, true⟩,
  ⟨'N', ["read-bytes"], .value, true⟩,
  ⟨'t', ["format"], .value, true⟩,
  ⟨'v', ["output-duplicates"], .nothing, true⟩,
  ⟨'w', ["width"], .attached, true⟩,
  ⟨'a', [], .nothing, true⟩,
  ⟨'b', [], .nothing, true⟩,
  ⟨'c', [], .nothing, true⟩,
  ⟨'d', [], .nothing, true⟩,
  ⟨'i', [], .nothing, true⟩,
  ⟨'l', [], .nothing, true⟩,
  ⟨'o', [], .nothing, true⟩,
  ⟨'s', [], .nothing, true⟩,
  ⟨'x', [], .nothing, true⟩]

def givenStyles (given : Given) : Except Octets (List Style) :=
  match given.key with
  | 't' => readStyles given.value (given.value.length + 1) given.value
  | 'a' => .ok [⟨.name, 1, false⟩]
  | 'b' => .ok [⟨.octal, 1, false⟩]
  | 'c' => .ok [⟨.char, 1, false⟩]
  | 'd' => .ok [⟨.unsigned, 2, false⟩]
  | 'i' => .ok [⟨.decimal, 4, false⟩]
  | 'l' => .ok [⟨.decimal, 8, false⟩]
  | 'o' => .ok [⟨.octal, 2, false⟩]
  | 's' => .ok [⟨.decimal, 2, false⟩]
  | 'x' => .ok [⟨.hex, 2, false⟩]
  | _ => .ok []

def sizeOption (arguments : Arguments) (key : Char) : Except Octets (Option Nat) :=
  match arguments.value? key with
  | none => .ok none
  | some text =>
    match size? text with
    | some size => .ok (some size)
    | none => .error ("invalid -".toList ++ key :: " argument ".toList ++ quoted text)

/-- How many bytes stand on a line, and a warning if the given width cannot be used. -/
def lineSize (styles : List Style) (given : Option Octets) : Except Octets (Nat × Octets) :=
  let least := styles.foldl (fun most style => max most style.size) 1
  match given with
  | none => .ok (16, [])
  | some [] => .ok (32, [])
  | some text =>
    match size? text with
    | none => .error ("invalid -w argument ".toList ++ quoted text)
    | some size =>
      if size % least = 0 ∧ 0 < size then .ok (size, [])
      else .ok (least, s!"od: warning: invalid width {size}; using {least} instead\n".toList)

def dumped (arguments : Arguments) (text : Octets) : Except Octets (Octets × Octets) := do
  let radix ← match (arguments.value? 'A').getD ['o'] with
    | 'o' :: _ => .ok Radix.octal
    | 'd' :: _ => .ok Radix.decimal
    | 'x' :: _ => .ok Radix.hex
    | 'n' :: _ => .ok Radix.nothing
    | other => .error ("invalid output address radix '".toList ++ other.take 1 ++
        "'; it must be one character from [doxn]".toList)
  let skip := (← sizeOption arguments 'j').getD 0
  let limit ← sizeOption arguments 'N'
  let styles := (← arguments.given.mapM givenStyles).flatten
  let styles := if styles.isEmpty then [⟨.octal, 2, false⟩] else styles
  let (size, warning) ← lineSize styles (arguments.value? 'w')
  if text.length < skip then throw "cannot skip past end of combined input".toList
  let bytes := text.drop skip
  let bytes := bytes.take (limit.getD bytes.length)
  let body := lines radix styles (arguments.has 'v') size none false
    (blocks size (bytes.length + 1) skip bytes)
  let finish := radix.offset (skip + bytes.length)
  return (body ++ if finish.isEmpty then [] else finish ++ ['\n'], warning)

def run (args : List Octets) (input : Octets) : Outcome :=
  match Arguments.read switches args with
  | .error misuse => misused "od" 1 misuse
  | .ok arguments =>
    let found := gathered (missingFile "od") (filesOf input arguments.operands)
    match dumped arguments found.out with
    | .error message => ⟨1, [], "od: ".toList ++ message ++ ['\n']⟩
    | .ok (text, warning) => ⟨found.code, text, warning ++ found.err⟩

end Dump

end Dialect.Filter
