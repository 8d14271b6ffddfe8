import Dialect.Filter.Pattern.Bracket

/-! Lists of bytes as the filter `tr` writes them: single bytes, ranges, classes and repeated bytes. -/
namespace Dialect.Filter.Exchange

def range (low high : Char) : Octets :=
  (List.range (high.toNat + 1 - low.toNat)).map fun i => Char.ofNat (low.toNat + i)

inductive Element where
  | single (c : Char)
  | span (low high : Char)
  | named (name : Octets)
  /-- All that is equivalent to a byte, which is that byte alone. -/
  | equal (c : Char)
  | repeated (c : Char) (count : Option Nat)
  deriving Repr, DecidableEq

/-- What can be wrong with a list or a pair of lists. -/
inductive Fault where
  | missingClass
  | missingEqual
  | unknownClass (name : Octets)
  | longEqual (text : Octets)
  | reversed (low high : Char)
  | badCount (text : Octets)
  | repeatInFirst
  | repeatsInSecond
  | equalInSecond
  | classInSecond
  | misaligned
  | emptySecond
  | classAtEnd
  | complementedClass
  | repeatWithoutTarget
  deriving Repr, DecidableEq

def Fault.message : Fault → Octets
  | .missingClass => "missing character class name '[::]'".toList
  | .missingEqual => "missing equivalence class character '[==]'".toList
  | .unknownClass name => "invalid character class ".toList ++ quoted name
  | .longEqual text => text ++ ": equivalence class operand must be a single character".toList
  | .reversed low high =>
    let shown (c : Char) : Octets := if isPrintable c then [c] else '\\' :: octal c
    "range-endpoints of '".toList ++ shown low ++ '-' :: shown high ++
      "' are in reverse collating sequence order".toList
  | .badCount text => "invalid repeat count ".toList ++ quoted text ++ " in [c*n] construct".toList
  | .repeatInFirst => "the [c*] repeat construct may not appear in string1".toList
  | .repeatsInSecond => "only one [c*] repeat construct may appear in string2".toList
  | .equalInSecond => "[=c=] expressions may not appear in string2 when translating".toList
  | .classInSecond =>
    "when translating, the only character classes that may appear in\nstring2 are 'upper' and 'lower'".toList
  | .misaligned => "misaligned [:upper:] and/or [:lower:] construct".toList
  | .emptySecond => "when not truncating set1, string2 must be non-empty".toList
  | .classAtEnd =>
    ("when translating with string1 longer than string2,\n" ++
      "the latter string must not end with a character class").toList
  | .complementedClass =>
    ("when translating with complemented character classes,\n" ++
      "string2 must map all characters in the domain to one").toList
  | .repeatWithoutTarget => "the [c*] construct may appear in string2 only when translating".toList

/-- A byte of a list; an escaped one has no special meaning. -/
structure Sign where
  c : Char
  escaped : Bool
  deriving Repr, DecidableEq

def Sign.is (sign : Sign) (c : Char) : Bool := sign.c == c && !sign.escaped

/-- Resolves the escapes of a list. A number above 255 leaves its last digit out. -/
def signsOf : Nat → Octets → List Sign
  | 0, _ => []
  | _ + 1, [] => []
  | _ + 1, ['\\'] => [⟨'\\', false⟩]
  | fuel + 1, '\\' :: c :: rest =>
    let three := (c :: rest).take 3 |>.takeWhile fun c => '0' ≤ c && c ≤ '7'
    let value (digits : Octets) : Nat :=
      digits.foldl (fun value c => 8 * value + (c.toNat - '0'.toNat)) 0
    let digits := if 255 < value three then three.take 2 else three
    if digits.isEmpty then ⟨(escapeOf? c).getD c, true⟩ :: signsOf fuel rest
    else ⟨Char.ofNat (value digits), true⟩ :: signsOf fuel ((c :: rest).drop digits.length)
  | fuel + 1, c :: rest => ⟨c, false⟩ :: signsOf fuel rest

/-- What is doubtful about the escapes of a list: numbers above 255, and a backslash at the end. -/
def warningsOf : Octets → Octets
  | [] => []
  | ['\\'] => "tr: warning: an unescaped backslash at end of string is not portable\n".toList
  | '\\' :: a :: b :: c :: rest =>
    let isOctal (c : Char) : Bool := '0' ≤ c && c ≤ '7'
    if '4' ≤ a && isOctal a && isOctal b && isOctal c then
      "tr: warning: the ambiguous octal escape \\".toList ++ [a, b, c] ++
        " is being\n\tinterpreted as the 2-byte sequence \\0".toList ++ [a, b] ++ ", ".toList ++
        [c, '\n'] ++ warningsOf (c :: rest)
    else warningsOf (b :: c :: rest)
  | '\\' :: _ :: rest => warningsOf rest
  | _ :: rest => warningsOf rest

def textOf (signs : List Sign) : Octets := signs.map (·.c)

/-- The signs up to `kind` and a closing bracket, and what follows. -/
def closing? (kind : Char) : List Sign → Option (List Sign × List Sign)
  | [] => none
  | sign :: rest =>
    if sign.is kind && rest.head?.any (·.is ']') then some ([], rest.tail)
    else (closing? kind rest).map fun (inner, rest) => (sign :: inner, rest)

def repeated? : List Sign → Option (Except Fault (Element × List Sign))
  | c :: star :: rest =>
    let digits := rest.takeWhile fun sign => !sign.is ']' && !sign.escaped
    if star.is '*' && (rest[digits.length]?).any (·.is ']') then
      let text := textOf digits
      let rest := rest.drop (digits.length + 1)
      let base := if text.head? = some '0' then 8 else 10
      if text.all fun c => (digitValue? base c).isSome then
        let count := text.foldl (fun value c => base * value + (digitValue? base c).getD 0) 0
        some (.ok (.repeated c.c (if count = 0 then none else some count), rest))
      else some (.error (.badCount text))
    else none
  | _ => none

/-- A class after its opening bracket and colon, or what is equivalent to a byte. -/
def named? : List Sign → Option (Except Fault (Element × List Sign))
  | kind :: rest =>
    if kind.is ':' || kind.is '=' then
      (closing? kind.c rest).map fun (inner, after) =>
        let text := textOf inner
        let refused (fault : Fault) : Except Fault (Element × List Sign) :=
          match repeated? (kind :: rest) with
          | some found => found
          | none => .error fault
        if kind.c = ':' then
          if text.isEmpty then .error .missingClass
          else if (classRanges? text).isSome then .ok (.named text, after)
          else refused (.unknownClass text)
        else match text with
          | [] => .error .missingEqual
          | [c] => .ok (.equal c, after)
          | text => refused (.longEqual text)
    else none
  | [] => none

def readElements : Nat → List Sign → Except Fault (List Element)
  | 0, _ => .ok []
  | fuel + 1, signs =>
    let go (found : Except Fault (Element × List Sign)) : Except Fault (List Element) := do
      let (element, rest) ← found
      return element :: (← readElements fuel rest)
    match signs with
    | first :: second :: third :: rest =>
      let bracketed :=
        if first.is '[' then (named? (second :: third :: rest)).or (repeated? (second :: third :: rest))
        else none
      match bracketed with
      | some found => go found
      | none =>
        if second.is '-' then
          if third.c < first.c then .error (.reversed first.c third.c)
          else go (.ok (.span first.c third.c, rest))
        else go (.ok (.single first.c, second :: third :: rest))
    | few => .ok (few.map fun sign => .single sign.c)

def elementsOf (text : Octets) : Except Fault (List Element) :=
  readElements (text.length + 1) (signsOf (text.length + 1) text)

namespace Element

/-- The bytes of an element; an unbounded repetition has `fill` of them. -/
def members (fill : Nat) : Element → Octets
  | .single c | .equal c => [c]
  | .span low high => range low high
  | .named name => ((classRanges? name).getD []).flatMap fun (low, high) => range low high
  | .repeated c count => List.replicate (count.getD fill) c

def isUnbounded : Element → Bool
  | .repeated _ none => true
  | _ => false

def isEqual : Element → Bool
  | .equal _ => true
  | _ => false

def className? : Element → Option Octets
  | .named name => some name
  | _ => none

def isCase (element : Element) : Bool :=
  element.className?.any fun name => name == "upper".toList || name == "lower".toList

end Element

def caseStarts (place : Nat) : List Element → List Nat
  | [] => []
  | element :: rest =>
    let more := caseStarts (place + (element.members 0).length) rest
    if element.isCase then place :: more else more

end Dialect.Filter.Exchange
