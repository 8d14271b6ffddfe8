import Dialect.Filter.Pattern.Bracket

/-! Reading patterns. In a basic pattern brackets, braces and bars are special after a backslash, in
an extended one without it. -/
namespace Dialect.Filter

structure Grammar where
  extended : Bool := false
  /-- Repetitions and bounds that make no sense stand for themselves or are left out. -/
  lenient : Bool := false
  deriving Repr, DecidableEq

inductive Sign where
  | openGroup | closeGroup | bar
  | star | plus | query | openBounds
  | caret | dollar | dot | bracket
  | mark (mark : Mark)
  | oneOf (negated : Bool) (ranges : Ranges)
  | back (number : Nat)
  | literal (c : Char)
  | backslash
  | stop
  deriving Repr, DecidableEq

def Sign.repetition? : Sign → Option String
  | .star => some "*"
  | .plus => some "+"
  | .query => some "?"
  | .openBounds => some "\x7b...\x7d"
  | _ => none

namespace Grammar

/-- The meaning of a character that is special with a backslash in one grammar and without one in
the other. -/
def wandering? : Char → Option Sign
  | '(' => some .openGroup
  | ')' => some .closeGroup
  | '|' => some .bar
  | '+' => some .plus
  | '?' => some .query
  | '{' => some .openBounds
  | _ => none

def escaped (grammar : Grammar) (c : Char) : Sign :=
  match c with
  | '<' => .mark .wordStart
  | '>' => .mark .wordEnd
  | 'b' => .mark .wordEdge
  | 'B' => .mark .noWordEdge
  | '\x60' => .mark .textStart
  | '\'' => .mark .textEnd
  | 's' => .oneOf false spaceRanges
  | 'S' => .oneOf true spaceRanges
  | 'w' => .oneOf false wordRanges
  | 'W' => .oneOf true wordRanges
  | c =>
    if '1' ≤ c ∧ c ≤ '9' then .back (c.toNat - '0'.toNat)
    else if grammar.extended then .literal c
    else (wandering? c).getD (.literal c)

def plain (grammar : Grammar) (c : Char) : Sign :=
  match c with
  | '*' => .star
  | '^' => .caret
  | '$' => .dollar
  | '.' => .dot
  | '[' => .bracket
  | c => if grammar.extended then (wandering? c).getD (.literal c) else .literal c

/-- The sign at the start of a text, and what follows it. -/
def next (grammar : Grammar) : Octets → Sign × Octets
  | [] => (.stop, [])
  | ['\\'] => (.backslash, [])
  | '\\' :: c :: rest => (grammar.escaped c, rest)
  | c :: rest => (grammar.plain c, rest)

end Grammar

structure Bounds where
  low : Nat
  high : Option Nat
  deriving Repr, DecidableEq

def maxBound : Nat := 32767

inductive Braced where
  | bounds (bounds : Bounds) (rest : Octets)
  /-- No bounds at all, so that a lenient reader takes the brace for a character. -/
  | unreadable (fault : PatternFault)
  | faulty (fault : PatternFault)
  deriving Repr, DecidableEq

/-- The text up to a comma or the closing brace, and what follows from there on. -/
def Grammar.boundText (grammar : Grammar) : Octets → Octets × Octets
  | [] => ([], [])
  | '\\' :: c :: rest =>
    if grammar.extended = false ∧ c = '\x7d' then ([], '\\' :: c :: rest)
    else
      let (text, rest) := grammar.boundText rest
      ('\\' :: c :: text, rest)
  | c :: rest =>
    if c = ',' ∨ (grammar.extended ∧ c = '\x7d') then ([], c :: rest)
    else
      let (text, rest) := grammar.boundText rest
      (c :: text, rest)

def Grammar.readBounds (grammar : Grammar) (text : Octets) : Braced :=
  let closing := if grammar.extended then ['\x7d'] else ['\\', '\x7d']
  let finish (low : Nat) (high : Option Nat) (rest : Octets) : Braced :=
    if rest.isEmpty then .unreadable .openBounds
    else if !closing.isPrefixOf rest || high.any (· < low) then .faulty .badBounds
    else if maxBound < high.getD low then .faulty .tooBig
    else .bounds ⟨low, high⟩ (rest.drop closing.length)
  match grammar.boundText text with
  | (_, []) => .unreadable .openBounds
  | (lowText, ',' :: rest) =>
    let (highText, rest) := grammar.boundText rest
    match number? lowText, number? highText with
    | none, high =>
      if !lowText.isEmpty then .unreadable .badBounds
      else if high.isNone && !highText.isEmpty then
        .unreadable (if rest.isEmpty then .openBounds else .badBounds)
      else finish 0 high rest
    | some low, high =>
      if high.isNone && !highText.isEmpty then
        .unreadable (if rest.isEmpty then .openBounds else .badBounds)
      else finish low high rest
  | (exact, rest) =>
    match number? exact with
    | some exact => finish exact (some exact) rest
    | none => if exact.isEmpty then .faulty .badBounds else .unreadable .badBounds

/-- What a reader of patterns has not yet read, and what it has come across. -/
structure Unread where
  rest : Octets
  groups : Nat := 0
  closed : List Nat := []
  bareClass : Bool := false
  skipped : List String := []
  deriving Repr

/-- Applies the repetitions that follow an expression. In a strict basic pattern none follows another
one directly. -/
def readRepeats (grammar : Grammar) : Nat → Pattern → Octets → Except PatternFault (Pattern × Octets)
  | 0, body, text => .ok (body, text)
  | fuel + 1, body, text =>
    let strict := !grammar.extended && !grammar.lenient
    let go (repeated : Pattern) (rest : Octets) : Except PatternFault (Pattern × Octets) :=
      let following := (grammar.next rest).1
      if strict && (following == .star || following == .openBounds) then .error .badRepeat
      else readRepeats grammar fuel repeated rest
    match grammar.next text with
    | (.star, rest) => go (.repeated body) rest
    | (.plus, rest) => go (.sequence body (.repeated body)) rest
    | (.query, rest) => go (.choice body .empty) rest
    | (.openBounds, rest) =>
      match grammar.readBounds rest with
      | .bounds bounds rest => go (body.times bounds.low bounds.high) rest
      | .unreadable fault => if grammar.lenient && grammar.extended then .ok (body, text) else .error fault
      | .faulty fault => .error fault
    | _ => .ok (body, text)

inductive Start where
  | first
  | marks
  | passed
  deriving Repr, DecidableEq

def Start.after (start : Start) : Pattern → Start
  | .mark _ => if start = .passed then .passed else .marks
  | _ => .passed

mutual

/-- Reads branches that a bar divides; `depth` counts the groups around them. No branch refers to a
group of another. -/
def readChoice (grammar : Grammar) : Nat → Nat → Unread → Except PatternFault (Pattern × Unread)
  | 0, _, _ => .error .tooBig
  | fuel + 1, depth, start => do
    let (first, unread) ← readSequence grammar fuel depth .first start
    match grammar.next unread.rest with
    | (.bar, rest) =>
      let (second, after) ←
        readChoice grammar fuel depth { unread with rest := rest, closed := start.closed }
      return (.choice first second, { after with closed := after.closed ++ unread.closed })
    | _ => return (first, unread)

def readSequence (grammar : Grammar) : Nat → Nat → Start → Unread → Except PatternFault (Pattern × Unread)
  | 0, _, _, _ => .error .tooBig
  | fuel + 1, depth, start, unread =>
    let ends := match (grammar.next unread.rest).1 with
      | .stop | .bar => true
      | .closeGroup => 0 < depth
      | _ => false
    if ends then .ok (.empty, unread)
    else do
      let (body, unread) ← readAtom grammar fuel depth start unread
      let (more, unread) ← readSequence grammar fuel depth (start.after body) unread
      return (if more = .empty then body else if body = .empty then more else .sequence body more, unread)

/-- Reads one expression with its repetitions. A mark has none, unless the reader is lenient. -/
def readAtom (grammar : Grammar) : Nat → Nat → Start → Unread → Except PatternFault (Pattern × Unread)
  | 0, _, _, _ => .error .tooBig
  | fuel + 1, depth, start, unread =>
    let (sign, rest) := grammar.next unread.rest
    let atom (body : Pattern) (unread : Unread) : Except PatternFault (Pattern × Unread) := do
      let (body, rest) ← readRepeats grammar unread.rest.length body unread.rest
      return (body, { unread with rest := rest })
    let literal (c : Char) := atom (.literal c) { unread with rest := rest }
    let mark (mark : Mark) : Except PatternFault (Pattern × Unread) :=
      if !grammar.lenient || (start ≠ .passed && !grammar.extended) then
        .ok (.mark mark, { unread with rest := rest })
      else
        let skipped := if start = .passed then [] else (grammar.next rest).1.repetition?.toList
        atom (.mark mark) { unread with rest := rest, skipped := unread.skipped ++ skipped }
    -- A repetition with nothing to repeat.
    let stray (c : Char) : Except PatternFault (Pattern × Unread) :=
      if !grammar.extended then literal c
      else if grammar.lenient then
        .ok (.empty, { unread with rest := rest, skipped := unread.skipped ++ [c.toString] })
      else .error .badRepeat
    match sign with
    | .stop => .ok (.empty, unread)
    | .bar => .ok (.empty, unread)
    | .backslash => .error .trailingBackslash
    | .literal c => literal c
    | .dot => atom .any { unread with rest := rest }
    | .oneOf negated ranges => atom (.oneOf negated ranges) { unread with rest := rest }
    | .mark m => mark m
    | .caret => if start = .first || grammar.extended then mark .lineStart else literal '^'
    | .dollar =>
      let last := match (grammar.next rest).1 with
        | .stop | .bar | .closeGroup => true
        | _ => false
      if last || grammar.extended then mark .lineEnd else literal '$'
    | .back number =>
      if unread.closed.contains number then atom (.back number) { unread with rest := rest }
      else .error .badBack
    | .bracket => do
      let (bracket, rest) ← readBracket rest
      atom (.oneOf bracket.negated bracket.ranges)
        { unread with rest := rest, bareClass := unread.bareClass || bracket.bareClass }
    | .openGroup => do
      let number := unread.groups + 1
      let (body, inner) ← readChoice grammar fuel (depth + 1)
        { unread with rest := rest, groups := number }
      match grammar.next inner.rest with
      | (.closeGroup, rest) =>
        atom (.group number body) { inner with rest := rest, closed := number :: inner.closed }
      | _ => .error .openGroup
    | .closeGroup => if grammar.extended && grammar.lenient then literal ')' else .error .closeGroup
    | .star => stray '*'
    | .plus => stray '+'
    | .query => stray '?'
    | .openBounds =>
      if grammar.lenient then
        match grammar.readBounds rest with
        | .bounds _ after =>
          if grammar.extended then
            .ok (.empty, { unread with rest := after, skipped := unread.skipped ++ ["\x7b...\x7d"] })
          else literal '\x7b'
        | _ => literal '\x7b'
      else .error .badRepeat

end

/-- A pattern, how many groups were written in it, and the signs at the start of expressions that have
been left out of it. -/
structure PatternReading where
  pattern : Pattern
  groups : Nat := 0
  skipped : List String := []
  deriving Repr, DecidableEq

def Pattern.ofText (grammar : Grammar) (text : Octets) : Except PatternFault PatternReading := do
  let (pattern, unread) ← readChoice grammar (4 * text.length + 4) 0 ⟨text, 0, [], false, []⟩
  if unread.bareClass then throw .bareClass
  return ⟨pattern, unread.groups, unread.skipped⟩

end Dialect.Filter
