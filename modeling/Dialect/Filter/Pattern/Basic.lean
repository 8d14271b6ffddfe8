import Dialect.Filter.Octet

/-! Regular expressions of the line filters. A match is the leftmost one and, of those, the longest;
among equally long ones the first in the order of a greedy search. -/
namespace Dialect.Filter

inductive Mark where
  | lineStart | lineEnd
  | textStart | textEnd
  | wordStart | wordEnd
  | wordEdge
  | noWordEdge
  deriving Repr, DecidableEq

abbrev Ranges := List (Char × Char)

inductive Pattern where
  | empty
  | literal (c : Char)
  | any
  | oneOf (negated : Bool) (ranges : Ranges)
  | mark (mark : Mark)
  | sequence (first second : Pattern)
  | choice (first second : Pattern)
  | repeated (body : Pattern)
  | group (number : Nat) (body : Pattern)
  | back (number : Nat)
  deriving Repr, DecidableEq

structure Matcher where
  pattern : Pattern
  groups : Nat := 0
  ignoreCase : Bool := false
  /-- A text has many lines: the ends of each one count, and what may be any character is no newline. -/
  byLine : Bool := false
  deriving Repr, DecidableEq

abbrev Groups := List (Nat × Octets)

structure Point where
  before : Option Char
  rest : Octets
  left : Nat
  groups : Groups := []
  deriving Repr

def isWordChar (c : Char) : Bool := c.isAlphanum || c == '_'

namespace Point

def take (point : Point) (accepts : Char → Bool) : List Point :=
  match point.rest with
  | [] => []
  | c :: rest =>
    if accepts c then [{ point with before := some c, rest := rest, left := point.left - 1 }] else []

def takeWord (point : Point) (same : Char → Char → Bool) : Octets → List Point
  | [] => [point]
  | w :: word => (point.take (same w)).flatMap (takeWord · same word)

/-- Remembers that a group has matched what stands between `start` and this point. -/
def close (point start : Point) (number : Nat) : Point :=
  { point with
    groups := (number, start.rest.take (start.left - point.left)) ::
      point.groups.filter fun (other, _) => other ≠ number }

def has (point : Point) (byLine : Bool) (mark : Mark) : Bool :=
  let next := point.rest.head?
  let wordBefore := point.before.any isWordChar
  let wordAfter := next.any isWordChar
  match mark with
  | .lineStart => point.before.all fun c => byLine && c == '\n'
  | .lineEnd => next.all fun c => byLine && c == '\n'
  | .textStart => point.before.isNone
  | .textEnd => next.isNone
  | .wordStart => !wordBefore && wordAfter
  | .wordEnd => wordBefore && !wordAfter
  | .wordEdge => wordBefore != wordAfter
  | .noWordEdge => wordBefore == wordAfter

end Point

/-- The points that a search has reached, by how much of the text is left. What groups hold there
matters only to a pattern that asks for it. -/
structure Reached where
  recalls : Bool
  found : Array (List Groups)

namespace Reached

def none (recalls : Bool) (left : Nat) : Reached := ⟨recalls, Array.replicate (left + 1) []⟩

def key (reached : Reached) (point : Point) : Groups := if reached.recalls then point.groups else []

def contains (reached : Reached) (point : Point) : Bool :=
  ((reached.found[point.left]?).getD []).contains (reached.key point)

def insert (reached : Reached) (point : Point) : Reached :=
  { reached with found := reached.found.modify point.left (reached.key point :: ·) }

end Reached

/-- The first of the points that no later step can tell apart. -/
def firstOfEach (recalls : Bool) (points : List Point) (left : Nat) : List Point :=
  (points.foldl
    (fun (kept, reached) point =>
      if reached.contains point then (kept, reached) else (point :: kept, reached.insert point))
    (([] : List Point), Reached.none recalls left)).1.reverse

/-- Repeats a step while it moves on, longer repetitions first. The points that have been found
before stand in front of the result in reverse. -/
def repeatSearch (step : Point → List Point) : Nat → List Point × Reached → Point → List Point × Reached
  | 0, (done, reached), point => (point :: done, reached)
  | fuel + 1, (done, reached), point =>
    let (done, reached) := (step point).foldl
      (fun (done, reached) next =>
        if next.left < point.left && !reached.contains next then
          repeatSearch step fuel (done, reached.insert next) next
        else (done, reached))
      (done, reached)
    (point :: done, reached)

namespace Pattern

def recalls : Pattern → Bool
  | .back _ => true
  | .sequence first second | .choice first second => first.recalls || second.recalls
  | .repeated body | .group _ body => body.recalls
  | _ => false

def times (body : Pattern) (low : Nat) (high : Option Nat) : Pattern :=
  let optional := match high with
    | none => .repeated body
    | some high =>
      (List.range (high - low)).foldl
        (fun fewer _ => .choice (if fewer = .empty then body else .sequence fewer body) .empty) .empty
  match (List.replicate low body) with
  | [] => optional
  | first :: more =>
    let required := more.foldl .sequence first
    if optional = .empty then required else .sequence required optional

end Pattern

namespace Matcher

def same (matcher : Matcher) (c d : Char) : Bool :=
  c == d || (matcher.ignoreCase && c.toLower == d.toLower)

def inside (matcher : Matcher) (ranges : Ranges) (d : Char) : Bool :=
  let between (d : Char) : Bool := ranges.any fun (low, high) => low ≤ d && d ≤ high
  between d || (matcher.ignoreCase && (between d.toLower || between d.toUpper))

/-- All ways to match a part of the pattern at a point. -/
def search (matcher : Matcher) (recalls : Bool) : Pattern → Point → List Point
  | .empty, point => [point]
  | .literal c, point => point.take (matcher.same c)
  | .any, point => point.take fun d => !(matcher.byLine && d == '\n')
  | .oneOf negated ranges, point =>
    point.take fun d =>
      matcher.inside ranges d != negated && !(negated && matcher.byLine && d == '\n')
  | .mark mark, point => if point.has matcher.byLine mark then [point] else []
  | .sequence first second, point =>
    match search matcher recalls first point with
    | [] => []
    | [next] => search matcher recalls second next
    | several => firstOfEach recalls (several.flatMap (search matcher recalls second)) point.left
  | .choice first second, point =>
    search matcher recalls first point ++ search matcher recalls second point
  | .repeated body, point =>
    let (found, _) := repeatSearch (search matcher recalls body) (point.left + 1)
      ([], Reached.none recalls point.left) point
    -- A repetition that takes nothing still lets its groups match nothing.
    let still := if recalls then
        (search matcher recalls body point).filter fun next => next.left == point.left
      else []
    found.tail.reverse ++ still ++ [point]
  | .group number body, point =>
    (search matcher recalls body point).map fun next => next.close point number
  | .back number, point =>
    match point.groups.lookup number with
    | some word => point.takeWord matcher.same word
    | none => []

def endOf? (matcher : Matcher) (before : Option Char) (rest : Octets) : Option Point :=
  (matcher.search matcher.pattern.recalls matcher.pattern ⟨before, rest, rest.length, []⟩).foldl
    (fun (best : Option Point) point =>
      match best with
      | none => some point
      | some kept => if point.left < kept.left then some point else some kept)
    none

end Matcher

structure Found where
  lead : Octets
  whole : Octets
  groups : Groups
  after : Point
  deriving Repr

def Matcher.find? (matcher : Matcher) (before : Option Char) (text : Octets) : Option Found :=
  match matcher.endOf? before text with
  | some after => some ⟨[], text.take (text.length - after.left), after.groups, after⟩
  | none =>
    match text with
    | [] => none
    | c :: rest =>
      (matcher.find? (some c) rest).map fun found => { found with lead := c :: found.lead }

def Matcher.accepts (matcher : Matcher) (text : Octets) : Bool := (matcher.find? none text).isSome

end Dialect.Filter
