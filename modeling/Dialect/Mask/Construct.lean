import Dialect.Declaration.Basic

/-! The constructs of the dialect that the host language does not know, as stretches of a document.
They are recognised without regard to strings, and, apart from declarations and action markers,
without regard to comments. -/
namespace Dialect

/-- Characters of a context variable after the first, apart from primes. -/
def isSegmentChar (c : Char) : Bool := isAsciiLetter c || isAsciiDigit c || c == '_' || c == '-'

/-- How many characters go on with a segment of a context variable. A prime belongs to it only
before a further character of the segment, so the `''` that closes a raw string does not. -/
def segmentLength : List Char → Nat
  | [] => 0
  | c :: rest =>
    if isSegmentChar c ∨ (c = '\'' ∧ rest.head?.any isSegmentChar) then segmentLength rest + 1
    else 0

/-- The length of the segment at the start of the text, if there is one. -/
def segment? (here : List Char) : Option Nat :=
  match here with
  | [] => none
  | c :: rest => if isIdentStart c then some (segmentLength rest + 1) else none

/-- The length of all further segments, each after a point; `skip` counts the characters of the
last one that are still to be passed. -/
def segmentsLength (skip : Nat) : List Char → Nat
  | [] => 0
  | c :: rest =>
    match skip with
    | skip + 1 => segmentsLength skip rest + 1
    | 0 =>
      if c = '.' then
        match segment? rest with
        | some length => segmentsLength length rest + 1
        | none => 0
      else 0

def reference? (_ : Option Char) (here : List Char) : Option (Unit × Nat) := do
  let rest ← after? [sigil] here
  let first ← segment? rest
  return ((), 1 + first + segmentsLength 0 (rest.drop first))

/-- The length of the rest of a node, up to its closing parenthesis; parentheses may nest once. -/
def nodeLength? (inner : Bool) : List Char → Option Nat
  | [] => none
  | c :: rest =>
    if c = '(' then if inner then none else (nodeLength? true rest).map (· + 1)
    else if c = ')' then if inner then (nodeLength? false rest).map (· + 1) else some 1
    else (nodeLength? inner rest).map (· + 1)

/-- Recognises a structural node such as `(zmdl name)`. -/
def node? (_ : Option Char) (here : List Char) : Option (Unit × Nat) := do
  let rest ← after? ['('] here
  let keyword ← structuralKeywords.find? (fun keyword => startsWith keyword rest)
  let rest := rest.drop keyword.length
  if !endsWord rest then none
  let length ← nodeLength? false rest
  return ((), 1 + keyword.length + length)

/-- Recognises `@do` and a brace, with the blanks between them. -/
def marker? (_ : Option Char) (here : List Char) : Option (Unit × Nat) := do
  let rest ← after? actionShorthand here
  let gap := rest.takeWhile isBlank
  if (rest.drop gap.length).head? ≠ some '{' then none
  return ((), actionShorthand.length + gap.length + 1)

/-- The action markers of a text that go on from no identifier, each without its brace. -/
def markers (text : List Char) : List Span :=
  ((findAll marker? text).filter fun found => !(text.take found.span.start).getLast?.any isIdentChar).map
    fun found => ⟨found.span.start, found.span.stop - 1⟩

inductive Construct where
  | declaration (d : Declaration)
  | action (span : Span)
  | node (span : Span)
  | reference (span : Span)
  deriving Repr

namespace Construct

/-- The stretch that must be free for the construct to be masked. -/
def span : Construct → Span
  | .declaration d => d.head
  | .action span | .node span | .reference span => span

end Construct

/-- All constructs of `text`, in the order in which they claim their stretches. -/
def constructs (text : List Char) : List Construct :=
  (findDeclarations text).map .declaration ++
  ((markers text).filter fun span => !isCommented (text.take span.start)).map .action ++
  (findAll node? text).map (fun found => .node ⟨found.span.start + 1, found.span.stop - 1⟩) ++
  (findAll reference? text).map (fun found => .reference found.span)

end Dialect
