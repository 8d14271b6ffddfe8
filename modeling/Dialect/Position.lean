import Dialect.Text.Line
import Dialect.Text.Search

/-! Positions in a document, counted from zero: a line between newlines and a column in characters.
They convert to and from byte offsets by a table of the offsets at which lines start; what lies outside the document is
pulled to its edge. -/
namespace Dialect

/-- The offsets at which the further lines of a text start that stands at `offset` itself. -/
def lineStartsFrom (offset : Nat) : List Char → List Nat
  | [] => []
  | c :: rest =>
    if c = '\n' then (offset + 1) :: lineStartsFrom (offset + 1) rest else lineStartsFrom (offset + byteWidth c) rest

def lineStarts (text : List Char) : List Nat := 0 :: lineStartsFrom 0 text

/-- How many lines a document has for the purpose of positions. -/
def lineCount (text : List Char) : Nat := (lineStarts text).length

/-- The text of a line, without its newline. -/
def lineAt? (text : List Char) (line : Nat) : Option (List Char) := do
  let start ← (lineStarts text)[line]?
  let rest ← dropBytes? start text
  return rest.takeWhile (· ≠ '\n')

structure Position where
  line : Nat
  column : Nat
  deriving Repr, DecidableEq

namespace Position

/-- As people write it: both numbers from one. -/
def display (p : Position) : String := s!"{p.line + 1}:{p.column + 1}"

def Precedes (p q : Position) : Prop := p.line < q.line ∨ (p.line = q.line ∧ p.column ≤ q.column)

instance (p q : Position) : Decidable (Precedes p q) := by unfold Precedes; infer_instance

/-- The position `index` characters further, starting from `p`. -/
def advance (p : Position) : Nat → List Char → Position
  | 0, _ => p
  | _ + 1, [] => p
  | index + 1, c :: rest =>
    if c = '\n' then advance ⟨p.line + 1, 0⟩ index rest
    else advance ⟨p.line, p.column + 1⟩ index rest

def ofIndex (text : List Char) (index : Nat) : Position := advance ⟨0, 0⟩ index text

/-- The position of a byte offset; beyond the end it is the end. An offset inside a character counts as the start of its
line. -/
def ofByte (text : List Char) (offset : Nat) : Position :=
  let offset := min offset (byteLength text)
  let line := ((lineStarts text).takeWhile (· ≤ offset)).length - 1
  let start := (lineStarts text)[line]?.getD 0
  let before := (dropBytes? start text).bind (takeBytes? (offset - start))
  ⟨line, (before.map List.length).getD 0⟩

/-- The byte offset of a position. A column beyond its line means the end of that line, a line beyond the last one the
end of the text. -/
def toByte (text : List Char) (p : Position) : Nat :=
  match (lineStarts text)[p.line]? with
  | none => byteLength text
  | some start => start + byteOffset ((lineAt? text p.line).getD []) p.column

/-- The width of what stands before a position. -/
def distance (width : Char → Nat) : Nat → Nat → List Char → Nat
  | _, _, [] => 0
  | 0, 0, _ :: _ => 0
  | 0, column + 1, c :: rest => if c = '\n' then 0 else width c + distance width 0 column rest
  | line + 1, column, c :: rest =>
    width c + if c = '\n' then distance width line column rest
      else distance width (line + 1) column rest

/-- The index of the character at a position. -/
def toIndex (text : List Char) (p : Position) : Nat := distance (fun _ => 1) p.line p.column text

end Position

/-- A stretch between two positions; `stop` is the first position after it. -/
structure Range where
  start : Position
  stop : Position
  deriving Repr, DecidableEq

namespace Range

def onLine (line column length : Nat) : Range := ⟨⟨line, column⟩, ⟨line, column + length⟩⟩

def ofSpan (text : List Char) (span : Span) : Range :=
  ⟨.ofIndex text span.start, .ofIndex text span.stop⟩

end Range

end Dialect
