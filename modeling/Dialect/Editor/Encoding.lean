import Dialect.Position
import Dialect.Text.Digit

/-! Places as editors count them. Lines are those between newlines; a column counts the code units of
the encoding that the editor and the server agree on. -/
namespace Dialect.Editor

inductive Encoding where
  | utf16
  | utf32
  deriving Repr, DecidableEq

namespace Encoding

def name : Encoding → String
  | .utf16 => "utf-16"
  | .utf32 => "utf-32"

def negotiate (offered : Option (List String)) : Encoding :=
  if offered.any (·.contains Encoding.utf32.name) then .utf32 else .utf16

def width : Encoding → Char → Nat
  | .utf16 => unitWidth
  | .utf32 => fun _ => 1

end Encoding

structure Place where
  line : Nat
  character : Nat
  deriving Repr, DecidableEq

structure Area where
  start : Place
  stop : Place
  deriving Repr, DecidableEq

def placeMax : Nat := 0xFFFFFFFF

/-- The place of a position in `text`. UTF-16 columns end at the end of their line; a line that does
not exist keeps the column. -/
def place (text : List Char) (encoding : Encoding) (p : Position) : Place :=
  let character := match encoding, lineAt? text p.line with
    | .utf16, some line => measure unitWidth (line.take p.column)
    | _, _ => p.column
  ⟨min p.line placeMax, min character placeMax⟩

def area (text : List Char) (encoding : Encoding) (r : Range) : Area :=
  ⟨place text encoding r.start, place text encoding r.stop⟩

def fullArea (text : List Char) (encoding : Encoding) : Area :=
  ⟨⟨0, 0⟩, place text encoding (.ofByte text (byteLength text))⟩

/-- The line of the cursor. It may stand on the empty line after a final newline. -/
def cursorLine? (text : List Char) (line : Nat) : Option (List Char) :=
  match (lines text)[line]? with
  | some found => some found
  | none => if (lines text).length = line then some [] else none

/-- What stands before the cursor on its line. A cursor inside a character stands before it. -/
def beforeCursor? (text : List Char) (cursor : Place) (encoding : Encoding) : Option (List Char) :=
  (cursorLine? text cursor.line).map (takeWidth encoding.width cursor.character)

end Dialect.Editor
