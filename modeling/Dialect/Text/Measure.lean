/-! Lengths of a text in the units that its readers count: characters, UTF-8 bytes, UTF-16 code
units. A measure is a width per character, so the three share their cutting functions. -/
namespace Dialect

def byteWidth (c : Char) : Nat := c.utf8Size

/-- Code units of `c` in UTF-16: characters beyond the basic plane take two. -/
def unitWidth (c : Char) : Nat := if c.toNat < 0x10000 then 1 else 2

def measure (width : Char → Nat) (text : List Char) : Nat :=
  text.foldl (fun total c => total + width c) 0

def byteLength (text : List Char) : Nat := measure byteWidth text

/-- The byte offset of the character at `index`. -/
def byteOffset (text : List Char) (index : Nat) : Nat := byteLength (text.take index)

/-- What follows the first `count` bytes, if they end between two characters of `text`. -/
def dropBytes? : Nat → List Char → Option (List Char)
  | 0, text => some text
  | _ + 1, [] => none
  | count + 1, c :: rest =>
    if byteWidth c ≤ count + 1 then dropBytes? (count + 1 - byteWidth c) rest else none

/-- The first `count` bytes, if they end between two characters of `text`. -/
def takeBytes? : Nat → List Char → Option (List Char)
  | 0, _ => some []
  | _ + 1, [] => none
  | count + 1, c :: rest =>
    if byteWidth c ≤ count + 1 then (takeBytes? (count + 1 - byteWidth c) rest).map (c :: ·) else none

/-- The longest start of `text` that is at most `limit` units wide. -/
def takeWidth (width : Char → Nat) (limit : Nat) : List Char → List Char
  | [] => []
  | c :: rest => if width c ≤ limit then c :: takeWidth width (limit - width c) rest else []

end Dialect
