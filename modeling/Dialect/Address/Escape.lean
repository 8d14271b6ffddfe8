import Dialect.Text.Ascii
import Dialect.Text.Utf8

/-! Escapes in addresses. A character that may not stand in a part of an address is written as its
bytes, each after a `%` with two digits. -/
namespace Dialect.Address

inductive Part where
  | plain
  | user
  | path
  | query (strict : Bool)
  | fragment
  deriving Repr, DecidableEq

def isControl (c : Char) : Bool := c.toNat < 0x20 || c.toNat == 0x7F

/-- The characters that a part escapes beside controls and what is not ASCII. -/
def Part.reserved : Part → List Char
  | .plain => []
  | .fragment => [' ', '"', '<', '>', '`']
  | .path => [' ', '"', '<', '>', '`', '#', '?', '{', '}']
  | .user =>
    [' ', '"', '<', '>', '`', '#', '?', '{', '}', '/', ':', ';', '=', '@', '[', '\\', ']', '^', '|']
  | .query false => [' ', '"', '#', '<', '>']
  | .query true => [' ', '"', '#', '<', '>', '\'']

def Part.escapes (part : Part) (c : Char) : Bool :=
  isControl c || 0x80 ≤ c.toNat || part.reserved.contains c

/-- The digit for a number below sixteen, a capital letter from ten on. -/
def hexDigit (n : Nat) : Char := if n < 10 then Char.ofNat (0x30 + n) else Char.ofNat (0x37 + n)

def escapeByte (b : UInt8) : List Char := ['%', hexDigit (b.toNat / 16), hexDigit (b.toNat % 16)]

def escape (part : Part) (text : List Char) : List Char :=
  text.flatMap fun c => if part.escapes c then (Utf8.encodeChar c).flatMap escapeByte else [c]

def hexValue? (c : Char) : Option Nat :=
  if isAsciiDigit c then some (c.toNat - 0x30)
  else if 'a' ≤ c ∧ c ≤ 'f' then some (c.toNat - 0x57)
  else if 'A' ≤ c ∧ c ≤ 'F' then some (c.toNat - 0x37)
  else none

def unescapeByte? (high low : Char) : Option UInt8 :=
  match hexValue? high, hexValue? low with
  | some high, some low => some (16 * high + low).toUInt8
  | _, _ => none

/-- The bytes of a text with its escapes undone. A `%` without two digits stands for itself. -/
def unescape : List Char → Bytes
  | '%' :: high :: low :: rest =>
    match unescapeByte? high low with
    | some b => b :: unescape rest
    | none => Utf8.encodeChar '%' ++ unescape (high :: low :: rest)
  | c :: rest => Utf8.encodeChar c ++ unescape rest
  | [] => []

def lower (text : List Char) : List Char :=
  text.map fun c => if 'A' ≤ c ∧ c ≤ 'Z' then Char.ofNat (c.toNat + 0x20) else c

end Dialect.Address
