import Dialect.Text.Measure

/-! UTF-8 of bytes that may be wrong. The bytes fall into pieces: characters, sequences that cannot
become one, and at the very end perhaps the start of one. -/
namespace Dialect

abbrev Bytes := List UInt8

namespace Utf8

def encodeChar (c : Char) : Bytes :=
  let n := c.toNat
  if n < 0x80 then [n.toUInt8]
  else if n < 0x800 then [(0xC0 + n / 0x40).toUInt8, (0x80 + n % 0x40).toUInt8]
  else if n < 0x10000 then
    [(0xE0 + n / 0x1000).toUInt8, (0x80 + n / 0x40 % 0x40).toUInt8, (0x80 + n % 0x40).toUInt8]
  else
    [(0xF0 + n / 0x40000).toUInt8, (0x80 + n / 0x1000 % 0x40).toUInt8,
      (0x80 + n / 0x40 % 0x40).toUInt8, (0x80 + n % 0x40).toUInt8]

def encode (text : List Char) : Bytes := text.flatMap encodeChar

inductive Piece where
  | char (c : Char) (size : Nat)
  /-- The longest start of a character that the next byte does not go on with, or a byte that starts
  none. -/
  | broken (size : Nat)
  | cut (size : Nat)
  deriving Repr, DecidableEq

def Piece.size : Piece → Nat
  | .char _ size | .broken size | .cut size => size

/-- Whether `b` can be the second byte of a character that starts with `lead`. Overlong forms,
surrogates and numbers beyond the last character are excluded here. -/
def isSecond (lead b : UInt8) : Bool :=
  if lead = 0xE0 then 0xA0 ≤ b && b ≤ 0xBF
  else if lead = 0xED then 0x80 ≤ b && b ≤ 0x9F
  else if lead = 0xF0 then 0x90 ≤ b && b ≤ 0xBF
  else if lead = 0xF4 then 0x80 ≤ b && b ≤ 0x8F
  else 0x80 ≤ b && b ≤ 0xBF

def isContinuation (b : UInt8) : Bool := 0x80 ≤ b && b ≤ 0xBF

/-- How many bytes a character that starts with `lead` has; none if no character does. -/
def lengthOf? (lead : UInt8) : Option Nat :=
  if lead < 0x80 then some 1
  else if 0xC2 ≤ lead && lead ≤ 0xDF then some 2
  else if 0xE0 ≤ lead && lead ≤ 0xEF then some 3
  else if 0xF0 ≤ lead && lead ≤ 0xF4 then some 4
  else none

/-- The bits that a byte after the first contributes. -/
def payload (b : UInt8) : Nat := b.toNat % 0x40

/-- The piece at the start of `lead :: rest`. -/
def pieceAt (lead : UInt8) (rest : Bytes) : Piece :=
  match lengthOf? lead with
  | none => .broken 1
  | some 1 => .char (Char.ofNat lead.toNat) 1
  | some length =>
    match rest with
    | [] => .cut 1
    | b :: rest =>
      if !isSecond lead b then .broken 1
      else if length = 2 then .char (Char.ofNat (lead.toNat % 0x20 * 0x40 + payload b)) 2
      else match rest with
        | [] => .cut 2
        | c :: rest =>
          if !isContinuation c then .broken 2
          else if length = 3 then
            .char (Char.ofNat (lead.toNat % 0x10 * 0x1000 + payload b * 0x40 + payload c)) 3
          else match rest with
            | [] => .cut 3
            | d :: _ =>
              if !isContinuation d then .broken 3
              else
                .char (Char.ofNat (lead.toNat % 0x08 * 0x40000 + payload b * 0x1000 +
                  payload c * 0x40 + payload d)) 4

/-- The pieces of the input; `skip` counts the bytes of the last one still to be passed. -/
def piecesFrom (skip : Nat) : Bytes → List Piece
  | [] => []
  | b :: rest =>
    match skip with
    | skip + 1 => piecesFrom skip rest
    | 0 => pieceAt b rest :: piecesFrom ((pieceAt b rest).size - 1) rest

def pieces (bytes : Bytes) : List Piece := piecesFrom 0 bytes

/-- Why bytes are no text: where the first piece that is no character starts, and how long it is
unless the input ends in it. -/
structure Fault where
  index : Nat
  size : Option Nat
  deriving Repr, DecidableEq

def Fault.message (fault : Fault) : String :=
  match fault.size with
  | some size => s!"invalid utf-8 sequence of {size} bytes from index {fault.index}"
  | none => s!"incomplete utf-8 byte sequence from index {fault.index}"

/-- The first fault among pieces that start at `index`. -/
def faultFrom? (index : Nat) : List Piece → Option Fault
  | [] => none
  | .char _ size :: rest => faultFrom? (index + size) rest
  | .broken size :: _ => some ⟨index, some size⟩
  | .cut _ :: _ => some ⟨index, none⟩

/-- What a piece reads as when faults are tolerated. -/
def Piece.shown : Piece → Char
  | .char c _ => c
  | .broken _ | .cut _ => '\ufffd'

/-- The text, with a replacement character for every piece that is none. -/
def decodeLossy (bytes : Bytes) : List Char := (pieces bytes).map Piece.shown

def decode (bytes : Bytes) : Except Fault (List Char) :=
  match faultFrom? 0 (pieces bytes) with
  | some fault => .error fault
  | none => .ok (decodeLossy bytes)

end Utf8

end Dialect
