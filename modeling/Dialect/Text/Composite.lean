import Dialect.Text.CombiningClass
import Dialect.Text.Composite.Table

/-! Texts in which each letter and its marks are one character, where there is one for them. The marks
that follow a letter come in the order of their classes, so that texts which mean the same become equal.
Characters that are another spelling of a single character are left as they are. -/
namespace Dialect

namespace Hangul

/-- A syllable of a leading consonant and a vowel, or of such a syllable and a trailing consonant. -/
def join? (first second : Char) : Option Char :=
  let a := first.toNat
  let b := second.toNat
  if 0x1100 ≤ a && a ≤ 0x1112 && 0x1161 ≤ b && b ≤ 0x1175 then
    some (Char.ofNat (0xAC00 + ((a - 0x1100) * 21 + (b - 0x1161)) * 28))
  else if 0xAC00 ≤ a && a ≤ 0xD7A3 && (a - 0xAC00) % 28 == 0 && 0x11A8 ≤ b && b ≤ 0x11C2 then
    some (Char.ofNat (a + (b - 0x11A7)))
  else none

def parts? (c : Char) : Option (Char × Char) :=
  if 0xAC00 ≤ c.toNat && c.toNat ≤ 0xD7A3 then
    let n := c.toNat - 0xAC00
    if n % 28 == 0 then some (Char.ofNat (0x1100 + n / 588), Char.ofNat (0x1161 + n % 588 / 28))
    else some (Char.ofNat (c.toNat - n % 28), Char.ofNat (0x11A7 + n % 28))
  else none

end Hangul

namespace Composite

/-- The characters of a text two by two. -/
def pairs : List Char → List (Char × Char)
  | first :: second :: rest => (first, second) :: pairs rest
  | _ => []

def join? (first second : Char) : Option Char :=
  (Hangul.join? first second).or (composites.findSome? fun (mark, row) =>
    if mark = second.toNat then (pairs row.toList).lookup first else none)

/-- The two characters that a composite stands for. -/
def parts? (c : Char) : Option (Char × Char) :=
  if c.toNat < 0x80 then none
  else (Hangul.parts? c).or (composites.findSome? fun (mark, row) =>
    ((pairs row.toList).find? fun (_, composite) => composite == c).map
      fun (first, _) => (first, Char.ofNat mark))

def opened (text : List Char) : List Char :=
  text.flatMap fun c =>
    match parts? c with
    | some (first, second) => [first, second]
    | none => [c]

/-- No composite has more than four characters in it, so three times open all. -/
def decomposed (text : List Char) : List Char := opened (opened (opened text))

/-- Puts a mark in front of marks whose places are in order, behind those of lower classes. -/
def settle (mark : Char) : List Char → List Char
  | [] => [mark]
  | c :: rest =>
    if 0 < combiningClass c && combiningClass c < combiningClass mark then c :: settle mark rest
    else mark :: c :: rest

/-- The marks after each letter in the order of their classes; marks of one class keep theirs. -/
def settled : List Char → List Char
  | [] => []
  | c :: rest => if combiningClass c = 0 then c :: settled rest else settle c (settled rest)

/-- Brings what follows `letter` into it as far as there are composites. `kept` has the marks that could
not go into it, last first. A mark only goes past marks of lower classes. -/
def gather (letter : Char) (kept : List Char) : List Char → List Char
  | [] => letter :: kept.reverse
  | c :: rest =>
    let free := kept.head?.all fun last => combiningClass last < combiningClass c
    match if free then join? letter c else none with
    | some composite => gather composite kept rest
    | none =>
      if combiningClass c = 0 then letter :: kept.reverse ++ gather c [] rest
      else gather letter (c :: kept) rest

end Composite

open Composite in
/-- The text in which composites stand wherever they can. -/
def composed (text : List Char) : List Char :=
  match settled (decomposed text) with
  | [] => []
  | c :: rest => gather c [] rest

end Dialect
