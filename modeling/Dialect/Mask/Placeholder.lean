import Dialect.Text.Search

/-! Placeholders: identifiers that stand for dialect constructs while the host formatter works on a
document. -/
namespace Dialect

inductive PlaceholderKind where
  | plain
  | assignment
  /-- Follows an added `;` and stands for nothing: what precedes it joins the `=` after it. -/
  | continuation
  deriving Repr, DecidableEq

structure Placeholder where
  token : List Char
  text : List Char
  kind : PlaceholderKind
  deriving Repr, DecidableEq

/-- What all tokens start with, unless the document holds it. -/
def baseStem : List Char := "__znix_mask".toList

/-- Lengthens `stem` until `text` does not hold it, at most `fuel` times. -/
def lengthenStem (text : List Char) : Nat → List Char → List Char
  | 0, stem => stem
  | fuel + 1, stem => if occursIn stem text then lengthenStem text fuel (stem ++ ['_']) else stem

/-- A stem that does not occur in `text`. A stem longer than the text cannot occur in it, so that
many steps are enough. -/
def freshStem (text : List Char) : List Char := lengthenStem text (text.length + 1) baseStem

def tokenOf (stem : List Char) (number : Nat) : List Char :=
  stem ++ (toString number).toList ++ ['_', '_']

end Dialect
