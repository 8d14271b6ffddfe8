import Dialect.Code.TopLevel
import Dialect.Declaration.Head
import Dialect.Diagnostic

/-! Typed declarations `declare NAME : TYPE OPTIONS = VALUE;`. The value is not parsed; it ends at the
first top-level `;`. -/
namespace Dialect

structure Declaration where
  name : List Char
  type : DeclaredType
  /-- The quoted words between the type and the `=`, in source order. -/
  options : List (List Char)
  head : Span
  equals : Nat
  /-- The value without surrounding blanks; none when it is blank or no `;` ends it. -/
  value : Option Span
  deriving Repr, DecidableEq

/-- Whether a comment has started before the end of `before`, strings not considered. -/
def isCommented (before : List Char) : Bool := (lineBefore before).contains commentMarker

def quotedWord? (_ : Option Char) (here : List Char) : Option (List Char × Nat) := do
  let rest ← after? ['"'] here
  let word := rest.takeWhile (· ≠ '"')
  let _ ← after? ['"'] (rest.drop word.length)
  return (word, word.length + 2)

/-- The part of `span` between its first and its last character that is not blank. -/
def trimSpan? (text : List Char) (span : Span) : Option Span :=
  let slice := span.slice text
  let start := span.start + (slice.takeWhile isBlank).length
  if isBlankText slice then none else some ⟨start, start + (trim slice).length⟩

namespace Declaration

/-- Completes a head that was found in `text`. -/
def ofHead? (text : List Char) (found : Found Head) : Option Declaration := do
  if isCommented (text.take found.span.start) then none
  let gap ← topLevel? .equals (text.drop found.span.stop)
  let equals := found.span.stop + gap
  let options := (findAll quotedWord? (Span.slice ⟨found.span.stop, equals⟩ text)).map (·.value)
  let value := (topLevel? .terminator (text.drop (equals + 1))).bind fun length =>
    trimSpan? text ⟨equals + 1, equals + 1 + length⟩
  return ⟨found.value.name, .ofName found.value.typeName, options, found.span, equals, value⟩

/-- The stretch between the type and the `=`. -/
def optionSpan (d : Declaration) : Span := ⟨d.head.stop, d.equals⟩

/-- Something else than blanks stands between the type and the `=`. -/
def hasInlineOptions (d : Declaration) (text : List Char) : Bool :=
  !isBlankText (d.optionSpan.slice text)

end Declaration

def findDeclarations (text : List Char) : List Declaration :=
  (findAll head? text).filterMap (Declaration.ofHead? text)

end Dialect
