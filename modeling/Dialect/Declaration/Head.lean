import Dialect.Text.Blank
import Dialect.Text.Search
import Dialect.Vocabulary

/-! The head `declare NAME : TYPE` of a declaration. -/
namespace Dialect

/-- Recognises `declare NAME :` at a word boundary, with the blanks after it; gives the name and what
follows. -/
def declaredName? (before : Option Char) (here : List Char) : Option (List Char × List Char) :=
  if before.any isWordChar then none
  else do
    let rest ← after? declareKeyword here
    if !rest.head?.any isBlank then none
    let name ← leadingWord? (trimStart rest)
    let rest ← after? [':'] (trimStart ((trimStart rest).drop name.length))
    return (name, trimStart rest)

/-- What a declaration says before its options and its value. -/
structure Head where
  name : List Char
  typeName : List Char
  deriving Repr, DecidableEq

/-- Recognises a head. The type name is a whole word of letters. -/
def head? (before : Option Char) (here : List Char) : Option (Head × Nat) := do
  let (name, rest) ← declaredName? before here
  let typeName := rest.takeWhile isAsciiLetter
  let rest := rest.drop typeName.length
  if typeName.isEmpty || !endsWord rest then none
  return (⟨name, typeName⟩, here.length - rest.length)

end Dialect
