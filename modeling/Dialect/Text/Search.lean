import Dialect.Text.Measure

/-! Finding and replacing in a text. A pattern is a function that is asked at one place, with the
character before that place, and answers what it found there and how many characters it took. All
searches go from left to right and go on after the end of what they found. -/
namespace Dialect

/-- A stretch of a text, by the index of its first character and of the one after its last. -/
structure Span where
  start : Nat
  stop : Nat
  deriving Repr, DecidableEq

namespace Span

def isEmpty (span : Span) : Bool := span.start == span.stop

def slice (span : Span) (text : List Char) : List Char :=
  (text.drop span.start).take (span.stop - span.start)

/-- The same stretch in byte offsets of `text`. -/
def bytes (span : Span) (text : List Char) : Span :=
  ⟨byteOffset text span.start, byteOffset text span.stop⟩

end Span

/-- What follows `word` at the start of `text`. -/
def after? (word text : List Char) : Option (List Char) :=
  match word, text with
  | [], rest => some rest
  | _ :: _, [] => none
  | w :: word, c :: text => if w = c then after? word text else none

def startsWith (word text : List Char) : Bool := word.isPrefixOf text

def endsWith (word text : List Char) : Bool := word.isSuffixOf text

def occursIn (word : List Char) : List Char → Bool
  | [] => word.isEmpty
  | c :: rest => startsWith word (c :: rest) || occursIn word rest

structure Found (α : Type) where
  span : Span
  value : α
  deriving Repr

/-- All places where `pattern` recognises something, from left to right without overlaps. `skip`
counts the characters of the last find that are still to be passed, `index` the place reached. -/
def findFrom {α : Type} (pattern : Option Char → List Char → Option (α × Nat))
    (before : Option Char) (skip index : Nat) : List Char → List (Found α)
  | [] => []
  | c :: rest =>
    match skip with
    | skip + 1 => findFrom pattern (some c) skip (index + 1) rest
    | 0 =>
      match pattern before (c :: rest) with
      | some (value, taken + 1) =>
        ⟨⟨index, index + taken + 1⟩, value⟩ :: findFrom pattern (some c) taken (index + 1) rest
      | _ => findFrom pattern (some c) 0 (index + 1) rest

def findAll {α : Type} (pattern : Option Char → List Char → Option (α × Nat))
    (text : List Char) : List (Found α) :=
  findFrom pattern none 0 0 text

/-- Exchanges what `rule` recognises for the text that it gives, from left to right; `skip` counts
the recognised characters still to be passed. -/
def replaceFrom (rule : List Char → Option (List Char × Nat)) (skip : Nat) :
    List Char → List Char
  | [] => []
  | c :: rest =>
    match skip with
    | skip + 1 => replaceFrom rule skip rest
    | 0 =>
      match rule (c :: rest) with
      | some (replacement, taken + 1) => replacement ++ replaceFrom rule taken rest
      | _ => c :: replaceFrom rule 0 rest

/-- Exchanges every `word` for `replacement`; an empty word stands between all characters. -/
def replaceAll (word replacement text : List Char) : List Char :=
  if word.isEmpty then replacement ++ text.flatMap (fun c => c :: replacement)
  else replaceFrom (fun here => if startsWith word here then some (replacement, word.length) else none)
    0 text

end Dialect
