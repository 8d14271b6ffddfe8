import Dialect.Order
import Dialect.Text.Search

/-! Splices: replacements of stretches of a source, collected in any order and carried out from left
to right. -/
namespace Dialect

structure Splice where
  span : Span
  replacement : List Char
  deriving Repr, DecidableEq

namespace Splice

/-- Whether `span` runs into the splice. An empty span runs into it only strictly inside. -/
def meets (splice : Splice) (span : Span) : Bool :=
  if span.isEmpty then splice.span.start < span.start && span.start < splice.span.stop
  else splice.span.start < span.stop && span.start < splice.span.stop

/-- The order in which splices are carried out: by start, then by stop. -/
def precedes (a b : Splice) : Bool :=
  a.span.start < b.span.start || (a.span.start == b.span.start && a.span.stop ≤ b.span.stop)

/-- In the order of execution; splices of the same span keep their order. -/
def sort (splices : List Splice) : List Splice := sortBy precedes splices

/-- Carries out sorted splices on what `source` holds from `cursor` on. -/
def weave (source : List Char) (cursor : Nat) : List Splice → List Char
  | [] => source.drop cursor
  | splice :: rest =>
    Span.slice ⟨cursor, splice.span.start⟩ source ++ splice.replacement ++
      weave source splice.span.stop rest

end Splice

end Dialect
