import Dialect.Proofs.Declaration.Value
import Dialect.Proofs.Position.Bytes

/-! The search for declarations and their check in byte offsets. Both count on with the widths of what they cut out of
the document, and come to the offsets of the spans. -/
namespace Dialect

variable {text : List Char}

/-- The byte offset of the first target from an offset on. -/
def topLevelByte? (target : Target) (text : List Char) (start : Nat) : Option Nat :=
  (Span.cut? ⟨start, byteLength text⟩ text).bind fun rest =>
    (topLevel? target rest).map fun index => start + byteOffset rest index

/-- A stretch without its blanks on both sides, by how much shorter these make its text. -/
def trimBytes? (text : List Char) (span : Span) : Option Span := do
  let slice ← span.cut? text
  let start := span.start + (byteLength slice - byteLength (trimStart slice))
  if (trim slice).isEmpty then none
  return ⟨start, start + byteLength (trim slice)⟩

/-- The offset of a character behind a place, counted from there. -/
theorem byteOffset_add (text : List Char) (start index : Nat) :
    byteOffset text (start + index) = byteOffset text start + byteOffset (text.drop start) index := by
  rw [byteOffset, List.take_add, byteLength, measure_append]
  rfl

theorem topLevelByte?_byteOffset (target : Target) {start : Nat} (inside : start ≤ text.length) :
    topLevelByte? target text (byteOffset text start) =
      (topLevel? target (text.drop start)).map fun index => byteOffset text (start + index) := by
  rw [topLevelByte?, cut?_from inside, Option.bind_some]
  congr 1
  funext index
  exact (byteOffset_add text start index).symm

/-- The blanks at the start of a stretch are as wide as its text gets shorter without them. -/
theorem byteOffset_blanks (span : Span) (text : List Char) :
    byteOffset text (span.start + ((span.slice text).takeWhile isBlank).length) =
      byteOffset text span.start + (byteLength (span.slice text) - byteLength (trimStart (span.slice text))) := by
  obtain ⟨rest, whole⟩ : ∃ rest, text.drop span.start = span.slice text ++ rest := ⟨_, (List.take_append_drop _ _).symm⟩
  have split : (span.slice text).takeWhile isBlank ++ trimStart (span.slice text) = span.slice text :=
    List.takeWhile_append_dropWhile
  have width := measure_append byteWidth ((span.slice text).takeWhile isBlank) (trimStart (span.slice text))
  have front : byteOffset (text.drop span.start) ((span.slice text).takeWhile isBlank).length =
      byteLength ((span.slice text).takeWhile isBlank) := by
    rw [byteOffset, whole]
    nth_rewrite 2 [← split]
    rw [List.append_assoc, List.take_left]
  rw [split] at width
  rw [byteOffset_add, front, byteLength, byteLength, byteLength, width, Nat.add_sub_cancel]

theorem trimBytes?_bytes {span : Span} (fits : span.Fits text) :
    trimBytes? text (span.bytes text) = (trimSpan? text span).map (·.bytes text) := by
  have blank : (trim (span.slice text)).isEmpty = isBlankText (span.slice text) := by
    rw [Bool.eq_iff_iff, List.isEmpty_iff, trim_eq_nil]
  simp only [trimBytes?, fits.cut?, Option.bind_eq_bind, Option.bind_some, blank]
  cases found : trimSpan? text span with
  | none =>
    have hidden := trimSpan?_isSome text span
    rw [found, Option.isSome_none, Eq.comm, Bool.not_eq_false'] at hidden
    rw [hidden]
    rfl
  | some inner =>
    have visible := trimSpan?_isSome text span
    rw [found, Option.isSome_some, Eq.comm, Bool.not_eq_true'] at visible
    have start : inner.start = span.start + ((span.slice text).takeWhile isBlank).length := by
      rw [trimSpan?, visible] at found
      rw [← Option.some.inj found]
    obtain ⟨filled, inside⟩ := inside_of_trimSpan? found
    have fits' : inner.Fits text := ⟨Nat.le_of_lt filled, inside⟩
    have stop := fits'.byteOffset_stop
    rw [slice_trimSpan? found] at stop
    rw [visible, Option.map_some, Span.bytes, Span.bytes, stop, start, byteOffset_blanks]
    rfl

/-- What is enclosed by a place and the terminator behind it, without its blanks. -/
theorem value_bytes {start : Nat} (inside : start ≤ text.length) :
    ((topLevelByte? .terminator text (byteOffset text start)).bind fun stop =>
        trimBytes? text ⟨byteOffset text start, stop⟩) =
      ((topLevel? .terminator (text.drop start)).bind fun length =>
        trimSpan? text ⟨start, start + length⟩).map (·.bytes text) := by
  rw [topLevelByte?_byteOffset .terminator inside]
  cases terminator : topLevel? .terminator (text.drop start) with
  | none => rfl
  | some length =>
    obtain ⟨inside, _⟩ := List.getElem?_eq_some_iff.mp (getElem?_terminator terminator)
    have fits : Span.Fits ⟨start, start + length⟩ text := ⟨Nat.le_add_right _ _, Nat.le_of_lt inside⟩
    exact trimBytes?_bytes fits

namespace Declaration

/-- The same declaration in byte offsets. -/
def bytes (text : List Char) (d : Declaration) : Declaration :=
  { d with head := d.head.bytes text, equals := byteOffset text d.equals, value := d.value.map (·.bytes text) }

/-- Completes a head that stands between byte offsets. -/
def ofHeadBytes? (text : List Char) (head : Head) (span : Span) : Option Declaration := do
  if (Span.cut? ⟨0, span.start⟩ text).any isCommented then none
  let equals ← topLevelByte? .equals text span.stop
  let options := (findAll quotedWord? ((Span.cut? ⟨span.stop, equals⟩ text).getD [])).map (·.value)
  let value := (topLevelByte? .terminator text (equals + 1)).bind fun stop => trimBytes? text ⟨equals + 1, stop⟩
  return ⟨head.name, .ofName head.typeName, options, span, equals, value⟩

/-- What the check says of a declaration in byte offsets. -/
def findingBytes? (text : List Char) (d : Declaration) : Option Finding := do
  let span ← d.value
  let value ← span.cut? text
  if d.type.accepts d.options value then none
  return ⟨d.problem value, ⟨.ofByte text span.start, .ofByte text span.stop⟩⟩

theorem findingBytes?_bytes {d : Declaration} (member : d ∈ findDeclarations text) :
    findingBytes? text (d.bytes text) = d.finding? text := by
  rw [findingBytes?, finding?, bytes]
  cases given : d.value with
  | none => rfl
  | some value =>
    obtain ⟨filled, inside⟩ := inside_of_value member given
    have fits : value.Fits text := ⟨Nat.le_of_lt filled, inside⟩
    simp only [Option.map_some, Option.bind_eq_bind, Option.bind_some, fits.cut?]
    simp only [Span.bytes, Position.ofByte_byteOffset inside,
      Position.ofByte_byteOffset (Nat.le_trans fits.order inside)]
    split <;> rfl

theorem ofHeadBytes?_bytes {found : Found Head} (fits : found.span.Fits text) :
    ofHeadBytes? text found.value (found.span.bytes text) = (ofHead? text found).map (bytes text) := by
  have start := Nat.le_trans fits.order fits.inside
  have before := cut?_byteOffset (Nat.zero_le found.span.start) start
  rw [Span.slice, Nat.sub_zero, List.drop_zero] at before
  simp only [ofHeadBytes?, ofHead?, Span.bytes, topLevelByte?_byteOffset _ fits.inside]
  rw [show (0 : Nat) = byteOffset text 0 from rfl, before, Option.any_some]
  by_cases commented : isCommented (text.take found.span.start) = true
  · simp [commented]
  rw [if_neg commented, if_neg commented]
  cases search : topLevel? .equals (text.drop found.span.stop) with
  | none => rfl
  | some gap =>
    obtain ⟨front, behind, split, length, _⟩ := topLevel?_equals search
    have sign : text[found.span.stop + gap]? = some '=' := by
      rw [← List.getElem?_drop, split, length]
      simp
    obtain ⟨inside, _⟩ := List.getElem?_eq_some_iff.mp sign
    have between := cut?_byteOffset (Nat.le_add_right found.span.stop gap) (Nat.le_of_lt inside)
    have after : byteOffset text (found.span.stop + gap) + 1 = byteOffset text (found.span.stop + gap + 1) := by
      rw [byteOffset_add text (found.span.stop + gap) 1, ← List.drop_drop, split, length, List.drop_left]
      rfl
    simp only [Option.map_some, Option.bind_eq_bind, Option.bind_some, between, Option.getD_some, after,
      value_bytes (Nat.succ_le_of_lt inside)]
    rfl

end Declaration

theorem fits_of_mem_findAll_head? {found : Found Head} (member : found ∈ findAll head? text) :
    found.span.Fits text := by
  obtain ⟨_, order, recognised⟩ := mem_findAll member
  obtain ⟨lead, letter, rest, here, taken, _⟩ := head?_eq_some recognised
  have matched : text.drop found.span.start = ('d' :: lead ++ [letter]) ++ rest := by simp [here]
  obtain ⟨_, _, inside⟩ := Span.of_drop_eq matched (by simp; omega)
  exact ⟨Nat.le_of_lt order, inside (List.cons_ne_nil _ _)⟩

/-- The search for declarations in byte offsets finds the same ones. -/
theorem findDeclarations_bytes (text : List Char) :
    (findAll head? text).filterMap (fun found => Declaration.ofHeadBytes? text found.value (found.span.bytes text)) =
      (findDeclarations text).map (Declaration.bytes text) := by
  rw [findDeclarations, List.map_filterMap]
  apply List.filterMap_congr
  intro found member
  exact Declaration.ofHeadBytes?_bytes (fits_of_mem_findAll_head? member)

/-- And their check in byte offsets reports the same. -/
theorem checkDeclarations_bytes (text : List Char) :
    ((findDeclarations text).map (Declaration.bytes text)).filterMap (Declaration.findingBytes? text) =
      checkDeclarations text := by
  rw [checkDeclarations, List.filterMap_map]
  apply List.filterMap_congr
  intro d member
  exact Declaration.findingBytes?_bytes member

end Dialect
