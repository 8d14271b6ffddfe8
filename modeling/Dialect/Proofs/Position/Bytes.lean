import Dialect.Proofs.Position.Offset
import Dialect.Proofs.Text.Utf8

/-! Stretches of a document in byte offsets. The offsets of a span of characters cut its text out of the document and
its bytes out of the document's bytes, and no other offsets cut out anything. -/
namespace Dialect

theorem Utf8.length_encodeChar (c : Char) : (Utf8.encodeChar c).length = byteWidth c := by
  simp only [Utf8.encodeChar, byteWidth, Char.utf8Size, Char.toNat, UInt32.le_iff_toNat_le]
  split_ifs <;> simp_all <;> omega

theorem Utf8.length_encode (text : List Char) : (Utf8.encode text).length = byteLength text := by
  induction text with
  | nil => rfl
  | cons c text ih =>
    rw [Utf8.encode, List.flatMap_cons, List.length_append, Utf8.length_encodeChar, byteLength, measure_cons,
      ← byteLength, ← ih, Utf8.encode]

theorem Utf8.encode_append (front back : List Char) :
    Utf8.encode (front ++ back) = Utf8.encode front ++ Utf8.encode back := List.flatMap_append

/-- The byte offsets that stand before a character, or at the end, and how many characters stand before them. -/
theorem charsIn?_eq_some_iff {text : List Char} {offset index : Nat} :
    charsIn? byteWidth offset text = some index ↔ index ≤ text.length ∧ byteOffset text index = offset := by
  constructor
  · intro counted
    induction text generalizing offset index with
    | nil =>
      cases offset with
      | zero =>
        obtain rfl := Option.some.inj counted
        exact ⟨Nat.le_refl _, rfl⟩
      | succ offset => cases counted
    | cons c text ih =>
      cases offset with
      | zero =>
        obtain rfl := Option.some.inj counted
        exact ⟨Nat.zero_le _, rfl⟩
      | succ offset =>
        rw [charsIn?, Option.ite_none_right_eq_some] at counted
        obtain ⟨wide, counted⟩ := counted
        obtain ⟨rest, further, rfl⟩ := Option.map_eq_some_iff.mp counted
        obtain ⟨inside, same⟩ := ih further
        refine ⟨Nat.succ_le_succ inside, ?_⟩
        rw [byteOffset_cons, same, Nat.add_sub_of_le wide]
  · rintro ⟨inside, rfl⟩
    exact charsIn?_byteOffset inside

theorem byteOffset_lt_iff {text : List Char} {i j : Nat} (inside : j ≤ text.length) :
    byteOffset text i < byteOffset text j ↔ i < j := by
  constructor
  · intro less
    by_contra later
    exact Nat.not_lt.mpr (byteOffset_le text (Nat.le_of_not_lt later)) less
  · intro less
    exact byteOffset_lt less inside

theorem byteOffset_inj {text : List Char} {i j : Nat} (first : i ≤ text.length) (second : j ≤ text.length) :
    byteOffset text i = byteOffset text j ↔ i = j := by
  constructor
  · intro same
    apply Nat.le_antisymm
    · exact Nat.le_of_not_lt fun less => Nat.ne_of_gt (byteOffset_lt less first) same
    · exact Nat.le_of_not_lt fun less => Nat.ne_of_lt (byteOffset_lt less second) same
  · rintro rfl
    rfl

namespace Span

variable {text : List Char} {span : Span}

/-- The span does not end before it starts, and ends in the text. -/
structure Fits (span : Span) (text : List Char) : Prop where
  order : span.start ≤ span.stop
  inside : span.stop ≤ text.length

/-- The text between two byte offsets, if these are ends of characters and in order. -/
def cut? (span : Span) (text : List Char) : Option (List Char) :=
  if span.start ≤ span.stop then bytesBetween? text span.start span.stop else none

/-- The offsets of a span cut out its text. -/
theorem Fits.cut? (fits : span.Fits text) : (span.bytes text).cut? text = some (span.slice text) := by
  have start := charsIn?_byteOffset (Nat.le_trans fits.order fits.inside)
  have stop := charsIn?_byteOffset fits.inside
  rw [Span.cut?, bytes, if_pos (byteOffset_le text fits.order), bytesBetween?, start, stop]
  rfl

/-- Offsets that cut out anything are those of a span. -/
theorem exists_of_cut? {part : List Char} (found : span.cut? text = some part) :
    ∃ inner : Span, inner.Fits text ∧ inner.bytes text = span ∧ inner.slice text = part := by
  rw [Span.cut?, Option.ite_none_right_eq_some] at found
  obtain ⟨order, found⟩ := found
  obtain ⟨first, start, found⟩ := Option.bind_eq_some_iff.mp found
  obtain ⟨last, stop, found⟩ := Option.bind_eq_some_iff.mp found
  obtain ⟨inside, start⟩ := charsIn?_eq_some_iff.mp start
  obtain ⟨inside', stop⟩ := charsIn?_eq_some_iff.mp stop
  refine ⟨⟨first, last⟩, ⟨?_, inside'⟩, ?_, Option.some.inj found⟩
  · by_contra later
    have less := byteOffset_lt (Nat.lt_of_not_le later) inside
    rw [start, stop] at less
    exact Nat.not_lt.mpr order less
  · rw [bytes, start, stop]

/-- A text is what stands before a span, the span, and what stands behind it. -/
theorem Fits.split (fits : span.Fits text) :
    text = text.take span.start ++ (span.slice text ++ text.drop span.stop) := by
  rw [slice_append_drop span text fits.order, List.take_append_drop]

theorem Fits.byteOffset_stop (fits : span.Fits text) :
    byteOffset text span.stop = byteOffset text span.start + byteLength (span.slice text) := by
  have part : text.take span.stop = text.take span.start ++ span.slice text := by
    rw [slice, ← List.take_add, Nat.add_sub_of_le fits.order]
  rw [byteOffset, part, byteLength, measure_append]
  rfl

/-- The bytes between the offsets of a span are those of its text. -/
theorem Fits.encode_slice (fits : span.Fits text) :
    ((Utf8.encode text).drop (span.bytes text).start).take ((span.bytes text).stop - (span.bytes text).start) =
      Utf8.encode (span.slice text) := by
  have length : (span.bytes text).stop - (span.bytes text).start = (Utf8.encode (span.slice text)).length := by
    rw [Utf8.length_encode, bytes, fits.byteOffset_stop, Nat.add_sub_cancel_left]
  have front : (span.bytes text).start = (Utf8.encode (text.take span.start)).length := (Utf8.length_encode _).symm
  have whole : Utf8.encode text = Utf8.encode (text.take span.start) ++
      (Utf8.encode (span.slice text) ++ Utf8.encode (text.drop span.stop)) := by
    rw [← Utf8.encode_append, ← Utf8.encode_append, ← fits.split]
  rw [length, front, whole, List.drop_left, List.take_left]

end Span

theorem cut?_byteOffset {text : List Char} {i j : Nat} (order : i ≤ j) (inside : j ≤ text.length) :
    Span.cut? ⟨byteOffset text i, byteOffset text j⟩ text = some (Span.slice ⟨i, j⟩ text) := by
  have fits : Span.Fits ⟨i, j⟩ text := ⟨order, inside⟩
  exact fits.cut?

theorem cut?_from {text : List Char} {start : Nat} (inside : start ≤ text.length) :
    Span.cut? ⟨byteOffset text start, byteLength text⟩ text = some (text.drop start) := by
  have rest := cut?_byteOffset inside (Nat.le_refl _)
  rwa [byteOffset_length, Span.slice, ← List.drop_take, List.take_length] at rest

end Dialect
