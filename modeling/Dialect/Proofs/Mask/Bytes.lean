import Dialect.Proofs.Mask.Splice
import Dialect.Proofs.Position.Bytes

/-! Splices in byte offsets. Between offsets that cut nothing out of the source its text would be lost without a word;
the offsets of the splices of a masking are in order and between characters, so nothing is. -/
namespace Dialect

variable {source : List Char}

namespace Splice

/-- The same exchange in byte offsets. -/
def bytes (source : List Char) (splice : Splice) : Splice := ⟨splice.span.bytes source, splice.replacement⟩

/-- Carries out splices that are given in byte offsets. What cannot be cut out is left out. -/
def weaveBytes (source : List Char) (cursor : Nat) : List Splice → List Char
  | [] => (Span.cut? ⟨cursor, byteLength source⟩ source).getD []
  | splice :: rest =>
    (Span.cut? ⟨cursor, splice.span.start⟩ source).getD [] ++ splice.replacement ++
      weaveBytes source splice.span.stop rest

theorem weaveBytes_map_bytes {cursor : Nat} {splices : List Splice} (chain : Chain source cursor splices)
    (inside : cursor ≤ source.length) :
    weaveBytes source (byteOffset source cursor) (splices.map (bytes source)) = weave source cursor splices := by
  induction splices generalizing cursor with
  | nil =>
    rw [List.map_nil, weaveBytes, weave, cut?_from inside, Option.getD_some]
  | cons splice rest ih =>
    obtain ⟨low, order, high⟩ := chain.inside splice List.mem_cons_self
    have before := cut?_byteOffset low (Nat.le_trans order high)
    simp only [List.map_cons, weaveBytes, weave, bytes, Span.bytes, before, Option.getD_some]
    congr 1
    exact ih chain.tail high

theorem precedes_bytes {a b : Splice} (fits : a.span.Fits source) (fits' : b.span.Fits source) :
    precedes (bytes source a) (bytes source b) = precedes a b := by
  have start := Nat.le_trans fits.order fits.inside
  have start' := Nat.le_trans fits'.order fits'.inside
  have stops := byteOffset_lt_iff (i := b.span.stop) fits.inside
  have stops : byteOffset source a.span.stop ≤ byteOffset source b.span.stop ↔ a.span.stop ≤ b.span.stop := by
    rw [← Nat.not_lt, stops, Nat.not_lt]
  rw [Bool.eq_iff_iff]
  simp [precedes, bytes, Span.bytes, byteOffset_lt_iff start', byteOffset_inj start start', stops]

/-- Whether a span is taken already is the same question in byte offsets. -/
theorem meets_bytes {splice : Splice} {span : Span} (fits : splice.span.Fits source) (fits' : span.Fits source) :
    (bytes source splice).meets (span.bytes source) = splice.meets span := by
  have start := Nat.le_trans fits.order fits.inside
  have start' := Nat.le_trans fits'.order fits'.inside
  rw [Bool.eq_iff_iff]
  simp [meets, bytes, Span.bytes, Span.isEmpty, byteOffset_inj start' fits'.inside, byteOffset_lt_iff start',
    byteOffset_lt_iff fits.inside, byteOffset_lt_iff fits'.inside]

end Splice

/-- Masking in byte offsets loses nothing and gives the same text. -/
theorem body_mask_bytes (mode : MaskMode) (source : List Char) :
    (mask mode source).body =
      Splice.weaveBytes source 0 (Splice.sort ((Draft.ofSource mode source).splices.map (Splice.bytes source))) := by
  have fits : ∀ s ∈ (Draft.ofSource mode source).splices, s.span.Fits source := by
    intro s member
    obtain ⟨order, inside⟩ := spans_ofSource_inside member
    exact ⟨order, inside⟩
  have sorted := sortBy_map fun a member b member' => Splice.precedes_bytes (fits a member) (fits b member')
  have woven := Splice.weaveBytes_map_bytes (Splice.chain_sort mode source) (Nat.zero_le _)
  rw [Splice.sort, sorted, body_mask, ← woven]
  rfl

end Dialect
