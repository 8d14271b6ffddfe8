import Dialect.Mask.Basic
import Dialect.Proofs.Mask.Construct
import Dialect.Proofs.Order
import Dialect.Proofs.Text.Measure

/-! The splices of a masking do not collide. A construct is masked only where nothing before it has
claimed its stretch, and what it replaces beyond that stretch stays clear of all earlier
replacements. So the masked text is the source with every span exchanged for its replacement, and
nothing else is lost or repeated. -/
namespace Dialect

namespace Span

/-- No character belongs to both, and neither is a place strictly inside the other. -/
def Apart (a b : Span) : Prop := a.stop ≤ b.start ∨ b.stop ≤ a.start

theorem Apart.symm {a b : Span} (apart : a.Apart b) : b.Apart a := Or.symm apart

end Span

theorem Splice.apart_of_not_meets {splice : Splice} {span : Span} (nonempty : span.start < span.stop)
    (free : splice.meets span = false) : splice.span.Apart span := by
  have notEmpty : span.isEmpty = false := by simp [Span.isEmpty]; omega
  simp only [meets, notEmpty, Bool.false_eq_true, if_false, Bool.and_eq_false_iff,
    decide_eq_false_iff_not] at free
  simp only [Span.Apart]
  omega

namespace Construct

/-- The spans that masking the construct replaces. -/
def spans (mode : MaskMode) (source : List Char) : Construct → List Span
  | .declaration d =>
    match mode with
    | .check => [⟨d.head.start, d.equals⟩]
    | .format => if d.hasInlineOptions source then [d.head, ⟨d.equals, d.equals⟩] else [d.head]
  | .action span | .node span | .reference span => [span]

end Construct

namespace Draft

/-- The constructs that find their stretch free, in order. -/
def accepted (mode : MaskMode) (source : List Char) (draft : Draft) : List Construct → List Construct
  | [] => []
  | construct :: rest =>
    if draft.isClaimed construct.span then accepted mode source draft rest
    else construct :: accepted mode source (draft.mask mode source construct) rest

variable {mode : MaskMode} {source : List Char} {draft : Draft} {construct : Construct}

theorem mask_claimed (claimed : draft.isClaimed construct.span = true) :
    draft.mask mode source construct = draft := by
  rw [mask.eq_def, if_pos claimed]

theorem spans_mask (free : draft.isClaimed construct.span = false) :
    (draft.mask mode source construct).splices.map (·.span) =
      draft.splices.map (·.span) ++ construct.spans mode source := by
  rw [mask.eq_def, free]
  cases mode <;> cases construct <;> simp only [Bool.false_eq_true, if_false, Construct.spans]
  case format.declaration d => split <;> simp [split, plain, splice, remember]
  all_goals simp [plain, splice, remember]

theorem spans_foldl_mask (constructs : List Construct) (draft : Draft) :
    (constructs.foldl (mask mode source) draft).splices.map (·.span) =
      draft.splices.map (·.span) ++
        (accepted mode source draft constructs).flatMap (Construct.spans mode source) := by
  induction constructs generalizing draft with
  | nil => simp [accepted]
  | cons construct rest ih =>
    rw [List.foldl_cons, ih, accepted]
    split
    · next claimed => rw [mask_claimed claimed]
    · next free => rw [spans_mask (Bool.eq_false_iff.mpr free), List.flatMap_cons, List.append_assoc]

theorem accepted_sublist (constructs : List Construct) (draft : Draft) :
    (accepted mode source draft constructs).Sublist constructs := by
  induction constructs generalizing draft with
  | nil => exact .slnil
  | cons construct rest ih =>
    rw [accepted]
    split
    · exact (ih draft).cons construct
    · exact (ih _).cons_cons construct

/-- A masking keeps the splices that are there. -/
theorem mem_spans_mask {span : Span} (member : span ∈ draft.splices.map (·.span)) :
    span ∈ (draft.mask mode source construct).splices.map (·.span) := by
  cases claimed : draft.isClaimed construct.span with
  | true => rwa [mask_claimed claimed]
  | false =>
    rw [spans_mask claimed]
    exact List.mem_append_left _ member

theorem apart_of_not_claimed {span : Span} (nonempty : span.start < span.stop)
    (free : draft.isClaimed span = false) : ∀ s ∈ draft.splices.map (·.span), s.Apart span := by
  intro s member
  obtain ⟨splice, there, rfl⟩ := List.mem_map.mp member
  simp only [isClaimed, List.any_eq_false, Bool.not_eq_true] at free
  exact Splice.apart_of_not_meets nonempty (free splice there)

/-- What is accepted stays clear of everything that was replaced before. -/
theorem accepted_apart {constructs : List Construct}
    (nonempty : ∀ c ∈ constructs, c.span.start < c.span.stop) (draft : Draft) :
    ∀ c ∈ accepted mode source draft constructs, ∀ s ∈ draft.splices.map (·.span), s.Apart c.span := by
  induction constructs generalizing draft with
  | nil => simp [accepted]
  | cons construct rest ih =>
    have ih := ih fun c member => nonempty c (List.mem_cons_of_mem _ member)
    intro c member s there
    rw [accepted] at member
    split at member
    · exact ih draft c member s there
    · next free =>
      rcases List.mem_cons.mp member with rfl | member
      · exact apart_of_not_claimed (nonempty c List.mem_cons_self) (Bool.eq_false_iff.mpr free) s there
      · exact ih _ c member s (mem_spans_mask there)

end Draft

/-- Whatever `a` replaces and does not reach the stretch of `b` is clear of all that `b` replaces. -/
def Construct.Fits (mode : MaskMode) (source : List Char) (a b : Construct) : Prop :=
  ∀ s ∈ a.spans mode source, s.Apart b.span → ∀ t ∈ b.spans mode source, s.Apart t

namespace Draft

variable {mode : MaskMode} {source : List Char}

theorem accepted_pairwise {constructs : List Construct}
    (nonempty : ∀ c ∈ constructs, c.span.start < c.span.stop)
    (fits : constructs.Pairwise (Construct.Fits mode source)) (draft : Draft) :
    (accepted mode source draft constructs).Pairwise fun a b =>
      ∀ s ∈ a.spans mode source, ∀ t ∈ b.spans mode source, s.Apart t := by
  induction constructs generalizing draft with
  | nil => exact .nil
  | cons construct rest ih =>
    obtain ⟨first, others⟩ := List.pairwise_cons.mp fits
    have nonempty' := fun c member => nonempty c (List.mem_cons_of_mem construct member)
    rw [accepted]
    split
    · exact ih nonempty' others draft
    · next free =>
      refine List.pairwise_cons.mpr ⟨fun c member s there => ?_, ih nonempty' others _⟩
      have later := (accepted_sublist rest _).subset member
      apply first c later s there
      apply accepted_apart nonempty' _ c member
      rw [spans_mask (Bool.eq_false_iff.mpr free)]
      exact List.mem_append_right _ there

end Draft

variable {mode : MaskMode} {source : List Char}

theorem spans_of_not_declaration {construct : Construct}
    (other : ∀ d, construct ≠ .declaration d) : construct.spans mode source = [construct.span] := by
  cases construct with
  | declaration d => exact absurd rfl (other d)
  | action span | node span | reference span => rfl

/-- No `=` stands in a head, so an insertion before an `=` never splits one. -/
theorem head_apart_equals {d e : Declaration} (placed : d.Placed source) (placed' : e.Placed source) :
    d.head.Apart ⟨e.equals, e.equals⟩ := by
  by_cases inside : d.head.start ≤ e.equals ∧ e.equals < d.head.stop
  · have member : '=' ∈ d.head.slice source := by
      refine List.mem_of_getElem? (i := e.equals - d.head.start) ?_
      rw [Span.getElem?_slice, if_pos (by omega), Nat.add_sub_cancel' inside.1]
      exact placed'.sign
    exact absurd member placed.clean
  · simp only [Span.Apart]
    omega

theorem declarations_fit {d e : Declaration} (placed : d.Placed source) (placed' : e.Placed source)
    (order : d.head.stop ≤ e.head.start) :
    Construct.Fits mode source (.declaration d) (.declaration e) := by
  intro s own apart t other
  have e_order := placed'.order
  have d_order := placed.order
  cases mode with
  | check =>
    -- all that is replaced up to an `=` starts before the next head
    simp only [Construct.spans, List.mem_singleton] at own other
    subst own other
    simp only [Span.Apart, Construct.span] at apart ⊢
    omega
  | format =>
    have sign : s.Apart ⟨e.equals, e.equals⟩ := by
      simp only [Construct.spans] at own
      split at own
      · simp only [List.mem_cons, List.not_mem_nil, or_false] at own
        rcases own with rfl | rfl
        · exact head_apart_equals placed placed'
        · simp only [Span.Apart]
          omega
      · rw [List.mem_singleton.mp own]
        exact head_apart_equals placed placed'
    simp only [Construct.spans] at other
    split at other
    · simp only [List.mem_cons, List.not_mem_nil, or_false] at other
      rcases other with rfl | rfl
      · exact apart
      · exact sign
    · rw [List.mem_singleton.mp other]
      exact apart

theorem fits_of_not_declaration (a : Construct) {b : Construct} (other : ∀ d, b ≠ .declaration d) :
    a.Fits mode source b := by
  intro s _ apart t member
  rw [spans_of_not_declaration other, List.mem_singleton] at member
  rwa [member]

theorem constructs_fit (mode : MaskMode) (source : List Char) :
    (constructs source).Pairwise (Construct.Fits mode source) := by
  have later {α : Type} (items : List α) (f : α → Construct) (other : ∀ a d, f a ≠ .declaration d)
      (before : List Construct) (fits : before.Pairwise (Construct.Fits mode source)) :
      (before ++ items.map f).Pairwise (Construct.Fits mode source) := by
    refine List.pairwise_append.mpr ⟨fits, List.pairwise_map.mpr (List.pairwise_of_forall ?_), ?_⟩
    · exact fun a b => fits_of_not_declaration _ (other b)
    · intro a _ b member
      obtain ⟨item, _, rfl⟩ := List.mem_map.mp member
      exact fits_of_not_declaration a (other item)
  refine later _ _ (by simp) _ (later _ _ (by simp) _ (later _ _ (by simp) _ ?_))
  refine List.pairwise_map.mpr ((findDeclarations_ordered source).imp_of_mem ?_)
  intro d e first second order
  exact declarations_fit (placed_of_mem_findDeclarations first)
    (placed_of_mem_findDeclarations second) order

theorem nonempty_of_mem_constructs {construct : Construct} (member : construct ∈ constructs source) :
    construct.span.start < construct.span.stop := (stretch_of_mem_constructs member).order

/-- All spans of a construct are ordered, lie inside the source and stay clear of each other. -/
theorem spans_inside {construct : Construct} (member : construct ∈ constructs source) :
    (∀ s ∈ construct.spans mode source, s.start ≤ s.stop ∧ s.stop ≤ source.length) ∧
      (construct.spans mode source).Pairwise Span.Apart := by
  have stretch := stretch_of_mem_constructs member
  by_cases other : ∀ d, construct ≠ .declaration d
  · rw [spans_of_not_declaration other]
    simpa using ⟨Nat.le_of_lt stretch.order, stretch.inside⟩
  · obtain ⟨d, rfl⟩ : ∃ d, construct = .declaration d := by simpa using other
    have placed := placed_of_mem_constructs member
    have order := placed.order
    have before := placed.before
    have inside := placed.inside
    have apart := head_apart_equals placed placed
    cases mode with
    | check =>
      simp only [Construct.spans, List.mem_singleton, forall_eq, List.pairwise_singleton, and_true]
      omega
    | format =>
      simp only [Construct.spans]
      split
      · simp only [List.mem_cons, List.not_mem_nil, or_false, forall_eq_or_imp, forall_eq,
          List.pairwise_cons, List.Pairwise.nil, and_true, false_implies, implies_true, apart]
        omega
      · simp only [List.mem_singleton, forall_eq, List.pairwise_singleton, and_true]
        omega

/-- The constructs that are masked. -/
def maskedConstructs (mode : MaskMode) (source : List Char) : List Construct :=
  Draft.accepted mode source { stem := freshStem source } (constructs source)

theorem mem_constructs_of_masked {construct : Construct}
    (member : construct ∈ maskedConstructs mode source) : construct ∈ constructs source :=
  (Draft.accepted_sublist _ _).subset member

theorem spans_ofSource (mode : MaskMode) (source : List Char) :
    (Draft.ofSource mode source).splices.map (·.span) =
      (maskedConstructs mode source).flatMap (Construct.spans mode source) := by
  rw [Draft.ofSource, Draft.spans_foldl_mask]
  rfl

theorem spans_ofSource_apart (mode : MaskMode) (source : List Char) :
    (Draft.ofSource mode source).splices.Pairwise fun a b => a.span.Apart b.span := by
  refine (List.pairwise_map (R := Span.Apart)).mp ?_
  rw [spans_ofSource, List.pairwise_flatMap]
  refine ⟨fun c member => (spans_inside (mem_constructs_of_masked member)).2, ?_⟩
  exact Draft.accepted_pairwise (fun c => nonempty_of_mem_constructs) (constructs_fit mode source) _

theorem spans_ofSource_inside {splice : Splice}
    (member : splice ∈ (Draft.ofSource mode source).splices) :
    splice.span.start ≤ splice.span.stop ∧ splice.span.stop ≤ source.length := by
  have there := List.mem_map_of_mem (f := (·.span)) member
  rw [spans_ofSource] at there
  obtain ⟨construct, masked, own⟩ := List.mem_flatMap.mp there
  exact (spans_inside (mem_constructs_of_masked masked)).1 _ own

namespace Splice

theorem precedes_iff {a b : Splice} : a.precedes b = true ↔
    a.span.start < b.span.start ∨ (a.span.start = b.span.start ∧ a.span.stop ≤ b.span.stop) := by
  simp only [precedes, Bool.or_eq_true, Bool.and_eq_true, decide_eq_true_eq, beq_iff_eq]

theorem sort_sorted (splices : List Splice) : (sort splices).Pairwise (precedes · ·) := by
  refine sortBy_sorted ?_ ?_ splices
  · intro a b
    simp only [precedes_iff]
    omega
  · intro a b c
    simp only [precedes_iff]
    omega

/-- Splices that are apart follow each other once they are sorted. -/
theorem sort_ordered {splices : List Splice} (ordered : ∀ s ∈ splices, s.span.start ≤ s.span.stop)
    (apart : splices.Pairwise fun a b => a.span.Apart b.span) :
    (sort splices).Pairwise fun a b => a.span.stop ≤ b.span.start := by
  have apart' : (sort splices).Pairwise fun a b => a.span.Apart b.span :=
    (sortBy_perm precedes splices).symm.pairwise apart fun h => Span.Apart.symm h
  refine ((sort_sorted splices).and apart').imp_of_mem ?_
  rintro a b first second ⟨sorted, apart⟩
  have a_ordered := ordered a ((mem_sortBy precedes splices a).mp first)
  have b_ordered := ordered b ((mem_sortBy precedes splices b).mp second)
  rw [precedes_iff] at sorted
  simp only [Span.Apart] at apart
  omega

/-- Sorted splices from `cursor` on that lie in the source one after the other. -/
structure Chain (source : List Char) (cursor : Nat) (splices : List Splice) : Prop where
  inside : ∀ s ∈ splices, cursor ≤ s.span.start ∧ s.span.start ≤ s.span.stop ∧
    s.span.stop ≤ source.length
  ordered : splices.Pairwise fun a b => a.span.stop ≤ b.span.start

theorem Chain.tail {cursor : Nat} {splice : Splice} {rest : List Splice}
    (chain : Chain source cursor (splice :: rest)) : Chain source splice.span.stop rest := by
  obtain ⟨first, others⟩ := List.pairwise_cons.mp chain.ordered
  refine ⟨fun s member => ?_, others⟩
  exact ⟨first s member, (chain.inside s (List.mem_cons_of_mem _ member)).2⟩

theorem Chain.after {cursor : Nat} {earlier rest : List Splice} {splice : Splice}
    (chain : Chain source cursor (earlier ++ splice :: rest)) : Chain source splice.span.stop rest := by
  induction earlier generalizing cursor with
  | nil => exact chain.tail
  | cons first earlier ih => exact ih chain.tail

theorem chain_sort (mode : MaskMode) (source : List Char) :
    Chain source 0 (sort (Draft.ofSource mode source).splices) := by
  refine ⟨fun s member => ?_, ?_⟩
  · have inside := spans_ofSource_inside ((mem_sortBy precedes _ s).mp member)
    exact ⟨Nat.zero_le _, inside.1, inside.2⟩
  · exact sort_ordered (fun s member => (spans_ofSource_inside member).1)
      (spans_ofSource_apart mode source)

/-- The stretches of `source` before, between and after the spans of sorted splices. -/
def gaps (source : List Char) (cursor : Nat) : List Splice → List (List Char)
  | [] => [source.drop cursor]
  | splice :: rest =>
    Span.slice ⟨cursor, splice.span.start⟩ source :: gaps source splice.span.stop rest

/-- Pieces set between gaps, of which there is one more. -/
def interleave : List (List Char) → List (List Char) → List Char
  | gap :: gaps, piece :: pieces => gap ++ piece ++ interleave gaps pieces
  | gaps, _ => gaps.flatten

theorem weave_eq_interleave (source : List Char) (cursor : Nat) (splices : List Splice) :
    weave source cursor splices =
      interleave (gaps source cursor splices) (splices.map (·.replacement)) := by
  induction splices generalizing cursor with
  | nil => simp [weave, gaps, interleave]
  | cons splice rest ih => simp only [weave, gaps, List.map_cons, interleave, ih]

/-- Replacements of separators only make the source looser. -/
theorem loosened_weave {kept : Char → Bool} {cursor : Nat} {splices : List Splice}
    (chain : Chain source cursor splices)
    (separate : ∀ s ∈ splices, s.replacement ≠ [] ∧ ∀ c ∈ s.replacement, kept c = false) :
    Loosened kept (source.drop cursor) (weave source cursor splices) := by
  induction splices generalizing cursor with
  | nil => exact .refl _
  | cons splice rest ih =>
    have order := chain.inside splice List.mem_cons_self
    have own := separate splice List.mem_cons_self
    have later := ih chain.tail fun s member => separate s (List.mem_cons_of_mem _ member)
    rw [weave, List.append_assoc, ← Span.slice_append_drop ⟨cursor, splice.span.start⟩ source order.1,
      ← Span.slice_append_drop splice.span source order.2.1]
    exact .append_left _ ((Loosened.replace own.1 own.2).append later)

/-- With the spans themselves between the gaps it is the source again. -/
theorem interleave_slices {source : List Char} {cursor : Nat} {splices : List Splice}
    (chain : Chain source cursor splices) :
    interleave (gaps source cursor splices) (splices.map (·.span.slice source)) =
      source.drop cursor := by
  induction splices generalizing cursor with
  | nil => simp [gaps, interleave]
  | cons splice rest ih =>
    obtain ⟨low, order, _⟩ := chain.inside splice List.mem_cons_self
    simp only [gaps, List.map_cons, interleave, ih chain.tail, List.append_assoc]
    rw [Span.slice_append_drop _ source order]
    exact Span.slice_append_drop ⟨cursor, splice.span.start⟩ source low

end Splice

/-- The masked text without the braces that were added. -/
def Masked.body (masked : Masked) : List Char :=
  if masked.wrapped then (masked.text.drop 2).take (masked.text.length - 4) else masked.text

theorem body_mask (mode : MaskMode) (source : List Char) :
    (mask mode source).body =
      Splice.weave source 0 (Splice.sort (Draft.ofSource mode source).splices) := by
  simp only [mask, Masked.body]
  split <;> simp [wrap]

theorem text_mask (mode : MaskMode) (source : List Char) :
    let masked := mask mode source
    masked.text = if masked.wrapped then wrap masked.body else masked.body := by
  simp only [body_mask]
  rw [mask]

/-- The splices of every masking lie inside the source, between whole characters, and stay apart from
each other. Sorted, they follow each other, so the source is the gaps between them with their spans
in place, and the masked text is the same gaps with their replacements in place. -/
theorem splices_never_collide (mode : MaskMode) (source : List Char) :
    let splices := (Draft.ofSource mode source).splices
    let sorted := Splice.sort splices
    (∀ s ∈ splices, s.span.start ≤ s.span.stop ∧ s.span.stop ≤ source.length ∧
      dropBytes? (s.span.bytes source).start source = some (source.drop s.span.start) ∧
      dropBytes? (s.span.bytes source).stop source = some (source.drop s.span.stop)) ∧
    splices.Pairwise (fun a b => a.span.Apart b.span) ∧
    sorted.Perm splices ∧ sorted.Pairwise (fun a b => a.span.stop ≤ b.span.start) ∧
    source = Splice.interleave (Splice.gaps source 0 sorted) (sorted.map (·.span.slice source)) ∧
    (mask mode source).body =
      Splice.interleave (Splice.gaps source 0 sorted) (sorted.map (·.replacement)) := by
  intro splices sorted
  have inside : ∀ s ∈ splices, s.span.start ≤ s.span.stop ∧ s.span.stop ≤ source.length :=
    fun s => spans_ofSource_inside
  have apart : splices.Pairwise fun a b => a.span.Apart b.span := spans_ofSource_apart mode source
  have chain := Splice.chain_sort mode source
  have perm : sorted.Perm splices := sortBy_perm Splice.precedes splices
  refine ⟨fun s member => ?_, apart, perm, chain.ordered, (Splice.interleave_slices chain).symm, ?_⟩
  · exact ⟨(inside s member).1, (inside s member).2, dropBytes?_byteOffset .., dropBytes?_byteOffset ..⟩
  · rw [body_mask, Splice.weave_eq_interleave]

/-- The insertion before the `=` of a declaration with options. -/
theorem splices_never_collide_options :
    let source := "declare m : enum [ $x ] = (zmdl a);".toList
    let sign : Splice := ⟨⟨24, 24⟩, "; __znix_mask1__ ".toList⟩
    sign ∈ (Draft.ofSource .format source).splices ∧ sign.span.stop ≤ source.length ∧
      dropBytes? (sign.span.bytes source).start source = some (source.drop 24) := by
  have known := splices_never_collide .format "declare m : enum [ $x ] = (zmdl a);".toList
  have member := known.1 ⟨⟨24, 24⟩, "; __znix_mask1__ ".toList⟩ (by decide +kernel)
  exact ⟨by decide +kernel, member.2.1, member.2.2.1⟩

end Dialect
