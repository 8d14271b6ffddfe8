import Dialect.Host.Check
import Dialect.Proofs.Mask.Splice
import Dialect.Proofs.Position

/-! Masking for the parser keeps every position. Fillers are as long as what they stand for and have
its line breaks, so a place that the parser reports is the place in the document, and no place
that it can report leads outside the lines of the document. -/
namespace Dialect

/-- `\n` and `\r` stand only for themselves. -/
def SameBreak (a b : Char) : Prop := ∀ c, c = '\n' ∨ c = '\r' → (a = c ↔ b = c)

/-- Text that holds no line break. -/
def Unbroken (text : List Char) : Prop := ∀ c ∈ text, c ≠ '\n' ∧ c ≠ '\r'

theorem filler_sameBreaks {lead : List Char} (unbroken : Unbroken lead) (text : List Char) :
    List.Forall₂ SameBreak text (filler text lead) := by
  induction text generalizing lead with
  | nil => exact .nil
  | cons c rest ih =>
    rw [filler]
    split
    · exact .cons (fun _ _ => Iff.rfl) (ih unbroken)
    · next plain =>
      refine .cons ?_ (ih fun d member => unbroken d (List.mem_of_mem_tail member))
      have filled : lead.head?.getD ' ' ≠ '\n' ∧ lead.head?.getD ' ' ≠ '\r' := by
        cases lead with
        | nil => decide
        | cons d more => exact unbroken d List.mem_cons_self
      rintro d (rfl | rfl)
      · exact iff_of_false (fun same => plain (.inl same)) filled.1
      · exact iff_of_false (fun same => plain (.inr same)) filled.2

theorem getElem?_eq_some_of_sameBreaks {a b : List Char} (same : List.Forall₂ SameBreak a b) {c : Char}
    (lineBreak : c = '\n' ∨ c = '\r') (index : Nat) : a[index]? = some c ↔ b[index]? = some c := by
  induction same generalizing index with
  | nil => simp
  | cons first _ ih =>
    cases index with
    | zero => simpa using first c lineBreak
    | succ index => simpa using ih index

namespace Splice

/-- The replacement is a filler for what the splice covers. -/
def Fills (source : List Char) (splice : Splice) : Prop :=
  List.Forall₂ SameBreak (splice.span.slice source) splice.replacement

end Splice

namespace Draft

variable {source : List Char}

theorem fills_mask {draft : Draft} (known : ∀ s ∈ draft.splices, s.Fills source)
    (construct : Construct) : ∀ s ∈ (draft.mask .check source construct).splices, s.Fills source := by
  have one (span : Span) {lead : List Char} (unbroken : Unbroken lead) :
      ∀ s ∈ (draft.splice span (filler (span.slice source) lead)).splices, s.Fills source := by
    intro s member
    rcases List.mem_append.mp member with there | new
    · exact known s there
    · rw [List.mem_singleton.mp new]
      exact filler_sameBreaks unbroken _
  rw [mask.eq_def]
  split
  · exact known
  · cases construct <;> exact one _ (by simp [Unbroken])

theorem fills_ofSource : ∀ s ∈ (ofSource .check source).splices, s.Fills source := by
  have run (constructs : List Construct) (draft : Draft) (known : ∀ s ∈ draft.splices, s.Fills source) :
      ∀ s ∈ (constructs.foldl (mask .check source) draft).splices, s.Fills source := by
    induction constructs generalizing draft with
    | nil => exact known
    | cons construct rest ih => exact ih _ (fills_mask known construct)
  exact run _ _ (by simp)

end Draft

namespace Splice

variable {source : List Char}

/-- What fillers leave of the source keeps its length and its line breaks. -/
theorem weave_sameBreaks {cursor : Nat} {splices : List Splice} (chain : Chain source cursor splices)
    (fills : ∀ s ∈ splices, s.Fills source) :
    List.Forall₂ SameBreak (source.drop cursor) (weave source cursor splices) := by
  have same (text : List Char) : List.Forall₂ SameBreak text text :=
    List.forall₂_same.mpr fun _ _ _ _ => Iff.rfl
  induction splices generalizing cursor with
  | nil => exact same _
  | cons splice rest ih =>
    have order := chain.inside splice List.mem_cons_self
    have later := ih chain.tail fun s member => fills s (List.mem_cons_of_mem _ member)
    rw [weave, ← Span.slice_append_drop ⟨cursor, splice.span.start⟩ source order.1,
      ← Span.slice_append_drop splice.span source order.2.1, List.append_assoc]
    exact List.rel_append (same _) (List.rel_append (fills splice List.mem_cons_self) later)

theorem getElem?_weave {cursor : Nat} {splices : List Splice} (chain : Chain source cursor splices)
    (fills : ∀ s ∈ splices, s.Fills source) {index : Nat} (reached : cursor ≤ index)
    (outside : ∀ s ∈ splices, ¬(s.span.start ≤ index ∧ index < s.span.stop)) :
    (weave source cursor splices)[index - cursor]? = source[index]? := by
  induction splices generalizing cursor with
  | nil => rw [weave, List.getElem?_drop, Nat.add_sub_cancel' reached]
  | cons splice rest ih =>
    have order := chain.inside splice List.mem_cons_self
    have later := ih chain.tail (fun s member => fills s (List.mem_cons_of_mem _ member))
    have gap : (Span.slice ⟨cursor, splice.span.start⟩ source).length = splice.span.start - cursor :=
      Span.length_slice (by simp only []; omega)
    have filled : splice.replacement.length = splice.span.stop - splice.span.start := by
      rw [← (fills splice List.mem_cons_self).length_eq, Span.length_slice order.2.2]
    rw [weave, List.append_assoc]
    by_cases before : index < splice.span.start
    · rw [List.getElem?_append_left (by omega), Span.getElem?_slice]
      simp only
      rw [if_pos (by omega), Nat.add_sub_cancel' reached]
    · have after : splice.span.stop ≤ index := by
        have clear := outside splice List.mem_cons_self
        omega
      rw [List.getElem?_append_right (by omega), List.getElem?_append_right (by omega), gap, filled]
      rw [show index - cursor - (splice.span.start - cursor) -
        (splice.span.stop - splice.span.start) = index - splice.span.stop by omega]
      exact later after fun s member => outside s (List.mem_cons_of_mem _ member)

end Splice

theorem fills_sort {source : List Char} :
    ∀ s ∈ Splice.sort (Draft.ofSource .check source).splices, s.Fills source :=
  fun s member => Draft.fills_ofSource s ((mem_sortBy Splice.precedes _ s).mp member)

theorem body_sameBreaks (source : List Char) :
    List.Forall₂ SameBreak source (mask .check source).body := by
  rw [body_mask]
  exact Splice.weave_sameBreaks (Splice.chain_sort .check source) fills_sort

/-- A place in the masked text is as far down as the added line, and otherwise where it was. -/
theorem ofIndex_mask {source : List Char} {index : Nat} (inside : index ≤ source.length) :
    let masked := mask .check source
    Position.ofIndex masked.text (index + 2 * masked.lineOffset) =
      ⟨(Position.ofIndex source index).line + masked.lineOffset,
        (Position.ofIndex source index).column⟩ := by
  intro masked
  have newlines : List.Forall₂ (fun c d => c = '\n' ↔ d = '\n') source masked.body :=
    (body_sameBreaks source).imp fun c d same => same '\n' (.inl rfl)
  have inside' : index ≤ masked.body.length := by rwa [← newlines.length_eq]
  have same := Position.advance_congr newlines ⟨0, 0⟩ index
  have text : masked.text = if masked.wrapped then wrap masked.body else masked.body :=
    text_mask .check source
  rw [text, Masked.lineOffset]
  cases masked.wrapped with
  | false => simp [Position.ofIndex, same]
  | true =>
    have skipped : Position.advance ⟨0, 0⟩ (index + 2) (wrap masked.body) =
        Position.advance ⟨0 + 1, 0⟩ index (masked.body ++ ['\n', '}']) := rfl
    simp only [if_true, Nat.mul_one, Position.ofIndex]
    rw [skipped, Position.advance_append _ inside', Position.advance_below 1 ⟨0, 0⟩, same]

theorem sourcePosition_ofIndex {source : List Char} {index : Nat} (inside : index ≤ source.length) :
    let masked := mask .check source
    let place := Position.ofIndex masked.text (index + 2 * masked.lineOffset)
    masked.sourcePosition (place.line + 1) (place.column + 1) (lineCount source) =
      Position.ofIndex source index := by
  have line := Position.ofIndex_line_lt source index
  simp only [ofIndex_mask inside, Masked.sourcePosition, Nat.add_sub_cancel]
  rw [Nat.min_eq_left (by omega)]

theorem sourcePosition_bounds (masked : Masked) (source : List Char) {line column : Nat}
    (line_le : line ≤ wordMax) (column_le : column ≤ wordMax) :
    let place := masked.sourcePosition line column (lineCount source)
    place.line < lineCount source ∧ place.line < wordMax ∧ place.column < wordMax := by
  have lines := lineCount_eq source
  simp only [Masked.sourcePosition, wordMax] at *
  omega

theorem readDecimal?_le {digits : List Char} {value : Nat} (read : readDecimal? digits = some value) :
    value ≤ wordMax := by
  simp only [readDecimal?] at read
  split at read
  · cases read
  split at read
  · next bounded =>
    cases read
    exact bounded
  · cases read

namespace ErrorReport

theorem read?_le {written : Written} {line column : Nat} (read : read? written = some (line, column)) :
    line ≤ wordMax ∧ column ≤ wordMax := by
  simp only [read?, Option.bind_eq_bind, Option.pure_def] at read
  obtain ⟨first, readLine, read⟩ := Option.bind_eq_some_iff.mp read
  obtain ⟨second, readColumn, read⟩ := Option.bind_eq_some_iff.mp read
  cases read
  exact ⟨readDecimal?_le readLine, readDecimal?_le readColumn⟩

theorem lineLocation?_le {text : List Char} {line column : Nat}
    (read : lineLocation? text = some (line, column)) : line ≤ wordMax ∧ column ≤ wordMax := by
  simp only [lineLocation?, Option.bind_eq_bind] at read
  obtain ⟨⟨run, rest⟩, _, read⟩ := Option.bind_eq_some_iff.mp read
  split at read
  · cases read
  obtain ⟨written, _, read⟩ := Option.bind_eq_some_iff.mp read
  exact read?_le read

theorem spread?_le {lines : List (List Char)} {report : ErrorReport}
    (found : spread? lines = some report) : report.line ≤ wordMax ∧ report.column ≤ wordMax := by
  induction lines with
  | nil => cases found
  | cons line rest ih =>
    rw [spread?] at found
    split at found
    · obtain ⟨⟨number, column⟩, located, rfl⟩ := Option.map_eq_some_iff.mp found
      obtain ⟨text, _, read⟩ := List.exists_of_findSome?_eq_some located
      exact lineLocation?_le read
    · exact ih found

theorem ofOutput?_le {output : List Char} {report : ErrorReport}
    (found : ofOutput? output = some report) : report.line ≤ wordMax ∧ report.column ≤ wordMax := by
  simp only [ofOutput?] at found
  split at found
  · next reported inline =>
    cases found
    obtain ⟨⟨message, written⟩, _, inline⟩ := Option.bind_eq_some_iff.mp inline
    obtain ⟨⟨line, column⟩, read, rfl⟩ := Option.map_eq_some_iff.mp inline
    exact read?_le read
  · exact spread?_le found

end ErrorReport

theorem checkHost_eq_some {launch : Launcher} {parser : Command} {source : List Char} {finding : Finding}
    (reported : checkHost launch parser source = .ok (some finding)) :
    ∃ line column, line ≤ wordMax ∧ column ≤ wordMax ∧
      let place := (mask .check source).sourcePosition line column (lineCount source)
      finding.range = .onLine place.line place.column 1 := by
  simp only [checkHost, bind, Except.bind, pure, Except.pure] at reported
  split at reported
  · cases reported
  split at reported
  · cases reported
  obtain ⟨report, found, rfl⟩ := Option.map_eq_some_iff.mp (Except.ok.inj reported)
  have bounded := ErrorReport.ofOutput?_le found
  exact ⟨report.line, report.column, bounded.1, bounded.2, rfl⟩

/-- Masking for the parser is exact in its positions. Between the added braces, if there are any, the
masked text has the length and the line breaks of the source, and differs from it only inside the
masked spans; so the place of a character there leads back to its place in the source. Whatever the
parser reports stays among the lines of the source, and no number that is made from it leaves a
machine word. -/
theorem check_mask_keeps_positions (source : List Char) :
    let masked := mask .check source
    let spans := (Draft.ofSource .check source).splices.map (·.span)
    (masked.text = if masked.wrapped then wrap masked.body else masked.body) ∧
    masked.body.length = source.length ∧
    (∀ (index : Nat) (c : Char), c = '\n' ∨ c = '\r' → (masked.body[index]? = some c ↔ source[index]? = some c)) ∧
    (∀ index : Nat, (∀ span ∈ spans, ¬(span.start ≤ index ∧ index < span.stop)) →
      masked.body[index]? = source[index]?) ∧
    (∀ index ≤ source.length,
      let place := Position.ofIndex masked.text (index + 2 * masked.lineOffset)
      masked.sourcePosition (place.line + 1) (place.column + 1) (lineCount source) =
        Position.ofIndex source index) ∧
    (∀ line ≤ wordMax, ∀ column ≤ wordMax,
      let place := masked.sourcePosition line column (lineCount source)
      let range := Range.onLine place.line place.column 1
      place.line < lineCount source ∧ place.column ≤ wordMax - 1 ∧ range.stop.column ≤ wordMax ∧
        range.start.line + 1 ≤ wordMax ∧ range.start.column + 1 ≤ wordMax) ∧
    (∀ launch parser finding, checkHost launch parser source = .ok (some finding) →
      finding.range.start.line < lineCount source ∧ finding.range.stop.column ≤ wordMax ∧
        finding.range.start.line + 1 ≤ wordMax ∧ finding.range.start.column + 1 ≤ wordMax) := by
  intro masked spans
  have same := body_sameBreaks source
  refine ⟨text_mask .check source, same.length_eq.symm, ?_, ?_, ?_, ?_, ?_⟩
  · intro index c lineBreak
    exact (getElem?_eq_some_of_sameBreaks same lineBreak index).symm
  · intro index outside
    rw [show masked.body = _ from body_mask .check source]
    refine Splice.getElem?_weave (Splice.chain_sort .check source) fills_sort (Nat.zero_le index) ?_
    exact fun s member => outside s.span
      (List.mem_map_of_mem ((mem_sortBy Splice.precedes _ s).mp member))
  · exact fun index inside => sourcePosition_ofIndex inside
  · intro line line_le column column_le
    have bounds := sourcePosition_bounds masked source line_le column_le
    simp only [Range.onLine] at bounds ⊢
    omega
  · intro launch parser finding reported
    obtain ⟨line, column, line_le, column_le, range⟩ := checkHost_eq_some reported
    have bounds := sourcePosition_bounds (mask .check source) source line_le column_le
    simp only [range, Range.onLine] at bounds ⊢
    omega

/-- A node over two lines is masked: the `x` after it and a report with the largest numbers find their
places. -/
theorem check_mask_keeps_positions_node :
    let source := "a = (zmdl\r\n é); x".toList
    let masked := mask .check source
    let report : Launcher := fun _ _ =>
      .ok ⟨.exited 1, [], Utf8.encode "error: m at s:18446744073709551615:18446744073709551615".toList⟩
    let finding : Finding := ⟨.reported ['m'], .onLine 1 18446744073709551614 1⟩
    masked.wrapped = true ∧ masked.text = "\x7b\na = (_   \r\n  ); x\n\x7d".toList ∧
      (masked.body[9]? = some '\r' ↔ source[9]? = some '\r') ∧ masked.body[16]? = source[16]? ∧
      Position.ofIndex masked.text (16 + 2 * masked.lineOffset) = ⟨2, 5⟩ ∧
      masked.sourcePosition 3 6 (lineCount source) = Position.ofIndex source 16 ∧
      (masked.sourcePosition 0 wordMax (lineCount source)).column ≤ wordMax - 1 ∧
      checkHost report .defaultParser source = .ok (some finding) ∧
      finding.range.stop.column ≤ wordMax := by
  intro source masked report finding
  have answer : (checkHost report .defaultParser source).toOption = some (some finding) := by
    decide +kernel
  have reported : checkHost report .defaultParser source = .ok (some finding) := by
    generalize checkHost report .defaultParser source = outcome at answer
    cases outcome with
    | error failure => cases answer
    | ok found => cases answer; rfl
  obtain ⟨_, _, breaks, outside, places, bounds, findings⟩ := check_mask_keeps_positions source
  have place : Position.ofIndex masked.text (16 + 2 * masked.lineOffset) = ⟨2, 5⟩ := by decide +kernel
  have found := places 16 (by decide +kernel)
  dsimp only at found
  rw [place] at found
  exact ⟨by decide +kernel, by decide +kernel, breaks 9 '\r' (.inr rfl), outside 16 (by decide +kernel),
    place, found, (bounds 0 (Nat.zero_le _) wordMax (Nat.le_refl _)).2.1, reported, (findings _ _ _ reported).2.1⟩

end Dialect
