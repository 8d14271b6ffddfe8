import Dialect.Proofs.Mask.Document
import Mathlib.Data.List.Dedup

/-! What restoring an unchanged masked document gives: the source with one space for each run of blanks
next to a masked action marker or a masked declaration with options. -/
namespace Dialect

/-- The blanks next to a masked construct for which restoring leaves one space: those between `@do` and
its brace, and of a declaration with options those right after its head and right before its `=`. -/
def Construct.runs (source : List Char) : Construct → List Span
  | .declaration d =>
    if d.hasInlineOptions source then [d.afterHead source, d.beforeEquals source] else []
  | .action span => [⟨span.start + 3, span.stop⟩]
  | .node _ | .reference _ => []

/-- The runs of all masked constructs; declarations that share an `=` share one. -/
def runs (source : List Char) : List Span :=
  ((maskedConstructs .format source).flatMap (Construct.runs source)).dedup

def spaceFor (run : Span) : Splice := ⟨run, [' ']⟩

/-- The source with one space for each run. -/
def spaced (source : List Char) : List Char :=
  Splice.weave source 0 (Splice.sort ((runs source).map spaceFor))

theorem mem_runs {source : List Char} {run : Span} :
    run ∈ runs source ↔ ∃ mark ∈ marks source, mark.run? source = some run := by
  have own (construct : Construct) :
      construct.runs source = (construct.marks source).filterMap (Mark.run? source) := by
    cases construct with
    | declaration d =>
      simp only [Construct.runs, Construct.marks]
      split <;> rfl
    | action | node | reference => rfl
  rw [runs, List.mem_dedup, List.flatMap_congr (fun construct _ => own construct), marks,
    ← List.filterMap_flatMap, List.mem_filterMap]

/-- The runs of the leading marks, in their places. -/
def placedRuns (source : List Char) : List Span :=
  (placedMarks source).flatMap fun entry =>
    if Leads (placedMarks source) entry then (entry.1.run? source).toList else []

variable {source : List Char}

theorem mem_placedRuns {run : Span} :
    run ∈ placedRuns source ↔
      ∃ entry ∈ placedMarks source, Leads (placedMarks source) entry ∧ entry.1.run? source = some run := by
  simp only [placedRuns, List.mem_flatMap, List.mem_ite_nil_right, Option.mem_toList]

theorem render_documentStage_zero (source : List Char) :
    render (freshStem source) (documentStage source 0) =
      Splice.weave source 0 ((placedRuns source).map spaceFor) := by
  have restored (entry : Mark × Nat) : pieces source (placedMarks source) 0 entry =
      (if Leads (placedMarks source) entry then (entry.1.run? source).toList else []).map
        (⟨·, [.char ' ']⟩) := by
    rw [pieces, if_neg (Nat.not_lt_zero _), settled]
    split <;> rfl
  rw [documentStage, stage, render_assemble, List.flatMap_congr fun entry _ => restored entry,
    ← List.map_flatMap, List.map_map]
  rfl

/-- A mark that does not lead shares its run with one that has a smaller number. -/
theorem exists_leading {mark : Mark} {number : Nat} {run : Span}
    (numbered : (marks source)[number]? = some mark) (own : mark.run? source = some run) :
    run ∈ placedRuns source := by
  induction number using Nat.strongRecOn generalizing mark with
  | _ number ih =>
    by_cases leads : Leads (placedMarks source) (mark, number)
    · exact mem_placedRuns.mpr ⟨(mark, number), mem_placedMarks.mpr numbered, leads, own⟩
    · obtain ⟨before, rest, split, here⟩ := exists_at numbered
      rw [split] at leads
      have closing : mark.isClosing = true := by
        by_contra replaces
        exact leads (here.leads (Bool.eq_false_iff.mpr replaces))
      match mark, closing with
      | .closing d, _ =>
        obtain ⟨earlier, e, other, rfl, equal, smaller⟩ := here.exists_closing_before leads
        have member : (.closing e, other) ∈ placedMarks source := by simp [split]
        refine ih other smaller (mem_placedMarks.mp member) ?_
        rw [← own]
        simp only [Mark.run?, Declaration.beforeEquals, equal]

theorem mem_placedRuns_iff {run : Span} : run ∈ placedRuns source ↔ run ∈ runs source := by
  rw [mem_runs]
  constructor
  · intro member
    obtain ⟨entry, there, _, own⟩ := mem_placedRuns.mp member
    exact ⟨entry.1, List.mem_of_getElem? (mem_placedMarks.mp there), own⟩
  · rintro ⟨mark, member, own⟩
    obtain ⟨number, numbered⟩ := List.getElem?_of_mem member
    exact exists_leading numbered own

theorem placedRuns_ordered (source : List Char) :
    (placedRuns source).Pairwise fun a b => a.stop < b.start := by
  have layout := laidOut_placedMarks source
  refine List.pairwise_flatMap.mpr ⟨fun entry _ => ?_, ?_⟩
  · split
    · cases entry.1.run? source <;> simp
    · exact .nil
  · refine (layout.ordered.and layout.ties).imp_of_mem ?_
    rintro a b first second ⟨order, ties⟩ run own run' own'
    simp only [List.mem_ite_nil_right, Option.mem_toList] at own own'
    have other : a.1.span ≠ b.1.span := fun same =>
      Nat.lt_irrefl _ (Nat.lt_of_lt_of_le (ties same) (own'.1 a first same))
    have isRun := (layout.sound a first).isRun own.2
    have isRun' := (layout.sound b second).isRun own'.2
    have apart := Mark.right_le_left (layout.sound a first) (layout.sound b second) order other
    have stop := isRun.stop
    have start := isRun'.start
    cases closing : b.1.isClosing with
    | true =>
      have strict := apart.2 isRun.replaces (.inr closing)
      omega
    | false =>
      have strict := isRun'.inner closing
      omega

theorem isRun_of_mem_placedRuns {run : Span} (member : run ∈ placedRuns source) :
    ∃ mark : Mark, mark.IsRun source run := by
  obtain ⟨entry, there, _, own⟩ := mem_placedRuns.mp member
  exact ⟨entry.1, ((laidOut_placedMarks source).sound entry there).isRun own⟩

theorem placedRuns_perm (source : List Char) : (runs source).Perm (placedRuns source) := by
  have distinct : (placedRuns source).Nodup := by
    refine (placedRuns_ordered source).imp_of_mem fun {a b} first _ order same => ?_
    obtain ⟨mark, isRun⟩ := isRun_of_mem_placedRuns first
    have ordered := isRun.order
    rw [same] at ordered order
    omega
  exact (List.perm_ext_iff_of_nodup (List.nodup_dedup _) distinct).mpr fun run =>
    mem_placedRuns_iff.symm

/-- Sorting the runs puts them in their places. -/
theorem sort_runs (source : List Char) :
    Splice.sort ((runs source).map spaceFor) = (placedRuns source).map spaceFor := by
  have sorted : ((placedRuns source).map spaceFor).Pairwise (Splice.precedes · ·) := by
    refine List.pairwise_map.mpr ((placedRuns_ordered source).imp_of_mem fun {a b} first _ order => ?_)
    obtain ⟨mark, isRun⟩ := isRun_of_mem_placedRuns first
    have ordered := isRun.order
    simp only [Splice.precedes_iff, spaceFor]
    omega
  have perm := (sortBy_perm Splice.precedes ((runs source).map spaceFor)).trans
    ((placedRuns_perm source).map spaceFor)
  refine List.Perm.eq_of_pairwise (fun a b first second => ?_) (Splice.sort_sorted _) sorted perm
  obtain ⟨run, _, rfl⟩ := List.mem_map.mp (perm.mem_iff.mp first)
  obtain ⟨run', _, rfl⟩ := List.mem_map.mp second
  obtain ⟨start, stop⟩ := run
  obtain ⟨start', stop'⟩ := run'
  simp only [Splice.precedes_iff, spaceFor, Splice.mk.injEq, Span.mk.injEq, and_true]
  omega

/-- Restoring the masked text itself gives the source with one space for each run. -/
theorem restoreAll_body_eq_spaced (source : List Char) :
    restoreAll (mask .format source).placeholders (mask .format source).body = spaced source := by
  rw [restoreAll_body, render_documentStage_zero, spaced, sort_runs]

/-- The characters that are not blank, in order. -/
def visibleChars (text : List Char) : List Char := text.filter fun c => !isBlank c

@[simp] theorem visibleChars_append (a b : List Char) :
    visibleChars (a ++ b) = visibleChars a ++ visibleChars b := List.filter_append a b

theorem visibleChars_of_blank {text : List Char} (blank : isBlankText text = true) :
    visibleChars text = [] := by
  rw [visibleChars, List.filter_eq_nil_iff]
  intro c member
  simp [isBlankText_iff.mp blank c member]

/-- Putting spaces in the place of blanks changes nothing else. -/
theorem visibleChars_weave {cursor : Nat} {found : List Span}
    (blank : ∀ run ∈ found, cursor ≤ run.start ∧ run.start ≤ run.stop ∧
      BlankFrom source run.start run.stop)
    (ordered : found.Pairwise fun a b => a.stop < b.start) :
    visibleChars (Splice.weave source cursor (found.map spaceFor)) =
      visibleChars (source.drop cursor) := by
  induction found generalizing cursor with
  | nil => rfl
  | cons run rest ih =>
    obtain ⟨first, others⟩ := List.pairwise_cons.mp ordered
    obtain ⟨low, order, gap⟩ := blank run List.mem_cons_self
    have later := ih (fun next member =>
      ⟨Nat.le_of_lt (first next member), (blank next (List.mem_cons_of_mem _ member)).2⟩) others
    have space : visibleChars [' '] = [] := rfl
    have hidden := visibleChars_of_blank gap.isBlankText_slice
    rw [List.map_cons, Splice.weave, ← Span.slice_append_drop ⟨cursor, run.start⟩ source low,
      ← Span.slice_append_drop run source order]
    simp only [visibleChars_append, spaceFor, space, later, List.append_nil, hidden, List.nil_append]

theorem visibleChars_spaced (source : List Char) :
    visibleChars (spaced source) = visibleChars source := by
  rw [spaced, sort_runs]
  refine visibleChars_weave (fun run member => ?_) (placedRuns_ordered source)
  obtain ⟨mark, isRun⟩ := isRun_of_mem_placedRuns member
  exact ⟨Nat.zero_le _, isRun.order, isRun.blank⟩

end Dialect
