import Dialect.Proofs.Text.Blank
import Dialect.Proofs.Text.Line
import Dialect.Proofs.Text.Search

/-! A place in a text, between what stands before it and the rest. What stands before it is a number of whole
lines and the start of the place's own line, and the lines of a text are those of its parts, if these are
parted at the start of a line. -/
namespace Dialect

/-- The whole lines before the line of a place, given all that stands before it. -/
def linesAbove (before : List Char) : List Char := before.take (before.length - (lineBefore before).length)

/-- Nothing but blanks stands between a place and the end of its line, given all that follows it. -/
def endsLine (after : List Char) : Bool := isBlankText (after.takeWhile (· ≠ '\n'))

theorem lineBefore_concat (before : List Char) (c : Char) :
    lineBefore (before ++ [c]) = if c = '\n' then [] else lineBefore before ++ [c] := by
  by_cases newline : c = '\n' <;> simp [lineBefore, newline]

theorem lineBefore_append {line : List Char} (single : '\n' ∉ line) (above : List Char) :
    lineBefore (above ++ line) = lineBefore above ++ line := by
  induction line generalizing above with
  | nil => simp
  | cons c line ih =>
    have other : c ≠ '\n' := fun newline => single (newline ▸ List.mem_cons_self)
    rw [List.append_cons, ih (fun member => single (List.mem_cons_of_mem c member)), lineBefore_concat,
      if_neg other, ← List.append_cons]

theorem not_mem_lineBefore (before : List Char) : '\n' ∉ lineBefore before := by
  intro member
  have kept := of_mem_takeWhile (List.mem_reverse.mp member)
  simp at kept

theorem linesAbove_append_lineBefore (before : List Char) : linesAbove before ++ lineBefore before = before := by
  have suffix : lineBefore before <:+ before := by
    rw [lineBefore, ← List.reverse_reverse before, List.reverse_suffix, List.reverse_reverse]
    exact List.takeWhile_prefix _
  obtain ⟨above, split⟩ := suffix
  have length := congrArg List.length split
  rw [List.length_append] at length
  have front : before.take above.length = above := by
    have taken : (above ++ lineBefore before).take above.length = above := List.take_left
    rwa [split] at taken
  rw [linesAbove, show before.length - (lineBefore before).length = above.length by omega, front, split]

theorem lineBefore_newline (above line : List Char) : lineBefore (above ++ '\n' :: line) = lineBefore line := by
  simp only [lineBefore, List.reverse_append, List.reverse_cons, List.append_assoc, List.takeWhile_append]
  split
  · next whole =>
    rw [(List.takeWhile_prefix _).eq_of_length whole]
    simp
  · rfl

theorem endsLine_newline {gap : List Char} (blank : isBlankText gap = true) (single : '\n' ∉ gap) (more : List Char) :
    endsLine (gap ++ '\n' :: more) = true := by
  have kept : ∀ c ∈ gap, decide (c ≠ '\n') = true := fun c member => by
    simpa using fun newline : c = '\n' => single (newline ▸ member)
  rwa [endsLine, List.takeWhile_append_of_pos kept, List.takeWhile_cons_of_neg (by simp), List.append_nil]

/-- What stands behind the end of a line and is not blank stands on a later line. -/
theorem exists_newline {front rest : List Char} {c : Char} (last : endsLine (front ++ c :: rest) = true)
    (visible : isBlank c = false) : ∃ gap line, front = gap ++ '\n' :: line := by
  refine List.append_of_mem (Classical.byContradiction fun single => ?_)
  have other : c ≠ '\n' := by
    rintro rfl
    cases visible
  have kept : ∀ d ∈ front, decide (d ≠ '\n') = true := fun d member => by
    simpa using fun newline : d = '\n' => single (newline ▸ member)
  rw [endsLine, List.takeWhile_append_of_pos kept, List.takeWhile_cons_of_pos (by simpa using other)] at last
  rw [isBlankText_iff.mp last c (by simp)] at visible
  cases visible

/-- What follows the end of a line, as far as it goes, starts with a blank. -/
theorem head?_take_endsLine {after : List Char} (last : endsLine after = true) (count : Nat) :
    (after.take count).head?.all isBlank = true := by
  cases after with
  | nil => simp
  | cons c after =>
    cases count with
    | zero => rfl
    | succ count =>
      have blank : isBlank c = true := Classical.byContradiction fun visible => by
        obtain ⟨gap, line, split⟩ := @exists_newline [] after c last (Bool.eq_false_iff.mpr visible)
        simp at split
      exact blank

/-- Whole lines are nothing or end with a line break. -/
theorem lineBefore_eq_nil {above : List Char} :
    lineBefore above = [] ↔ above = [] ∨ ∃ front, above = front ++ ['\n'] := by
  rcases List.eq_nil_or_concat above with rfl | ⟨front, c, rfl⟩
  · exact ⟨fun _ => .inl rfl, fun _ => rfl⟩
  · rw [List.concat_eq_append, lineBefore_concat]
    by_cases newline : c = '\n' <;> simp [newline]

theorem lineBefore_linesAbove (before : List Char) : lineBefore (linesAbove before) = [] := by
  have split := lineBefore_append (not_mem_lineBefore before) (linesAbove before)
  rw [linesAbove_append_lineBefore] at split
  exact List.self_eq_append_left.mp split

theorem linesAbove_append {line : List Char} (single : '\n' ∉ line) {above : List Char}
    (whole : lineBefore above = []) : linesAbove (above ++ line) = above := by
  rw [linesAbove, lineBefore_append single, whole, List.nil_append, List.length_append, Nat.add_sub_cancel,
    List.take_left]

/-- A text goes on to the end of its first line, and then with nothing or a line break. -/
theorem exists_line_append (text : List Char) :
    ∃ line rest, text = line ++ rest ∧ text.takeWhile (· ≠ '\n') = line ∧ '\n' ∉ line ∧
      (rest = [] ∨ ∃ more, rest = '\n' :: more) := by
  refine ⟨text.takeWhile (· ≠ '\n'), text.dropWhile (· ≠ '\n'), List.takeWhile_append_dropWhile.symm, rfl,
    ?_, ?_⟩
  · intro member
    have kept := of_mem_takeWhile member
    simp at kept
  · have stopped := List.head?_dropWhile_not (· ≠ '\n') text
    match text.dropWhile (· ≠ '\n'), stopped with
    | [], _ => exact .inl rfl
    | c :: more, stopped => exact .inr ⟨more, by simpa using stopped⟩

theorem splitLines_ne_nil (text : List Char) : splitLines text ≠ [] := by
  rw [splitLines_eq]
  exact List.splitOn_ne_nil _ _

theorem splitLines_single {line : List Char} (single : '\n' ∉ line) : splitLines line = [line] := by
  rw [splitLines_eq]
  exact List.splitOn_eq_singleton single

theorem closeLines_append (found : List (List Char)) {rest : List (List Char)} (more : rest ≠ []) :
    closeLines (found ++ rest) = found.map chopReturn ++ closeLines rest := by
  induction found with
  | nil => rfl
  | cons line found ih =>
    have filled : found ++ rest ≠ [] := by simp [more]
    rw [List.cons_append, closeLines.eq_3 _ _ (by simpa using filled), ih]
    rfl

/-- The lines of a text are those of its whole lines and those of the rest. -/
theorem lines_append {above : List Char} (whole : lineBefore above = []) (rest : List Char) :
    lines (above ++ rest) = lines above ++ lines rest := by
  rcases lineBefore_eq_nil.mp whole with rfl | ⟨front, rfl⟩
  · rfl
  · rw [List.append_assoc, List.singleton_append, lines_append_newline, lines, splitLines_append_newline,
      closeLines_append _ (splitLines_ne_nil rest), lines]

theorem lines_newline {line : List Char} (single : '\n' ∉ line) (rest : List Char) :
    lines (line ++ '\n' :: rest) = chopReturn line :: lines rest := by
  rw [lines, splitLines_append_newline, splitLines_single single, closeLines_append _ (splitLines_ne_nil rest)]
  rfl

theorem lines_single {line : List Char} (single : '\n' ∉ line) :
    lines line = if line.isEmpty then [] else [line] := by
  rw [lines, splitLines_single single, closeLines]

/-- Each of the lines of a text stands in it between whole lines and the blanks that are taken off its end. -/
theorem exists_lines_split {text line : List Char} {upper lower : List (List Char)}
    (found : lines text = upper ++ line :: lower) :
    ∃ above gap rest, text = above ++ (line ++ (gap ++ rest)) ∧ lineBefore above = [] ∧ lines above = upper ∧
      '\n' ∉ line ++ gap ∧ isBlankText gap = true ∧
      ((rest = [] ∧ lower = []) ∨ ∃ more, rest = '\n' :: more ∧ lines more = lower) := by
  induction upper generalizing text with
  | nil =>
    obtain ⟨first, rest, rfl, _, single, stops⟩ := exists_line_append text
    rcases stops with rfl | ⟨more, rfl⟩
    · rw [List.append_nil, lines_single single] at found
      split at found
      · cases found
      · obtain ⟨rfl, rfl⟩ := List.cons.inj found
        exact ⟨[], [], [], by simp, rfl, rfl, by simpa using single, rfl, .inl ⟨rfl, rfl⟩⟩
    · rw [lines_newline single] at found
      obtain ⟨rfl, rfl⟩ := List.cons.inj found
      obtain ⟨gap, blank, whole⟩ := exists_chopReturn_append_blank first
      refine ⟨[], gap, '\n' :: more, ?_, rfl, rfl, ?_, blank, .inr ⟨more, rfl, rfl⟩⟩
      · rw [List.nil_append, ← List.append_assoc, whole]
      · rwa [whole]
  | cons head upper ih =>
    obtain ⟨first, rest, rfl, _, single, stops⟩ := exists_line_append text
    rcases stops with rfl | ⟨more, rfl⟩
    · rw [List.append_nil, lines_single single] at found
      split at found <;> simp at found
    · rw [lines_newline single] at found
      obtain ⟨same, found⟩ := List.cons.inj found
      obtain ⟨above, gap, rest, split, whole, listed, bare, blank, ends⟩ := ih found
      have start : lineBefore (first ++ '\n' :: above) = [] := by rw [lineBefore_newline, whole]
      refine ⟨first ++ '\n' :: above, gap, rest, ?_, start, ?_, bare, blank, ends⟩
      · rw [split, List.append_assoc, List.cons_append]
      · rw [lines_newline single, same, listed]

theorem length_lines_of_whole {above : List Char} (whole : lineBefore above = []) :
    (lines above).length = above.count '\n' := by
  rcases lineBefore_eq_nil.mp whole with rfl | ⟨front, rfl⟩
  · rfl
  · rw [lines_append_newline, List.length_map, length_splitLines, List.count_append]
    rfl

end Dialect
