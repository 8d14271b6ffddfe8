import Dialect.Proofs.Text.Blank
import Dialect.Text.Line

/-! Lines joined again. A text without carriage returns before its newlines is its lines joined by
newlines, and lines have the words of their text. -/
namespace Dialect

theorem splitLines_eq (text : List Char) : splitLines text = text.splitOn '\n' := by
  rw [splitLines]
  induction text with
  | nil => rfl
  | cons c text ih =>
    rw [List.foldr_cons, ih, List.splitOn_cons_eq_if_modifyHead]
    cases split : text.splitOn '\n' with
    | nil => exact absurd split (List.splitOn_ne_nil '\n' text)
    | cons line rest => simp

theorem splitLines_append_newline (text rest : List Char) :
    splitLines (text ++ '\n' :: rest) = splitLines text ++ splitLines rest := by
  simp only [splitLines_eq, List.splitOn_append_cons_self]

theorem length_splitLines (text : List Char) :
    (splitLines text).length = text.count '\n' + 1 := by
  induction text with
  | nil => rfl
  | cons c text ih =>
    simp only [splitLines_eq, List.splitOn_cons_eq_if_modifyHead, List.count_cons] at ih ⊢
    split <;> simp_all

/-- The newline at its end closes all lines of a text. -/
theorem lines_append_newline (text : List Char) :
    lines (text ++ ['\n']) = (splitLines text).map chopReturn := by
  have closed (found : List (List Char)) : closeLines (found ++ [[]]) = found.map chopReturn := by
    induction found with
    | nil => rfl
    | cons line rest ih =>
      have next : closeLines (line :: (rest ++ [[]])) = chopReturn line :: closeLines (rest ++ [[]]) := by
        cases rest <;> rfl
      rw [List.cons_append, next, ih, List.map_cons]
  rw [lines, splitLines_append_newline]
  exact closed _

theorem intercalate_append {found : List (List Char)} (nonempty : found ≠ []) :
    ['\n'].intercalate found ++ ['\n'] = found.flatMap (· ++ ['\n']) := by
  induction found with
  | nil => exact absurd rfl nonempty
  | cons line rest ih =>
    by_cases more : rest = []
    · simp [more]
    · rw [List.intercalate_cons_of_ne_nil more, List.append_assoc, ih more, List.flatMap_cons]

theorem intercalate_splitLines (text : List Char) : ['\n'].intercalate (splitLines text) = text := by
  rw [splitLines_eq, List.intercalate_splitOn]

/-- Where no carriage return stands before a newline, lines end at newlines only. -/
theorem lines_eq_splitLines {text : List Char} (plain : ¬['\r', '\n'] <:+: text ++ ['\n']) :
    lines (text ++ ['\n']) = splitLines text := by
  have nonempty : splitLines text ≠ [] := by
    rw [splitLines_eq]
    exact List.splitOn_ne_nil _ _
  have kept : ∀ line ∈ splitLines text, chopReturn line = line := by
    intro line member
    rw [chopReturn, if_neg]
    intro last
    obtain ⟨front, rfl⟩ := List.getLast?_eq_some_iff.mp last
    have closed : (front ++ ['\r']) ++ ['\n'] <:+: text ++ ['\n'] := by
      rw [← intercalate_splitLines text, intercalate_append nonempty]
      obtain ⟨a, b, split⟩ := List.append_of_mem member
      exact ⟨a.flatMap (· ++ ['\n']), b.flatMap (· ++ ['\n']), by simp [split]⟩
    exact plain (List.IsInfix.trans ⟨front, [], by simp⟩ closed)
  rw [lines_append_newline, List.map_congr_left kept, List.map_id']

theorem blankSeparated_intercalate (found : List (List Char)) :
    blankSeparated (['\n'].intercalate found) = found.flatMap blankSeparated := by
  induction found with
  | nil => rfl
  | cons line rest ih =>
    by_cases more : rest = []
    · simp [more]
    · rw [List.intercalate_cons_of_ne_nil more, List.append_assoc, List.singleton_append,
        blankSeparated_append rfl, ih, List.flatMap_cons]

theorem exists_chopReturn_append_blank (line : List Char) :
    ∃ gap, isBlankText gap = true ∧ chopReturn line ++ gap = line := by
  rw [chopReturn]
  split
  · next last =>
    obtain ⟨front, rfl⟩ := List.getLast?_eq_some_iff.mp last
    exact ⟨['\r'], rfl, by rw [List.dropLast_concat]⟩
  · exact ⟨[], rfl, List.append_nil line⟩

theorem blankSeparated_chopReturn (line : List Char) :
    blankSeparated (chopReturn line) = blankSeparated line := by
  obtain ⟨gap, blank, split⟩ := exists_chopReturn_append_blank line
  rw [← blankSeparated_append_blank _ blank, split]

theorem flatMap_blankSeparated_lines (text : List Char) :
    (lines text).flatMap blankSeparated = blankSeparated text := by
  have closed (found : List (List Char)) :
      (closeLines found).flatMap blankSeparated = found.flatMap blankSeparated := by
    fun_induction closeLines found with
    | case1 => rfl
    | case2 last empty => simp [List.isEmpty_iff.mp empty]
    | case3 last _ => rfl
    | case4 line rest _ ih => rw [List.flatMap_cons, blankSeparated_chopReturn, ih, List.flatMap_cons]
  rw [lines, closed, ← blankSeparated_intercalate, intercalate_splitLines]

end Dialect
