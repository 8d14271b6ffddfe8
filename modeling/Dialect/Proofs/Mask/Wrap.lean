import Dialect.Mask.Restore
import Dialect.Proofs.Text.Line
import Dialect.Proofs.Text.Measure
import Dialect.Proofs.Text.Search
import Mathlib.Data.List.Basic

/-! Taking off the added braces. The indentation that goes with them consists of blanks, so unwrapping
keeps the words of what stands between the braces; and what was wrapped and left alone comes back
exactly, if it is set as formatters set it. -/
namespace Dialect

theorem dropBytes?_suffix {count : Nat} {text rest : List Char} (dropped : dropBytes? count text = some rest) :
    rest <:+ text := by
  fun_induction dropBytes? count text with
  | case1 text =>
    cases dropped
    exact List.suffix_refl _
  | case2 => cases dropped
  | case3 count c text _ ih => exact (ih dropped).trans (List.suffix_cons c text)
  | case4 => cases dropped

theorem dropBytes?_spaces (indent : Nat) (rest : List Char) :
    dropBytes? indent (List.replicate indent ' ' ++ rest) = some rest := by
  induction indent with
  | zero => rw [List.replicate_zero, List.nil_append, dropBytes?]
  | succ indent ih =>
    have width : indent + 1 = byteWidth ' ' + indent := Nat.add_comm indent 1
    rw [List.replicate_succ, List.cons_append, width, dropBytes?_cons, ih]

theorem dedent_zero (line : List Char) : dedent 0 line = line := by
  rw [dedent, dropBytes?, Option.getD_some]

/-- The shared indentation of lines is at most that of each line that is not blank. -/
theorem sharedIndent_le {found : List (List Char)} {line : List Char} (member : line ∈ found)
    (visible : isBlankText line = false) : sharedIndent found ≤ indentOf line :=
  List.min?_getD_le_of_mem (List.mem_map_of_mem (List.mem_filter.mpr ⟨member, by simp [visible]⟩))

theorem exists_indented {indent : Nat} {line : List Char} (bounded : indent ≤ indentOf line) :
    ∃ rest, line = List.replicate indent ' ' ++ rest := by
  have spaces : line.takeWhile (· == ' ') = List.replicate (indentOf line) ' ' :=
    List.eq_replicate_of_mem fun c member => by simpa using of_mem_takeWhile member
  have split := List.takeWhile_append_dropWhile (p := (· == ' ')) (l := line)
  rw [spaces, ← Nat.add_sub_cancel' bounded, ← List.replicate_append_replicate, List.append_assoc] at split
  exact ⟨_, split.symm⟩

theorem exists_blank_append_dedent {indent : Nat} {line : List Char}
    (bounded : isBlankText line = false → indent ≤ indentOf line) :
    ∃ gap, isBlankText gap = true ∧ gap ++ dedent indent line = line := by
  cases visible : isBlankText line with
  | true =>
    have suffix : dedent indent line <:+ line := by
      rw [dedent]
      cases dropped : dropBytes? indent line with
      | none => exact List.dropWhile_suffix _
      | some rest => exact dropBytes?_suffix dropped
    obtain ⟨gap, split⟩ := suffix
    rw [← split, isBlankText_append, Bool.and_eq_true] at visible
    exact ⟨gap, visible.1, split⟩
  | false =>
    obtain ⟨rest, rfl⟩ := exists_indented (bounded visible)
    have spaces : isBlankText (List.replicate indent ' ') = true := by
      rw [isBlankText_iff]
      intro c member
      rw [List.eq_of_mem_replicate member]
      rfl
    refine ⟨_, spaces, ?_⟩
    rw [dedent, dropBytes?_spaces, Option.getD_some]

theorem blankSeparated_dedent {indent : Nat} {line : List Char}
    (bounded : isBlankText line = false → indent ≤ indentOf line) :
    blankSeparated (dedent indent line) = blankSeparated line := by
  obtain ⟨gap, blank, split⟩ := exists_blank_append_dedent bounded
  rw [← blankSeparated_blank_append blank, split]

theorem blankSeparated_unwrap (formatted : List Char) :
    blankSeparated (unwrap formatted) = blankSeparated (stripBraces (trim formatted)) := by
  generalize inner_eq : lines (stripBraces (trim formatted)) = inner
  have body : blankSeparated (trim (['\n'].intercalate (inner.map (dedent (sharedIndent inner))))) =
      blankSeparated (stripBraces (trim formatted)) := by
    rw [blankSeparated_trim, blankSeparated_intercalate, List.flatMap_map,
      List.flatMap_congr fun line member => blankSeparated_dedent (sharedIndent_le member),
      ← inner_eq, flatMap_blankSeparated_lines]
  simp only [unwrap, inner_eq]
  split
  · next empty =>
    rw [List.isEmpty_iff] at empty
    rw [← body, empty]
  · rw [blankSeparated_append_blank _ (by decide), body]

/-- What stands between braces with nothing but blanks around them. -/
theorem stripBraces_trim {gap gap' : List Char} (blank : isBlankText gap = true)
    (blank' : isBlankText gap' = true) (inner : List Char) :
    stripBraces (trim (gap ++ '{' :: (inner ++ '}' :: gap'))) = inner := by
  have ends : trimEnd ('{' :: (inner ++ '}' :: gap')) = '{' :: (inner ++ ['}']) := by
    rw [List.append_cons, ← List.cons_append, trimEnd_append blank', ← List.cons_append,
      trimEnd_concat rfl]
  rw [trim, trimStart_append blank, trimStart_cons rfl, ends]
  show (if (inner ++ ['}']).getLast? = some '}' then (inner ++ ['}']).dropLast else _) = inner
  rw [if_pos (by simp), List.dropLast_concat]

/-- A line that starts with something visible leaves no indentation to share. -/
theorem sharedIndent_eq_zero {found : List (List Char)} {c : Char} {line : List Char}
    (visible : isBlank c = false) (member : c :: line ∈ found) : sharedIndent found = 0 := by
  have bounded := sharedIndent_le member (by simp [visible])
  have space : c ≠ ' ' := by
    rintro rfl
    cases visible
  simpa [indentOf, space] using bounded

/-- The lines of `body` without their indentation and carriage returns. -/
def outdented (body : List Char) : List (List Char) :=
  (splitLines body).map fun line => dedent (sharedIndent ((splitLines body).map chopReturn)) (chopReturn line)

theorem sharedIndent_cons_nil (found : List (List Char)) : sharedIndent ([] :: found) = sharedIndent found := by
  simp [sharedIndent]

theorem outdented_eq_splitLines {body : List Char} (plain : ¬['\r', '\n'] <:+: body ++ ['\n'])
    (flush : sharedIndent (splitLines body) = 0) : outdented body = splitLines body := by
  have chopped : (splitLines body).map chopReturn = splitLines body := by
    rw [← lines_append_newline, lines_eq_splitLines plain]
  rw [outdented, chopped, flush]
  simpa only [dedent_zero] using chopped

theorem unwrap_wrap_eq (body : List Char) :
    unwrap (wrap body) =
      if (trim (['\n'].intercalate (outdented body))).isEmpty then []
      else trim (['\n'].intercalate (outdented body)) ++ ['\n'] := by
  have inner : stripBraces (trim (wrap body)) = '\n' :: body ++ ['\n'] := by
    rw [← @stripBraces_trim [] [] rfl rfl ('\n' :: body ++ ['\n'])]
    simp [wrap]
  have first : lines ('\n' :: body ++ ['\n']) = [] :: (splitLines body).map chopReturn := by
    rw [lines_append_newline]
    rfl
  have empty (indent : Nat) : dedent indent [] = [] := by
    rw [dedent]
    cases indent <;> rfl
  have filled : outdented body ≠ [] := by
    rw [outdented, splitLines_eq]
    simp [List.splitOn_ne_nil]
  have newline : isBlankText ['\n'] = true := by decide
  have moved : (lines ('\n' :: body ++ ['\n'])).map (dedent (sharedIndent (lines ('\n' :: body ++ ['\n'])))) =
      [] :: outdented body := by
    rw [first, sharedIndent_cons_nil, List.map_cons, List.map_map, empty]
    rfl
  have text : trim (['\n'].intercalate ([] :: outdented body)) = trim (['\n'].intercalate (outdented body)) := by
    rw [List.intercalate_cons_of_ne_nil filled, List.nil_append, trim, trimStart_append newline]
    rfl
  simp only [unwrap, inner, moved, text]

/-- Text that starts with something visible and ends with something visible and a newline comes back. -/
theorem unwrap_wrap {c : Char} {front : List Char} (visible : isBlank c = false)
    (trimmed : trimEnd (c :: front) = c :: front)
    (plain : ¬['\r', '\n'] <:+: c :: front ++ ['\n']) :
    unwrap (wrap (c :: front ++ ['\n'])) = c :: front ++ ['\n'] := by
  have plain' : ¬['\r', '\n'] <:+: (c :: front ++ ['\n']) ++ ['\n'] := by
    rw [List.infix_concat_iff]
    rintro (⟨before, same⟩ | inner)
    · have last := congrArg (fun text => text.reverse[1]?) same
      simp at last
    · exact plain inner
  have other : c ≠ '\n' := by
    rintro rfl
    cases visible
  obtain ⟨line, rest, split⟩ : ∃ line rest, splitLines (c :: front ++ ['\n']) = (c :: line) :: rest := by
    rw [splitLines_eq, List.cons_append, List.splitOn_cons_eq_if_modifyHead, if_neg (by simpa using other)]
    cases split : (front ++ ['\n']).splitOn '\n' with
    | nil => exact absurd split (List.splitOn_ne_nil _ _)
    | cons line rest => exact ⟨line, rest, rfl⟩
  have flush : sharedIndent (splitLines (c :: front ++ ['\n'])) = 0 := by
    rw [split]
    exact sharedIndent_eq_zero visible List.mem_cons_self
  have newline : isBlankText ['\n'] = true := by decide
  have body : trim (c :: front ++ ['\n']) = c :: front := by
    rw [trim, List.cons_append, trimStart_cons visible, ← List.cons_append, trimEnd_append newline, trimmed]
  rw [unwrap_wrap_eq, outdented_eq_splitLines plain' flush, intercalate_splitLines, body]
  rfl

end Dialect
