import Dialect.Position
import Dialect.Proofs.Text.Line
import Dialect.Proofs.Text.Measure

/-! The table of line starts. It has an entry for each stretch between newlines, and the entry is the width of all that
stands before this stretch. -/
namespace Dialect

theorem lineStartsFrom_add (offset more : Nat) (text : List Char) :
    lineStartsFrom (offset + more) text = (lineStartsFrom offset text).map (· + more) := by
  induction text generalizing offset with
  | nil => rfl
  | cons c text ih =>
    rw [lineStartsFrom, lineStartsFrom]
    split
    · rw [List.map_cons, Nat.add_right_comm, ih]
    · rw [Nat.add_right_comm, ih]

theorem lineStarts_newline (text : List Char) : lineStarts ('\n' :: text) = 0 :: (lineStarts text).map (· + 1) := by
  rw [lineStarts, lineStarts, lineStartsFrom, if_pos rfl, List.map_cons, lineStartsFrom_add]

theorem lineStarts_cons {c : Char} (other : c ≠ '\n') (text : List Char) :
    lineStarts (c :: text) = 0 :: (lineStarts text).tail.map (· + byteWidth c) := by
  rw [lineStarts, lineStarts, lineStartsFrom, if_neg other, lineStartsFrom_add, List.tail_cons]

/-- The table is in order, so that a search by halves finds in it what a search from the front does. -/
theorem lineStarts_sorted (text : List Char) : (lineStarts text).Pairwise (· < ·) := by
  have moved {starts : List Nat} {width : Nat} (wide : 0 < width) (sorted : starts.Pairwise (· < ·)) :
      (0 :: starts.map (· + width)).Pairwise (· < ·) := by
    apply List.Pairwise.cons
    · intro start member
      obtain ⟨earlier, -, rfl⟩ := List.mem_map.mp member
      exact Nat.lt_add_left earlier wide
    · exact List.pairwise_map.mpr (sorted.imp fun less => Nat.add_lt_add_right less width)
  induction text with
  | nil => exact List.pairwise_singleton _ 0
  | cons c text ih =>
    by_cases newline : c = '\n'
    · subst newline
      rw [lineStarts_newline]
      exact moved Nat.one_pos ih
    · rw [lineStarts_cons newline]
      exact moved (Char.utf8Size_pos c) ih.tail

theorem lineCount_eq (text : List Char) : lineCount text = text.count '\n' + 1 := by
  rw [lineCount]
  induction text with
  | nil => rfl
  | cons c text ih =>
    by_cases newline : c = '\n'
    · subst newline
      rw [lineStarts_newline, List.length_cons, List.length_map, ih, List.count_cons_self]
    · rw [lineStarts_cons newline, List.length_cons, List.length_map, List.length_tail, ih,
        List.count_cons_of_ne newline, Nat.add_sub_cancel]

theorem exists_splitLines_cons {c : Char} (other : c ≠ '\n') (text : List Char) :
    ∃ line more, splitLines text = line :: more ∧ splitLines (c :: text) = (c :: line) :: more := by
  simp only [splitLines_eq, List.splitOn_cons_eq_if_modifyHead, beq_iff_eq, if_neg other]
  cases found : text.splitOn '\n' with
  | nil => exact absurd found (List.splitOn_ne_nil _ _)
  | cons line more => exact ⟨line, more, rfl, rfl⟩

theorem splitLines_newline (text : List Char) : splitLines ('\n' :: text) = [] :: splitLines text := by
  simp [splitLines]

theorem lineAt?_zero (text : List Char) : lineAt? text 0 = some (text.takeWhile (· ≠ '\n')) := by
  rw [lineAt?, lineStarts, List.getElem?_cons_zero]
  show (dropBytes? 0 text).bind _ = _
  rw [dropBytes?]
  rfl

/-- A line start of the table behind a first character is a line start of what follows it, moved by its width. -/
theorem lineAt?_cons_of_start {text : List Char} {c : Char} {line further : Nat}
    (moved : (lineStarts (c :: text))[line]? = (lineStarts text)[further]?.map (· + byteWidth c)) :
    lineAt? (c :: text) line = lineAt? text further := by
  rw [lineAt?, lineAt?, moved]
  cases (lineStarts text)[further]? with
  | none => rfl
  | some start =>
    show (dropBytes? (start + byteWidth c) (c :: text)).bind _ = (dropBytes? start text).bind _
    rw [Nat.add_comm, dropBytes?_cons]

/-- What stands at a line start up to the next newline is the line. -/
theorem lineAt?_eq (text : List Char) (line : Nat) : lineAt? text line = (splitLines text)[line]? := by
  induction text generalizing line with
  | nil => cases line <;> rfl
  | cons c text ih =>
    by_cases newline : c = '\n'
    · subst newline
      rw [splitLines_newline]
      cases line with
      | zero => rfl
      | succ line =>
        rw [List.getElem?_cons_succ, ← ih]
        apply lineAt?_cons_of_start
        rw [lineStarts_newline, List.getElem?_cons_succ, List.getElem?_map]
        rfl
    · obtain ⟨first, more, split, split'⟩ := exists_splitLines_cons newline text
      rw [split']
      cases line with
      | zero =>
        have here := ih 0
        rw [split, lineAt?_zero] at here
        rw [lineAt?_zero, List.takeWhile_cons_of_pos (by simpa using newline), Option.some.inj here]
        rfl
      | succ line =>
        have there := ih (line + 1)
        rw [split, List.getElem?_cons_succ] at there
        rw [List.getElem?_cons_succ, ← there]
        apply lineAt?_cons_of_start
        rw [lineStarts_cons newline, List.getElem?_cons_succ, List.getElem?_map, List.getElem?_tail]

theorem lt_of_lineAt? {text chars : List Char} {line : Nat} (found : lineAt? text line = some chars) :
    line < lineCount text := by
  rw [lineAt?_eq] at found
  rw [lineCount_eq, ← length_splitLines]
  exact (List.getElem?_eq_some_iff.mp found).1

theorem mem_of_lineAt? {text chars : List Char} {line : Nat} (found : lineAt? text line = some chars) :
    chars ∈ splitLines text :=
  List.mem_of_getElem? ((lineAt?_eq text line).symm.trans found)

theorem exists_lineAt? {text : List Char} {line : Nat} (inside : line < lineCount text) :
    ∃ chars, lineAt? text line = some chars := by
  rw [lineCount_eq, ← length_splitLines] at inside
  exact ⟨_, (lineAt?_eq text line).trans (List.getElem?_eq_getElem inside)⟩

theorem lineAt?_eq_none_iff {text : List Char} {line : Nat} : lineAt? text line = none ↔ lineCount text ≤ line := by
  rw [lineAt?_eq, List.getElem?_eq_none_iff, lineCount_eq, length_splitLines]

namespace Position

/-- The table holds the widths of what stands before the lines. -/
theorem getElem?_lineStarts (text : List Char) (line : Nat) :
    (lineStarts text)[line]? = (lineAt? text line).map fun _ => distance byteWidth line 0 text := by
  rw [lineAt?_eq]
  induction text generalizing line with
  | nil => cases line <;> rfl
  | cons c text ih =>
    by_cases newline : c = '\n'
    · subst newline
      rw [lineStarts_newline, splitLines_newline]
      cases line with
      | zero => rfl
      | succ line =>
        rw [List.getElem?_cons_succ, List.getElem?_cons_succ, List.getElem?_map, ih, distance, if_pos rfl,
          Option.map_map]
        congr 1
        funext chars
        exact Nat.add_comm _ _
    · obtain ⟨first, more, split, split'⟩ := exists_splitLines_cons newline text
      rw [lineStarts_cons newline, split']
      cases line with
      | zero => rfl
      | succ line =>
        rw [List.getElem?_cons_succ, List.getElem?_cons_succ, List.getElem?_map, List.getElem?_tail, ih, split,
          List.getElem?_cons_succ, distance, if_neg newline, Option.map_map]
        congr 1
        funext chars
        exact Nat.add_comm _ _

end Position

end Dialect
