import Dialect.Proofs.Position
import Dialect.Proofs.Text.Measure

/-! Positions as indices. A position of the document has one index, counted in any unit by what stands
before it, and positions are ordered as their indices are. -/
namespace Dialect

/-- The index of the first character of a line: all before it are those of other lines and their newlines. -/
def lineStart (text : List Char) (line : Nat) : Nat :=
  (((splitLines text).take line).flatMap (· ++ ['\n'])).length

theorem measure_append (width : Char → Nat) (first second : List Char) :
    measure width (first ++ second) = measure width first + measure width second := by
  induction first with
  | nil => exact (Nat.zero_add _).symm
  | cons c first ih => rw [List.cons_append, measure_cons, measure_cons, ih, Nat.add_assoc]

theorem measure_one (text : List Char) : measure (fun _ => 1) text = text.length := by
  induction text with
  | nil => rfl
  | cons c text ih => rw [measure_cons, ih, List.length_cons, Nat.add_comm]

/-- A line in its text: what stands before it, and the width of what stands before a column of it. -/
theorem exists_line_split {text line : List Char} {number : Nat} (found : lineAt? text number = some line) :
    ∃ front rest, text = front ++ line ++ rest ∧ front.length = lineStart text number ∧
      ∀ width column, Position.distance width number column text = measure width (front ++ line.take column) := by
  induction text generalizing line number with
  | nil =>
    rcases number with _ | number
    · obtain rfl : [] = line := Option.some.inj found
      exact ⟨[], [], rfl, rfl, fun width column => by simp [Position.distance, measure]⟩
    · cases found
  | cons c text ih =>
    by_cases newline : c = '\n'
    · subst newline
      rw [lineAt?_eq, splitLines_newline] at found
      rcases number with _ | number
      · obtain rfl : [] = line := Option.some.inj found
        refine ⟨[], '\n' :: text, rfl, rfl, fun width column => ?_⟩
        cases column <;> simp [Position.distance, measure]
      · obtain ⟨front, rest, rfl, start, distance⟩ := ih ((lineAt?_eq text number).trans found)
        refine ⟨'\n' :: front, rest, rfl, ?_, fun width column => ?_⟩
        · rw [lineStart, splitLines_newline, List.take_succ_cons, List.flatMap_cons, List.length_append,
            List.length_cons, start, lineStart]
          exact Nat.add_comm _ _
        · rw [Position.distance, if_pos rfl, distance, List.cons_append, measure_cons]
    · obtain ⟨first, more, split, split'⟩ := exists_splitLines_cons newline text
      rw [lineAt?_eq, split'] at found
      rcases number with _ | number
      · obtain rfl : c :: first = line := Option.some.inj found
        have here : lineAt? text 0 = some first := by rw [lineAt?_eq, split]; rfl
        obtain ⟨front, rest, text_eq, start, distance⟩ := ih here
        obtain rfl : front = [] := List.length_eq_zero_iff.mp start
        refine ⟨[], rest, by rw [text_eq]; rfl, rfl, fun width column => ?_⟩
        rcases column with _ | column
        · rfl
        · rw [Position.distance, if_neg newline, distance]
          exact (measure_cons ..).symm
      · have here : lineAt? text (number + 1) = some line := by rw [lineAt?_eq, split]; exact found
        obtain ⟨front, rest, text_eq, start, distance⟩ := ih here
        refine ⟨c :: front, rest, by rw [text_eq]; rfl, ?_, fun width column => ?_⟩
        · rw [lineStart, split] at start
          rw [lineStart, split', List.length_cons, start]
          simp only [List.take_succ_cons, List.flatMap_cons, List.cons_append, List.length_cons]
        · rw [Position.distance, if_neg newline, distance, List.cons_append, measure_cons]

namespace Position

/-- The position exists in the document: its line is one of the document's, and its column stands on
it or right after it. -/
def IsIn (text : List Char) (p : Position) : Prop :=
  p.line < lineCount text ∧ ∀ line, lineAt? text p.line = some line → p.column ≤ line.length

/-- Strictly earlier in reading order. -/
def Before (p q : Position) : Prop := p.line < q.line ∨ (p.line = q.line ∧ p.column < q.column)

variable {text line : List Char} {p q : Position}

theorem isIn_of_lineAt? (found : lineAt? text p.line = some line) (short : p.column ≤ line.length) :
    p.IsIn text := by
  refine ⟨lt_of_lineAt? found, fun other same => ?_⟩
  rwa [← Option.some.inj (found.symm.trans same)]

theorem IsIn.exists_line (inside : p.IsIn text) :
    ∃ line, lineAt? text p.line = some line ∧ p.column ≤ line.length := by
  obtain ⟨line, found⟩ := exists_lineAt? inside.1
  exact ⟨line, found, inside.2 line found⟩

theorem toIndex_eq (found : lineAt? text p.line = some line) (short : p.column ≤ line.length) :
    toIndex text p = lineStart text p.line + p.column := by
  obtain ⟨front, rest, _, start, distance⟩ := exists_line_split found
  rw [toIndex, distance, measure_one, List.length_append, start, List.length_take_of_le short]

theorem IsIn.toIndex_le (inside : p.IsIn text) : toIndex text p ≤ text.length := by
  obtain ⟨line, found, short⟩ := inside.exists_line
  obtain ⟨front, rest, split, start, _⟩ := exists_line_split found
  rw [toIndex_eq found short, ← start, split, List.length_append, List.length_append]
  omega

/-- All of the text stands before a line below its last one. -/
theorem distance_below {number : Nat} (below : text.count '\n' < number) (width : Char → Nat) (column : Nat) :
    distance width number column text = measure width text := by
  induction text generalizing number with
  | nil => cases number <;> rfl
  | cons c text ih =>
    cases number with
    | zero => cases below
    | succ number =>
      rw [distance, measure_cons]
      by_cases newline : c = '\n'
      · subst newline
        rw [List.count_cons_self] at below
        rw [if_pos rfl, ih (Nat.lt_of_succ_lt_succ below)]
      · rw [List.count_cons_of_ne newline] at below
        rw [if_neg newline, ih below]

theorem toByte_eq_distance (text : List Char) (p : Position) :
    toByte text p = distance byteWidth p.line p.column text := by
  rw [toByte, getElem?_lineStarts]
  cases found : lineAt? text p.line with
  | some line =>
    obtain ⟨front, rest, _, _, distance⟩ := exists_line_split found
    have start := distance byteWidth 0
    rw [List.take_zero, List.append_nil] at start
    rw [Option.map_some, start, distance, measure_append]
    rfl
  | none =>
    have below := lineAt?_eq_none_iff.mp found
    rw [lineCount_eq] at below
    exact (distance_below below byteWidth p.column).symm

/-- The byte offset of a position is that of its character. -/
theorem IsIn.toByte_eq (inside : p.IsIn text) : toByte text p = byteOffset text (toIndex text p) := by
  obtain ⟨line, found, short⟩ := inside.exists_line
  obtain ⟨front, rest, split, start, distance⟩ := exists_line_split found
  have taken : text.take (toIndex text p) = front ++ line.take p.column := by
    rw [toIndex_eq found short, ← start, split, List.append_assoc, List.take_length_add_append,
      List.take_append_of_le_length short]
  rw [toByte_eq_distance, distance, byteOffset, taken, byteLength]

/-- A character of a line is the character of the text at its index. -/
theorem getElem?_toIndex {chars : List Char} (found : lineAt? text p.line = some chars)
    (short : p.column < chars.length) : text[toIndex text p]? = chars[p.column]? := by
  obtain ⟨front, rest, split, start, _⟩ := exists_line_split found
  rw [toIndex_eq found (Nat.le_of_lt short), ← start, split, List.append_assoc, List.getElem?_append_right (by omega),
    Nat.add_sub_cancel_left, List.getElem?_append_left short]

theorem lineStart_succ (found : lineAt? text p.line = some line) :
    lineStart text (p.line + 1) = lineStart text p.line + (line.length + 1) := by
  rw [lineStart, List.take_add_one, ← lineAt?_eq, found]
  simp [lineStart]

theorem lineStart_mono {a b : Nat} (below : a ≤ b) : lineStart text a ≤ lineStart text b := by
  obtain ⟨more, rfl⟩ := Nat.exists_eq_add_of_le below
  rw [lineStart, lineStart, List.take_add, List.flatMap_append, List.length_append]
  exact Nat.le_add_right _ _

theorem IsIn.toIndex_lt (inside : p.IsIn text) (inside' : q.IsIn text) (before : p.Before q) :
    toIndex text p < toIndex text q := by
  obtain ⟨line, found, short⟩ := inside.exists_line
  obtain ⟨line', found', short'⟩ := inside'.exists_line
  rw [toIndex_eq found short, toIndex_eq found' short']
  rcases before with above | ⟨same, left⟩
  · have next := lineStart_succ found
    have later : lineStart text (p.line + 1) ≤ lineStart text q.line := lineStart_mono above
    omega
  · rw [same]
    omega

theorem IsIn.before_iff (inside : p.IsIn text) (inside' : q.IsIn text) :
    p.Before q ↔ toIndex text p < toIndex text q := by
  refine ⟨inside.toIndex_lt inside', fun less => ?_⟩
  rcases Nat.lt_trichotomy p.line q.line with above | same | below
  · exact .inl above
  · refine .inr ⟨same, Nat.lt_of_not_le fun right => ?_⟩
    rcases Nat.lt_or_eq_of_le right with right | equal
    · exact Nat.lt_asymm less (inside'.toIndex_lt inside (.inr ⟨same.symm, right⟩))
    · obtain rfl : p = q := by
        cases p
        cases q
        simp_all
      exact Nat.lt_irrefl _ less
  · exact absurd (inside'.toIndex_lt inside (.inl below)) (Nat.lt_asymm less)

theorem line_le_advance (p : Position) (index : Nat) (text : List Char) : p.line ≤ (advance p index text).line := by
  fun_induction advance p index text with
  | case1 | case2 => exact Nat.le_refl _
  | case3 _ _ _ ih => exact Nat.le_trans (Nat.le_succ _) ih
  | case4 _ _ _ _ _ ih => exact ih

/-- Starting further right moves the columns of the first line as far. -/
theorem advance_right (right : Nat) (p : Position) (index : Nat) (text : List Char) :
    advance ⟨p.line, p.column + right⟩ index text =
      if (advance p index text).line = p.line then ⟨p.line, (advance p index text).column + right⟩
      else advance p index text := by
  fun_induction advance p index text with
  | case1 => simp [advance]
  | case2 => simp [advance]
  | case3 p index rest ih =>
    have below := line_le_advance ⟨p.line + 1, 0⟩ index rest
    rw [advance, if_pos rfl, if_neg]
    simp only at below
    omega
  | case4 p index c rest other ih =>
    rw [advance, if_neg other, ← ih]
    simp only [Nat.add_right_comm]

/-- Where a position stands once a character is put in front of its text. -/
def behind (c : Char) (p : Position) : Position :=
  if c = '\n' then ⟨p.line + 1, p.column⟩ else if p.line = 0 then ⟨0, p.column + 1⟩ else p

theorem ofIndex_cons (c : Char) (text : List Char) (index : Nat) :
    ofIndex (c :: text) (index + 1) = (ofIndex text index).behind c := by
  rw [ofIndex, advance, behind]
  split
  · exact advance_below 1 ⟨0, 0⟩ index text
  · exact advance_right 1 ⟨0, 0⟩ index text

theorem toIndex_behind (c : Char) (text : List Char) (p : Position) :
    toIndex (c :: text) (p.behind c) = toIndex text p + 1 := by
  obtain ⟨line, column⟩ := p
  rw [toIndex, toIndex, behind]
  by_cases newline : c = '\n'
  · simp [newline, distance, Nat.add_comm]
  · cases line with
    | zero => simp [newline, distance, Nat.add_comm]
    | succ line => simp [newline, distance, Nat.add_comm 1]

theorem IsIn.behind (inside : p.IsIn text) (c : Char) : (p.behind c).IsIn (c :: text) := by
  obtain ⟨line, found, short⟩ := inside.exists_line
  rw [Position.behind]
  by_cases newline : c = '\n'
  · subst newline
    rw [if_pos rfl]
    refine isIn_of_lineAt? (p := ⟨p.line + 1, p.column⟩) ?_ short
    rw [lineAt?_eq, splitLines_newline]
    exact (lineAt?_eq text p.line).symm.trans found
  · obtain ⟨first, more, split, split'⟩ := exists_splitLines_cons newline text
    rw [if_neg newline]
    rw [lineAt?_eq, split] at found
    by_cases top : p.line = 0
    · rw [top] at found
      obtain rfl : first = line := Option.some.inj found
      have found : lineAt? (c :: text) 0 = some (c :: first) := by rw [lineAt?_eq, split']; rfl
      rw [if_pos top]
      exact isIn_of_lineAt? (p := ⟨0, p.column + 1⟩) found (Nat.succ_le_succ short)
    · obtain ⟨number, lower⟩ := Nat.exists_eq_add_one_of_ne_zero top
      rw [if_neg top]
      refine isIn_of_lineAt? ?_ short
      rw [lineAt?_eq, split', lower]
      rwa [lower] at found

/-- Every index up to the end of a text is that of a position of the text. -/
theorem isIn_ofIndex {index : Nat} (inside : index ≤ text.length) :
    (ofIndex text index).IsIn text ∧ toIndex text (ofIndex text index) = index := by
  induction text generalizing index with
  | nil =>
    obtain rfl : index = 0 := Nat.le_zero.mp inside
    exact ⟨isIn_of_lineAt? (p := ⟨0, 0⟩) (lineAt?_zero _) (Nat.zero_le _), rfl⟩
  | cons c text ih =>
    cases index with
    | zero =>
      exact ⟨isIn_of_lineAt? (p := ⟨0, 0⟩) (lineAt?_zero _) (Nat.zero_le _), rfl⟩
    | succ index =>
      obtain ⟨inside, same⟩ := ih (Nat.le_of_succ_le_succ inside)
      rw [ofIndex_cons, toIndex_behind, same]
      exact ⟨inside.behind c, rfl⟩

end Position

end Dialect
