import Dialect.Proofs.Editor.Edit
import Dialect.Proofs.Text.Place

/-! What is read before a cursor that an editor has been sent to. Positions count all characters between newlines,
the cursor's line is one that readers of the text see, and on it the cursor stands behind so many code units. -/
namespace Dialect.Editor

/-- The line with this number as readers of the text see it: a carriage return before its newline does not count. -/
def readLine? (text : List Char) (number : Nat) : Option (List Char) :=
  (lineAt? text number).map fun line => if number + 1 < lineCount text then chopReturn line else line

section Line

variable {text line : List Char} {number : Nat}

theorem lines_eq_append {front : List (List Char)} {last : List Char} (split : splitLines text = front ++ [last]) :
    lines text = front.map chopReturn ++ if last.isEmpty then [] else [last] := by
  rw [lines, split, closeLines_append front (List.cons_ne_nil last []), closeLines]

/-- The cursor may stand on each line of the document, also on an empty last one. -/
theorem cursorLine?_eq_readLine? (inside : number < lineCount text) :
    cursorLine? text number = readLine? text number := by
  have split := (List.dropLast_append_getLast (splitLines_ne_nil text)).symm
  generalize (splitLines text).dropLast = front at split
  generalize (splitLines text).getLast (splitLines_ne_nil text) = last at split
  have count : lineCount text = front.length + 1 := by
    rw [lineCount_eq, ← length_splitLines, split, List.length_append]
    rfl
  rw [cursorLine?, readLine?, lineAt?_eq, lines_eq_append split, split, count]
  rw [count] at inside
  by_cases closed : number < front.length
  · simp [closed, List.getElem?_append_left]
  · obtain rfl : number = front.length := by omega
    by_cases empty : last = []
    · simp [empty]
    · simp [empty]

theorem exists_readLine? (found : lineAt? text number = some line) :
    ∃ shown, readLine? text number = some shown ∧ shown <+: line := by
  simp only [readLine?, found, Option.map_some, Option.some.injEq, exists_eq_left']
  split
  · obtain ⟨gap, _, split⟩ := exists_chopReturn_append_blank line
    exact ⟨gap, split⟩
  · exact List.prefix_rfl

end Line

/-- A start of a text as wide as the limit, or so near to it that the next character goes over it. -/
theorem takeWidth_eq {width : Char → Nat} {text : List Char} {count limit : Nat}
    (low : measure width (text.take count) ≤ limit)
    (high : ∀ c, text[count]? = some c → limit < measure width (text.take count) + width c) :
    takeWidth width limit text = text.take count := by
  induction text generalizing count limit with
  | nil => simp [takeWidth]
  | cons c text ih =>
    cases count with
    | zero =>
      have narrow := high c rfl
      simp only [List.take_zero, measure, List.foldl_nil, Nat.zero_add] at narrow
      simp [takeWidth, Nat.not_le_of_lt narrow]
    | succ count =>
      rw [List.take_succ_cons, measure_cons] at low high
      have wide : width c ≤ limit := Nat.le_trans (Nat.le_add_right _ _) low
      rw [takeWidth, if_pos wide, List.take_succ_cons]
      congr 1
      apply ih
      · omega
      · intro d next
        have above := high d next
        omega

/-- What is read before a cursor at a position, and before one that stands further inside the next character. -/
theorem beforeCursor?_eq {text whole shown : List Char} {encoding : Encoding} {p : Position} {inner : Nat}
    (found : lineAt? text p.line = some whole) (read : readLine? text p.line = some shown)
    (short : p.column ≤ shown.length) (within : ∀ c, whole[p.column]? = some c → inner < encoding.width c) :
    beforeCursor? text ⟨p.line, measure encoding.width (whole.take p.column) + inner⟩ encoding =
      some (whole.take p.column) := by
  have inside := lt_of_lineAt? found
  obtain ⟨shown', same, rest, rfl⟩ := exists_readLine? found
  obtain rfl : shown = shown' := Option.some.inj (read.symm.trans same)
  have taken : (shown ++ rest).take p.column = shown.take p.column := List.take_append_of_le_length short
  rw [beforeCursor?, cursorLine?_eq_readLine? inside, read, Option.map_some, taken]
  congr 1
  apply takeWidth_eq
  · exact Nat.le_add_right _ _
  · intro c next
    have here : (shown ++ rest)[p.column]? = some c := by
      rw [List.getElem?_append_left (List.getElem?_eq_some_iff.mp next).1, next]
    exact Nat.add_lt_add_left (within c here) _

/-- Positions come back from the editor. The place of a position, sent back as a cursor, is one before which the line
is read up to the column of the position, if that stands on the line as readers see it. If the cursor stands further
right, but inside the character at that column, as between the two units of a surrogate pair, the same is read. -/
theorem position_before_cursor (text : List Char) (encoding : Encoding) (fits : encoding.Fits text) (p : Position)
    (whole shown : List Char) (found : lineAt? text p.line = some whole) (read : readLine? text p.line = some shown)
    (short : p.column ≤ shown.length) :
    beforeCursor? text (place text encoding p) encoding = some (whole.take p.column) ∧
      ∀ c, whole[p.column]? = some c → ∀ inner < encoding.width c,
        beforeCursor? text ⟨p.line, (place text encoding p).character + inner⟩ encoding =
          some (whole.take p.column) := by
  obtain ⟨_, same, part⟩ := exists_readLine? found
  obtain rfl := Option.some.inj (read.symm.trans same)
  rw [place_of_short found (Nat.le_trans short part.length_le) fits.few fits.short]
  constructor
  · exact @beforeCursor?_eq _ _ _ _ _ 0 found read short fun c _ => encoding.width_pos c
  · intro c next inner within
    apply beforeCursor?_eq found read short
    intro d here
    rwa [← Option.some.inj (next.symm.trans here)]

/-- A line that ends with a carriage return and has a character of two units, before which a cursor between them
stands; the empty line below it; and a last line that keeps its carriage return. -/
theorem position_before_cursor_astral :
    Encoding.utf16.Fits "a𝕏b\r\n\r".toList ∧
      beforeCursor? "a𝕏b\r\n\r".toList ⟨0, 4⟩ .utf16 = some "a𝕏b".toList ∧
      beforeCursor? "a𝕏b\r\n\r".toList ⟨0, 2⟩ .utf16 = some "a".toList ∧
      beforeCursor? "a𝕏b\r\n\r".toList ⟨1, 1⟩ .utf16 = some "\r".toList := by
  have fits : Encoding.utf16.Fits "a𝕏b\r\n\r".toList := ⟨by decide +kernel, by decide +kernel⟩
  have whole := position_before_cursor _ .utf16 fits ⟨0, 3⟩ "a𝕏b\r".toList "a𝕏b".toList (by decide +kernel)
    (by decide +kernel) (by decide)
  have between := position_before_cursor _ .utf16 fits ⟨0, 1⟩ "a𝕏b\r".toList "a𝕏b".toList (by decide +kernel)
    (by decide +kernel) (by decide)
  have last := position_before_cursor _ .utf16 fits ⟨1, 1⟩ "\r".toList "\r".toList (by decide +kernel)
    (by decide +kernel) (by decide)
  exact ⟨fits, whole.1, between.2 '𝕏' (by decide) 1 (by decide), last.1⟩

end Dialect.Editor
