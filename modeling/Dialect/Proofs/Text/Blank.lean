import Dialect.Text.Blank
import Dialect.Vocabulary

/-! Blanks around a text and between its words. Trimming takes off whole runs of blanks; what the
words of a text are does not depend on how many blanks separate them. -/
namespace Dialect

theorem isBlankText_iff {text : List Char} : isBlankText text = true ↔ ∀ c ∈ text, isBlank c = true :=
  List.all_eq_true

@[simp] theorem isBlankText_nil : isBlankText [] = true := rfl

@[simp] theorem isBlankText_cons (c : Char) (text : List Char) :
    isBlankText (c :: text) = (isBlank c && isBlankText text) := rfl

@[simp] theorem isBlankText_append (a b : List Char) :
    isBlankText (a ++ b) = (isBlankText a && isBlankText b) := List.all_append

theorem ne_of_isBlank {c d : Char} (blank : isBlank c = true) (visible : isBlank d = false) : c ≠ d := by
  rintro rfl
  simp [visible] at blank

theorem isIdentChar_of_isIdentStart {c : Char} (start : isIdentStart c = true) :
    isIdentChar c = true := by
  simp only [isIdentStart, Bool.or_eq_true] at start
  rcases start with letter | underscore <;> simp_all [isIdentChar]

theorem isBlank_eq_false_of_isIdentChar {c : Char} (ident : isIdentChar c = true) :
    isBlank c = false := by
  simp only [isIdentChar, isAsciiLetter, isAsciiDigit, Bool.or_eq_true, Bool.and_eq_true,
    decide_eq_true_eq, beq_iff_eq, Char.le_def, UInt32.le_iff_toNat_le] at ident
  have visible (low : 33 ≤ c.toNat) (high : c.toNat ≤ 122) : isBlank c = false := by
    simp only [isBlank, Bool.or_eq_false_iff, Bool.and_eq_false_iff, decide_eq_false_iff_not,
      beq_eq_false_iff_ne]
    omega
  rcases ident with ((((⟨low, high⟩ | ⟨low, high⟩) | ⟨low, high⟩) | rfl) | rfl) | rfl
  · exact visible (Nat.le_trans (by decide) low) high
  · exact visible (Nat.le_trans (by decide) low) (Nat.le_trans high (by decide))
  · exact visible (Nat.le_trans (by decide) low) (Nat.le_trans high (by decide))
  all_goals rfl

theorem isIdentChar_eq_false_of_isBlank {c : Char} (blank : isBlank c = true) : isIdentChar c = false := by
  refine Bool.eq_false_iff.mpr fun ident => ?_
  simp [isBlank_eq_false_of_isIdentChar ident] at blank

theorem trimStart_append {gap : List Char} (blank : isBlankText gap = true) (rest : List Char) :
    trimStart (gap ++ rest) = trimStart rest :=
  List.dropWhile_append_of_pos (isBlankText_iff.mp blank)

theorem trimStart_cons {c : Char} (visible : isBlank c = false) (rest : List Char) :
    trimStart (c :: rest) = c :: rest := by
  simp [trimStart, visible]

theorem trimEnd_append {gap : List Char} (blank : isBlankText gap = true) (rest : List Char) :
    trimEnd (rest ++ gap) = trimEnd rest := by
  rw [trimEnd, List.reverse_append,
    List.dropWhile_append_of_pos (by simpa using isBlankText_iff.mp blank), trimEnd]

theorem trimEnd_concat {c : Char} (visible : isBlank c = false) (rest : List Char) :
    trimEnd (rest ++ [c]) = rest ++ [c] := by
  simp [trimEnd, visible]

/-- A text is what trimming takes off at its start and what it leaves. -/
theorem exists_blank_append_trimStart (text : List Char) :
    ∃ gap, isBlankText gap = true ∧ gap ++ trimStart text = text :=
  ⟨text.takeWhile isBlank, List.all_takeWhile, List.takeWhile_append_dropWhile⟩

theorem exists_trimEnd_append_blank (text : List Char) :
    ∃ gap, isBlankText gap = true ∧ trimEnd text ++ gap = text := by
  obtain ⟨gap, blank, split⟩ := exists_blank_append_trimStart text.reverse
  refine ⟨gap.reverse, by simpa [isBlankText] using blank, ?_⟩
  rw [trimEnd, ← List.reverse_append, show gap ++ text.reverse.dropWhile isBlank = _ from split,
    List.reverse_reverse]

/-- What is trimmed at the end of a text stands behind its visible characters. -/
theorem exists_trimEnd_append_cons {c : Char} (visible : isBlank c = false) (front back : List Char) :
    ∃ kept, trimEnd (front ++ c :: back) = front ++ c :: kept := by
  obtain ⟨gap, blank, split⟩ := exists_trimEnd_append_blank (front ++ c :: back)
  have absent : c ∉ gap := fun member => by
    rw [isBlankText_iff.mp blank c member] at visible
    cases visible
  rcases List.append_eq_append_iff.mp split with ⟨inner, _, rfl⟩ | ⟨inner, trimmed, begins⟩
  · exact absurd (by simp) absent
  · cases inner with
    | nil =>
      rw [← show c :: back = gap from begins] at absent
      exact absurd List.mem_cons_self absent
    | cons d kept =>
      obtain ⟨rfl, _⟩ := List.cons.inj begins
      exact ⟨kept, trimmed⟩

theorem isBlank_head_trimStart {text : List Char} {c : Char}
    (first : (trimStart text).head? = some c) : isBlank c = false := by
  have stopped := List.head?_dropWhile_not isBlank text
  rw [trimStart] at first
  rw [first] at stopped
  exact stopped

/-- Unless all is blank, trimming leaves a stretch that follows the blanks at the start. -/
theorem length_trim {text : List Char} (visible : isBlankText text = false) :
    0 < (trim text).length ∧ (text.takeWhile isBlank).length + (trim text).length ≤ text.length := by
  have front := congrArg List.length (List.takeWhile_append_dropWhile (p := isBlank) (l := text))
  obtain ⟨gap, blank, back⟩ := exists_trimEnd_append_blank (trimStart text)
  have inner := congrArg List.length back
  rw [List.length_append] at front inner
  refine ⟨List.length_pos_iff.mpr fun empty => ?_, ?_⟩
  · obtain ⟨lead, blank', split⟩ := exists_blank_append_trimStart text
    rw [show trimEnd (trimStart text) = [] from empty, List.nil_append] at back
    rw [← split, ← back, isBlankText_append, blank', blank] at visible
    cases visible
  · rw [trim]
    rw [trimStart] at inner
    rw [trimStart]
    omega

theorem trimStart_append_visible {front : List Char} (visible : isBlankText front = false) (back : List Char) :
    trimStart (front ++ back) = trimStart front ++ back := by
  have filled : (trimStart front).isEmpty = false := by
    obtain ⟨gap, blank, split⟩ := exists_blank_append_trimStart front
    refine Bool.eq_false_iff.mpr fun empty => ?_
    rw [List.isEmpty_iff.mp empty, List.append_nil] at split
    rw [← split, blank] at visible
    cases visible
  rw [trimStart] at filled ⊢
  rw [List.dropWhile_append, filled]
  rfl

/-- A text is the blanks at its start, what trimming leaves, and the blanks at its end. -/
theorem exists_trim (text : List Char) :
    ∃ gap, isBlankText gap = true ∧ text = text.takeWhile isBlank ++ (trim text ++ gap) := by
  obtain ⟨gap, blank, split⟩ := exists_trimEnd_append_blank (trimStart text)
  refine ⟨gap, blank, ?_⟩
  rw [trim, split, trimStart, List.takeWhile_append_dropWhile]

theorem getLast?_trimEnd (text : List Char) : (trimEnd text).getLast?.any isBlank = false := by
  have stopped := List.head?_dropWhile_not isBlank text.reverse
  rw [trimEnd, List.getLast?_reverse]
  cases first : (text.reverse.dropWhile isBlank).head? with
  | none => rfl
  | some c => simpa [first] using stopped

theorem head?_trim (text : List Char) : (trim text).head?.any isBlank = false := by
  obtain ⟨gap, _, split⟩ := exists_trimEnd_append_blank (trimStart text)
  rw [trim]
  cases trimmed : trimEnd (trimStart text) with
  | nil => rfl
  | cons c rest =>
    rw [trimmed, List.cons_append] at split
    have first : (trimStart text).head? = some c := by
      rw [← split]
      rfl
    exact isBlank_head_trimStart first

theorem trim_eq_nil {text : List Char} : trim text = [] ↔ isBlankText text = true := by
  constructor
  · intro empty
    refine Bool.of_not_eq_false fun visible => ?_
    have filled := (length_trim visible).1
    rw [empty] at filled
    exact Nat.lt_irrefl 0 filled
  · intro blank
    have none : trimStart text = [] := by
      rw [← List.append_nil text, trimStart_append blank]
      rfl
    rw [trim, none]
    rfl

theorem trim_eq_self {text : List Char} (first : text.head?.any isBlank = false)
    (last : text.getLast?.any isBlank = false) : trim text = text := by
  have start : trimStart text = text := by
    cases text with
    | nil => rfl
    | cons c text => exact trimStart_cons first text
  rw [trim, start]
  rcases List.eq_nil_or_concat text with rfl | ⟨front, c, rfl⟩
  · rfl
  · rw [List.concat_eq_append] at last ⊢
    exact trimEnd_concat (by simpa using last) front

theorem blankSeparated_eq (text : List Char) :
    blankSeparated text = (text.splitOnP isBlank).filter fun word => !word.isEmpty := by
  rw [blankSeparated]
  congr 1
  induction text with
  | nil => rfl
  | cons c text ih =>
    rw [List.foldr_cons, ih, List.splitOnP_cons_eq_if_modifyHead]
    cases split : text.splitOnP isBlank with
    | nil => exact absurd split (List.splitOnP_ne_nil isBlank text)
    | cons word rest => rfl

@[simp] theorem blankSeparated_nil : blankSeparated [] = [] := rfl

/-- A blank keeps the words on its sides apart. -/
theorem blankSeparated_append {c : Char} (blank : isBlank c = true) (a b : List Char) :
    blankSeparated (a ++ c :: b) = blankSeparated a ++ blankSeparated b := by
  simp only [blankSeparated_eq, List.splitOnP_append_cons a b blank, List.filter_append]

theorem blankSeparated_blank_append {gap : List Char} (blank : isBlankText gap = true) (text : List Char) :
    blankSeparated (gap ++ text) = blankSeparated text := by
  induction gap with
  | nil => rfl
  | cons c gap ih =>
    simp only [isBlankText_cons, Bool.and_eq_true] at blank
    exact (blankSeparated_append blank.1 [] _).trans (ih blank.2)

theorem blankSeparated_append_blank (text : List Char) {gap : List Char} (blank : isBlankText gap = true) :
    blankSeparated (text ++ gap) = blankSeparated text := by
  cases gap with
  | nil => rw [List.append_nil]
  | cons c gap =>
    simp only [isBlankText_cons, Bool.and_eq_true] at blank
    have nothing := blankSeparated_blank_append blank.2 []
    rw [List.append_nil, blankSeparated_nil] at nothing
    rw [blankSeparated_append blank.1, nothing, List.append_nil]

theorem blankSeparated_trim (text : List Char) : blankSeparated (trim text) = blankSeparated text := by
  obtain ⟨gap, blank, split⟩ := exists_blank_append_trimStart text
  obtain ⟨gap', blank', split'⟩ := exists_trimEnd_append_blank (trimStart text)
  calc blankSeparated (trim text) = blankSeparated (trimEnd (trimStart text) ++ gap') :=
        (blankSeparated_append_blank _ blank').symm
    _ = blankSeparated (gap ++ trimStart text) := by rw [split', blankSeparated_blank_append blank]
    _ = blankSeparated text := by rw [split]

/-- The first word goes up to the first blank. -/
theorem blankSeparated_cons {c : Char} (visible : isBlank c = false) (text : List Char) :
    blankSeparated (c :: text) =
      (c :: text.takeWhile fun d => !isBlank d) :: blankSeparated (text.dropWhile fun d => !isBlank d) := by
  have split := List.takeWhile_append_dropWhile (p := fun d => !isBlank d) (l := text)
  have word : ∀ d ∈ c :: text.takeWhile (fun d => !isBlank d), isBlank d = false := by
    intro d member
    rcases List.mem_cons.mp member with rfl | member
    · exact visible
    · simpa using List.all_eq_true.mp List.all_takeWhile d member
  have stopped := List.head?_dropWhile_not (fun d => !isBlank d) text
  generalize (text.takeWhile fun d => !isBlank d) = front at split word
  generalize (text.dropWhile fun d => !isBlank d) = rest at split stopped
  subst split
  match rest, stopped with
  | [], _ =>
    rw [List.append_nil, blankSeparated_nil, blankSeparated_eq, List.splitOnP_eq_singleton word]
    rfl
  | d :: rest, stopped =>
    have blank : isBlank d = true := by simpa using stopped
    have alone : blankSeparated (c :: front) = [c :: front] := by
      rw [blankSeparated_eq, List.splitOnP_eq_singleton word]
      rfl
    have nothing := blankSeparated_append blank [] rest
    rw [List.nil_append, blankSeparated_nil, List.nil_append] at nothing
    rw [← List.cons_append, blankSeparated_append blank, alone, nothing]
    rfl

end Dialect
