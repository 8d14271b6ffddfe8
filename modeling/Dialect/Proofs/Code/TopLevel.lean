import Dialect.Proofs.Code.Lexer
import Dialect.Proofs.Text.Blank

/-! Where the search for the `=` of an assignment ends. -/
namespace Dialect

/-- Lexing keeps every character. -/
@[simp] theorem map_char_lex (mode : Mode) (text : List Char) : (lex mode text).map (·.char) = text := by
  induction text generalizing mode with
  | nil => rfl
  | cons c rest ih => simp [lex, ih]

theorem topLevelFrom_equals {depth index found : Nat} {lexemes : List Lexeme}
    (search : topLevelFrom .equals depth index lexemes = some found) :
    ∃ before rest, lexemes.map (·.char) = before ++ '=' :: rest ∧ found = index + before.length ∧
      rest.head? ≠ some '=' := by
  fun_induction topLevelFrom .equals depth index lexemes with
  | case1 | case4 | case10 => cases search
  | case9 => contradiction
  | case6 depth index c role _ _ _ here =>
    cases search
    exact ⟨[], [], by simp [here.1], rfl, by simp⟩
  | case8 depth index c role _ _ _ here next further other =>
    cases search
    exact ⟨[], (next :: further).map (·.char), by simp [here.1], rfl, by simpa using other⟩
  | case7 depth index c role _ _ _ here next further same ih =>
    obtain ⟨before, rest, text, place, single⟩ := ih search
    refine ⟨c :: next.char :: before, rest, by simp [text], ?_, single⟩
    simp only [List.length_cons, place]
    omega
  | case2 _ _ c _ _ _ ih | case3 _ _ c _ _ _ _ ih | case5 _ c _ _ _ _ _ _ ih
  | case11 _ _ c _ _ _ _ _ _ _ ih =>
    obtain ⟨before, rest, text, place, single⟩ := ih search
    refine ⟨c :: before, rest, by simp [text], ?_, single⟩
    simp only [List.length_cons, place]
    omega

/-- The search for an `=` ends at one, and not at the first of a pair. -/
theorem topLevel?_equals {text : List Char} {gap : Nat} (search : topLevel? .equals text = some gap) :
    ∃ before rest, text = before ++ '=' :: rest ∧ gap = before.length ∧ rest.head? ≠ some '=' := by
  rw [topLevel?_eq] at search
  simpa using topLevelFrom_equals search

theorem step_code_blank {c : Char} (blank : isBlank c = true) (rest : List Char) :
    Mode.step .code c rest = (.code, .code) := by
  have other {d : Char} (visible : isBlank d = false) : c ≠ d := ne_of_isBlank blank visible
  simp [Mode.step, @other '"' rfl, @other '\'' rfl, @other commentMarker rfl]

/-- After nothing but blanks a single `=` is found at once. -/
theorem topLevelFrom_blanks {gap rest : List Char} (blank : isBlankText gap = true)
    (single : rest.head? ≠ some '=') (index : Nat) :
    topLevelFrom .equals 0 index (lex .code (gap ++ '=' :: rest)) = some (index + gap.length) := by
  induction gap generalizing index with
  | nil =>
    have code : Mode.step .code '=' rest = (.code, .code) := by simp [Mode.step, commentMarker]
    cases rest with
    | nil => simp [lex, code, topLevelFrom, isOpener, isCloser]
    | cons next further =>
      have other : next ≠ '=' := by simpa using single
      simp [lex, code, topLevelFrom, isOpener, isCloser, other]
  | cons c gap ih =>
    simp only [isBlankText_cons, Bool.and_eq_true] at blank
    have other {d : Char} (visible : isBlank d = false) : c ≠ d := ne_of_isBlank blank.1 visible
    have opener : isOpener c = false := by
      simp [isOpener, @other '(' rfl, @other '{' rfl, @other '[' rfl]
    have closer : isCloser c = false := by
      simp [isCloser, @other ')' rfl, @other '}' rfl, @other ']' rfl]
    rw [List.cons_append, lex, step_code_blank blank.1, topLevelFrom.eq_def]
    simpa [opener, closer, @other '=' rfl, @other ';' rfl, Nat.add_assoc, Nat.add_comm 1] using
      ih blank.2 (index + 1)

theorem topLevel?_blanks {gap rest : List Char} (blank : isBlankText gap = true)
    (single : rest.head? ≠ some '=') : topLevel? .equals (gap ++ '=' :: rest) = some gap.length := by
  simpa [topLevel?_eq] using topLevelFrom_blanks blank single 0

end Dialect
