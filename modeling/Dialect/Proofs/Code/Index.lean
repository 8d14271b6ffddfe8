import Dialect.Proofs.Code.Seam
import Dialect.Proofs.Position.Index

/-! The code view by the indices of its document. A sign of the code view is a character that the lexer of the
place's line reads as code, and where no string goes over a line break, the lexer of the whole text reads it so. -/
namespace Dialect

namespace Position

theorem advance_split (p : Position) (front : List Char) (index : Nat) (back : List Char) :
    advance p (front.length + index) (front ++ back) = advance (advance p front.length (front ++ back)) index back := by
  induction front generalizing p with
  | nil => rw [List.length_nil, Nat.zero_add, List.nil_append, advance]
  | cons c front ih =>
    rw [List.length_cons, Nat.add_right_comm, List.cons_append, advance, advance]
    split <;> rw [ih]

theorem advance_beyond (p : Position) {index : Nat} {text : List Char} (beyond : text.length ≤ index) :
    advance p index text = advance p text.length text := by
  induction text generalizing p index with
  | nil => cases index <;> rfl
  | cons c text ih =>
    obtain ⟨further, rfl⟩ := Nat.exists_eq_add_one_of_ne_zero (Nat.ne_of_gt (Nat.lt_of_lt_of_le (Nat.succ_pos _) beyond))
    have beyond' : text.length ≤ further := Nat.le_of_succ_le_succ beyond
    rw [List.length_cons, advance, advance]
    split <;> exact ih _ beyond'

/-- A place stands below as many lines as line breaks come before it. -/
theorem ofIndex_length (before rest : List Char) :
    ofIndex (before ++ rest) before.length = ⟨before.count '\n', (lineBefore before).length⟩ := by
  induction before using List.reverseRecOn generalizing rest with
  | nil => rfl
  | append_singleton before c ih =>
    rw [List.append_assoc, List.length_append, List.length_singleton, ofIndex, advance_split,
      show advance ⟨0, 0⟩ before.length _ = _ from ih _, List.singleton_append, advance, lineBefore_concat,
      List.count_append]
    split
    · next newline => simp [newline, advance]
    · next other => simp [other, advance]

end Position

/-- What the code view shows at an index of its document. -/
def codeAt? (text : List Char) (index : Nat) : Option Char :=
  ((CodeLine.ofDocument text)[(Position.ofIndex text index).line]?).bind
    (·.chars[(Position.ofIndex text index).column]?)

theorem Mode.comment_of_step {mode : Mode} {c : Char} {rest : List Char} (comment : (mode.step c rest).1 = .comment) :
    (mode.step c rest).2 = .comment := by
  cases mode <;> simp only [step] at comment ⊢
  case code => split_ifs at comment ⊢; simp_all
  case comment => split_ifs at comment ⊢; simp_all
  case quoted => split_ifs at comment
  case raw => split_ifs at comment
  all_goals cases comment

/-- A comment goes on to the end of its line. -/
theorem modeAt_comment {front : List Char} (single : '\n' ∉ front) (back : List Char) :
    modeAt .comment (front ++ back) front.length = .comment := by
  induction front with
  | nil => exact modeAt_zero _ _
  | cons c front ih =>
    rw [List.mem_cons, not_or] at single
    rw [List.cons_append, List.length_cons, modeAt, Mode.step, if_neg (Ne.symm single.1)]
    exact ih single.2

namespace CodeLine

/-- The code line on which a place stands. -/
theorem getElem?_ofDocument {before rest : List Char} (filled : rest ≠ []) :
    (ofDocument (before ++ rest))[before.count '\n']? =
      some (ofText (carried false (ofDocument (linesAbove before)))
        (lineBefore before ++ rest.takeWhile (· ≠ '\n'))) := by
  have whole := lineBefore_linesAbove before
  have parted : before ++ rest = linesAbove before ++ (lineBefore before ++ rest) := by
    rw [← List.append_assoc, linesAbove_append_lineBefore]
  have breaks : (ofDocument (linesAbove before)).length = before.count '\n' := by
    rw [length_ofDocument, length_lines_of_whole whole]
    conv_rhs => rw [← linesAbove_append_lineBefore before, List.count_append,
      List.count_eq_zero_of_not_mem (not_mem_lineBefore before), Nat.add_zero]
  rw [parted, ofDocument_append whole, ← breaks, List.getElem?_append_right (Nat.le_refl _), Nat.sub_self]
  obtain ⟨line, more, rfl, taken, bare, stops⟩ := exists_line_append rest
  have single : '\n' ∉ lineBefore before ++ line := by simp [not_mem_lineBefore before, bare]
  rw [taken, ← List.append_assoc]
  rcases stops with rfl | ⟨further, rfl⟩
  · have present : lineBefore before ++ line ≠ [] := by simp at filled; simp [filled]
    rw [List.append_nil, lines_single single, if_neg (by simpa using present)]
    rfl
  · rw [lines_newline single, ofLines, ofText_chopReturn _ single]
    rfl

/-- On one line everything is visible that no comment hides. -/
theorem getElem?_visible {front back : List Char} {c : Char} (single : '\n' ∉ front) (other : c ≠ '\n')
    (mode : Mode) {role : Role}
    (read : ((modeAt mode (front ++ c :: back) front.length).step c back).1 = role) :
    (visible mode (front ++ c :: back))[front.length]? =
      if role = .comment then none else some (Lexeme.visible ⟨c, role⟩) := by
  induction front generalizing mode with
  | nil =>
    rw [List.nil_append, List.length_nil, modeAt_zero] at read
    rw [List.nil_append, visible_cons, read]
    split <;> simp
  | cons d front ih =>
    rw [List.mem_cons, not_or] at single
    rw [List.cons_append, List.length_cons, modeAt] at read
    rw [List.cons_append, visible_cons]
    split
    · next commented =>
      rw [Mode.comment_of_step commented, modeAt_comment single.2, Mode.step, if_neg other] at read
      rw [if_pos read.symm]
      rfl
    · rw [List.length_cons, List.getElem?_cons_succ, ih single.2 _ read]

theorem getElem?_trimEnd {chars : List Char} {d : Char} (solid : Dialect.isBlank d = false) (column : Nat) :
    (trimEnd chars)[column]? = some d ↔ chars[column]? = some d := by
  obtain ⟨gap, blank, split⟩ := exists_trimEnd_append_blank chars
  conv_rhs => rw [← split]
  rw [List.getElem?_append]
  split
  · rfl
  · next beyond =>
    rw [List.getElem?_eq_none (Nat.not_lt.mp beyond)]
    refine ⟨fun absent => absurd absent (by simp), fun there => ?_⟩
    rw [isBlankText_iff.mp blank d (List.mem_of_getElem? there)] at solid
    cases solid

end CodeLine

/-- In what role the code view shows a character, given what stands before and behind it. -/
def viewRole (before : List Char) (c : Char) (rest : List Char) : Role := ((viewMode before (c :: rest)).step c rest).1

/-- A sign of the code view is code, or it opens or closes a string. -/
theorem codeAt?_eq_some {before rest : List Char} {c d : Char} (solid : isBlank d = false) :
    codeAt? (before ++ c :: rest) before.length = some d ↔
      c = d ∧ (viewRole before c rest = .code ∨ viewRole before c rest = .delimiter) := by
  have single := not_mem_lineBefore before
  rw [codeAt?, Position.ofIndex_length, CodeLine.getElem?_ofDocument (List.cons_ne_nil c rest), Option.bind_some]
  by_cases newline : c = '\n'
  · subst newline
    have short := (CodeLine.shows_ofText (CodeLine.carried false (CodeLine.ofDocument (linesAbove before)))
      (lineBefore before)).length_le
    rw [List.takeWhile_cons_of_neg (by simp), List.append_nil, List.getElem?_eq_none short]
    refine ⟨fun absent => absurd absent (by simp), fun same => ?_⟩
    rw [← same.1] at solid
    cases solid
  · have taken : (c :: rest).takeWhile (· ≠ '\n') = c :: rest.takeWhile (· ≠ '\n') :=
      List.takeWhile_cons_of_pos (by simpa using newline)
    have read : ((modeAt (CodeLine.entry (CodeLine.carried false (CodeLine.ofDocument (linesAbove before))))
        (lineBefore before ++ c :: rest.takeWhile (· ≠ '\n')) (lineBefore before).length).step c
          (rest.takeWhile (· ≠ '\n'))).1 = viewRole before c rest := by
      rw [viewRole, viewMode, taken, Mode.step_line]
    rw [taken, CodeLine.chars_ofText, CodeLine.getElem?_trimEnd solid, CodeLine.getElem?_visible single newline _ read]
    generalize viewRole before c rest = role
    have hidden : ' ' ≠ d := by
      rintro rfl
      cases solid
    cases role <;> simp [Lexeme.visible, hidden]

theorem lt_of_codeAt? {text : List Char} {index : Nat} {c : Char} (shown : codeAt? text index = some c) :
    index < text.length := by
  obtain ⟨code, there, here⟩ := Option.bind_eq_some_iff.mp shown
  obtain ⟨line, found, shows⟩ := CodeLine.shows_ofDocument there
  have column := Nat.lt_of_lt_of_le (List.getElem?_eq_some_iff.mp here).1 shows.length_le
  have present := Position.getElem?_toIndex found column
  rw [List.getElem?_eq_getElem column] at present
  have inside := (List.getElem?_eq_some_iff.mp present).1
  by_contra beyond
  rw [Position.ofIndex, Position.advance_beyond _ (Nat.not_lt.mp beyond)] at inside
  have last := (Position.isIn_ofIndex (Nat.le_refl text.length)).2
  rw [Position.ofIndex] at last
  omega

/-- A sign that analyses look for. -/
def isSign (c : Char) : Bool := isOpener c || isCloser c || c == '=' || c == ';'

theorem Mode.delimiter_of_step {mode : Mode} {before rest : List Char} {c : Char} (awaits : mode.Awaits before (c :: rest))
    (delimiter : (mode.step c rest).1 = .delimiter) : c = '"' ∨ c = '\'' := by
  cases mode <;> simp only [step] at delimiter
  case code => split_ifs at delimiter <;> simp_all
  case quoted => split_ifs at delimiter; simp_all
  case raw => split_ifs at delimiter; simp_all
  case comment => split_ifs at delimiter
  case rawOpening => simp_all [Awaits]
  case rawClosing => simp_all [Awaits]
  all_goals cases delimiter

theorem isBlank_eq_false_of_isSign {c : Char} (sign : isSign c = true) : isBlank c = false := by
  refine Bool.eq_false_iff.mpr fun blank => ?_
  have other {d : Char} (visible : isBlank d = false) : c ≠ d := ne_of_isBlank blank visible
  simp [isSign, isOpener, isCloser, @other '(' rfl, @other '[' rfl, @other '{' rfl, @other ')' rfl, @other ']' rfl,
    @other '}' rfl, @other '=' rfl, @other ';' rfl] at sign

/-- The code view shows a sign where the lexer of the place's line reads it as code. -/
theorem codeAt?_sign {before rest : List Char} {c d : Char} (sign : isSign d = true) :
    codeAt? (before ++ c :: rest) before.length = some d ↔ c = d ∧ viewRole before c rest = .code := by
  rw [codeAt?_eq_some (isBlank_eq_false_of_isSign sign)]
  refine and_congr_right fun same => ⟨fun role => role.resolve_right fun delimiter => ?_, .inl⟩
  subst same
  rcases Mode.delimiter_of_step (awaits_viewMode before (c :: rest)) delimiter with rfl | rfl <;> cases sign

/-- Where no string goes over a line break, signs of the code view are those of the lexer of the whole text. -/
theorem codeAt?_eq_lex {text : List Char} (strings : StringsEnd text) {index : Nat} {d : Char}
    (sign : isSign d = true) : codeAt? text index = some d ↔ (lex .code text)[index]? = some ⟨d, .code⟩ := by
  by_cases inside : index < text.length
  · obtain ⟨before, c, rest, rfl, rfl⟩ := exists_append_cons inside
    rw [codeAt?_sign sign, getElem?_lex, viewRole, viewMode_eq_modeAt strings]
    simp
  · have beyond : (lex .code text)[index]? = none := by
      rw [List.getElem?_eq_none]
      rw [length_lex]
      exact Nat.not_lt.mp inside
    rw [beyond]
    exact ⟨fun shown => absurd (lt_of_codeAt? shown) inside, fun none => absurd none (by simp)⟩

theorem Mode.awaits_modeAt {mode : Mode} {earlier front back : List Char} (awaits : mode.Awaits earlier (front ++ back)) :
    (modeAt mode (front ++ back) front.length).Awaits (earlier ++ front) back := by
  induction front generalizing mode earlier with
  | nil => simpa [modeAt_zero] using awaits
  | cons c front ih =>
    rw [List.append_cons]
    exact ih (Mode.awaits_step awaits)

/-- Code is read after a character of a line that was code, or that closed a string. -/
theorem Mode.code_of_step {mode : Mode} {c : Char} {rest : List Char} (inLine : c ≠ '\n')
    (code : (mode.step c rest).2 = .code) :
    mode = .code ∧ (mode.step c rest).1 = .code ∨ (mode.step c rest).1 = .delimiter := by
  cases mode <;> simp only [step] at code ⊢
  case code => split_ifs at code ⊢; simp_all
  case comment => simp [inLine] at code
  case quoted => split_ifs at code ⊢; simp_all
  case raw => split_ifs at code
  all_goals simp at code ⊢

/-- The text is empty or ends with the sign of a string. -/
def EndsString (text : List Char) : Prop := text.getLast?.all (fun c => c == '"' || c == '\'') = true

theorem endsString_concat {text : List Char} {c : Char} (quote : c = '"' ∨ c = '\'') : EndsString (text ++ [c]) := by
  simpa [EndsString] using quote

/-- Behind its last string a line shows its characters as they are. -/
theorem CodeLine.exists_tail {mode : Mode} {front back : List Char} (single : '\n' ∉ front)
    (awaits : mode.Awaits [] (front ++ back)) (bare : modeAt mode (front ++ back) front.length ≠ .comment) :
    ∃ first first' tail, front = first ++ tail ∧ first'.length = first.length ∧
      visible mode (front ++ back) =
        first' ++ tail ++ visible (modeAt mode (front ++ back) front.length) back ∧
      (modeAt mode (front ++ back) front.length = .code → EndsString first ∧ first'.getLast? = first.getLast?) := by
  induction front using List.reverseRecOn generalizing back with
  | nil => exact ⟨[], [], [], rfl, rfl, by simp [modeAt_zero], fun _ => ⟨rfl, rfl⟩⟩
  | append_singleton front c ih =>
    rw [List.mem_append, not_or, List.mem_singleton] at single
    have inLine : c ≠ '\n' := Ne.symm single.2
    have here := Mode.awaits_modeAt (by simpa using awaits : mode.Awaits [] (front ++ c :: back))
    rw [List.append_assoc, List.singleton_append] at awaits bare ⊢
    rw [List.length_append, List.length_singleton, modeAt_append, modeAt, modeAt_zero] at bare ⊢
    generalize reads : modeAt mode (front ++ c :: back) front.length = before at bare here ⊢
    have shown : (before.step c back).1 ≠ .comment := fun comment => bare (Mode.comment_of_step comment)
    have bare' : before ≠ .comment := by
      rintro rfl
      simp [Mode.step, inLine] at bare
    obtain ⟨first, first', tail, rfl, length, split, ends⟩ := ih single.1 awaits (reads ▸ bare')
    rw [reads] at split ends
    rw [visible_cons, if_neg shown] at split
    -- a character of code lengthens the tail, and the tail begins anew behind all others
    by_cases plain : before = .code ∧ (before.step c back).1 = .code
    · refine ⟨first, first', tail ++ [c], by simp, length, ?_, fun _ => ends plain.1⟩
      rw [split, plain.2]
      simp [Lexeme.visible]
    · refine ⟨first ++ tail ++ [c], first' ++ tail ++ [Lexeme.visible ⟨c, (before.step c back).1⟩], [], by simp,
        by simp [length], ?_, fun code => ?_⟩
      · rw [split]
        simp
      · have delimiter := (Mode.code_of_step inLine code).resolve_left plain
        refine ⟨endsString_concat (Mode.delimiter_of_step here delimiter), ?_⟩
        rw [delimiter, List.getLast?_concat, List.getLast?_concat]
        rfl

end Dialect
