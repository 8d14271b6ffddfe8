import Dialect.Proofs.Code.Line
import Dialect.Proofs.Code.Literal
import Dialect.Proofs.Text.Place

/-! The code view at a place of a document. It reads every line anew, inside a raw string if the line before
left one open and as code otherwise. From one character to the next it goes on like the lexer of a whole
text, line breaks apart; where no string `"…"` goes over one, the two read every place in the same mode. -/
namespace Dialect

/-- A text that stands next to another one and is not looked at from there: it does not start with what may
end a delimiter or an escape. -/
def Apart (rest : List Char) : Prop := rest.head?.any Mode.escapes = false

theorem apart_nil : Apart [] := rfl

theorem apart_newline (rest : List Char) : Apart ('\n' :: rest) := rfl

theorem apart_of_isBlank {c : Char} (blank : isBlank c = true) (rest : List Char) : Apart (c :: rest) := by
  have other {d : Char} (visible : isBlank d = false) : c ≠ d := ne_of_isBlank blank visible
  simp [Apart, Mode.escapes, @other '\'' rfl, @other '$' rfl, @other '\\' rfl]

theorem apart_of_isBlankText {gap : List Char} (blank : isBlankText gap = true) : Apart gap := by
  cases gap with
  | nil => exact apart_nil
  | cons c gap => exact apart_of_isBlank (isBlankText_iff.mp blank c List.mem_cons_self) gap

theorem apart_of_endsLine {after : List Char} (last : endsLine after = true) : Apart after := by
  cases after with
  | nil => exact apart_nil
  | cons c after => exact apart_of_isBlank (head?_take_endsLine last 1) after

section Seam

variable {back : List Char}

theorem Mode.step_append (apart : Apart back) (mode : Mode) (c : Char) (rest : List Char) :
    mode.step c (rest ++ back) = mode.step c rest := by
  match rest with
  | [] =>
    have first : back.head? ≠ some '\'' := by
      intro prime
      simp [Apart, prime, Mode.escapes] at apart
    cases mode <;> simp [Mode.step, first]
  | [d] =>
    have second : back.head?.any Mode.escapes = false := apart
    cases mode <;> simp [Mode.step, second]
  | d :: e :: rest => rfl

theorem lex_append (apart : Apart back) (mode : Mode) (front : List Char) :
    lex mode (front ++ back) = lex mode front ++ lex (modeAfter mode front) back := by
  induction front generalizing mode with
  | nil => rfl
  | cons c front ih => rw [List.cons_append, lex, lex, modeAfter, Mode.step_append apart, ih, List.cons_append]

theorem modeAfter_append (apart : Apart back) (mode : Mode) (front : List Char) :
    modeAfter mode (front ++ back) = modeAfter (modeAfter mode front) back := by
  induction front generalizing mode with
  | nil => rfl
  | cons c front ih => rw [List.cons_append, modeAfter, modeAfter, Mode.step_append apart, ih]

theorem modeAt_append_apart (apart : Apart back) (mode : Mode) (front : List Char) :
    modeAt mode (front ++ back) front.length = modeAfter mode front := by
  induction front generalizing mode with
  | nil => exact modeAt_zero mode back
  | cons c front ih => rw [List.cons_append, List.length_cons, modeAt, modeAfter, Mode.step_append apart, ih]

end Seam

/-- What a character is read as depends on its own line only. -/
theorem Mode.step_line (mode : Mode) (c : Char) (rest : List Char) :
    mode.step c (rest.takeWhile (· ≠ '\n')) = mode.step c rest := by
  obtain ⟨line, further, rfl, taken, _, stops⟩ := exists_line_append rest
  have apart : Apart further := by
    rcases stops with rfl | ⟨more, rfl⟩
    · exact apart_nil
    · exact apart_newline more
  rw [taken, step_append apart]

/-- A blank opens and closes no raw string. -/
theorem Mode.inRaw_step_blank {c : Char} (blank : isBlank c = true) (mode : Mode) (rest : List Char) :
    (mode.step c rest).2.inRaw = mode.inRaw := by
  have other {d : Char} (visible : isBlank d = false) : c ≠ d := ne_of_isBlank blank visible
  cases mode <;> simp [step, inRaw, @other '"' rfl, @other '\'' rfl, @other '\\' rfl, @other commentMarker rfl]
  case comment => split_ifs <;> rfl

theorem inRaw_modeAfter_blank {gap : List Char} (blank : isBlankText gap = true) (mode : Mode) :
    (modeAfter mode gap).inRaw = mode.inRaw := by
  induction gap generalizing mode with
  | nil => rfl
  | cons c gap ih =>
    rw [isBlankText_cons, Bool.and_eq_true] at blank
    rw [modeAfter, ih blank.2, Mode.inRaw_step_blank blank.1]

/-- Nor does it open or close a string `"…"`. -/
theorem Mode.inQuotes_step_blank {c : Char} (blank : isBlank c = true) (mode : Mode) (rest : List Char) :
    (mode.step c rest).2.inQuotes = mode.inQuotes := by
  have other {d : Char} (visible : isBlank d = false) : c ≠ d := ne_of_isBlank blank visible
  cases mode <;> simp [step, inQuotes, @other '"' rfl, @other '\'' rfl, @other '\\' rfl, @other commentMarker rfl]
  case comment => split_ifs <;> rfl

theorem inQuotes_modeAfter_blank {gap : List Char} (blank : isBlankText gap = true) (mode : Mode) :
    (modeAfter mode gap).inQuotes = mode.inQuotes := by
  induction gap generalizing mode with
  | nil => rfl
  | cons c gap ih =>
    rw [isBlankText_cons, Bool.and_eq_true] at blank
    rw [modeAfter, ih blank.2, Mode.inQuotes_step_blank blank.1]

theorem Lexeme.isBlank_visible {c : Char} (blank : isBlank c = true) (role : Role) :
    isBlank (Lexeme.visible ⟨c, role⟩) = true := by
  rw [Lexeme.visible]
  split
  · rfl
  · exact blank

namespace CodeLine

/-- A text is visible up to its first comment. -/
theorem visible_append {back : List Char} (apart : Apart back) (mode : Mode) (front : List Char) :
    visible mode (front ++ back) = visible mode front ++
      if (lex mode front).any (·.role = .comment) then [] else visible (modeAfter mode front) back := by
  induction front generalizing mode with
  | nil => rfl
  | cons c front ih =>
    rw [List.cons_append, visible_cons, visible_cons, lex, modeAfter, Mode.step_append apart, List.any_cons]
    by_cases comment : (mode.step c front).1 = .comment
    · simp [comment]
    · simp only [comment, if_false, decide_false, Bool.false_or, List.cons_append, ih]

theorem isBlankText_visible_blank {gap : List Char} (blank : isBlankText gap = true) (mode : Mode) :
    isBlankText (visible mode gap) = true := by
  refine isBlankText_iff.mpr fun c member => ?_
  obtain ⟨lexeme, read, rfl⟩ := List.mem_map.mp member
  have there := List.mem_map_of_mem (f := (·.char)) ((List.takeWhile_prefix _).subset read)
  rw [map_char_lex] at there
  exact Lexeme.isBlank_visible (isBlankText_iff.mp blank _ there) _

theorem visible_comment {line : List Char} (single : '\n' ∉ line) : visible .comment line = [] := by
  cases line with
  | nil => rfl
  | cons c line =>
    have other : c ≠ '\n' := fun newline => single (newline ▸ List.mem_cons_self)
    simp [visible, lex, Mode.step, other]

/-- A line shows no more, if what is added to it is blank to the eye. -/
theorem ofText_append {back : List Char} (apart : Apart back) (raw : Bool) {line : List Char}
    (single : '\n' ∉ line ++ back) (hidden : isBlankText (visible (modeAfter (entry raw) line) back) = true)
    (mode : (modeAfter (modeAfter (entry raw) line) back).inRaw = (modeAfter (entry raw) line).inRaw) :
    ofText raw (line ++ back) = ofText raw line := by
  have front : '\n' ∉ line := fun member => single (List.mem_append_left back member)
  apply CodeLine.ext
  · rw [chars_ofText, chars_ofText, visible_append apart]
    split
    · rw [List.append_nil]
    · exact trimEnd_append hidden _
  · rfl
  · rw [endsRaw_ofText raw single, endsRaw_ofText raw front, modeAfter_append apart, mode]

theorem ofText_append_blank (raw : Bool) {line gap : List Char} (single : '\n' ∉ line ++ gap)
    (blank : isBlankText gap = true) : ofText raw (line ++ gap) = ofText raw line :=
  ofText_append (apart_of_isBlankText blank) raw single (isBlankText_visible_blank blank _)
    (inRaw_modeAfter_blank blank _)

theorem ofText_chopReturn (raw : Bool) {line : List Char} (single : '\n' ∉ line) :
    ofText raw (chopReturn line) = ofText raw line := by
  obtain ⟨gap, blank, split⟩ := exists_chopReturn_append_blank line
  rw [← split] at single
  have shown := ofText_append_blank raw single blank
  rw [split] at shown
  exact shown.symm

/-- Whether a raw string is open after these code lines, the first of which started in one or not. -/
def carried (raw : Bool) (codes : List CodeLine) : Bool := (codes.getLast?.map (·.endsRaw)).getD raw

theorem carried_cons (raw : Bool) (code : CodeLine) (codes : List CodeLine) :
    carried raw (code :: codes) = carried code.endsRaw codes := by
  rw [carried, carried, List.getLast?_cons]
  cases codes.getLast? <;> rfl

theorem ofLines_append (raw : Bool) (first second : List (List Char)) :
    ofLines raw (first ++ second) = ofLines raw first ++ ofLines (carried raw (ofLines raw first)) second := by
  induction first generalizing raw with
  | nil => rfl
  | cons line first ih => rw [List.cons_append, ofLines, ofLines, carried_cons, ih, List.cons_append]

theorem ofDocument_append {above : List Char} (whole : lineBefore above = []) (rest : List Char) :
    ofDocument (above ++ rest) =
      ofDocument above ++ ofLines (carried false (ofDocument above)) (lines rest) := by
  rw [ofDocument, lines_append whole, ofLines_append]
  rfl

theorem length_ofLines (raw : Bool) (found : List (List Char)) : (ofLines raw found).length = found.length := by
  induction found generalizing raw with
  | nil => rfl
  | cons line found ih => rw [ofLines, List.length_cons, List.length_cons, ih]

theorem length_ofDocument (text : List Char) : (ofDocument text).length = (lines text).length :=
  length_ofLines false (lines text)

end CodeLine

/-- The mode in which the code view reads what stands between `before` and `rest`. It reads the line of this
place in the way that the line above left to it. -/
def viewMode (before rest : List Char) : Mode :=
  modeAt (CodeLine.entry (CodeLine.carried false (CodeLine.ofDocument (linesAbove before))))
    (lineBefore before ++ rest.takeWhile (· ≠ '\n')) (lineBefore before).length

@[simp] theorem viewMode_nil (rest : List Char) : viewMode [] rest = .code := modeAt_zero _ _

theorem viewMode_whole {above : List Char} (whole : lineBefore above = []) (rest : List Char) :
    viewMode above rest = CodeLine.entry (CodeLine.carried false (CodeLine.ofDocument above)) := by
  have split := linesAbove_append_lineBefore above
  rw [whole, List.append_nil] at split
  rw [viewMode, split, whole]
  exact modeAt_zero _ _

theorem viewMode_end {before after : List Char} (last : endsLine after = true) :
    viewMode before after =
      modeAfter (CodeLine.entry (CodeLine.carried false (CodeLine.ofDocument (linesAbove before))))
        (lineBefore before) := by
  rw [viewMode]
  exact modeAt_append_apart (apart_of_isBlankText last) _ _

/-- From one character to the next the code view reads like the lexer of a whole text, but at a line break,
over which only raw strings go on. -/
theorem viewMode_concat (before : List Char) (c : Char) (rest : List Char) :
    viewMode (before ++ [c]) rest =
      if c = '\n' then CodeLine.entry (viewMode before (c :: rest)).inRaw
      else ((viewMode before (c :: rest)).step c rest).2 := by
  have single := not_mem_lineBefore before
  have above := lineBefore_linesAbove before
  by_cases newline : c = '\n'
  · subst newline
    have ends : endsLine ('\n' :: rest) = true := rfl
    have whole : lineBefore (before ++ ['\n']) = [] := by rw [lineBefore_concat, if_pos rfl]
    rw [if_pos rfl, viewMode_whole whole, viewMode_end ends]
    conv in before ++ ['\n'] => rw [← linesAbove_append_lineBefore before]
    rw [List.append_assoc, CodeLine.ofDocument_append above, lines_newline single, show lines [] = [] from rfl]
    simp only [CodeLine.ofLines, CodeLine.carried, List.getLast?_concat, CodeLine.ofText_chopReturn _ single]
    exact congrArg CodeLine.entry (CodeLine.endsRaw_ofText _ single)
  · have here : lineBefore (before ++ [c]) = lineBefore before ++ [c] := by rw [lineBefore_concat, if_neg newline]
    have split : linesAbove (before ++ [c]) = linesAbove before := by
      have line : '\n' ∉ lineBefore before ++ [c] := by simp [single, Ne.symm newline]
      have parted := linesAbove_append line above
      rwa [← List.append_assoc, linesAbove_append_lineBefore] at parted
    have taken : (c :: rest).takeWhile (· ≠ '\n') = c :: rest.takeWhile (· ≠ '\n') := by
      rw [List.takeWhile_cons_of_pos (by simpa using newline)]
    rw [if_neg newline, viewMode, viewMode, here, split, taken, List.append_assoc, List.length_append,
      List.length_singleton, List.singleton_append, modeAt_append, modeAt, modeAt_zero, Mode.step_line]

theorem awaits_viewMode (before rest : List Char) : (viewMode before rest).Awaits before rest := by
  induction before using List.reverseRecOn generalizing rest with
  | nil => simp [Mode.Awaits]
  | append_singleton before c ih =>
    rw [viewMode_concat]
    split
    · cases (viewMode before (c :: rest)).inRaw <;> trivial
    · exact Mode.awaits_step (ih (c :: rest))

/-- No string `"…"` goes over a line break. -/
def StringsEnd (text : List Char) : Prop :=
  ∀ index < text.length, text[index]? = some '\n' →
    (viewMode (text.take index) (text.drop index)).inQuotes = false

instance (text : List Char) : Decidable (StringsEnd text) :=
  inferInstanceAs (Decidable (∀ index < text.length, text[index]? = some '\n' →
    (viewMode (text.take index) (text.drop index)).inQuotes = false))

theorem StringsEnd.inQuotes {before rest : List Char} (strings : StringsEnd (before ++ '\n' :: rest)) :
    (viewMode before ('\n' :: rest)).inQuotes = false := by
  simpa using strings before.length

/-- Outside strings. -/
def Mode.outside : Mode → Bool
  | .code | .comment => true
  | _ => false

/-- At a line break the lexer of a whole text goes on with the next line like the code view. -/
theorem Mode.step_newline {mode : Mode} {before rest : List Char} (awaits : mode.Awaits before ('\n' :: rest))
    (closed : mode.inQuotes = false) : CodeLine.entry mode.inRaw = (mode.step '\n' rest).2 := by
  cases mode <;> simp_all [Awaits, inQuotes, inRaw, step, CodeLine.entry, escapes, commentMarker]

/-- Where no string goes over a line break, the code view reads like the lexer of a whole text. -/
theorem viewMode_eq_modeAt {before rest : List Char} (strings : StringsEnd (before ++ rest)) :
    viewMode before rest = modeAt .code (before ++ rest) before.length := by
  induction before using List.reverseRecOn generalizing rest with
  | nil => simp [modeAt_zero]
  | append_singleton before c ih =>
    rw [List.append_assoc, List.singleton_append] at strings ⊢
    rw [viewMode_concat, ih strings, List.length_append, List.length_singleton, modeAt_append, modeAt, modeAt_zero]
    split
    · next newline =>
      subst newline
      have closed := strings.inQuotes
      have awaits := awaits_viewMode before ('\n' :: rest)
      rw [ih strings] at closed awaits
      exact Mode.step_newline awaits closed
    · rfl

end Dialect
