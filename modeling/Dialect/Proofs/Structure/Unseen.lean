import Dialect.Proofs.Code.View
import Dialect.Proofs.Structure.Scan

/-! What a scan does not see: comments, lines with nothing but a comment, and the characters of a string. The
scan reads the code lines of a document only, so an edit is not seen if it leaves these as they are, or puts
one without code between them. -/
namespace Dialect

namespace Mode

/-- `c` is a character of a string that `mode` stands in, and no part of a delimiter or of an escape. -/
def Plain (mode : Mode) (c : Char) (rest : List Char) : Prop := mode.step c rest = (.body, mode)

instance (mode : Mode) (c : Char) (rest : List Char) : Decidable (mode.Plain c rest) :=
  inferInstanceAs (Decidable (mode.step c rest = (.body, mode)))

/-- What has no part in a delimiter, an escape or a line break. -/
def inert (c : Char) : Bool := c != '"' && c != '\'' && c != '\\' && c != '$' && c != '\n'

variable {mode inner : Mode} {old new : Char} {back : List Char}

theorem ne_newline_of_inert (passive : inert new = true) : new ≠ '\n' := by
  rintro rfl
  cases passive

theorem Plain.stands (plain : inner.Plain old back) : inner = .quoted ∨ inner = .raw := by
  unfold Plain step at plain
  cases inner <;> simp at plain ⊢
  all_goals split_ifs at plain <;> simp at plain

theorem Plain.replace (plain : inner.Plain old back) (passive : inert new = true) : inner.Plain new back := by
  simp only [inert, Bool.and_eq_true, bne_iff_ne] at passive
  rcases plain.stands with rfl | rfl <;> simp [Plain, step, passive]

/-- Two apostrophes end a raw string or begin an escape in it. -/
theorem step_raw_pair (rest : List Char) :
    (raw.step '\'' ('\'' :: rest)).2 = .rawEscape ∨ (raw.step '\'' ('\'' :: rest)).2 = .rawClosing := by
  cases escape : rest.head?.any escapes <;> simp [step, escape]

/-- No delimiter and no escape looks ahead at a character inside a string. -/
theorem step_replace {c : Char} {front : List Char} (plain : inner.Plain old back) (passive : inert new = true)
    (reached : modeAt mode (c :: front ++ old :: back) (front.length + 1) = inner) :
    mode.step c (front ++ new :: back) = mode.step c (front ++ old :: back) := by
  simp only [inert, Bool.and_eq_true, bne_iff_ne] at passive
  have stands := plain.stands
  match front with
  | [] =>
    rw [List.cons_append, List.nil_append, List.length_nil, modeAt, modeAt_zero] at reached
    by_cases pair : c = '\'' ∧ old = '\''
    · obtain ⟨rfl, rfl⟩ := pair
      cases mode with
      | code => simp [← reached, step] at stands
      | raw => rcases step_raw_pair back with next | next <;> simp [← reached, next] at stands
      | _ => rfl
    · cases mode <;> simp [step, passive, pair]
  | [d] =>
    rw [List.cons_append, List.singleton_append, List.length_singleton, modeAt, modeAt, modeAt_zero] at reached
    by_cases pair : c = '\'' ∧ d = '\''
    · obtain ⟨rfl, rfl⟩ := pair
      cases mode with
      | raw =>
        rcases step_raw_pair (old :: back) with next | next
        all_goals
          rw [next] at reached
          simp [← reached, step] at stands
      | _ => rfl
    · cases mode <;> simp [step, pair]
  | d :: e :: front => rfl

end Mode

/-- A line shows the same, whatever its strings hold. -/
theorem visible_replace {inner mode : Mode} {old new : Char} {front back : List Char}
    (plain : inner.Plain old back) (passive : Mode.inert new = true)
    (reached : modeAt mode (front ++ old :: back) front.length = inner) :
    CodeLine.visible mode (front ++ new :: back) = CodeLine.visible mode (front ++ old :: back) ∧
      modeAfter mode (front ++ new :: back) = modeAfter mode (front ++ old :: back) := by
  induction front generalizing mode with
  | nil =>
    rw [List.nil_append, List.length_nil, modeAt_zero] at reached
    subst reached
    have replaced : mode.step new back = mode.step old back := (plain.replace passive).trans plain.symm
    rw [List.nil_append, List.nil_append, CodeLine.visible_cons, CodeLine.visible_cons, modeAfter, modeAfter,
      replaced, plain]
    exact ⟨rfl, rfl⟩
  | cons c front ih =>
    have same := Mode.step_replace plain passive reached
    rw [List.cons_append, List.length_cons, modeAt] at reached
    obtain ⟨shown, after⟩ := ih reached
    rw [List.cons_append, List.cons_append, CodeLine.visible_cons, CodeLine.visible_cons, modeAfter, modeAfter,
      same, shown, after]
    exact ⟨rfl, rfl⟩

namespace CodeLine

theorem ofText_replace {raw : Bool} {inner : Mode} {old new : Char} {front back : List Char}
    (single : '\n' ∉ front ++ old :: back) (plain : inner.Plain old back) (passive : Mode.inert new = true)
    (reached : modeAt (entry raw) (front ++ old :: back) front.length = inner) :
    ofText raw (front ++ new :: back) = ofText raw (front ++ old :: back) := by
  obtain ⟨shown, after⟩ := visible_replace plain passive reached
  have other : new ≠ '\n' := Mode.ne_newline_of_inert passive
  have single' : '\n' ∉ front ++ new :: back := by
    simp only [List.mem_append, List.mem_cons, not_or] at single ⊢
    exact ⟨single.1, other.symm, single.2.2⟩
  apply CodeLine.ext
  · rw [chars_ofText, chars_ofText, shown]
  · rfl
  · rw [endsRaw_ofText raw single, endsRaw_ofText raw single', after]

/-- A comment after a blank, at the end of a line that is outside strings there. -/
theorem ofText_comment {raw : Bool} {line comment gap : List Char} {b : Char}
    (outside : (modeAfter (entry raw) line).outside = true) (blank : Dialect.isBlank b = true)
    (before : '\n' ∉ line) (single : '\n' ∉ b :: commentMarker :: (comment ++ gap))
    (blanks : isBlankText gap = true) :
    ofText raw (line ++ b :: commentMarker :: (comment ++ gap)) = ofText raw (line ++ gap) := by
  have apart : Apart (b :: commentMarker :: (comment ++ gap)) := apart_of_isBlank blank _
  have whole : '\n' ∉ line ++ b :: commentMarker :: (comment ++ gap) := List.not_mem_append before single
  have bare : '\n' ∉ line ++ gap := List.not_mem_append before fun member => by simp [member] at single
  rw [ofText_append_blank raw bare blanks]
  cases mode : modeAfter (entry raw) line with
  | code =>
    have further : '\n' ∉ comment ++ gap := fun member =>
      single (List.mem_cons_of_mem _ (List.mem_cons_of_mem _ member))
    have read := step_code_blank blank (commentMarker :: (comment ++ gap))
    have begun : Mode.step .code commentMarker (comment ++ gap) = (.comment, .comment) := by
      simp [Mode.step, commentMarker]
    refine ofText_append apart raw whole ?_ ?_
    · rw [mode, visible_cons, read, visible_cons, begun]
      exact isBlankText_iff.mpr (by simpa using Lexeme.isBlank_visible blank .code)
    · rw [mode, modeAfter, read, modeAfter, begun, modeAfter_commented further]
      rfl
  | comment =>
    refine ofText_append apart raw whole ?_ ?_
    · rw [mode, visible_comment single]
      rfl
    · rw [mode, modeAfter_commented single]
  | _ => simp [mode, Mode.outside] at outside

/-- Nothing but a comment, or nothing at all. -/
def noCode (line : List Char) : Bool := (trimStart line).head?.all (· = commentMarker)

theorem ofText_noCode {line : List Char} (hidden : noCode line = true) (single : '\n' ∉ line) :
    ofText false line = ⟨[], false, false⟩ := by
  obtain ⟨gap, blank, split⟩ := exists_blank_append_trimStart line
  have bare : '\n' ∉ gap := fun member => single (split ▸ List.mem_append_left _ member)
  have start := ofText_append_blank false (show '\n' ∉ [] ++ gap from bare) blank
  rw [noCode] at hidden
  match tail : trimStart line, hidden with
  | [], _ =>
    rw [tail, List.append_nil] at split
    rw [← split]
    exact start
  | c :: comment, hidden =>
    obtain rfl : c = commentMarker := by simpa using hidden
    rw [tail] at split
    have further : '\n' ∉ comment := fun member =>
      single (split ▸ List.mem_append_right _ (List.mem_cons_of_mem _ member))
    have begun : Mode.step .code commentMarker comment = (.comment, .comment) := by simp [Mode.step, commentMarker]
    have mode : modeAfter (entry false) gap = .code := modeAfter_blank blank (.inl rfl)
    rw [← split] at single ⊢
    rw [ofText_append (show Apart (commentMarker :: comment) from rfl) false single]
    · exact start
    · rw [mode, visible_cons, begun]
      rfl
    · rw [mode, modeAfter, begun, modeAfter_commented further]
      rfl

end CodeLine

section Document

variable {above line rest : List Char}

open CodeLine

/-- What a scan reads below the lines `above`. -/
theorem scan_below (whole : lineBefore above = []) (rest : List Char) :
    scan (above ++ rest) = ScanState.run {} 0
      (ofDocument above ++ ofLines (carried false (ofDocument above)) (lines rest)) := by
  rw [scan, ofDocument_append whole]

/-- A last line without text holds no code, so it may be counted or not. -/
theorem scan_last (whole : lineBefore above = []) (single : '\n' ∉ line) :
    scan (above ++ line) =
      ScanState.run {} 0 (ofDocument above ++ [ofText (carried false (ofDocument above)) line]) := by
  rw [scan_below whole, lines_single single]
  cases line with
  | nil => exact (congrArg _ (List.append_nil _)).trans (ScanState.run_append_blank rfl _ _ _).symm
  | cons c line => rfl

theorem scan_newline (whole : lineBefore above = []) (single : '\n' ∉ line) (more : List Char) :
    scan (above ++ (line ++ '\n' :: more)) =
      ScanState.run {} 0 (ofDocument above ++ ofText (carried false (ofDocument above)) line ::
        ofLines (ofText (carried false (ofDocument above)) line).endsRaw (lines more)) := by
  rw [scan_below whole, lines_newline single, ofLines, ofText_chopReturn _ single]

/-- The rest of a line may be replaced, if the line keeps its code. -/
theorem scan_congr {before old new rest : List Char} (single : '\n' ∉ old) (single' : '\n' ∉ new)
    (ends : rest = [] ∨ ∃ more, rest = '\n' :: more)
    (same : ofText (carried false (ofDocument (linesAbove before))) (lineBefore before ++ new) =
      ofText (carried false (ofDocument (linesAbove before))) (lineBefore before ++ old)) :
    scan (before ++ (new ++ rest)) = scan (before ++ (old ++ rest)) := by
  have whole := lineBefore_linesAbove before
  have lead := not_mem_lineBefore before
  have line : '\n' ∉ lineBefore before ++ old := by simp [lead, single]
  have line' : '\n' ∉ lineBefore before ++ new := by simp [lead, single']
  have parted (part : List Char) :
      before ++ (part ++ rest) = linesAbove before ++ (lineBefore before ++ part ++ rest) := by
    rw [List.append_assoc, ← List.append_assoc (linesAbove before), linesAbove_append_lineBefore]
  rw [parted, parted]
  rcases ends with rfl | ⟨more, rfl⟩
  · rw [List.append_nil, List.append_nil, scan_last whole line', scan_last whole line, same]
  · rw [scan_newline whole line', scan_newline whole line, same]

/-- A comment at the end of a line is not seen. -/
theorem scan_comment {before after comment : List Char} {b : Char} (last : endsLine after = true)
    (outside : (viewMode before after).outside = true) (blank : isBlank b = true)
    (single : '\n' ∉ b :: comment) :
    scan (before ++ b :: commentMarker :: (comment ++ after)) = scan (before ++ after) := by
  rw [viewMode_end last] at outside
  obtain ⟨gap, rest, rfl, taken, bare, ends⟩ := exists_line_append after
  rw [endsLine, taken] at last
  have marker : '\n' ≠ commentMarker := by decide
  rw [List.mem_cons, not_or] at single
  have added : '\n' ∉ b :: commentMarker :: (comment ++ gap) := by simp [single, bare, marker]
  have same := scan_congr bare added ends (ofText_comment outside blank (not_mem_lineBefore before) added last)
  simpa using same

/-- A character inside a string is not seen. -/
theorem scan_plain {before after : List Char} {old new : Char}
    (plain : (viewMode before (old :: after)).Plain old after) (passive : Mode.inert new = true)
    (inLine : old ≠ '\n') : scan (before ++ new :: after) = scan (before ++ old :: after) := by
  obtain ⟨back, rest, rfl, taken, bare, ends⟩ := exists_line_append after
  have other : new ≠ '\n' := Mode.ne_newline_of_inert passive
  have reached : modeAt (entry (carried false (ofDocument (linesAbove before))))
      (lineBefore before ++ old :: back) (lineBefore before).length = viewMode before (old :: (back ++ rest)) := by
    rw [viewMode, List.takeWhile_cons_of_pos (by simpa using inLine), taken]
  have inside : (viewMode before (old :: (back ++ rest))).Plain old back := by
    rw [Mode.Plain, ← Mode.step_line, taken] at plain
    exact plain
  have single : '\n' ∉ old :: back := by simp [bare, Ne.symm inLine]
  have single' : '\n' ∉ new :: back := by simp [bare, Ne.symm other]
  have line := List.not_mem_append (not_mem_lineBefore before) single
  exact scan_congr single single' ends (ofText_replace line inside passive reached)

theorem carried_of_viewMode (whole : lineBefore above = []) (code : (viewMode above rest).inRaw = false) :
    carried false (ofDocument above) = false := by
  rw [viewMode_whole whole] at code
  cases raw : carried false (ofDocument above) with
  | false => rfl
  | true => simp [raw, entry, Mode.inRaw] at code

/-- Below a line without code everything stands one line further down. -/
theorem scan_insert (whole : lineBefore above = []) (code : (viewMode above rest).inRaw = false)
    (hidden : noCode line = true) (single : '\n' ∉ line) :
    scan (above ++ (line ++ '\n' :: rest)) =
      (scan (above ++ rest)).map (·.renumber fun n => if n < above.count '\n' then n else n + 1) := by
  have length : (ofDocument above).length = above.count '\n' := by
    rw [length_ofDocument, length_lines_of_whole whole]
  rw [scan_newline whole single, scan_below whole, carried_of_viewMode whole code, ofText_noCode hidden single]
  refine ScanState.run_insert_blank rfl {} 0 _ _ (fun earlier high => ?_) fun later low => ?_
  · rw [Nat.zero_add, length] at high
    exact if_pos high
  · rw [Nat.zero_add, length] at low
    exact if_neg (Nat.not_lt.mpr low)

/-- It does not matter whether the last line is ended. -/
theorem scan_concat_newline (text : List Char) : scan (text ++ ['\n']) = scan text := by
  have whole := lineBefore_linesAbove text
  have single := not_mem_lineBefore text
  have ended := scan_newline whole single []
  have bare := scan_last whole single
  rw [← List.append_assoc, linesAbove_append_lineBefore] at ended
  rw [linesAbove_append_lineBefore] at bare
  rw [ended, bare]
  rfl

/-- A line without code at the end of the text is not seen. -/
theorem scan_append {text : List Char} (code : (viewMode text []).inRaw = false) (hidden : noCode line = true)
    (single : '\n' ∉ line) : scan (text ++ '\n' :: line) = scan text := by
  have whole : lineBefore (text ++ ['\n']) = [] := by rw [lineBefore_concat, if_pos rfl]
  have outside : (viewMode (text ++ ['\n']) []).inRaw = false := by
    rw [viewMode_concat, if_pos rfl, viewMode_end (show endsLine ['\n'] = true from rfl),
      ← viewMode_end (show endsLine [] = true from rfl), code]
    rfl
  rw [← scan_concat_newline text, List.append_cons, scan_last whole single, carried_of_viewMode whole outside,
    ofText_noCode hidden single, ScanState.run_append_blank rfl]
  rfl

end Document

/-- Comments, lines without code and what strings hold are not seen, but for the lines that they take. -/
theorem unseen_by_scan :
    (∀ (before after comment : List Char) (b : Char), endsLine after = true →
      (viewMode before after).outside = true → isBlank b = true → '\n' ∉ b :: comment →
        scan (before ++ b :: commentMarker :: (comment ++ after)) = scan (before ++ after)) ∧
    (∀ above line rest : List Char, lineBefore above = [] → (viewMode above rest).inRaw = false →
      CodeLine.noCode line = true → '\n' ∉ line →
        scan (above ++ (line ++ '\n' :: rest)) =
          (scan (above ++ rest)).map (·.renumber fun n => if n < above.count '\n' then n else n + 1)) ∧
    (∀ text line : List Char, (viewMode text []).inRaw = false → CodeLine.noCode line = true → '\n' ∉ line →
      scan (text ++ '\n' :: line) = scan text) ∧
    (∀ (before after : List Char) (old new : Char), (viewMode before (old :: after)).Plain old after →
      Mode.inert new = true → old ≠ '\n' → scan (before ++ new :: after) = scan (before ++ old :: after)) :=
  ⟨fun _ _ _ _ last outside blank single => scan_comment last outside blank single,
    fun _ _ _ whole code hidden single => scan_insert whole code hidden single,
    fun _ _ code hidden single => scan_append code hidden single,
    fun _ _ _ _ plain passive same => scan_plain plain passive same⟩

/-- Each of these edits, where a bracket in a comment or in a string would count as code. -/
theorem unseen_in_document :
    scan "a = '' # b (\n#';\n '' \t# )\n".toList = scan "a = '' # b (\n#';\n '' \n".toList ∧
    scan "a = 1\n # b (\n)".toList =
      (scan "a = 1\n)".toList).map (·.renumber fun n => if n < 1 then n else n + 1) ∧
    scan "a = 1\n# (".toList = scan "a = 1".toList ∧
    scan "a = '' ) b (\n'".toList = scan "a = '' # b (\n'".toList := by
  obtain ⟨comment, insert, append, body⟩ := unseen_by_scan
  refine ⟨?_, ?_, ?_, ?_⟩
  · have same := comment "a = '' # b (\n#';\n '' ".toList "\n".toList " )".toList '\t' (by decide +kernel)
      (by decide +kernel) (by decide) (by decide)
    simpa [commentMarker] using same
  · have moved := insert "a = 1\n".toList " # b (".toList ")".toList (by decide +kernel) (by decide +kernel)
      (by decide +kernel) (by decide)
    simpa [List.count_cons] using moved
  · have same := append "a = 1".toList "# (".toList (by decide +kernel) (by decide +kernel) (by decide)
    simpa using same
  · have same := body "a = '' ".toList " b (\n'".toList '#' ')' (by decide +kernel) (by decide) (by decide)
    simpa using same

/-- A line break inside a string takes part in no delimiter and no escape, but another character in its place
moves what stands below it to another line. -/
theorem line_break_in_string_seen :
    (viewMode "a = ''".toList "\n  b\n'';\nc\n".toList).Plain '\n' "  b\n'';\nc\n".toList ∧
    Mode.inert 'x' = true ∧
    scan ("a = ''".toList ++ 'x' :: "  b\n'';\nc\n".toList) ≠
      scan ("a = ''".toList ++ '\n' :: "  b\n'';\nc\n".toList) := by
  decide +kernel

end Dialect
