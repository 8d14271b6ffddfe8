import Dialect.Proofs.Code.Lexeme

/-! The reading of a line and the search for a top-level sign see the same code. Both are compared with the roles of
the characters: where one of them takes two or three characters at once, the modes between them last for these
characters only. -/
namespace Dialect

namespace Mode

/-- Inside `"…"`. -/
def inQuotes : Mode → Bool
  | .quoted | .escaped => true
  | _ => false

/-- The modes that last, by the flags that stand for them. -/
inductive Flagged : Mode → Bool → Bool → Bool → Prop where
  | code : Flagged .code false false false
  | quoted : Flagged .quoted true false false
  | raw : Flagged .raw false true false
  | comment : Flagged .comment false false true

theorem step_plain {c : Char} {rest : List Char} (quote : c ≠ '"') (opens : ¬(c = '\'' ∧ rest.head? = some '\''))
    (sign : c ≠ commentMarker) : step .code c rest = (.code, .code) := by
  simp [step, quote, opens, sign]

theorem step_raw_escape {third : Char} {further : List Char} (escape : third = '\'' ∨ third = '$' ∨ third = '\\') :
    step .raw '\'' ('\'' :: third :: further) = (.body, .rawEscape) := by
  have escapes : escapes third = true := by simpa [escapes, or_assoc] using escape
  simp [step, escapes]

theorem step_raw_closing {third : Char} {further : List Char} (plain : ¬(third = '\'' ∨ third = '$' ∨ third = '\\')) :
    step .raw '\'' ('\'' :: third :: further) = (.delimiter, .rawClosing) := by
  have other : escapes third = false := by simpa [escapes, and_assoc] using plain
  simp [step, other]

theorem Flagged.eq_code {mode : Mode} {quoted raw comment : Bool} (flagged : mode.Flagged quoted raw comment)
    (plain : ¬raw = true) (outside : ¬quoted = true) (bare : ¬comment = true) :
    mode = .code ∧ raw = false ∧ quoted = false ∧ comment = false := by
  cases flagged <;> simp at plain outside bare ⊢

end Mode

theorem eq_singleton_of_head? {c : Char} {rest : List Char} (first : rest.head? = some c)
    (short : ∀ d e further, rest = d :: e :: further → False) : rest = [c] := by
  rcases rest with _ | ⟨d, _ | ⟨e, further⟩⟩
  · cases first
  · rw [Option.some.inj first]
  · exact (short d e further rfl).elim

namespace CodeLine

theorem visible_cons (mode : Mode) (c : Char) (rest : List Char) :
    visible mode (c :: rest) =
      if (mode.step c rest).1 = .comment then []
      else Lexeme.visible ⟨c, (mode.step c rest).1⟩ :: visible (mode.step c rest).2 rest := by
  rw [visible, lex]
  split
  · next comment => rw [List.takeWhile_cons_of_neg (by simp [comment]), List.map_nil]
  · next other => rw [List.takeWhile_cons_of_pos (by simp [other]), List.map_cons, visible]

end CodeLine

theorem modeAfter_commented {line : List Char} (single : '\n' ∉ line) : modeAfter .comment line = .comment := by
  induction line with
  | nil => rfl
  | cons c line ih =>
    rw [List.mem_cons, not_or] at single
    rw [modeAfter, Mode.step, if_neg (Ne.symm single.1)]
    exact ih single.2

/-- What the reading of a line gives, by the roles of its characters. -/
structure LineReading.Follows (reading : LineReading) (mode : Mode) (line : List Char) : Prop where
  chars : reading.chars = CodeLine.visible mode line
  raw : '\n' ∉ line → reading.raw = (modeAfter mode line).inRaw
  quoted : '\n' ∉ line → reading.quoted = (modeAfter mode line).inQuotes

namespace LineReading.Follows

variable {reading : LineReading} {mode next : Mode} {c : Char} {rest : List Char}

theorem nil (mode : Mode) {raw quoted : Bool} (inRaw : raw = mode.inRaw) (inQuotes : quoted = mode.inQuotes) :
    (⟨[], raw, quoted⟩ : LineReading).Follows mode [] where
  chars := rfl
  raw _ := inRaw
  quoted _ := inQuotes

/-- A comment shows nothing and leaves nothing open. -/
theorem comment (rest : List Char) : (⟨[], false, false⟩ : LineReading).Follows .code (commentMarker :: rest) where
  chars := rfl
  raw single := by
    rw [modeAfter, show Mode.step .code commentMarker rest = (.comment, .comment) from rfl,
      modeAfter_commented (List.not_mem_of_not_mem_cons single)]
    rfl
  quoted single := by
    rw [modeAfter, show Mode.step .code commentMarker rest = (.comment, .comment) from rfl,
      modeAfter_commented (List.not_mem_of_not_mem_cons single)]
    rfl

theorem cons (further : reading.Follows next rest) (role : Role) (read : mode.step c rest = (role, next))
    (seen : role ≠ .comment) :
    (reading.behind [Lexeme.visible ⟨c, role⟩]).Follows mode (c :: rest) where
  chars := by
    rw [CodeLine.visible_cons, read, if_neg seen, ← further.chars]
    rfl
  raw single := by
    rw [modeAfter, read]
    exact further.raw (List.not_mem_of_not_mem_cons single)
  quoted single := by
    rw [modeAfter, read]
    exact further.quoted (List.not_mem_of_not_mem_cons single)

end LineReading.Follows

open Mode LineReading in
theorem follows_readLine {mode : Mode} {raw quoted : Bool} (flagged : mode.Flagged quoted raw false) (line : List Char) :
    (readLine raw quoted line).Follows mode line := by
  fun_induction readLine raw quoted line generalizing mode with
  | case1 raw quoted => cases flagged <;> exact .nil _ rfl rfl
  | case2 quoted c d third further escape opens ih =>
    obtain ⟨rfl, second⟩ := opens
    obtain rfl : d = '\'' := Option.some.inj second
    cases flagged
    have last : (behind [' '] (readLine true false further)).Follows .rawEscaped (third :: further) :=
      (ih .raw).cons .body rfl (by decide)
    have both : (behind [' ', ' '] (readLine true false further)).Follows .rawEscape ('\'' :: third :: further) :=
      last.cons .body rfl (by decide)
    exact both.cons .body (step_raw_escape escape) (by decide)
  | case3 quoted c d third further plain closes ih =>
    obtain ⟨rfl, second⟩ := closes
    obtain rfl : d = '\'' := Option.some.inj second
    cases flagged
    have last : (behind ['\''] (readLine false false (third :: further))).Follows .rawClosing
        ('\'' :: third :: further) := (ih .code).cons .delimiter rfl (by decide)
    exact last.cons .delimiter (step_raw_closing plain) (by decide)
  | case4 quoted c rest closes short =>
    obtain ⟨rfl, second⟩ := closes
    cases flagged
    obtain rfl := eq_singleton_of_head? second short
    have none : (⟨[], false, false⟩ : LineReading).Follows .code [] := .nil .code rfl rfl
    have last : (behind ['\''] ⟨[], false, false⟩).Follows .rawClosing ['\''] := none.cons .delimiter rfl (by decide)
    exact last.cons .delimiter rfl (by decide)
  | case5 quoted c rest other ih =>
    cases flagged
    have read : step .raw c rest = (.body, .raw) := if_neg other
    exact (ih .raw).cons .body read (by decide)
  | case6 raw plain =>
    cases flagged
    have none : (⟨[], false, true⟩ : LineReading).Follows .escaped [] := .nil .escaped rfl rfl
    exact none.cons .body rfl (by decide)
  | case7 raw plain d further ih =>
    cases flagged
    have last : (behind [' '] (readLine false true further)).Follows .escaped (d :: further) :=
      (ih .quoted).cons .body rfl (by decide)
    exact last.cons .body rfl (by decide)
  | case8 raw rest plain _ ih =>
    cases flagged
    exact (ih .code).cons .delimiter rfl (by decide)
  | case9 raw c rest plain escape quote ih =>
    cases flagged
    have read : step .quoted c rest = (.body, .quoted) := by simp [step, escape, quote]
    exact (ih .quoted).cons .body read (by decide)
  | case10 raw quoted rest plain outside =>
    obtain ⟨rfl, rfl, rfl, -⟩ := flagged.eq_code plain outside Bool.false_ne_true
    exact .comment rest
  | case11 raw quoted rest plain outside _ ih =>
    obtain ⟨rfl, rfl, rfl, -⟩ := flagged.eq_code plain outside Bool.false_ne_true
    exact (ih .quoted).cons .delimiter rfl (by decide)
  | case12 raw quoted c _ _ _ _ opens => cases opens.2
  | case13 raw quoted c plain outside _ _ d further opens ih =>
    obtain ⟨rfl, second⟩ := opens
    obtain rfl : d = '\'' := Option.some.inj second
    obtain ⟨rfl, rfl, rfl, -⟩ := flagged.eq_code plain outside Bool.false_ne_true
    have last : (behind ['\''] (readLine true false further)).Follows .rawOpening ('\'' :: further) :=
      (ih .raw).cons .delimiter rfl (by decide)
    exact last.cons .delimiter rfl (by decide)
  | case14 raw quoted c rest plain outside sign quote opens ih =>
    obtain ⟨rfl, rfl, rfl, -⟩ := flagged.eq_code plain outside Bool.false_ne_true
    exact (ih .code).cons .code (step_plain quote opens sign) (by decide)

namespace CodeLine

theorem chars_ofText (raw : Bool) (line : List Char) :
    (ofText raw line).chars = trimEnd (visible (entry raw) line) := by
  cases raw with
  | false => exact congrArg trimEnd (follows_readLine .code line).chars
  | true => exact congrArg trimEnd (follows_readLine .raw line).chars

theorem endsRaw_ofText (raw : Bool) {line : List Char} (single : '\n' ∉ line) :
    (ofText raw line).endsRaw = (modeAfter (entry raw) line).inRaw := by
  cases raw with
  | false => exact (follows_readLine .code line).raw single
  | true => exact (follows_readLine .raw line).raw single

end CodeLine

section Search

variable {target : Target} {depth index : Nat} {mode next : Mode} {c : Char} {rest : List Char}

theorem topLevelFrom_pass (role : Role) (read : mode.step c rest = (role, next)) {depth' : Nat}
    (moved : move target depth ⟨c, role⟩ = .pass depth') :
    topLevelFrom target depth index (lex mode (c :: rest)) = topLevelFrom target depth' (index + 1) (lex next rest) := by
  rw [lex, read, topLevelFrom_cons, moved]

theorem move_hidden {role : Role} (hidden : role ≠ .code) : move target depth ⟨c, role⟩ = .pass depth := if_pos hidden

theorem topLevelFrom_hidden (role : Role) (read : mode.step c rest = (role, next)) (hidden : role ≠ .code) :
    topLevelFrom target depth index (lex mode (c :: rest)) = topLevelFrom target depth (index + 1) (lex next rest) :=
  topLevelFrom_pass role read (move_hidden hidden)

end Search

open Mode in
theorem searchFrom_eq {mode : Mode} {quoted raw comment : Bool} (flagged : mode.Flagged quoted raw comment)
    (target : Target) (depth index : Nat) (text : List Char) :
    target.searchFrom depth index quoted raw comment text = topLevelFrom target depth index (lex mode text) := by
  fun_induction Target.searchFrom target depth index quoted raw comment text generalizing mode with
  | case1 => rfl
  | case2 depth index quoted raw c rest ih =>
    cases flagged
    by_cases newline : c = '\n'
    · have read : step .comment c rest = (.code, .code) := if_pos newline
      simp only [newline, ne_eq, not_true_eq_false, decide_false] at ih read ⊢
      have moved : move target depth ⟨'\n', .code⟩ = .pass depth := by simp [move, isOpener, isCloser]
      rw [topLevelFrom_pass .code read moved]
      exact ih .code
    · have read : step .comment c rest = (.comment, .comment) := if_neg newline
      simp only [newline, ne_eq, not_false_eq_true, decide_true] at ih ⊢
      rw [topLevelFrom_hidden .comment read (by decide)]
      exact ih .comment
  | case3 depth index quoted comment c bare d third further escape opens ih =>
    obtain ⟨rfl, second⟩ := opens
    obtain rfl : d = '\'' := Option.some.inj second
    cases flagged
    rw [topLevelFrom_hidden .body (step_raw_escape escape) (by decide), topLevelFrom_hidden .body rfl (by decide),
      topLevelFrom_hidden .body rfl (by decide)]
    exact ih .raw
  | case4 depth index quoted comment c bare d third further plain closes ih =>
    obtain ⟨rfl, second⟩ := closes
    obtain rfl : d = '\'' := Option.some.inj second
    cases flagged
    rw [topLevelFrom_hidden .delimiter (step_raw_closing plain) (by decide),
      topLevelFrom_hidden .delimiter rfl (by decide)]
    exact ih .code
  | case5 depth index quoted comment c rest bare closes short =>
    obtain ⟨rfl, second⟩ := closes
    cases flagged
    obtain rfl := eq_singleton_of_head? second short
    rfl
  | case6 depth index quoted comment c rest bare other ih =>
    cases flagged
    rw [topLevelFrom_hidden .body (show step .raw c rest = (.body, .raw) from if_neg other) (by decide)]
    exact ih .raw
  | case7 depth index raw comment bare plain =>
    cases flagged
    rfl
  | case8 depth index raw comment bare plain d further ih =>
    cases flagged
    rw [topLevelFrom_hidden .body rfl (by decide), topLevelFrom_hidden .body rfl (by decide)]
    exact ih .quoted
  | case9 depth index raw comment c rest bare plain escape ih =>
    cases flagged
    by_cases quote : c = '"'
    · subst quote
      rw [topLevelFrom_hidden .delimiter rfl (by decide)]
      exact ih .code
    · have read : step .quoted c rest = (.body, .quoted) := by simp [step, escape, quote]
      simp only [quote, ne_eq, not_false_eq_true, decide_true] at ih ⊢
      rw [topLevelFrom_hidden .body read (by decide)]
      exact ih .quoted
  | case10 depth index quoted raw comment rest bare plain outside ih =>
    obtain ⟨rfl, rfl, rfl, rfl⟩ := flagged.eq_code plain outside bare
    rw [topLevelFrom_hidden .delimiter rfl (by decide)]
    exact ih .quoted
  | case11 depth index quoted raw comment c _ _ _ _ opens => cases opens.2
  | case12 depth index quoted raw comment c bare plain outside _ d further opens ih =>
    obtain ⟨rfl, second⟩ := opens
    obtain rfl : d = '\'' := Option.some.inj second
    obtain ⟨rfl, rfl, rfl, rfl⟩ := flagged.eq_code plain outside bare
    rw [topLevelFrom_hidden .delimiter rfl (by decide), topLevelFrom_hidden .delimiter rfl (by decide)]
    exact ih .raw
  | case13 depth index quoted raw comment rest bare plain outside _ _ ih =>
    obtain ⟨rfl, rfl, rfl, rfl⟩ := flagged.eq_code plain outside bare
    rw [topLevelFrom_hidden .comment rfl (by decide)]
    exact ih .comment
  | case14 depth index quoted raw comment c rest bare plain outside quote opens sign opener ih =>
    obtain ⟨rfl, rfl, rfl, rfl⟩ := flagged.eq_code plain outside bare
    have moved : move target depth ⟨c, .code⟩ = .pass (depth + 1) := by simp [move, opener]
    rw [topLevelFrom_pass .code (step_plain quote opens sign) moved]
    exact ih .code
  | case15 index quoted raw comment c rest bare plain outside quote opens sign opener closer =>
    obtain ⟨rfl, rfl, rfl, rfl⟩ := flagged.eq_code plain outside bare
    have moved : move target 0 ⟨c, .code⟩ = .fail := by simp [move, opener, closer]
    rw [lex, step_plain quote opens sign, topLevelFrom_cons, moved]
  | case16 index quoted raw comment c rest bare plain outside quote opens sign opener closer depth ih =>
    obtain ⟨rfl, rfl, rfl, rfl⟩ := flagged.eq_code plain outside bare
    have moved : move target (depth + 1) ⟨c, .code⟩ = .pass depth := by simp [move, opener, closer]
    rw [topLevelFrom_pass .code (step_plain quote opens sign) moved]
    exact ih .code
  | case17 _ _ _ _ _ _ _ _ _ _ _ _ _ _ _ second => cases second
  | case18 depth index quoted raw comment c bare plain outside _ _ _ _ assigns d further _ second ih =>
    obtain ⟨rfl, rfl, rfl, rfl⟩ := flagged.eq_code plain outside bare
    obtain ⟨rfl, rfl, rfl⟩ := assigns
    obtain rfl : d = '=' := Option.some.inj second
    have read : lex .code ('=' :: '=' :: further) = ⟨'=', .code⟩ :: lex .code ('=' :: further) := rfl
    rw [read, topLevelFrom_pair]
    exact ih .code
  | case19 depth index quoted raw comment c rest bare plain outside _ _ _ _ _ assigns single =>
    obtain ⟨rfl, rfl, rfl, rfl⟩ := flagged.eq_code plain outside bare
    obtain ⟨rfl, rfl, rfl⟩ := assigns
    exact (topLevelFrom_sign single .code).symm
  | case20 depth index quoted raw comment c rest bare plain outside _ _ _ _ _ _ ends looked =>
    obtain ⟨rfl, rfl, rfl, rfl⟩ := flagged.eq_code plain outside bare
    obtain ⟨rfl, rfl⟩ := ends
    have moved : move target 0 ⟨';', .code⟩ = .hit := by simp [move, isOpener, isCloser, looked]
    rw [lex, show step .code ';' rest = (.code, .code) from rfl, topLevelFrom_cons, moved]
  | case21 depth index quoted raw comment c rest bare plain outside _ _ _ _ _ _ ends looked =>
    obtain ⟨rfl, rfl, rfl, rfl⟩ := flagged.eq_code plain outside bare
    obtain ⟨rfl, rfl⟩ := ends
    have moved : move target 0 ⟨';', .code⟩ = .fail := by simp [move, isOpener, isCloser, looked]
    rw [lex, show step .code ';' rest = (.code, .code) from rfl, topLevelFrom_cons, moved]
  | case22 depth index quoted raw comment c rest bare plain outside quote opens sign opener closer assigns ends ih =>
    obtain ⟨rfl, rfl, rfl, rfl⟩ := flagged.eq_code plain outside bare
    have moved : move target depth ⟨c, .code⟩ = .pass depth := by simp [move, opener, closer, assigns, ends]
    rw [topLevelFrom_pass .code (step_plain quote opens sign) moved]
    exact ih .code

theorem topLevel?_eq (target : Target) (text : List Char) :
    topLevel? target text = topLevelFrom target 0 0 (lex .code text) := searchFrom_eq .code target 0 0 text

end Dialect
