import Dialect.Proofs.Code.Mode

/-! The search for an `=` or a `;` in two versions of a text. It ends at the same place of both. The one
thing to watch is a pair `==`, which is passed at once: no gap comes or goes inside it. -/
namespace Dialect

section Search

variable {target : Target} {depth index : Nat}

theorem move_sign {lexeme : Lexeme} (sign : move target depth lexeme = .sign) :
    lexeme = ⟨'=', .code⟩ ∧ target = .equals ∧ depth = 0 := by
  rw [move.eq_def] at sign
  split_ifs at sign with role _ _ here
  · cases depth <;> cases sign
  · exact ⟨by rw [← here.1, ← Classical.not_not.mp role], here.2⟩

theorem move_hit {lexeme : Lexeme} (hit : move target depth lexeme = .hit) : target = .terminator := by
  rw [move.eq_def] at hit
  split_ifs at hit with _ _ _ _ _ terminator
  · cases depth <;> cases hit
  · exact terminator

theorem move_equals_pass {role : Role} {depth' : Nat} (pass : move target depth ⟨'=', role⟩ = .pass depth') :
    depth' = depth ∧ (role = .code → target = .equals → depth ≠ 0) := by
  simp only [move, isOpener, isCloser] at pass
  split_ifs at pass with code opener closer here
  · cases pass
    exact ⟨rfl, fun same => absurd same code⟩
  · simp at opener
  · simp at closer
  · cases pass
    exact ⟨rfl, fun _ same zero => here ⟨trivial, same, zero⟩⟩

theorem move_blank {c : Char} (blank : isBlank c = true) (role : Role) :
    move target depth ⟨c, role⟩ = .pass depth := by
  have other {d : Char} (visible : isBlank d = false) : c ≠ d := ne_of_isBlank blank visible
  simp [move, isOpener, isCloser, @other '(' rfl, @other '{' rfl, @other '[' rfl, @other ')' rfl,
    @other '}' rfl, @other ']' rfl, @other '=' rfl, @other ';' rfl]

theorem topLevelFrom_blank {gap : List Char} (blank : isBlankText gap = true) (mode : Mode)
    (rest : List Lexeme) :
    topLevelFrom target depth index (lex mode gap ++ rest) =
      topLevelFrom target depth (index + gap.length) rest := by
  induction gap generalizing mode index with
  | nil => rfl
  | cons c gap ih =>
    rw [isBlankText_cons, Bool.and_eq_true] at blank
    rw [lex, List.cons_append, topLevelFrom_cons, move_blank blank.1]
    simp only [ih blank.2, List.length_cons]
    congr 1
    omega

end Search

/-- The same kept character, by its place in either version, or none in both. What is found for an `=` is
not the second of a pair. -/
def SamePlace (target : Target) (before : List Char) (parts : List Part) (index index' : Nat)
    (place place' : Option Nat) : Prop :=
  place = none ∧ place' = none ∨ ∃ front c rest, parts = front ++ .keep c :: rest ∧
    place = some (index + (oldText front).length) ∧ place' = some (index' + (newText front).length) ∧
    (target = .equals → signsBefore (before ++ oldText front) % 2 = 0)

theorem SamePlace.cons {target : Target} {before : List Char} {part : Part} {parts : List Part} {index index' : Nat}
    {place place' : Option Nat}
    (same : SamePlace target (before ++ part.old) parts (index + part.old.length) (index' + part.new.length)
      place place') :
    SamePlace target before (part :: parts) index index' place place' := by
  rcases same with none | ⟨front, c, rest, rfl, here, here', even⟩
  · exact .inl none
  · refine .inr ⟨part :: front, c, rest, rfl, ?_, ?_, fun equals => ?_⟩
    · simp [here, oldText, Nat.add_assoc]
    · simp [here', newText, Nat.add_assoc]
    · have known := even equals
      rwa [List.append_assoc] at known

theorem signsBefore_concat (before : List Char) (c : Char) :
    signsBefore (before ++ [c]) = if c = '=' then signsBefore before + 1 else 0 := by
  by_cases sign : c = '=' <;> simp [signsBefore, sign]

theorem signsBefore_append_blank (before : List Char) {gap : List Char} (blank : isBlankText gap = true)
    (filled : gap ≠ []) : signsBefore (before ++ gap) = 0 := by
  obtain ⟨front, c, rfl⟩ := (List.eq_nil_or_concat gap).resolve_left filled
  rw [List.concat_eq_append, isBlankText_append, Bool.and_eq_true] at blank
  have other : c ≠ '=' := ne_of_isBlank (by simpa using blank.2) rfl
  rw [List.concat_eq_append, ← List.append_assoc, signsBefore_concat, if_neg other]

section Search

variable {target : Target}

/-- After the first `=` of what may be a pair, either the second one follows in both versions, or none does. -/
theorem second_sign_aligned {before : List Char} {parts : List Part} (harmless : Harmless (before ++ ['=']) parts)
    (first : signsBefore before % 2 = 0) :
    (∃ more, parts = .keep '=' :: more) ∨
      (oldText parts).head? ≠ some '=' ∧ (newText parts).head? ≠ some '=' := by
  match parts with
  | [] => exact .inr ⟨by simp, by simp⟩
  | .keep c :: more =>
    by_cases sign : c = '='
    · exact .inl ⟨more, by rw [sign]⟩
    · exact .inr ⟨by simpa using sign, by simpa using sign⟩
  | .gap old new :: more =>
    obtain ⟨fits, _⟩ := harmless.gap
    refine .inr (fits.head?_ne rfl ?_)
    rcases fits.after_sign (c := '=') (by simp) rfl with filled | final | ⟨single, _⟩
    · exact .inl filled
    · exact .inr (.inl final)
    · rw [signsBefore_concat, if_pos rfl] at single
      omega

/-- An `=` is read as code in code only. -/
theorem step_equals {before rest : List Char} {mode : Mode} (awaits : mode.Awaits before ('=' :: rest)) :
    ((mode.step '=' rest).1 = .code → mode = .code) ∧
      ((mode.step '=' rest).2 = .code → (mode.step '=' rest).1 = .code) := by
  cases mode <;> simp_all [Mode.step, Mode.Awaits, commentMarker]

/-- What is known where the search has come to. The number of `=` right before it is even, where an `=`
would count. -/
structure Searching (target : Target) (before : List Char) (parts : List Part) (mode mode' : Mode)
    (depth : Nat) : Prop where
  harmless : Harmless before parts
  breaks : KeepsBreaks before parts
  agree : Agree parts mode mode'
  awaits : mode.Awaits before (oldText parts)
  commented : mode = .comment → isCommented before = true
  even : target = .equals → mode = .code → depth = 0 → signsBefore before % 2 = 0

section Searching

variable {before : List Char} {parts : List Part} {mode mode' : Mode} {depth : Nat}

theorem Searching.gap {old new : List Char}
    (here : Searching target before (.gap old new :: parts) mode mode' depth) :
    mode = mode' ∧
      Searching target (before ++ old) parts (modeAfter mode old) (modeAfter mode new) depth := by
  obtain ⟨fits, harmless⟩ := here.harmless.gap
  have same : mode = mode' := by
    rcases here.agree with none | same | ⟨⟨more, other⟩, _⟩
    · cases none
    · exact same
    · cases other
  obtain ⟨agree, awaits⟩ := agree_gap fits here.awaits fun comment filled =>
    here.breaks.gap filled (here.commented comment)
  refine ⟨same, harmless, here.breaks.tail, agree, awaits, isCommented_modeAfter here.commented, ?_⟩
  intro equals code zero
  by_cases empty : old = []
  · subst empty
    rw [List.append_nil]
    exact here.even equals code zero
  · rw [signsBefore_append_blank before fits.blank empty]

theorem Searching.pass {c : Char} {depth' : Nat} (here : Searching target before (.keep c :: parts) mode mode' depth)
    (pass : move target depth ⟨c, (mode.step c (oldText parts)).1⟩ = .pass depth') :
    Searching target (before ++ [c]) parts (mode.step c (oldText parts)).2 (mode.step c (oldText parts)).2
      depth' := by
  refine ⟨here.harmless.tail, here.breaks.tail, .inr (.inl rfl), Mode.awaits_step here.awaits,
    Mode.isCommented_step here.commented, ?_⟩
  intro equals code zero
  rw [signsBefore_concat]
  split
  · next sign =>
    subst sign
    obtain ⟨same, counted⟩ := move_equals_pass pass
    have role := (step_equals here.awaits).2 code
    exact absurd (same ▸ zero) (counted role equals)
  · rfl

/-- The search ends at the same place of both versions. -/
theorem Searching.samePlace (here : Searching target before parts mode mode' depth) (index index' : Nat) :
    SamePlace target before parts index index' (topLevelFrom target depth index (lex mode (oldText parts)))
      (topLevelFrom target depth index' (lex mode' (newText parts))) := by
  -- on the number of parts, since a pair of `=` is passed at once
  generalize total : parts.length = size
  induction size using Nat.strongRecOn generalizing before parts mode mode' depth index index' with
  | _ size ih =>
    cases parts with
    | nil => exact .inl ⟨rfl, rfl⟩
    | cons part parts =>
      cases part with
      | gap old new =>
        obtain ⟨rfl, later⟩ := here.gap
        obtain ⟨fits, _⟩ := here.harmless.gap
        rw [oldText_gap, newText_gap, lex_blank_append fits.blank, lex_blank_append fits.blank',
          topLevelFrom_blank fits.blank, topLevelFrom_blank fits.blank']
        exact .cons (ih parts.length (by simp [← total]) later _ _ rfl)
      | keep c =>
        have step := step_aligned here.harmless.tail here.agree
        rw [oldText_keep, newText_keep, lex, lex, ← step]
        cases moved : move target depth ⟨c, (mode.step c (oldText parts)).1⟩ with
        | pass depth' =>
          rw [topLevelFrom_cons, topLevelFrom_cons, moved]
          exact .cons (ih parts.length (by simp [← total]) (here.pass moved) _ _ rfl)
        | fail =>
          rw [topLevelFrom_cons, topLevelFrom_cons, moved]
          exact .inl ⟨rfl, rfl⟩
        | hit =>
          rw [topLevelFrom_cons, topLevelFrom_cons, moved]
          refine .inr ⟨[], c, parts, rfl, rfl, rfl, fun equals => ?_⟩
          rw [move_hit moved] at equals
          cases equals
        | sign =>
          obtain ⟨lexeme, rfl, rfl⟩ := move_sign moved
          obtain ⟨rfl, role⟩ := Lexeme.mk.inj lexeme
          obtain rfl := (step_equals here.awaits).1 role
          have even := here.even rfl rfl rfl
          have code (rest : List Char) : Mode.step .code '=' rest = (.code, .code) := by
            simp [Mode.step, commentMarker]
          simp only [code]
          rcases second_sign_aligned here.harmless.tail even with ⟨more, rfl⟩ | ⟨single, single'⟩
          · rw [oldText_keep, newText_keep, topLevelFrom_pair, topLevelFrom_pair]
            simp only [code]
            have twice : signsBefore (before ++ ['='] ++ ['=']) % 2 = 0 := by
              rw [signsBefore_concat, signsBefore_concat]
              simp only [if_true]
              omega
            have later : Searching .equals (before ++ ['='] ++ ['=']) more .code .code 0 :=
              ⟨here.harmless.tail.tail, here.breaks.tail.tail, .inr (.inl rfl), trivial, by simp, fun _ _ _ => twice⟩
            have shorter : more.length < size := by
              rw [← total, List.length_cons, List.length_cons]
              omega
            exact .cons (.cons (ih more.length shorter later _ _ rfl))
          · rw [topLevelFrom_sign single, topLevelFrom_sign single']
            refine .inr ⟨[], '=', parts, rfl, rfl, rfl, fun _ => ?_⟩
            rw [oldText_nil, List.append_nil]
            exact even

end Searching

/-- What is found for an `=` is not the second of a pair. -/
theorem signsBefore_topLevel? {before text : List Char} {gap : Nat} (even : signsBefore before % 2 = 0)
    (search : topLevel? .equals text = some gap) : signsBefore (before ++ text.take gap) % 2 = 0 := by
  have here : Searching .equals before (text.map .keep) .code .code 0 :=
    ⟨harmless_keeps before text, fun _ _ _ _ split => absurd split keeps_ne, .inr (.inl rfl), trivial, by simp,
      fun _ _ _ => even⟩
  rw [topLevel?_eq] at search
  rcases here.samePlace 0 0 with ⟨none, _⟩ | ⟨front, c, rest, split, place, _, even⟩
  · rw [oldText_keeps, search] at none
    cases none
  · have whole : text = oldText front ++ c :: oldText rest := by
      rw [← oldText_keeps text, split, oldText_append, oldText_keep]
    rw [oldText_keeps, search, Nat.zero_add, Option.some.injEq] at place
    rw [place, whole, List.take_left]
    exact even rfl

end Search

end Dialect
