import Dialect.Proofs.Code.Mode

/-! The string literals of a text in two versions. Each literal of one version has its counterpart in the
other, and their bodies are the same as far as no gap changes inside them. -/
namespace Dialect

/-- The mode in which the character with the given index is read. -/
def modeAt (mode : Mode) : List Char → Nat → Mode
  | c :: rest, index + 1 => modeAt (mode.step c rest).2 rest index
  | _, _ => mode

/-- The bodies of the literals `"…"` from `index` on, as stretches. A literal that is open there has its
body from `start` on; one that nothing closes is none. -/
def literalsFrom (mode : Mode) (start index : Nat) : List Char → List Span
  | [] => []
  | c :: rest =>
    match mode, (mode.step c rest).2 with
    | .code, .quoted => literalsFrom .quoted (index + 1) (index + 1) rest
    | .quoted, .code => ⟨start, index⟩ :: literalsFrom .code start (index + 1) rest
    | _, next => literalsFrom next start (index + 1) rest

/-- The bodies of the string literals of a text, as stretches. -/
def stringLiterals (text : List Char) : List Span := literalsFrom .code 0 0 text

def stringBodies (text : List Char) : List (List Char) := (stringLiterals text).map (·.slice text)

theorem modeAt_zero (mode : Mode) (text : List Char) : modeAt mode text 0 = mode := by cases text <;> rfl

theorem modeAt_append (mode : Mode) (front rest : List Char) (index : Nat) :
    modeAt mode (front ++ rest) (front.length + index) =
      modeAt (modeAt mode (front ++ rest) front.length) rest index := by
  induction front generalizing mode with
  | nil =>
    rw [List.nil_append, List.length_nil, Nat.zero_add, modeAt_zero]
  | cons c front ih =>
    rw [List.cons_append, List.length_cons, Nat.add_right_comm, modeAt, modeAt, ih]

theorem modeAt_blank_append {gap : List Char} (blank : isBlankText gap = true) (mode : Mode) (rest : List Char) :
    modeAt mode (gap ++ rest) gap.length = modeAfter mode gap := by
  induction gap generalizing mode with
  | nil => exact modeAt_zero mode rest
  | cons c gap ih =>
    rw [isBlankText_cons, Bool.and_eq_true] at blank
    rw [List.cons_append, List.length_cons, modeAt, modeAfter, ← Mode.step_blank blank.1 mode (gap ++ rest) gap,
      ih blank.2]

namespace Mode

theorem inQuotes_step {mode : Mode} {c : Char} {rest : List Char} (inside : (mode.step c rest).2.inQuotes = true) :
    mode.inQuotes = true ∨ mode = .code ∧ c = '"' := by
  cases mode <;> simp only [step] at inside
  case code =>
    split_ifs at inside with quote
    · exact .inr ⟨rfl, quote⟩
    all_goals cases inside
  case comment => split_ifs at inside <;> cases inside
  case raw => split_ifs at inside <;> cases inside
  case quoted => exact .inl rfl
  case escaped => exact .inl rfl
  all_goals cases inside

theorem inQuotes_modeAfter {mode : Mode} {gap : List Char} (blank : isBlankText gap = true)
    (inside : (modeAfter mode gap).inQuotes = true) : mode.inQuotes = true := by
  induction gap generalizing mode with
  | nil => exact inside
  | cons c gap ih =>
    rw [isBlankText_cons, Bool.and_eq_true] at blank
    rcases inQuotes_step (ih blank.2 inside) with known | ⟨_, quote⟩
    · exact known
    · exact absurd quote (ne_of_isBlank blank.1 rfl)

end Mode

section Literals

variable {mode : Mode} {start index : Nat} {c : Char} {rest : List Char}

theorem literalsFrom_close (rest : List Char) :
    literalsFrom .quoted start index ('"' :: rest) =
      ⟨start, index⟩ :: literalsFrom .code start (index + 1) rest := rfl

theorem literalsFrom_pass (other : c = '"' → mode ≠ .code ∧ mode ≠ .quoted) :
    literalsFrom mode start index (c :: rest) = literalsFrom (mode.step c rest).2 start (index + 1) rest := by
  rw [literalsFrom.eq_def]
  simp only
  split
  · next next =>
    have quote : c = '"' := by
      rcases @Mode.inQuotes_step .code c rest (by rw [next]; rfl) with inside | ⟨_, quote⟩
      · cases inside
      · exact quote
    exact absurd rfl (other quote).1
  · next next =>
    have quote : c = '"' := by
      simp only [Mode.step] at next
      split_ifs at next with escape quote
      exact quote
    exact absurd rfl (other quote).2
  · rfl

theorem literalsFrom_blank {gap : List Char} (blank : isBlankText gap = true) (rest : List Char) :
    literalsFrom mode start index (gap ++ rest) =
      literalsFrom (modeAfter mode gap) start (index + gap.length) rest := by
  induction gap generalizing mode index with
  | nil => rfl
  | cons c gap ih =>
    rw [isBlankText_cons, Bool.and_eq_true] at blank
    rw [List.cons_append, literalsFrom_pass fun quote => absurd quote (ne_of_isBlank blank.1 rfl), ih blank.2,
      modeAfter, Mode.step_blank blank.1 mode (gap ++ rest) gap, List.length_cons]
    congr 1
    omega

end Literals

/-- The bodies of one literal in both versions. -/
def AlignedLiterals (parts : List Part) (span span' : Span) : Prop :=
  ∃ front inner rest, parts = front ++ .keep '"' :: (inner ++ .keep '"' :: rest) ∧
    span = ⟨(oldText front).length + 1, (oldText front).length + 1 + (oldText inner).length⟩ ∧
    span' = ⟨(newText front).length + 1, (newText front).length + 1 + (newText inner).length⟩

/-- What is known where reading has come to. -/
structure Reading (parts front rest : List Part) (mode mode' : Mode) (start start' : Nat) : Prop where
  split : parts = front ++ rest
  agree : Agree rest mode mode'
  awaits : mode.Awaits (oldText front) (oldText rest)
  here : modeAt .code (oldText parts) (oldText front).length = mode
  opened : mode.inQuotes = true → ∃ before inner, front = before ++ .keep '"' :: inner ∧
    start = (oldText before).length + 1 ∧ start' = (newText before).length + 1

/-- Comments keep the line breaks that end them. -/
def CommentsEnd (parts : List Part) : Prop :=
  ∀ front old new rest, parts = front ++ .gap old new :: rest → rest ≠ [] →
    modeAt .code (oldText parts) (oldText front).length = .comment → ('\n' ∈ old ↔ '\n' ∈ new)

section Reading

variable {parts front rest : List Part} {mode mode' : Mode} {start start' : Nat}

theorem Reading.gap {old new : List Char} (harmless : Harmless [] parts) (comments : CommentsEnd parts)
    (reading : Reading parts front (.gap old new :: rest) mode mode' start start') :
    mode = mode' ∧ Reading parts (front ++ [.gap old new]) rest (modeAfter mode old) (modeAfter mode new)
      start start' := by
  have fits := harmless front old new rest reading.split
  have same : mode = mode' := by
    rcases reading.agree with none | same | ⟨⟨more, other⟩, _⟩
    · cases none
    · exact same
    · cases other
  obtain ⟨agree, awaits⟩ := agree_gap fits reading.awaits fun comment filled =>
    comments front old new rest reading.split filled (reading.here.trans comment)
  refine ⟨same, by rw [reading.split, List.append_assoc]; rfl, agree, by simpa using awaits, ?_, ?_⟩
  · have place := modeAt_append .code (oldText front) (old ++ oldText rest) old.length
    have text : oldText parts = oldText front ++ (old ++ oldText rest) := by simp [reading.split]
    rw [← text, reading.here, modeAt_blank_append fits.blank] at place
    simpa using place
  · intro inside
    obtain ⟨before, inner, rfl, known⟩ := reading.opened (Mode.inQuotes_modeAfter fits.blank inside)
    exact ⟨before, inner ++ [.gap old new], by simp, known⟩

theorem Reading.keep {c : Char} (harmless : Harmless [] parts)
    (reading : Reading parts front (.keep c :: rest) mode mode' start start') {next next' : Nat}
    (opened : (mode.step c (oldText rest)).2.inQuotes = true → ∃ before inner,
      front ++ [.keep c] = before ++ .keep '"' :: inner ∧
        next = (oldText before).length + 1 ∧ next' = (newText before).length + 1) :
    mode.step c (oldText rest) = mode'.step c (newText rest) ∧
      Reading parts (front ++ [.keep c]) rest (mode.step c (oldText rest)).2 (mode.step c (oldText rest)).2
        next next' := by
  have split := reading.split
  have awaits := Mode.awaits_step reading.awaits
  rw [split] at harmless
  refine ⟨step_aligned harmless.after.tail reading.agree, by rw [split, List.append_assoc]; rfl,
    .inr (.inl rfl), by rwa [oldText_append], ?_, opened⟩
  have place := modeAt_append .code (oldText front) (c :: oldText rest) 1
  have text : oldText parts = oldText front ++ c :: oldText rest := by simp [split]
  rw [← text, reading.here] at place
  rw [oldText_append, List.length_append]
  exact place.trans (modeAt_zero _ _)

theorem Reading.same {c : Char} (reading : Reading parts front (.keep c :: rest) mode mode' start start')
    (other : c ≠ '=') : mode = mode' := by
  rcases reading.agree with none | same | ⟨⟨more, sign⟩, _⟩
  · cases none
  · exact same
  · cases sign
    exact absurd rfl other

/-- A character that opens or closes no literal. -/
theorem Reading.pass {c : Char} (harmless : Harmless [] parts)
    (reading : Reading parts front (.keep c :: rest) mode mode' start start')
    (other : c = '"' → mode ≠ .code ∧ mode ≠ .quoted) :
    mode.step c (oldText rest) = mode'.step c (newText rest) ∧
      Reading parts (front ++ [.keep c]) rest (mode.step c (oldText rest)).2 (mode.step c (oldText rest)).2
        start start' := by
  refine reading.keep harmless fun inside => ?_
  rcases Mode.inQuotes_step inside with known | ⟨code, quote⟩
  · obtain ⟨before, inner, rfl, places⟩ := reading.opened known
    exact ⟨before, inner ++ [.keep c], by simp, places⟩
  · exact absurd code (other quote).1

theorem Reading.literals (harmless : Harmless [] parts) (comments : CommentsEnd parts)
    (reading : Reading parts front rest mode mode' start start') :
    List.Forall₂ (AlignedLiterals parts)
      (literalsFrom mode start (oldText front).length (oldText rest))
      (literalsFrom mode' start' (newText front).length (newText rest)) := by
  induction rest generalizing front mode mode' start start' with
  | nil => exact .nil
  | cons part rest ih =>
    cases part with
    | gap old new =>
      have fits := harmless front old new rest reading.split
      obtain ⟨rfl, later⟩ := reading.gap harmless comments
      rw [oldText_gap, newText_gap, literalsFrom_blank fits.blank, literalsFrom_blank fits.blank']
      simpa using ih later
    | keep c =>
      have length : (oldText (front ++ [.keep c])).length = (oldText front).length + 1 := by simp
      have length' : (newText (front ++ [.keep c])).length = (newText front).length + 1 := by simp
      rw [oldText_keep, newText_keep]
      -- a quotation mark in code opens a literal, one inside of quotes closes it, and all else is passed
      by_cases opens : c = '"' ∧ mode = .code
      · obtain ⟨rfl, rfl⟩ := opens
        obtain rfl := reading.same (by decide)
        have later : Reading parts (front ++ [.keep '"']) rest .quoted .quoted ((oldText front).length + 1)
            ((newText front).length + 1) := (reading.keep harmless fun _ => ⟨front, [], rfl, rfl, rfl⟩).2
        have further := ih later
        rw [length, length'] at further
        exact further
      by_cases closes : c = '"' ∧ mode = .quoted
      · obtain ⟨rfl, rfl⟩ := closes
        obtain rfl := reading.same (by decide)
        obtain ⟨before, inner, rfl, rfl, rfl⟩ := reading.opened rfl
        have later : Reading parts (before ++ .keep '"' :: inner ++ [.keep '"']) rest .code .code
            ((oldText before).length + 1) ((newText before).length + 1) :=
          (reading.keep harmless fun inside => by cases inside).2
        rw [literalsFrom_close, literalsFrom_close, ← length, ← length']
        refine .cons ⟨before, inner, rest, by simp [reading.split], ?_, ?_⟩ (ih later)
        · simp [Nat.add_assoc, Nat.add_comm 1]
        · simp [Nat.add_assoc, Nat.add_comm 1]
      · have other : c = '"' → mode ≠ .code ∧ mode ≠ .quoted := fun quote =>
          ⟨fun code => opens ⟨quote, code⟩, fun quoted => closes ⟨quote, quoted⟩⟩
        have other' : c = '"' → mode' ≠ .code ∧ mode' ≠ .quoted := fun quote =>
          reading.same (quote ▸ by decide) ▸ other quote
        obtain ⟨step, later⟩ := reading.pass harmless other
        rw [literalsFrom_pass other, literalsFrom_pass other', ← step, ← length, ← length']
        exact ih later

end Reading

/-- Each literal of one version has its counterpart in the other. -/
theorem literals_aligned {parts : List Part} (harmless : Harmless [] parts) (comments : CommentsEnd parts) :
    List.Forall₂ (AlignedLiterals parts) (stringLiterals (oldText parts)) (stringLiterals (newText parts)) := by
  have reading : Reading parts [] parts .code .code 0 0 :=
    ⟨rfl, .inr (.inl rfl), trivial, modeAt_zero _ _, fun inside => by cases inside⟩
  exact reading.literals harmless comments

theorem exists_of_mem_stringLiterals {text : List Char} {literal : Span} (member : literal ∈ stringLiterals text) :
    ∃ front body rest, text = front ++ '"' :: (body ++ '"' :: rest) ∧
      literal = ⟨front.length + 1, front.length + 1 + body.length⟩ := by
  have comments : CommentsEnd (text.map .keep) := fun _ _ _ _ split => absurd split keeps_ne
  have literals := literals_aligned (harmless_keeps [] text) comments
  rw [oldText_keeps, newText_keeps, List.forall₂_same] at literals
  obtain ⟨front, inner, rest, split, span, _⟩ := literals literal member
  have whole := congrArg oldText split
  simp only [oldText_keeps, oldText_append, oldText_keep] at whole
  exact ⟨oldText front, oldText inner, oldText rest, whole, span⟩

/-- Where no gap changes inside a literal, both versions have the same bodies. -/
theorem stringBodies_aligned {parts : List Part} (harmless : Harmless [] parts) (comments : CommentsEnd parts)
    (kept : ∀ literal ∈ stringLiterals (oldText parts), ∀ front old new rest,
      parts = front ++ .gap old new :: rest → literal.start ≤ (oldText front).length →
      (oldText front).length + old.length ≤ literal.stop → old = new) :
    stringBodies (oldText parts) = stringBodies (newText parts) := by
  rw [stringBodies, stringBodies, ← List.forall₂_eq_eq_eq, List.forall₂_map_left_iff, List.forall₂_map_right_iff]
  have literals := (List.forall₂_and_left _ _).mpr ⟨fun literal member => member, literals_aligned harmless comments⟩
  refine literals.imp ?_
  rintro literal literal' ⟨member, front, inner, rest, rfl, span, span'⟩
  have body := Span.slice_append (oldText front ++ ['"']) (oldText inner) ('"' :: oldText rest)
  have body' := Span.slice_append (newText front ++ ['"']) (newText inner) ('"' :: newText rest)
  have unchanged : oldText inner = newText inner := by
    refine texts_eq_of_unchanged fun old new inside => ?_
    obtain ⟨earlier, later, rfl⟩ := List.append_of_mem inside
    refine kept literal member (front ++ .keep '"' :: earlier) old new (later ++ .keep '"' :: rest) (by simp) ?_ ?_
    · simp [span]
    · simp [span]
      omega
  have first : literal.slice (oldText (front ++ .keep '"' :: (inner ++ .keep '"' :: rest))) = oldText inner := by
    simpa [span] using body
  have second : literal'.slice (newText (front ++ .keep '"' :: (inner ++ .keep '"' :: rest))) = newText inner := by
    simpa [span'] using body'
  rw [first, second, unchanged]

end Dialect
