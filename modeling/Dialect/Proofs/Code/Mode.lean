import Dialect.Declaration.Basic
import Dialect.Proofs.Code.TopLevel
import Dialect.Proofs.Text.Alignment
import Mathlib.Data.List.Induction

/-! Reading the code of a text in two versions. Both versions of a character are read in the same mode, as
long as no comment loses the line break that ends it. -/
namespace Dialect

theorem isCommented_concat (before : List Char) (c : Char) :
    isCommented (before ++ [c]) = if c = '\n' then false else c == commentMarker || isCommented before := by
  by_cases newline : c = '\n'
  · simp [isCommented, lineBefore, newline]
  · simp [isCommented, lineBefore, newline, Bool.or_comm, eq_comm, beq_eq_decide]

theorem isCommented_append_blank (before : List Char) {gap : List Char} (blank : isBlankText gap = true) :
    isCommented (before ++ gap) = if '\n' ∈ gap then false else isCommented before := by
  induction gap generalizing before with
  | nil => simp
  | cons c gap ih =>
    rw [isBlankText_cons, Bool.and_eq_true] at blank
    have other : (c == commentMarker) = false := beq_eq_false_iff_ne.mpr (ne_of_isBlank blank.1 rfl)
    rw [List.append_cons, ih _ blank.2, isCommented_concat]
    by_cases newline : c = '\n'
    · simp [newline]
    · simp [newline, other, Ne.symm newline]

/-- A gap loses or adds line breaks only where its line holds no comment sign, or at the end of the text. -/
def KeepsBreaks (before : List Char) (parts : List Part) : Prop :=
  ∀ front old new rest, parts = front ++ .gap old new :: rest → rest ≠ [] →
    isCommented (before ++ oldText front) = true → ('\n' ∈ old ↔ '\n' ∈ new)

section Breaks

variable {before : List Char} {parts : List Part}

theorem KeepsBreaks.after {front : List Part} (breaks : KeepsBreaks before (front ++ parts)) :
    KeepsBreaks (before ++ oldText front) parts := by
  intro earlier old new rest split filled
  have known := breaks (front ++ earlier) old new rest (by rw [split, List.append_assoc]) filled
  rwa [oldText_append, ← List.append_assoc] at known

theorem KeepsBreaks.tail {part : Part} (breaks : KeepsBreaks before (part :: parts)) :
    KeepsBreaks (before ++ part.old) parts := by
  have later := @KeepsBreaks.after before parts [part] breaks
  simpa [oldText] using later

theorem KeepsBreaks.gap {old new : List Char} (breaks : KeepsBreaks before (.gap old new :: parts))
    (filled : parts ≠ []) (commented : isCommented before = true) : '\n' ∈ old ↔ '\n' ∈ new :=
  breaks [] old new parts rfl filled (by simpa using commented)

/-- Both versions of a place are commented or neither is. -/
theorem isCommented_aligned {front rest : List Part} (gaps : BlankGaps (front ++ rest))
    (breaks : KeepsBreaks [] (front ++ rest)) (inside : rest ≠ []) :
    isCommented (oldText front) = isCommented (newText front) := by
  induction front using List.reverseRecOn generalizing rest with
  | nil => rfl
  | append_singleton front part ih =>
    rw [List.append_assoc] at gaps breaks
    have earlier := ih gaps breaks (by simp)
    rw [oldText_append, newText_append]
    cases part with
    | keep c =>
      simp only [oldText_keep, newText_keep, oldText_nil, newText_nil, isCommented_concat, earlier]
    | gap old new =>
      obtain ⟨blank, blank'⟩ := gaps old new (by simp)
      simp only [oldText_gap, newText_gap, oldText_nil, newText_nil, List.append_nil]
      rw [isCommented_append_blank _ blank, isCommented_append_blank _ blank', ← earlier]
      cases commented : isCommented (oldText front) with
      | false => simp
      | true => simp only [breaks front old new rest rfl inside (by simpa using commented)]

end Breaks

namespace Mode

/-- What a mode that lasts for a few characters only says of those before and after it. -/
def Awaits (before rest : List Char) : Mode → Prop
  | .code | .comment | .quoted | .raw => True
  | .escaped => before.getLast? = some '\\'
  | .rawOpening | .rawClosing => before.getLast? = some '\'' ∧ rest.head? = some '\''
  | .rawEscape =>
    before.getLast? = some '\'' ∧ rest.head? = some '\'' ∧ rest.tail.head?.any escapes = true
  | .rawEscaped => before.getLast? = some '\'' ∧ rest.head?.any escapes = true

theorem awaits_step {before rest : List Char} {c : Char} {mode : Mode} (awaits : mode.Awaits before (c :: rest)) :
    (mode.step c rest).2.Awaits (before ++ [c]) rest := by
  cases mode <;> simp only [step]
  case code => split_ifs <;> simp_all [Awaits]
  case comment => split_ifs <;> simp [Awaits]
  case quoted => split_ifs <;> simp_all [Awaits]
  case raw => split_ifs <;> simp_all [Awaits]
  case rawEscape => simpa [Awaits] using awaits.2
  all_goals simp [Awaits]

/-- A comment goes on only on a line that holds a comment sign. -/
theorem isCommented_step {before rest : List Char} {c : Char} {mode : Mode}
    (known : mode = .comment → isCommented before = true) (comment : (mode.step c rest).2 = .comment) :
    isCommented (before ++ [c]) = true := by
  rw [isCommented_concat]
  cases mode <;> simp only [step] at comment
  case code =>
    split_ifs at comment with quote raw sign
    simp [sign, commentMarker]
  case comment =>
    split_ifs at comment with newline
    simp [newline, known rfl]
  case quoted => split_ifs at comment
  case raw => split_ifs at comment
  all_goals cases comment

/-- A blank is read in the same way whatever follows it. -/
theorem step_blank {c : Char} (blank : isBlank c = true) (mode : Mode) (rest rest' : List Char) :
    mode.step c rest = mode.step c rest' := by
  have other : c ≠ '\'' := ne_of_isBlank blank rfl
  cases mode <;> simp [step, other]

end Mode

theorem lex_blank_append {gap : List Char} (blank : isBlankText gap = true) (mode : Mode) (rest : List Char) :
    lex mode (gap ++ rest) = lex mode gap ++ lex (modeAfter mode gap) rest := by
  induction gap generalizing mode with
  | nil => rfl
  | cons c gap ih =>
    rw [isBlankText_cons, Bool.and_eq_true] at blank
    rw [List.cons_append, lex, lex, modeAfter, Mode.step_blank blank.1 mode (gap ++ rest) gap, ih blank.2,
      List.cons_append]

theorem modeAfter_blank {gap : List Char} (blank : isBlankText gap = true) {mode : Mode}
    (lasts : mode = .code ∨ mode = .quoted ∨ mode = .raw) : modeAfter mode gap = mode := by
  induction gap with
  | nil => rfl
  | cons c gap ih =>
    rw [isBlankText_cons, Bool.and_eq_true] at blank
    have other {d : Char} (visible : isBlank d = false) : c ≠ d := ne_of_isBlank blank.1 visible
    have stays : (mode.step c gap).2 = mode := by
      rcases lasts with rfl | rfl | rfl <;>
        simp [Mode.step, @other '"' rfl, @other '\'' rfl, @other '\\' rfl, @other commentMarker rfl]
    rw [modeAfter, stays, ih blank.2]

theorem modeAfter_comment {gap : List Char} (blank : isBlankText gap = true) :
    modeAfter .comment gap = if '\n' ∈ gap then .code else .comment := by
  induction gap with
  | nil => rfl
  | cons c gap ih =>
    rw [isBlankText_cons, Bool.and_eq_true] at blank
    by_cases newline : c = '\n'
    · simp [modeAfter, Mode.step, newline, modeAfter_blank blank.2]
    · simp [modeAfter, Mode.step, newline, Ne.symm newline, ih blank.2]

theorem modeAfter_escaped {gap : List Char} (blank : isBlankText gap = true) (filled : gap ≠ []) :
    modeAfter .escaped gap = .quoted := by
  obtain ⟨c, gap, rfl⟩ := List.exists_cons_of_ne_nil filled
  rw [isBlankText_cons, Bool.and_eq_true] at blank
  exact modeAfter_blank blank.2 (.inr (.inl rfl))

/-- The modes of the two versions: the same, unless an `=` follows a backslash and a gap there. -/
def Agree (rest : List Part) (mode mode' : Mode) : Prop :=
  rest = [] ∨ mode = mode' ∨ (∃ more, rest = .keep '=' :: more) ∧
    (mode = .escaped ∧ mode' = .quoted ∨ mode = .quoted ∧ mode' = .escaped)

section Modes

variable {before : List Char} {parts : List Part} {mode mode' : Mode}

/-- No gap that a sign follows stands right after an apostrophe. -/
theorem Fits.not_next {old new : List Char} (fits : Fits before old new parts)
    (prime : before.getLast? = some '\'') {c : Char} (visible : isBlank c = false) (other : c ≠ '=') :
    (old ++ oldText parts).head? ≠ some c ∧ (new ++ newText parts).head? ≠ some c := by
  apply fits.head?_ne visible
  rcases fits.after_sign prime rfl with filled | final | ⟨_, more, rfl⟩
  · exact .inl filled
  · exact .inr (.inl final)
  · exact .inr (.inr ⟨'=', more, rfl, other.symm⟩)

/-- What follows an apostrophe starts with a given sign in both versions or in neither. -/
theorem head?_aligned (harmless : Harmless before parts) (prime : before.getLast? = some '\'') {c : Char}
    (visible : isBlank c = false) (other : c ≠ '=') :
    (oldText parts).head? = some c ↔ (newText parts).head? = some c := by
  match parts with
  | [] => rfl
  | .keep d :: parts => simp
  | .gap old new :: parts =>
    have neither := harmless.gap.1.not_next prime visible other
    exact ⟨fun first => absurd first neither.1, fun first => absurd first neither.2⟩

theorem escapes_aligned (harmless : Harmless before parts) (prime : before.getLast? = some '\'') :
    (oldText parts).head?.any Mode.escapes = (newText parts).head?.any Mode.escapes := by
  have same (c : Char) (visible : isBlank c = false) (other : c ≠ '=') :=
    head?_aligned harmless prime visible other
  rw [Bool.eq_iff_iff, Option.any_eq_true, Option.any_eq_true]
  simp only [Mode.escapes, Bool.or_eq_true, beq_iff_eq]
  constructor
  · rintro ⟨c, there, (rfl | rfl) | rfl⟩
    all_goals exact ⟨_, (same _ rfl (by decide)).mp there, by simp⟩
  · rintro ⟨c, there, (rfl | rfl) | rfl⟩
    all_goals exact ⟨_, (same _ rfl (by decide)).mpr there, by simp⟩

/-- A character is read in the same way in both versions. -/
theorem step_aligned {c : Char} (harmless : Harmless (before ++ [c]) parts)
    (agree : Agree (.keep c :: parts) mode mode') :
    mode.step c (oldText parts) = mode'.step c (newText parts) := by
  rcases agree with none | rfl | ⟨⟨more, same⟩, modes⟩
  · cases none
  · by_cases prime : c = '\''
    · subst prime
      have opens := head?_aligned harmless (by simp) (c := '\'') rfl (by decide)
      have escapes : (oldText parts).head? = some '\'' →
          (oldText parts).tail.head?.any Mode.escapes = (newText parts).tail.head?.any Mode.escapes := by
        intro first
        match parts, first with
        | .keep d :: parts, first => exact escapes_aligned harmless.tail (by simpa using first)
        | .gap old new :: parts, first =>
          exact absurd first (harmless.gap.1.not_next (by simp) rfl (by decide)).1
      cases mode <;> simp only [Mode.step, opens]
      split_ifs with raw quoted quoted' <;> simp_all
    · cases mode <;> simp [Mode.step, prime]
  · cases same
    rcases modes with ⟨rfl, rfl⟩ | ⟨rfl, rfl⟩ <;> rfl

/-- A gap leads to the same mode in both versions. -/
theorem agree_gap {old new : List Char} (fits : Fits before old new parts)
    (awaits : mode.Awaits before (old ++ oldText parts))
    (breaks : mode = .comment → parts ≠ [] → ('\n' ∈ old ↔ '\n' ∈ new)) :
    Agree parts (modeAfter mode old) (modeAfter mode new) ∧
      (modeAfter mode old).Awaits (before ++ old) (oldText parts) := by
  have lasting (lasts : mode = .code ∨ mode = .quoted ∨ mode = .raw) :
      Agree parts (modeAfter mode old) (modeAfter mode new) ∧
        (modeAfter mode old).Awaits (before ++ old) (oldText parts) := by
    rw [modeAfter_blank fits.blank lasts, modeAfter_blank fits.blank' lasts]
    refine ⟨.inr (.inl rfl), ?_⟩
    rcases lasts with rfl | rfl | rfl <;> trivial
  -- inside a raw string no gap parts what belongs together
  have joined (prime : before.getLast? = some '\'') {c : Char} (visible : isBlank c = false)
      (other : c ≠ '=') (next : (old ++ oldText parts).head? = some c) : False :=
    (fits.not_next prime visible other).1 next
  cases mode with
  | code => exact lasting (.inl rfl)
  | quoted => exact lasting (.inr (.inl rfl))
  | raw => exact lasting (.inr (.inr rfl))
  | comment =>
    rw [modeAfter_comment fits.blank, modeAfter_comment fits.blank']
    constructor
    · by_cases last : parts = []
      · exact .inl last
      · simp only [breaks rfl last, Agree, true_or, or_true]
    · split <;> trivial
  | escaped =>
    have last : before.getLast? = some '\\' := awaits
    by_cases empty : old = []
    · subst empty
      rw [List.append_nil]
      refine ⟨?_, awaits⟩
      by_cases empty' : new = []
      · exact .inr (.inl (by rw [empty']))
      · rw [modeAfter_escaped fits.blank' empty']
        rcases fits.after_sign last rfl with ⟨filled, _⟩ | final | ⟨_, equals⟩
        · exact absurd rfl filled
        · exact .inl final
        · exact .inr (.inr ⟨equals, .inl ⟨rfl, rfl⟩⟩)
    · rw [modeAfter_escaped fits.blank empty]
      refine ⟨?_, trivial⟩
      by_cases empty' : new = []
      · subst empty'
        rcases fits.after_sign last rfl with ⟨_, filled⟩ | final | ⟨_, equals⟩
        · exact absurd rfl filled
        · exact .inl final
        · exact .inr (.inr ⟨equals, .inr ⟨rfl, rfl⟩⟩)
      · exact .inr (.inl (modeAfter_escaped fits.blank' empty').symm)
  | rawOpening => exact (joined awaits.1 rfl (by decide) awaits.2).elim
  | rawClosing => exact (joined awaits.1 rfl (by decide) awaits.2).elim
  | rawEscape => exact (joined awaits.1 rfl (by decide) awaits.2.1).elim
  | rawEscaped =>
    obtain ⟨c, next, escape⟩ := (Option.any_eq_true _ _).mp awaits.2
    simp only [Mode.escapes, Bool.or_eq_true, beq_iff_eq] at escape
    rcases escape with (rfl | rfl) | rfl
    all_goals exact (joined awaits.1 rfl (by decide) next).elim

end Modes

/-- A comment that lasts to the end of a text holds its sign on the last line. -/
theorem isCommented_modeAfter {before : List Char} {mode : Mode} {text : List Char}
    (known : mode = .comment → isCommented before = true) (comment : modeAfter mode text = .comment) :
    isCommented (before ++ text) = true := by
  induction text generalizing before mode with
  | nil =>
    rw [List.append_nil]
    exact known comment
  | cons c text ih =>
    rw [List.append_cons]
    exact ih (Mode.isCommented_step known) comment

end Dialect
