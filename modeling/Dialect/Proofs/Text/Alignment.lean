import Dialect.Proofs.Text.Blank
import Dialect.Proofs.Text.Search
import Mathlib.Data.List.Forall2

/-! A text in two versions. It is cut into characters that both versions have and gaps that are blank in
both. Where no gap appears or goes away next to what a reader of the text tells apart, the reader finds
the same things at the same places of both versions. -/
namespace Dialect

inductive Part where
  | keep (c : Char)
  | gap (old new : List Char)

namespace Part

def old : Part → List Char
  | .keep c => [c]
  | .gap old _ => old

def new : Part → List Char
  | .keep c => [c]
  | .gap _ new => new

end Part

def oldText (parts : List Part) : List Char := parts.flatMap Part.old

def newText (parts : List Part) : List Char := parts.flatMap Part.new

section Versions

variable (c : Char) (old new : List Char) (parts more : List Part)

@[simp] theorem oldText_nil : oldText [] = [] := rfl
@[simp] theorem newText_nil : newText [] = [] := rfl
@[simp] theorem oldText_keep : oldText (.keep c :: parts) = c :: oldText parts := rfl
@[simp] theorem newText_keep : newText (.keep c :: parts) = c :: newText parts := rfl
@[simp] theorem oldText_gap : oldText (.gap old new :: parts) = old ++ oldText parts := rfl
@[simp] theorem newText_gap : newText (.gap old new :: parts) = new ++ newText parts := rfl

@[simp] theorem oldText_append : oldText (parts ++ more) = oldText parts ++ oldText more :=
  List.flatMap_append

@[simp] theorem newText_append : newText (parts ++ more) = newText parts ++ newText more :=
  List.flatMap_append

@[simp] theorem oldText_keeps (text : List Char) : oldText (text.map .keep) = text := by
  induction text with
  | nil => rfl
  | cons c text ih => rw [List.map_cons, oldText_keep, ih]

@[simp] theorem newText_keeps (text : List Char) : newText (text.map .keep) = text := by
  induction text with
  | nil => rfl
  | cons c text ih => rw [List.map_cons, newText_keep, ih]

theorem texts_eq_of_unchanged {parts : List Part} (same : ∀ old new, .gap old new ∈ parts → old = new) :
    oldText parts = newText parts := by
  refine List.flatMap_congr fun part member => ?_
  cases part with
  | keep c => rfl
  | gap old new => exact same old new member

theorem Span.slice_append (front inner rest : List Char) :
    Span.slice ⟨front.length, front.length + inner.length⟩ (front ++ (inner ++ rest)) = inner := by
  simp [slice]

theorem not_mem_keeps (text : List Char) : .gap old new ∉ text.map Part.keep := by simp


end Versions

theorem keeps_ne {text old new : List Char} {front rest : List Part} :
    text.map .keep ≠ front ++ .gap old new :: rest := by
  intro split
  have member : .gap old new ∈ text.map Part.keep := by simp [split]
  exact not_mem_keeps old new text member

/-- A gap inside a stretch of the text. -/
theorem mem_slice_of_inside {front gap rest : List Char} {span : Span} (low : span.start ≤ front.length)
    (high : front.length + gap.length ≤ span.stop) {c : Char} (member : c ∈ gap) :
    c ∈ span.slice (front ++ (gap ++ rest)) := by
  obtain ⟨index, inside, rfl⟩ := List.getElem_of_mem member
  apply List.mem_of_getElem? (i := front.length + index - span.start)
  rw [Span.getElem?_slice, if_pos (by omega), Nat.add_sub_cancel' (by omega),
    List.getElem?_append_right (by omega), Nat.add_sub_cancel_left, List.getElem?_append_left inside]
  exact List.getElem?_eq_getElem inside

/-- The type name that a text ends with stands right after a colon. -/
def typeEnds (text : List Char) : Bool :=
  ((text.reverse.dropWhile isAsciiLetter).dropWhile isBlank).head? == some ':'

/-- How many `=` a text ends with. -/
def signsBefore (text : List Char) : Nat := (text.reverse.takeWhile (· == '=')).length

/-- Where a gap may be empty in one version only: at the ends of the text, before an `=` that is not
the second of a pair, and after a word that ends there anyway. -/
inductive Loose (before : List Char) : List Part → Prop where
  | start (first : before = []) (rest : List Part) : Loose before rest
  | finish : Loose before []
  | equals (single : signsBefore before % 2 = 0) (rest : List Part) : Loose before (.keep '=' :: rest)
  | word (letter : before.getLast?.any isAsciiLetter = true) {c : Char} (visible : isBlank c = false)
      (ends : isWordChar c = false) (typed : isIdentChar c = true → typeEnds before = true)
      (rest : List Part) : Loose before (.keep c :: rest)

/-- What is asked of a gap between `before` and `rest`. -/
structure Fits (before old new : List Char) (rest : List Part) : Prop where
  blank : isBlankText old = true
  blank' : isBlankText new = true
  apart : old ≠ [] ∧ new ≠ [] ∨ Loose before rest

theorem head?_blank_append {gap rest : List Char} {c : Char} (blank : isBlankText gap = true)
    (visible : isBlank c = false) (first : (gap ++ rest).head? = some c) : gap = [] ∧ rest.head? = some c := by
  cases gap with
  | nil => exact ⟨rfl, first⟩
  | cons d gap =>
    rw [isBlankText_cons, Bool.and_eq_true] at blank
    cases first
    simp [visible] at blank

/-- Neither version goes on with a given character, if that is not what follows the gap. -/
theorem Fits.head?_ne {before old new : List Char} {rest : List Part} (fits : Fits before old new rest)
    {c : Char} (visible : isBlank c = false)
    (next : old ≠ [] ∧ new ≠ [] ∨ rest = [] ∨ ∃ d more, rest = .keep d :: more ∧ d ≠ c) :
    (old ++ oldText rest).head? ≠ some c ∧ (new ++ newText rest).head? ≠ some c := by
  constructor
  · intro first
    obtain ⟨empty, first⟩ := head?_blank_append fits.blank visible first
    rcases next with ⟨filled, _⟩ | rfl | ⟨d, more, rfl, other⟩
    · exact filled empty
    · cases first
    · exact other (Option.some.inj first)
  · intro first
    obtain ⟨empty, first⟩ := head?_blank_append fits.blank' visible first
    rcases next with ⟨_, filled⟩ | rfl | ⟨d, more, rfl, other⟩
    · exact filled empty
    · cases first
    · exact other (Option.some.inj first)

/-- Inside a text, a gap that is empty in one version ends no word. -/
theorem Fits.inside {before old new : List Char} {rest : List Part} (fits : Fits before old new rest)
    (inside : before ≠ []) :
    old ≠ [] ∧ new ≠ [] ∨ rest = [] ∨
      ∃ c more, rest = .keep c :: more ∧ isBlank c = false ∧ isWordChar c = false := by
  rcases fits.apart with filled | loose
  · exact .inl filled
  · cases loose with
    | start first => exact absurd first inside
    | finish => exact .inr (.inl rfl)
    | equals _ more => exact .inr (.inr ⟨'=', more, rfl, rfl, by decide⟩)
    | @word _ c visible ends _ more => exact .inr (.inr ⟨c, more, rfl, visible, ends⟩)

/-- After a sign, a gap that is empty in one version stands at the end of the text or before an `=`. -/
theorem Fits.after_sign {before old new : List Char} {rest : List Part} (fits : Fits before old new rest) {c : Char}
    (last : before.getLast? = some c) (sign : isAsciiLetter c = false) :
    old ≠ [] ∧ new ≠ [] ∨ rest = [] ∨ signsBefore before % 2 = 0 ∧ ∃ more, rest = .keep '=' :: more := by
  rcases fits.apart with filled | loose
  · exact .inl filled
  · cases loose with
    | start first => simp [first] at last
    | finish => exact .inr (.inl rfl)
    | equals single rest => exact .inr (.inr ⟨single, rest, rfl⟩)
    | word letter => simp [last, sign] at letter

/-- All gaps of the parts, which `before` precedes, are as asked. -/
def Harmless (before : List Char) (parts : List Part) : Prop :=
  ∀ front old new rest, parts = front ++ .gap old new :: rest → Fits (before ++ oldText front) old new rest

theorem harmless_keeps (before text : List Char) : Harmless before (text.map .keep) := by
  intro front old new rest split
  exact absurd split keeps_ne

section Harmless

variable {before : List Char} {parts : List Part}

theorem Harmless.after {front : List Part} (harmless : Harmless before (front ++ parts)) :
    Harmless (before ++ oldText front) parts := by
  intro earlier old new rest split
  have fits := harmless (front ++ earlier) old new rest (by rw [split, List.append_assoc])
  rwa [oldText_append, ← List.append_assoc] at fits

theorem Harmless.tail {c : Char} (harmless : Harmless before (.keep c :: parts)) :
    Harmless (before ++ [c]) parts := by
  have later := @Harmless.after before parts [.keep c] harmless
  simpa using later

theorem Harmless.gap {old new : List Char} (harmless : Harmless before (.gap old new :: parts)) :
    Fits before old new parts ∧ Harmless (before ++ old) parts := by
  constructor
  · have fits := harmless [] old new parts rfl
    simpa using fits
  · have later := @Harmless.after before parts [.gap old new] harmless
    simpa using later

/-- All gaps are blank in both versions. -/
def BlankGaps (parts : List Part) : Prop :=
  ∀ old new, .gap old new ∈ parts → isBlankText old = true ∧ isBlankText new = true

theorem Harmless.blankGaps (harmless : Harmless before parts) : BlankGaps parts := by
  intro old new member
  obtain ⟨front, rest, split⟩ := List.append_of_mem member
  have fits := harmless front old new rest split
  exact ⟨fits.blank, fits.blank'⟩

theorem BlankGaps.tail {part : Part} (gaps : BlankGaps (part :: parts)) : BlankGaps parts :=
  fun old new member => gaps old new (List.mem_cons_of_mem part member)

theorem BlankGaps.of_append {front rest : List Part} (gaps : BlankGaps (front ++ rest)) :
    BlankGaps front ∧ BlankGaps rest :=
  ⟨fun old new member => gaps old new (List.mem_append_left rest member),
    fun old new member => gaps old new (List.mem_append_right front member)⟩

theorem isBlankText_aligned (gaps : BlankGaps parts) :
    isBlankText (oldText parts) = isBlankText (newText parts) := by
  induction parts with
  | nil => rfl
  | cons part parts ih =>
    have later := ih gaps.tail
    cases part with
    | keep c => rw [oldText_keep, newText_keep, isBlankText_cons, isBlankText_cons, later]
    | gap old new =>
      obtain ⟨blank, blank'⟩ := gaps old new List.mem_cons_self
      rw [oldText_gap, newText_gap, isBlankText_append, isBlankText_append, blank, blank', later]

end Harmless

theorem takeWhile_blank_append {p : Char → Bool} (hidden : ∀ c, isBlank c = true → p c = false)
    {gap rest : List Char} (blank : isBlankText gap = true) (stops : gap = [] → rest.takeWhile p = []) :
    (gap ++ rest).takeWhile p = [] := by
  cases gap with
  | nil => exact stops rfl
  | cons c gap =>
    rw [isBlankText_cons, Bool.and_eq_true] at blank
    simp [hidden c blank.1]

section Read

variable {before : List Char} {parts : List Part}

/-- A word is the same in both versions, if no gap that may go away is inside it. -/
theorem takeWhile_aligned {p : Char → Bool} (hidden : ∀ c, isBlank c = true → p c = false)
    (inside : before ≠ []) (harmless : Harmless before parts)
    (stops : ∀ word c old new rest, parts = word.map .keep ++ .gap old new :: .keep c :: rest →
      word.all p = true → Loose (before ++ word) (.keep c :: rest) → p c = false) :
    ∃ word rest, parts = word.map .keep ++ rest ∧ (oldText parts).takeWhile p = word ∧
      (newText parts).takeWhile p = word := by
  induction parts generalizing before with
  | nil => exact ⟨[], [], rfl, rfl, rfl⟩
  | cons part parts ih =>
    cases part with
    | keep c =>
      cases taken : p c with
      | false => exact ⟨[], _, rfl, by simp [taken], by simp [taken]⟩
      | true =>
        have later : ∀ word d old new rest, parts = word.map .keep ++ .gap old new :: .keep d :: rest →
            word.all p = true → Loose (before ++ [c] ++ word) (.keep d :: rest) → p d = false := by
          intro word d old new rest split all loose
          refine stops (c :: word) d old new rest (by rw [split]; rfl) (by simp [taken, all]) ?_
          rwa [List.append_assoc, List.singleton_append] at loose
        obtain ⟨word, rest, split, first, second⟩ := ih (by simp) harmless.tail later
        refine ⟨c :: word, rest, by rw [split]; rfl, ?_, ?_⟩
        · rw [oldText_keep, List.takeWhile_cons_of_pos taken, first]
        · rw [newText_keep, List.takeWhile_cons_of_pos taken, second]
    | gap old new =>
      obtain ⟨fits, _⟩ := harmless.gap
      have both (first : old = [] → (oldText parts).takeWhile p = [])
          (second : new = [] → (newText parts).takeWhile p = []) :
          ∃ word rest, .gap old new :: parts = word.map .keep ++ rest ∧
            (oldText (.gap old new :: parts)).takeWhile p = word ∧
            (newText (.gap old new :: parts)).takeWhile p = word :=
        ⟨[], _, rfl, takeWhile_blank_append hidden fits.blank first,
          takeWhile_blank_append hidden fits.blank' second⟩
      rcases fits.apart with ⟨filled, filled'⟩ | loose
      · exact both (fun empty => absurd empty filled) fun empty => absurd empty filled'
      · have here (c : Char) (rest : List Part) (same : parts = .keep c :: rest) : p c = false := by
          subst same
          exact stops [] c old new rest rfl rfl (by simpa using loose)
        cases loose with
        | start first => exact absurd first inside
        | finish => exact both (fun _ => rfl) fun _ => rfl
        | equals _ rest =>
          have stop := here '=' rest rfl
          exact both (fun _ => by simp [stop]) fun _ => by simp [stop]
        | @word _ c _ _ _ rest =>
          have stop := here c rest rfl
          exact both (fun _ => by simp [stop]) fun _ => by simp [stop]

/-- Both versions go on with the same visible character, or with nothing, after the blanks at their start. -/
theorem trimStart_aligned (gaps : BlankGaps parts) :
    ∃ front rest, parts = front ++ rest ∧ isBlankText (oldText front) = true ∧
      trimStart (oldText parts) = oldText rest ∧ trimStart (newText parts) = newText rest ∧
      (rest = [] ∨ ∃ c more, rest = .keep c :: more ∧ isBlank c = false) := by
  induction parts with
  | nil => exact ⟨[], [], rfl, rfl, rfl, rfl, .inl rfl⟩
  | cons part parts ih =>
    obtain ⟨front, rest, split, hidden, first, second, starts⟩ := ih gaps.tail
    cases part with
    | keep c =>
      cases blank : isBlank c with
      | false =>
        refine ⟨[], .keep c :: parts, rfl, rfl, ?_, ?_, .inr ⟨c, parts, rfl, blank⟩⟩
        · exact trimStart_cons blank _
        · exact trimStart_cons blank _
      | true =>
        refine ⟨.keep c :: front, rest, by rw [split]; rfl, ?_, ?_, ?_, starts⟩
        · simp [blank, hidden]
        · rw [oldText_keep, ← List.singleton_append, trimStart_append (by simp [blank]), first]
        · rw [newText_keep, ← List.singleton_append, trimStart_append (by simp [blank]), second]
    | gap old new =>
      obtain ⟨blank, blank'⟩ := gaps old new List.mem_cons_self
      refine ⟨.gap old new :: front, rest, by rw [split]; rfl, ?_, ?_, ?_, starts⟩
      · simp [blank, hidden]
      · rw [oldText_gap, trimStart_append blank, first]
      · rw [newText_gap, trimStart_append blank', second]

end Read

section Find

variable {α : Type} {pattern : Option Char → List Char → Option (α × Nat)}

theorem findFrom_skip (before : Option Char) (index : Nat) (front back : List Char) :
    findFrom pattern before front.length index (front ++ back) =
      findFrom pattern (front.getLast?.or before) 0 (index + front.length) back := by
  induction front generalizing before index with
  | nil => rfl
  | cons c front ih =>
    rw [List.cons_append, List.length_cons, findFrom, ih, List.getLast?_cons]
    congr 1
    · cases front.getLast? <;> rfl
    · omega

theorem findFrom_found {before : Option Char} {matched rest : List Char} {value : α}
    (recognised : pattern before (matched ++ rest) = some (value, matched.length)) (nonempty : matched ≠ [])
    (index : Nat) :
    findFrom pattern before 0 index (matched ++ rest) =
      ⟨⟨index, index + matched.length⟩, value⟩ ::
        findFrom pattern (matched.getLast?.or before) 0 (index + matched.length) rest := by
  obtain ⟨c, more, rfl⟩ := List.exists_cons_of_ne_nil nonempty
  rw [List.cons_append] at recognised
  rw [List.cons_append, findFrom, recognised]
  simp only [List.length_cons, List.cons.injEq]
  refine ⟨rfl, ?_⟩
  rw [findFrom_skip, List.getLast?_cons]
  congr 1
  · cases more.getLast? <;> rfl
  · omega

theorem findFrom_missed {before : Option Char} {c : Char} {rest : List Char}
    (missed : pattern before (c :: rest) = none) (index : Nat) :
    findFrom pattern before 0 index (c :: rest) = findFrom pattern (some c) 0 (index + 1) rest := by
  rw [findFrom, missed]

theorem findFrom_blank (quiet : ∀ before c rest, isBlank c = true → pattern before (c :: rest) = none)
    {gap : List Char} (blank : isBlankText gap = true) (before : Option Char) (index : Nat) (rest : List Char) :
    findFrom pattern before 0 index (gap ++ rest) =
      findFrom pattern (gap.getLast?.or before) 0 (index + gap.length) rest := by
  induction gap generalizing before index with
  | nil => rfl
  | cons c gap ih =>
    rw [isBlankText_cons, Bool.and_eq_true] at blank
    rw [List.cons_append, findFrom_missed (quiet before c _ blank.1), ih blank.2, List.getLast?_cons,
      List.length_cons]
    congr 1
    · cases gap.getLast? <;> rfl
    · omega

/-- Either version of the parts is recognised where the other one is. -/
def Recognised (pattern : Option Char → List Char → Option (α × Nat)) (Related : List Part → α → α → Prop)
    (before before' : Option Char) (parts : List Part) : Prop :=
  pattern before (oldText parts) = none ∧ pattern before' (newText parts) = none ∨
    ∃ inner rest value value', parts = inner ++ rest ∧ oldText inner ≠ [] ∧ newText inner ≠ [] ∧
      pattern before (oldText parts) = some (value, (oldText inner).length) ∧
      pattern before' (newText parts) = some (value', (newText inner).length) ∧ Related inner value value'

/-- Two finds of the same parts. -/
def AlignedFinds (Related : List Part → α → α → Prop) (parts : List Part) (found found' : Found α) : Prop :=
  ∃ front inner rest, parts = front ++ (inner ++ rest) ∧ inner ≠ [] ∧
    found.span = ⟨(oldText front).length, (oldText front).length + (oldText inner).length⟩ ∧
    found'.span = ⟨(newText front).length, (newText front).length + (newText inner).length⟩ ∧
    Related inner found.value found'.value

/-- A search finds the same parts in both versions, if what it looks for starts with no blank and is
recognised in both. -/
theorem findAll_aligned {Related : List Part → α → α → Prop} {parts : List Part} (gaps : BlankGaps parts)
    (quiet : ∀ before c rest, isBlank c = true → pattern before (c :: rest) = none)
    (recognised : ∀ front c rest, parts = front ++ .keep c :: rest →
      Recognised pattern Related (oldText front).getLast? (newText front).getLast? (.keep c :: rest)) :
    List.Forall₂ (AlignedFinds Related parts) (findAll pattern (oldText parts))
      (findAll pattern (newText parts)) := by
  have search : ∀ size front rest, rest.length = size → parts = front ++ rest →
      List.Forall₂ (AlignedFinds Related parts)
        (findFrom pattern (oldText front).getLast? 0 (oldText front).length (oldText rest))
        (findFrom pattern (newText front).getLast? 0 (newText front).length (newText rest)) := by
    intro size
    -- on the number of parts that are left, since a find takes several at once
    induction size using Nat.strongRecOn with
    | _ size ih =>
      intro front rest length split
      match rest with
      | [] => exact .nil
      | .gap old new :: rest =>
        obtain ⟨blank, blank'⟩ := gaps old new (by simp [split])
        have later := ih rest.length (by simp [← length]) (front ++ [.gap old new]) rest rfl (by simp [split])
        rw [oldText_gap, newText_gap, findFrom_blank quiet blank, findFrom_blank quiet blank']
        simpa [List.getLast?_append] using later
      | .keep c :: rest =>
        rcases recognised front c rest split with ⟨missed, missed'⟩ |
          ⟨inner, later, value, value', same, filled, filled', found, found', related⟩
        · have later := ih rest.length (by simp [← length]) (front ++ [.keep c]) rest rfl (by simp [split])
          rw [oldText_keep] at missed ⊢
          rw [newText_keep] at missed' ⊢
          rw [findFrom_missed missed, findFrom_missed missed']
          simpa [List.getLast?_append] using later
        · have nonempty : inner ≠ [] := by
            rintro rfl
            exact filled rfl
          have shorter : later.length < size := by
            have positive := List.length_pos_iff.mpr nonempty
            have total := congrArg List.length same
            simp only [List.length_append] at total
            omega
          have further := ih later.length shorter (front ++ inner) later rfl (by rw [split, same]; simp)
          rw [same, oldText_append] at found
          rw [same, newText_append] at found'
          rw [same, oldText_append, newText_append, findFrom_found found filled, findFrom_found found' filled']
          refine .cons ⟨front, inner, later, by rw [split, same], nonempty, rfl, rfl, related⟩ ?_
          simpa [List.getLast?_append] using further
  exact search parts.length [] parts rfl rfl

end Find

end Dialect
