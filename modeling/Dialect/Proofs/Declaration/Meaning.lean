import Dialect.Proofs.Code.Search
import Dialect.Proofs.Declaration.Head

/-! The declarations of a text in two versions. They are the same, one by one, with the same quoted words as
far as no gap changes inside these, and with a value in both versions or in neither. -/
namespace Dialect

theorem quotedWord?_closed {word : List Char} (plain : '"' ∉ word) (before : Option Char) (rest : List Char) :
    quotedWord? before ('"' :: (word ++ '"' :: rest)) = some (word, word.length + 2) := by
  have taken : (word ++ '"' :: rest).takeWhile (· ≠ '"') = word := by
    rw [List.takeWhile_append_of_pos fun c member => by
      simpa using fun same : c = '"' => plain (same ▸ member)]
    simp
  simp only [quotedWord?, after?, if_true, Option.bind_eq_bind, Option.bind_some, taken, List.drop_left,
    Option.pure_def]

theorem quotedWord?_open {text : List Char} (plain : '"' ∉ text) (before : Option Char) :
    quotedWord? before ('"' :: text) = none := by
  have taken : text.takeWhile (· ≠ '"') = text := by
    rw [← List.append_nil text, List.takeWhile_append_of_pos fun c member => by
      simpa using fun same : c = '"' => plain (same ▸ member)]
    simp
  simp only [quotedWord?, after?, if_true, Option.bind_eq_bind, Option.bind_some, taken, List.drop_length,
    Option.bind_none]

theorem quotedWord?_ne {c : Char} (other : c ≠ '"') (before : Option Char) (rest : List Char) :
    quotedWord? before (c :: rest) = none := by
  simp [quotedWord?, after?, Ne.symm other]

/-- The parts of a quoted word, with what each version has between the quotation marks. -/
def Quotes (inner : List Part) (value value' : List Char) : Prop :=
  ∃ word, inner = .keep '"' :: (word ++ [.keep '"']) ∧ value = oldText word ∧ value' = newText word

section Quoted

variable {parts : List Part}

theorem not_mem_texts {c : Char} (gaps : BlankGaps parts) (visible : isBlank c = false)
    (absent : .keep c ∉ parts) : c ∉ oldText parts ∧ c ∉ newText parts := by
  constructor
  · intro member
    obtain ⟨part, there, own⟩ := List.mem_flatMap.mp member
    cases part with
    | keep d => exact absent (List.mem_singleton.mp own ▸ there)
    | gap old new => exact not_mem_of_isBlankText visible (gaps old new there).1 own
  · intro member
    obtain ⟨part, there, own⟩ := List.mem_flatMap.mp member
    cases part with
    | keep d => exact absent (List.mem_singleton.mp own ▸ there)
    | gap old new => exact not_mem_of_isBlankText visible (gaps old new there).2 own

theorem quotedWord?_recognised {c : Char} (gaps : BlankGaps parts) (before before' : Option Char) :
    Recognised quotedWord? Quotes before before' (.keep c :: parts) := by
  by_cases quote : c = '"'
  · subst quote
    by_cases closed : .keep '"' ∈ parts
    · obtain ⟨word, rest, rfl, absent⟩ := List.eq_append_cons_of_mem closed
      obtain ⟨plain, plain'⟩ := not_mem_texts gaps.of_append.1 rfl absent
      refine .inr ⟨.keep '"' :: (word ++ [.keep '"']), rest, oldText word, newText word, by simp, by simp,
        by simp, ?_, ?_, word, rfl, rfl, rfl⟩
      · rw [oldText_keep, oldText_append, oldText_keep, quotedWord?_closed plain]
        simp
      · rw [newText_keep, newText_append, newText_keep, quotedWord?_closed plain']
        simp
    · obtain ⟨plain, plain'⟩ := not_mem_texts gaps rfl closed
      exact .inl ⟨quotedWord?_open plain before, quotedWord?_open plain' before'⟩
  · exact .inl ⟨quotedWord?_ne quote before _, quotedWord?_ne quote before' _⟩

theorem quotedWords_aligned (gaps : BlankGaps parts) :
    List.Forall₂ (AlignedFinds Quotes parts) (findAll quotedWord? (oldText parts))
      (findAll quotedWord? (newText parts)) := by
  refine findAll_aligned gaps (fun before c rest blank => ?_) fun front c rest split => ?_
  · exact quotedWord?_ne (ne_of_isBlank blank rfl) before rest
  · rw [split] at gaps
    exact quotedWord?_recognised gaps.of_append.2.tail _ _

end Quoted

theorem slice_quotedWord {text : List Char} {word : Found (List Char)} (member : word ∈ findAll quotedWord? text) :
    ∃ front rest, text = front ++ ('"' :: (word.value ++ ['"']) ++ rest) ∧
      word.span = ⟨front.length, front.length + (word.value.length + 2)⟩ := by
  have words := quotedWords_aligned (harmless_keeps [] text).blankGaps
  rw [oldText_keeps, newText_keeps, List.forall₂_same] at words
  obtain ⟨front, _, rest, split, _, span, _, inner, rfl, value, _⟩ := words word member
  have whole := congrArg oldText split
  simp only [oldText_keeps, oldText_append, oldText_keep, oldText_nil, ← value] at whole
  refine ⟨oldText front, oldText rest, by simpa using whole, ?_⟩
  simpa [← value] using span

namespace Declaration

/-- Two declarations that say the same. -/
structure SameMeaning (a b : Declaration) : Prop where
  name : a.name = b.name
  type : a.type = b.type
  options : a.options = b.options
  value : a.value.isSome = b.value.isSome

theorem SameMeaning.trans {a b c : Declaration} (first : SameMeaning a b) (second : SameMeaning b c) :
    SameMeaning a c :=
  ⟨first.name.trans second.name, first.type.trans second.type, first.options.trans second.options,
    first.value.trans second.value⟩

theorem forall₂_sameMeaning_trans {found found' found'' : List Declaration}
    (former : List.Forall₂ SameMeaning found found') (latter : List.Forall₂ SameMeaning found' found'') :
    List.Forall₂ SameMeaning found found'' := by
  induction former generalizing found'' with
  | nil => exact latter
  | cons first _ ih =>
    cases latter with
    | cons second others => exact .cons (first.trans second) (ih others)

theorem map_options_eq {found found' : List Declaration} (same : List.Forall₂ SameMeaning found found') :
    found.map (·.options) = found'.map (·.options) := by
  rw [← List.forall₂_eq_eq_eq, List.forall₂_map_left_iff, List.forall₂_map_right_iff]
  exact same.imp fun _ _ same => same.options

/-- The declaration of a head whose `=` stands `gap` characters after it. -/
def complete (text : List Char) (found : Found Head) (gap : Nat) : Declaration :=
  let equals := found.span.stop + gap
  ⟨found.value.name, .ofName found.value.typeName,
    (findAll quotedWord? (Span.slice ⟨found.span.stop, equals⟩ text)).map (·.value), found.span, equals,
    (topLevel? .terminator (text.drop (equals + 1))).bind fun length =>
      trimSpan? text ⟨equals + 1, equals + 1 + length⟩⟩

theorem ofHead?_eq (text : List Char) (found : Found Head) :
    ofHead? text found =
      if isCommented (text.take found.span.start) then none
      else (topLevel? .equals (text.drop found.span.stop)).map (complete text found) := by
  simp only [ofHead?, Option.bind_eq_bind, Option.pure_def]
  split
  · rfl
  · cases topLevel? .equals (text.drop found.span.stop) <;> rfl

end Declaration

/-- What follows a head makes a declaration of it. -/
theorem exists_complete {text : List Char} {d : Declaration} (member : d ∈ findDeclarations text) :
    ∃ found gap, d = Declaration.complete text found gap := by
  obtain ⟨found, _, completed⟩ := List.mem_filterMap.mp member
  rw [Declaration.ofHead?_eq] at completed
  split at completed
  · cases completed
  · obtain ⟨gap, _, same⟩ := Option.map_eq_some_iff.mp completed
    exact ⟨found, gap, same.symm⟩

theorem options_of_mem_findDeclarations {text : List Char} {d : Declaration} (member : d ∈ findDeclarations text) :
    d.options = (findAll quotedWord? (d.optionSpan.slice text)).map (·.value) := by
  obtain ⟨found, gap, rfl⟩ := exists_complete member
  rfl

theorem value_of_mem_findDeclarations {text : List Char} {d : Declaration} (member : d ∈ findDeclarations text) :
    d.value = (topLevel? .terminator (text.drop (d.equals + 1))).bind fun length =>
      trimSpan? text ⟨d.equals + 1, d.equals + 1 + length⟩ := by
  obtain ⟨found, gap, rfl⟩ := exists_complete member
  rfl

/-- Where a quoted word of a declaration stands in its document. -/
theorem slice_option {text : List Char} {d : Declaration} {word : Found (List Char)} (found : d ∈ findDeclarations text)
    (member : word ∈ findAll quotedWord? (d.optionSpan.slice text)) :
    Span.slice ⟨d.head.stop + word.span.start, d.head.stop + word.span.stop⟩ text = '"' :: (word.value ++ ['"']) ∧
      d.head.stop + word.span.stop ≤ d.equals := by
  have placed := placed_of_mem_findDeclarations found
  obtain ⟨front, rest, split, span⟩ := slice_quotedWord member
  have stretch := Span.slice_append_drop d.optionSpan text placed.before
  have length := @Span.length_slice d.optionSpan text (Nat.le_of_lt placed.inside)
  rw [split] at stretch length
  have behind : text.drop (d.head.stop + front.length) =
      ('"' :: (word.value ++ ['"'])) ++ (rest ++ text.drop d.equals) := by
    rw [← List.drop_drop, show text.drop d.head.stop = _ from stretch.symm]
    simp [Declaration.optionSpan]
  constructor
  · rw [span]
    exact (Span.of_drop_eq behind (by simp; omega)).1
  · have order := placed.before
    simp [Declaration.optionSpan] at length
    simp only [span]
    omega

theorem trimSpan?_isSome (text : List Char) (span : Span) :
    (trimSpan? text span).isSome = !isBlankText (span.slice text) := by
  rw [trimSpan?]
  cases isBlankText (span.slice text) <;> rfl

theorem inside_of_trimSpan? {text : List Char} {span trimmed : Span} (found : trimSpan? text span = some trimmed) :
    trimmed.start < trimmed.stop ∧ trimmed.stop ≤ text.length := by
  rw [trimSpan?] at found
  split at found
  · cases found
  · next visible =>
    obtain ⟨filled, short⟩ := length_trim (Bool.eq_false_iff.mpr visible)
    obtain rfl := Option.some.inj found
    have length : (span.slice text).length = min (span.stop - span.start) (text.length - span.start) := by
      rw [Span.slice, List.length_take, List.length_drop]
    simp only
    omega

/-- A value is a stretch of its document that is not empty. -/
theorem inside_of_value {text : List Char} {d : Declaration} {span : Span} (member : d ∈ findDeclarations text)
    (value : d.value = some span) : span.start < span.stop ∧ span.stop ≤ text.length := by
  rw [value_of_mem_findDeclarations member] at value
  obtain ⟨length, _, trimmed⟩ := Option.bind_eq_some_iff.mp value
  exact inside_of_trimSpan? trimmed

section Declarations

variable {parts : List Part}

theorem heads_aligned (harmless : Harmless [] parts) :
    List.Forall₂ (AlignedFinds (fun _ head head' => head = head') parts) (findAll head? (oldText parts))
      (findAll head? (newText parts)) := by
  refine findAll_aligned harmless.blankGaps (fun before c rest blank => ?_) fun front c rest split => ?_
  · rw [head?_eq, headWith?_ne (ne_of_isBlank blank rfl)]
    simp
  · rw [split] at harmless
    exact head?_recognised harmless

/-- No gap changes inside a quoted word of the parts between `front` and `rest`. -/
def QuotesKept (front inner rest : List Part) : Prop :=
  ∀ word ∈ findAll quotedWord? (oldText inner), ∀ earlier old new later,
    front ++ (inner ++ rest) = earlier ++ .gap old new :: later →
    (oldText front).length + word.span.start ≤ (oldText earlier).length →
    (oldText earlier).length + old.length ≤ (oldText front).length + word.span.stop → old = new

theorem options_aligned {front inner rest : List Part} (gaps : BlankGaps inner)
    (kept : QuotesKept front inner rest) :
    (findAll quotedWord? (oldText inner)).map (·.value) = (findAll quotedWord? (newText inner)).map (·.value) := by
  rw [← List.forall₂_eq_eq_eq, List.forall₂_map_left_iff, List.forall₂_map_right_iff]
  have words := (List.forall₂_and_left _ _).mpr ⟨fun word member => member, quotedWords_aligned gaps⟩
  refine words.imp ?_
  rintro word word' ⟨member, before, quoted, after, rfl, _, span, _, text, rfl, value, value'⟩
  rw [value, value']
  refine texts_eq_of_unchanged fun old new inside => ?_
  obtain ⟨earlier, later, rfl⟩ := List.append_of_mem inside
  refine kept word member (front ++ before ++ .keep '"' :: earlier) old new
    (later ++ .keep '"' :: (after ++ rest)) (by simp) ?_ ?_
  · simp [span]
  · simp [span]
    omega

/-- Both versions have a value or neither has. -/
theorem value_aligned {front rest : List Part} (harmless : Harmless [] (front ++ rest))
    (breaks : KeepsBreaks [] (front ++ rest)) :
    ((topLevel? .terminator (oldText rest)).bind fun length => trimSpan? (oldText (front ++ rest))
        ⟨(oldText front).length, (oldText front).length + length⟩).isSome =
      ((topLevel? .terminator (newText rest)).bind fun length => trimSpan? (newText (front ++ rest))
        ⟨(newText front).length, (newText front).length + length⟩).isSome := by
  have search : Searching .terminator ([] ++ oldText front) rest .code .code 0 :=
    ⟨harmless.after, breaks.after, .inr (.inl rfl), trivial, by simp, by simp⟩
  rcases search.samePlace 0 0 with ⟨none, none'⟩ | ⟨value, c, later, rfl, place, place', _⟩
  · rw [topLevel?_eq, topLevel?_eq, none, none']
    rfl
  · rw [topLevel?_eq, topLevel?_eq, place, place']
    simp only [Nat.zero_add, Option.bind_some, trimSpan?_isSome, oldText_append, newText_append, Span.slice_append]
    rw [isBlankText_aligned harmless.blankGaps.of_append.2.of_append.1]

/-- What a head is completed to means the same in both versions. -/
theorem ofHead?_aligned {front inner rest : List Part} (harmless : Harmless [] (front ++ (inner ++ rest)))
    (breaks : KeepsBreaks [] (front ++ (inner ++ rest))) (filled : inner ≠ []) {found found' : Found Head}
    (letter : (oldText inner).getLast?.any isAsciiLetter = true)
    (span : found.span = ⟨(oldText front).length, (oldText front).length + (oldText inner).length⟩)
    (span' : found'.span = ⟨(newText front).length, (newText front).length + (newText inner).length⟩)
    (value : found.value = found'.value)
    (kept : ∀ options later, rest = options ++ later →
      Declaration.ofHead? (oldText (front ++ (inner ++ rest))) found =
        some (.complete (oldText (front ++ (inner ++ rest))) found (oldText options).length) →
      QuotesKept (front ++ inner) options later) :
    Option.Rel Declaration.SameMeaning
      (Declaration.ofHead? (oldText (front ++ (inner ++ rest))) found)
      (Declaration.ofHead? (newText (front ++ (inner ++ rest))) found') := by
  have commented := isCommented_aligned harmless.blankGaps breaks (by simp [filled])
  -- the search for the `=` starts after a letter, so no sign before it makes a pair with a later one
  have even : signsBefore ([] ++ oldText (front ++ inner)) % 2 = 0 := by
    obtain ⟨c, last, letter⟩ := (Option.any_eq_true _ _).mp letter
    rw [List.nil_append, oldText_append, ← List.dropLast_append_getLast? c last, ← List.append_assoc,
      signsBefore_concat, if_neg]
    rintro rfl
    cases letter
  have behind : Harmless [] ((front ++ inner) ++ rest) ∧ KeepsBreaks [] ((front ++ inner) ++ rest) := by
    rw [List.append_assoc]
    exact ⟨harmless, breaks⟩
  have search : Searching .equals ([] ++ oldText (front ++ inner)) rest .code .code 0 :=
    ⟨behind.1.after, behind.2.after, .inr (.inl rfl), trivial, by simp, fun _ _ _ => even⟩
  rw [Declaration.ofHead?_eq] at kept
  rw [Declaration.ofHead?_eq, Declaration.ofHead?_eq]
  have start : (oldText (front ++ (inner ++ rest))).take found.span.start = oldText front := by simp [span]
  have start' : (newText (front ++ (inner ++ rest))).take found'.span.start = newText front := by simp [span']
  have stop : (oldText (front ++ (inner ++ rest))).drop found.span.stop = oldText rest := by
    rw [span, ← List.append_assoc, oldText_append, oldText_append, ← List.length_append, List.drop_left]
  have stop' : (newText (front ++ (inner ++ rest))).drop found'.span.stop = newText rest := by
    rw [span', ← List.append_assoc, newText_append, newText_append, ← List.length_append, List.drop_left]
  rw [start, stop] at kept
  rw [start, start', stop, stop', ← commented]
  by_cases hidden : isCommented (oldText front) = true
  · rw [if_pos hidden, if_pos hidden]
    exact .none
  rw [if_neg hidden] at kept
  rw [if_neg hidden, if_neg hidden]
  rcases search.samePlace 0 0 with ⟨none, none'⟩ | ⟨options, c, later, rfl, place, place', _⟩
  · rw [topLevel?_eq, topLevel?_eq, none, none']
    exact .none
  rw [topLevel?_eq, place, Nat.zero_add] at kept
  rw [topLevel?_eq, topLevel?_eq, place, place', Nat.zero_add, Nat.zero_add]
  refine .some ⟨?_, ?_, ?_, ?_⟩
  · simp only [Declaration.complete, value]
  · simp only [Declaration.complete, value]
  · have inside : Span.slice ⟨found.span.stop, found.span.stop + (oldText options).length⟩
        (oldText (front ++ (inner ++ (options ++ .keep c :: later)))) = oldText options := by
      simpa [span] using Span.slice_append (oldText front ++ oldText inner) (oldText options) (c :: oldText later)
    have inside' : Span.slice ⟨found'.span.stop, found'.span.stop + (newText options).length⟩
        (newText (front ++ (inner ++ (options ++ .keep c :: later)))) = newText options := by
      simpa [span'] using Span.slice_append (newText front ++ newText inner) (newText options) (c :: newText later)
    simp only [Declaration.complete, inside, inside']
    exact options_aligned behind.1.blankGaps.of_append.2.of_append.1 (kept options (.keep c :: later) rfl rfl)
  · have whole : front ++ (inner ++ (options ++ .keep c :: later)) =
        (front ++ inner ++ options ++ [.keep c]) ++ later := by simp
    have place : found.span.stop + (oldText options).length + 1 =
        (oldText (front ++ inner ++ options ++ [.keep c])).length := by simp [span]; omega
    have place' : found'.span.stop + (newText options).length + 1 =
        (newText (front ++ inner ++ options ++ [.keep c])).length := by simp [span']; omega
    rw [whole] at harmless breaks ⊢
    simp only [Declaration.complete, place, place']
    rw [oldText_append _ later, newText_append _ later, List.drop_left, List.drop_left, ← oldText_append,
      ← newText_append]
    exact value_aligned harmless breaks

theorem findDeclarations_aligned (harmless : Harmless [] parts) (breaks : KeepsBreaks [] parts)
    (kept : ∀ d ∈ findDeclarations (oldText parts),
      ∀ word ∈ findAll quotedWord? (d.optionSpan.slice (oldText parts)), ∀ front old new rest,
      parts = front ++ .gap old new :: rest → d.head.stop + word.span.start ≤ (oldText front).length →
      (oldText front).length + old.length ≤ d.head.stop + word.span.stop → old = new) :
    List.Forall₂ Declaration.SameMeaning (findDeclarations (oldText parts))
      (findDeclarations (newText parts)) := by
  have heads := (List.forall₂_and_left _ _).mpr ⟨fun found member => member, heads_aligned harmless⟩
  refine List.rel_filterMap ?_ heads
  rintro found found' ⟨member, front, inner, rest, rfl, filled, span, span', value⟩
  obtain ⟨_, _, recognised⟩ := mem_findAll member
  have behind : (oldText (front ++ (inner ++ rest))).drop found.span.start = oldText inner ++ oldText rest := by
    simp [span]
  have letter : (oldText inner).getLast?.any isAsciiLetter = true := by
    obtain ⟨lead, c, later, text, taken, letter, _⟩ := head?_eq_some recognised
    have length : found.span.stop - found.span.start = (oldText inner).length := by simp [span]
    rw [behind, List.append_cons] at text
    have same := (List.append_inj text (by simp; omega)).1
    rw [same, List.getLast?_concat]
    exact letter
  refine ofHead?_aligned harmless breaks filled letter span span' value fun options later split completed => ?_
  subst split
  intro word among earlier old new further place low high
  have declared := List.mem_filterMap.mpr ⟨found, member, completed⟩
  have inside : Span.slice ⟨found.span.stop, found.span.stop + (oldText options).length⟩
      (oldText (front ++ (inner ++ (options ++ later)))) = oldText options := by
    simpa [span] using Span.slice_append (oldText front ++ oldText inner) (oldText options) (oldText later)
  have stop : found.span.stop = (oldText (front ++ inner)).length := by simp [span]
  refine kept _ declared word ?_ earlier old new further (by simpa using place) ?_ ?_
  · show word ∈ findAll quotedWord? (Span.slice ⟨found.span.stop, found.span.stop + _⟩ _)
    rwa [inside]
  · exact stop ▸ low
  · exact stop ▸ high

end Declarations

end Dialect
