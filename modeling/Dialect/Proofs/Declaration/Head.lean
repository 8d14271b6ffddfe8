import Dialect.Proofs.Text.Alignment
import Dialect.Proofs.Mask.Construct

/-! The heads of declarations in two versions of a text. A head is read piece by piece, and each piece is
the same in both versions. -/
namespace Dialect

/-- A reader takes the same parts off both versions, with the same result, or fails on both. -/
def ReadAlike {α : Type} (read : List Char → Option (α × List Char)) (parts : List Part) : Prop :=
  read (oldText parts) = none ∧ read (newText parts) = none ∨
    ∃ inner rest value, parts = inner ++ rest ∧ read (oldText parts) = some (value, oldText rest) ∧
      read (newText parts) = some (value, newText rest)

theorem ReadAlike.bind {α β : Type} {read : List Char → Option (α × List Char)}
    {further : α × List Char → Option (β × List Char)} {parts : List Part} (first : ReadAlike read parts)
    (second : ∀ inner rest value, parts = inner ++ rest → read (oldText parts) = some (value, oldText rest) →
      ReadAlike (fun text => further (value, text)) rest) :
    ReadAlike (fun text => (read text).bind further) parts := by
  rcases first with ⟨none, none'⟩ | ⟨inner, rest, value, split, some, some'⟩
  · exact .inl ⟨by simp [none], by simp [none']⟩
  · rcases second inner rest value split some with ⟨none, none'⟩ | ⟨more, rest', value', split', last, last'⟩
    · exact .inl ⟨by simp [some, none], by simp [some', none']⟩
    · refine .inr ⟨inner ++ more, rest', value', by rw [split, split', List.append_assoc], ?_, ?_⟩
      · simp [some, last]
      · simp [some', last']

def keyword? (text : List Char) : Option (Unit × List Char) :=
  (after? declareKeyword text).map fun rest => ((), rest)

/-- The name after some blanks. -/
def name? (text : List Char) : Option (List Char × List Char) :=
  if text.head?.any isBlank then
    (leadingWord? (trimStart text)).map fun name => (name, (trimStart text).drop name.length)
  else none

def colon? (name text : List Char) : Option (List Char × List Char) :=
  (after? [':'] (trimStart text)).map fun rest => (name, trimStart rest)

def type? (name text : List Char) : Option (Head × List Char) :=
  let typeName := text.takeWhile isAsciiLetter
  let rest := text.drop typeName.length
  if typeName.isEmpty || !endsWord rest then none else some (⟨name, typeName⟩, rest)

/-- A head with what follows it. -/
def headWith? (text : List Char) : Option (Head × List Char) :=
  (keyword? text).bind fun (_, rest) => (name? rest).bind fun (name, rest) =>
    (colon? name rest).bind fun (name, rest) => type? name rest

theorem head?_eq (before : Option Char) (here : List Char) :
    head? before here =
      if before.any isWordChar then none
      else (headWith? here).map fun (head, rest) => (head, here.length - rest.length) := by
  simp only [head?, declaredName?, headWith?, keyword?, name?, colon?, type?, Option.bind_eq_bind,
    Option.pure_def]
  split
  · rfl
  cases after? declareKeyword here with
  | none => rfl
  | some rest =>
    cases spaced : rest.head?.any isBlank with
    | false => simp [spaced]
    | true =>
      cases named : leadingWord? (trimStart rest) with
      | none => simp [spaced, named]
      | some name =>
        cases colon : after? [':'] (trimStart ((trimStart rest).drop name.length)) with
        | none => simp [spaced, named, colon]
        | some tail =>
          simp only [spaced, named, colon, Bool.not_true, Bool.false_eq_true, if_false, if_true,
            Option.bind_some, Option.map_some]
          split <;> simp

section Pieces

variable {before : List Char} {parts : List Part}

theorem isWordChar_of_isAsciiLetter {c : Char} (letter : isAsciiLetter c = true) : isWordChar c = true :=
  isWordChar_of_isIdentStart (by simp [isIdentStart, letter])

theorem isAsciiLetter_eq_false_of_isBlank {c : Char} (blank : isBlank c = true) : isAsciiLetter c = false := by
  have ident := isIdentChar_eq_false_of_isBlank blank
  simp only [isIdentChar, Bool.or_eq_false_iff] at ident
  exact ident.1.1.1.1

theorem isWordChar_eq_false_of_isBlank {c : Char} (blank : isBlank c = true) : isWordChar c = false := by
  have letter := isAsciiLetter_eq_false_of_isBlank blank
  have ident := isIdentChar_eq_false_of_isBlank blank
  simp only [isIdentChar, Bool.or_eq_false_iff] at ident
  rw [isWordChar]
  split
  · simp [ident]
  · next wide =>
    simp only [isBlank, Bool.or_eq_true, Bool.and_eq_true, decide_eq_true_eq, beq_iff_eq] at blank
    let wideBlanks := [0x85, 0xA0, 0x1680, 0x2000, 0x2001, 0x2002, 0x2003, 0x2004, 0x2005, 0x2006, 0x2007,
      0x2008, 0x2009, 0x200A, 0x2028, 0x2029, 0x202F, 0x205F, 0x3000]
    have known : c.toNat ∈ wideBlanks := by
      simp only [wideBlanks, List.mem_cons, List.not_mem_nil, or_false]
      omega
    have table : ∀ n ∈ wideBlanks, wordRanges.any (fun range => range.1 ≤ n && n ≤ range.2) = false := by
      decide +kernel
    exact table c.toNat known

theorem after?_letters_aligned {word : List Char} (letters : word.all isAsciiLetter = true) (inside : before ≠ [])
    (harmless : Harmless before parts) :
    after? word (oldText parts) = none ∧ after? word (newText parts) = none ∨
      ∃ rest, parts = word.map .keep ++ rest := by
  induction word generalizing before parts with
  | nil => exact .inr ⟨parts, rfl⟩
  | cons w word ih =>
    rw [List.all_cons, Bool.and_eq_true] at letters
    have visible : isBlank w = false := by
      refine Bool.eq_false_iff.mpr fun blank => ?_
      simp [isAsciiLetter_eq_false_of_isBlank blank] at letters
    have stops (text : List Char) (other : text.head? ≠ some w) : after? (w :: word) text = none := by
      cases text with
      | nil => rfl
      | cons c text => rw [after?, if_neg (by simpa using Ne.symm other)]
    cases parts with
    | nil => exact .inl ⟨rfl, rfl⟩
    | cons part parts =>
      cases part with
      | keep c =>
        by_cases same : w = c
        · subst same
          rcases ih letters.2 (by simp) harmless.tail with ⟨none, none'⟩ | ⟨rest, rfl⟩
          · exact .inl ⟨by simp [after?, none], by simp [after?, none']⟩
          · exact .inr ⟨rest, rfl⟩
        · exact .inl ⟨by simp [after?, same], by simp [after?, same]⟩
      | gap old new =>
        obtain ⟨fits, _⟩ := harmless.gap
        have other := @Fits.head?_ne _ _ _ _ fits w visible <| by
          rcases fits.inside inside with filled | final | ⟨c, more, same, _, ends⟩
          · exact .inl filled
          · exact .inr (.inl final)
          · refine .inr (.inr ⟨c, more, same, ?_⟩)
            rintro rfl
            simp [isWordChar_of_isAsciiLetter letters.1] at ends
        exact .inl ⟨stops _ other.1, stops _ other.2⟩

theorem keyword?_aligned (harmless : Harmless before (.keep 'd' :: parts)) :
    ReadAlike keyword? (.keep 'd' :: parts) := by
  have spelled : declareKeyword = 'd' :: ['e', 'c', 'l', 'a', 'r', 'e'] := rfl
  rcases @after?_letters_aligned _ parts ['e', 'c', 'l', 'a', 'r', 'e'] rfl (by simp) harmless.tail with
    ⟨none, none'⟩ | ⟨rest, rfl⟩
  · refine .inl ⟨?_, ?_⟩
    · simp [keyword?, spelled, after?, none]
    · simp [keyword?, spelled, after?, none']
  · refine .inr ⟨declareKeyword.map .keep, rest, (), rfl, ?_, ?_⟩
    · simp [keyword?, spelled, after?]
    · simp [keyword?, spelled, after?]

/-- A name that stands after the keyword is not the type of another declaration. -/
theorem typeEnds_eq_false {gap word : List Char} (blank : isBlankText gap = true) (filled : gap ≠ [])
    (ident : word.all isIdentChar = true) (front : List Char) :
    typeEnds (front ++ 'e' :: (gap ++ word)) = false := by
  have text : (front ++ 'e' :: (gap ++ word)).reverse = word.reverse ++ (gap.reverse ++ 'e' :: front.reverse) := by
    simp
  have blank : isBlankText gap.reverse = true := by simpa [isBlankText] using blank
  have filled : gap.reverse ≠ [] := by simpa using filled
  have ident : word.reverse.all isIdentChar = true := by simpa using ident
  rw [typeEnds, text]
  generalize word.reverse = word at ident
  generalize gap.reverse = gap at blank filled
  induction word with
  | nil =>
    obtain ⟨c, gap, rfl⟩ := List.exists_cons_of_ne_nil filled
    have first : isBlank c = true := isBlankText_iff.mp blank c List.mem_cons_self
    rw [List.nil_append, List.cons_append, List.dropWhile_cons_of_neg (by
      simp [isAsciiLetter_eq_false_of_isBlank first]), ← List.cons_append,
      List.dropWhile_append_of_pos (isBlankText_iff.mp blank)]
    rfl
  | cons c word ih =>
    rw [List.all_cons, Bool.and_eq_true] at ident
    rw [List.cons_append]
    by_cases letter : isAsciiLetter c = true
    · rw [List.dropWhile_cons_of_pos letter]
      exact ih ident.2
    · have visible := isBlank_eq_false_of_isIdentChar ident.1
      rw [List.dropWhile_cons_of_neg letter, List.dropWhile_cons_of_neg (by simp [visible])]
      refine beq_eq_false_iff_ne.mpr fun colon => ?_
      rw [Option.some.inj colon] at ident
      exact absurd ident.1 (by decide)

/-- Before a word, blanks stand in both versions or in neither. -/
theorem head?_isBlank_aligned (harmless : Harmless before parts) (inside : before ≠ []) {front more : List Part}
    {c : Char} (split : parts = front ++ .keep c :: more) (trimmed : trimStart (oldText parts) = c :: oldText more)
    (word : isWordChar c = true) :
    (oldText parts).head?.any isBlank = (newText parts).head?.any isBlank := by
  have blank_head {gap rest : List Char} (blank : isBlankText gap = true) (filled : gap ≠ []) :
      (gap ++ rest).head?.any isBlank = true := by
    obtain ⟨d, gap, rfl⟩ := List.exists_cons_of_ne_nil filled
    simpa using isBlankText_iff.mp blank d List.mem_cons_self
  match parts with
  | [] => rfl
  | .keep d :: parts => simp
  | .gap old new :: parts =>
    obtain ⟨fits, _⟩ := harmless.gap
    rcases fits.inside inside with ⟨filled, filled'⟩ | rfl | ⟨d, rest, rfl, visible, ends⟩
    · rw [oldText_gap, newText_gap, blank_head fits.blank filled, blank_head fits.blank' filled']
    · have member : .keep c ∈ [Part.gap old new] := by simp [split]
      simp at member
    · rw [oldText_gap, trimStart_append fits.blank, oldText_keep, trimStart_cons visible] at trimmed
      rw [(List.cons.inj trimmed).1, word] at ends
      cases ends

theorem name?_aligned (harmless : Harmless before parts) (last : before.getLast? = some 'e') :
    ReadAlike name? parts := by
  have inside : before ≠ [] := by
    rintro rfl
    cases last
  obtain ⟨front, rest, split, blank, trimmed, trimmed', starts⟩ := trimStart_aligned harmless.blankGaps
  have fail (text : List Char) (unnamed : leadingWord? (trimStart text) = none) : name? text = none := by
    simp [name?, unnamed]
  rcases starts with rfl | ⟨c, more, rfl, visible⟩
  · exact .inl ⟨fail _ (by rw [trimmed]; rfl), fail _ (by rw [trimmed']; rfl)⟩
  cases start : isIdentStart c with
  | false =>
    refine .inl ⟨fail _ ?_, fail _ ?_⟩
    · simp [trimmed, leadingWord?, start]
    · simp [trimmed', leadingWord?, start]
  | true =>
    have spaced : (oldText parts).head?.any isBlank = (newText parts).head?.any isBlank :=
      head?_isBlank_aligned harmless inside split trimmed (isWordChar_of_isIdentStart start)
    cases blanks : (oldText parts).head?.any isBlank with
    | false => exact .inl ⟨by simp [name?, blanks], by simp [name?, ← spaced, blanks]⟩
    | true =>
      have filled : oldText front ≠ [] := by
        intro empty
        simp [split, empty, visible] at blanks
      have later : Harmless (before ++ oldText front) (.keep c :: more) := by
        rw [split] at harmless
        exact harmless.after
      obtain ⟨earlier, rfl⟩ : ∃ earlier, before = earlier ++ ['e'] :=
        ⟨before.dropLast, (List.dropLast_append_getLast? 'e' last).symm⟩
      obtain ⟨word, rest, same, taken, taken'⟩ :=
        takeWhile_aligned (p := isIdentChar) (fun _ => isIdentChar_eq_false_of_isBlank) (by simp) later <| by
          intro word d old new rest _ ident loose
          have untyped := typeEnds_eq_false blank filled ident earlier
          cases loose with
          | start first => simp at first
          | equals => decide
          | word _ _ _ typed =>
            refine Bool.eq_false_iff.mpr fun goes => ?_
            have typed := typed goes
            simp [untyped] at typed
      have text : trimStart (oldText parts) = word ++ oldText rest := by
        rw [trimmed, same, oldText_append, oldText_keeps]
      have text' : trimStart (newText parts) = word ++ newText rest := by
        rw [trimmed', same, newText_append, newText_keeps]
      refine .inr ⟨front ++ word.map .keep, rest, word, by rw [split, same, List.append_assoc], ?_, ?_⟩
      · have named : leadingWord? (trimStart (oldText parts)) = some word := by
          rw [trimmed, leadingWord?, taken, if_pos (by simp [start])]
        rw [name?, if_pos blanks, named, Option.map_some, text, List.drop_left]
      · have named : leadingWord? (trimStart (newText parts)) = some word := by
          rw [trimmed', leadingWord?, taken', if_pos (by simp [start])]
        rw [name?, if_pos (spaced ▸ blanks), named, Option.map_some, text', List.drop_left]

theorem colon?_aligned (gaps : BlankGaps parts) (name : List Char) : ReadAlike (colon? name) parts := by
  obtain ⟨front, rest, split, _, trimmed, trimmed', starts⟩ := trimStart_aligned gaps
  rcases starts with rfl | ⟨c, more, rfl, visible⟩
  · exact .inl ⟨by simp [colon?, trimmed, after?], by simp [colon?, trimmed', after?]⟩
  · by_cases colon : ':' = c
    · subst colon
      have later : BlankGaps more := by
        rw [split] at gaps
        exact gaps.of_append.2.tail
      obtain ⟨front', rest, rfl, _, first, second, _⟩ := trimStart_aligned later
      refine .inr ⟨front ++ .keep ':' :: front', rest, name, by rw [split]; simp, ?_, ?_⟩
      · rw [colon?, trimmed, oldText_keep, after?, if_pos rfl, after?, Option.map_some, first]
      · rw [colon?, trimmed', newText_keep, after?, if_pos rfl, after?, Option.map_some, second]
    · exact .inl ⟨by simp [colon?, trimmed, after?, colon], by simp [colon?, trimmed', after?, colon]⟩

theorem endsWord_aligned (harmless : Harmless before parts) (inside : before ≠ []) :
    endsWord (oldText parts) = endsWord (newText parts) := by
  have ended {gap rest : List Char} (blank : isBlankText gap = true) (ends : gap = [] → endsWord rest = true) :
      endsWord (gap ++ rest) = true := by
    cases gap with
    | nil => exact ends rfl
    | cons d gap =>
      have first : isBlank d = true := isBlankText_iff.mp blank d List.mem_cons_self
      simp [endsWord, isWordChar_eq_false_of_isBlank first]
  cases parts with
  | nil => rfl
  | cons part parts =>
    cases part with
    | keep c => simp [endsWord]
    | gap old new =>
      obtain ⟨fits, _⟩ := harmless.gap
      rw [oldText_gap, newText_gap]
      rcases fits.inside inside with ⟨filled, filled'⟩ | rfl | ⟨c, more, rfl, _, ends⟩
      · rw [ended fits.blank fun empty => absurd empty filled, ended fits.blank' fun empty => absurd empty filled']
      · rw [ended fits.blank fun _ => rfl, ended fits.blank' fun _ => rfl]
      · rw [ended fits.blank fun _ => by simp [endsWord, ends], ended fits.blank' fun _ => by simp [endsWord, ends]]

theorem type?_aligned (harmless : Harmless before parts) (inside : before ≠ []) (name : List Char) :
    ReadAlike (type? name) parts := by
  obtain ⟨word, rest, split, taken, taken'⟩ :=
    takeWhile_aligned (p := isAsciiLetter) (fun _ => isAsciiLetter_eq_false_of_isBlank) inside harmless <| by
      intro word c old new rest _ _ loose
      refine Bool.eq_false_iff.mpr fun letter => ?_
      cases loose with
      | start first => simp [inside] at first
      | equals => cases letter
      | word _ _ ends => simp [isWordChar_of_isAsciiLetter letter] at ends
  have text : oldText parts = word ++ oldText rest := by rw [split, oldText_append, oldText_keeps]
  have text' : newText parts = word ++ newText rest := by rw [split, newText_append, newText_keeps]
  have ends : endsWord (oldText rest) = endsWord (newText rest) := by
    rw [split] at harmless
    exact endsWord_aligned harmless.after (by simp [inside])
  have read (rest' : List Char) (taken : (word ++ rest').takeWhile isAsciiLetter = word) :
      type? name (word ++ rest') =
        if word.isEmpty || !endsWord rest' then none else some (⟨name, word⟩, rest') := by
    simp only [type?, taken, List.drop_left]
  rw [text] at taken
  rw [text'] at taken'
  by_cases fails : (word.isEmpty || !endsWord (oldText rest)) = true
  · refine .inl ⟨?_, ?_⟩
    · rw [text, read _ taken, if_pos fails]
    · rw [text', read _ taken', ← ends, if_pos fails]
  · refine .inr ⟨word.map .keep, rest, ⟨name, word⟩, split, ?_, ?_⟩
    · rw [text, read _ taken, if_neg fails]
    · rw [text', read _ taken', ← ends, if_neg fails]

theorem headWith?_aligned (harmless : Harmless before (.keep 'd' :: parts)) :
    ReadAlike headWith? (.keep 'd' :: parts) := by
  refine (keyword?_aligned harmless).bind fun inner rest _ split read => ?_
  rw [split] at harmless
  have keyword : oldText inner = ['d', 'e', 'c', 'l', 'a', 'r', 'e'] := by
    obtain ⟨after, found, same⟩ := Option.map_eq_some_iff.mp read
    cases same
    rw [after?_eq_some_iff, split, oldText_append] at found
    exact List.append_cancel_right found
  have later := harmless.after
  have last : (before ++ oldText inner).getLast? = some 'e' := by simp [keyword]
  refine (name?_aligned later last).bind fun inner' rest' name split' _ => ?_
  rw [split'] at later
  have later := later.after
  refine (colon?_aligned later.blankGaps name).bind fun inner'' rest'' name split'' _ => ?_
  rw [split''] at later
  exact type?_aligned later.after (by simp [keyword]) name

end Pieces

theorem headWith?_ne {c : Char} (other : c ≠ 'd') (rest : List Char) : headWith? (c :: rest) = none := by
  have keyword : declareKeyword = 'd' :: ['e', 'c', 'l', 'a', 'r', 'e'] := rfl
  simp [headWith?, keyword?, keyword, after?, Ne.symm other]

theorem typeEnds_colon (front : List Char) {gap word : List Char} (blank : isBlankText gap = true)
    (letters : word.all isAsciiLetter = true) : typeEnds (front ++ ':' :: (gap ++ word)) = true := by
  have text : (front ++ ':' :: (gap ++ word)).reverse = word.reverse ++ (gap.reverse ++ ':' :: front.reverse) := by
    simp
  have blank : isBlankText gap.reverse = true := by simpa [isBlankText] using blank
  have letters : word.reverse.all isAsciiLetter = true := by simpa using letters
  rw [typeEnds, text, List.dropWhile_append_of_pos (List.all_eq_true.mp letters)]
  generalize gap.reverse = gap at blank
  cases gap with
  | nil => rfl
  | cons c gap =>
    have first := isAsciiLetter_eq_false_of_isBlank (isBlankText_iff.mp blank c List.mem_cons_self)
    rw [List.cons_append, List.dropWhile_cons_of_neg (by simp [first]), ← List.cons_append,
      List.dropWhile_append_of_pos (isBlankText_iff.mp blank)]
    rfl

/-- The type name of a head stands right after its colon. -/
theorem headWith?_typeEnds {here rest : List Char} {head : Head} (read : headWith? here = some (head, rest)) :
    ∃ taken, here = taken ++ rest ∧ ∀ front, typeEnds (front ++ taken) = true := by
  obtain ⟨⟨_, afterKeyword⟩, keyword, read⟩ := Option.bind_eq_some_iff.mp read
  obtain ⟨⟨name, afterName⟩, named, read⟩ := Option.bind_eq_some_iff.mp read
  obtain ⟨⟨_, afterColon⟩, colon, read⟩ := Option.bind_eq_some_iff.mp read
  obtain ⟨_, found, same⟩ := Option.map_eq_some_iff.mp keyword
  cases same
  have first := after?_eq_some_iff.mp found
  obtain ⟨lead, second⟩ : ∃ lead, afterKeyword = lead ++ afterName := by
    simp only [name?] at named
    split at named
    · obtain ⟨word, _, same⟩ := Option.map_eq_some_iff.mp named
      cases same
      exact ((List.drop_suffix _ _).trans (List.dropWhile_suffix _)).imp fun _ => Eq.symm
    · cases named
  obtain ⟨tail, found, same⟩ := Option.map_eq_some_iff.mp colon
  cases same
  have third := after?_eq_some_iff.mp found
  obtain ⟨gap, _, trimmed⟩ := exists_blank_append_trimStart afterName
  obtain ⟨gap', blank', trimmed'⟩ := exists_blank_append_trimStart tail
  simp only [type?] at read
  split at read
  · cases read
  cases read
  have fourth := takeWhile_append_drop isAsciiLetter (trimStart tail)
  have letters : ((trimStart tail).takeWhile isAsciiLetter).all isAsciiLetter = true := List.all_takeWhile
  refine ⟨declareKeyword ++ lead ++ gap ++ ':' :: (gap' ++ (trimStart tail).takeWhile isAsciiLetter), ?_, ?_⟩
  · simp only [List.append_assoc, List.cons_append]
    rw [fourth, trimmed', first, second, ← trimmed, third]
    rfl
  · intro front
    rw [← List.append_assoc]
    exact typeEnds_colon _ blank' letters

/-- A word starts in both versions or in neither. -/
theorem getLast?_isWordChar_aligned {front rest : List Part} {c : Char}
    (harmless : Harmless [] (front ++ .keep c :: rest)) (word : isWordChar c = true) :
    (oldText front).getLast?.any isWordChar = (newText front).getLast?.any isWordChar := by
  have blank_last {before gap : List Char} (blank : isBlankText gap = true)
      (ended : gap = [] → before.getLast?.any isWordChar = false) :
      (before ++ gap).getLast?.any isWordChar = false := by
    rcases List.eq_nil_or_concat gap with rfl | ⟨front, d, rfl⟩
    · rw [List.append_nil]
      exact ended rfl
    · rw [List.concat_eq_append] at blank ⊢
      have last : isBlank d = true := isBlankText_iff.mp blank d (by simp)
      rw [← List.append_assoc, List.getLast?_concat]
      exact isWordChar_eq_false_of_isBlank last
  rcases List.eq_nil_or_concat front with rfl | ⟨front, part, rfl⟩
  · rfl
  rw [List.concat_eq_append] at harmless ⊢
  cases part with
  | keep d => simp
  | gap old new =>
    rw [List.append_assoc] at harmless
    have fits := harmless front old new (.keep c :: rest) rfl
    simp only [oldText_append, newText_append, oldText_gap, newText_gap, oldText_nil, newText_nil, List.append_nil]
    rcases fits.apart with ⟨filled, filled'⟩ | loose
    · rw [blank_last fits.blank fun empty => absurd empty filled,
        blank_last fits.blank' fun empty => absurd empty filled']
    · cases loose with
      | start first =>
        have gaps := harmless.blankGaps.of_append.1
        have hidden : isBlankText (newText front) = true := by
          rw [← isBlankText_aligned gaps, show oldText front = [] from first]
          rfl
        have start := @blank_last [] (newText front) hidden fun _ => rfl
        rw [List.nil_append] at start
        rw [blank_last fits.blank fun _ => by rw [show oldText front = [] from first]; rfl,
          blank_last fits.blank' fun _ => start]
      | equals => cases word
      | word _ _ ends => simp [word] at ends

theorem head?_recognised {front rest : List Part} {c : Char} (harmless : Harmless [] (front ++ .keep c :: rest)) :
    Recognised head? (fun _ head head' => head = head') (oldText front).getLast? (newText front).getLast?
      (.keep c :: rest) := by
  rw [Recognised, head?_eq, head?_eq]
  by_cases first : c = 'd'
  · subst first
    rw [← getLast?_isWordChar_aligned harmless rfl]
    by_cases joined : (oldText front).getLast?.any isWordChar = true
    · exact .inl ⟨if_pos joined, if_pos joined⟩
    rw [if_neg joined, if_neg joined]
    rcases headWith?_aligned harmless.after with ⟨none, none'⟩ | ⟨inner, later, head, split, read, read'⟩
    · exact .inl ⟨by rw [none]; rfl, by rw [none']; rfl⟩
    · have taken := head?_eq none (oldText (.keep 'd' :: rest))
      rw [read, Option.any_none, if_neg (by decide), Option.map_some] at taken
      obtain ⟨lead, _, _, _, length, _⟩ := head?_eq_some taken
      match inner, split with
      | [], split =>
        rw [split, List.nil_append, Nat.sub_self] at length
        omega
      | part :: more, split =>
        rw [List.cons_append] at split
        obtain ⟨rfl, rfl⟩ := List.cons.inj split
        refine .inr ⟨.keep 'd' :: more, later, head, head, rfl, by simp, by simp, ?_, ?_, rfl⟩
        · rw [read, Option.map_some]
          simp only [oldText_keep, oldText_append, List.length_cons, List.length_append, Option.some.injEq,
            Prod.mk.injEq, true_and]
          omega
        · rw [read', Option.map_some]
          simp only [newText_keep, newText_append, List.length_cons, List.length_append, Option.some.injEq,
            Prod.mk.injEq, true_and]
          omega
  · rw [oldText_keep, newText_keep, headWith?_ne first, headWith?_ne first]
    simp

end Dialect
