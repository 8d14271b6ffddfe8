import Dialect.Proofs.Text.Blank
import Dialect.Proofs.Text.Search

/-! Texts that differ in their blanks only. Some words of the first are tokens, into which no blank may
be put; and where blanks keep two identifiers apart, some are left. -/
namespace Dialect

/-- What blanks may be put around: a token, or one character where no token starts. -/
def IsWord (tokens : List (List Char)) (word rest : List Char) : Prop :=
  word ∈ tokens ∨ ∃ c, word = [c] ∧ isBlank c = false ∧ ∀ token ∈ tokens, ¬token <+: c :: rest

/-- The second text arises from the first by inserting, deleting and changing blanks: never inside of a
token, and never all those between two characters of identifiers. `before` is the character that
stands before both texts. -/
inductive Respaced (tokens : List (List Char)) : Option Char → List Char → List Char → Prop where
  | done {gap gap' : List Char} (before : Option Char) (blank : isBlankText gap = true)
      (blank' : isBlankText gap' = true) : Respaced tokens before gap gap'
  | word {before : Option Char} {gap gap' word rest rest' : List Char} (blank : isBlankText gap = true)
      (blank' : isBlankText gap' = true) (isWord : IsWord tokens word rest)
      (apart : before.any isIdentChar = true → word.head?.any isIdentChar = true → gap ≠ [] → gap' ≠ [])
      (further : Respaced tokens word.getLast? rest rest') :
    Respaced tokens before (gap ++ (word ++ rest)) (gap' ++ (word ++ rest'))

section Respaced

variable {tokens : List (List Char)}

/-- Tokens are identifiers. -/
def AreIdents (tokens : List (List Char)) : Prop :=
  ∀ token ∈ tokens, token ≠ [] ∧ ∀ c ∈ token, isIdentChar c = true

theorem IsWord.visible (idents : AreIdents tokens) {word rest : List Char} (isWord : IsWord tokens word rest) :
    ∀ c ∈ word, isBlank c = false := by
  rcases isWord with token | ⟨c, rfl, visible, _⟩
  · exact fun c member => isBlank_eq_false_of_isIdentChar ((idents word token).2 c member)
  · simpa using visible

theorem IsWord.ne_nil (idents : AreIdents tokens) {word rest : List Char} (isWord : IsWord tokens word rest) :
    word ≠ [] := by
  rcases isWord with token | ⟨c, rfl, _⟩
  · exact (idents word token).1
  · simp

/-- A word with a character that belongs to no identifier is that character. -/
theorem IsWord.eq_singleton (idents : AreIdents tokens) {word rest : List Char} {c : Char}
    (isWord : IsWord tokens word rest) (member : c ∈ word) (separates : isIdentChar c = false) :
    word = [c] := by
  rcases isWord with token | ⟨d, rfl, _⟩
  · simp [(idents word token).2 c member] at separates
  · rw [List.mem_singleton.mp member]

theorem IsWord.of_append {word rest more : List Char} (isWord : IsWord tokens word (rest ++ more)) :
    IsWord tokens word rest := by
  rcases isWord with token | ⟨c, same, visible, alone⟩
  · exact .inl token
  · refine .inr ⟨c, same, visible, fun token member starts => alone token member ?_⟩
    exact starts.trans ⟨more, rfl⟩

theorem Respaced.blank {before : Option Char} {text text' : List Char} (idents : AreIdents tokens)
    (respaced : Respaced tokens before text text') (blank : isBlankText text = true) :
    isBlankText text' = true := by
  cases respaced with
  | done _ _ blank' => exact blank'
  | @word _ gap gap' word rest rest' _ _ isWord _ _ =>
    obtain ⟨c, more, rfl⟩ := List.exists_cons_of_ne_nil (isWord.ne_nil idents)
    have visible := isWord.visible idents c List.mem_cons_self
    simp [visible] at blank

/-- A sign at the start is one of both texts. -/
theorem Respaced.sign_append (idents : AreIdents tokens) {before : Option Char} {c : Char}
    {text formatted : List Char} (visible : isBlank c = false) (separates : isIdentChar c = false)
    (respaced : Respaced tokens before (c :: text) formatted) :
    ∃ gap rest, isBlankText gap = true ∧ formatted = gap ++ c :: rest ∧
      Respaced tokens (some c) text rest := by
  generalize same : c :: text = whole at respaced
  cases respaced with
  | done _ blank _ =>
    rw [← same] at blank
    simp [visible] at blank
  | @word _ gap gap' word rest rest' blank blank' isWord _ further =>
    obtain ⟨d, more, rfl⟩ := List.exists_cons_of_ne_nil (isWord.ne_nil idents)
    match gap, same with
    | [], same =>
      cases same
      cases isWord.eq_singleton idents List.mem_cons_self separates
      exact ⟨gap', rest', blank', rfl, further⟩
    | g :: gap, same =>
      cases same
      simp [visible] at blank

/-- A sign at the end is one of both texts. -/
theorem Respaced.append_sign (idents : AreIdents tokens) {before : Option Char} {c : Char}
    {text gap formatted : List Char} (visible : isBlank c = false) (separates : isIdentChar c = false)
    (blank : isBlankText gap = true) (respaced : Respaced tokens before (text ++ c :: gap) formatted) :
    ∃ rest gap', isBlankText gap' = true ∧ formatted = rest ++ c :: gap' ∧
      Respaced tokens before text rest := by
  generalize split : text ++ c :: gap = whole at respaced
  induction respaced generalizing text with
  | done _ all _ =>
    rw [← split] at all
    simp [visible] at all
  | @word before own own' word rest rest' blank₁ blank₁' isWord apart further ih =>
    have absent : c ∉ own := fun member => ne_of_isBlank (isBlankText_iff.mp blank₁ c member) visible rfl
    obtain ⟨inner, rfl, text⟩ := append_eq_append_cons_of_not_mem absent split.symm
    have later (inner : List Char) (same : inner ++ c :: gap = rest) :
        ∃ last gap', isBlankText gap' = true ∧ own' ++ (word ++ rest') = last ++ c :: gap' ∧
          Respaced tokens before (own ++ (word ++ inner)) last := by
      obtain ⟨last, gap', blank', rfl, respaced⟩ := ih same
      rw [← same] at isWord
      exact ⟨own' ++ (word ++ last), gap', blank', by simp,
        .word blank₁ blank₁' isWord.of_append apart respaced⟩
    by_cases member : c ∈ word
    · cases isWord.eq_singleton idents member separates
      match inner, text with
      | [], text =>
        cases text
        have blank' := further.blank idents blank
        exact ⟨own', rest', blank', rfl, .done before (by simpa using blank₁) blank₁'⟩
      | _ :: inner, text =>
        cases text
        exact later inner rfl
    · obtain ⟨inner, rfl, same⟩ := append_eq_append_cons_of_not_mem member text
      exact later inner same.symm

theorem Respaced.of_blank_append (idents : AreIdents tokens) {before : Option Char}
    {gap text formatted : List Char} (blank : isBlankText gap = true)
    (respaced : Respaced tokens before (gap ++ text) formatted) : Respaced tokens none text formatted := by
  generalize same : gap ++ text = whole at respaced
  cases respaced with
  | done _ all blank' =>
    rw [← same, isBlankText_append, Bool.and_eq_true] at all
    exact .done none all.2 blank'
  | @word _ own own' word rest rest' blank₁ blank₁' isWord _ further =>
    obtain ⟨d, more, rfl⟩ := List.exists_cons_of_ne_nil (isWord.ne_nil idents)
    have visible := isWord.visible idents d List.mem_cons_self
    have absent : d ∉ gap := fun member => ne_of_isBlank (isBlankText_iff.mp blank d member) visible rfl
    obtain ⟨left, rfl, rfl⟩ := append_eq_append_cons_of_not_mem absent same
    simp only [isBlankText_append, Bool.and_eq_true] at blank₁
    exact .word blank₁.2 blank₁' isWord (by simp) further

theorem Respaced.of_append_blank (idents : AreIdents tokens) {before : Option Char}
    {text gap formatted : List Char} (blank : isBlankText gap = true)
    (respaced : Respaced tokens before (text ++ gap) formatted) : Respaced tokens before text formatted := by
  generalize split : text ++ gap = whole at respaced
  induction respaced generalizing text with
  | done before all blank' =>
    rw [← split, isBlankText_append, Bool.and_eq_true] at all
    exact .done before all.1 blank'
  | @word before own own' word rest rest' blank₁ blank₁' isWord apart further ih =>
    obtain ⟨front, last, rfl⟩ := (List.eq_nil_or_concat word).resolve_left (isWord.ne_nil idents)
    rw [List.concat_eq_append] at *
    have visible := isWord.visible idents last (by simp)
    have absent : last ∉ gap := fun member => ne_of_isBlank (isBlankText_iff.mp blank last member) visible rfl
    have split : text ++ gap = (own ++ front) ++ last :: rest := by simpa using split
    -- the blanks at the end all stand after the last character of the word
    rcases List.append_eq_append_iff.mp split with ⟨more, _, rfl⟩ | ⟨more, rfl, same⟩
    · simp at absent
    · match more, same with
      | [], same =>
        rw [List.nil_append] at same
        simp [← same] at absent
      | _ :: inner, same =>
        cases same
        have text : own ++ front ++ last :: inner = own ++ (front ++ [last] ++ inner) := by simp
        rw [text]
        exact .word blank₁ blank₁' isWord.of_append apart (ih rfl)

theorem blankSeparated_cons_inj {c d : Char} {text text' : List Char} (visible : isBlank c = false)
    (visible' : isBlank d = false) (same : blankSeparated (c :: text) = blankSeparated (c :: d :: text')) :
    ∃ rest, text = d :: rest ∧ blankSeparated (d :: rest) = blankSeparated (d :: text') := by
  rw [blankSeparated_cons visible, blankSeparated_cons visible, List.takeWhile_cons_of_pos (by simp [visible']),
    List.dropWhile_cons_of_pos (by simp [visible']), List.cons.injEq, List.cons.injEq] at same
  obtain ⟨⟨_, word⟩, others⟩ := same
  match text, word, others with
  | e :: rest, word, others =>
    rw [List.takeWhile_cons] at word
    split at word
    · rw [List.cons.injEq] at word
      obtain ⟨rfl, same⟩ := word
      rw [List.dropWhile_cons_of_pos (by simp [visible'])] at others
      exact ⟨rest, rfl, by rw [blankSeparated_cons visible', blankSeparated_cons visible', same, others]⟩
    · cases word

theorem blankSeparated_append_inj {c : Char} {word text text' : List Char} (visible : isBlank c = false)
    (shown : ∀ d ∈ word, isBlank d = false)
    (same : blankSeparated (c :: text) = blankSeparated (c :: (word ++ text'))) :
    ∃ rest, text = word ++ rest ∧ ∀ last, (c :: word).getLast? = some last →
      blankSeparated (last :: rest) = blankSeparated (last :: text') := by
  induction word generalizing c text with
  | nil => exact ⟨text, rfl, fun last ends => by cases ends; exact same⟩
  | cons d word ih =>
    have here := shown d List.mem_cons_self
    obtain ⟨rest, rfl, further⟩ := blankSeparated_cons_inj visible here same
    obtain ⟨rest, rfl, final⟩ := ih here (fun e member => shown e (List.mem_cons_of_mem d member)) further
    exact ⟨rest, rfl, fun last ends => final last (by simpa using ends)⟩

/-- Before the first word there is room for blanks. -/
theorem exists_gap_of_blankSeparated {c : Char} {text text' : List Char} (visible : isBlank c = false)
    (same : blankSeparated text = blankSeparated (c :: text')) :
    ∃ gap rest, isBlankText gap = true ∧ text = gap ++ c :: rest ∧
      blankSeparated (c :: rest) = blankSeparated (c :: text') := by
  obtain ⟨gap, blank, split⟩ := exists_blank_append_trimStart text
  have first (c : Char) := @isBlank_head_trimStart text c
  rw [← split, blankSeparated_blank_append blank] at same
  rw [← split]
  match trimStart text, first, same with
  | [], _, same =>
    rw [blankSeparated_cons visible] at same
    cases same
  | d :: rest, first, same =>
    have words := same
    rw [blankSeparated_cons visible, blankSeparated_cons (first d rfl), List.cons.injEq, List.cons.injEq] at words
    obtain ⟨⟨rfl, _⟩, _⟩ := words
    exact ⟨gap, rest, blank, rfl, same⟩

theorem isBlankText_of_blankSeparated {text : List Char} (none : blankSeparated text = []) :
    isBlankText text = true := by
  obtain ⟨gap, blank, split⟩ := exists_blank_append_trimStart text
  have first (c : Char) := @isBlank_head_trimStart text c
  rw [← split, blankSeparated_blank_append blank] at none
  match rest : trimStart text, first, none with
  | [], _, _ => rwa [← split, rest, List.append_nil]
  | d :: rest, first, none =>
    rw [blankSeparated_cons (first d rfl)] at none
    cases none

/-- A word of one character is followed by a blank, if by anything. -/
theorem blankSeparated_cons_eq {c : Char} {text : List Char} {words : List (List Char)}
    (visible : isBlank c = false) (same : blankSeparated (c :: text) = [c] :: words) :
    blankSeparated text = words ∧ ∀ d, text.head? = some d → isBlank d = true := by
  rw [blankSeparated_cons visible, List.cons.injEq, List.cons.injEq] at same
  obtain ⟨⟨_, none⟩, others⟩ := same
  cases text with
  | nil => exact ⟨others, by simp⟩
  | cons d text =>
    cases blank : isBlank d with
    | true => simp_all
    | false => simp [blank] at none

theorem blankSeparated_cons_gap {c : Char} {gap : List Char} (visible : isBlank c = false)
    (blank : isBlankText gap = true) (text : List Char) (apart : gap ≠ [] ∨ text = []) :
    blankSeparated (c :: (gap ++ text)) = [c] :: blankSeparated text := by
  have alone : blankSeparated [c] = [[c]] := blankSeparated_cons visible []
  match gap, blank, apart with
  | [], _, .inr empty => rw [empty, List.append_nil, alone, blankSeparated_nil]
  | d :: gap, blank, _ =>
    simp only [isBlankText_cons, Bool.and_eq_true] at blank
    have joined := blankSeparated_append blank.1 [c] (gap ++ text)
    rw [alone, blankSeparated_blank_append blank.2] at joined
    exact joined

/-- Where the same words come next, their first character does, with blanks before it if there were. -/
theorem exists_gap_of_before {before : Option Char} {c : Char} {gap text other : List Char}
    (shown : ∀ d, before = some d → isBlank d = false) (visible : isBlank c = false)
    (blank : isBlankText gap = true)
    (same : blankSeparated (before.toList ++ other) = blankSeparated (before.toList ++ (gap ++ c :: text))) :
    ∃ gap' rest, isBlankText gap' = true ∧ other = gap' ++ c :: rest ∧
      (before.isSome = true → gap ≠ [] → gap' ≠ []) ∧
      blankSeparated (c :: rest) = blankSeparated (c :: text) := by
  cases before with
  | none =>
    rw [Option.toList_none, List.nil_append, List.nil_append, blankSeparated_blank_append blank] at same
    obtain ⟨gap', rest, blank', rfl, words⟩ := exists_gap_of_blankSeparated visible same
    exact ⟨gap', rest, blank', rfl, by simp, words⟩
  | some d =>
    have shown := shown d rfl
    rw [Option.toList_some, List.singleton_append, List.singleton_append] at same
    by_cases none : gap = []
    · rw [none, List.nil_append] at same
      obtain ⟨rest, rfl, words⟩ := blankSeparated_cons_inj shown visible same
      exact ⟨[], rest, rfl, rfl, by simp [none], words⟩
    · rw [blankSeparated_cons_gap shown blank _ (.inl none)] at same
      obtain ⟨same, starts⟩ := blankSeparated_cons_eq shown same
      obtain ⟨gap', rest, blank', rfl, words⟩ := exists_gap_of_blankSeparated visible same
      refine ⟨gap', rest, blank', rfl, fun _ _ empty => ?_, words⟩
      have blank := starts c (by rw [empty]; rfl)
      simp [visible] at blank

/-- Whether a text arises from another one depends on its words only. -/
theorem Respaced.of_words (idents : AreIdents tokens) {before : Option Char} {text formatted other : List Char}
    (respaced : Respaced tokens before text formatted)
    (shown : ∀ d, before = some d → isBlank d = false)
    (same : blankSeparated (before.toList ++ other) = blankSeparated (before.toList ++ formatted)) :
    Respaced tokens before text other := by
  induction respaced generalizing other with
  | @done gap gap' before blank blank' =>
    refine .done before blank (isBlankText_of_blankSeparated ?_)
    cases before with
    | none => exact same.trans (blankSeparated_append_blank [] blank')
    | some d =>
      have alone := blankSeparated_cons_gap (shown d rfl) blank' [] (.inr rfl)
      rw [List.append_nil] at alone
      exact (blankSeparated_cons_eq (shown d rfl) (same.trans alone)).1
  | @word before gap gap' word rest rest' blank blank' isWord apart further ih =>
    have visible := isWord.visible idents
    obtain ⟨c, more, rfl⟩ := List.exists_cons_of_ne_nil (isWord.ne_nil idents)
    have first := visible c List.mem_cons_self
    obtain ⟨gap'', next, blank'', rfl, kept, words⟩ := exists_gap_of_before shown first blank' same
    obtain ⟨final, rfl, onwards⟩ :=
      blankSeparated_append_inj first (fun d member => visible d (List.mem_cons_of_mem c member)) words
    refine .word blank blank'' isWord (fun ident starts gapped => ?_) (ih ?_ ?_)
    · refine kept ?_ (apart ident starts gapped)
      cases before with
      | none => cases ident
      | some => rfl
    · exact fun d last => visible d (List.mem_of_getLast? last)
    · obtain ⟨last, ends⟩ := Option.isSome_iff_exists.mp (List.getLast?_isSome.mpr (List.cons_ne_nil c more))
      rw [ends]
      exact onwards last ends

/-- The word at the start of a text. -/
def firstWord (tokens : List (List Char)) (text : List Char) : List Char :=
  (tokens.find? (startsWith · text)).getD (text.take 1)

/-- Compares two texts word by word, for at most `count` words. -/
def respaces (tokens : List (List Char)) : Nat → Option Char → List Char → List Char → Bool
  | 0, _, text, formatted => isBlankText text && isBlankText formatted
  | count + 1, before, text, formatted =>
    let word := firstWord tokens (trimStart text)
    if trimStart text = [] then isBlankText formatted
    else match after? word (trimStart text), after? word (trimStart formatted) with
      | some rest, some rest' =>
        let joins := before.any isIdentChar && word.head?.any isIdentChar
        (!joins || trimStart text = text || trimStart formatted ≠ formatted) &&
          respaces tokens count word.getLast? rest rest'
      | _, _ => false

theorem isWord_firstWord {text rest : List Char} (visible : ∀ c, text.head? = some c → isBlank c = false)
    (nonempty : text ≠ []) (found : after? (firstWord tokens text) text = some rest) :
    IsWord tokens (firstWord tokens text) rest := by
  rw [firstWord] at found ⊢
  cases token : tokens.find? (startsWith · text) with
  | some token => exact .inl (List.mem_of_find?_eq_some token)
  | none =>
    obtain ⟨c, more, rfl⟩ := List.exists_cons_of_ne_nil nonempty
    have split := after?_eq_some_iff.mp found
    rw [token] at split
    obtain rfl : more = rest := by simpa using split
    refine .inr ⟨c, rfl, visible c rfl, fun other member starts => ?_⟩
    exact List.find?_eq_none.mp token other member (startsWith_iff.mpr starts)

theorem respaced_of_respaces (count : Nat) {before : Option Char} {text formatted : List Char}
    (checked : respaces tokens count before text formatted = true) : Respaced tokens before text formatted := by
  fun_induction respaces tokens count before text formatted with
  | case1 before text formatted =>
    rw [Bool.and_eq_true] at checked
    exact .done before checked.1 checked.2
  | case2 count before text formatted empty =>
    obtain ⟨gap, blank, split⟩ := exists_blank_append_trimStart text
    rw [empty, List.append_nil] at split
    exact .done before (split ▸ blank) checked
  | case3 count before text formatted word nonempty rest rest' found' found joins ih =>
    rw [Bool.and_eq_true] at checked
    obtain ⟨gap, blank, split⟩ := exists_blank_append_trimStart text
    obtain ⟨gap', blank', split'⟩ := exists_blank_append_trimStart formatted
    have kept : joins = true → gap ≠ [] → gap' ≠ [] := by
      rintro joining gapped rfl
      have same : trimStart formatted = formatted := split'
      have other : trimStart text ≠ text := fun same =>
        gapped (List.append_left_eq_self.mp (split.trans same.symm))
      simp [joining, same, other] at checked
    have isWord := isWord_firstWord (fun c => isBlank_head_trimStart) nonempty found
    rw [after?_eq_some_iff.mp found] at split
    rw [after?_eq_some_iff.mp found'] at split'
    rw [← split, ← split']
    exact .word blank blank' isWord (fun ident starts => kept (by simp [joins, ident, starts])) (ih checked.2)
  | case4 => cases checked

end Respaced

end Dialect
