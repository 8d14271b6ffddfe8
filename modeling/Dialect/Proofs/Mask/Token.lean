import Dialect.Mask.Placeholder
import Dialect.Proofs.Text.Blank
import Dialect.Proofs.Text.Search

/-! Tokens in a text. All tokens of a masking share a stem that its document does not hold, and the
only `z` of a token is its third character. So tokens do not overlap, and as long as a text with
all its tokens exchanged does not hold the stem, a token stands in it only where it was put. -/
namespace Dialect

/-- A stem is the first one with underscores added. -/
def IsStem (stem : List Char) : Prop := ∃ count, stem = baseStem ++ List.replicate count '_'

theorem isStem_lengthenStem {stem : List Char} (isStem : IsStem stem) (text : List Char) (fuel : Nat) :
    IsStem (lengthenStem text fuel stem) := by
  induction fuel generalizing stem with
  | zero => exact isStem
  | succ fuel ih =>
    rw [lengthenStem]
    split
    · obtain ⟨count, rfl⟩ := isStem
      exact ih ⟨count + 1, by rw [List.append_assoc, ← List.replicate_succ']⟩
    · exact isStem

theorem lengthenStem_fresh {text stem : List Char} {fuel : Nat}
    (enough : text.length < stem.length + fuel) : ¬lengthenStem text fuel stem <:+: text := by
  induction fuel generalizing stem with
  | zero => exact fun occurs => Nat.lt_irrefl _ (Nat.lt_of_lt_of_le enough occurs.length_le)
  | succ fuel ih =>
    rw [lengthenStem]
    split
    · exact ih (by simp only [List.length_append, List.length_singleton]; omega)
    · next absent => rwa [occursIn_iff] at absent

theorem isStem_freshStem (text : List Char) : IsStem (freshStem text) :=
  isStem_lengthenStem ⟨0, by simp⟩ text _

theorem freshStem_fresh (text : List Char) : ¬freshStem text <:+: text :=
  lengthenStem_fresh (by omega)

theorem isIdentChar_of_mem_stem {stem : List Char} (isStem : IsStem stem) :
    ∀ c ∈ stem, isIdentChar c = true := by
  obtain ⟨count, rfl⟩ := isStem
  intro c member
  rcases List.mem_append.mp member with base | added
  · exact List.all_eq_true.mp (by decide : baseStem.all isIdentChar = true) c base
  · rw [List.eq_of_mem_replicate added]
    rfl

theorem toList_toString (number : Nat) : (toString number).toList = Nat.toDigits 10 number := by
  simp [toString, Nat.repr]

theorem tokenOf_eq (stem : List Char) (number : Nat) :
    tokenOf stem number = stem ++ (Nat.toDigits 10 number ++ ['_', '_']) := by
  rw [tokenOf, toList_toString, List.append_assoc]

theorem isDigit_of_mem_toDigits {number : Nat} {c : Char} (member : c ∈ Nat.toDigits 10 number) :
    c.isDigit = true := Nat.isDigit_of_mem_toDigits (by decide) (by decide) member

variable {stem : List Char}

theorem isIdentChar_of_mem_tokenOf (isStem : IsStem stem) {number : Nat} :
    ∀ c ∈ tokenOf stem number, isIdentChar c = true := by
  rw [tokenOf_eq]
  intro c member
  rcases List.mem_append.mp member with base | added
  · exact isIdentChar_of_mem_stem isStem c base
  · rcases List.mem_append.mp added with digit | last
    · have decimal := isDigit_of_mem_toDigits digit
      simp only [Char.isDigit, Bool.and_eq_true, decide_eq_true_eq] at decimal
      simp only [isIdentChar, isAsciiDigit, Bool.or_eq_true, Bool.and_eq_true, decide_eq_true_eq]
      exact .inl (.inl (.inl (.inr decimal)))
    · simp only [List.mem_cons, List.not_mem_nil, or_false, or_self] at last
      rw [last]
      rfl

/-- The third character of a token is its only `z`. -/
theorem tokenOf_shape (isStem : IsStem stem) (number : Nat) :
    ∃ tail, tokenOf stem number = '_' :: '_' :: 'z' :: tail ∧ 'z' ∉ tail := by
  obtain ⟨count, rfl⟩ := isStem
  refine ⟨"nix_mask".toList ++ List.replicate count '_' ++ (Nat.toDigits 10 number ++ ['_', '_']), ?_, ?_⟩
  · rw [tokenOf_eq]
    rfl
  · simp only [List.mem_append, not_or]
    refine ⟨⟨by decide, fun added => ?_⟩, fun digit => ?_, by decide⟩
    · exact absurd (List.eq_of_mem_replicate added) (by decide)
    · exact absurd (isDigit_of_mem_toDigits digit) (by decide)

theorem getElem?_tokenOf_eq_z (isStem : IsStem stem) {number index : Nat}
    (letter : (tokenOf stem number)[index]? = some 'z') : index = 2 := by
  obtain ⟨tail, shape, other⟩ := tokenOf_shape isStem number
  rw [shape] at letter
  match index with
  | 0 | 1 => simp at letter
  | 2 => rfl
  | index + 3 => exact absurd (List.mem_of_getElem? (by simpa using letter)) other

theorem getLast?_tokenOf (stem : List Char) (number : Nat) :
    (tokenOf stem number).getLast? = some '_' := by
  rw [tokenOf_eq, List.getLast?_append, List.getLast?_append]
  rfl

/-- No token is the start of another one. -/
theorem eq_of_prefix_tokenOf {number other : Nat} {rest : List Char}
    (starts : tokenOf stem number <+: tokenOf stem other ++ rest) : number = other := by
  obtain ⟨tail, same⟩ := starts
  simp only [tokenOf_eq, List.append_assoc, List.append_cancel_left_eq] at same
  have digits (number : Nat) (rest : List Char) :
      (Nat.toDigits 10 number ++ '_' :: rest).takeWhile (· != '_') = Nat.toDigits 10 number := by
    have decimal : ∀ c ∈ Nat.toDigits 10 number, (c != '_') = true := by
      intro c member
      have digit := isDigit_of_mem_toDigits member
      exact bne_iff_ne.mpr fun same => absurd (same ▸ digit) (by decide)
    rw [List.takeWhile_append_of_pos decimal]
    simp
  have equal := congrArg (List.takeWhile (· != '_')) same
  simp only [List.cons_append, List.nil_append, digits] at equal
  have back := congrArg (Nat.ofDigitChars 10 · 0) equal
  simpa [Nat.ofDigitChars_ten_toDigits] using back

/-- A piece of a text in which placeholders stand. -/
inductive Item where
  | char (c : Char)
  | token (number : Nat)
  deriving DecidableEq

namespace Item

/-- The text of an item. -/
def render (stem : List Char) : Item → List Char
  | .char c => [c]
  | .token number => tokenOf stem number

/-- An item with its token exchanged for what that stands for. -/
def expand (meaning : Nat → List Char) : Item → List Char
  | .char c => [c]
  | .token number => meaning number

def number? : Item → Option Nat
  | .char _ => none
  | .token number => some number

def isBlank : Item → Bool
  | .char c => Dialect.isBlank c
  | .token _ => false

end Item

/-- The text that items make up. -/
def render (stem : List Char) (items : List Item) : List Char := items.flatMap (Item.render stem)

/-- The same with all tokens exchanged. -/
def expand (meaning : Nat → List Char) (items : List Item) : List Char :=
  items.flatMap (Item.expand meaning)

/-- The numbers of the tokens, in order. -/
def numbers (items : List Item) : List Nat := items.filterMap Item.number?

section Items

variable (stem : List Char) (meaning : Nat → List Char)

@[simp] theorem render_nil : render stem [] = [] := rfl

@[simp] theorem render_char (c : Char) (items : List Item) :
    render stem (.char c :: items) = c :: render stem items := rfl

@[simp] theorem render_token (number : Nat) (items : List Item) :
    render stem (.token number :: items) = tokenOf stem number ++ render stem items := rfl

@[simp] theorem render_append (a b : List Item) :
    render stem (a ++ b) = render stem a ++ render stem b := List.flatMap_append

@[simp] theorem render_chars (text : List Char) : render stem (text.map .char) = text := by
  induction text with
  | nil => rfl
  | cons c text ih => rw [List.map_cons, render_char, ih]

@[simp] theorem expand_nil : expand meaning [] = [] := rfl

@[simp] theorem expand_cons (item : Item) (items : List Item) :
    expand meaning (item :: items) = item.expand meaning ++ expand meaning items := rfl

@[simp] theorem expand_append (a b : List Item) :
    expand meaning (a ++ b) = expand meaning a ++ expand meaning b := List.flatMap_append

@[simp] theorem expand_chars (text : List Char) : expand meaning (text.map .char) = text := by
  induction text with
  | nil => rfl
  | cons c text ih => simp [Item.expand, ih]

@[simp] theorem numbers_append (a b : List Item) : numbers (a ++ b) = numbers a ++ numbers b :=
  List.filterMap_append

@[simp] theorem numbers_chars (text : List Char) : numbers (text.map .char) = [] := by
  simp [numbers, List.filterMap_eq_nil_iff, Item.number?]

@[simp] theorem numbers_char (c : Char) (items : List Item) :
    numbers (.char c :: items) = numbers items := rfl

@[simp] theorem numbers_token (number : Nat) (items : List Item) :
    numbers (.token number :: items) = number :: numbers items := rfl

end Items

theorem mem_numbers {number : Nat} {items : List Item} :
    number ∈ numbers items ↔ .token number ∈ items := by
  simp only [numbers, List.mem_filterMap]
  constructor
  · rintro ⟨_ | other, member, same⟩
    · cases same
    · cases same
      exact member
  · exact fun member => ⟨_, member, rfl⟩

/-- No identifier starts anew in a text that is made looser. -/
theorem Loosened.head_of_isIdentStart {a b : List Char} (loosened : Loosened isIdentChar a b) {c : Char}
    (first : b.head? = some c) (start : isIdentStart c = true) : a.head? = some c := by
  have ident : ∀ d ∈ [c], isIdentChar d = true := by
    simpa using isIdentChar_of_isIdentStart start
  have starts := loosened.isPrefix ident (List.singleton_prefix_iff_head?_eq_some.mpr first)
  exact List.singleton_prefix_iff_head?_eq_some.mp starts

/-- Items in whose text every token stands for itself: the text that they mean does not hold the stem,
nothing that could go on with a token follows one, and no token is repeated. -/
structure Clean (stem : List Char) (meaning : Nat → List Char) (items : List Item) : Prop where
  fresh : ¬stem <:+: expand meaning items
  apart : ∀ before number rest, items = before ++ .token number :: rest →
    ∀ c, (expand meaning rest).head? = some c → isIdentStart c = false
  nodup : (numbers items).Nodup

variable {meaning : Nat → List Char} {items : List Item}

theorem Clean.tail {item : Item} (clean : Clean stem meaning (item :: items)) :
    Clean stem meaning items := by
  refine ⟨fun occurs => ?_, fun before number rest split => ?_, ?_⟩
  · exact clean.fresh (occurs.trans (List.infix_append_of_infix_right (List.infix_refl _)))
  · exact clean.apart (item :: before) number rest (by rw [split, List.cons_append])
  · cases item with
    | char c => exact clean.nodup
    | token number => exact (List.nodup_cons.mp clean.nodup).2

theorem exists_chars_append (items : List Item) :
    ∃ (text : List Char) (rest : List Item), items = text.map .char ++ rest ∧
      ∀ c, rest.head? ≠ some (.char c) := by
  induction items with
  | nil => exact ⟨[], [], rfl, by simp⟩
  | cons item items ih =>
    cases item with
    | token number => exact ⟨[], .token number :: items, rfl, by simp⟩
    | char c =>
      obtain ⟨text, rest, split, stopped⟩ := ih
      exact ⟨c :: text, rest, by rw [split]; rfl, stopped⟩

/-- A word that starts two joined texts starts the first one or goes on into the second. -/
theorem prefix_append_cases {word a b : List Char} (starts : word <+: a ++ b) :
    word <+: a ∨ ∃ more, more ≠ [] ∧ word = a ++ more ∧ more <+: b := by
  obtain ⟨rest, split⟩ := starts
  rcases List.append_eq_append_iff.mp split with ⟨short, rfl, _⟩ | ⟨more, rfl, rfl⟩
  · exact .inl (List.prefix_append word short)
  · by_cases none : more = []
    · simp [none]
    · exact .inr ⟨more, none, rfl, List.prefix_append more rest⟩

/-- All but the last two characters of a token hold the stem. -/
theorem stem_prefix_of_tokenOf {number : Nat} {a more : List Char} (split : tokenOf stem number = a ++ more)
    (short : more.length ≤ 2) : stem <+: a := by
  rw [tokenOf_eq] at split
  have whole : stem <+: a ++ more := ⟨_, split⟩
  refine List.prefix_of_prefix_length_le whole (List.prefix_append a more) ?_
  have lengths := congrArg List.length split
  simp only [List.length_append, List.length_cons, List.length_nil] at lengths
  omega

theorem Clean.not_prefix_char (isStem : IsStem stem) {c : Char}
    (clean : Clean stem meaning (.char c :: items)) {number : Nat} :
    ¬tokenOf stem number <+: c :: render stem items := by
  intro starts
  obtain ⟨text, rest, split, stopped⟩ := exists_chars_append items
  have fresh := clean.fresh
  rw [split] at fresh starts
  simp only [expand_cons, expand_append, expand_chars, Item.expand, render_append, render_chars] at fresh starts
  rw [← List.cons_append] at starts
  have absent : ¬stem <+: c :: text := fun here =>
    fresh (here.isInfix.trans (List.infix_append [] (c :: text) (expand meaning rest)))
  -- a token among the characters brings the stem with it; one that goes on into the next token
  -- covers the `z` of that, unless only its last two characters do
  rcases prefix_append_cases starts with here | ⟨more, nonempty, same, on⟩
  · exact absent ((List.prefix_append stem _).trans (tokenOf_eq stem number ▸ here))
  · match rest, stopped with
    | [], _ => exact nonempty (List.prefix_nil.mp (by simpa using on))
    | .char d :: _, stopped => exact stopped d rfl
    | .token other :: rest, _ =>
      obtain ⟨tail, shape, _⟩ := tokenOf_shape isStem other
      simp only [render_token, shape, List.cons_append] at on
      match more, nonempty, on with
      | [_], _, _ | [_, _], _, _ => exact absent (stem_prefix_of_tokenOf same (by simp))
      | a :: b :: d :: more, _, on =>
        obtain ⟨_, _, here, _⟩ : a = '_' ∧ b = '_' ∧ d = 'z' ∧ _ := by
          simpa [List.cons_prefix_cons] using on
        have third : (tokenOf stem number)[(c :: text).length + 2]? = some 'z' := by
          rw [same, List.getElem?_append_right (by omega)]
          simp [here]
        have place := getElem?_tokenOf_eq_z isStem third
        simp at place

/-- A token at the start of a text is its first item. -/
theorem Clean.head_of_prefix (isStem : IsStem stem) (clean : Clean stem meaning items) {number : Nat}
    (starts : tokenOf stem number <+: render stem items) : ∃ rest, items = .token number :: rest := by
  match items with
  | [] =>
    obtain ⟨tail, shape, _⟩ := tokenOf_shape isStem number
    simp [shape] at starts
  | .char c :: rest => exact absurd starts (clean.not_prefix_char isStem)
  | .token other :: rest =>
    rw [eq_of_prefix_tokenOf starts]
    exact ⟨rest, rfl⟩

/-- What follows a token does not make another one of its last underscores. -/
theorem Clean.after_token (isStem : IsStem stem) {number : Nat}
    (clean : Clean stem meaning (.token number :: items)) :
    ¬['z'] <+: render stem items ∧ ¬['_', 'z'] <+: render stem items := by
  match items with
  | [] => simp
  | .token other :: rest =>
    obtain ⟨tail, shape, _⟩ := tokenOf_shape isStem other
    simp [shape, List.cons_prefix_cons]
  | .char c :: rest =>
    have stopped := clean.apart [] number (.char c :: rest) rfl c rfl
    have other {d : Char} (start : isIdentStart d = true) : d ≠ c := by
      rintro rfl
      simp [start] at stopped
    simp [List.cons_prefix_cons, @other 'z' rfl, @other '_' rfl]

theorem Clean.not_prefix_inside (isStem : IsStem stem) {number other : Nat} {front back : List Char}
    (clean : Clean stem meaning (.token other :: items)) (split : tokenOf stem other = front ++ back)
    (front_nonempty : front ≠ []) (back_nonempty : back ≠ []) :
    ¬tokenOf stem number <+: back ++ render stem items := by
  intro starts
  obtain ⟨tail, shape, _⟩ := tokenOf_shape isStem number
  obtain ⟨letter, underscored⟩ := clean.after_token isStem
  have starts : ['_', '_', 'z'] <+: back ++ render stem items :=
    List.IsPrefix.trans ⟨tail, by rw [shape]; rfl⟩ starts
  match back, back_nonempty, starts with
  | [_], _, starts => exact underscored (List.cons_prefix_cons.mp starts).2
  | [_, _], _, starts =>
    exact letter (List.cons_prefix_cons.mp (List.cons_prefix_cons.mp starts).2).2
  | a :: b :: c :: back, _, starts =>
    obtain ⟨_, _, rfl⟩ : '_' = a ∧ '_' = b ∧ 'z' = c := by simpa [List.cons_prefix_cons] using starts
    have third : (tokenOf stem other)[front.length + 2]? = some 'z' := by
      rw [split, List.getElem?_append_right (by omega)]
      simp
    have place := getElem?_tokenOf_eq_z isStem third
    have positive := List.length_pos_iff.mpr front_nonempty
    omega

/-- A token stands in the text of clean items only where it is one of them. -/
theorem Clean.split (isStem : IsStem stem) (clean : Clean stem meaning items) {number : Nat}
    {left right : List Char} (split : render stem items = left ++ (tokenOf stem number ++ right)) :
    ∃ before rest, items = before ++ .token number :: rest ∧ left = render stem before ∧
      right = render stem rest := by
  induction items generalizing left with
  | nil =>
    obtain ⟨tail, shape, _⟩ := tokenOf_shape isStem number
    simp [shape] at split
  | cons item items ih =>
    by_cases start : left = []
    · have starts : tokenOf stem number <+: render stem (item :: items) := ⟨right, by rw [split, start]; rfl⟩
      obtain ⟨rest, same⟩ := clean.head_of_prefix isStem starts
      rw [same, start, render_token] at split
      exact ⟨[], rest, same, start, (List.append_cancel_left split).symm⟩
    -- the text goes on after the first item, or the token starts inside of it
    have further (more : List Char) (text : left = item.render stem ++ more)
        (split : render stem items = more ++ (tokenOf stem number ++ right)) :
        ∃ before rest, item :: items = before ++ .token number :: rest ∧
          left = render stem before ∧ right = render stem rest := by
      obtain ⟨before, rest, rfl, rfl, same⟩ := ih clean.tail split
      exact ⟨item :: before, rest, rfl, text, same⟩
    have joined : item.render stem ++ render stem items = left ++ (tokenOf stem number ++ right) := split
    rcases List.append_eq_append_iff.mp joined with ⟨more, text, rest⟩ | ⟨back, text, rest⟩
    · exact further more text rest
    · by_cases none : back = []
      · subst none
        exact further [] (by simpa using text.symm) (by simpa using rest.symm)
      · cases item with
        | char c =>
          rcases List.append_eq_singleton_iff.mp text.symm with ⟨empty, _⟩ | ⟨_, empty⟩
          · exact absurd empty start
          · exact absurd empty none
        | token other =>
          exact absurd ⟨right, rest⟩ (clean.not_prefix_inside isStem text start none)

end Dialect
