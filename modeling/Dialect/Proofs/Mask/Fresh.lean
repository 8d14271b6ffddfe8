import Dialect.Proofs.Mask.Respaced

/-! Tokens are fresh. Their stem is the first one that the document does not hold, no token stands in another one or in
anything that a token stands for, and in the masked document each token stands once: nothing of the document that is
next to a token, and no other token, joins a part of it to a second one. -/
namespace Dialect

/-- The search takes the first stem that the text does not hold, if it goes on for long enough. -/
theorem exists_lengthenStem (text stem : List Char) (fuel : Nat) :
    ∃ count, lengthenStem text fuel stem = stem ++ List.replicate count '_' ∧
      ∀ fewer < count, stem ++ List.replicate fewer '_' <:+: text := by
  induction fuel generalizing stem with
  | zero => exact ⟨0, by rw [lengthenStem]; simp, by simp⟩
  | succ fuel ih =>
    rw [lengthenStem]
    split
    · next occurs =>
      obtain ⟨count, same, earlier⟩ := ih (stem ++ ['_'])
      refine ⟨count + 1, by rw [same, List.append_assoc, List.replicate_succ, List.singleton_append], ?_⟩
      intro fewer below
      cases fewer with
      | zero => simpa using occursIn_iff.mp occurs
      | succ fewer =>
        have held := earlier fewer (Nat.lt_of_succ_lt_succ below)
        rwa [List.append_assoc, List.singleton_append, ← List.replicate_succ] at held
    · exact ⟨0, by simp, by simp⟩

section Tokens

variable {stem : List Char} {meaning : Nat → List Char} {items : List Item}

/-- No token stands in another one: the only `z` of a token is in its stem. -/
theorem eq_of_infix_tokenOf (isStem : IsStem stem) {number other : Nat}
    (occurs : tokenOf stem number <:+: tokenOf stem other) : number = other := by
  obtain ⟨front, back, split⟩ := occurs
  obtain ⟨tail, shape, _⟩ := tokenOf_shape isStem number
  have letter : (tokenOf stem other)[front.length + 2]? = some 'z' := by
    rw [← split, shape, List.append_assoc, List.getElem?_append_right (by omega)]
    simp
  have start : front = [] := by
    have place := getElem?_tokenOf_eq_z isStem letter
    exact List.length_eq_zero_iff.mp (by omega)
  have starts : tokenOf stem number <+: tokenOf stem other ++ [] := ⟨back, by rw [← split, start]; simp⟩
  exact eq_of_prefix_tokenOf starts

/-- A token stands at one place of a clean text. -/
theorem Clean.existsUnique_index (isStem : IsStem stem) (clean : Clean stem meaning items) {number : Nat}
    (member : number ∈ numbers items) : ∃! index, tokenOf stem number <+: (render stem items).drop index := by
  obtain ⟨before, rest, rfl⟩ := List.append_of_mem (mem_numbers.mp member)
  have once := clean.once isStem
  rw [render_append, render_token]
  refine ⟨(render stem before).length, ?_, ?_⟩
  · show tokenOf stem number <+: _
    rw [List.drop_left]
    exact List.prefix_append _ _
  · rintro index ⟨right, split⟩
    have inside : index ≤ (render stem before ++ (tokenOf stem number ++ render stem rest)).length := by
      by_contra beyond
      rw [List.drop_eq_nil_of_le (Nat.le_of_not_le beyond), List.append_eq_nil_iff] at split
      exact tokenOf_ne_nil stem number split.1
    have same := once ((render stem before ++ (tokenOf stem number ++ render stem rest)).take index) right (by
      rw [split, List.take_append_drop])
    rw [← same, List.length_take, Nat.min_eq_left inside]

/-- A clean text stays clean between characters that no identifier has. -/
theorem Clean.enclosed (isStem : IsStem stem) (clean : Clean stem meaning items) {front back : List Char}
    (separate : ∀ c ∈ front ++ back, isIdentChar c = false) :
    Clean stem meaning (front.map .char ++ items ++ back.map .char) := by
  refine ⟨fun occurs => ?_, fun before number rest split c first => ?_, ?_⟩
  · have added {text : List Char} (apart : ∀ c ∈ text, isIdentChar c = false) : Loosened isIdentChar [] text := by
      cases text with
      | nil => exact .nil
      | cons c text => exact .replace (List.cons_ne_nil c text) apart
    have loosened : Loosened isIdentChar (expand meaning items) (front ++ expand meaning items ++ back) := by
      have before := added fun c member => separate c (List.mem_append_left back member)
      have after := added fun c member => separate c (List.mem_append_right front member)
      simpa using (before.append (.refl (expand meaning items))).append after
    apply clean.fresh
    apply loosened.isInfix (isIdentChar_of_mem_stem isStem)
    simpa using occurs
  · obtain ⟨before, joined⟩ := suffix_of_suffix_chars front ⟨before, by rw [← split, List.append_assoc]⟩
    have absent : Item.token number ∉ back.map .char := by simp
    -- the token is one of the items, since only characters stand around them
    obtain ⟨more, text, rfl⟩ :
        ∃ more, items = before ++ .token number :: more ∧ rest = more ++ back.map .char := by
      rcases List.append_eq_append_iff.mp joined with ⟨more, text, tail⟩ | ⟨more, _, tail⟩
      · cases more with
        | nil =>
          rw [List.nil_append] at tail
          exact absurd (tail ▸ List.mem_cons_self) absent
        | cons item more =>
          cases tail
          exact ⟨more, text, rfl⟩
      · exact absurd (tail ▸ by simp) absent
    rw [expand_append, expand_chars, List.head?_append] at first
    cases inner : (expand meaning more).head? with
    | some d =>
      rw [inner] at first
      cases first
      exact clean.apart before number more text c inner
    | none =>
      rw [inner, Option.none_or] at first
      have apart := separate c (List.mem_append_right front (List.mem_of_head? first))
      exact Bool.eq_false_iff.mpr fun start => by simp [isIdentChar_of_isIdentStart start] at apart
  · simpa using clean.nodup

end Tokens

section Masked

variable {source : List Char}

/-- The masked document, with the braces that were added, as clean items. -/
theorem exists_clean_text (source : List Char) :
    ∃ items, (mask .format source).text = render (freshStem source) items ∧
      Clean (freshStem source) (meaningOf source) items ∧
      numbers items = numbers (documentStage source (marks source).length) := by
  have clean := clean_documentStage source
  rw [text_mask, ← render_documentStage]
  cases (mask .format source).wrapped with
  | false =>
    refine ⟨documentStage source (marks source).length, ?_, clean, rfl⟩
    simp only [Bool.false_eq_true, if_false]
  | true =>
    have separate : ∀ c ∈ ['{', '\n'] ++ ['\n', '}'], isIdentChar c = false := by
      simp only [List.cons_append, List.nil_append, List.forall_mem_cons, List.not_mem_nil, false_imp_iff, implies_true,
        and_true]
      decide
    refine ⟨_, ?_, clean.enclosed (isStem_freshStem source) separate, ?_⟩
    · simp [wrap]
    · rw [numbers_append, numbers_append, numbers_chars, numbers_chars, List.nil_append, List.append_nil]

theorem mem_numbers_documentStage {number : Nat} (below : number < (marks source).length) :
    number ∈ numbers (documentStage source (marks source).length) := by
  rw [documentStage_masked, numbers_assemble]
  exact List.mem_map.mpr ⟨(_, number), mem_placedMarks.mpr (List.getElem?_eq_getElem below), rfl⟩

theorem stem_isPrefix_tokenOf (stem : List Char) (number : Nat) : stem <+: tokenOf stem number := by
  rw [tokenOf_eq]
  exact List.prefix_append _ _

/-- What a placeholder stands for is a stretch of the document, the action shorthand or nothing. -/
theorem not_infix_text {p : Placeholder} (member : p ∈ (mask .format source).placeholders) (number : Nat) :
    ¬tokenOf (freshStem source) number <:+: p.text := by
  have absent (span : Span) : ¬tokenOf (freshStem source) number <:+: span.slice source := by
    intro occurs
    have slice : span.slice source <:+: source :=
      (List.take_prefix _ _).isInfix.trans (List.drop_suffix _ _).isInfix
    exact freshStem_fresh source
      (((stem_isPrefix_tokenOf (freshStem source) number).isInfix.trans occurs).trans slice)
  have letter {text : List Char} (none : 'z' ∉ text) : ¬tokenOf (freshStem source) number <:+: text := by
    intro occurs
    obtain ⟨tail, shape, _⟩ := tokenOf_shape (isStem_freshStem source) number
    exact none (occurs.subset (by simp [shape]))
  rw [placeholders_mask, List.mem_map] at member
  obtain ⟨⟨mark, _⟩, _, rfl⟩ := member
  cases mark with
  | plain span => exact absent span
  | opening d => exact absent d.head
  | action span => exact @letter actionShorthand (by decide)
  | closing d => exact @letter [] (by simp)

end Masked

/-- Tokens are fresh and unambiguous. The search for a stem ends at the first one that the document does not hold; all
tokens start with it and are different. None stands in the document, in another token or in what a placeholder stands
for, and in the masked document, added braces included, each token stands at one place only. -/
theorem tokens_fresh (source : List Char) :
    let masked := mask .format source
    (∃ count, freshStem source = baseStem ++ List.replicate count '_' ∧
      (∀ fewer < count, baseStem ++ List.replicate fewer '_' <:+: source) ∧ ¬freshStem source <:+: source) ∧
    masked.tokens.Nodup ∧
    ∀ token ∈ masked.tokens, freshStem source <+: token ∧ ¬token <:+: source ∧
      (∀ p ∈ masked.placeholders, ¬token <:+: p.text) ∧
      (∀ other ∈ masked.tokens, token <:+: other → token = other) ∧
      ∃! index, token <+: masked.text.drop index := by
  have isStem := isStem_freshStem source
  have starts := stem_isPrefix_tokenOf (freshStem source)
  refine ⟨?_, ?_, fun token member => ?_⟩
  · obtain ⟨count, same, earlier⟩ := exists_lengthenStem source baseStem (source.length + 1)
    exact ⟨count, same, earlier, freshStem_fresh source⟩
  · rw [tokens_eq_map_range]
    refine List.Nodup.map ?_ List.nodup_range
    intro number other same
    exact eq_of_infix_tokenOf isStem (same ▸ List.infix_refl _)
  · obtain ⟨number, below, rfl⟩ := mem_tokens_mask.mp member
    refine ⟨starts number, ?_, fun p among => not_infix_text among number, fun other member' occurs => ?_, ?_⟩
    · intro occurs
      exact freshStem_fresh source ((starts number).isInfix.trans occurs)
    · obtain ⟨other, _, rfl⟩ := mem_tokens_mask.mp member'
      rw [eq_of_infix_tokenOf isStem occurs]
    · obtain ⟨items, text, clean, same⟩ := exists_clean_text source
      have present : number ∈ numbers items := by
        rw [same]
        exact mem_numbers_documentStage below
      rw [text]
      exact clean.existsUnique_index isStem present

/-- Tokens between tokens, behind a part of the stem, behind an underscore and before a prime, in a document that holds
the first stem. -/
theorem tokens_fresh_adjoining :
    let masked := mask .format "a = __znix_mask$x$y'' _$z;".toList
    "__znix_mask_1__".toList ∈ masked.tokens ∧
      (∃! index, "__znix_mask_1__".toList <+: masked.text.drop index) ∧
      ¬"__znix_mask_1__".toList <:+: "a = __znix_mask$x$y'' _$z;".toList ∧
      masked.text = "\x7b\na = __znix_mask__znix_mask_0____znix_mask_1__'' ___znix_mask_2__;\n\x7d".toList := by
  intro masked
  have member : "__znix_mask_1__".toList ∈ masked.tokens := by decide +kernel
  have text : masked.text =
      "\x7b\na = __znix_mask__znix_mask_0____znix_mask_1__'' ___znix_mask_2__;\n\x7d".toList := by decide +kernel
  obtain ⟨_, absent, _, _, once⟩ := (tokens_fresh "a = __znix_mask$x$y'' _$z;".toList).2.2 _ member
  exact ⟨member, once, absent, text⟩

end Dialect
