import Dialect.Proofs.Mask.Run
import Dialect.Proofs.Mask.Wrap
import Dialect.Proofs.Text.Respaced

/-! Restoring what a formatter has respaced. Its output consists of the same items with other blanks
between them, and no identifier arises that was not there; so it is clean, and each restoration does to
it what it does to the masked text itself. -/
namespace Dialect

/-- What stands between the braces is respaced, and so is what unwrapping makes of it. -/
theorem Respaced.unwrap {tokens : List (List Char)} (idents : AreIdents tokens) {body formatted : List Char}
    (respaced : Respaced tokens none (wrap body) formatted) :
    Respaced tokens none body (unwrap formatted) := by
  have newline : isBlankText ['\n'] = true := rfl
  have text : wrap body = '{' :: (['\n'] ++ ((body ++ ['\n']) ++ ['}'])) := by simp [wrap]
  rw [text] at respaced
  obtain ⟨gap, rest, blank, rfl, opened⟩ := respaced.sign_append idents rfl rfl
  have inside := opened.of_blank_append idents newline
  obtain ⟨inner, gap', blank', rfl, closed⟩ := inside.append_sign idents rfl rfl isBlankText_nil
  refine (closed.of_append_blank idents newline).of_words idents (by simp) ?_
  rw [Option.toList_none, List.nil_append, List.nil_append, blankSeparated_unwrap, stripBraces_trim blank blank']

/-- Whether an item ends in a character of an identifier, as all tokens do. -/
def Item.joins : Item → Bool
  | .char c => isIdentChar c
  | .token _ => true

/-- Items with other blanks between them: where two items would make one identifier, some blanks stay.
`joins` says so of the item before. -/
inductive RespacedItems : Bool → List Item → List Item → Prop where
  | done {gap gap' : List Char} (joins : Bool) (blank : isBlankText gap = true)
      (blank' : isBlankText gap' = true) : RespacedItems joins (gap.map .char) (gap'.map .char)
  | item {joins : Bool} {gap gap' : List Char} {item : Item} {rest rest' : List Item}
      (blank : isBlankText gap = true) (blank' : isBlankText gap' = true) (visible : item.isBlank = false)
      (apart : joins = true → item.joins = true → gap ≠ [] → gap' ≠ [])
      (further : RespacedItems item.joins rest rest') :
    RespacedItems joins (gap.map .char ++ item :: rest) (gap'.map .char ++ item :: rest')

section Items

variable {stem : List Char} {meaning : Nat → List Char} {items items' : List Item}

theorem Clean.of_append {front : List Item} (clean : Clean stem meaning (front ++ items)) :
    Clean stem meaning items := by
  induction front with
  | nil => exact clean
  | cons item front ih => exact ih clean.tail

theorem exists_tokenOf_eq_cons (isStem : IsStem stem) (number : Nat) :
    ∃ c rest, tokenOf stem number = c :: rest ∧ isBlank c = false := by
  obtain ⟨tail, shape, _⟩ := tokenOf_shape isStem number
  exact ⟨'_', _, shape, rfl⟩

theorem eq_nil_of_render (empty : render stem items = []) : items = [] := by
  match items with
  | [] => rfl
  | .char c :: _ => cases empty
  | .token number :: _ =>
    rw [render_token, List.append_eq_nil_iff] at empty
    exact absurd empty.1 (tokenOf_ne_nil stem number)

/-- Blanks at the start of a text are items of their own. -/
theorem exists_items_of_blank_append (isStem : IsStem stem) {gap text : List Char}
    (blank : isBlankText gap = true) (split : render stem items = gap ++ text) :
    ∃ rest, items = gap.map .char ++ rest ∧ render stem rest = text := by
  induction gap generalizing items with
  | nil => exact ⟨items, rfl, split⟩
  | cons g gap ih =>
    simp only [isBlankText_cons, Bool.and_eq_true] at blank
    match items with
    | [] => cases split
    | .char c :: items =>
      rw [render_char, List.cons_append, List.cons.injEq] at split
      obtain ⟨rest, rfl, same⟩ := ih blank.2 split.2
      exact ⟨rest, by rw [split.1, List.map_cons, List.cons_append], same⟩
    | .token number :: items =>
      obtain ⟨c, rest, shape, visible⟩ := exists_tokenOf_eq_cons isStem number
      rw [render_token, shape, List.cons_append, List.cons_append, List.cons.injEq] at split
      simp [split.1, blank.1] at visible

/-- What a formatter makes of a text with tokens has the same items. -/
theorem Respaced.exists_items (isStem : IsStem stem) {tokens : List (List Char)} {before : Option Char}
    {formatted : List Char} (clean : Clean stem meaning items)
    (covers : ∀ number ∈ numbers items, tokenOf stem number ∈ tokens)
    (made : ∀ token ∈ tokens, ∃ number, token = tokenOf stem number)
    (respaced : Respaced tokens before (render stem items) formatted) :
    ∃ items', formatted = render stem items' ∧ RespacedItems (before.any isIdentChar) items items' := by
  generalize text : render stem items = whole at respaced
  induction respaced generalizing items with
  | @done gap gap' before blank blank' =>
    obtain ⟨rest, rfl, same⟩ := exists_items_of_blank_append isStem blank (text.trans (List.append_nil gap).symm)
    rw [eq_nil_of_render same, List.append_nil]
    exact ⟨gap'.map .char, (render_chars stem gap').symm, .done _ blank blank'⟩
  | @word before gap gap' word rest rest' blank blank' isWord apart further ih =>
    obtain ⟨items, rfl, same⟩ := exists_items_of_blank_append isStem blank text
    have clean := clean.of_append
    rw [numbers_append, numbers_chars, List.nil_append] at covers
    rcases isWord with token | ⟨c, rfl, visible, alone⟩
    · obtain ⟨number, rfl⟩ := made word token
      obtain ⟨others, rfl⟩ := clean.head_of_prefix isStem ⟨rest, same.symm⟩
      rw [render_token, List.append_cancel_left_eq] at same
      obtain ⟨final, rfl, later⟩ :=
        ih clean.tail (fun n member => covers n (List.mem_cons_of_mem _ member)) same
      rw [getLast?_tokenOf] at later
      refine ⟨gap'.map .char ++ .token number :: final, by simp, ?_⟩
      refine .item blank blank' rfl (fun joins _ => apart joins ?_) later
      obtain ⟨tail, shape, _⟩ := tokenOf_shape isStem number
      rw [shape]
      rfl
    · match items, same with
      | .token number :: others, same =>
        exact absurd ⟨render stem others, same⟩ (alone _ (covers number List.mem_cons_self))
      | .char d :: others, same =>
        cases same
        obtain ⟨final, rfl, later⟩ := ih clean.tail covers rfl
        refine ⟨gap'.map .char ++ .char c :: final, by simp, ?_⟩
        exact .item blank blank' visible apart later

theorem Looser.insert {gap : List Char} (blank : isBlankText gap = true) (looser : Looser meaning items items') :
    Looser meaning items (gap.map .char ++ items') := by
  induction gap with
  | nil => exact looser
  | cons c gap ih =>
    simp only [isBlankText_cons, Bool.and_eq_true] at blank
    exact .part [] (isIdentChar_eq_false_of_isBlank blank.1) (ih blank.2)

theorem Looser.replace {gap : List Char} (blank : isBlankText gap = true) (nonempty : gap ≠ [])
    (dropped : List Item) (looser : Looser meaning items items') :
    Looser meaning (dropped ++ items) (gap.map .char ++ items') := by
  match gap, nonempty, blank with
  | c :: gap, _, blank =>
    simp only [isBlankText_cons, Bool.and_eq_true] at blank
    exact .part dropped (isIdentChar_eq_false_of_isBlank blank.1) (looser.insert blank.2)

/-- Resetting makes items looser, apart from blanks at the start that no identifier comes before. -/
theorem RespacedItems.looser {joins : Bool} (respaced : RespacedItems joins items items') :
    ∃ dropped rest, items = dropped ++ rest ∧ (joins = true → dropped = []) ∧ Looser meaning rest items' := by
  induction respaced with
  | @done gap gap' joins _ blank' =>
    refine ⟨[], gap.map .char, rfl, fun _ => rfl, ?_⟩
    have dropped : Looser meaning (gap.map .char) [] := .done _
    have last := dropped.insert blank'
    rwa [List.append_nil] at last
  | @item joins gap gap' item rest rest' _ blank' _ apart _ ih =>
    obtain ⟨dropped, later, rfl, kept, looser⟩ := ih
    have further (front : List Item) (own : item.joins = true → front = []) :
        Looser meaning (front ++ item :: (dropped ++ later)) (item :: rest') := by
      cases joining : item.joins with
      | true =>
        rw [own joining, kept joining]
        exact .keep item looser
      | false =>
        match item, joining with
        | .char c, separates =>
          rw [← List.cons_append, ← List.append_assoc]
          exact .part _ separates looser
    by_cases empty : gap' = []
    · rw [empty, List.map_nil, List.nil_append]
      cases joins with
      | false => exact ⟨gap.map .char, _, rfl, by simp, further [] fun _ => rfl⟩
      | true =>
        refine ⟨[], _, rfl, fun _ => rfl, further (gap.map .char) fun joining => ?_⟩
        by_contra gapped
        exact apart rfl joining (by simpa using gapped) empty
    · exact ⟨[], _, rfl, fun _ => rfl, (further [] fun _ => rfl).replace blank' empty (gap.map .char)⟩

theorem RespacedItems.clean (isStem : IsStem stem) {joins : Bool} (respaced : RespacedItems joins items items')
    (clean : Clean stem meaning items) : Clean stem meaning items' := by
  obtain ⟨dropped, rest, rfl, _, looser⟩ := @RespacedItems.looser meaning _ _ _ respaced
  exact looser.clean isStem clean.of_append

/-- The items that are not blank, in order. -/
def visibleItems (items : List Item) : List Item := items.filter fun item => !item.isBlank

@[simp] theorem visibleItems_append (a b : List Item) :
    visibleItems (a ++ b) = visibleItems a ++ visibleItems b := List.filter_append a b

@[simp] theorem visibleItems_cons {item : Item} (visible : item.isBlank = false) (items : List Item) :
    visibleItems (item :: items) = item :: visibleItems items := by
  rw [visibleItems, List.filter_cons_of_pos (by simp [visible]), visibleItems]

theorem visibleItems_blank {gap : List Char} (blank : isBlankText gap = true) :
    visibleItems (gap.map .char) = [] := by
  rw [visibleItems, List.filter_eq_nil_iff]
  intro item member
  obtain ⟨c, there, rfl⟩ := List.mem_map.mp member
  simp [Item.isBlank, isBlankText_iff.mp blank c there]

theorem RespacedItems.visibleItems_eq {joins : Bool} (respaced : RespacedItems joins items items') :
    visibleItems items = visibleItems items' := by
  induction respaced with
  | done _ blank blank' => rw [visibleItems_blank blank, visibleItems_blank blank']
  | item blank blank' visible _ _ ih =>
    rw [visibleItems_append, visibleItems_append, visibleItems_blank blank, visibleItems_blank blank',
      visibleItems_cons visible, visibleItems_cons visible, ih]

theorem exists_chars_of_blank {gap : List Item} (blank : ∀ item ∈ gap, item.isBlank = true) :
    ∃ text, isBlankText text = true ∧ gap = text.map .char := by
  induction gap with
  | nil => exact ⟨[], rfl, rfl⟩
  | cons item gap ih =>
    obtain ⟨text, blanks, rfl⟩ := ih fun other member => blank other (List.mem_cons_of_mem item member)
    have here := blank item List.mem_cons_self
    cases item with
    | char c => exact ⟨c :: text, by simp_all [Item.isBlank], rfl⟩
    | token number => cases here

/-- The first visible item, with the blanks before it. -/
theorem exists_of_visibleItems_eq_cons {item : Item} {rest : List Item}
    (same : visibleItems items = item :: rest) :
    ∃ gap later, isBlankText gap = true ∧ items = gap.map .char ++ item :: later ∧ visibleItems later = rest := by
  obtain ⟨front, later, rfl, blank, _, rfl⟩ := List.filter_eq_cons_iff.mp same
  obtain ⟨gap, blanks, rfl⟩ := exists_chars_of_blank fun item member => by simpa using blank item member
  exact ⟨gap, later, blanks, rfl, rfl⟩

theorem exists_of_visibleItems_eq_append {before rest : List Item} {item : Item}
    (same : visibleItems items = before ++ item :: rest) :
    ∃ front later, items = front ++ item :: later ∧ visibleItems front = before ∧ visibleItems later = rest := by
  obtain ⟨front, back, rfl, rfl, split⟩ := List.filter_eq_append_iff.mp same
  obtain ⟨gap, later, blank, rfl, rest⟩ := exists_of_visibleItems_eq_cons split
  refine ⟨front ++ gap.map .char, later, by simp, ?_, rest⟩
  rw [visibleItems_append, visibleItems_blank blank, List.append_nil]
  rfl

theorem exists_blank_append_startsVisible (items : List Item) :
    ∃ gap rest, isBlankText gap = true ∧ items = gap.map .char ++ rest ∧ StartsVisible rest := by
  induction items with
  | nil => exact ⟨[], [], rfl, rfl, by simp [StartsVisible]⟩
  | cons item items ih =>
    cases blank : item.isBlank with
    | false => exact ⟨[], item :: items, rfl, rfl, by simpa [StartsVisible] using blank⟩
    | true =>
      obtain ⟨gap, rest, blanks, rfl, visible⟩ := ih
      cases item with
      | char c => exact ⟨c :: gap, rest, by simp_all [Item.isBlank], rfl, visible⟩
      | token number => cases blank

theorem exists_endsVisible_append_blank (items : List Item) :
    ∃ rest gap, isBlankText gap = true ∧ items = rest ++ gap.map .char ∧ EndsVisible rest := by
  obtain ⟨gap, rest, blank, split, visible⟩ := exists_blank_append_startsVisible items.reverse
  refine ⟨rest.reverse, gap.reverse, by simpa [isBlankText] using blank, ?_, ?_⟩
  · rw [← List.reverse_reverse items, split, List.reverse_append, List.map_reverse]
  · exact fun item last => visible item (by simpa using last)

/-- Each step on items is one on all others with the same visible ones. -/
theorem Step.simulate {number : Nat} {text : List Char} {kind : PlaceholderKind} {others : List Item}
    (step : Step number text kind items items') (same : visibleItems items = visibleItems others) :
    ∃ others', Step number text kind others others' ∧ visibleItems items' = visibleItems others' := by
  have token : (Item.token number).isBlank = false := rfl
  have equals : (Item.char '=').isBlank = false := rfl
  have semicolon : (Item.char ';').isBlank = false := rfl
  have space (items : List Item) : visibleItems (.char ' ' :: items) = visibleItems items := rfl
  cases step with
  | plain before rest =>
    rw [visibleItems_append, visibleItems_cons token] at same
    obtain ⟨front, later, rfl, first, last⟩ := exists_of_visibleItems_eq_append same.symm
    exact ⟨_, .plain front later, by simp [first, last]⟩
  | @assignment gap gap' blank blank' before rest starts =>
    simp only [visibleItems_append, visibleItems_cons token, visibleItems_cons equals,
      visibleItems_blank blank, visibleItems_blank blank', List.nil_append] at same
    obtain ⟨front, later, rfl, first, last⟩ := exists_of_visibleItems_eq_append same.symm
    obtain ⟨gap₁, back, blank₁, rfl, final⟩ := exists_of_visibleItems_eq_cons last
    obtain ⟨gap₂, value, blank₂, rfl, visible⟩ := exists_blank_append_startsVisible back
    rw [visibleItems_append, visibleItems_blank blank₂, List.nil_append] at final
    refine ⟨_, .assignment blank₁ blank₂ front visible, ?_⟩
    simp only [visibleItems_append, space, first, final]
  | @continuation gap gap' gap'' blank blank' blank'' before ends rest =>
    simp only [visibleItems_append, visibleItems_cons token, visibleItems_cons equals,
      visibleItems_cons semicolon, visibleItems_blank blank, visibleItems_blank blank',
      visibleItems_blank blank'', List.nil_append, List.append_assoc, List.cons_append] at same
    obtain ⟨front, later, rfl, first, last⟩ := exists_of_visibleItems_eq_append same.symm
    obtain ⟨gap₁, back, blank₁, rfl, further⟩ := exists_of_visibleItems_eq_cons last
    obtain ⟨gap₂, value, blank₂, rfl, final⟩ := exists_of_visibleItems_eq_cons further
    obtain ⟨options, gap₀, blank₀, rfl, visible⟩ := exists_endsVisible_append_blank front
    rw [visibleItems_append, visibleItems_blank blank₀, List.append_nil] at first
    have split : options ++ gap₀.map .char ++ .char ';' :: (gap₁.map .char ++ .token number ::
          (gap₂.map .char ++ .char '=' :: value)) =
        options ++ gap₀.map .char ++ .char ';' :: gap₁.map .char ++
          .token number :: (gap₂.map .char ++ .char '=' :: value) := by simp
    rw [split]
    refine ⟨_, .continuation blank₀ blank₁ blank₂ visible value, ?_⟩
    simp only [visibleItems_append, space, visibleItems_cons equals, first, final]

/-- What is not blank of a text is the text of its visible items. -/
theorem visibleChars_render (isStem : IsStem stem) (items : List Item) :
    visibleChars (render stem items) = render stem (visibleItems items) := by
  induction items with
  | nil => rfl
  | cons item items ih =>
    cases item with
    | char c =>
      cases blank : isBlank c with
      | true => simpa [visibleChars, visibleItems, Item.isBlank, blank] using ih
      | false => simpa [visibleChars, visibleItems, Item.isBlank, blank] using ih
    | token number =>
      have shown : visibleChars (tokenOf stem number) = tokenOf stem number := by
        refine List.filter_eq_self.mpr fun c member => ?_
        simp [isBlank_eq_false_of_isIdentChar (isIdentChar_of_mem_tokenOf isStem c member)]
      rw [render_token, visibleChars_append, shown, ih, visibleItems_cons rfl, render_token]

end Items

/-- What stands for constructs in a masked text. -/
def Masked.tokens (masked : Masked) : List (List Char) := masked.placeholders.map (·.token)

theorem tokens_eq_map_range (source : List Char) :
    (mask .format source).tokens = (List.range (marks source).length).map (tokenOf (freshStem source)) := by
  have numbered : (mask .format source).tokens =
      ((marks source).zipIdx.map Prod.snd).map (tokenOf (freshStem source)) := by
    rw [Masked.tokens, placeholders_mask, List.map_map, List.map_map]
    rfl
  rw [numbered, List.zipIdx_map_snd, List.range_eq_range']

theorem mem_tokens_mask {source token : List Char} :
    token ∈ (mask .format source).tokens ↔
      ∃ number < (marks source).length, token = tokenOf (freshStem source) number := by
  rw [tokens_eq_map_range, List.mem_map]
  simp only [List.mem_range, eq_comm]

theorem areIdents_tokens (source : List Char) : AreIdents (mask .format source).tokens := by
  intro token member
  obtain ⟨number, _, rfl⟩ := mem_tokens_mask.mp member
  exact ⟨tokenOf_ne_nil _ number, isIdentChar_of_mem_tokenOf (isStem_freshStem source)⟩

/-- What stands for the body of a masked document in a respaced text of it. -/
theorem exists_respaced_body {source formatted : List Char}
    (respaced : Respaced (mask .format source).tokens none (mask .format source).body formatted) :
    ∃ items, formatted = render (freshStem source) items ∧
      RespacedItems false (documentStage source (marks source).length) items := by
  rw [← render_documentStage] at respaced
  refine respaced.exists_items (isStem_freshStem source) (clean_documentStage source)
    (fun number member => ?_) fun token member => ?_
  · rw [documentStage_masked, numbers_assemble, List.mem_map] at member
    obtain ⟨entry, there, rfl⟩ := member
    exact mem_tokens_mask.mpr ⟨entry.2, (List.getElem?_eq_some_iff.mp (mem_placedMarks.mp there)).1, rfl⟩
  · obtain ⟨number, _, same⟩ := mem_tokens_mask.mp member
    exact ⟨number, same⟩

/-- Restoring what a formatter has made of a masked document gives the source up to blanks: as long as
the formatter changes nothing but blanks, spares the tokens and leaves identifiers apart, what masking
added goes and what it took away comes back in its place. -/
theorem restore_respaced (source formatted : List Char)
    (respaced : Respaced (mask .format source).tokens none (mask .format source).text formatted) :
    visibleChars ((mask .format source).restore formatted) = visibleChars source := by
  have isStem := isStem_freshStem source
  have body : Respaced (mask .format source).tokens none (mask .format source).body
      (if (mask .format source).wrapped then unwrap formatted else formatted) := by
    rw [text_mask] at respaced
    split
    · next wrapped =>
      rw [if_pos wrapped] at respaced
      exact respaced.unwrap (areIdents_tokens source)
    · next unwrapped => rwa [if_neg unwrapped] at respaced
  obtain ⟨items, text, others⟩ := exists_respaced_body body
  have clean := others.clean isStem (clean_documentStage source)
  obtain ⟨restored, run, same⟩ := restoreAll_mask (visibleItems · = visibleItems ·)
    (fun step same _ => step.simulate same) others.visibleItems_eq clean
  calc visibleChars ((mask .format source).restore formatted)
      = visibleChars (render (freshStem source) restored) := by rw [Masked.restore, text, run]
    _ = visibleChars (render (freshStem source) (documentStage source 0)) := by
      rw [visibleChars_render isStem, visibleChars_render isStem, same]
    _ = visibleChars (spaced source) := by rw [← restoreAll_body, restoreAll_body_eq_spaced]
    _ = visibleChars source := visibleChars_spaced source

/-- A wrapped document with placeholders of all kinds, in which blanks come and go. -/
theorem restore_respaced_options :
    let source := "declare m : enum [ $x ]   = @do\x7b\x7d;\n".toList
    let formatted := "\x7b __znix_mask0__=[__znix_mask3__ ];\n  __znix_mask1__\t=\n\n__znix_mask2__=\x7b \x7d;\x7d\n".toList
    (mask .format source).wrapped = true ∧
      Respaced (mask .format source).tokens none (mask .format source).text formatted ∧
      visibleChars ((mask .format source).restore formatted) = "declarem:enum[$x]=@do\x7b\x7d;".toList := by
  intro source formatted
  have respaced : Respaced (mask .format source).tokens none (mask .format source).text formatted :=
    respaced_of_respaces 40 (by decide +kernel)
  have shown : visibleChars source = "declarem:enum[$x]=@do\x7b\x7d;".toList := by decide +kernel
  exact ⟨by decide +kernel, respaced, (restore_respaced source formatted respaced).trans shown⟩

end Dialect
