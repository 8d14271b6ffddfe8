import Dialect.Proofs.Mask.Respaced
import Dialect.Proofs.Text.Alignment

/-! Unwrapping what the formatter left alone. Lines lose indentation and the text its blanks at both ends,
so blanks change only there and next to line breaks. Restoring keeps it so. -/
namespace Dialect

/-- Blanks that are the same or, where lines are moved, break the line in both texts. -/
def SameGap (moved : Bool) (gap gap' : List Char) : Prop :=
  gap = gap' ∨ moved = true ∧ '\n' ∈ gap ∧ '\n' ∈ gap'

namespace SameGap

variable {moved : Bool} {a a' b b' : List Char}

theorem trans {c : List Char} (first : SameGap moved a b) (second : SameGap moved b c) : SameGap moved a c := by
  rcases first with rfl | ⟨moves, breaks, breaks'⟩
  · exact second
  · rcases second with rfl | ⟨_, _, breaks''⟩
    · exact .inr ⟨moves, breaks, breaks'⟩
    · exact .inr ⟨moves, breaks, breaks''⟩

theorem append (first : SameGap moved a a') (second : SameGap moved b b') :
    SameGap moved (a ++ b) (a' ++ b') := by
  rcases first with rfl | ⟨moves, breaks, breaks'⟩
  · rcases second with rfl | ⟨moves, breaks, breaks'⟩
    · exact .inl rfl
    · exact .inr ⟨moves, List.mem_append_right a breaks, List.mem_append_right a breaks'⟩
  · exact .inr ⟨moves, List.mem_append_left b breaks, List.mem_append_left b' breaks'⟩

theorem eq_nil (same : SameGap moved [] a) : a = [] := by
  rcases same with rfl | ⟨_, none, _⟩
  · rfl
  · cases none

theorem ne_nil (same : SameGap moved a a') (filled : a ≠ []) : a' ≠ [] := by
  rcases same with rfl | ⟨_, _, breaks⟩
  · exact filled
  · exact List.ne_nil_of_mem breaks

/-- Two gaps with blanks between them, which break the line if the gaps may be any there. -/
theorem join {p q : Prop} {starts ends : Bool} {gap : List Char} (kept : p ∨ ends = true ∨ SameGap moved a a')
    (kept' : starts = true ∨ q ∨ SameGap moved b b')
    (breaks : ends = false ∧ starts = false ∨ moved = true ∧ '\n' ∈ gap) :
    p ∨ q ∨ SameGap moved (a ++ (gap ++ b)) (a' ++ (gap ++ b')) := by
  rcases breaks with ⟨rfl, rfl⟩ | ⟨moves, newline⟩
  · rcases kept with start | ⟨⟨⟩⟩ | same
    · exact .inl start
    rcases kept' with ⟨⟨⟩⟩ | other | same'
    · exact .inr (.inl other)
    · exact .inr (.inr (same.append (.append (.inl rfl) same')))
  · exact .inr (.inr (.inr ⟨moves, by simp [newline], by simp [newline]⟩))

end SameGap

/-- The same items with other indentation: the blanks between two items are the same or, where lines are
moved, break the line in both. Those at the start and at the end of a text, as `first` and `last` say, may
be any. -/
inductive Reindented (moved last : Bool) : Bool → List Item → List Item → Prop where
  | done {first : Bool} {gap gap' : List Char} (blank : isBlankText gap = true)
      (blank' : isBlankText gap' = true) (kept : first = true ∨ last = true ∨ SameGap moved gap gap') :
    Reindented moved last first (gap.map .char) (gap'.map .char)
  | item {first : Bool} {gap gap' : List Char} {item : Item} {rest rest' : List Item}
      (blank : isBlankText gap = true) (blank' : isBlankText gap' = true) (visible : item.isBlank = false)
      (kept : first = true ∨ SameGap moved gap gap') (further : Reindented moved last false rest rest') :
    Reindented moved last first (gap.map .char ++ item :: rest) (gap'.map .char ++ item :: rest')

theorem not_mem_chars {item : Item} {gap : List Char} (visible : item.isBlank = false)
    (blank : isBlankText gap = true) : item ∉ gap.map .char := by
  intro member
  obtain ⟨c, there, rfl⟩ := List.mem_map.mp member
  simp [Item.isBlank, isBlankText_iff.mp blank c there] at visible

namespace Reindented

variable {moved first last : Bool} {items items' others : List Item}

theorem join {starts ends : Bool} {gap : List Char} {rest rest' : List Item}
    (front : Reindented moved ends first items items') (back : Reindented moved last starts rest rest')
    (blank : isBlankText gap = true) (breaks : ends = false ∧ starts = false ∨ moved = true ∧ '\n' ∈ gap) :
    Reindented moved last first (items ++ (gap.map .char ++ rest)) (items' ++ (gap.map .char ++ rest')) := by
  induction front with
  | @done first a a' blank₁ blank₁' kept =>
    -- the blanks at the seam become one gap
    cases back with
    | @done _ b b' blank₂ blank₂' kept' =>
      have joined := SameGap.join kept kept' breaks
      simp only [← List.map_append]
      exact .done (by simp [blank₁, blank, blank₂]) (by simp [blank₁', blank, blank₂']) joined
    | @item _ b b' item rest rest' blank₂ blank₂' visible kept' further =>
      have joined : _ ∨ False ∨ SameGap moved (a ++ (gap ++ b)) (a' ++ (gap ++ b')) :=
        SameGap.join kept (by tauto) breaks
      rw [false_or] at joined
      simp only [← List.append_assoc, ← List.map_append] at joined ⊢
      exact .item (by simp [blank₁, blank, blank₂]) (by simp [blank₁', blank, blank₂']) visible joined further
  | item blank₁ blank₁' visible kept further ih =>
    simp only [List.append_assoc, List.cons_append] at ih ⊢
    exact .item blank₁ blank₁' visible kept ih

theorem append {rest rest' : List Item} (front : Reindented moved false first items items')
    (back : Reindented moved last false rest rest') : Reindented moved last first (items ++ rest) (items' ++ rest') := by
  have nothing : isBlankText [] = true := rfl
  exact front.join back nothing (.inl ⟨rfl, rfl⟩)

theorem unchanged {gap : List Char} (blank : isBlankText gap = true) :
    Reindented moved last first (gap.map .char) (gap.map .char) :=
  .done blank blank (.inr (.inr (.inl rfl)))

theorem cons {item : Item} (visible : item.isBlank = false) (further : Reindented moved last false items items') :
    Reindented moved last first (item :: items) (item :: items') := by
  have nothing : isBlankText [] = true := rfl
  exact .item nothing nothing visible (.inr (.inl rfl)) further

theorem refl (items : List Item) : Reindented moved last first items items := by
  induction items generalizing first with
  | nil =>
    have nothing : isBlankText [] = true := rfl
    exact unchanged nothing
  | cons item items ih =>
    cases blank : item.isBlank with
    | false => exact cons blank ih
    | true =>
      cases item with
      | token number => cases blank
      | char c =>
        have here : isBlankText [c] = true := by simpa [Item.isBlank] using blank
        exact (unchanged here).append ih

theorem split {before rest : List Item} {item : Item} (visible : item.isBlank = false)
    (related : Reindented moved last first (before ++ item :: rest) others) :
    ∃ before' rest', others = before' ++ item :: rest' ∧ Reindented moved false first before before' ∧
      Reindented moved last false rest rest' := by
  generalize same : before ++ item :: rest = items at related
  induction related generalizing before with
  | done blank _ _ =>
    have member : item ∈ before ++ item :: rest := by simp
    exact absurd (same ▸ member) (not_mem_chars visible blank)
  | @item first gap gap' other inner inner' blank blank' visible' kept further ih =>
    obtain ⟨more, rfl, text⟩ := append_eq_append_cons_of_not_mem (not_mem_chars visible blank) same.symm
    cases more with
    | nil =>
      cases text
      rw [List.append_nil]
      exact ⟨gap'.map .char, inner', rfl, .done blank blank' (by tauto), further⟩
    | cons _ more =>
      cases text
      obtain ⟨before', rest', rfl, front, back⟩ := ih rfl
      exact ⟨gap'.map .char ++ other :: before', rest', by simp, .item blank blank' visible' kept front, back⟩

theorem of_blank {gap : List Char} (blank : isBlankText gap = true)
    (related : Reindented moved last first (gap.map .char) others) :
    ∃ gap', isBlankText gap' = true ∧ others = gap'.map .char ∧
      (first = true ∨ last = true ∨ SameGap moved gap gap') := by
  generalize same : gap.map Item.char = items at related
  cases related with
  | @done _ gap₁ gap' _ blank' kept =>
    obtain rfl : gap = gap₁ := List.map_injective_iff.mpr (fun _ _ => Item.char.inj) same
    exact ⟨gap', blank', rfl, kept⟩
  | item _ _ visible =>
    have absent := not_mem_chars visible blank
    simp [same] at absent

theorem trans (former : Reindented moved last first items items') (latter : Reindented moved last first items' others) :
    Reindented moved last first items others := by
  induction former generalizing others with
  | done blank blank' kept =>
    obtain ⟨gap, blank'', rfl, kept'⟩ := latter.of_blank blank'
    refine .done blank blank'' ?_
    rcases kept with start | final | same
    · exact .inl start
    · exact .inr (.inl final)
    · exact kept'.imp_right fun kept' => kept'.imp_right same.trans
  | item blank blank' visible kept _ ih =>
    obtain ⟨front, rest, rfl, gap, further⟩ := latter.split visible
    obtain ⟨gap, blank'', rfl, kept'⟩ := gap.of_blank blank'
    refine .item blank blank'' visible ?_ (ih further)
    rcases kept with start | same
    · exact .inl start
    · rcases kept' with start | ⟨⟨⟩⟩ | same'
      · exact .inl start
      · exact .inr (same.trans same')

/-- Blanks at the ends may change at will. -/
theorem ends {gap gap' gap'' : List Char} (blank : isBlankText gap = true) (blank' : isBlankText gap' = true)
    (blank'' : isBlankText gap'' = true) (items : List Item) :
    Reindented moved true true (gap.map .char ++ (items ++ gap'.map .char)) (items ++ gap''.map .char) := by
  have nothing : isBlankText [] = true := rfl
  have start : Reindented moved false true (gap.map .char) [] := .done blank nothing (.inl rfl)
  have final : Reindented moved true false (gap'.map .char) (gap''.map .char) := .done blank' blank'' (.inr (.inl rfl))
  have inner : Reindented moved false false items items := .refl items
  exact start.append (inner.append final)

theorem respaced {joins : Bool} (related : Reindented moved last first items items')
    (apart : first = true → joins = false) : RespacedItems joins items items' := by
  induction related generalizing joins with
  | done blank blank' _ => exact .done joins blank blank'
  | item blank blank' visible kept _ ih =>
    refine .item blank blank' visible (fun joining _ => ?_) (ih (by simp))
    rcases kept with start | same
    · simp [apart start] at joining
    · exact same.ne_nil

theorem startsVisible {gap : List Char} {rest : List Item} (blank : isBlankText gap = true)
    (visible : StartsVisible rest) (related : Reindented moved last false (gap.map .char ++ rest) others) :
    ∃ gap' rest', isBlankText gap' = true ∧ others = gap'.map .char ++ rest' ∧ StartsVisible rest' ∧
      Reindented moved last false (.char ' ' :: rest) (.char ' ' :: rest') := by
  cases rest with
  | nil =>
    rw [List.append_nil] at related
    obtain ⟨gap', blank', rfl, _⟩ := related.of_blank blank
    exact ⟨gap', [], blank', by simp, visible, .refl _⟩
  | cons item rest =>
    have shown := visible item rfl
    obtain ⟨front, rest', rfl, around, further⟩ := related.split shown
    obtain ⟨gap', blank', rfl, _⟩ := around.of_blank blank
    have space : isBlankText [' '] = true := by decide
    exact ⟨gap', item :: rest', blank', rfl, by simpa [StartsVisible] using shown,
      .item space space shown (.inr (.inl rfl)) further⟩

theorem endsVisible {gap : List Char} {before : List Item} (blank : isBlankText gap = true)
    (visible : EndsVisible before) (related : Reindented moved false first (before ++ gap.map .char) others) :
    ∃ before' gap', isBlankText gap' = true ∧ others = before' ++ gap'.map .char ∧ EndsVisible before' ∧
      Reindented moved false first (before ++ [.char ' ']) (before' ++ [.char ' ']) := by
  rcases List.eq_nil_or_concat before with rfl | ⟨before, item, rfl⟩
  · obtain ⟨gap', blank', rfl, _⟩ := related.of_blank blank
    exact ⟨[], gap', blank', rfl, visible, .refl _⟩
  · rw [List.concat_eq_append] at *
    have shown := visible item (by simp)
    rw [← List.append_cons] at related
    obtain ⟨before', final, rfl, front, around⟩ := related.split shown
    obtain ⟨gap', blank', rfl, _⟩ := around.of_blank blank
    refine ⟨before' ++ [item], gap', blank', by simp, by simpa [EndsVisible] using shown, ?_⟩
    simpa using front.append (.refl [item, .char ' '])

end Reindented

theorem Step.reindented {moved first last : Bool} {number : Nat} {text : List Char} {kind : PlaceholderKind}
    {items items' others : List Item} (step : Step number text kind items items')
    (related : Reindented moved last first items others) :
    ∃ others', Step number text kind others others' ∧ Reindented moved last first items' others' := by
  have token : (Item.token number).isBlank = false := rfl
  have equals : (Item.char '=').isBlank = false := rfl
  have semicolon : (Item.char ';').isBlank = false := rfl
  cases step with
  | plain before rest =>
    obtain ⟨before', rest', rfl, front, back⟩ := related.split token
    exact ⟨_, .plain before' rest', front.append ((Reindented.refl _).append back)⟩
  | assignment blank blank' before visible =>
    obtain ⟨before', later, rfl, front, behind⟩ := related.split token
    obtain ⟨sign, value, rfl, around, back⟩ := behind.split equals
    obtain ⟨gap, blank₁, rfl, _⟩ := around.of_blank blank
    obtain ⟨gap', rest', blank₂, rfl, visible', spaced⟩ := back.startsVisible blank' visible
    exact ⟨_, .assignment blank₁ blank₂ before' visible', front.append ((Reindented.refl _).append spaced)⟩
  | @continuation gap gap' gap'' blank blank' blank'' before visible rest =>
    rw [List.append_assoc (before ++ _), List.cons_append] at related
    obtain ⟨options, later, rfl, front, behind⟩ := related.split semicolon
    obtain ⟨around, later, rfl, between, behind⟩ := behind.split token
    obtain ⟨around', rest', rfl, between', back⟩ := behind.split equals
    obtain ⟨gap₁, blank₁, rfl, _⟩ := between.of_blank blank'
    obtain ⟨gap₂, blank₂, rfl, _⟩ := between'.of_blank blank''
    obtain ⟨before', gap₀, blank₀, rfl, visible', spaced⟩ := front.endsVisible blank visible
    have text : before' ++ gap₀.map .char ++ .char ';' :: (gap₁.map .char ++
          .token number :: (gap₂.map .char ++ .char '=' :: rest')) =
        before' ++ gap₀.map .char ++ .char ';' :: gap₁.map .char ++
          .token number :: (gap₂.map .char ++ .char '=' :: rest') := by simp
    rw [text]
    refine ⟨_, .continuation blank₀ blank₁ blank₂ visible' rest', ?_⟩
    simpa using spaced.append (.cons equals back)

/-- Whether unwrapping moves the lines of a text or changes how they end. -/
def movesLines (body : List Char) : Bool :=
  sharedIndent (splitLines body) != 0 || occursIn ['\r', '\n'] (body ++ ['\n'])

theorem reindented_line {moved : Bool} {indent : Nat} {line : List Char}
    (bounded : isBlankText (chopReturn line) = false → indent ≤ indentOf (chopReturn line)) :
    Reindented moved true true (line.map .char) ((dedent indent (chopReturn line)).map .char) := by
  obtain ⟨gap, blank, split⟩ := exists_blank_append_dedent bounded
  obtain ⟨gap', blank', split'⟩ := exists_chopReturn_append_blank line
  have nothing : isBlankText [] = true := rfl
  have trimmed := @Reindented.ends moved _ _ _ blank blank' nothing ((dedent indent (chopReturn line)).map .char)
  rw [← List.map_append, ← List.map_append, ← List.append_assoc, split, split'] at trimmed
  simpa using trimmed

theorem reindented_lines {found : List (List Char)} {change : List Char → List Char}
    (lines : ∀ line ∈ found, Reindented true true true (line.map .char) ((change line).map .char)) :
    Reindented true true true ((['\n'].intercalate found).map .char)
      ((['\n'].intercalate (found.map change)).map .char) := by
  induction found with
  | nil => exact .refl _
  | cons line rest ih =>
    have here := lines line List.mem_cons_self
    have later := ih fun other member => lines other (List.mem_cons_of_mem line member)
    by_cases more : rest = []
    · simpa [more] using here
    · have newline : isBlankText ['\n'] = true := by decide
      have joined := here.join later newline (.inr ⟨rfl, List.mem_cons_self⟩)
      rw [List.map_cons, List.intercalate_cons_of_ne_nil more,
        List.intercalate_cons_of_ne_nil (by simpa using more)]
      simpa using joined

theorem reindented_trim {moved : Bool} {gap : List Char} (blank : isBlankText gap = true) (text : List Char) :
    Reindented moved true true (text.map .char) ((trim text ++ gap).map .char) := by
  obtain ⟨front, blank₁, split⟩ := exists_blank_append_trimStart text
  obtain ⟨back, blank₂, split'⟩ := exists_trimEnd_append_blank (trimStart text)
  have ends := @Reindented.ends moved _ _ _ blank₁ blank₂ blank ((trim text).map .char)
  rw [trim, ← List.map_append, ← List.map_append, split', split, ← List.map_append] at ends
  exact ends

theorem reindented_outdented (body : List Char) :
    Reindented (movesLines body) true true (body.map .char) ((['\n'].intercalate (outdented body)).map .char) := by
  cases moves : movesLines body with
  | true =>
    have lines := @reindented_lines (splitLines body) fun line =>
      dedent (sharedIndent ((splitLines body).map chopReturn)) (chopReturn line)
    rw [intercalate_splitLines] at lines
    refine lines fun line member => reindented_line fun visible => ?_
    exact sharedIndent_le (List.mem_map_of_mem member) visible
  | false =>
    rw [movesLines, Bool.or_eq_false_iff, bne_eq_false_iff_eq] at moves
    have plain : ¬['\r', '\n'] <:+: body ++ ['\n'] := by
      rw [← occursIn_iff, moves.2]
      decide
    rw [outdented_eq_splitLines plain moves.1, intercalate_splitLines]
    exact .refl _

/-- What was between the added braces, with its lines moved to the left. -/
theorem reindented_unwrap (body : List Char) :
    Reindented (movesLines body) true true (body.map .char) ((unwrap (wrap body)).map .char) := by
  have moved := reindented_outdented body
  rw [unwrap_wrap_eq]
  split
  · next none =>
    have nothing : isBlankText [] = true := rfl
    have trimmed := @reindented_trim (movesLines body) _ nothing (['\n'].intercalate (outdented body))
    rw [List.isEmpty_iff.mp none] at trimmed
    exact moved.trans trimmed
  · exact moved.trans (reindented_trim (by decide) _)

theorem Reindented.of_visible {moved last : Bool} {word : List Char} {rest others : List Item}
    (shown : ∀ c ∈ word, isBlank c = false) (related : Reindented moved last false (word.map .char ++ rest) others) :
    ∃ rest', others = word.map .char ++ rest' ∧ Reindented moved last false rest rest' := by
  induction word generalizing others with
  | nil => exact ⟨others, rfl, related⟩
  | cons c word ih =>
    have visible : (Item.char c).isBlank = false := shown c List.mem_cons_self
    have nothing : isBlankText [] = true := rfl
    obtain ⟨front, later, rfl, around, further⟩ := @Reindented.split _ _ _ _ [] _ _ visible related
    obtain ⟨gap, _, rfl, kept⟩ := @Reindented.of_blank _ _ _ _ [] nothing around
    obtain rfl : gap = [] := by
      rcases kept with ⟨⟨⟩⟩ | ⟨⟨⟩⟩ | same
      exact same.eq_nil
    obtain ⟨rest', rfl, related'⟩ := ih (fun d member => shown d (List.mem_cons_of_mem c member)) further
    exact ⟨rest', rfl, related'⟩

/-- What arises from the text of items by indenting has the same items. -/
theorem Reindented.exists_items {stem : List Char} (isStem : IsStem stem) {moved first last : Bool} {items others : List Item}
    (related : Reindented moved last first ((render stem items).map .char) others) :
    ∃ items', others = (render stem items').map .char ∧ Reindented moved last first items items' := by
  -- on the number of items, since the blanks before the next visible one are passed at once
  generalize length : items.length = size
  induction size using Nat.strongRecOn generalizing first items others with
  | _ size ih =>
    obtain ⟨gap, rest, blank, rfl, starts⟩ := exists_blank_append_startsVisible items
    rw [render_append, render_chars, List.map_append] at related
    cases rest with
    | nil =>
      rw [render_nil, List.map_nil, List.append_nil] at related
      obtain ⟨gap', blank', rfl, kept⟩ := related.of_blank blank
      refine ⟨gap'.map .char, by simp, ?_⟩
      rw [List.append_nil]
      exact .done blank blank' kept
    | cons item rest =>
      have visible := starts item rfl
      have shorter : rest.length < size := by
        rw [← length, List.length_append, List.length_cons]
        omega
      obtain ⟨c, word, own, shown⟩ : ∃ c word, item.render stem = c :: word ∧ ∀ d ∈ c :: word, isBlank d = false := by
        cases item with
        | char c => exact ⟨c, [], rfl, by simpa [Item.isBlank] using visible⟩
        | token number =>
          obtain ⟨c, word, shape, _⟩ := exists_tokenOf_eq_cons isStem number
          refine ⟨c, word, shape, fun d member => ?_⟩
          exact isBlank_eq_false_of_isIdentChar (isIdentChar_of_mem_tokenOf isStem d (shape ▸ member))
      have text : render stem (item :: rest) = c :: (word ++ render stem rest) := by
        rw [← List.cons_append, ← own]
        rfl
      rw [text, List.map_cons, List.map_append] at related
      have visible' : (Item.char c).isBlank = false := shown c List.mem_cons_self
      obtain ⟨front, later, rfl, around, further⟩ := related.split visible'
      obtain ⟨gap', blank', rfl, kept⟩ := around.of_blank blank
      obtain ⟨rest', rfl, behind⟩ := further.of_visible fun d member => shown d (List.mem_cons_of_mem c member)
      obtain ⟨items', rfl, related'⟩ := ih rest.length shorter behind rfl
      refine ⟨gap'.map .char ++ item :: items', ?_, .item blank blank' visible (by tauto) related'⟩
      rw [render_append, render_chars, List.map_append]
      simp [render, own]

/-- The gaps stand at the ends, where `first` and `last` say that these are the ends of a text, or break
the line in both versions, where lines are moved. -/
def Margins (moved first last : Bool) (parts : List Part) : Prop :=
  ∀ front old new rest, parts = front ++ .gap old new :: rest →
    isBlankText old = true ∧ isBlankText new = true ∧
      (first = true ∧ front = [] ∨ last = true ∧ rest = [] ∨ moved = true ∧ '\n' ∈ old ∧ '\n' ∈ new)

theorem exists_gap_parts {moved : Bool} {gap gap' : List Char} (blank : isBlankText gap = true)
    (blank' : isBlankText gap' = true) {p : Prop} (kept : p ∨ SameGap moved gap gap') :
    ∃ parts, oldText parts = gap ∧ newText parts = gap' ∧
      ∀ front old new rest, parts = front ++ .gap old new :: rest → front = [] ∧ rest = [] ∧
        isBlankText old = true ∧ isBlankText new = true ∧ (p ∨ moved = true ∧ '\n' ∈ old ∧ '\n' ∈ new) := by
  by_cases same : gap = gap'
  · refine ⟨gap.map .keep, by simp, by simp [same], fun front old new rest split => ?_⟩
    exact absurd split keeps_ne
  · refine ⟨[.gap gap gap'], by simp, by simp, fun front old new rest split => ?_⟩
    obtain ⟨rfl, split⟩ : front = [] ∧ _ := by
      cases front with
      | nil => exact ⟨rfl, split⟩
      | cons _ front => simp at split
    cases split
    exact ⟨rfl, rfl, blank, blank', by simpa [SameGap, same] using kept⟩

theorem Reindented.exists_parts (stem : List Char) {moved first last : Bool} {items items' : List Item}
    (related : Reindented moved last first items items') :
    ∃ parts, oldText parts = render stem items ∧ newText parts = render stem items' ∧ Margins moved first last parts := by
  induction related with
  | @done first gap gap' blank blank' kept =>
    obtain ⟨parts, text, text', gaps⟩ := exists_gap_parts blank blank' (p := first = true ∨ last = true) (by tauto)
    refine ⟨parts, by simp [text], by simp [text'], fun front old new rest split => ?_⟩
    obtain ⟨start, final, hidden, hidden', kept⟩ := gaps front old new rest split
    exact ⟨hidden, hidden', by tauto⟩
  | @item first gap gap' item rest rest' blank blank' visible kept further ih =>
    obtain ⟨parts, text, text', gaps⟩ := exists_gap_parts blank blank' kept
    obtain ⟨later, text₁, text₁', margins⟩ := ih
    refine ⟨parts ++ ((item.render stem).map .keep ++ later), ?_, ?_, fun front old new after split => ?_⟩
    · simp only [oldText_append, text, oldText_keeps, text₁, render_append, render_chars]
      rfl
    · simp only [newText_append, text', newText_keeps, text₁', render_append, render_chars]
      rfl
    · rcases List.append_eq_append_iff.mp split with ⟨more, rfl, same⟩ | ⟨more, rfl, same⟩
      · obtain ⟨inner, rfl, same'⟩ := append_eq_append_cons_of_not_mem (not_mem_keeps old new _) same
        obtain ⟨hidden, hidden', place⟩ := margins inner old new after same'
        exact ⟨hidden, hidden', .inr (by simpa using place)⟩
      · cases more with
        | nil =>
          cases item with
          | char c => cases same
          | token number =>
            obtain ⟨c, word, shape⟩ := List.exists_cons_of_ne_nil (tokenOf_ne_nil stem number)
            simp [Item.render, shape] at same
        | cons _ more =>
          cases same
          obtain ⟨start, _, hidden, hidden', place⟩ := gaps front old new more rfl
          exact ⟨hidden, hidden', by tauto⟩

/-- A wrapped document that the formatter leaves alone comes back with one space for each run, and
elsewhere other blanks only at its ends and, where lines are moved, next to its line breaks. -/
theorem exists_parts_restore {source : List Char} (wrapped : (mask .format source).wrapped = true) :
    ∃ parts, oldText parts = spaced source ∧
      newText parts = (mask .format source).restore (mask .format source).text ∧ Margins (movesLines (mask .format source).body) true true parts := by
  have isStem := isStem_freshStem source
  have unwrapped := reindented_unwrap (mask .format source).body
  generalize movesLines (mask .format source).body = moved at unwrapped ⊢
  rw [← render_documentStage] at unwrapped
  obtain ⟨items, text, related⟩ := unwrapped.exists_items isStem
  have clean := ((related.respaced fun _ => rfl : RespacedItems false _ _)).clean isStem (clean_documentStage source)
  obtain ⟨restored, run, last⟩ := restoreAll_mask (Reindented moved true true) (fun step related _ => step.reindented related)
    related clean
  obtain ⟨parts, old, new, margins⟩ := last.exists_parts (freshStem source)
  refine ⟨parts, ?_, ?_, margins⟩
  · rw [old, ← restoreAll_body, restoreAll_body_eq_spaced]
  · have same : unwrap (wrap (render (freshStem source) (documentStage source (marks source).length))) =
        render (freshStem source) items :=
      List.map_injective_iff.mpr (fun _ _ => Item.char.inj) text
    rw [render_documentStage] at same
    rw [new, ← run, ← same, Masked.restore, text_mask, if_pos wrapped, if_pos wrapped]

end Dialect
