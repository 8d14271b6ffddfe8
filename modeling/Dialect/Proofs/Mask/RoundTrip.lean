import Dialect.Proofs.Mask.Run
import Dialect.Proofs.Mask.Wrap

/-! A masked document that the formatter leaves alone. Restoring it gives the source with one space for
each run of blanks next to what was split in two, and the source itself where nothing was. -/
namespace Dialect

/-- As formatters set a document: it starts with something visible and ends with something visible and a
newline, and no carriage return stands before a newline. -/
structure WellSet (source : List Char) : Prop where
  first : ∃ c, source.head? = some c ∧ isBlank c = false
  last : ∃ front c, source = front ++ [c, '\n'] ∧ isBlank c = false
  plain : ¬['\r', '\n'] <:+: source

section Body

variable {source : List Char}

theorem startsVisible_items (mark : Mark) (number : Nat) : StartsVisible (mark.items number) := by
  cases mark <;> simp [StartsVisible, Mark.items, Item.isBlank, isBlank]

/-- A mark ends before the newline at the end of its document, and if it ends right there, what stands
for it ends with something visible. -/
theorem stop_le_of_newline {mark : Mark} {front : List Char} (sound : mark.Sound (front ++ ['\n']))
    (number : Nat) : mark.span.stop ≤ front.length ∧
      (mark.span.stop = front.length → EndsVisible (mark.items number)) := by
  have newline : (front ++ ['\n'])[front.length]? = some '\n' := by simp
  have bounded {index : Nat} {c : Char} (there : (front ++ ['\n'])[index]? = some c) :
      index ≤ front.length := by
    have inside := (List.getElem?_eq_some_iff.mp there).1
    simp only [List.length_append, List.length_singleton] at inside
    omega
  cases mark with
  | plain span =>
    refine ⟨Nat.le_of_not_lt fun beyond => ?_, fun _ => by simp [EndsVisible, Mark.items, Item.isBlank]⟩
    have inside := sound.inside
    simp only [Mark.span, List.length_append, List.length_singleton] at beyond inside
    obtain ⟨c, there, _⟩ := sound.last '\n' (by rw [show span.stop - 1 = front.length by omega, newline]) rfl
    have outside := bounded there
    omega
  | action span =>
    have next := Mark.action_next sound
    refine ⟨bounded next, fun ends => ?_⟩
    rw [show span.stop = front.length from ends, newline] at next
    cases next
  | opening d =>
    refine ⟨Nat.le_trans sound.1.before (bounded sound.1.sign), fun _ => ?_⟩
    simp [EndsVisible, Mark.items, Item.isBlank, isBlank]
  | closing d =>
    have sign := sound.1.sign
    refine ⟨bounded sign, fun ends => ?_⟩
    rw [show d.equals = front.length from ends, newline] at sign
    cases sign

theorem body_plain (plain : ¬['\r', '\n'] <:+: source) :
    ¬['\r', '\n'] <:+: (mask .format source).body := by
  have isStem := isStem_freshStem source
  let kept (c : Char) : Bool := c == '\r' || c == '\n'
  have ident {c : Char} (ident : isIdentChar c = true) : kept c = false := by
    have other {d : Char} (separates : isIdentChar d = false) : c ≠ d := by
      rintro rfl
      simp [ident] at separates
    simp [kept, @other '\r' rfl, @other '\n' rfl]
  have separate : ∀ s ∈ (placedMarks source).map (Mark.splice (freshStem source)),
      s.replacement ≠ [] ∧ ∀ c ∈ s.replacement, kept c = false := by
    intro s member
    obtain ⟨⟨mark, number⟩, _, rfl⟩ := List.mem_map.mp member
    have token : .token number ∈ mark.items number := by cases mark <;> simp [Mark.items]
    have others : ∀ item ∈ mark.items number, item = .token number ∨ ∃ c, item = .char c ∧ kept c = false := by
      cases mark <;> simp [Mark.items, kept]
    refine ⟨fun none => tokenOf_ne_nil _ number (List.flatMap_eq_nil_iff.mp none _ token), fun c member => ?_⟩
    obtain ⟨item, among, own⟩ := List.mem_flatMap.mp member
    rcases others item among with rfl | ⟨d, rfl, separates⟩
    · exact ident (isIdentChar_of_mem_tokenOf isStem c own)
    · rwa [List.mem_singleton.mp own]
  have loosened := Splice.loosened_weave (chain_placedMarks source) separate
  rw [← sort_splices, ← body_mask] at loosened
  exact fun occurs => plain (loosened.isInfix (by simp [kept]) occurs)

theorem mem_maskedPieces {piece : Piece} (member : piece ∈ (placedMarks source).map maskedPiece) :
    ∃ mark number, Mark.Sound source mark ∧ piece = ⟨mark.span, mark.items number⟩ := by
  obtain ⟨entry, there, rfl⟩ := List.mem_map.mp member
  exact ⟨entry.1, entry.2, (laidOut_placedMarks source).sound entry there, rfl⟩

theorem startsVisible_masked (visible : VisibleAt source 0) :
    StartsVisible (documentStage source (marks source).length) := by
  rw [documentStage_masked]
  refine startsVisible_assemble visible (fun _ _ => Nat.zero_le _) (fun piece member => ?_)
    (fun piece member _ => ?_)
  all_goals obtain ⟨mark, number, _, rfl⟩ := mem_maskedPieces member
  · exact items_ne_nil mark number
  · exact startsVisible_items mark number

theorem exists_endsVisible_masked {front : List Char} {c : Char} (split : source = front ++ [c, '\n'])
    (visible : isBlank c = false) :
    ∃ inner, documentStage source (marks source).length = inner ++ [.char '\n'] ∧ EndsVisible inner := by
  have ends {piece : Piece} (member : piece ∈ (placedMarks source).map maskedPiece) :
      piece.span.stop ≤ front.length + 1 ∧ piece.items ≠ [] ∧
        (piece.span.stop = front.length + 1 → EndsVisible piece.items) := by
    obtain ⟨mark, number, sound, rfl⟩ := mem_maskedPieces member
    rw [split, List.append_cons] at sound
    have bounded := stop_le_of_newline sound number
    rw [List.length_append, List.length_singleton] at bounded
    exact ⟨bounded.1, items_ne_nil mark number, bounded.2⟩
  rw [documentStage_masked]
  generalize (placedMarks source).map maskedPiece = pieces at ends
  refine ⟨assembleTo source (front.length + 1) 0 pieces, ?_, ?_⟩
  · have joined := @assemble_append source 0 pieces [] _ (Nat.zero_le _) (fun piece member => (ends member).1)
      (by simp)
    rw [List.append_nil] at joined
    rw [joined, assemble]
    simp [split]
  · refine endsVisible_assembleTo ⟨c, by simp [split], visible⟩ (Nat.succ_pos _)
      (fun piece member => (ends member).1) (fun piece member => (ends member).2.1)
      (fun piece member => (ends member).2.2) (Nat.zero_le _)

/-- The masked text of such a document is set in the same way. -/
theorem body_of_wellSet (set : WellSet source) :
    ∃ c front, (mask .format source).body = c :: front ++ ['\n'] ∧ isBlank c = false ∧
      trimEnd (c :: front) = c :: front ∧ ¬['\r', '\n'] <:+: c :: front ++ ['\n'] := by
  have plain := body_plain set.plain
  obtain ⟨c, head, shown⟩ := set.first
  obtain ⟨front, last, split, ends⟩ := set.last
  have starts := startsVisible_masked ⟨c, by rwa [← List.head?_eq_getElem?], shown⟩
  obtain ⟨inner, joined, visible⟩ := exists_endsVisible_masked split ends
  have body := render_documentStage source
  have trimmed := trimStart_render (isStem_freshStem source) starts
  have trimmed' := @trimEnd_render (freshStem source) _ visible
  rw [body, ← body, joined, render_append] at trimmed
  rw [← body, joined, render_append] at plain ⊢
  cases text : render (freshStem source) inner with
  | nil =>
    rw [text] at trimmed
    cases trimmed
  | cons d front =>
    rw [text] at plain trimmed trimmed'
    refine ⟨d, front, rfl, ?_, trimmed', plain⟩
    exact isBlank_head_trimStart (congrArg List.head? trimmed)

end Body

theorem restore_text {source : List Char} (set : (mask .format source).wrapped = true → WellSet source) :
    (mask .format source).restore (mask .format source).text = spaced source := by
  have text := text_mask .format source
  rw [Masked.restore, text]
  cases wrapped : (mask .format source).wrapped with
  | false =>
    simp only [Bool.false_eq_true, if_false]
    exact restoreAll_body_eq_spaced source
  | true =>
    obtain ⟨c, front, body, visible, trimmed, plain⟩ := body_of_wellSet (set wrapped)
    have unwrapped := unwrap_wrap visible trimmed plain
    rw [← body] at unwrapped
    simp only [if_true, unwrapped]
    exact restoreAll_body_eq_spaced source

/-- Only constructs that are split in two have runs. -/
theorem spaced_of_plain {source : List Char}
    (plain : ∀ p ∈ (mask .format source).placeholders, p.kind = .plain) : spaced source = source := by
  have none : runs source = [] := by
    refine List.eq_nil_iff_forall_not_mem.mpr fun run member => ?_
    obtain ⟨mark, among, own⟩ := mem_runs.mp member
    obtain ⟨number, numbered⟩ := List.getElem?_of_mem among
    have placeholder : Mark.placeholder (freshStem source) source (mark, number) ∈
        (mask .format source).placeholders := by
      rw [placeholders_mask]
      exact List.mem_map_of_mem (List.mem_zipIdx_iff_getElem?.mpr numbered)
    have kind : mark.kind = .plain := plain _ placeholder
    cases mark with
    | plain => cases own
    | action | opening | closing => cases kind
  rw [spaced, none]
  rfl

/-- Restoring what the formatter left alone. The result is the source with one space for each run of
blanks between `@do` and its brace, right after the head of a declaration with options and right before
its `=`. Where no construct was split in two it is the source. -/
theorem format_mask_round_trip (source : List Char)
    (set : (mask .format source).wrapped = true → WellSet source) :
    let masked := mask .format source
    (∀ run ∈ runs source, isBlankText (run.slice source) = true) ∧
    (runs source).Pairwise Span.Apart ∧
    masked.restore masked.text = spaced source ∧
    ((∀ p ∈ masked.placeholders, p.kind = .plain) → masked.restore masked.text = source) := by
  intro masked
  have restored : masked.restore masked.text = spaced source := restore_text set
  refine ⟨fun run member => ?_, ?_, restored, fun plain => ?_⟩
  · obtain ⟨mark, isRun⟩ := isRun_of_mem_placedRuns (mem_placedRuns_iff.mpr member)
    exact isRun.blank.isBlankText_slice
  · have ordered : (placedRuns source).Pairwise Span.Apart :=
      (placedRuns_ordered source).imp fun order => .inl (Nat.le_of_lt order)
    exact (placedRuns_perm source).symm.pairwise ordered fun apart => Span.Apart.symm apart
  · rw [restored, spaced_of_plain plain]

/-- A wrapped document whose options, action and `=` have blanks to lose, and one that loses nothing. -/
theorem format_mask_round_trip_options :
    let source := "declare m : enum\t[ $x ]   = (zmdl a);\nb = @do  { };\n".toList
    let masked := mask .format source
    let plain := "x =  $ctx.user  ;\n".toList
    masked.wrapped = true ∧ WellSet source ∧
      masked.restore masked.text = "declare m : enum [ $x ] = (zmdl a);\nb = @do { };\n".toList ∧
      (∀ p ∈ (mask .format plain).placeholders, p.kind = .plain) ∧
      (mask .format plain).restore (mask .format plain).text = plain := by
  intro source masked plain
  have set : WellSet source :=
    ⟨⟨'d', by decide +kernel⟩, ⟨source.take (source.length - 2), ';', by decide +kernel⟩, by decide +kernel⟩
  have set' : WellSet plain :=
    ⟨⟨'x', by decide +kernel⟩, ⟨plain.take (plain.length - 2), ';', by decide +kernel⟩, by decide +kernel⟩
  have text : spaced source = "declare m : enum [ $x ] = (zmdl a);\nb = @do { };\n".toList := by
    decide +kernel
  have kinds : ∀ p ∈ (mask .format plain).placeholders, p.kind = .plain := by decide +kernel
  exact ⟨by decide +kernel, set, (format_mask_round_trip source fun _ => set).2.2.1.trans text, kinds,
    (format_mask_round_trip plain fun _ => set').2.2.2 kinds⟩

end Dialect
