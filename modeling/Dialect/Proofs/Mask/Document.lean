import Dialect.Proofs.Mask.Stage

/-! The restoration of a whole document. Its marks in their places are laid out, the masked text is
the stage at which all of them are masked, and that stage is clean. So restoring all placeholders
leads to the stage at which none is masked: the source with one space for each run of blanks. -/
namespace Dialect

theorem precedes_of_span_eq {a b : Splice} (same : a.span = b.span) : a.precedes b = true := by
  simp [Splice.precedes_iff, same]

/-- The numbered marks of a document in their places. -/
def placedMarks (source : List Char) : List (Mark × Nat) :=
  sortBy (fun a b => (Mark.splice (freshStem source) a).precedes (Mark.splice (freshStem source) b))
    (marks source).zipIdx

section Placed

variable {source : List Char}

theorem sort_splices (source : List Char) :
    Splice.sort (Draft.ofSource .format source).splices =
      (placedMarks source).map (Mark.splice (freshStem source)) := by
  rw [Draft.ofSource_format, Splice.sort, placedMarks, sortBy_map fun _ _ _ _ => rfl]

theorem mem_placedMarks {entry : Mark × Nat} :
    entry ∈ placedMarks source ↔ (marks source)[entry.2]? = some entry.1 := by
  rw [placedMarks, mem_sortBy, List.mem_zipIdx_iff_getElem?]

theorem chain_placedMarks (source : List Char) :
    Splice.Chain source 0 ((placedMarks source).map (Mark.splice (freshStem source))) := by
  have chain := Splice.chain_sort .format source
  rwa [sort_splices] at chain

theorem laidOut_placedMarks (source : List Char) : LaidOut source (placedMarks source) := by
  refine ⟨fun entry member => ?_, ?_, ?_⟩
  · exact sound_marks source _ (List.mem_of_getElem? (mem_placedMarks.mp member))
  · exact List.pairwise_map.mp (chain_placedMarks source).ordered
  · have numbered : (marks source).zipIdx.Pairwise fun a b => a.2 < b.2 := by
      refine (List.pairwise_map (f := Prod.snd) (R := (· < ·))).mp ?_
      rw [List.zipIdx_map_snd]
      exact List.pairwise_lt_range' 1 (by decide)
    refine sortBy_ties (fun entry => entry.1.span) (fun a b same => ?_) numbered
    exact precedes_of_span_eq (a := Mark.splice (freshStem source) a) same

theorem nodup_placedMarks (source : List Char) : ((placedMarks source).map (·.2)).Nodup := by
  refine ((sortBy_perm _ _).map _).nodup_iff.mpr ?_
  rw [List.zipIdx_map_snd]
  exact List.nodup_range'

/-- The place of the mark with a given number. -/
theorem exists_at {mark : Mark} {number : Nat} (numbered : (marks source)[number]? = some mark) :
    ∃ before rest, placedMarks source = before ++ (mark, number) :: rest ∧
      LaidOut.At source before mark number rest := by
  have member : (mark, number) ∈ placedMarks source := mem_placedMarks.mpr numbered
  obtain ⟨before, rest, split⟩ := List.append_of_mem member
  have layout := laidOut_placedMarks source
  have distinct := nodup_placedMarks source
  rw [split] at layout distinct
  refine ⟨before, rest, split, layout, fun entry member same => ?_⟩
  rw [List.map_append, List.map_cons, List.perm_middle.nodup_iff, List.nodup_cons,
    ← List.map_append] at distinct
  exact distinct.1 (same ▸ List.mem_map_of_mem (f := (·.2)) member)

end Placed

/-- The stage of a document at which the marks with a number below `bound` are masked. -/
def documentStage (source : List Char) (bound : Nat) : List Item :=
  stage source (placedMarks source) bound

theorem step_documentStage {source : List Char} {mark : Mark} {number : Nat}
    (numbered : (marks source)[number]? = some mark) :
    Step number (mark.text source) mark.kind (documentStage source (number + 1))
      (documentStage source number) := by
  obtain ⟨before, rest, split, here⟩ := exists_at numbered
  rw [documentStage, documentStage, split]
  exact here.step

theorem render_assemble (stem source : List Char) (cursor : Nat) (pieces : List Piece) :
    render stem (assemble source cursor pieces) =
      Splice.weave source cursor (pieces.map fun piece => ⟨piece.span, render stem piece.items⟩) := by
  induction pieces generalizing cursor with
  | nil => rw [assemble, render_chars, List.map_nil, Splice.weave]
  | cons piece rest ih => simp [assemble, Splice.weave, ih]

/-- What stands for a masked mark. -/
def maskedPiece (entry : Mark × Nat) : Piece := ⟨entry.1.span, entry.1.items entry.2⟩

theorem documentStage_masked (source : List Char) :
    documentStage source (marks source).length =
      assemble source 0 ((placedMarks source).map maskedPiece) := by
  have masked : ∀ entry ∈ placedMarks source,
      pieces source (placedMarks source) (marks source).length entry = [maskedPiece entry] := by
    intro entry member
    have bounded := (List.getElem?_eq_some_iff.mp (mem_placedMarks.mp member)).1
    rw [pieces, if_pos bounded, maskedPiece]
  rw [documentStage, stage, List.flatMap_def, List.map_congr_left masked, ← List.flatMap_def,
    ← List.map_eq_flatMap]

theorem render_documentStage (source : List Char) :
    render (freshStem source) (documentStage source (marks source).length) = (mask .format source).body := by
  rw [documentStage_masked, render_assemble, body_mask, sort_splices, List.map_map]
  rfl

/-- What the placeholder with a given number stands for. -/
def meaningOf (source : List Char) (number : Nat) : List Char :=
  ((marks source)[number]?.map (Mark.text source)).getD []

theorem meaningOf_placed {source : List Char} {entry : Mark × Nat} (member : entry ∈ placedMarks source) :
    meaningOf source entry.2 = entry.1.text source := by
  simp [meaningOf, mem_placedMarks.mp member]

theorem loosened_items {source : List Char} {mark : Mark} {number : Nat} {meaning : Nat → List Char}
    (sound : mark.Sound source) (means : meaning number = mark.text source) :
    Loosened isIdentChar (mark.span.slice source) (expand meaning (mark.items number)) := by
  cases mark with
  | plain span =>
    have same : expand meaning [.token number] = span.slice source := by simp [Item.expand, means, Mark.text]
    rw [Mark.items, same]
    exact .refl _
  | opening d =>
    have same : expand meaning [.token number, .char ' ', .char '='] = d.head.slice source ++ [' ', '='] := by
      simp [Item.expand, means, Mark.text]
    have added : Loosened isIdentChar [] [' ', '='] := .replace (by simp) (by simp; decide)
    rw [Mark.items, same, Mark.span]
    simpa using Loosened.append_left (d.head.slice source) added
  | closing d =>
    have same : expand meaning [.char ';', .char ' ', .token number, .char ' '] = [';', ' ', ' '] := by
      simp [Item.expand, means, Mark.text]
    rw [Mark.items, same]
    exact .replace (by simp) (by simp; decide)
  | action span =>
    obtain ⟨_, gap, rest, text, _, length⟩ := sound
    have same : expand meaning [.token number, .char ' ', .char '=', .char ' '] =
        actionShorthand ++ [' ', '=', ' '] := by simp [Item.expand, means, Mark.text]
    have covered : span.slice source = actionShorthand ++ gap :=
      (Span.of_drop_eq text (by simp [actionShorthand]; omega)).1
    rw [Mark.items, same, Mark.span, covered]
    exact .append_left _ (.replace (by simp) (by simp; decide))

section Clean

variable {source : List Char} {meaning : Nat → List Char}

/-- Exchanging all tokens of a masked text gives the source made looser. -/
theorem loosened_assemble {stem : List Char} {entries : List (Mark × Nat)} {cursor : Nat}
    (sound : ∀ entry ∈ entries, entry.1.Sound source)
    (chain : Splice.Chain source cursor (entries.map (Mark.splice stem)))
    (means : ∀ entry ∈ entries, meaning entry.2 = entry.1.text source) :
    Loosened isIdentChar (source.drop cursor)
      (expand meaning (assemble source cursor (entries.map maskedPiece))) := by
  induction entries generalizing cursor with
  | nil =>
    rw [List.map_nil, assemble, expand_chars]
    exact .refl _
  | cons entry rest ih =>
    have order : cursor ≤ entry.1.span.start ∧ entry.1.span.start ≤ entry.1.span.stop ∧ _ :=
      chain.inside (Mark.splice stem entry) List.mem_cons_self
    have later := ih (fun e member => sound e (List.mem_cons_of_mem _ member)) chain.tail
      fun e member => means e (List.mem_cons_of_mem _ member)
    have here := loosened_items (sound entry List.mem_cons_self) (means entry List.mem_cons_self)
    simp only [List.map_cons, assemble, expand_append, expand_chars, maskedPiece]
    rw [← Span.slice_append_drop ⟨cursor, entry.1.span.start⟩ source order.1,
      ← Span.slice_append_drop entry.1.span source order.2.1]
    exact .append_left _ (here.append later)

theorem numbers_assemble (entries : List (Mark × Nat)) (cursor : Nat) :
    numbers (assemble source cursor (entries.map maskedPiece)) = entries.map (·.2) := by
  induction entries generalizing cursor with
  | nil => rw [List.map_nil, assemble, numbers_chars, List.map_nil]
  | cons entry rest ih =>
    have own : numbers (entry.1.items entry.2) = [entry.2] := by cases entry.1 <;> rfl
    simp only [List.map_cons, assemble, numbers_append, numbers_chars, ih, maskedPiece, own]
    rfl

theorem suffix_of_suffix_chars (text : List Char) {items rest : List Item} {number : Nat}
    (suffix : .token number :: rest <:+ text.map .char ++ items) : .token number :: rest <:+ items := by
  induction text with
  | nil => exact suffix
  | cons c text ih =>
    rcases List.suffix_cons_iff.mp suffix with same | later
    · cases same
    · exact ih later

/-- What stands after a token of a masked text: an added blank, or what follows the span of its mark. -/
def FollowsToken (source : List Char) (entries : List (Mark × Nat)) (number : Nat) (rest : List Item) :
    Prop :=
  (∃ more, rest = .char ' ' :: more) ∨
    ∃ span later, (.plain span, number) :: later <:+ entries ∧
      rest = assemble source span.stop (later.map maskedPiece)

theorem followsToken_of_suffix {entries : List (Mark × Nat)} {cursor number : Nat} {rest : List Item}
    (suffix : .token number :: rest <:+ assemble source cursor (entries.map maskedPiece)) :
    FollowsToken source entries number rest := by
  induction entries generalizing cursor with
  | nil =>
    rw [List.map_nil, assemble, ← List.append_nil ((source.drop cursor).map _)] at suffix
    cases List.suffix_nil.mp (suffix_of_suffix_chars _ suffix)
  | cons entry entries ih =>
    have further {cursor : Nat}
        (later : .token number :: rest <:+ assemble source cursor (entries.map maskedPiece)) :
        FollowsToken source (entry :: entries) number rest := by
      rcases ih later with blank | ⟨span, later, among, same⟩
      · exact .inl blank
      · exact .inr ⟨span, later, among.trans (List.suffix_cons entry entries), same⟩
    obtain ⟨mark, other⟩ := entry
    have suffix := suffix_of_suffix_chars _ suffix
    -- the characters that are added around a token hold no other one
    have assigned (added : List Char) (cursor : Nat) (suffix : .token number :: rest <:+
        .token other :: ((' ' :: added).map .char ++ assemble source cursor (entries.map maskedPiece))) :
        FollowsToken source ((mark, other) :: entries) number rest := by
      rcases List.suffix_cons_iff.mp suffix with same | later
      · cases same
        exact .inl ⟨_, rfl⟩
      · exact further (suffix_of_suffix_chars (' ' :: added) later)
    cases mark with
    | plain span =>
      rcases List.suffix_cons_iff.mp suffix with same | later
      · cases same
        exact .inr ⟨span, entries, List.suffix_refl _, rfl⟩
      · exact further later
    | action span => exact assigned ['=', ' '] span.stop suffix
    | opening d => exact assigned ['='] d.head.stop suffix
    | closing d => exact assigned [] d.equals (suffix_of_suffix_chars [';', ' '] suffix)

theorem clean_documentStage (source : List Char) :
    Clean (freshStem source) (meaningOf source) (documentStage source (marks source).length) := by
  have isStem := isStem_freshStem source
  have layout := laidOut_placedMarks source
  have chain := chain_placedMarks source
  have means (entry : Mark × Nat) (member : entry ∈ placedMarks source) := meaningOf_placed member
  rw [documentStage_masked]
  refine ⟨fun occurs => ?_, fun before number rest split c first => ?_, ?_⟩
  · have loosened := loosened_assemble layout.sound chain means
    exact freshStem_fresh source (loosened.isInfix (isIdentChar_of_mem_stem isStem) occurs)
  · rcases followsToken_of_suffix ⟨before, split.symm⟩ with ⟨more, rfl⟩ | ⟨span, later, among, rfl⟩
    · cases first
      rfl
    · refine Bool.eq_false_iff.mpr fun start => ?_
      have inner : ∀ entry ∈ later, entry ∈ placedMarks source := fun entry member =>
        among.subset (List.mem_cons_of_mem _ member)
      have chain : Splice.Chain source span.stop (later.map (Mark.splice (freshStem source))) := by
        obtain ⟨earlier, split⟩ := among
        rw [← split, List.map_append, List.map_cons] at chain
        exact chain.after
      have loosened := loosened_assemble (fun entry member => layout.sound entry (inner entry member))
        chain fun entry member => means entry (inner entry member)
      have stretch : Stretch source span := layout.sound _ (among.subset List.mem_cons_self)
      have next := stretch.next c (by simpa using loosened.head_of_isIdentStart first start)
      simp [start] at next
  · rw [numbers_assemble]
    exact nodup_placedMarks source

end Clean

theorem placeholders_mask (source : List Char) :
    (mask .format source).placeholders =
      (marks source).zipIdx.map (Mark.placeholder (freshStem source) source) := by
  rw [mask, Draft.ofSource_format]

theorem restoreAll_concat (placeholders : List Placeholder) (p : Placeholder) (text : List Char) :
    restoreAll (placeholders ++ [p]) text = restoreAll placeholders (p.restore text) := by
  simp [restoreAll]

/-- Restoring placeholders in order takes every text whose items are related to a stage to one that is
related to the last stage, if each step keeps its items related. -/
theorem restoreAll_related {source : List Char} (Related : List Item → List Item → Prop)
    (simulates : ∀ {number text kind items items' others}, Step number text kind items items' →
      Related items others → Clean (freshStem source) (meaningOf source) others →
      ∃ others', Step number text kind others others' ∧ Related items' others')
    {bound : Nat} (inside : bound ≤ (marks source).length) {others : List Item}
    (related : Related (documentStage source bound) others)
    (clean : Clean (freshStem source) (meaningOf source) others) :
    ∃ others', restoreAll ((mask .format source).placeholders.take bound)
        (render (freshStem source) others) = render (freshStem source) others' ∧
      Related (documentStage source 0) others' := by
  have isStem := isStem_freshStem source
  induction bound generalizing others with
  | zero => exact ⟨others, rfl, related⟩
  | succ bound ih =>
    have numbered := List.getElem?_eq_getElem inside
    generalize (marks source)[bound] = mark at numbered
    have placeholder : (mask .format source).placeholders[bound]? =
        some (Mark.placeholder (freshStem source) source (mark, bound)) := by
      simp [placeholders_mask, numbered]
    have means : meaningOf source bound = mark.text source := by simp [meaningOf, numbered]
    obtain ⟨others', step, related'⟩ := simulates (step_documentStage numbered) related clean
    obtain ⟨last, restored, final⟩ :=
      ih (Nat.le_of_succ_le inside) related' ((step.looser means).clean isStem clean)
    refine ⟨last, ?_, final⟩
    rw [List.take_add_one, placeholder, Option.toList_some, restoreAll_concat]
    rwa [step.restore isStem clean rfl]

theorem restoreAll_mask {source : List Char} (Related : List Item → List Item → Prop)
    (simulates : ∀ {number text kind items items' others}, Step number text kind items items' →
      Related items others → Clean (freshStem source) (meaningOf source) others →
      ∃ others', Step number text kind others others' ∧ Related items' others')
    {others : List Item} (related : Related (documentStage source (marks source).length) others)
    (clean : Clean (freshStem source) (meaningOf source) others) :
    ∃ others', restoreAll (mask .format source).placeholders (render (freshStem source) others) =
        render (freshStem source) others' ∧ Related (documentStage source 0) others' := by
  have all : (mask .format source).placeholders.take (marks source).length =
      (mask .format source).placeholders :=
    List.take_of_length_le (by simp [placeholders_mask])
  have run := restoreAll_related Related simulates (Nat.le_refl _) related clean
  rwa [all] at run

theorem restoreAll_body (source : List Char) :
    restoreAll (mask .format source).placeholders (mask .format source).body =
      render (freshStem source) (documentStage source 0) := by
  have run := restoreAll_mask Eq (fun step same _ => ⟨_, same ▸ step, rfl⟩) rfl
    (clean_documentStage source)
  obtain ⟨others, restored, rfl⟩ := run
  rwa [render_documentStage] at restored

end Dialect
