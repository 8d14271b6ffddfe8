import Dialect.Proofs.Declaration.Reported
import Dialect.Proofs.Declaration.Spelling
import Dialect.Proofs.Mask.Splice
import Dialect.Proofs.Structure.Action

/-! Which action markers are masked, and how they fit the action blocks that a scan enters. A marker outside comments
is masked unless a declaration takes its stretch, and where it stands before the brace that opens a block, the scan
enters this block. -/
namespace Dialect

/-- Masking replaces an action marker that ends at `index`. -/
def MarkerMasked (mode : MaskMode) (text : List Char) (index : Nat) : Prop :=
  ∃ splice ∈ (Draft.ofSource mode text).splices,
    startsWith actionShorthand (splice.span.slice text) = true ∧ splice.span.stop = index

instance (mode : MaskMode) (text : List Char) (index : Nat) : Decidable (MarkerMasked mode text index) :=
  inferInstanceAs (Decidable (∃ splice ∈ (Draft.ofSource mode text).splices,
    startsWith actionShorthand (splice.span.slice text) = true ∧ splice.span.stop = index))

section Masked

variable {mode : MaskMode} {source : List Char}

/-- What a declaration replaces starts with its keyword, or it is empty. -/
theorem first_of_declaration {d : Declaration} (placed : d.Placed source) {span : Span}
    (own : span ∈ (Construct.declaration d).spans mode source) (filled : span.start < span.stop) :
    source[span.start]? = some 'd' := by
  cases mode with
  | check =>
    obtain rfl := List.mem_singleton.mp own
    exact placed.first
  | format =>
    simp only [Construct.spans] at own
    split at own
    · simp only [List.mem_cons, List.not_mem_nil, or_false] at own
      rcases own with rfl | rfl
      · exact placed.first
      · exact absurd filled (Nat.lt_irrefl _)
    · obtain rfl := List.mem_singleton.mp own
      exact placed.first

/-- Of all constructs only action markers are spelled so. -/
theorem action_of_spans {construct : Construct} (member : construct ∈ constructs source) {span : Span}
    (own : span ∈ construct.spans mode source) (marked : startsWith actionShorthand (span.slice source) = true) :
    construct = .action span := by
  obtain ⟨more, slice⟩ := startsWith_iff.mp marked
  have sign := Span.getElem?_slice span source 0
  rw [← slice, List.getElem?_append_left (by simp [actionShorthand]), Nat.add_zero] at sign
  split at sign
  · next filled =>
    have first : source[span.start]? = some '@' := sign.symm
    have at_drop (start index : Nat) : source[start + index]? = (source.drop start)[index]? := by simp
    rcases mem_constructs.mp member with ⟨d, found, rfl⟩ | ⟨found, _, _, rfl⟩ | ⟨found, located, rfl⟩ |
      ⟨found, located, rfl⟩
    · rw [first_of_declaration (placed_of_mem_findDeclarations found) own (by omega)] at first
      cases first
    · rw [List.mem_singleton.mp own]
    · obtain rfl := List.mem_singleton.mp own
      obtain ⟨_, order, recognised⟩ := mem_findAll located
      obtain ⟨inner, rest, text, _⟩ := node?_eq_some recognised
      rw [at_drop, text] at first
      cases first
    · obtain rfl := List.mem_singleton.mp own
      obtain ⟨_, order, recognised⟩ := mem_findAll located
      obtain ⟨name, rest, text, _⟩ := reference?_eq_some recognised
      rw [← Nat.add_zero found.span.start, at_drop, text] at first
      cases first
  · cases sign

/-- The markers that are masked are the action constructs that find their stretch free. -/
theorem markerMasked_iff {index : Nat} :
    MarkerMasked mode source index ↔ ∃ start, .action ⟨start, index⟩ ∈ maskedConstructs mode source := by
  constructor
  · rintro ⟨splice, member, marked, rfl⟩
    have there := List.mem_map_of_mem (f := (·.span)) member
    rw [spans_ofSource] at there
    obtain ⟨construct, masked, own⟩ := List.mem_flatMap.mp there
    obtain rfl := action_of_spans (mem_constructs_of_masked masked) own marked
    exact ⟨splice.span.start, masked⟩
  · rintro ⟨start, masked⟩
    have there : ⟨start, index⟩ ∈ (Draft.ofSource mode source).splices.map (·.span) := by
      rw [spans_ofSource]
      exact List.mem_flatMap.mpr ⟨_, masked, List.mem_singleton.mpr rfl⟩
    obtain ⟨splice, member, span⟩ := List.mem_map.mp there
    obtain ⟨gap, rest, text, _, length⟩ := action_of_mem_constructs (mem_constructs_of_masked masked)
    dsimp only at text length
    have slice := (@Span.of_drop_eq ⟨start, index⟩ _ _ _ text (by simp [actionShorthand]; omega)).1
    refine ⟨splice, member, ?_, by rw [span]⟩
    rw [span, slice]
    exact startsWith_iff.mpr (List.prefix_append _ _)

/-- What is masked is a marker before a brace. -/
theorem MarkerMasked.endsMarked {before rest : List Char}
    (masked : MarkerMasked mode (before ++ '{' :: rest) before.length) : EndsMarked before := by
  obtain ⟨start, masked⟩ := markerMasked_iff.mp masked
  rcases mem_constructs.mp (mem_constructs_of_masked masked) with ⟨_, _, other⟩ | ⟨found, located, _, same⟩ |
    ⟨_, _, other⟩ | ⟨_, _, other⟩
  · cases other
  · exact exists_marker_iff.mp ⟨start, Construct.action.inj same ▸ located⟩
  · cases other
  · cases other

theorem Draft.not_claimed_of_apart {draft : Draft} {span : Span} (nonempty : span.start < span.stop)
    (apart : ∀ s ∈ draft.splices.map (·.span), s.Apart span) : draft.isClaimed span = false := by
  rw [isClaimed, List.any_eq_false]
  intro splice member
  have clear := apart _ (List.mem_map_of_mem member)
  have filled : span.isEmpty = false := by simp [Span.isEmpty]; omega
  simp only [Span.Apart] at clear
  simp only [Splice.meets, filled, Bool.false_eq_true, if_false, Bool.and_eq_true, decide_eq_true_eq]
  omega

/-- A construct is masked if nothing that comes before it replaces any of its stretch. -/
theorem Draft.mem_accepted {front rest : List Construct} {construct : Construct} {draft : Draft}
    (nonempty : construct.span.start < construct.span.stop)
    (free : ∀ s ∈ draft.splices.map (·.span), s.Apart construct.span)
    (clear : ∀ c ∈ front, ∀ s ∈ c.spans mode source, s.Apart construct.span) :
    construct ∈ accepted mode source draft (front ++ construct :: rest) := by
  induction front generalizing draft with
  | nil =>
    rw [List.nil_append, accepted, not_claimed_of_apart nonempty free]
    exact List.mem_cons_self
  | cons c front ih =>
    have clear' := fun d member => clear d (List.mem_cons_of_mem c member)
    rw [List.cons_append, accepted]
    split
    · exact ih free clear'
    · next unclaimed =>
      refine List.mem_cons_of_mem c (ih (fun s member => ?_) clear')
      rw [spans_mask (Bool.eq_false_iff.mpr unclaimed)] at member
      rcases List.mem_append.mp member with old | new
      · exact free s old
      · exact clear c List.mem_cons_self s new

theorem spelled_of_mem_findDeclarations {d : Declaration} (found : d ∈ findDeclarations source) :
    ∃ (head : Head) (matched rest : List Char), source.drop d.head.start = matched ++ rest ∧
      d.head.stop = d.head.start + matched.length ∧ head.Spelled matched := by
  obtain ⟨head, located, completed⟩ := List.mem_filterMap.mp found
  obtain ⟨_, order, recognised⟩ := mem_findAll located
  obtain ⟨_, matched, rest, text, length, spelled, _⟩ := head?_eq_some_iff.mp recognised
  rw [(ofHead?_eq_some completed).1]
  exact ⟨head.value, matched, rest, text, by omega, spelled⟩

section Marker

variable {front gap rest : List Char} {d : Declaration}

/-- No head reaches into a marker: it holds no `@`, and its keyword goes on in another way than `@do`. -/
theorem head_apart_marker (found : d ∈ findDeclarations source)
    (split : source = front ++ (actionShorthand ++ gap ++ '{' :: rest)) (blank : isBlankText gap = true) :
    d.head.Apart ⟨front.length, front.length + (3 + gap.length)⟩ := by
  obtain ⟨head, matched, further, text, length, spelled⟩ := spelled_of_mem_findDeclarations found
  have at_drop (index : Nat) : source[d.head.start + index]? = (matched ++ further)[index]? := by simp [← text]
  by_contra overlap
  simp only [Span.Apart, not_or, Nat.not_le] at overlap
  rcases Nat.lt_or_ge front.length d.head.start with later | earlier
  · obtain ⟨more, rfl⟩ : ∃ more, matched = 'd' :: 'e' :: more := by
      obtain ⟨_, _, _, rfl, _⟩ := spelled
      exact ⟨_, rfl⟩
    have first := visible_in_marker split blank rfl (Nat.le_of_lt later) overlap.2 (at_drop 0)
    have place : d.head.start - front.length = 1 := by
      generalize d.head.start - front.length = place at first
      rcases place with _ | _ | _ | place <;> simp_all [actionShorthand]
    have second := visible_in_marker split blank rfl (by omega) (by omega) (at_drop 1)
    rw [show d.head.start + 1 - front.length = 2 by omega] at second
    cases second
  · have sign : (matched ++ further)[front.length - d.head.start]? = some '@' := by
      rw [← at_drop, Nat.add_sub_cancel' earlier, split, List.getElem?_append_right Nat.le.refl, Nat.sub_self]
      rfl
    rw [List.getElem?_append_left (by omega)] at sign
    exact spelled.not_mem rfl rfl (by decide) (List.mem_of_getElem? sign)

/-- A declaration replaces nothing of a marker, unless its mask goes over it to the `=`. -/
theorem declaration_apart_marker (found : d ∈ findDeclarations source)
    (split : source = front ++ (actionShorthand ++ gap ++ '{' :: rest)) (blank : isBlankText gap = true)
    (clear : mode = .check → ¬ (d.head.start < front.length + (3 + gap.length) ∧
      front.length + (3 + gap.length) < d.equals)) :
    ∀ s ∈ (Construct.declaration d).spans mode source, s.Apart ⟨front.length, front.length + (3 + gap.length)⟩ := by
  have placed := placed_of_mem_findDeclarations found
  have sign : ¬ (front.length ≤ d.equals ∧ d.equals < front.length + (3 + gap.length)) := fun inside =>
    ne_in_marker split blank (by decide) rfl inside.1 inside.2 placed.sign
  cases mode with
  | check =>
    have brace : d.equals ≠ front.length + (3 + gap.length) := by
      intro same
      have equals := placed.sign
      rw [same, brace_of_marker split] at equals
      cases equals
    intro s own
    obtain rfl := List.mem_singleton.mp own
    have clear := clear rfl
    simp only [Span.Apart]
    omega
  | format =>
    intro s own
    simp only [Construct.spans] at own
    split at own
    · simp only [List.mem_cons, List.not_mem_nil, or_false] at own
      rcases own with rfl | rfl
      · exact head_apart_marker found split blank
      · simp only [Span.Apart]
        omega
    · rw [List.mem_singleton.mp own]
      exact head_apart_marker found split blank

end Marker

/-- Before an action construct come the declarations and the markers that stand before it. -/
theorem exists_before_action {span : Span} (found : span ∈ markers source)
    (bare : isCommented (source.take span.start) = false) :
    ∃ front rest, constructs source = front ++ .action span :: rest ∧ ∀ c ∈ front,
      (∃ d ∈ findDeclarations source, c = .declaration d) ∨
        ∃ earlier : Span, c = .action earlier ∧ earlier.stop ≤ span.start := by
  have order := (markers_ordered source).filter (fun span => !isCommented (source.take span.start))
  have kept : span ∈ (markers source).filter (fun span => !isCommented (source.take span.start)) :=
    List.mem_filter.mpr ⟨found, by rw [bare]; rfl⟩
  obtain ⟨earlier, later, split⟩ := List.append_of_mem kept
  rw [split] at order
  rw [constructs, split, List.map_append, List.map_cons]
  refine ⟨(findDeclarations source).map .declaration ++ earlier.map .action, _,
    by simp only [List.append_assoc, List.cons_append]; rfl, fun c member => ?_⟩
  rcases List.mem_append.mp member with declared | action
  · obtain ⟨d, found, rfl⟩ := List.mem_map.mp declared
    exact .inl ⟨d, found, rfl⟩
  · obtain ⟨marker, first, rfl⟩ := List.mem_map.mp action
    exact .inr ⟨marker, rfl, (List.pairwise_append.mp order).2.2 marker first _ List.mem_cons_self⟩

/-- A marker that no comment sign stands before on its line is masked, unless the mask of a declaration goes over it
to the `=`. -/
theorem markerMasked_of_bare {front gap rest : List Char}
    (split : source = front ++ (actionShorthand ++ gap ++ '{' :: rest)) (blank : isBlankText gap = true)
    (alone : front.getLast?.any isIdentChar = false) (bare : isCommented front = false)
    (clear : mode = .check → ∀ d ∈ findDeclarations source,
      ¬ (d.head.start < front.length + (3 + gap.length) ∧ front.length + (3 + gap.length) < d.equals)) :
    MarkerMasked mode source (front.length + (3 + gap.length)) := by
  have found := mem_markers.mpr ⟨front, gap, rest, split, blank, alone, rfl⟩
  obtain ⟨before, behind, whole, known⟩ := exists_before_action found (by rw [split, List.take_left, bare])
  refine markerMasked_iff.mpr ⟨front.length, ?_⟩
  rw [maskedConstructs, whole]
  refine Draft.mem_accepted (start_lt_of_mem_markers found).1 (by simp) fun c member s own => ?_
  rcases known c member with ⟨d, declared, rfl⟩ | ⟨earlier, rfl, order⟩
  · exact declaration_apart_marker declared split blank (fun check => clear check d declared) s own
  · obtain rfl := List.mem_singleton.mp own
    exact .inl order

/-- The same by what stands before the brace. -/
theorem MarkerMasked.of_endsMarked {before rest : List Char} (marked : EndsMarked (lineBefore before))
    (bare : isCommented before = false)
    (clear : mode = .check → ∀ d ∈ findDeclarations (before ++ '{' :: rest),
      ¬ (d.head.start < before.length ∧ before.length < d.equals)) :
    MarkerMasked mode (before ++ '{' :: rest) before.length := by
  obtain ⟨front, gap, rfl, blank, single, alone⟩ := marked.exists_on_line
  have bare' : isCommented front = false := by
    have inLine : '\n' ∉ actionShorthand ++ gap := by simp [actionShorthand, single]
    rw [isCommented, lineBefore_append inLine, List.contains_append, Bool.or_eq_false_iff] at bare
    exact bare.1
  have length : (front ++ (actionShorthand ++ gap)).length = front.length + (3 + gap.length) := by
    rw [List.length_append, length_marker]
  rw [length] at clear ⊢
  exact markerMasked_of_bare (List.append_assoc ..) blank alone bare' clear

end Masked

/-- The scan and the masks on action blocks, at any place of a text whose line starts with no action keyword. The scan
enters a block at the braces of the code where no block is open, none was entered before on this line, and a marker
stands before the brace on this line or still waits for one. At such a brace it enters one if a marker before it is
masked, unless the line starts with the brace. Where it enters one, the marker is masked, unless one waited, a comment
sign inside a string stands before it on the line or, for the parser, it stands between the keyword and the `=` of a
declaration. -/
theorem action_blocks_agree (mode : MaskMode) {text : List Char} {index : Nat}
    (ordinary : ∀ line ∈ (CodeLine.ofDocument text)[(Position.ofIndex text index).line]?, line.startsAction = false) :
    (Enters text index ↔
      codeAt? text index = some '{' ∧ blockAt text (.ofIndex text index) = none ∧
        (∀ earlier < (Position.ofIndex text index).column,
          ¬ EntersAt text ⟨(Position.ofIndex text index).line, earlier⟩) ∧
        (EndsMarked (lineBefore (text.take index)) ∨ MarkerWaits text (.ofIndex text index))) ∧
    (MarkerMasked mode text index → codeAt? text index = some '{' → blockAt text (.ofIndex text index) = none →
      (∀ earlier < (Position.ofIndex text index).column,
        ¬ EntersAt text ⟨(Position.ofIndex text index).line, earlier⟩) →
      isBlankText (lineBefore (text.take index)) = false → Enters text index) ∧
    (Enters text index → ¬ MarkerWaits text (.ofIndex text index) →
      ¬ SignInString (text.take index) (text.drop index) →
      (mode = .check → ∀ d ∈ findDeclarations text, ¬ (d.head.start < index ∧ index < d.equals)) →
      MarkerMasked mode text index) := by
  have entered := enters_iff ordinary
  refine ⟨entered, fun masked sign idle fresh visible => ?_, fun enters own plain clear => ?_⟩
  · refine entered.mpr ⟨sign, idle, fresh, .inl ?_⟩
    obtain ⟨before, rest, rfl, rfl⟩ := split_of_codeAt? rfl sign
    rw [List.take_left] at visible ⊢
    exact masked.endsMarked.lineBefore visible
  · obtain ⟨sign, _, _, marked⟩ := entered.mp enters
    have marked := marked.resolve_right own
    obtain ⟨before, rest, rfl, rfl⟩ := split_of_codeAt? rfl sign
    rw [List.take_left] at marked plain
    rw [List.drop_left] at plain
    have bare : viewMode before ('{' :: rest) ≠ .comment := by
      rw [viewMode_of_brace sign]
      decide
    refine .of_endsMarked marked (Bool.eq_false_iff.mpr fun commented => ?_) clear
    exact ((isCommented_iff before ('{' :: rest)).mp commented).elim bare plain

/-- A marker behind a brace without one and a string that holds another one. -/
theorem action_blocks_agree_in_attributes :
    Enters "é = \x7b s = \"@do \x7b\"; \x7d; c = @do  \x7b\n\x7d;\n".toList 31 ∧
      MarkerMasked .check "é = \x7b s = \"@do \x7b\"; \x7d; c = @do  \x7b\n\x7d;\n".toList 31 := by
  have agree := @action_blocks_agree .check "é = \x7b s = \"@do \x7b\"; \x7d; c = @do  \x7b\n\x7d;\n".toList 31
    (by decide +kernel)
  have enters := agree.1.mpr (by decide +kernel)
  have bare := (isCommented_iff "é = \x7b s = \"@do \x7b\"; \x7d; c = @do  ".toList
    "\x7b\n\x7d;\n".toList).not.mp (by decide +kernel)
  exact ⟨enters, agree.2.2 enters (by decide +kernel) (not_or.mp bare).2 fun _ => by decide +kernel⟩

/-- No line starts with an action keyword, no block is open at the brace with this index, and the scan enters one there
or a marker before it is masked, but not both. -/
def Disagree (mode : MaskMode) (text : List Char) (index : Nat) : Prop :=
  (∀ line ∈ CodeLine.ofDocument text, line.startsAction = false) ∧ text[index]? = some '{' ∧
    blockAt text (.ofIndex text index) = none ∧ ¬ (Enters text index ↔ MarkerMasked mode text index)

instance (mode : MaskMode) (text : List Char) (index : Nat) : Decidable (Disagree mode text index) := by
  unfold Disagree
  infer_instance

/-- A marker inside an open block waits, and the first brace after this block enters another one, without a marker
before it. -/
theorem action_blocks_disagree :
    let text := "x = @do \x7b\n  a = @do \x7b \x7d; \x7d; y = \x7b\n  foo\n\x7d;\n".toList
    Disagree .format text 32 ∧ Disagree .check text 32 ∧ MarkerWaits text (.ofIndex text 32) ∧
      ¬ EndsMarked (text.take 32) ∧ scan text = [] := by
  decide +kernel

end Dialect
