import Dialect.Proofs.Mask.Splice
import Dialect.Proofs.Mask.Token

/-! The marks of a document: what stands behind each placeholder that a masking for the formatter makes.
A mark has a span that its splice replaces, and restoring it may leave one space for a run of blanks
next to that span. Spans and runs of different marks stay clear of each other. -/
namespace Dialect

namespace Declaration

/-- The blanks right after the head. -/
def afterHead (d : Declaration) (source : List Char) : Span :=
  ⟨d.head.stop, d.head.stop + ((source.drop d.head.stop).takeWhile isBlank).length⟩

/-- The blanks right before the `=`. -/
def beforeEquals (d : Declaration) (source : List Char) : Span :=
  ⟨d.equals - ((source.take d.equals).reverse.takeWhile isBlank).length, d.equals⟩

end Declaration

/-- What a placeholder stands for. -/
inductive Mark where
  | plain (span : Span)
  | action (span : Span)
  | opening (d : Declaration)
  | closing (d : Declaration)

namespace Mark

/-- What the splice of the mark replaces. -/
def span : Mark → Span
  | .plain span | .action span => span
  | .opening d => d.head
  | .closing d => ⟨d.equals, d.equals⟩

/-- What the splice of the mark puts there. -/
def items (number : Nat) : Mark → List Item
  | .plain _ => [.token number]
  | .action _ => [.token number, .char ' ', .char '=', .char ' ']
  | .opening _ => [.token number, .char ' ', .char '=']
  | .closing _ => [.char ';', .char ' ', .token number, .char ' ']

def kind : Mark → PlaceholderKind
  | .plain _ => .plain
  | .action _ | .opening _ => .assignment
  | .closing _ => .continuation

def text (source : List Char) : Mark → List Char
  | .plain span => span.slice source
  | .action _ => actionShorthand
  | .opening d => d.head.slice source
  | .closing _ => []

/-- The blanks for which restoring leaves one space. -/
def run? (source : List Char) : Mark → Option Span
  | .plain _ => none
  | .action span => some ⟨span.start + 3, span.stop⟩
  | .opening d => some (d.afterHead source)
  | .closing d => some (d.beforeEquals source)

def placeholder (stem source : List Char) (mark : Mark × Nat) : Placeholder :=
  ⟨tokenOf stem mark.2, mark.1.text source, mark.1.kind⟩

def splice (stem : List Char) (mark : Mark × Nat) : Splice :=
  ⟨mark.1.span, render stem (mark.1.items mark.2)⟩

end Mark

/-- The marks of a construct, in the order of their placeholders. -/
def Construct.marks (source : List Char) : Construct → List Mark
  | .declaration d => if d.hasInlineOptions source then [.opening d, .closing d] else [.plain d.head]
  | .action span => [.action span]
  | .node span | .reference span => [.plain span]

/-- The marks of a document, in the order of their placeholders. -/
def marks (source : List Char) : List Mark :=
  (maskedConstructs .format source).flatMap (Construct.marks source)

namespace Draft

/-- The draft with placeholders and splices for further marks. -/
def add (source : List Char) (draft : Draft) (marks : List Mark) : Draft :=
  let numbered := marks.zipIdx draft.placeholders.length
  { draft with
    placeholders := draft.placeholders ++ numbered.map (Mark.placeholder draft.stem source)
    splices := draft.splices ++ numbered.map (Mark.splice draft.stem) }

variable {source : List Char} {draft : Draft}

theorem add_add (first second : List Mark) :
    (draft.add source first).add source second = draft.add source (first ++ second) := by
  simp [add, List.zipIdx_append, Nat.add_comm]

theorem mask_free {construct : Construct} (free : draft.isClaimed construct.span = false) :
    draft.mask .format source construct = draft.add source (construct.marks source) := by
  rw [mask.eq_def, free]
  cases construct <;> simp only [Bool.false_eq_true, if_false, Construct.marks]
  case declaration d =>
    split <;>
      simp [split, plain, add, splice, remember, nextToken, Mark.placeholder, Mark.splice, Mark.items,
        Mark.span, Mark.text, Mark.kind]
  all_goals
    simp [plain, add, splice, remember, nextToken, Mark.placeholder, Mark.splice, Mark.items, Mark.span,
      Mark.text, Mark.kind]

theorem foldl_mask (constructs : List Construct) (draft : Draft) :
    constructs.foldl (mask .format source) draft =
      draft.add source ((accepted .format source draft constructs).flatMap (Construct.marks source)) := by
  induction constructs generalizing draft with
  | nil => simp [accepted, add]
  | cons construct rest ih =>
    rw [List.foldl_cons, ih, accepted]
    split
    · next claimed => rw [mask_claimed claimed]
    · next free => rw [mask_free (Bool.eq_false_iff.mpr free), List.flatMap_cons, add_add]

theorem ofSource_format (source : List Char) :
    ofSource .format source =
      ⟨freshStem source, (marks source).zipIdx.map (Mark.placeholder (freshStem source) source),
        (marks source).zipIdx.map (Mark.splice (freshStem source))⟩ := by
  rw [ofSource, foldl_mask]
  simp [add, marks, maskedConstructs]

end Draft

/-- Only blanks stand from `start` up to `stop`. -/
def BlankFrom (source : List Char) (start stop : Nat) : Prop :=
  ∀ index, start ≤ index → index < stop → ∃ c, source[index]? = some c ∧ isBlank c = true

/-- A character that is not blank stands at `index`. -/
def VisibleAt (source : List Char) (index : Nat) : Prop :=
  ∃ c, source[index]? = some c ∧ isBlank c = false

variable {source : List Char}

theorem BlankFrom.outside {start stop index : Nat} (blank : BlankFrom source start stop)
    (visible : VisibleAt source index) : index < start ∨ stop ≤ index := by
  rcases Nat.lt_or_ge index start with before | low
  · exact .inl before
  refine .inr (Nat.le_of_not_lt fun high => ?_)
  obtain ⟨c, there, hidden⟩ := blank index low high
  obtain ⟨d, same, shown⟩ := visible
  cases there.symm.trans same
  simp [shown] at hidden

theorem BlankFrom.isBlankText_slice {start stop : Nat} (blank : BlankFrom source start stop) :
    isBlankText (Span.slice ⟨start, stop⟩ source) = true := by
  refine isBlankText_iff.mpr fun c member => ?_
  obtain ⟨index, there⟩ := List.getElem?_of_mem member
  rw [Span.getElem?_slice] at there
  obtain ⟨near, there⟩ := Option.ite_none_right_eq_some.mp there
  simp only at near there
  obtain ⟨d, same, hidden⟩ := blank (start + index) (by omega) (by omega)
  cases same.symm.trans there
  exact hidden

theorem Stretch.visible {span : Span} (stretch : Stretch source span) :
    VisibleAt source span.start := by
  have order := stretch.order
  have inside := stretch.inside
  have there := List.getElem?_eq_getElem (by omega : span.start < source.length)
  exact ⟨_, there, (stretch.first _ there).1⟩

theorem getElem?_takeWhile (p : Char → Bool) (text : List Char) {index : Nat}
    (inside : index < (text.takeWhile p).length) : ∃ c, text[index]? = some c ∧ p c = true := by
  have there := List.getElem?_eq_getElem inside
  refine ⟨_, ?_, of_mem_takeWhile (List.mem_of_getElem? there)⟩
  rw [← there, ← List.getElem?_append_left inside, List.takeWhile_append_dropWhile]

theorem getElem?_length_takeWhile (p : Char → Bool) (text : List Char) {c : Char}
    (there : text[(text.takeWhile p).length]? = some c) : p c = false := by
  have stopped := List.head?_dropWhile_not p text
  rw [List.head?_eq_getElem?, ← Nat.sub_self (text.takeWhile p).length,
    ← List.getElem?_append_right (Nat.le_refl _), List.takeWhile_append_dropWhile, there] at stopped
  simpa using stopped

namespace Declaration.Placed

variable {d : Declaration}

theorem visible (placed : d.Placed source) : VisibleAt source d.equals := ⟨'=', placed.sign, rfl⟩

theorem blank_afterHead (source : List Char) (d : Declaration) :
    BlankFrom source d.head.stop (d.afterHead source).stop := by
  intro index low high
  simp only [afterHead] at high
  have inside : index - d.head.stop < ((source.drop d.head.stop).takeWhile isBlank).length := by omega
  obtain ⟨c, there, blank⟩ := getElem?_takeWhile isBlank (source.drop d.head.stop) inside
  exact ⟨c, by simpa [Nat.add_sub_cancel' low] using there, blank⟩

/-- Something visible ends the blanks after a head before its `=`. -/
theorem afterHead_visible (placed : d.Placed source) (options : d.hasInlineOptions source = true) :
    VisibleAt source (d.afterHead source).stop ∧ (d.afterHead source).stop < d.equals := by
  have inside := placed.inside
  have order := placed.before
  have low : d.head.stop ≤ (d.afterHead source).stop := by simp [afterHead]
  have before : (d.afterHead source).stop < d.equals := by
    refine Nat.lt_of_not_le fun beyond => ?_
    have blank : BlankFrom source d.head.stop d.equals := fun index low high =>
      blank_afterHead source d index low (Nat.lt_of_lt_of_le high beyond)
    have blank : isBlankText (d.optionSpan.slice source) = true := blank.isBlankText_slice
    simp [hasInlineOptions, blank] at options
  have there := List.getElem?_eq_getElem (by omega : (d.afterHead source).stop < source.length)
  refine ⟨⟨_, there, getElem?_length_takeWhile isBlank (source.drop d.head.stop) ?_⟩, before⟩
  rw [List.getElem?_drop]
  exact there

theorem blank_beforeEquals (placed : d.Placed source) :
    BlankFrom source (d.beforeEquals source).start d.equals := by
  intro index low high
  have inside := placed.inside
  simp only [beforeEquals] at low
  have near : d.equals - 1 - index <
      ((source.take d.equals).reverse.takeWhile isBlank).length := by omega
  obtain ⟨c, there, blank⟩ := getElem?_takeWhile isBlank (source.take d.equals).reverse near
  rw [List.getElem?_reverse (by simp only [List.length_take]; omega), List.length_take,
    show min d.equals source.length - 1 - (d.equals - 1 - index) = index by omega,
    List.getElem?_take_of_lt high] at there
  exact ⟨c, there, blank⟩

/-- Something visible stands before the blanks before an `=`. -/
theorem beforeEquals_visible (placed : d.Placed source) (options : d.hasInlineOptions source = true) :
    (d.afterHead source).stop < (d.beforeEquals source).start ∧
      VisibleAt source ((d.beforeEquals source).start - 1) := by
  obtain ⟨shown, before⟩ := placed.afterHead_visible options
  have inside := placed.inside
  have apart := placed.blank_beforeEquals.outside shown
  have order : (d.afterHead source).stop < (d.beforeEquals source).start := by omega
  have start : (d.beforeEquals source).start ≤ d.equals := Nat.sub_le _ _
  have there := List.getElem?_eq_getElem
    (by omega : (d.beforeEquals source).start - 1 < source.length)
  refine ⟨order, _, there, getElem?_length_takeWhile isBlank (source.take d.equals).reverse ?_⟩
  have distance : (d.beforeEquals source).start =
      d.equals - ((source.take d.equals).reverse.takeWhile isBlank).length := rfl
  rw [List.getElem?_reverse (by simp only [List.length_take]; omega), List.length_take,
    List.getElem?_take_of_lt (by omega), ← there]
  congr 1
  omega

/-- The blanks after a head never lead to the `=` of a declaration: the head would own that `=`, and
would have no options. -/
theorem afterHead_ne_equals {e : Declaration} (placed : d.Placed source)
    (options : d.hasInlineOptions source = true) (placed' : e.Placed source) :
    (d.afterHead source).stop ≠ e.equals := by
  intro same
  have place : d.head.stop + ((source.drop d.head.stop).takeWhile isBlank).length = e.equals := same
  have sign : source.drop e.equals = '=' :: source.drop (e.equals + 1) :=
    (List.drop_eq_getElem?_toList_append).trans (by rw [placed'.sign]; rfl)
  have text := takeWhile_append_drop isBlank (source.drop d.head.stop)
  rw [List.drop_drop, place, sign] at text
  have blank : isBlankText ((source.drop d.head.stop).takeWhile isBlank) = true := List.all_takeWhile
  have single : (source.drop (e.equals + 1)).head? ≠ some '=' := by simpa using placed'.single
  have found := topLevel?_blanks blank single
  rw [text, placed.search] at found
  have before := (placed.afterHead_visible options).2
  simp only [afterHead, Option.some.injEq] at found before
  omega

end Declaration.Placed

namespace Mark

/-- What masking relies on at the place of a mark. -/
def Sound (source : List Char) : Mark → Prop
  | .plain span => Stretch source span
  | .action span => Stretch source span ∧ ∃ gap rest,
    source.drop span.start = actionShorthand ++ gap ++ '{' :: rest ∧ isBlankText gap = true ∧
      span.stop = span.start + 3 + gap.length
  | .opening d | .closing d => d.Placed source ∧ d.hasInlineOptions source = true

/-- The first place that belongs to the mark or to its run. -/
def left (source : List Char) : Mark → Nat
  | .plain span | .action span => span.start
  | .opening d => d.head.start
  | .closing d => (d.beforeEquals source).start

/-- The first place after the mark and its run. -/
def right (source : List Char) : Mark → Nat
  | .plain span | .action span => span.stop
  | .opening d => (d.afterHead source).stop
  | .closing d => d.equals

def isPlain : Mark → Bool
  | .plain _ => true
  | _ => false

def isClosing : Mark → Bool
  | .closing _ => true
  | _ => false

variable {a b : Mark}

/-- A mark that replaces something replaces a stretch. -/
theorem Sound.stretch (sound : a.Sound source) (replaces : a.isClosing = false) :
    Stretch source a.span := by
  cases a with
  | plain span => exact sound
  | action span => exact sound.1
  | opening d => exact stretch_head sound.1
  | closing d => cases replaces

theorem left_of_not_closing (replaces : a.isClosing = false) : a.left source = a.span.start := by
  cases a with
  | plain | action | opening => rfl
  | closing => cases replaces

/-- A brace stops the blanks of an action. -/
theorem action_next {span : Span} (sound : (Mark.action span).Sound source) :
    source[span.stop]? = some '{' := by
  obtain ⟨_, gap, rest, text, _, length⟩ := sound
  have there : source[span.start + (3 + gap.length)]? = (source.drop span.start)[3 + gap.length]? := by simp
  have size : (actionShorthand ++ gap).length = 3 + gap.length := by simp [actionShorthand]; omega
  rw [length, Nat.add_assoc, there, text, List.getElem?_append_right (by omega), size, Nat.sub_self]
  rfl

/-- Before the run of a closing mark a stretch has ended. -/
theorem stop_le_beforeEquals {span : Span} {d : Declaration} (stretch : Stretch source span)
    (placed : d.Placed source) (order : span.stop ≤ d.equals) :
    span.stop ≤ (d.beforeEquals source).start := by
  refine Nat.le_of_not_lt fun inside => ?_
  have positive := stretch.order
  obtain ⟨c, there, blank⟩ := placed.blank_beforeEquals (span.stop - 1) (by omega) (by omega)
  obtain ⟨e, next, shown, other⟩ := stretch.last c there blank
  have apart := placed.blank_beforeEquals.outside ⟨e, next, shown⟩
  have same : span.stop = d.equals := by omega
  rw [same, placed.sign] at next
  exact other (Option.some.inj next).symm

theorem right_le_left_closing {d : Declaration} (first : a.Sound source) (placed : d.Placed source)
    (order : a.span.stop ≤ d.equals) (other : a.span ≠ ⟨d.equals, d.equals⟩) :
    a.right source ≤ (d.beforeEquals source).start ∧
      (a.isPlain = false → a.right source < (d.beforeEquals source).start) := by
  have blank := placed.blank_beforeEquals
  have before : (d.beforeEquals source).start ≤ d.equals := Nat.sub_le _ _
  cases a with
  | plain span =>
    exact ⟨stop_le_beforeEquals first placed order, fun visible => by cases visible⟩
  | action span =>
    have low : span.stop ≤ (d.beforeEquals source).start := stop_le_beforeEquals first.1 placed order
    have next := action_next first
    have apart := blank.outside ⟨'{', next, rfl⟩
    have strict : span.stop < (d.beforeEquals source).start := by
      refine Nat.lt_of_le_of_ne low fun same => ?_
      rw [show span.stop = d.equals by omega, placed.sign] at next
      cases next
    exact ⟨low, fun _ => strict⟩
  | opening e =>
    obtain ⟨shown, _⟩ := first.1.afterHead_visible first.2
    have beyond := (Declaration.Placed.blank_afterHead source e).outside placed.visible
    have apart := blank.outside shown
    have unequal := first.1.afterHead_ne_equals first.2 placed
    simp only [right, span] at order ⊢
    omega
  | closing e =>
    have apart := blank.outside first.1.visible
    have unequal : e.equals ≠ d.equals := fun same => other (by simp only [span, same])
    simp only [right, span] at order ⊢
    omega

/-- Marks and their runs follow each other as their spans do, and a run of blanks before an `=` touches
nothing but plain marks. -/
theorem right_le_left (first : a.Sound source) (second : b.Sound source)
    (order : a.span.stop ≤ b.span.start) (other : a.span ≠ b.span) :
    a.right source ≤ b.left source ∧
      (a.isPlain = false → a.isClosing = true ∨ b.isClosing = true → a.right source < b.left source) := by
  cases closing : b.isClosing with
  | true =>
    cases b with
    | plain | action | opening => cases closing
    | closing d =>
      have known := right_le_left_closing first second.1 order other
      exact ⟨known.1, fun visible _ => known.2 visible⟩
  | false =>
    have stretch := second.stretch closing
    rw [left_of_not_closing closing]
    cases a with
    | plain span => exact ⟨order, fun visible => by cases visible⟩
    | action span => exact ⟨order, fun _ => by simp [isClosing]⟩
    | opening d =>
      have apart := (Declaration.Placed.blank_afterHead source d).outside stretch.visible
      have order : d.head.stop ≤ b.span.start := order
      exact ⟨apart.resolve_left (Nat.not_lt.mpr order), fun _ => by simp [isClosing]⟩
    | closing d =>
      have strict : d.equals < b.span.start := by
        refine Nat.lt_of_le_of_ne order fun same => ?_
        exact (stretch.first '=' (same ▸ first.1.sign)).2 rfl
      exact ⟨Nat.le_of_lt strict, fun _ _ => strict⟩

/-- What is known of the run of a mark. -/
structure IsRun (source : List Char) (mark : Mark) (run : Span) : Prop where
  order : run.start ≤ run.stop
  stop : run.stop = mark.right source
  start : mark.left source ≤ run.start
  inner : mark.isClosing = false → mark.left source < run.start
  replaces : mark.isPlain = false
  blank : BlankFrom source run.start run.stop

theorem Sound.isRun (sound : a.Sound source) {run : Span} (own : a.run? source = some run) :
    IsRun source a run := by
  cases a with
  | plain => cases own
  | action span =>
    cases own
    obtain ⟨_, gap, rest, text, blank, length⟩ := sound
    refine ⟨by simp only []; omega, rfl, Nat.le_add_right _ _, fun _ => ?_, rfl, fun index low high => ?_⟩
    · simp only [left]
      omega
    · simp only at low high
      have dropped : source.drop (span.start + 3) = gap ++ '{' :: rest := by
        rw [← List.drop_drop, text]
        rfl
      have near : index - (span.start + 3) < gap.length := by omega
      have there : (source.drop (span.start + 3))[index - (span.start + 3)]? =
          gap[index - (span.start + 3)]? := by rw [dropped, List.getElem?_append_left near]
      rw [List.getElem?_drop, Nat.add_sub_cancel' low, List.getElem?_eq_getElem near] at there
      exact ⟨_, there, isBlankText_iff.mp blank _ (List.getElem_mem near)⟩
  | opening d =>
    cases own
    have order := sound.1.order
    refine ⟨Nat.le_add_right _ _, rfl, Nat.le_of_lt order, fun _ => order, rfl, ?_⟩
    exact Declaration.Placed.blank_afterHead source d
  | closing d =>
    cases own
    refine ⟨Nat.sub_le _ _, rfl, Nat.le_refl _, fun other => ?_, rfl, sound.1.blank_beforeEquals⟩
    cases other

end Mark

theorem sound_of_mem_marks {construct : Construct} (member : construct ∈ constructs source) :
    ∀ mark ∈ construct.marks source, mark.Sound source := by
  have stretch := stretch_of_mem_constructs member
  intro mark own
  cases construct with
  | declaration d =>
    have placed : d.Placed source := placed_of_mem_constructs member
    simp only [Construct.marks] at own
    split at own
    · next options =>
      simp only [List.mem_cons, List.not_mem_nil, or_false] at own
      rcases own with rfl | rfl <;> exact ⟨placed, options⟩
    · rw [List.mem_singleton.mp own]
      exact stretch
  | action span =>
    rw [List.mem_singleton.mp own]
    exact ⟨stretch, action_of_mem_constructs member⟩
  | node span | reference span =>
    rw [List.mem_singleton.mp own]
    exact stretch

theorem sound_marks (source : List Char) : ∀ mark ∈ marks source, mark.Sound source := by
  intro mark member
  obtain ⟨construct, masked, own⟩ := List.mem_flatMap.mp member
  exact sound_of_mem_marks (mem_constructs_of_masked masked) mark own

end Dialect
