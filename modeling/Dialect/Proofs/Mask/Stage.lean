import Dialect.Proofs.Mask.Mark
import Dialect.Proofs.Mask.Restore

/-! The stages of a restoration. Placeholders are restored from the last to the first, so at every stage
the marks with a number below some bound are still masked, and of the others a space is left where
they have a run. Each restoration takes one such stage to the next. -/
namespace Dialect

theorem Span.slice_append_slice (text : List Char) {a b c : Nat} (low : a ≤ b) (high : b ≤ c) :
    Span.slice ⟨a, b⟩ text ++ Span.slice ⟨b, c⟩ text = Span.slice ⟨a, c⟩ text := by
  have split := List.take_add (l := text.drop a) (i := b - a) (j := c - b)
  rw [List.drop_drop, Nat.add_sub_cancel' low, show b - a + (c - b) = c - a by omega] at split
  exact split.symm

theorem Span.head?_slice {text : List Char} {a b : Nat} (order : a < b) :
    (Span.slice ⟨a, b⟩ text).head? = text[a]? := by
  rw [List.head?_eq_getElem?, Span.getElem?_slice, if_pos (by simp only []; omega), Nat.add_zero]

theorem Span.getLast?_slice {text : List Char} {a b : Nat} {c : Char} (order : a < b)
    (last : text[b - 1]? = some c) : (Span.slice ⟨a, b⟩ text).getLast? = some c := by
  have inside : b - 1 < text.length := (List.getElem?_eq_some_iff.mp last).1
  rw [List.getLast?_eq_getElem?, Span.length_slice (by simp only []; omega), Span.getElem?_slice]
  simp only
  rw [if_pos (by omega), show a + (b - a - 1) = b - 1 by omega, last]

/-- A stretch of a source and the items that stand for it. -/
structure Piece where
  span : Span
  items : List Item

/-- What `source` holds from `cursor` on, with pieces in the place of their spans. -/
def assemble (source : List Char) (cursor : Nat) : List Piece → List Item
  | [] => (source.drop cursor).map .char
  | piece :: rest =>
    (Span.slice ⟨cursor, piece.span.start⟩ source).map .char ++
      (piece.items ++ assemble source piece.span.stop rest)

/-- The same up to the place `stop`. -/
def assembleTo (source : List Char) (stop cursor : Nat) : List Piece → List Item
  | [] => (Span.slice ⟨cursor, stop⟩ source).map .char
  | piece :: rest =>
    (Span.slice ⟨cursor, piece.span.start⟩ source).map .char ++
      (piece.items ++ assembleTo source stop piece.span.stop rest)

section Assemble

variable {source : List Char} {cursor stop : Nat} {front back : List Piece}

theorem assemble_append_cons (source : List Char) (cursor : Nat) (front : List Piece) (piece : Piece)
    (back : List Piece) :
    assemble source cursor (front ++ piece :: back) =
      assembleTo source piece.span.start cursor front ++
        (piece.items ++ assemble source piece.span.stop back) := by
  induction front generalizing cursor with
  | nil => rfl
  | cons first front ih => simp only [List.cons_append, assemble, assembleTo, ih, List.append_assoc]

theorem assembleTo_concat (source : List Char) (stop cursor : Nat) (front : List Piece) (piece : Piece) :
    assembleTo source stop cursor (front ++ [piece]) =
      assembleTo source piece.span.start cursor front ++
        (piece.items ++ (Span.slice ⟨piece.span.stop, stop⟩ source).map .char) := by
  induction front generalizing cursor with
  | nil => rfl
  | cons first front ih => simp only [List.cons_append, assembleTo, ih, List.append_assoc]

/-- Up to the first piece the source is as it was. -/
theorem assemble_from (low : cursor ≤ stop) (after : ∀ piece ∈ back, stop ≤ piece.span.start) :
    assemble source cursor back =
      (Span.slice ⟨cursor, stop⟩ source).map .char ++ assemble source stop back := by
  cases back with
  | nil =>
    rw [assemble, assemble, ← List.map_append, Span.slice_append_drop ⟨cursor, stop⟩ source low]
  | cons piece back =>
    rw [assemble, assemble, ← Span.slice_append_slice source low (after piece List.mem_cons_self),
      List.map_append, List.append_assoc]

/-- After the last piece the source is as it was. -/
theorem assembleTo_extend {place : Nat} (low : cursor ≤ place) (high : place ≤ stop)
    (before : ∀ piece ∈ front, piece.span.stop ≤ place) :
    assembleTo source stop cursor front =
      assembleTo source place cursor front ++ (Span.slice ⟨place, stop⟩ source).map .char := by
  induction front generalizing cursor with
  | nil => rw [assembleTo, assembleTo, ← List.map_append, Span.slice_append_slice source low high]
  | cons piece front ih =>
    have ih := ih (before piece List.mem_cons_self) fun p member =>
      before p (List.mem_cons_of_mem _ member)
    simp only [assembleTo, ih, List.append_assoc]

theorem assemble_append {place : Nat} (low : cursor ≤ place)
    (before : ∀ piece ∈ front, piece.span.stop ≤ place)
    (after : ∀ piece ∈ back, place ≤ piece.span.start) :
    assemble source cursor (front ++ back) =
      assembleTo source place cursor front ++ assemble source place back := by
  induction front generalizing cursor with
  | nil => exact assemble_from low after
  | cons piece front ih =>
    have ih := ih (before piece List.mem_cons_self) fun p member =>
      before p (List.mem_cons_of_mem _ member)
    simp only [List.cons_append, assemble, assembleTo, ih, List.append_assoc]

theorem startsVisible_assemble (visible : VisibleAt source cursor)
    (after : ∀ piece ∈ back, cursor ≤ piece.span.start)
    (nonempty : ∀ piece ∈ back, piece.items ≠ [])
    (touching : ∀ piece ∈ back, piece.span.start = cursor → StartsVisible piece.items) :
    StartsVisible (assemble source cursor back) := by
  obtain ⟨c, there, shown⟩ := visible
  have char {item : Item} (first : source[cursor]?.map Item.char = some item) : item.isBlank = false := by
    rw [there] at first
    cases first
    exact shown
  intro item first
  cases back with
  | nil => exact char (by simpa [assemble] using first)
  | cons piece back =>
    rw [assemble, List.head?_append, List.head?_map] at first
    by_cases touches : piece.span.start = cursor
    · obtain ⟨head, more, same⟩ := List.exists_cons_of_ne_nil (nonempty piece List.mem_cons_self)
      refine touching piece List.mem_cons_self touches item ?_
      simpa [touches, Span.slice, same] using first
    · have gap : cursor < piece.span.start := by
        have low := after piece List.mem_cons_self
        omega
      rw [Span.head?_slice gap, there] at first
      exact char (by simpa [there] using first)

theorem endsVisible_assembleTo (visible : VisibleAt source (stop - 1)) (positive : 0 < stop)
    (before : ∀ piece ∈ front, piece.span.stop ≤ stop)
    (nonempty : ∀ piece ∈ front, piece.items ≠ [])
    (touching : ∀ piece ∈ front, piece.span.stop = stop → EndsVisible piece.items)
    (low : cursor ≤ stop) : EndsVisible (assembleTo source stop cursor front) := by
  obtain ⟨c, there, shown⟩ := visible
  intro item last
  rcases List.eq_nil_or_concat front with rfl | ⟨front, piece, rfl⟩
  · rcases Nat.lt_or_eq_of_le low with gap | rfl
    · rw [assembleTo, List.getLast?_map, Span.getLast?_slice gap there] at last
      cases last
      exact shown
    · simp [assembleTo, Span.slice] at last
  · rw [List.concat_eq_append] at *
    have member : piece ∈ front ++ [piece] := by simp
    rw [assembleTo_concat, List.getLast?_append_of_ne_nil _ (by simp [nonempty piece member])] at last
    rcases Nat.lt_or_eq_of_le (before piece member) with gap | same
    · rw [List.getLast?_append, List.getLast?_map, Span.getLast?_slice gap there] at last
      cases last
      exact shown
    · refine touching piece member same item ?_
      simpa [same, Span.slice] using last

end Assemble

/-- Numbered marks in the order of their spans. Marks of one span are those of one `=`, and keep the
order of their numbers. -/
structure LaidOut (source : List Char) (entries : List (Mark × Nat)) : Prop where
  sound : ∀ entry ∈ entries, entry.1.Sound source
  ordered : entries.Pairwise fun a b => a.1.span.stop ≤ b.1.span.start
  ties : entries.Pairwise fun a b => a.1.span = b.1.span → a.2 < b.2

/-- No mark of the same span has a smaller number. -/
def Leads (entries : List (Mark × Nat)) (entry : Mark × Nat) : Prop :=
  ∀ other ∈ entries, other.1.span = entry.1.span → entry.2 ≤ other.2

instance (entries : List (Mark × Nat)) (entry : Mark × Nat) : Decidable (Leads entries entry) :=
  inferInstanceAs (Decidable (∀ other ∈ entries, other.1.span = entry.1.span → entry.2 ≤ other.2))

/-- What is left of a mark that has been restored. Of several marks before one `=` only the first one
leaves a space. -/
def settled (source : List Char) (entries : List (Mark × Nat)) (entry : Mark × Nat) : List Piece :=
  if Leads entries entry then (entry.1.run? source).toList.map (⟨·, [.char ' ']⟩) else []

/-- What stands for a mark while those with a number below `bound` are masked. -/
def pieces (source : List Char) (entries : List (Mark × Nat)) (bound : Nat) (entry : Mark × Nat) :
    List Piece :=
  if entry.2 < bound then [⟨entry.1.span, entry.1.items entry.2⟩] else settled source entries entry

def stage (source : List Char) (entries : List (Mark × Nat)) (bound : Nat) : List Item :=
  assemble source 0 (entries.flatMap (pieces source entries bound))

section Pieces

variable {source : List Char} {entries : List (Mark × Nat)} {bound : Nat} {entry : Mark × Nat}
  {piece : Piece}

theorem pieces_cases (member : piece ∈ pieces source entries bound entry) :
    piece = ⟨entry.1.span, entry.1.items entry.2⟩ ∨
      ∃ run, entry.1.run? source = some run ∧ piece = ⟨run, [.char ' ']⟩ := by
  rw [pieces] at member
  split at member
  · exact .inl (List.mem_singleton.mp member)
  · rw [settled] at member
    split at member
    · obtain ⟨run, own, rfl⟩ := List.mem_map.mp member
      exact .inr ⟨run, Option.mem_toList.mp own, rfl⟩
    · cases member

theorem items_ne_nil (mark : Mark) (number : Nat) : mark.items number ≠ [] := by
  cases mark <;> simp [Mark.items]

theorem pieces_nonempty (member : piece ∈ pieces source entries bound entry) : piece.items ≠ [] := by
  rcases pieces_cases member with rfl | ⟨run, _, rfl⟩
  · exact items_ne_nil entry.1 entry.2
  · simp

/-- A piece starts with something visible, unless it is the run of a closing mark or lies further
right. -/
theorem left_le_start (sound : entry.1.Sound source)
    (member : piece ∈ pieces source entries bound entry) :
    entry.1.left source ≤ piece.span.start ∧
      (piece.span.start = entry.1.left source →
        StartsVisible piece.items ∨ entry.1.isClosing = true) := by
  obtain ⟨mark, number⟩ := entry
  rcases pieces_cases member with rfl | ⟨run, own, rfl⟩
  · cases mark with
    | plain | action | opening =>
      exact ⟨Nat.le_refl _, fun _ => .inl (by simp [StartsVisible, Mark.items, Item.isBlank])⟩
    | closing d => exact ⟨Nat.sub_le _ _, fun _ => .inr rfl⟩
  · have isRun := sound.isRun own
    refine ⟨isRun.start, fun touches => ?_⟩
    cases closing : mark.isClosing with
    | true => exact .inr rfl
    | false => exact absurd touches.symm (Nat.ne_of_lt (isRun.inner closing))

/-- A piece of a plain mark ends with something visible. -/
theorem stop_le_right (sound : entry.1.Sound source)
    (member : piece ∈ pieces source entries bound entry) :
    piece.span.stop ≤ entry.1.right source ∧ (EndsVisible piece.items ∨ entry.1.isPlain = false) := by
  obtain ⟨mark, number⟩ := entry
  rcases pieces_cases member with rfl | ⟨run, own, rfl⟩
  · cases mark with
    | plain span => exact ⟨Nat.le_refl _, .inl (by simp [EndsVisible, Mark.items, Item.isBlank])⟩
    | action span | closing d => exact ⟨Nat.le_refl _, .inr rfl⟩
    | opening d => exact ⟨Nat.le_add_right _ _, .inr rfl⟩
  · have isRun := sound.isRun own
    exact ⟨Nat.le_of_eq isRun.stop, .inr isRun.replaces⟩

/-- While a mark is not at issue, its pieces stay. -/
theorem pieces_succ {number : Nat} (other : entry.2 ≠ number) :
    pieces source entries (number + 1) entry = pieces source entries number entry := by
  simp only [pieces, show entry.2 < number + 1 ↔ entry.2 < number by omega]

end Pieces

/-- The pieces end where `mark` starts, and blanks before an `=` follow something visible. -/
def EndsBefore (source : List Char) (mark : Mark) (front : List Piece) : Prop :=
  ∀ piece ∈ front, piece.span.stop ≤ mark.left source ∧ piece.items ≠ [] ∧
    (mark.isClosing = true → piece.span.stop = mark.left source → EndsVisible piece.items)

/-- The pieces start where `mark` ends, and something visible follows its run. -/
def StartsAfter (source : List Char) (mark : Mark) (back : List Piece) : Prop :=
  ∀ piece ∈ back, mark.right source ≤ piece.span.start ∧ piece.items ≠ [] ∧
    (mark.isClosing = true → mark.right source < piece.span.start) ∧
    (mark.isPlain = false → piece.span.start = mark.right source → StartsVisible piece.items)

section Step

variable {source : List Char} {front back : List Piece}

theorem StartsAfter.startsVisible {mark : Mark} (after : StartsAfter source mark back)
    (replaces : mark.isPlain = false) (visible : VisibleAt source (mark.right source)) :
    StartsVisible (assemble source (mark.right source) back) :=
  startsVisible_assemble visible (fun piece member => (after piece member).1)
    (fun piece member => (after piece member).2.1) fun piece member => (after piece member).2.2.2 replaces

theorem step_plain {span : Span} (number : Nat) (stretch : Stretch source span)
    (before : EndsBefore source (.plain span) front) (after : StartsAfter source (.plain span) back) :
    Step number (span.slice source) .plain
      (assemble source 0 (front ++ ⟨span, [.token number]⟩ :: back))
      (assemble source 0 (front ++ back)) := by
  have order : span.start ≤ span.stop := Nat.le_of_lt stretch.order
  rw [assemble_append_cons,
    assemble_append (Nat.zero_le span.start) (fun piece member => (before piece member).1)
      fun piece member => Nat.le_trans order (after piece member).1,
    assemble_from order fun piece member => (after piece member).1]
  exact .plain _ _

theorem step_opening {d : Declaration} (number : Nat) (placed : d.Placed source)
    (options : d.hasInlineOptions source = true) (before : EndsBefore source (.opening d) front)
    (after : StartsAfter source (.opening d) back) :
    Step number (d.head.slice source) .assignment
      (assemble source 0 (front ++ ⟨d.head, [.token number, .char ' ', .char '=']⟩ :: back))
      (assemble source 0 (front ++ ⟨d.afterHead source, [.char ' ']⟩ :: back)) := by
  have order : d.head.start ≤ d.head.stop := Nat.le_of_lt placed.order
  have low : d.head.stop ≤ (d.afterHead source).stop := Nat.le_add_right _ _
  have blank := (Declaration.Placed.blank_afterHead source d).isBlankText_slice
  have visible : StartsVisible (assemble source (d.afterHead source).stop back) :=
    after.startsVisible rfl (placed.afterHead_visible options).1
  rw [assemble_append_cons, assemble_append_cons,
    assemble_from low fun piece member => (after piece member).1]
  rw [show (d.afterHead source).start = d.head.stop from rfl,
    assembleTo_extend (Nat.zero_le _) order fun piece member => (before piece member).1]
  simpa using Step.assignment (by decide : isBlankText [' '] = true) blank _ visible

theorem step_action {span : Span} (number : Nat) (sound : (Mark.action span).Sound source)
    (before : EndsBefore source (.action span) front) (after : StartsAfter source (.action span) back) :
    Step number actionShorthand .assignment
      (assemble source 0 (front ++ ⟨span, [.token number, .char ' ', .char '=', .char ' ']⟩ :: back))
      (assemble source 0 (front ++ ⟨⟨span.start + 3, span.stop⟩, [.char ' ']⟩ :: back)) := by
  obtain ⟨_, gap, rest, text, _, _⟩ := id sound
  have marker : Span.slice ⟨span.start, span.start + 3⟩ source = actionShorthand := by
    simp [Span.slice, text, actionShorthand]
  have visible : StartsVisible (assemble source span.stop back) :=
    after.startsVisible rfl ⟨'{', Mark.action_next sound, rfl⟩
  rw [assemble_append_cons, assemble_append_cons,
    assembleTo_extend (Nat.zero_le _) (Nat.le_add_right span.start 3) fun piece member =>
      (before piece member).1, marker]
  have blank : isBlankText [' '] = true := by decide
  simpa using Step.assignment blank blank _ visible

/-- Nothing stands between the place before an `=` and that `=`. -/
theorem assemble_equals {d : Declaration} (placed : d.Placed source)
    (after : StartsAfter source (.closing d) back) :
    assemble source d.equals back = .char '=' :: assemble source (d.equals + 1) back := by
  have sign : Span.slice ⟨d.equals, d.equals + 1⟩ source = ['='] := by
    have text := List.drop_eq_getElem?_toList_append (l := source) (i := d.equals)
    rw [placed.sign] at text
    simp [Span.slice, text]
  rw [assemble_from (Nat.le_succ d.equals) fun piece member => (after piece member).2.2.1 rfl, sign]
  rfl

theorem step_closing {d : Declaration} (number : Nat) (placed : d.Placed source)
    (options : d.hasInlineOptions source = true) (before : EndsBefore source (.closing d) front)
    (after : StartsAfter source (.closing d) back) :
    Step number [] .continuation
      (assemble source 0 (front ++
        ⟨⟨d.equals, d.equals⟩, [.char ';', .char ' ', .token number, .char ' ']⟩ :: back))
      (assemble source 0 (front ++ ⟨d.beforeEquals source, [.char ' ']⟩ :: back)) := by
  obtain ⟨low, shown⟩ := placed.beforeEquals_visible options
  have high : (d.beforeEquals source).start ≤ d.equals := Nat.sub_le _ _
  have front_le := fun piece member => (before piece member).1
  have visible : EndsVisible (assembleTo source (d.beforeEquals source).start 0 front) :=
    endsVisible_assembleTo shown (by omega) front_le (fun piece member => (before piece member).2.1)
      (fun piece member => (before piece member).2.2 rfl) (Nat.zero_le _)
  rw [assemble_append_cons, assemble_append_cons, assemble_equals placed after,
    assembleTo_extend (Nat.zero_le _) high front_le]
  have blank : isBlankText [' '] = true := by decide
  simpa [assemble_equals placed after, Declaration.beforeEquals] using
    Step.continuation placed.blank_beforeEquals.isBlankText_slice blank blank visible
      (assemble source (d.equals + 1) back)

/-- A closing mark after another one before the same `=` leaves nothing. -/
theorem step_closing_again {d : Declaration} (number other : Nat) (placed : d.Placed source)
    (after : StartsAfter source (.closing d) back) :
    let closing (number : Nat) : Piece :=
      ⟨⟨d.equals, d.equals⟩, [.char ';', .char ' ', .token number, .char ' ']⟩
    Step number [] .continuation
      (assemble source 0 (front ++ closing other :: closing number :: back))
      (assemble source 0 (front ++ closing other :: back)) := by
  intro closing
  have nothing : Span.slice ⟨d.equals, d.equals⟩ source = [] := by simp [Span.slice]
  rw [assemble_append_cons, assemble_append_cons, assemble]
  simp only [closing, nothing, assemble_equals placed after]
  have blank : isBlankText [' '] = true := by decide
  have visible : EndsVisible (assembleTo source d.equals 0 front ++
      [.char ';', .char ' ', .token other]) := by simp [EndsVisible, Item.isBlank]
  simpa using Step.continuation blank blank blank visible (assemble source (d.equals + 1) back)

end Step

/-- A mark in its layout, with the marks before and after it. -/
structure LaidOut.At (source : List Char) (before : List (Mark × Nat)) (mark : Mark) (number : Nat)
    (rest : List (Mark × Nat)) : Prop where
  layout : LaidOut source (before ++ (mark, number) :: rest)
  distinct : ∀ entry ∈ before ++ rest, entry.2 ≠ number

namespace LaidOut.At

variable {source : List Char} {before rest : List (Mark × Nat)} {mark : Mark} {number : Nat}

theorem sound (here : LaidOut.At source before mark number rest) : mark.Sound source :=
  here.layout.sound (mark, number) (by simp)

theorem order_before (here : LaidOut.At source before mark number rest) {entry : Mark × Nat}
    (member : entry ∈ before) : entry.1.span.stop ≤ mark.span.start :=
  (List.pairwise_append.mp here.layout.ordered).2.2 entry member _ List.mem_cons_self

theorem order_rest (here : LaidOut.At source before mark number rest) {entry : Mark × Nat}
    (member : entry ∈ rest) : mark.span.stop ≤ entry.1.span.start :=
  (List.pairwise_cons.mp (List.pairwise_append.mp here.layout.ordered).2.1).1 entry member

/-- A mark that replaces something has its span for itself. -/
theorem leads (here : LaidOut.At source before mark number rest) (replaces : mark.isClosing = false) :
    Leads (before ++ (mark, number) :: rest) (mark, number) := by
  have order := (here.sound.stretch replaces).order
  intro other member (same : other.1.span = mark.span)
  rcases List.mem_append.mp member with earlier | later
  · have apart := here.order_before earlier
    rw [same] at apart
    omega
  · rcases List.mem_cons.mp later with rfl | later
    · exact Nat.le_refl _
    · have apart := here.order_rest later
      rw [same] at apart
      omega

/-- The pieces of the marks before end where the mark starts. -/
theorem endsBefore (here : LaidOut.At source before mark number rest)
    (leads : Leads (before ++ (mark, number) :: rest) (mark, number)) (entries : List (Mark × Nat))
    (bound : Nat) : EndsBefore source mark (before.flatMap (pieces source entries bound)) := by
  intro piece member
  obtain ⟨entry, earlier, own⟩ := List.mem_flatMap.mp member
  have there : entry ∈ before ++ (mark, number) :: rest := List.mem_append_left _ earlier
  have other : entry.1.span ≠ mark.span := fun same => by
    have smaller := (List.pairwise_append.mp here.layout.ties).2.2 entry earlier _ List.mem_cons_self same
    exact Nat.lt_irrefl _ (Nat.lt_of_le_of_lt (leads entry there same) smaller)
  have order := Mark.right_le_left (here.layout.sound entry there) here.sound
    (here.order_before earlier) other
  obtain ⟨bounded, visible⟩ := stop_le_right (here.layout.sound entry there) own
  refine ⟨Nat.le_trans bounded order.1, pieces_nonempty own, fun closing touches => ?_⟩
  refine visible.resolve_right fun isPlain => ?_
  have strict := order.2 isPlain (.inr closing)
  omega

/-- The pieces of the marks after it start where the mark ends. -/
theorem startsAfter (here : LaidOut.At source before mark number rest) :
    StartsAfter source mark
      (rest.flatMap (pieces source (before ++ (mark, number) :: rest) number)) := by
  intro piece member
  obtain ⟨entry, later, own⟩ := List.mem_flatMap.mp member
  have there : entry ∈ before ++ (mark, number) :: rest :=
    List.mem_append_right _ (List.mem_cons_of_mem _ later)
  have other : mark.span ≠ entry.1.span := fun same => by
    -- a later mark of the same span leaves nothing
    have greater := (List.pairwise_cons.mp (List.pairwise_append.mp here.layout.ties).2.1).1 entry later same
    have follows : ¬Leads (before ++ (mark, number) :: rest) entry := fun leads =>
      Nat.lt_irrefl _ (Nat.lt_of_le_of_lt (leads (mark, number) (by simp) same) greater)
    rw [pieces, if_neg (Nat.not_lt.mpr (Nat.le_of_lt greater)), settled, if_neg follows] at own
    cases own
  have order := Mark.right_le_left here.sound (here.layout.sound entry there)
    (here.order_rest later) other
  obtain ⟨bounded, visible⟩ := left_le_start (here.layout.sound entry there) own
  refine ⟨Nat.le_trans order.1 bounded, pieces_nonempty own, fun closing => ?_, fun isPlain touches => ?_⟩
  · have isPlain : mark.isPlain = false := by
      cases mark with
      | closing => rfl
      | plain | action | opening => cases closing
    exact Nat.lt_of_lt_of_le (order.2 isPlain (.inl closing)) bounded
  · refine (visible (by omega)).resolve_right fun closing => ?_
    have strict := order.2 isPlain (.inr closing)
    omega

/-- The stages before and after the mark is restored. -/
theorem stage_succ (here : LaidOut.At source before mark number rest) :
    let entries := before ++ (mark, number) :: rest
    let front := before.flatMap (pieces source entries number)
    let back := rest.flatMap (pieces source entries number)
    stage source entries (number + 1) =
        assemble source 0 (front ++ ⟨mark.span, mark.items number⟩ :: back) ∧
      stage source entries number =
        assemble source 0 (front ++ (settled source entries (mark, number) ++ back)) := by
  intro entries front back
  have same (others : List (Mark × Nat)) (among : ∀ entry ∈ others, entry ∈ before ++ rest) :
      others.flatMap (pieces source entries (number + 1)) =
        others.flatMap (pieces source entries number) := by
    simp only [List.flatMap]
    rw [List.map_congr_left fun entry member => pieces_succ (here.distinct entry (among entry member))]
  have masked : pieces source entries (number + 1) (mark, number) =
      [⟨mark.span, mark.items number⟩] := by
    rw [pieces, if_pos (Nat.lt_succ_self number)]
  have restored : pieces source entries number (mark, number) =
      settled source entries (mark, number) := by
    rw [pieces, if_neg (Nat.lt_irrefl number)]
  simp only [stage, entries, List.flatMap_append, List.flatMap_cons]
  rw [same before fun entry => List.mem_append_left _, same rest fun entry => List.mem_append_right _]
  exact ⟨by rw [masked]; rfl, by rw [restored]⟩

/-- A closing mark that does not lead directly follows a masked one before the same `=`. -/
theorem exists_closing_before {d : Declaration} (here : LaidOut.At source before (.closing d) number rest)
    (follows : ¬Leads (before ++ (.closing d, number) :: rest) (.closing d, number)) :
    ∃ earlier e other, before = earlier ++ [(.closing e, other)] ∧ e.equals = d.equals ∧ other < number := by
  simp only [Leads, Classical.not_forall, Nat.not_le] at follows
  obtain ⟨first, member, same, smaller⟩ := follows
  have ties := List.pairwise_append.mp here.layout.ties
  have earlier : first ∈ before := by
    rcases List.mem_append.mp member with earlier | later
    · exact earlier
    · rcases List.mem_cons.mp later with rfl | later
      · exact absurd smaller (Nat.lt_irrefl _)
      · have greater := (List.pairwise_cons.mp ties.2.1).1 first later same.symm
        exact absurd smaller (Nat.lt_asymm greater)
  rcases List.eq_nil_or_concat before with rfl | ⟨init, last, rfl⟩
  · cases earlier
  rw [List.concat_eq_append] at *
  have there : last ∈ init ++ [last] := by simp
  have high : last.1.span.stop ≤ d.equals := here.order_before there
  have low : d.equals ≤ last.1.span.start := by
    have start : first.1.span.stop = d.equals := congrArg Span.stop same
    rcases List.mem_append.mp earlier with inner | outer
    · have order := (List.pairwise_append.mp here.layout.ordered).1
      have apart := (List.pairwise_append.mp order).2.2 first inner last (by simp)
      omega
    · rw [← List.mem_singleton.mp outer, same]
      exact Nat.le_refl _
  have sound := here.layout.sound last (by simp)
  obtain ⟨mark, other⟩ := last
  cases mark with
  | plain | action | opening =>
    have order := (sound.stretch rfl).order
    simp only at order high low
    omega
  | closing e =>
    have equal : e.equals = d.equals := Nat.le_antisymm high low
    have spans : (Mark.closing e).span = (Mark.closing d).span := by simp only [Mark.span, equal]
    exact ⟨init, e, other, rfl, equal, ties.2.2 _ there _ List.mem_cons_self spans⟩

/-- Restoring a mark takes the stage where it is the last masked one to the next. -/
theorem step (here : LaidOut.At source before mark number rest) :
    Step number (mark.text source) mark.kind
      (stage source (before ++ (mark, number) :: rest) (number + 1))
      (stage source (before ++ (mark, number) :: rest) number) := by
  obtain ⟨masked, restored⟩ := here.stage_succ
  have after := here.startsAfter
  rw [masked, restored]
  cases mark with
  | plain span =>
    have nothing : settled source (before ++ (.plain span, number) :: rest) (.plain span, number) = [] := by
      simp [settled, Mark.run?]
    rw [nothing]
    exact step_plain number here.sound (here.endsBefore (here.leads rfl) _ _) after
  | action span =>
    rw [settled, if_pos (here.leads rfl)]
    exact step_action number here.sound (here.endsBefore (here.leads rfl) _ _) after
  | opening d =>
    rw [settled, if_pos (here.leads rfl)]
    exact step_opening number here.sound.1 here.sound.2 (here.endsBefore (here.leads rfl) _ _) after
  | closing d =>
    rw [settled]
    split
    · next leads =>
      exact step_closing number here.sound.1 here.sound.2 (here.endsBefore leads _ _) after
    · next follows =>
      obtain ⟨earlier, e, other, rfl, equal, smaller⟩ := here.exists_closing_before follows
      rw [List.flatMap_append, List.flatMap_singleton, pieces, if_pos smaller]
      simpa [Mark.span, Mark.items, Mark.text, Mark.kind, equal] using
        step_closing_again number other here.sound.1 after

end LaidOut.At

end Dialect
