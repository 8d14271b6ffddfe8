import Dialect.Mask.Construct
import Dialect.Proofs.Text.Blank
import Dialect.Proofs.Text.Place
import Dialect.Structure.Bracket

/-! Action markers: where the shorthand `@do` stands before a brace. The scan looks for the first one at each column of
a line, and the masks look for all of them from left to right. No marker stands inside another one, so that every
marker of a text is found, and what the scan finds is the first one of the line. -/
namespace Dialect

theorem marker?_eq_some {before : Option Char} {here : List Char} {taken : Nat}
    (recognised : marker? before here = some ((), taken)) :
    ∃ gap rest, here = actionShorthand ++ gap ++ '{' :: rest ∧ isBlankText gap = true ∧
      taken = 3 + gap.length + 1 := by
  simp only [marker?, Option.bind_eq_bind, Option.bind_eq_some_iff] at recognised
  obtain ⟨rest, word, recognised⟩ := recognised
  split at recognised
  · cases recognised
  · next brace =>
    obtain ⟨tail, opened⟩ : ∃ tail, rest.drop (rest.takeWhile isBlank).length = '{' :: tail := by
      cases dropped : rest.drop (rest.takeWhile isBlank).length with
      | nil => simp [dropped] at brace
      | cons c tail => exact ⟨tail, by simpa [dropped] using brace⟩
    refine ⟨rest.takeWhile isBlank, tail, ?_, List.all_takeWhile, ?_⟩
    · rw [after?_eq_some_iff.mp word, List.append_assoc, ← opened, takeWhile_append_drop]
    · cases recognised
      rfl

/-- A marker stands at the end of a text: `@do`, which goes on from no identifier, and blanks. -/
def EndsMarked (text : List Char) : Prop :=
  ∃ start < text.length, (text.take start).getLast?.any isIdentChar = false ∧
    (after? actionShorthand (text.drop start)).any isBlankText = true

instance (text : List Char) : Decidable (EndsMarked text) :=
  inferInstanceAs (Decidable (∃ start < text.length, (text.take start).getLast?.any isIdentChar = false ∧
    (after? actionShorthand (text.drop start)).any isBlankText = true))

theorem endsMarked_iff {text : List Char} :
    EndsMarked text ↔ ∃ front gap, text = front ++ (actionShorthand ++ gap) ∧ isBlankText gap = true ∧
      front.getLast?.any isIdentChar = false := by
  constructor
  · rintro ⟨start, _, alone, marked⟩
    obtain ⟨gap, word, blank⟩ : ∃ gap, after? actionShorthand (text.drop start) = some gap ∧ isBlankText gap = true := by
      cases word : after? actionShorthand (text.drop start) with
      | none => simp [word] at marked
      | some gap => exact ⟨gap, rfl, by simpa [word] using marked⟩
    have whole := List.take_append_drop start text
    rw [after?_eq_some_iff.mp word] at whole
    exact ⟨text.take start, gap, whole.symm, blank, alone⟩
  · rintro ⟨front, gap, rfl, blank, alone⟩
    refine ⟨front.length, by simp [actionShorthand], by rwa [List.take_left], ?_⟩
    rw [List.drop_left, after?_append, Option.any_some, blank]

theorem length_marker (gap : List Char) : (actionShorthand ++ gap).length = 3 + gap.length := by
  simp [actionShorthand]
  omega

/-- What is visible of a marker is its shorthand. -/
theorem visible_in_marker {text front gap rest : List Char}
    (split : text = front ++ (actionShorthand ++ gap ++ '{' :: rest)) (blank : isBlankText gap = true) {c : Char}
    (visible : isBlank c = false) {place : Nat} (low : front.length ≤ place)
    (high : place < front.length + (3 + gap.length)) (there : text[place]? = some c) :
    actionShorthand[place - front.length]? = some c := by
  have length := length_marker gap
  rw [split, List.getElem?_append_right low, List.getElem?_append_left (by omega), List.getElem?_append] at there
  split at there
  · exact there
  · rw [isBlankText_iff.mp blank c (List.mem_of_getElem? there)] at visible
    cases visible

theorem ne_in_marker {text front gap rest : List Char}
    (split : text = front ++ (actionShorthand ++ gap ++ '{' :: rest)) (blank : isBlankText gap = true) {c : Char}
    (other : c ∉ actionShorthand) (visible : isBlank c = false) {place : Nat} (low : front.length ≤ place)
    (high : place < front.length + (3 + gap.length)) : text[place]? ≠ some c := fun there =>
  other (List.mem_of_getElem? (visible_in_marker split blank visible low high there))

theorem brace_of_marker {text front gap rest : List Char}
    (split : text = front ++ (actionShorthand ++ gap ++ '{' :: rest)) :
    text[front.length + (3 + gap.length)]? = some '{' := by
  have length := length_marker gap
  rw [split, List.getElem?_append_right (Nat.le_add_right _ _), Nat.add_sub_cancel_left, ← length,
    List.getElem?_append_right Nat.le.refl, Nat.sub_self]
  rfl

theorem takeWhile_gap {gap : List Char} (blank : isBlankText gap = true) (rest : List Char) :
    (gap ++ '{' :: rest).takeWhile isBlank = gap := by
  rw [List.takeWhile_append_of_pos (isBlankText_iff.mp blank), List.takeWhile_cons_of_neg (by decide), List.append_nil]

theorem marker?_marked (before : Option Char) {gap : List Char} (blank : isBlankText gap = true) (rest : List Char) :
    marker? before (actionShorthand ++ gap ++ '{' :: rest) = some ((), 3 + gap.length + 1) := by
  rw [marker?, List.append_assoc, after?_append, Option.bind_eq_bind, Option.bind_some]
  dsimp only
  rw [takeWhile_gap blank, List.drop_left, List.head?_cons, if_neg (by simp)]
  rfl

/-- A marker ends before the next `@`, which is none of its blanks and no brace. -/
theorem le_of_marker? {before : Option Char} {front rest : List Char} {taken : Nat} (filled : front ≠ [])
    (recognised : marker? before (front ++ '@' :: rest) = some ((), taken)) : taken ≤ front.length := by
  obtain ⟨gap, further, here, blank, rfl⟩ := marker?_eq_some recognised
  have length : (actionShorthand ++ gap ++ ['{']).length = 3 + gap.length + 1 := by
    rw [List.length_append, length_marker, List.length_singleton]
  have here' : front ++ '@' :: rest = actionShorthand ++ gap ++ ['{'] ++ further := by simpa using here
  rw [← length]
  rcases List.append_eq_append_iff.mp here' with ⟨inner, marker, begins⟩ | ⟨more, rfl, _⟩
  · obtain ⟨c, more, rfl⟩ := List.exists_cons_of_ne_nil filled
    cases inner with
    | nil => exact Nat.le_of_eq (congrArg List.length (marker.trans (List.append_nil _)))
    | cons d inner =>
      obtain ⟨rfl, _⟩ := List.cons.inj begins
      obtain ⟨_, behind⟩ := List.cons.inj marker
      have member : '@' ∈ 'd' :: 'o' :: (gap ++ ['{']) := by
        rw [show 'd' :: 'o' :: (gap ++ ['{']) = more ++ '@' :: inner from behind]
        exact List.mem_append_right more List.mem_cons_self
      simp only [List.mem_cons, List.mem_append, Char.reduceEq, List.not_mem_nil, or_false, false_or] at member
      exact absurd (isBlankText_iff.mp blank '@' member) (by decide)
  · exact (List.prefix_append _ more).length_le

/-- All markers, by what stands before their braces. -/
theorem mem_markers {text : List Char} {span : Span} :
    span ∈ markers text ↔
      ∃ front gap rest, text = front ++ (actionShorthand ++ gap ++ '{' :: rest) ∧ isBlankText gap = true ∧
        front.getLast?.any isIdentChar = false ∧ span = ⟨front.length, front.length + (3 + gap.length)⟩ := by
  constructor
  · intro member
    obtain ⟨found, located, rfl⟩ := List.mem_map.mp member
    obtain ⟨located, alone⟩ := List.mem_filter.mp located
    obtain ⟨inside, order, recognised⟩ := mem_findAll located
    obtain ⟨gap, rest, here, blank, taken⟩ := marker?_eq_some recognised
    have whole := List.take_append_drop found.span.start text
    rw [here] at whole
    refine ⟨text.take found.span.start, gap, rest, whole.symm, blank, by simpa using alone, ?_⟩
    rw [List.length_take_of_le (Nat.le_of_lt inside)]
    congr 1
    omega
  · rintro ⟨front, gap, rest, rfl, blank, alone, rfl⟩
    have located := findAll_complete (by simp [actionShorthand]) (marker?_marked front.getLast? blank rest)
      fun a b split filled _ taken known => le_of_marker? filled known
    refine List.mem_map.mpr ⟨_, List.mem_filter.mpr ⟨located, ?_⟩, rfl⟩
    dsimp only
    rw [List.take_left, alone]
    rfl

theorem markers_ordered (text : List Char) : (markers text).Pairwise (fun a b => a.stop ≤ b.start) := by
  refine List.pairwise_map.mpr ((findAll_ordered text).filter _ |>.imp fun {a b} order => ?_)
  dsimp only
  omega

/-- A brace with a marker before it is one that a marker ends at. -/
theorem exists_marker_iff {before rest : List Char} :
    (∃ start, ⟨start, before.length⟩ ∈ markers (before ++ '{' :: rest)) ↔ EndsMarked before := by
  rw [endsMarked_iff]
  constructor
  · rintro ⟨start, member⟩
    obtain ⟨front, gap, rest', split, blank, alone, same⟩ := mem_markers.mp member
    obtain ⟨rfl, length⟩ := Span.mk.inj same
    refine ⟨front, gap, ?_, blank, alone⟩
    rw [← List.append_assoc] at split
    exact List.append_inj_left split (by simp [length, actionShorthand]; omega)
  · rintro ⟨front, gap, rfl, blank, alone⟩
    refine ⟨front.length, mem_markers.mpr ⟨front, gap, rest, by simp, blank, alone, ?_⟩⟩
    simp [actionShorthand]
    omega

theorem find?_visible_iff {text : List Char} :
    text.find? (fun c => !isBlank c) = some '{' ↔ ∃ gap rest, text = gap ++ '{' :: rest ∧ isBlankText gap = true := by
  rw [List.find?_eq_some_iff_append]
  constructor
  · rintro ⟨_, gap, rest, split, blank⟩
    exact ⟨gap, rest, split, isBlankText_iff.mpr fun c member => by simpa using blank c member⟩
  · rintro ⟨gap, rest, split, blank⟩
    exact ⟨rfl, gap, rest, split, fun c member => by simpa using isBlankText_iff.mp blank c member⟩

theorem charBefore?_eq {chars : List Char} {column : Nat} (inside : column ≤ chars.length) :
    charBefore? chars column = (chars.take column).getLast? := by
  cases column with
  | zero => rfl
  | succ before =>
    rw [charBefore?, List.getLast?_eq_getElem?, List.length_take, Nat.min_eq_left inside, Nat.add_sub_cancel,
      List.getElem?_take_of_lt (Nat.lt_succ_self before)]

/-- What the scan looks for at a column is a marker there. -/
theorem shorthand_at_iff {chars : List Char} {column : Nat} :
    ((chars.drop column).take actionShorthand.length == actionShorthand && standsAlone chars column) = true ↔
      ∃ stop, ⟨column, stop⟩ ∈ markers chars := by
  rw [Bool.and_eq_true, beq_iff_eq, standsAlone]
  constructor
  · rintro ⟨word, alone⟩
    have inside : column ≤ chars.length := by
      have length := congrArg List.length word
      simp only [List.length_take, List.length_drop, actionShorthand, List.length_cons, List.length_nil] at length
      omega
    simp only [charBefore?_eq inside, Bool.and_eq_true, Bool.not_eq_true', beq_iff_eq] at alone
    obtain ⟨gap, rest, behind, blank⟩ := find?_visible_iff.mp alone.2
    have here : chars.drop column = actionShorthand ++ gap ++ '{' :: rest := by
      have split := List.take_append_drop actionShorthand.length (chars.drop column)
      rw [word, List.drop_drop, behind] at split
      rw [List.append_assoc, split]
    refine ⟨column + (3 + gap.length), mem_markers.mpr ⟨chars.take column, gap, rest, ?_, blank, alone.1.1, ?_⟩⟩
    · rw [← here, List.take_append_drop]
    · rw [List.length_take_of_le inside]
  · rintro ⟨stop, member⟩
    obtain ⟨front, gap, rest, rfl, blank, alone, same⟩ := mem_markers.mp member
    obtain ⟨rfl, -⟩ := Span.mk.inj same
    have behind : (gap ++ '{' :: rest).head?.any isIdentChar = false := by
      cases gap with
      | nil => rfl
      | cons c gap =>
        refine Bool.eq_false_iff.mpr fun ident => ?_
        have visible := isBlank_eq_false_of_isIdentChar ident
        rw [isBlankText_iff.mp blank c List.mem_cons_self] at visible
        cases visible
    have found := find?_visible_iff.mpr ⟨gap, rest, rfl, blank⟩
    rw [List.drop_left, List.append_assoc, List.take_left, ← List.drop_drop, List.drop_left, List.drop_left,
      charBefore?_eq (by simp), List.take_left, alone, behind, found]
    exact ⟨rfl, rfl⟩

theorem start_lt_of_mem_markers {text : List Char} {span : Span} (member : span ∈ markers text) :
    span.start < span.stop ∧ span.stop < text.length := by
  obtain ⟨front, gap, rest, rfl, -, -, rfl⟩ := mem_markers.mp member
  simp [actionShorthand]
  omega

/-- What the scan takes for the marker of a line is the first one that the masks find there. -/
theorem shorthandColumn?_eq (chars : List Char) : shorthandColumn? chars = (markers chars).head?.map (·.start) := by
  have order := markers_ordered chars
  cases found : markers chars with
  | nil =>
    refine List.find?_eq_none.mpr fun column _ here => ?_
    obtain ⟨stop, member⟩ := shorthand_at_iff.mp here
    rw [found] at member
    cases member
  | cons first more =>
    rw [found] at order
    have here : first ∈ markers chars := by simp [found]
    have inside := start_lt_of_mem_markers here
    refine List.find?_range_eq_some.mpr ⟨shorthand_at_iff.mpr ⟨first.stop, here⟩, ?_, fun column low => ?_⟩
    · obtain ⟨front, gap, rest, split, -, -, rfl⟩ := mem_markers.mp here
      rw [split]
      simp [actionShorthand]
      omega
    · rw [Bool.not_eq_true', Bool.eq_false_iff]
      intro earlier
      obtain ⟨stop, member⟩ := shorthand_at_iff.mp earlier
      rw [found] at member
      rcases List.mem_cons.mp member with rfl | later
      · exact Nat.lt_irrefl _ low
      · have next := List.rel_of_pairwise_cons order later
        dsimp only at low next
        omega

/-- A marker on the line of a place. -/
theorem EndsMarked.exists_on_line {before : List Char} (marked : EndsMarked (lineBefore before)) :
    ∃ front gap, before = front ++ (actionShorthand ++ gap) ∧ isBlankText gap = true ∧ '\n' ∉ gap ∧
      front.getLast?.any isIdentChar = false := by
  obtain ⟨front, gap, line, blank, alone⟩ := endsMarked_iff.mp marked
  have single := not_mem_lineBefore before
  have whole := linesAbove_append_lineBefore before
  rw [line] at single whole
  simp only [List.mem_append, not_or] at single
  refine ⟨linesAbove before ++ front, gap, by rw [List.append_assoc, whole], blank, single.2.2, ?_⟩
  rw [List.getLast?_append]
  cases last : front.getLast? with
  | some c => simpa [last] using alone
  | none =>
    rcases lineBefore_eq_nil.mp (lineBefore_linesAbove before) with none | ⟨above, ends⟩
    · simp [none]
    · rw [ends, List.getLast?_concat]
      rfl

/-- A marker before a place whose line does not start with it stands on this line. -/
theorem EndsMarked.lineBefore {before : List Char} (marked : EndsMarked before)
    (visible : isBlankText (lineBefore before) = false) : EndsMarked (Dialect.lineBefore before) := by
  obtain ⟨front, gap, rfl, blank, alone⟩ := endsMarked_iff.mp marked
  have single : '\n' ∉ actionShorthand ++ gap := by
    intro member
    have below : '\n' ∈ gap := by simpa [actionShorthand] using member
    obtain ⟨above, line, rfl⟩ := List.append_of_mem below
    rw [← List.append_assoc, ← List.append_assoc, lineBefore_newline] at visible
    refine Bool.eq_false_iff.mp visible (isBlankText_iff.mpr fun c member => isBlankText_iff.mp blank c ?_)
    rw [← linesAbove_append_lineBefore line]
    simp [member]
  refine endsMarked_iff.mpr ⟨Dialect.lineBefore front, gap, lineBefore_append single front, blank, ?_⟩
  rw [← linesAbove_append_lineBefore front, List.getLast?_append] at alone
  cases last : (Dialect.lineBefore front).getLast? with
  | none => rfl
  | some c => simpa [last] using alone

end Dialect
