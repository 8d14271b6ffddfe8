import Dialect.Proofs.Code.Seam
import Dialect.Proofs.Declaration.Language
import Dialect.Proofs.Declaration.Verdict

/-! Where the parts of a declaration stand. Its value is what its `=` and the first terminator after it enclose,
without the blanks on both sides; a declaration has none if that is all blank or no terminator follows. -/
namespace Dialect

/-- The search for a terminator ends at one. -/
theorem topLevelFrom_terminator {depth index found : Nat} {lexemes : List Lexeme}
    (search : topLevelFrom .terminator depth index lexemes = some found) :
    ∃ before rest, lexemes.map (·.char) = before ++ ';' :: rest ∧ found = index + before.length := by
  induction lexemes generalizing depth index with
  | nil => cases search
  | cons lexeme lexemes ih =>
    rw [topLevelFrom_cons] at search
    cases moved : move .terminator depth lexeme with
    | pass depth' =>
      rw [moved] at search
      obtain ⟨before, rest, split, place⟩ := ih search
      refine ⟨lexeme.char :: before, rest, by rw [List.map_cons, split, List.cons_append], ?_⟩
      rw [place, List.length_cons, Nat.add_right_comm, Nat.add_assoc]
    | fail =>
      rw [moved] at search
      cases search
    | hit =>
      rw [moved] at search
      have sign : lexeme.char = ';' := by
        rw [move.eq_def] at moved
        split_ifs at moved with code opener closer equals terminator
        · cases depth <;> cases moved
        · exact terminator.1
      exact ⟨[], lexemes.map (·.char), by rw [List.map_cons, sign]; rfl, (Option.some.inj search).symm⟩
    | sign => cases (move_sign moved).2.1

theorem topLevel?_terminator {text : List Char} {length : Nat} (search : topLevel? .terminator text = some length) :
    ∃ before rest, text = before ++ ';' :: rest ∧ length = before.length := by
  rw [topLevel?_eq] at search
  simpa using topLevelFrom_terminator search

/-- The inner stretch is the outer one without the blanks on both sides of it, and it is not empty. -/
structure Span.Trims (text : List Char) (outer inner : Span) : Prop where
  start : outer.start ≤ inner.start
  filled : inner.start < inner.stop
  stop : inner.stop ≤ outer.stop
  before : isBlankText (Span.slice ⟨outer.start, inner.start⟩ text) = true
  after : isBlankText (Span.slice ⟨inner.stop, outer.stop⟩ text) = true
  first : (inner.slice text).head?.any isBlank = false
  last : (inner.slice text).getLast?.any isBlank = false

theorem trims_of_trimSpan? {text : List Char} {outer inner : Span} (inside : outer.stop ≤ text.length)
    (found : trimSpan? text outer = some inner) : Span.Trims text outer inner := by
  have whole := slice_trimSpan? found
  rw [trimSpan?] at found
  split at found
  · cases found
  next visible =>
  obtain ⟨filled, _⟩ := length_trim (Bool.eq_false_iff.mpr visible)
  obtain ⟨gap, blank, split⟩ := exists_trim (outer.slice text)
  have lead : isBlankText ((outer.slice text).takeWhile isBlank) = true := List.all_takeWhile
  have length := Span.length_slice inside
  obtain rfl := Option.some.inj found
  generalize (outer.slice text).takeWhile isBlank = front at split lead whole
  have total := congrArg List.length split
  rw [List.length_append, List.length_append, length] at total
  -- the outer stretch is the blanks before, what is kept, and the blanks after
  have text_eq : text.drop outer.start = front ++ (trim (outer.slice text) ++ (gap ++ text.drop outer.stop)) := by
    rw [← Span.slice_append_drop outer text (by omega)]
    conv_lhs => rw [split]
    simp only [List.append_assoc]
  have before := @Span.of_drop_eq ⟨outer.start, outer.start + front.length⟩ _ _ _ text_eq rfl
  have inner := @Span.of_drop_eq ⟨outer.start + front.length,
    outer.start + front.length + (trim (outer.slice text)).length⟩ _ _ _ before.2.1 rfl
  have after := @Span.of_drop_eq ⟨outer.start + front.length + (trim (outer.slice text)).length, outer.stop⟩ _ _ _
    inner.2.1 (by simp only; omega)
  exact {
    start := Nat.le_add_right _ _
    filled := Nat.lt_add_of_pos_right filled
    stop := by simp only; omega
    before := by rwa [before.1]
    after := by rwa [after.1]
    first := by rw [whole]; exact head?_trim _
    last := by rw [whole]; exact getLast?_trimEnd _ }

namespace Declaration

/-- The places that a declaration names, by their indices. -/
def places (d : Declaration) : List Nat :=
  [d.head.start, d.head.stop, d.equals] ++ d.value.toList.flatMap fun value => [value.start, value.stop]

/-- The parts of a declaration stand in the document one after the other. The byte offset of each place lies
between two characters, and what the masks take out of the document can be taken out. -/
structure WellFormed (text : List Char) (d : Declaration) : Prop where
  filled : d.head.start < d.head.stop
  order : d.head.stop ≤ d.equals
  sign : text[d.equals]? = some '='
  value : ∀ value ∈ d.value, ∃ length, topLevel? .terminator (text.drop (d.equals + 1)) = some length ∧
    text[d.equals + 1 + length]? = some ';' ∧ Span.Trims text ⟨d.equals + 1, d.equals + 1 + length⟩ value
  boundary : ∀ index ∈ d.places, charsIn? byteWidth (byteOffset text index) text = some index
  increasing : ∀ i ∈ d.places, ∀ j ∈ d.places, i < j → byteOffset text i < byteOffset text j
  head : bytesBetween? text (byteOffset text d.head.start) (byteOffset text d.head.stop) = some (d.head.slice text)
  beforeSign : bytesBetween? text (byteOffset text d.head.start) (byteOffset text d.equals) =
    some (Span.slice ⟨d.head.start, d.equals⟩ text)

end Declaration

/-- The terminator that is found stands in the document, behind the `=` and what is written in between. -/
theorem getElem?_terminator {text : List Char} {start length : Nat}
    (search : topLevel? .terminator (text.drop start) = some length) : text[start + length]? = some ';' := by
  obtain ⟨before, rest, split, rfl⟩ := topLevel?_terminator search
  rw [← List.getElem?_drop, split]
  simp

theorem le_length_of_mem_places {text : List Char} {d : Declaration} (member : d ∈ findDeclarations text)
    {index : Nat} (named : index ∈ d.places) : index ≤ text.length := by
  have placed := placed_of_mem_findDeclarations member
  have equals := Nat.le_of_lt placed.inside
  have stop := Nat.le_trans placed.before equals
  simp only [Declaration.places, List.cons_append, List.nil_append, List.mem_cons, List.mem_flatMap,
    Option.mem_toList, List.not_mem_nil, or_false] at named
  rcases named with rfl | rfl | rfl | ⟨value, given, rfl | rfl⟩
  · exact Nat.le_trans (Nat.le_of_lt placed.order) stop
  · exact stop
  · exact equals
  · obtain ⟨filled, inside⟩ := inside_of_value member given
    exact Nat.le_trans (Nat.le_of_lt filled) inside
  · exact (inside_of_value member given).2

theorem wellFormed_of_mem_findDeclarations {text : List Char} {d : Declaration} (member : d ∈ findDeclarations text) :
    d.WellFormed text := by
  have placed := placed_of_mem_findDeclarations member
  have equals := Nat.le_of_lt placed.inside
  have stop := Nat.le_trans placed.before equals
  have start := Nat.le_trans (Nat.le_of_lt placed.order) stop
  refine ⟨placed.order, placed.before, placed.sign, fun value given => ?_,
    fun index named => charsIn?_byteOffset (le_length_of_mem_places member named),
    fun i _ j named ordered => byteOffset_lt ordered (le_length_of_mem_places member named), ?_, ?_⟩
  · rw [value_of_mem_findDeclarations member] at given
    obtain ⟨length, search, trimmed⟩ := Option.bind_eq_some_iff.mp given
    have terminator := getElem?_terminator search
    have inside := (List.getElem?_eq_some_iff.mp terminator).1
    exact ⟨length, search, terminator, trims_of_trimSpan? (Nat.le_of_lt inside) trimmed⟩
  · rw [bytesBetween?, charsIn?_byteOffset start, charsIn?_byteOffset stop]
    rfl
  · rw [bytesBetween?, charsIn?_byteOffset start, charsIn?_byteOffset equals]
    rfl

/-- Declarations are well formed, and their heads stand one after the other. -/
theorem declarations_well_formed (text : List Char) :
    (findDeclarations text).Pairwise (fun d e =>
        d.head.stop ≤ e.head.start ∧ byteOffset text d.head.stop ≤ byteOffset text e.head.start) ∧
      ∀ d ∈ findDeclarations text, d.WellFormed text :=
  ⟨(findDeclarations_ordered text).imp fun ordered => ⟨ordered, byteOffset_le text ordered⟩,
    fun _ => wellFormed_of_mem_findDeclarations⟩

/-- A value between blanks on two lines, behind characters of several bytes. -/
theorem declarations_well_formed_spread :
    let text := "declare m : enum [\"é𝕏\"] =\n  \"é𝕏\"\t;".toList
    let d : Declaration := ⟨"m".toList, .enum, ["é𝕏".toList], ⟨0, 16⟩, 24, some ⟨28, 32⟩⟩
    d ∈ findDeclarations text ∧ d.WellFormed text := by
  intro text d
  have found : d ∈ findDeclarations text := by decide +kernel
  exact ⟨found, (declarations_well_formed text).2 d found⟩

namespace Declaration

/-- What is written as the value, blanks on both sides left out. There is nothing like it where no terminator
follows. -/
def written? (text : List Char) (d : Declaration) : Option (List Char) :=
  (topLevel? .terminator (text.drop (d.equals + 1))).map fun length => trim ((text.drop (d.equals + 1)).take length)

/-- Something is written as the value, and it is none of the type. -/
def Misgiven (text : List Char) (d : Declaration) : Prop :=
  ∃ value ∈ d.written? text, value ≠ [] ∧ value ∉ d.type.language d.options

end Declaration

theorem written?_of_mem_findDeclarations {text : List Char} {d : Declaration} (member : d ∈ findDeclarations text) :
    (∀ value ∈ d.value, d.written? text = some (value.slice text) ∧ value.slice text ≠ []) ∧
      (d.value = none ↔ d.written? text = none ∨ d.written? text = some []) := by
  rw [value_of_mem_findDeclarations member, Declaration.written?]
  cases topLevel? .terminator (text.drop (d.equals + 1)) with
  | none => simp
  | some length =>
    have between : Span.slice ⟨d.equals + 1, d.equals + 1 + length⟩ text = (text.drop (d.equals + 1)).take length := by
      rw [Span.slice, Nat.add_sub_cancel_left]
    have present := trimSpan?_isSome text ⟨d.equals + 1, d.equals + 1 + length⟩
    rw [between] at present
    simp only [Option.bind_some, Option.map_some]
    cases trimmed : trimSpan? text ⟨d.equals + 1, d.equals + 1 + length⟩ with
    | none =>
      rw [trimmed, Option.isSome_none, Eq.comm, Bool.not_eq_false'] at present
      simp [trim_eq_nil.mpr present]
    | some value =>
      rw [trimmed, Option.isSome_some, Eq.comm, Bool.not_eq_true'] at present
      have visible : trim ((text.drop (d.equals + 1)).take length) ≠ [] := fun empty => by
        rw [trim_eq_nil.mp empty] at present
        cases present
      simp [slice_trimSpan? trimmed, between, visible]

theorem misgiven_iff {text : List Char} {d : Declaration} (member : d ∈ findDeclarations text) :
    d.Misgiven text ↔ d.IllTyped text := by
  obtain ⟨given, missing⟩ := written?_of_mem_findDeclarations member
  cases value : d.value with
  | none =>
    refine ⟨fun ⟨word, written, filled, _⟩ => ?_, fun ⟨span, absent, _⟩ => ?_⟩
    · rcases missing.mp value with none | empty
      · rw [none] at written
        cases written
      · rw [empty] at written
        exact absurd (Option.some.inj written).symm filled
    · rw [value] at absent
      cases absent
  | some span =>
    obtain ⟨written, filled⟩ := given span value
    simp [Declaration.Misgiven, Declaration.IllTyped, written, value, filled]

instance (text : List Char) (d : Declaration) : Decidable (d.Misgiven text) :=
  decidable_of_iff ((d.written? text).any fun value => !value.isEmpty && !d.type.accepts d.options value) <| by
    simp [Declaration.Misgiven, Option.any_eq_true, ← DeclaredType.accepts_iff]

/-- A declaration without value is one that no terminator ends or that has only blanks before it. The check reports
all others that are given a value which is none of their type, one by one and in order, at what is written. -/
theorem terminated_values_checked (text : List Char) :
    (∀ d ∈ findDeclarations text, d.value = none ↔ d.written? text = none ∨ d.written? text = some []) ∧
      List.Forall₂ (fun d f => (∃ value ∈ d.written? text, f.problem = d.problem value ∧ f.range.slice text = value) ∧
          d.value.map (·.bytes text) = some ⟨f.range.start.toByte text, f.range.stop.toByte text⟩)
        ((findDeclarations text).filter fun d => d.Misgiven text) (checkDeclarations text) := by
  refine ⟨fun d member => (written?_of_mem_findDeclarations member).2, ?_⟩
  have same : (findDeclarations text).filter (fun d => d.Misgiven text) =
      (findDeclarations text).filter fun d => d.IllTyped text :=
    List.filter_congr fun d member => decide_eq_decide.mpr (misgiven_iff member)
  rw [same, checkDeclarations]
  refine forall₂_filter_filterMap (fun d => ?_) fun d member f reported => ?_
  · rw [Bool.eq_iff_iff, decide_eq_true_iff, Declaration.illTyped_iff]
  · obtain ⟨value, given, reported⟩ := Option.bind_eq_some_iff.mp reported
    split at reported
    · cases reported
    · obtain rfl := Option.some.inj reported
      obtain ⟨filled, inside⟩ := inside_of_value member given
      have written := ((written?_of_mem_findDeclarations member).1 value given).1
      refine ⟨⟨value.slice text, written, rfl, Range.slice_ofSpan filled inside⟩, ?_⟩
      rw [given, Option.map_some, ← Range.toByte_ofSpan (Nat.le_of_lt filled) inside]

/-- One value on the next line, and one that no terminator ends. -/
theorem terminated_values_checked_open :
    let text := "declare n : int =\n  true; declare b : bool = 1".toList
    let n : Declaration := ⟨"n".toList, .int, [], ⟨0, 15⟩, 16, some ⟨20, 24⟩⟩
    let b : Declaration := ⟨"b".toList, .boolean, [], ⟨26, 42⟩, 43, none⟩
    findDeclarations text = [n, b] ∧ b.written? text = none ∧ n.Misgiven text ∧ (checkDeclarations text).length = 1 := by
  intro text n b
  have found : findDeclarations text = [n, b] := by decide +kernel
  obtain ⟨values, reports⟩ := terminated_values_checked text
  have absent := (values b (found ▸ by simp)).mp rfl
  have given : n.Misgiven text := by decide +kernel
  have length := reports.length_eq
  rw [found] at length
  refine ⟨found, absent.resolve_right (by decide +kernel), given, ?_⟩
  rw [← length]
  decide +kernel

/-- A terminator behind blanks only leaves the declaration without a value, and the check says nothing. -/
theorem blank_value_unchecked :
    let text := "declare n : int =;".toList
    let n : Declaration := ⟨"n".toList, .int, [], ⟨0, 15⟩, 16, none⟩
    findDeclarations text = [n] ∧ topLevel? .terminator (text.drop (n.equals + 1)) = some 0 ∧
      [] ∉ n.type.language n.options ∧ checkDeclarations text = [] := by
  intro text n
  refine ⟨by decide +kernel, by decide +kernel, fun member => ?_, by decide +kernel⟩
  have accepted := DeclaredType.accepts_iff.mpr member
  cases accepted

end Dialect
