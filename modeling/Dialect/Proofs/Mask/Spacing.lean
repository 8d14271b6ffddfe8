import Dialect.Proofs.Code.Literal
import Dialect.Proofs.Declaration.Meaning
import Dialect.Proofs.Mask.Run

/-! A document and the same document with one space for each run of blanks, as two versions of one text. A
run that is empty stands after a word or before the `=` of a declaration, so no space comes to stand where
it would part anything. -/
namespace Dialect

section Runs

variable {source : List Char} {run : Span}

theorem construct_of_mem_runs (member : run ∈ runs source) :
    (∃ d ∈ findDeclarations source, d.hasInlineOptions source = true ∧
      (run = d.afterHead source ∨ run = d.beforeEquals source)) ∨
    ∃ span, .action span ∈ constructs source ∧ run = ⟨span.start + 3, span.stop⟩ := by
  rw [runs, List.mem_dedup, List.mem_flatMap] at member
  obtain ⟨construct, masked, own⟩ := member
  have among := mem_constructs_of_masked masked
  cases construct with
  | declaration d =>
    have found : d ∈ findDeclarations source := by
      rcases mem_constructs.mp among with ⟨e, found, same⟩ | ⟨_, _, _, same⟩ | ⟨_, _, same⟩ | ⟨_, _, same⟩
      · cases same
        exact found
      all_goals cases same
    simp only [Construct.runs] at own
    split at own
    · next options => exact .inl ⟨d, found, options, by simpa using own⟩
    · cases own
  | action span => exact .inr ⟨span, among, List.mem_singleton.mp own⟩
  | node span => cases own
  | reference span => cases own

theorem blankFrom_of_mem_runs (member : run ∈ runs source) :
    run.start ≤ run.stop ∧ BlankFrom source run.start run.stop := by
  obtain ⟨mark, isRun⟩ := isRun_of_mem_placedRuns (mem_placedRuns_iff.mpr member)
  exact ⟨isRun.order, isRun.blank⟩

/-- The head of a declaration ends with its type. -/
theorem typeEnds_head {d : Declaration} (found : d ∈ findDeclarations source) :
    typeEnds (source.take d.head.stop) = true := by
  obtain ⟨head, located, completed⟩ := List.mem_filterMap.mp found
  obtain ⟨_, order, recognised⟩ := mem_findAll located
  rw [← (ofHead?_eq_some completed).1] at order recognised
  rw [head?_eq] at recognised
  split at recognised
  · cases recognised
  obtain ⟨⟨_, rest⟩, read, same⟩ := Option.map_eq_some_iff.mp recognised
  obtain ⟨taken, text, ends⟩ := headWith?_typeEnds read
  have length : d.head.stop - d.head.start = taken.length := by
    rw [← (Prod.mk.inj same).2, text]
    simp
  have split : source.take d.head.stop = source.take d.head.start ++ taken := by
    rw [show d.head.stop = d.head.start + taken.length by omega, List.take_add, text, List.take_left]
  rw [split]
  exact ends _

theorem signsBefore_of_letter {text : List Char} {c : Char} (last : text.getLast? = some c) (other : c ≠ '=') :
    signsBefore text = 0 := by
  rw [← List.dropLast_append_getLast? c last, signsBefore_concat, if_neg other]

theorem getLast?_take {text : List Char} {index : Nat} (positive : 0 < index) {c : Char}
    (there : text[index - 1]? = some c) : (text.take index).getLast? = some c := by
  have inside := (List.getElem?_eq_some_iff.mp there).1
  rw [List.getLast?_eq_getElem?, List.length_take, List.getElem?_take_of_lt (by omega),
    Nat.min_eq_left (by omega), there]

/-- The `=` of a declaration is not the second of a pair. -/
theorem signsBefore_equals {d : Declaration} (placed : d.Placed source) :
    signsBefore (source.take d.equals) % 2 = 0 := by
  obtain ⟨c, there, letter⟩ := placed.last
  have positive := placed.order
  have last := getLast?_take (by omega) there
  have other : c ≠ '=' := by
    rintro rfl
    cases letter
  have even : signsBefore (source.take d.head.stop) % 2 = 0 := by rw [signsBefore_of_letter last other]
  have known := signsBefore_topLevel? even placed.search
  have order := placed.before
  rwa [← List.take_add, Nat.add_sub_cancel' order] at known

/-- What follows a run, and why a space may stand there. -/
theorem next_of_mem_runs (member : run ∈ runs source) :
    ∃ c, source[run.stop]? = some c ∧ isBlank c = false ∧
      (run.start = run.stop → ∀ rest, Loose (source.take run.start) (.keep c :: rest)) := by
  rcases construct_of_mem_runs member with ⟨d, found, options, rfl | rfl⟩ | ⟨span, action, rfl⟩
  · have placed := placed_of_mem_findDeclarations found
    obtain ⟨⟨c, there, visible⟩, _⟩ := placed.afterHead_visible options
    refine ⟨c, there, visible, fun empty rest => ?_⟩
    have stop : (d.afterHead source).stop = d.head.stop := empty.symm
    have positive := placed.order
    obtain ⟨letter, last, isLetter⟩ := placed.last
    refine .word ?_ visible ?_ (fun _ => typeEnds_head found) rest
    · show (source.take d.head.stop).getLast?.any isAsciiLetter = true
      rw [getLast?_take (by omega) last]
      exact isLetter
    · have ends := placed.ends
      rw [stop] at there
      simpa [endsWord, there] using ends
  · have placed := placed_of_mem_findDeclarations found
    refine ⟨'=', placed.sign, rfl, fun empty rest => .equals ?_ rest⟩
    rw [show (d.beforeEquals source).start = d.equals from empty]
    exact signsBefore_equals placed
  · have sound : (Mark.action span).Sound source := sound_of_mem_marks action _ (List.mem_singleton.mpr rfl)
    have brace : source[span.stop]? = some '{' := Mark.action_next sound
    refine ⟨'{', brace, rfl, fun _ rest => .word ?_ rfl (by decide) ?_ rest⟩
    obtain ⟨gap, after, text, _⟩ := action_of_mem_constructs action
    have last : source[span.start + 3 - 1]? = some 'o' := by
      rw [show span.start + 3 - 1 = span.start + 2 by omega, ← List.getElem?_drop, text]
      rfl
    · rw [getLast?_take (Nat.succ_pos _) last]
      rfl
    · exact fun ident => absurd ident (by decide)

end Runs

/-- The document from `cursor` on, with a space in the place of each run. -/
def spacedParts (source : List Char) (cursor : Nat) : List Span → List Part
  | [] => (source.drop cursor).map .keep
  | run :: rest =>
    (Span.slice ⟨cursor, run.start⟩ source).map .keep ++
      .gap (run.slice source) [' '] :: spacedParts source run.stop rest

theorem newText_spacedParts (source : List Char) (cursor : Nat) (found : List Span) :
    newText (spacedParts source cursor found) = Splice.weave source cursor (found.map spaceFor) := by
  induction found generalizing cursor with
  | nil => rw [spacedParts, newText_keeps, List.map_nil, Splice.weave]
  | cons run rest ih =>
    rw [spacedParts, newText_append, newText_keeps, newText_gap, ih, List.map_cons, Splice.weave]
    simp [spaceFor]

/-- Runs follow each other from `cursor` on. -/
def InOrder (cursor : Nat) (found : List Span) : Prop :=
  (∀ run ∈ found, cursor ≤ run.start ∧ run.start ≤ run.stop) ∧ found.Pairwise fun a b => a.stop < b.start

theorem InOrder.tail {cursor : Nat} {run : Span} {rest : List Span} (order : InOrder cursor (run :: rest)) :
    cursor ≤ run.start ∧ run.start ≤ run.stop ∧ (∀ next ∈ rest, run.stop < next.start) ∧
      InOrder run.stop rest := by
  obtain ⟨first, later⟩ := List.pairwise_cons.mp order.2
  obtain ⟨low, high⟩ := order.1 run List.mem_cons_self
  refine ⟨low, high, first, fun next member => ?_, later⟩
  exact ⟨Nat.le_of_lt (first next member), (order.1 next (List.mem_cons_of_mem _ member)).2⟩

theorem oldText_spacedParts {source : List Char} {cursor : Nat} {found : List Span} (order : InOrder cursor found) :
    oldText (spacedParts source cursor found) = source.drop cursor := by
  induction found generalizing cursor with
  | nil => rw [spacedParts, oldText_keeps]
  | cons run rest ih =>
    obtain ⟨low, high, _, later⟩ := order.tail
    rw [spacedParts, oldText_append, oldText_keeps, oldText_gap, ih later,
      Span.slice_append_drop run source high, Span.slice_append_drop ⟨cursor, run.start⟩ source low]

theorem exists_of_keeps_append {text : List Char} {old new old' new' : List Char} {parts front rest : List Part}
    (split : text.map .keep ++ .gap old new :: parts = front ++ .gap old' new' :: rest) :
    front = text.map .keep ∧ old = old' ∧ new = new' ∧ parts = rest ∨
      ∃ more, front = text.map .keep ++ .gap old new :: more ∧ parts = more ++ .gap old' new' :: rest := by
  obtain ⟨more, rfl, same⟩ := append_eq_append_cons_of_not_mem (not_mem_keeps old' new' text) split
  cases more with
  | nil =>
    cases same
    exact .inl ⟨List.append_nil _, rfl, rfl, rfl⟩
  | cons part more =>
    cases same
    exact .inr ⟨more, rfl, rfl⟩

/-- Each gap is a run, and what follows it is kept. -/
theorem run_of_gap {source : List Char} {cursor : Nat} {found : List Span} (order : InOrder cursor found)
    (inside : ∀ run ∈ found, run.stop < source.length) {front rest : List Part} {old new : List Char}
    (split : spacedParts source cursor found = front ++ .gap old new :: rest) :
    ∃ run ∈ found, old = run.slice source ∧ new = [' '] ∧ oldText front = Span.slice ⟨cursor, run.start⟩ source ∧
      ∃ c more, source[run.stop]? = some c ∧ rest = .keep c :: more := by
  induction found generalizing cursor front with
  | nil => exact absurd split keeps_ne
  | cons run found ih =>
    obtain ⟨low, high, apart, later⟩ := order.tail
    have bounded := inside run List.mem_cons_self
    rcases exists_of_keeps_append split with ⟨rfl, rfl, rfl, rfl⟩ | ⟨more, rfl, same⟩
    · refine ⟨run, List.mem_cons_self, rfl, rfl, oldText_keeps _, source[run.stop], ?_⟩
      have there := List.getElem?_eq_getElem bounded
      have next : source.drop run.stop = source[run.stop] :: source.drop (run.stop + 1) :=
        List.drop_eq_getElem_cons bounded
      -- the next run starts later, so the character after this one is kept
      match found with
      | [] => exact ⟨_, there, by rw [spacedParts, next]; rfl⟩
      | second :: others =>
        have positive := apart second List.mem_cons_self
        obtain ⟨size, length⟩ : ∃ size, second.start - run.stop = size + 1 := ⟨second.start - run.stop - 1, by omega⟩
        exact ⟨_, there, by rw [spacedParts, Span.slice, next]; simp only [length]; rfl⟩
    · obtain ⟨next, member, first, second, text, follows⟩ :=
        ih later (fun next member => inside next (List.mem_cons_of_mem _ member)) same
      refine ⟨next, List.mem_cons_of_mem _ member, first, second, ?_, follows⟩
      have beyond := apart next member
      rw [oldText_append, oldText_keeps, oldText_gap, text, Span.slice_append_slice source high (Nat.le_of_lt beyond),
        Span.slice_append_slice source low (Nat.le_trans high (Nat.le_of_lt beyond))]

theorem inOrder_placedRuns (source : List Char) : InOrder 0 (placedRuns source) := by
  refine ⟨fun run member => ⟨Nat.zero_le _, ?_⟩, placedRuns_ordered source⟩
  exact (blankFrom_of_mem_runs (mem_placedRuns_iff.mp member)).1

/-- The two versions of a document. -/
def spacing (source : List Char) : List Part := spacedParts source 0 (placedRuns source)

section Spacing

variable {source : List Char}

@[simp] theorem oldText_spacing (source : List Char) : oldText (spacing source) = source :=
  oldText_spacedParts (inOrder_placedRuns source)

@[simp] theorem newText_spacing (source : List Char) : newText (spacing source) = spaced source := by
  rw [spacing, newText_spacedParts, spaced, sort_runs]

theorem run_of_spacing {front rest : List Part} {old new : List Char}
    (split : spacing source = front ++ .gap old new :: rest) :
    ∃ run ∈ runs source, old = run.slice source ∧ new = [' '] ∧ oldText front = source.take run.start ∧
      ∃ c more, source[run.stop]? = some c ∧ rest = .keep c :: more := by
  have inside : ∀ run ∈ placedRuns source, run.stop < source.length := fun run member => by
    obtain ⟨c, there, _⟩ := next_of_mem_runs (mem_placedRuns_iff.mp member)
    exact (List.getElem?_eq_some_iff.mp there).1
  obtain ⟨run, member, known⟩ := run_of_gap (inOrder_placedRuns source) inside split
  exact ⟨run, mem_placedRuns_iff.mp member, known⟩

/-- No space comes to stand where it would part anything. -/
theorem harmless_spacing (source : List Char) : Harmless [] (spacing source) := by
  intro front old new rest split
  obtain ⟨run, member, rfl, rfl, text, c, more, there, rfl⟩ := run_of_spacing split
  obtain ⟨order, blank⟩ := blankFrom_of_mem_runs member
  refine ⟨blank.isBlankText_slice, rfl, ?_⟩
  obtain ⟨d, same, _, loose⟩ := next_of_mem_runs member
  cases same.symm.trans there
  by_cases empty : run.start = run.stop
  · rw [List.nil_append, text]
    exact .inr (loose empty more)
  · refine .inl ⟨fun none => ?_, by simp⟩
    have inside := (List.getElem?_eq_some_iff.mp there).1
    have length := Span.length_slice (Nat.le_of_lt inside)
    rw [none, List.length_nil] at length
    omega

end Spacing

end Dialect
