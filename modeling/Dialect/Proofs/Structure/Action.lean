import Dialect.Proofs.Code.Action
import Dialect.Proofs.Code.Index
import Dialect.Proofs.Structure.Canonical

/-! Where a scan enters action blocks. On a line without an action keyword at its start the first marker counts, and
a brace enters a block if this marker stands directly before it. -/
namespace Dialect

/-- The code of the line starts with an action keyword. -/
def CodeLine.startsAction (line : CodeLine) : Bool :=
  (line.firstColumn?.bind line.wordAt?).any (actionKeywords.contains ·)

/-- What the lines from `number` on leave to the one below them. -/
def ScanState.after (state : ScanState) (number : Nat) : List CodeLine → ScanState
  | [] => state
  | code :: rest => after (state.line number code rest).2 (number + 1) rest

namespace ScanState

theorem after_concat (state : ScanState) (number : Nat) (above : List CodeLine) (code : CodeLine) :
    state.after number (above ++ [code]) = ((state.after number above).line (number + above.length) code []).2 := by
  induction above generalizing state number with
  | nil => rfl
  | cons first above ih =>
    rw [List.cons_append, after, after, List.length_cons, ← Nat.add_assoc, Nat.add_right_comm, ← ih]
    rfl

end ScanState

/-- The action block that a scan is in where it has come to a position: how many brackets were open right after its
opening brace. -/
def blockAt (text : List Char) (p : Position) : Option Nat :=
  let state := ScanState.after {} 0 ((CodeLine.ofDocument text).take p.line)
  match (CodeLine.ofDocument text)[p.line]? with
  | none => state.nesting.block
  | some line =>
    (BracketPass.run p.line ⟨state.nesting, actionMarker? line, [], []⟩ 0 (line.chars.take p.column)).nesting.block

/-- The scan enters an action block at the character at a position. -/
def EntersAt (text : List Char) (p : Position) : Prop :=
  blockAt text p = none ∧ blockAt text ⟨p.line, p.column + 1⟩ ≠ none

instance (text : List Char) (p : Position) : Decidable (EntersAt text p) := by unfold EntersAt; infer_instance

/-- The scan enters an action block at the character with this index. -/
def Enters (text : List Char) (index : Nat) : Prop := EntersAt text (.ofIndex text index)

instance (text : List Char) (index : Nat) : Decidable (Enters text index) := by unfold Enters; infer_instance

/-- In the code of its line a brace with a marker before it stands at a position. -/
def MarkedAt (text : List Char) (p : Position) : Prop :=
  ∃ line ∈ (CodeLine.ofDocument text)[p.line]?, line.chars[p.column]? = some '{' ∧ EndsMarked (line.chars.take p.column)

instance (text : List Char) (p : Position) : Decidable (MarkedAt text p) := by unfold MarkedAt; infer_instance

/-- A marker of the line of a position still waits there for a brace: where its own one stands a block was open. -/
def MarkerWaits (text : List Char) (p : Position) : Prop :=
  ∃ earlier < p.column, MarkedAt text ⟨p.line, earlier⟩ ∧ blockAt text ⟨p.line, earlier⟩ ≠ none

instance (text : List Char) (p : Position) : Decidable (MarkerWaits text p) := by unfold MarkerWaits; infer_instance

theorem actionMarker?_ordinary {line : CodeLine} (ordinary : line.startsAction = false) {c : Char}
    (member : c ∈ line.chars) (visible : isBlank c = false) :
    actionMarker? line = (markers line.chars).head?.map (·.start) := by
  rw [← shorthandColumn?_eq]
  cases start : line.firstColumn? with
  | none =>
    have blank := List.findIdx?_eq_none_iff.mp start c member
    simp [visible] at blank
  | some first =>
    rw [actionMarker?, start]
    dsimp only
    have other : (line.wordAt? first).filter (actionKeywords.contains ·) = none := by
      rw [CodeLine.startsAction, start, Option.bind_some] at ordinary
      cases word : line.wordAt? first with
      | none => rfl
      | some word' =>
        rw [word, Option.any_some] at ordinary
        rw [Option.filter_some, ordinary, if_neg Bool.false_ne_true]
    rw [other]

/-- From a marker on there is a brace with one before it. -/
theorem marker_before_iff {line : CodeLine} (ordinary : line.startsAction = false) {column : Nat}
    (brace : line.chars[column]? = some '{') :
    (actionMarker? line).any (· ≤ column) = true ↔
      ∃ place ≤ column, line.chars[place]? = some '{' ∧ EndsMarked (line.chars.take place) := by
  rw [actionMarker?_ordinary ordinary (List.mem_of_getElem? brace) rfl]
  constructor
  · intro marked
    cases found : markers line.chars with
    | nil => simp [found] at marked
    | cons first more =>
      have low : first.start ≤ column := by simpa [found] using marked
      obtain ⟨front, gap, rest, split, blank, alone, rfl⟩ := mem_markers.mp (found ▸ List.mem_cons_self)
      refine ⟨front.length + (3 + gap.length), ?_, brace_of_marker split, ?_⟩
      · by_contra inside
        exact ne_in_marker split blank (by decide) rfl low (Nat.lt_of_not_le inside) brace
      · have length : (front ++ (actionShorthand ++ gap)).length = front.length + (3 + gap.length) := by
          rw [List.length_append, length_marker]
        rw [split, ← List.append_assoc, ← length, List.take_left]
        exact endsMarked_iff.mpr ⟨front, gap, rfl, blank, alone⟩
  · rintro ⟨place, near, there, marked⟩
    obtain ⟨inside, sign⟩ := List.getElem?_eq_some_iff.mp there
    obtain ⟨start, member⟩ := (@exists_marker_iff _ (line.chars.drop (place + 1))).mpr marked
    rw [← sign, List.getElem_cons_drop, List.take_append_drop, List.length_take_of_le (Nat.le_of_lt inside)] at member
    have order := markers_ordered line.chars
    have size := start_lt_of_mem_markers member
    cases found : markers line.chars with
    | nil => simp [found] at member
    | cons first more =>
      rw [found] at order member
      have earlier : first.start ≤ start := by
        rcases List.mem_cons.mp member with rfl | later
        · exact Nat.le_refl _
        · have apart := List.rel_of_pairwise_cons order later
          have own := start_lt_of_mem_markers (found ▸ List.mem_cons_self : first ∈ markers line.chars)
          dsimp only at apart
          omega
      simp only [List.head?_cons, Option.map_some, Option.any_some, decide_eq_true_eq]
      dsimp only at size
      omega

theorem Nesting.enters_eq_false {nesting : Nesting} {c : Char} (other : ¬ isOpener c = true) (marked : Bool) :
    nesting.enters c marked = false := by
  have brace : c ≠ '{' := by
    rintro rfl
    exact other rfl
  simp [enters, brace]

namespace BracketPass

variable {line column : Nat} {pass : BracketPass} {chars : List Char}

theorem marker_step (pass : BracketPass) (line : Nat) (c : Char) (column : Nat) :
    (pass.step line c column).marker =
      if pass.nesting.enters c (pass.marker.any (· ≤ column)) then none else pass.marker := by
  rw [step]
  split
  · rfl
  · next other =>
    rw [Nesting.enters_eq_false other, if_neg Bool.false_ne_true]
    split <;> rfl

/-- A character enters a block if it is a brace and a marker waits for it. -/
theorem enters_iff_step (pass : BracketPass) (line : Nat) (c : Char) (column : Nat) :
    pass.nesting.enters c (pass.marker.any (· ≤ column)) = true ↔
      pass.nesting.block = none ∧ (pass.step line c column).nesting.block ≠ none := by
  rw [step]
  split
  · simp only [Nesting.push]
    constructor
    · intro enters
      rw [if_pos enters]
      simp only [Nesting.enters, Bool.and_eq_true] at enters
      exact ⟨Option.isNone_iff_eq_none.mp enters.2, Option.some_ne_none _⟩
    · rintro ⟨idle, entered⟩
      by_contra other
      rw [if_neg other] at entered
      exact entered idle
  · next other =>
    simp only [Nesting.enters_eq_false other, Bool.false_eq_true, false_iff, not_and, not_not]
    intro idle
    split
    · simp [Nesting.pop, idle]
    · exact idle

/-- The pass over a line enters a block at a column. -/
def Enters (pass : BracketPass) (line : Nat) (chars : List Char) (column : Nat) : Prop :=
  (run line pass 0 (chars.take column)).nesting.block = none ∧
    (run line pass 0 (chars.take (column + 1))).nesting.block ≠ none

theorem run_take {c : Char} (there : chars[column]? = some c) :
    run line pass 0 (chars.take (column + 1)) = (run line pass 0 (chars.take column)).step line c column := by
  have inside := (List.getElem?_eq_some_iff.mp there).1
  rw [List.take_add_one, there, Option.toList_some, run_append, List.length_take_of_le (Nat.le_of_lt inside),
    Nat.zero_add, run, run]

theorem enters_iff_marker {c : Char} (there : chars[column]? = some c) :
    pass.Enters line chars column ↔
      (run line pass 0 (chars.take column)).nesting.enters c
        ((run line pass 0 (chars.take column)).marker.any (· ≤ column)) = true := by
  rw [enters_iff_step _ line, Enters, run_take there]

/-- Past the end of a line nothing is entered. -/
theorem not_enters_of_none (beyond : chars[column]? = none) : ¬ pass.Enters line chars column := by
  rw [Enters, List.take_add_one, beyond, Option.toList_none, List.append_nil]
  exact fun entered => entered.2 entered.1

/-- The marker of a line waits until a block has been entered. -/
theorem marker_take (column : Nat) :
    (run line pass 0 (chars.take column)).marker = pass.marker ∧ (∀ earlier < column, ¬ pass.Enters line chars earlier) ∨
      (run line pass 0 (chars.take column)).marker = none ∧ ∃ earlier < column, pass.Enters line chars earlier := by
  induction column with
  | zero => exact .inl ⟨rfl, fun _ low => absurd low (Nat.not_lt_zero _)⟩
  | succ column ih =>
    simp only [Nat.forall_lt_succ_right, Nat.exists_lt_succ_right]
    cases there : chars[column]? with
    | none =>
      rw [List.take_add_one, there, Option.toList_none, List.append_nil]
      exact ih.imp (fun waits => ⟨waits.1, waits.2, not_enters_of_none there⟩) fun gone => ⟨gone.1, .inl gone.2⟩
    | some c =>
      rw [run_take there, marker_step, enters_iff_marker there]
      split
      · next enters => exact .inr ⟨rfl, .inr enters⟩
      · next stays => exact ih.imp (fun waits => ⟨waits.1, waits.2, stays⟩) fun gone => ⟨gone.1, .inl gone.2⟩

/-- A brace enters a block if and only if none is open, none was entered before it on its line, and it or an earlier
brace has a marker before it. -/
theorem enters_iff_marked {code : CodeLine} {nesting : Nesting} (ordinary : code.startsAction = false) :
    (⟨nesting, actionMarker? code, [], []⟩ : BracketPass).Enters line code.chars column ↔
      code.chars[column]? = some '{' ∧
        (run line ⟨nesting, actionMarker? code, [], []⟩ 0 (code.chars.take column)).nesting.block = none ∧
        (∀ earlier < column, ¬ (⟨nesting, actionMarker? code, [], []⟩ : BracketPass).Enters line code.chars earlier) ∧
        ∃ place ≤ column, code.chars[place]? = some '{' ∧ EndsMarked (code.chars.take place) := by
  cases there : code.chars[column]? with
  | none => simpa using not_enters_of_none there
  | some c =>
    rw [enters_iff_marker there, Nesting.enters]
    simp only [Bool.and_eq_true, beq_iff_eq, Option.isNone_iff_eq_none, Option.some.injEq]
    constructor
    · rintro ⟨⟨rfl, marked⟩, idle⟩
      rcases marker_take column with ⟨waits, fresh⟩ | ⟨gone, _⟩
      · rw [waits] at marked
        exact ⟨rfl, idle, fresh, (marker_before_iff ordinary there).mp marked⟩
      · rw [gone] at marked
        cases marked
    · rintro ⟨rfl, idle, fresh, marked⟩
      rcases marker_take column with ⟨waits, _⟩ | ⟨_, earlier, low, entered⟩
      · rw [waits]
        exact ⟨⟨rfl, (marker_before_iff ordinary there).mpr marked⟩, idle⟩
      · exact absurd entered (fresh earlier low)

end BracketPass

/-- No marker goes over the sign of a string, and only this sign counts of what stands before it. -/
theorem EndsMarked.tail {first first' tail : List Char} (ends : EndsString first)
    (same : first'.getLast? = first.getLast?) (marked : EndsMarked (first ++ tail)) : EndsMarked (first' ++ tail) := by
  obtain ⟨front, gap, split, blank, alone⟩ := endsMarked_iff.mp marked
  rcases List.append_eq_append_iff.mp split with ⟨inner, rfl, rfl⟩ | ⟨inner, rfl, marker⟩
  · refine endsMarked_iff.mpr ⟨first' ++ inner, gap, by simp, blank, ?_⟩
    rwa [List.getLast?_append, same, ← List.getLast?_append]
  · rcases List.eq_nil_or_concat inner with rfl | ⟨inner, c, rfl⟩
    · rw [List.append_nil] at same ends
      exact endsMarked_iff.mpr ⟨first', gap, by rw [marker, List.nil_append], blank, same ▸ alone⟩
    · have member : c ∈ actionShorthand ++ gap := by simp [marker]
      have quote : c = '"' ∨ c = '\'' := by simpa [EndsString] using ends
      have visible : isBlank c = false := by rcases quote with rfl | rfl <;> rfl
      rcases List.mem_append.mp member with word | below
      · rcases quote with rfl | rfl <;> simp [actionShorthand] at word
      · exact absurd (isBlankText_iff.mp blank c below) (by simp [visible])

namespace CodeLine

/-- In front of a brace of its code a line shows a marker if and only if one stands there. -/
theorem ofText_brace {raw : Bool} {front back : List Char} (single : '\n' ∉ front)
    (code : modeAt (entry raw) (front ++ '{' :: back) front.length = .code) :
    ∃ shown further, (ofText raw (front ++ '{' :: back)).chars = shown ++ '{' :: further ∧
      shown.length = front.length ∧ (EndsMarked shown ↔ EndsMarked front) := by
  have awaits : (entry raw).Awaits [] (front ++ '{' :: back) := by cases raw <;> trivial
  obtain ⟨first, first', tail, rfl, length, shows, ends⟩ := exists_tail single awaits fun comment => by
    rw [code] at comment
    cases comment
  obtain ⟨ends, same⟩ := ends code
  have begins : visible .code ('{' :: back) = '{' :: visible .code back := by
    rw [visible_cons]
    rfl
  rw [code, begins] at shows
  obtain ⟨further, trimmed⟩ := @exists_trimEnd_append_cons '{' rfl (first' ++ tail) (visible .code back)
  refine ⟨first' ++ tail, further, ?_, by simp [length], .tail (by rwa [EndsString, same]) same.symm, .tail ends same⟩
  rw [chars_ofText, shows, trimmed]

end CodeLine

theorem split_of_codeAt? {text : List Char} {index : Nat} {d : Char} (solid : isBlank d = false)
    (shown : codeAt? text index = some d) : ∃ before rest, text = before ++ d :: rest ∧ before.length = index := by
  obtain ⟨before, c, rest, rfl, rfl⟩ := exists_append_cons (lt_of_codeAt? shown)
  obtain ⟨rfl, _⟩ := (codeAt?_eq_some solid).mp shown
  exact ⟨before, rest, rfl, rfl⟩

theorem viewMode_of_brace {before rest : List Char}
    (sign : codeAt? (before ++ '{' :: rest) before.length = some '{') : viewMode before ('{' :: rest) = .code := by
  have role := ((codeAt?_sign rfl).mp sign).2
  rw [viewRole] at role
  cases mode : viewMode before ('{' :: rest) <;> simp [mode, Mode.step] at role ⊢

/-- A marker stands before a brace in the code of its line if and only if it stands there in the line. -/
theorem exists_shown {before rest : List Char} {line : CodeLine}
    (there : (CodeLine.ofDocument (before ++ '{' :: rest))[before.count '\n']? = some line)
    (brace : line.chars[(lineBefore before).length]? = some '{') :
    ∃ shown further, line.chars = shown ++ '{' :: further ∧ shown.length = (lineBefore before).length ∧
      (EndsMarked shown ↔ EndsMarked (lineBefore before)) := by
  have sign : codeAt? (before ++ '{' :: rest) before.length = some '{' := by
    rw [codeAt?, Position.ofIndex_length, there, Option.bind_some, brace]
  have code := viewMode_of_brace sign
  have taken : ('{' :: rest).takeWhile (· ≠ '\n') = '{' :: rest.takeWhile (· ≠ '\n') :=
    List.takeWhile_cons_of_pos (by decide)
  rw [viewMode, taken] at code
  rw [CodeLine.getElem?_ofDocument (List.cons_ne_nil '{' rest), Option.some.injEq, taken] at there
  rw [← there]
  exact CodeLine.ofText_brace (not_mem_lineBefore before) code

theorem entersAt_iff_markedAt {text : List Char} {p : Position} {line : CodeLine}
    (there : (CodeLine.ofDocument text)[p.line]? = some line) (ordinary : line.startsAction = false) :
    EntersAt text p ↔
      line.chars[p.column]? = some '{' ∧ blockAt text p = none ∧
        (∀ earlier < p.column, ¬ EntersAt text ⟨p.line, earlier⟩) ∧
        ∃ place ≤ p.column, MarkedAt text ⟨p.line, place⟩ := by
  simpa only [EntersAt, blockAt, MarkedAt, BracketPass.Enters, there, Option.mem_def, Option.some.injEq,
    exists_eq_left'] using BracketPass.enters_iff_marked ordinary

/-- Where no block was entered before it on its line, a marker before an earlier brace waits. -/
theorem exists_markedAt_iff {text : List Char} {p : Position} {line : CodeLine}
    (there : (CodeLine.ofDocument text)[p.line]? = some line) (ordinary : line.startsAction = false)
    (fresh : ∀ earlier < p.column, ¬ EntersAt text ⟨p.line, earlier⟩) :
    (∃ place ≤ p.column, MarkedAt text ⟨p.line, place⟩) ↔ MarkedAt text p ∨ MarkerWaits text p := by
  constructor
  · rintro ⟨place, near, marked⟩
    rcases Nat.eq_or_lt_of_le near with rfl | low
    · exact .inl marked
    · refine .inr ⟨place, low, marked, fun idle => fresh place low ?_⟩
      obtain ⟨line', same, brace, _⟩ := id marked
      obtain rfl : line = line' := Option.some.inj (there.symm.trans same)
      exact (@entersAt_iff_markedAt _ ⟨p.line, place⟩ _ there ordinary).mpr
        ⟨brace, idle, fun earlier below => fresh earlier (Nat.lt_trans below low), place, Nat.le_refl _, marked⟩
  · rintro (marked | ⟨earlier, low, marked, _⟩)
    · exact ⟨p.column, Nat.le_refl _, marked⟩
    · exact ⟨earlier, Nat.le_of_lt low, marked⟩

/-- Where a scan enters an action block, line by line: at a brace of the code, where no block is open and none was
entered before it on its line, if a marker stands before this brace or still waits for one. -/
theorem enters_iff {text : List Char} {index : Nat}
    (ordinary : ∀ line ∈ (CodeLine.ofDocument text)[(Position.ofIndex text index).line]?, line.startsAction = false) :
    Enters text index ↔
      codeAt? text index = some '{' ∧ blockAt text (.ofIndex text index) = none ∧
        (∀ earlier < (Position.ofIndex text index).column,
          ¬ EntersAt text ⟨(Position.ofIndex text index).line, earlier⟩) ∧
        (EndsMarked (lineBefore (text.take index)) ∨ MarkerWaits text (.ofIndex text index)) := by
  cases there : (CodeLine.ofDocument text)[(Position.ofIndex text index).line]? with
  | none =>
    have beyond : codeAt? text index = none := by rw [codeAt?, there, Option.bind_none]
    simp [beyond, Enters, EntersAt, blockAt, there]
  | some line =>
    have plain := ordinary line there
    have sign : codeAt? text index = line.chars[(Position.ofIndex text index).column]? := by
      rw [codeAt?, there, Option.bind_some]
    rw [Enters, entersAt_iff_markedAt there plain, sign]
    refine and_congr_right fun brace => and_congr_right fun _ => and_congr_right fun fresh => ?_
    rw [exists_markedAt_iff there plain fresh]
    refine or_congr_left ?_
    obtain ⟨before, rest, rfl, rfl⟩ := split_of_codeAt? rfl (sign.trans brace)
    rw [Position.ofIndex_length] at there brace ⊢
    obtain ⟨shown, further, split, length, marked⟩ := exists_shown there brace
    rw [List.take_left, ← marked, MarkedAt]
    simp only [there, Option.mem_def, Option.some.injEq, exists_eq_left', brace, true_and]
    rw [split, ← length, List.take_left]

end Dialect
