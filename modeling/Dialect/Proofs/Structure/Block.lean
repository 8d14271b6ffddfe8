import Dialect.Proofs.Code.Level
import Dialect.Proofs.Structure.Action

/-! Action blocks and their braces. A scan that has entered a block knows no more of it than how many brackets were
open right behind its brace. As long as that many brackets are open the last of them is the brace, whatever closers
have come since, so the block ends with the closer that takes the brace off the stack. -/
namespace Dialect

/-- What is open where a scan has come to a position. -/
def nestingAt (text : List Char) (p : Position) : Nesting :=
  let state := ScanState.after {} 0 ((CodeLine.ofDocument text).take p.line)
  match (CodeLine.ofDocument text)[p.line]? with
  | none => state.nesting
  | some line =>
    (BracketPass.run p.line ⟨state.nesting, actionMarker? line, [], []⟩ 0 (line.chars.take p.column)).nesting

/-- What the code view shows at a position. -/
def codeSign? (text : List Char) (p : Position) : Option Char :=
  ((CodeLine.ofDocument text)[p.line]?).bind (·.chars[p.column]?)

variable {text : List Char} {p : Position} {c : Char}

theorem blockAt_eq (text : List Char) (p : Position) : blockAt text p = (nestingAt text p).block := by
  simp only [blockAt, nestingAt]
  cases (CodeLine.ofDocument text)[p.line]? <;> rfl

theorem nestingAt_start (text : List Char) (number : Nat) :
    nestingAt text ⟨number, 0⟩ = (ScanState.after {} 0 ((CodeLine.ofDocument text).take number)).nesting := by
  rw [nestingAt]
  split <;> rfl

/-- A line starts with what is open behind the code of the line above it. -/
theorem nestingAt_below (behind : codeSign? text p = none) : nestingAt text ⟨p.line + 1, 0⟩ = nestingAt text p := by
  rw [nestingAt_start, nestingAt, List.take_add_one]
  cases there : (CodeLine.ofDocument text)[p.line]? with
  | none => simp
  | some line =>
    simp only [codeSign?, there, Option.bind_some, List.getElem?_eq_none_iff] at behind
    have inside := (List.getElem?_eq_some_iff.mp there).1
    simp only [Option.toList_some, ScanState.after_concat, List.length_take_of_le (Nat.le_of_lt inside), Nat.zero_add,
      List.take_of_length_le behind]
    rfl

/-- What one character of the code does: it opens a bracket, closes one or leaves all as it is. -/
theorem nestingAt_next (text : List Char) (p : Position) :
    (∃ c marked, codeSign? text p = some c ∧ isOpener c = true ∧
      nestingAt text ⟨p.line, p.column + 1⟩ = (nestingAt text p).push ⟨c, p.line, p.column⟩ marked) ∨
    (∃ c, codeSign? text p = some c ∧ isCloser c = true ∧
      nestingAt text ⟨p.line, p.column + 1⟩ = (nestingAt text p).pop c) ∨
    (∀ c, codeSign? text p = some c → isBracket c = false) ∧
      nestingAt text ⟨p.line, p.column + 1⟩ = nestingAt text p := by
  cases there : (CodeLine.ofDocument text)[p.line]? with
  | none => exact .inr (.inr ⟨by simp [codeSign?, there], by simp [nestingAt, there]⟩)
  | some line =>
    have sign : codeSign? text p = line.chars[p.column]? := by simp [codeSign?, there]
    cases here : line.chars[p.column]? with
    | none => exact .inr (.inr ⟨by simp [sign, here], by simp [nestingAt, there, List.take_add_one, here]⟩)
    | some c =>
      have inside := (List.getElem?_eq_some_iff.mp here).1
      obtain ⟨pass, before, after⟩ : ∃ pass : BracketPass, nestingAt text p = pass.nesting ∧
          nestingAt text ⟨p.line, p.column + 1⟩ = (pass.step p.line c p.column).nesting := by
        simp only [nestingAt, there, List.take_add_one, here, Option.toList_some, BracketPass.run_append,
          List.length_take_of_le (Nat.le_of_lt inside), Nat.zero_add, BracketPass.run]
        exact ⟨_, rfl, rfl⟩
      rw [before, after, sign, here]
      by_cases opens : isOpener c = true
      · exact .inl ⟨c, pass.marker.any (· ≤ p.column), rfl, opens, by simp [BracketPass.step, opens]⟩
      · by_cases closes : isCloser c = true
        · exact .inr (.inl ⟨c, rfl, closes, by simp [BracketPass.step, opens, closes]⟩)
        · have plain : isBracket c = false := by simp [isBracket, opens, closes]
          exact .inr (.inr ⟨by simpa using plain, by rw [BracketPass.step_other plain]⟩)

/-- A scan comes to all positions over the characters of a line and from behind its code to the next line. -/
theorem scan_induction (text : List Char) {motive : Position → Prop} (start : motive ⟨0, 0⟩)
    (next : ∀ p, motive p → motive ⟨p.line, p.column + 1⟩)
    (below : ∀ p, codeSign? text p = none → motive p → motive ⟨p.line + 1, 0⟩) (p : Position) : motive p := by
  obtain ⟨number, column⟩ := p
  induction number generalizing column with
  | zero =>
    induction column with
    | zero => exact start
    | succ column ih => exact next ⟨0, column⟩ ih
  | succ number above =>
    induction column with
    | zero =>
      let line := (CodeLine.ofDocument text)[number]?
      refine below ⟨number, (line.map (·.chars.length)).getD 0⟩ ?_ (above _)
      cases there : line with
      | none => simp [codeSign?, show (CodeLine.ofDocument text)[number]? = _ from there]
      | some line => simp [codeSign?, show (CodeLine.ofDocument text)[number]? = _ from there]
    | succ column ih => exact next ⟨number + 1, column⟩ ih

/-- The block that is open, if one is, has been entered at the brace `entered`, and this stands where its depth says. -/
structure Nesting.Follows (nesting : Nesting) (entered : Option Bracket) : Prop where
  distinct : nesting.stack.Nodup
  inside : ∀ b ∈ entered, b ∈ nesting.stack → nesting.block ≠ none
  depth : ∀ depth ∈ nesting.block, 1 ≤ depth ∧ ∃ b ∈ entered, nesting.stack.reverse[depth - 1]? = some b

theorem Nesting.block_push_ne_none {nesting : Nesting} (opened : nesting.block ≠ none) (b : Bracket) (marked : Bool) :
    (nesting.push b marked).block ≠ none := by
  simp only [Nesting.push]
  split
  · exact Option.some_ne_none _
  · exact opened

theorem getElem?_reverse_cons {b : Bracket} {stack : List Bracket} {place : Nat} (low : place < stack.length) :
    (b :: stack).reverse[place]? = stack.reverse[place]? := by
  rw [List.reverse_cons, List.getElem?_append_left (by simpa using low)]

theorem getElem?_reverse_head (b : Bracket) (stack : List Bracket) :
    (b :: stack).reverse[stack.length]? = some b := by simp

namespace Nesting.Follows

variable {nesting : Nesting} {entered : Option Bracket} {b : Bracket}

theorem push (follows : nesting.Follows entered) (fresh : b ∉ nesting.stack) (new : b ∉ entered) (marked : Bool) :
    (nesting.push b marked).Follows (if nesting.enters b.char marked then some b else entered) := by
  have distinct : (nesting.push b marked).stack.Nodup := List.nodup_cons.mpr ⟨fresh, follows.distinct⟩
  cases enters : nesting.enters b.char marked with
  | true =>
    refine ⟨distinct, ?_, ?_⟩
    · simp [Nesting.push, enters]
    · simp [Nesting.push, enters]
  | false =>
    refine ⟨distinct, ?_, ?_⟩
    · intro other member open'
      simp only [Nesting.push, enters, Bool.false_eq_true, if_false] at member open' ⊢
      rcases List.mem_cons.mp open' with rfl | below
      · exact absurd member new
      · exact follows.inside other member below
    · intro depth block
      simp only [Nesting.push, enters, Bool.false_eq_true, if_false] at block ⊢
      obtain ⟨positive, other, member, there⟩ := follows.depth depth block
      have low := (List.getElem?_eq_some_iff.mp there).1
      refine ⟨positive, other, member, ?_⟩
      rwa [getElem?_reverse_cons (by simpa using low)]

/-- Where a block is open, its brace is the innermost bracket exactly if no fewer brackets than its depth are open. -/
theorem head_iff (follows : nesting.Follows entered) {depth : Nat} (block : nesting.block = some depth) :
    (∃ b ∈ entered, nesting.stack.head? = some b) ↔ ¬ depth ≤ nesting.stack.tail.length := by
  obtain ⟨positive, brace, member, there⟩ := follows.depth depth block
  have distinct := follows.distinct
  have low := (List.getElem?_eq_some_iff.mp there).1
  rcases stack : nesting.stack with _ | ⟨top, below⟩
  · simp [stack] at low
  · rw [stack] at there low distinct
    rw [List.length_reverse, List.length_cons] at low
    simp only [List.head?_cons, List.tail_cons]
    constructor
    · rintro ⟨b, member', same⟩ deep
      obtain rfl : brace = top := Option.some.inj (member.symm.trans (member'.trans same.symm))
      rw [getElem?_reverse_cons (Nat.lt_of_lt_of_le (Nat.sub_lt positive Nat.one_pos) deep)] at there
      exact (List.nodup_cons.mp distinct).1 (List.mem_reverse.mp (List.mem_of_getElem? there))
    · intro shallow
      have last : depth - 1 = below.length := by omega
      rw [last, getElem?_reverse_head] at there
      exact ⟨brace, member, there⟩

/-- A closer leaves the block if it takes the brace of the block, and only then. -/
theorem block_pop (follows : nesting.Follows entered) (opened : nesting.block ≠ none) (closer : Char) :
    (nesting.pop closer).block = none ↔ ∃ b ∈ entered, nesting.stack.head? = some b := by
  obtain ⟨depth, block⟩ := Option.ne_none_iff_exists'.mp opened
  rw [follows.head_iff block]
  simp [Nesting.pop, block, Option.filter]

theorem block_ne_none_iff (follows : nesting.Follows entered) :
    nesting.block ≠ none ↔ ∃ b ∈ entered, b ∈ nesting.stack := by
  constructor
  · intro opened
    obtain ⟨depth, block⟩ := Option.ne_none_iff_exists'.mp opened
    obtain ⟨_, b, member, there⟩ := follows.depth depth block
    exact ⟨b, member, List.mem_reverse.mp (List.mem_of_getElem? there)⟩
  · rintro ⟨b, member, open'⟩
    exact follows.inside b member open'

theorem block_eq_none (follows : nesting.Follows entered) (closed : nesting.stack = []) : nesting.block = none := by
  by_contra opened
  obtain ⟨b, _, open'⟩ := follows.block_ne_none_iff.mp opened
  simp [closed] at open'

theorem pop (follows : nesting.Follows entered) (closer : Char) : (nesting.pop closer).Follows entered where
  distinct := follows.distinct.tail
  inside := by
    intro b member open' left
    have opened := follows.inside b member (List.mem_of_mem_tail open')
    obtain ⟨top, member', head⟩ := (follows.block_pop opened closer).mp left
    obtain rfl : b = top := Option.some.inj (member.symm.trans member')
    obtain ⟨below, stack⟩ := List.head?_eq_some_iff.mp head
    have distinct := follows.distinct
    simp only [Nesting.pop, stack, List.tail_cons] at open' distinct
    exact (List.nodup_cons.mp distinct).1 open'
  depth := by
    intro depth block
    obtain ⟨block, low⟩ := Option.filter_eq_some_iff.mp (Option.mem_def.mp block)
    obtain ⟨positive, b, member, there⟩ := follows.depth depth block
    refine ⟨positive, b, member, ?_⟩
    rw [decide_eq_true_eq] at low
    rcases stack : nesting.stack with _ | ⟨top, below⟩
    · simp [stack] at there
    · simp only [Nesting.pop, stack, List.tail_cons] at low there ⊢
      rwa [getElem?_reverse_cons (Nat.lt_of_lt_of_le (Nat.sub_lt positive Nat.one_pos) low)] at there

end Nesting.Follows

theorem Position.not_before_self (p : Position) : ¬ p.Before p := by simp [Position.Before]

theorem Position.before_next {q : Position} : q.Before ⟨p.line, p.column + 1⟩ ↔ q.Before p ∨ q = p := by
  obtain ⟨line, column⟩ := p
  obtain ⟨line', column'⟩ := q
  simp only [Position.Before, Position.mk.injEq]
  omega

/-- Of all action blocks that a scan has entered before it came to a position, the last one was entered at this
brace. -/
structure Bracket.EnteredLast (text : List Char) (p : Position) (b : Bracket) : Prop where
  brace : b.char = '{'
  enters : EntersAt text b.position
  before : b.position.Before p
  last : ∀ q, EntersAt text q → q.Before p → ¬ b.position.Before q

theorem entersAt_iff : EntersAt text p ↔
    (nestingAt text p).block = none ∧ (nestingAt text ⟨p.line, p.column + 1⟩).block ≠ none := by
  simp only [EntersAt, blockAt_eq]

theorem not_entersAt_of_eq (same : (nestingAt text ⟨p.line, p.column + 1⟩).block = (nestingAt text p).block) :
    ¬ EntersAt text p := by
  rw [entersAt_iff, same]
  exact fun enters => enters.2 enters.1

theorem not_entersAt_of_pop (same : nestingAt text ⟨p.line, p.column + 1⟩ = (nestingAt text p).pop c) :
    ¬ EntersAt text p := by
  rw [entersAt_iff, same]
  rintro ⟨idle, opened⟩
  simp [Nesting.pop, idle] at opened

theorem entersAt_of_push {b : Bracket} {marked : Bool}
    (same : nestingAt text ⟨p.line, p.column + 1⟩ = (nestingAt text p).push b marked) :
    EntersAt text p ↔ (nestingAt text p).enters b.char marked = true := by
  rw [entersAt_iff, same]
  cases enters : (nestingAt text p).enters b.char marked with
  | true =>
    have idle : (nestingAt text p).block = none := by
      simp only [Nesting.enters, Bool.and_eq_true, Option.isNone_iff_eq_none] at enters
      exact enters.2
    simp [Nesting.push, enters, idle]
  | false => simp [Nesting.push, enters]

/-- No block is entered behind the code of a line. -/
theorem EntersAt.before_of_behind {q : Position} (enters : EntersAt text q) (behind : codeSign? text p = none)
    (here : q.line = p.line) : q.Before p := by
  by_contra later
  have quiet : codeSign? text q = none := by
    simp only [Position.Before, here, Nat.lt_irrefl, true_and, false_or, Nat.not_lt] at later
    rw [codeSign?, Option.bind_eq_none_iff] at behind ⊢
    intro line there
    have short := List.getElem?_eq_none_iff.mp (behind line (here ▸ there))
    apply List.getElem?_eq_none
    omega
  rcases nestingAt_next text q with ⟨c, _, sign, _⟩ | ⟨c, sign, _⟩ | ⟨_, same⟩
  · simp [quiet] at sign
  · simp [quiet] at sign
  · exact not_entersAt_of_eq (congrArg Nesting.block same) enters

namespace Bracket.EnteredLast

variable {b : Bracket} {p' : Position}

theorem congr (same : ∀ q, EntersAt text q → (q.Before p ↔ q.Before p')) (entered : b.EnteredLast text p) :
    b.EnteredLast text p' where
  brace := entered.brace
  enters := entered.enters
  before := (same _ entered.enters).mp entered.before
  last := by
    intro q enters before
    exact entered.last q enters ((same q enters).mpr before)

theorem congr_iff (same : ∀ q, EntersAt text q → (q.Before p ↔ q.Before p')) :
    b.EnteredLast text p ↔ b.EnteredLast text p' :=
  ⟨congr same, congr fun q enters => (same q enters).symm⟩

theorem next_iff (other : ¬ EntersAt text p) :
    b.EnteredLast text p ↔ b.EnteredLast text ⟨p.line, p.column + 1⟩ := by
  apply congr_iff
  intro q enters
  rw [Position.before_next]
  constructor
  · exact .inl
  · rintro (before | rfl)
    · exact before
    · exact absurd enters other

theorem here_iff (enters : EntersAt text p) :
    b.EnteredLast text ⟨p.line, p.column + 1⟩ ↔ b = ⟨'{', p.line, p.column⟩ := by
  constructor
  · intro entered
    have here : b.position = p := by
      rcases Position.before_next.mp entered.before with above | same
      · exact absurd above (entered.last p enters (Position.before_next.mpr (.inr rfl)))
      · exact same
    obtain ⟨char, line, column⟩ := b
    obtain rfl : char = '{' := entered.brace
    rw [← here]
    rfl
  · rintro rfl
    refine ⟨rfl, enters, Position.before_next.mpr (.inr rfl), ?_⟩
    intro q _ before later
    simp only [Position.Before, Bracket.position] at before later
    omega

end Bracket.EnteredLast

/-- Before it came to a position a scan has entered a block at the brace `entered` last, or none at all, and what is
open there stands before the position and follows this brace. -/
structure Tracks (text : List Char) (p : Position) (entered : Option Bracket) : Prop where
  last : ∀ b, b ∈ entered ↔ b.EnteredLast text p
  follows : (nestingAt text p).Follows entered
  before : ∀ b ∈ (nestingAt text p).stack, b.position.Before p

namespace Tracks

variable {entered : Option Bracket}

theorem start (text : List Char) : Tracks text ⟨0, 0⟩ none := by
  have idle : nestingAt text ⟨0, 0⟩ = {} := nestingAt_start text 0
  refine ⟨?_, ?_, ?_⟩
  · intro b
    refine ⟨fun member => (by cases member), fun entered => ?_⟩
    have before := entered.before
    simp [Position.Before] at before
  · rw [idle]
    exact ⟨List.nodup_nil, by simp, by simp⟩
  · simp [idle]

theorem push {marked : Bool} (tracks : Tracks text p entered)
    (same : nestingAt text ⟨p.line, p.column + 1⟩ = (nestingAt text p).push ⟨c, p.line, p.column⟩ marked) :
    Tracks text ⟨p.line, p.column + 1⟩
      (if (nestingAt text p).enters c marked then some ⟨c, p.line, p.column⟩ else entered) := by
  have fresh : ⟨c, p.line, p.column⟩ ∉ (nestingAt text p).stack := by
    intro opened
    exact p.not_before_self (tracks.before _ opened)
  have new : ⟨c, p.line, p.column⟩ ∉ entered := by
    intro member
    exact p.not_before_self ((tracks.last _).mp member).before
  refine ⟨?_, ?_, ?_⟩
  · intro b
    by_cases enters : EntersAt text p
    · have marked := (entersAt_of_push same).mp enters
      obtain rfl : c = '{' := by
        simp only [Nesting.enters, Bool.and_eq_true, beq_iff_eq] at marked
        exact marked.1.1
      rw [if_pos marked, Bracket.EnteredLast.here_iff enters, Option.mem_some, Eq.comm]
    · rw [if_neg (mt (entersAt_of_push same).mpr enters), tracks.last, Bracket.EnteredLast.next_iff enters]
  · rw [same]
    exact tracks.follows.push fresh new marked
  · intro b opened
    rw [same] at opened
    apply Position.before_next.mpr
    rcases List.mem_cons.mp opened with rfl | below
    · exact .inr rfl
    · exact .inl (tracks.before b below)

/-- At a character that enters no block and opens no bracket. -/
theorem keep (tracks : Tracks text p entered) (other : ¬ EntersAt text p)
    (follows : (nestingAt text ⟨p.line, p.column + 1⟩).Follows entered)
    (fewer : (nestingAt text ⟨p.line, p.column + 1⟩).stack ⊆ (nestingAt text p).stack) :
    Tracks text ⟨p.line, p.column + 1⟩ entered := by
  refine ⟨?_, follows, ?_⟩
  · intro b
    rw [tracks.last, Bracket.EnteredLast.next_iff other]
  · intro b opened
    exact Position.before_next.mpr (.inl (tracks.before b (fewer opened)))

theorem pop (tracks : Tracks text p entered)
    (same : nestingAt text ⟨p.line, p.column + 1⟩ = (nestingAt text p).pop c) :
    Tracks text ⟨p.line, p.column + 1⟩ entered := by
  apply tracks.keep (not_entersAt_of_pop same)
  · rw [same]
    exact tracks.follows.pop c
  · rw [same]
    exact (List.tail_sublist _).subset

theorem stay (tracks : Tracks text p entered)
    (same : nestingAt text ⟨p.line, p.column + 1⟩ = nestingAt text p) :
    Tracks text ⟨p.line, p.column + 1⟩ entered := by
  apply tracks.keep (not_entersAt_of_eq (congrArg Nesting.block same))
  · rw [same]
    exact tracks.follows
  · rw [same]
    exact List.Subset.refl _

theorem below (tracks : Tracks text p entered) (behind : codeSign? text p = none) :
    Tracks text ⟨p.line + 1, 0⟩ entered := by
  have same := nestingAt_below behind
  refine ⟨?_, ?_, ?_⟩
  · intro b
    rw [tracks.last]
    apply Bracket.EnteredLast.congr_iff
    intro q enters
    have here := enters.before_of_behind behind
    simp only [Position.Before] at here ⊢
    omega
  · rw [same]
    exact tracks.follows
  · intro b opened
    rw [same] at opened
    have before := tracks.before b opened
    simp only [Position.Before] at before ⊢
    omega

end Tracks

/-- Wherever a scan has come to, what is open follows the brace of the block that it has entered last. -/
theorem exists_tracks (text : List Char) (p : Position) : ∃ entered, Tracks text p entered := by
  induction p using scan_induction text with
  | start => exact ⟨none, .start text⟩
  | next p ih =>
    obtain ⟨entered, tracks⟩ := ih
    rcases nestingAt_next text p with ⟨c, marked, _, _, pushed⟩ | ⟨c, _, _, popped⟩ | ⟨_, same⟩
    · exact ⟨_, tracks.push pushed⟩
    · exact ⟨entered, tracks.pop popped⟩
    · exact ⟨entered, tracks.stay same⟩
  | below p behind ih =>
    obtain ⟨entered, tracks⟩ := ih
    exact ⟨entered, tracks.below behind⟩

/-- Action blocks follow their braces. Wherever a scan has come to, it is inside a block if and only if the brace at
which it has entered a block last is still on the stack, and then this is the bracket that the depth of the block
points at, counted from the outermost. Of the characters only the closer that takes this brace from the stack leaves
the block, whatever it fits, the end of a line leaves nothing, and where no bracket is open no block is. -/
theorem block_follows_brace (text : List Char) (p : Position) :
    ((nestingAt text p).block ≠ none ↔ ∃ b ∈ (nestingAt text p).stack, b.EnteredLast text p) ∧
    (∀ depth ∈ (nestingAt text p).block, 1 ≤ depth ∧ depth ≤ (nestingAt text p).stack.length ∧
      ∃ b, b.EnteredLast text p ∧ (nestingAt text p).stack.reverse[depth - 1]? = some b) ∧
    ((nestingAt text p).block ≠ none →
      ((nestingAt text ⟨p.line, p.column + 1⟩).block = none ↔
        (∃ c, codeSign? text p = some c ∧ isCloser c = true) ∧
          ∃ b, b.EnteredLast text p ∧ (nestingAt text p).stack.head? = some b)) ∧
    (codeSign? text p = none → nestingAt text ⟨p.line + 1, 0⟩ = nestingAt text p) ∧
    ((nestingAt text p).stack = [] → (nestingAt text p).block = none) := by
  obtain ⟨entered, last, follows, _⟩ := exists_tracks text p
  refine ⟨?_, ?_, ?_, nestingAt_below, follows.block_eq_none⟩
  · rw [follows.block_ne_none_iff]
    simp only [last, and_comm]
  · intro depth block
    obtain ⟨positive, b, member, there⟩ := follows.depth depth block
    have low := (List.getElem?_eq_some_iff.mp there).1
    rw [List.length_reverse] at low
    exact ⟨positive, by omega, b, (last b).mp member, there⟩
  · intro opened
    rcases nestingAt_next text p with ⟨c, marked, sign, opens, same⟩ | ⟨c, sign, closes, same⟩ | ⟨plain, same⟩
    · have stays := Nesting.block_push_ne_none opened ⟨c, p.line, p.column⟩ marked
      simp [same, stays, sign, isCloser_eq_false_of_isOpener opens]
    · rw [same, follows.block_pop opened]
      simp [sign, closes, last]
    · have quiet : ¬ ∃ c, codeSign? text p = some c ∧ isCloser c = true := by
        rintro ⟨c, sign, closes⟩
        have other := plain c sign
        simp [isBracket, closes] at other
      simp [same, opened, quiet]

/-- A block with a round bracket, another marker and a square closer in it, which takes the brace behind the other
marker. The block is left at the second to last brace, which takes the first one. -/
theorem block_follows_brace_nested :
    let text := "x = @do { ( @do { ] ) } }\n".toList
    let brace : Bracket := ⟨'{', 0, 8⟩
    (nestingAt text ⟨0, 22⟩).block = some 1 ∧ brace.EnteredLast text ⟨0, 22⟩ ∧
      (nestingAt text ⟨0, 22⟩).stack.head? = some brace ∧ (nestingAt text ⟨0, 23⟩).block = none := by
  intro text brace
  have block : (nestingAt text ⟨0, 22⟩).block = some 1 := by decide +kernel
  have stack : (nestingAt text ⟨0, 22⟩).stack = [brace] := by decide +kernel
  obtain ⟨_, depth, left, _, _⟩ := block_follows_brace text ⟨0, 22⟩
  obtain ⟨_, _, b, last, there⟩ := depth 1 block
  rw [stack] at there
  obtain rfl : brace = b := Option.some.inj there
  refine ⟨block, last, by rw [stack]; rfl, ?_⟩
  apply (left (by simp [block])).mpr
  exact ⟨⟨'}', by decide +kernel, rfl⟩, brace, last, by rw [stack]; rfl⟩

end Dialect
