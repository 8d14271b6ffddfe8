import Dialect.Proofs.Editor.Server
import Mathlib.Data.List.Induction

/-! Generations over a whole run of the scheduler. One counter numbers the schedules of all documents, so
a generation is never handed out twice; it is current from its schedule to the next schedule or the
cancellation of its document, and never after that. -/
namespace Dialect.Editor.Scheduler

variable {α : Type}

/-- The action sets or drops the timer of the document. -/
def Action.touches (uri : Uri) : Action α → Bool
  | .schedule other _ _ | .cancel other => other == uri
  | .wait _ => false

/-- How far the action moves the clock. -/
def Action.passes : Action α → Nat
  | .wait delay => delay
  | _ => 0

def Action.isSchedule : Action α → Bool
  | .schedule _ _ _ => true
  | _ => false

/-- The time that a sequence of actions takes. -/
def elapsed : List (Action α) → Nat
  | [] => 0
  | action :: rest => action.passes + elapsed rest

/-- How many timers a sequence of actions sets. -/
def schedules (actions : List (Action α)) : Nat := actions.countP Action.isSchedule

@[simp] theorem elapsed_nil : elapsed ([] : List (Action α)) = 0 := rfl

@[simp] theorem elapsed_cons (action : Action α) (actions : List (Action α)) :
    elapsed (action :: actions) = action.passes + elapsed actions := rfl

@[simp] theorem elapsed_append (first second : List (Action α)) :
    elapsed (first ++ second) = elapsed first + elapsed second := by
  induction first with
  | nil => exact (Nat.zero_add _).symm
  | cons action first ih => rw [List.cons_append, elapsed_cons, elapsed_cons, ih, Nat.add_assoc]

@[simp] theorem schedules_nil : schedules ([] : List (Action α)) = 0 := rfl

@[simp] theorem schedules_cons (action : Action α) (actions : List (Action α)) :
    schedules (action :: actions) = schedules actions + if action.isSchedule then 1 else 0 := by
  simp [schedules, List.countP_cons]

@[simp] theorem schedules_append (first second : List (Action α)) :
    schedules (first ++ second) = schedules first + schedules second := by simp [schedules]

variable (s : Scheduler α) (action : Action α)

@[simp] theorem now_step : (s.step action).2.now = s.now + action.passes := by
  cases action <;> rfl

@[simp] theorem counter_step :
    (s.step action).2.counter = s.counter + if action.isSchedule then 1 else 0 := by
  cases action <;> rfl

/-- A schedule makes its generation the latest of its document, a cancellation leaves it without one, and
nothing else changes what is latest. -/
theorem latest_step (uri : Uri) :
    (s.step action).2.latest.get? uri =
      if action.touches uri then (if action.isSchedule then some (s.counter + 1) else none)
      else s.latest.get? uri := by
  cases action with
  | schedule other delay job =>
    simp only [step, act, fire, schedule, Table.get?_put, Action.touches, Action.isSchedule, beq_iff_eq,
      eq_comm (a := uri), if_true]
  | cancel other =>
    simp only [step, act, fire, cancel, Table.get?_remove, Action.touches, Action.isSchedule, beq_iff_eq,
      eq_comm (a := uri), Bool.false_eq_true, if_false]
  | wait delay => rfl

/-- The scheduler after a sequence of actions. -/
def after (actions : List (Action α)) : Scheduler α := (s.run actions).2

/-- The generations that a sequence of actions hands out, in order. -/
def handed (s : Scheduler α) : List (Action α) → List Nat
  | [] => []
  | .schedule uri delay job :: rest =>
    (s.schedule uri delay job).counter :: (s.step (.schedule uri delay job)).2.handed rest
  | action :: rest => (s.step action).2.handed rest

@[simp] theorem after_nil : s.after [] = s := rfl

@[simp] theorem after_cons (actions : List (Action α)) :
    s.after (action :: actions) = (s.step action).2.after actions := rfl

theorem after_append (first second : List (Action α)) :
    s.after (first ++ second) = (s.after first).after second := by
  induction first generalizing s with
  | nil => rfl
  | cons action first ih => exact ih _

theorem now_after (actions : List (Action α)) : (s.after actions).now = s.now + elapsed actions := by
  induction actions generalizing s with
  | nil => rfl
  | cons action actions ih => rw [after_cons, ih, now_step, elapsed_cons, Nat.add_assoc]

theorem counter_after (actions : List (Action α)) :
    (s.after actions).counter = s.counter + schedules actions := by
  induction actions generalizing s with
  | nil => rfl
  | cons action actions ih =>
    rw [after_cons, ih, counter_step, schedules_cons]
    omega

theorem handed_eq (actions : List (Action α)) :
    s.handed actions = List.range' (s.counter + 1) (schedules actions) := by
  induction actions generalizing s with
  | nil => rfl
  | cons action actions ih =>
    cases action with
    | schedule uri delay job =>
      rw [handed, ih, counter_step, schedules_cons]
      exact (List.range'_succ ..).symm
    | cancel uri =>
      rw [handed, ih, counter_step, schedules_cons]
      · rfl
      · intros
        contradiction
    | wait delay =>
      rw [handed, ih, counter_step, schedules_cons]
      · rfl
      · intros
        contradiction

/-- The most recent schedule of the document returned `generation`, and the document was not cancelled
after it. -/
def Newest (actions : List (Action α)) (uri : Uri) (generation : Nat) : Prop :=
  ∃ before delay job later, actions = before ++ .schedule uri delay job :: later ∧
    generation = ((after {} before).schedule uri delay job).counter ∧
    ∀ action ∈ later, action.touches uri = false

/-- The last action decides, if it is about the document. -/
theorem newest_concat_iff {actions : List (Action α)} {action : Action α} {uri : Uri} {generation : Nat} :
    Newest (actions ++ [action]) uri generation ↔
      if action.touches uri then action.isSchedule ∧ generation = (after {} actions).counter + 1
      else Newest actions uri generation := by
  constructor
  · rintro ⟨before, delay, job, later, split, newest, quiet⟩
    rcases List.eq_nil_or_concat later with rfl | ⟨inner, last, rfl⟩
    · obtain ⟨rfl, same⟩ := List.append_inj' split rfl
      obtain rfl : action = .schedule uri delay job := by simpa using same
      rw [if_pos (by simp [Action.touches])]
      exact ⟨rfl, newest⟩
    · rw [List.concat_eq_append] at quiet split
      rw [← List.cons_append, ← List.append_assoc] at split
      obtain ⟨rfl, same⟩ := List.append_inj' split rfl
      obtain rfl : action = last := by simpa using same
      rw [if_neg (by simp [quiet action])]
      exact ⟨before, delay, job, inner, rfl, newest, fun other member => quiet other (by simp [member])⟩
  · split
    · next touched =>
      rintro ⟨sets, newest⟩
      cases action with
      | schedule other delay job =>
        obtain rfl : other = uri := by simpa [Action.touches] using touched
        exact ⟨actions, delay, job, [], rfl, newest, by simp⟩
      | cancel | wait => cases sets
    · next untouched =>
      rintro ⟨before, delay, job, later, rfl, newest, quiet⟩
      refine ⟨before, delay, job, later ++ [action], by simp, newest, fun other member => ?_⟩
      rcases List.mem_append.mp member with old | last
      · exact quiet other old
      · rw [List.mem_singleton.mp last]
        exact Bool.eq_false_iff.mpr untouched

theorem latest_iff (actions : List (Action α)) (uri : Uri) (generation : Nat) :
    (after {} actions).latest.get? uri = some generation ↔ Newest actions uri generation := by
  induction actions using List.reverseRecOn with
  | nil =>
    have nothing : (after {} ([] : List (Action α))).latest.get? uri = none := rfl
    rw [nothing]
    refine ⟨fun found => (by cases found), ?_⟩
    rintro ⟨before, delay, job, later, split, _⟩
    simp at split
  | append_singleton actions action ih =>
    rw [newest_concat_iff, ← ih, after_append, after_cons, after_nil, latest_step]
    split
    · cases action.isSchedule <;> simp [eq_comm]
    · rfl

variable {s}

/-- The generation has been handed out and is not the latest of the document. -/
structure Stale (s : Scheduler α) (uri : Uri) (generation : Nat) : Prop where
  handed : generation ≤ s.counter
  superseded : s.latest.get? uri ≠ some generation

/-- A later schedule gets a larger generation, so no action makes a stale one the latest. -/
theorem Stale.step {uri : Uri} {generation : Nat} (stale : Stale s uri generation) (action : Action α) :
    Stale (s.step action).2 uri generation := by
  refine ⟨?_, ?_⟩
  · rw [counter_step]
    exact Nat.le_add_right_of_le stale.handed
  · rw [latest_step]
    split
    · have older := stale.handed
      split
      · intro same
        have newest := Option.some.inj same
        omega
      · simp
    · exact stale.superseded

theorem Stale.after {uri : Uri} {generation : Nat} (stale : Stale s uri generation)
    (actions : List (Action α)) : Stale (s.after actions) uri generation := by
  induction actions generalizing s with
  | nil => exact stale
  | cons action actions ih => exact ih (stale.step action)

theorem isCurrent_iff {uri : Uri} {generation : Nat} :
    s.isCurrent uri generation = true ↔ s.latest.get? uri = some generation := by
  rw [isCurrent, beq_iff_eq]

/-- After any sequence of actions: the generations handed out, over all documents, are strictly
increasing, and at most as large as the number of schedules, so that a counter of 64 bits does not
overflow before 2 ^ 64 schedules; a generation is current for a document exactly if the document's most
recent schedule returned it and no cancellation followed; each document has at most one current
generation; and one that has been handed out and is not current will not be so again, whatever follows. -/
theorem current_until_superseded (actions : List (Action α)) :
    let s : Scheduler α := after {} actions
    (handed {} actions).Pairwise (· < ·) ∧
    (∀ generation ∈ handed {} actions, 0 < generation ∧ generation ≤ schedules actions) ∧
    (∀ uri generation, s.isCurrent uri generation = true ↔ Newest actions uri generation) ∧
    (∀ uri first second, s.isCurrent uri first = true → s.isCurrent uri second = true → first = second) ∧
    (∀ generation ∈ handed {} actions, ∀ uri, s.isCurrent uri generation = false →
      ∀ later, (after {} (actions ++ later)).isCurrent uri generation = false) := by
  intro s
  have range : handed {} actions = List.range' 1 (schedules actions) := handed_eq {} actions
  have bounds : ∀ generation ∈ handed {} actions, 0 < generation ∧ generation ≤ schedules actions := by
    intro generation member
    rw [range, List.mem_range'_1] at member
    omega
  refine ⟨?_, bounds, fun uri generation => ?_, fun uri first second one other => ?_, ?_⟩
  · rw [range]
    exact List.pairwise_lt_range'
  · rw [isCurrent_iff]
    exact latest_iff actions uri generation
  · rw [isCurrent_iff] at one other
    exact Option.some.inj (one.symm.trans other)
  · intro generation member uri superseded later
    have stale : Stale s uri generation := by
      refine ⟨?_, fun latest => ?_⟩
      · rw [counter_after]
        exact Nat.le_add_left_of_le (bounds generation member).2
      · rw [isCurrent_iff.mpr latest] at superseded
        cases superseded
    rw [after_append]
    exact Bool.eq_false_iff.mpr fun current => (stale.after later).superseded (isCurrent_iff.mp current)

/-- A document that is cancelled and scheduled again, with a schedule of another one between them. -/
theorem current_until_superseded_cancelled :
    let actions : List (Action Unit) := [.schedule "a" 500 (), .schedule "b" 500 (), .wait 600, .cancel "a"]
    let s : Scheduler Unit := after {} actions
    let later : List (Action Unit) := [.schedule "a" 500 ()]
    handed {} actions = [1, 2] ∧ s.isCurrent "a" 1 = false ∧
      (after {} (actions ++ later)).isCurrent "a" 1 = false ∧
      s.isCurrent "b" 2 = true ∧ ∀ generation, s.isCurrent "b" generation = true → generation = 2 := by
  intro actions s later
  obtain ⟨_, _, _, unique, stale⟩ := current_until_superseded actions
  have handed : handed {} actions = [1, 2] := by decide
  have superseded : s.isCurrent "a" 1 = false := by decide
  have current : s.isCurrent "b" 2 = true := by decide
  refine ⟨handed, superseded, ?_, current, fun generation same => unique "b" generation 2 same current⟩
  exact stale 1 (by rw [handed]; decide) "a" superseded later

end Dialect.Editor.Scheduler
