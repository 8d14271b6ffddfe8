import Dialect.Proofs.Editor.Generation

/-! The scheduler with the handles of its tasks. A scheduler that holds on to one handle for each document,
also when the task behind it has long fired, aborts by handle and never by document; its timers are those
of the scheduler that drops by document. -/
namespace Dialect.Editor

/-- A scheduler that keeps the handle of the task that was spawned last for a document, under the
task's generation. A task that fires leaves its handle behind. -/
structure HandledScheduler (α : Type) extends Scheduler α where
  handles : Table Nat := {}

namespace HandledScheduler

variable {α : Type}

/-- Aborts the task behind a handle; one that has fired has nothing left to abort. -/
def abort (handle : Option Nat) (tasks : List (Timer α)) : List (Timer α) :=
  tasks.filter fun task => some task.generation ≠ handle

/-- Spawns a task, keeps its handle, and aborts the task of the handle that was kept before. -/
def schedule (h : HandledScheduler α) (uri : Uri) (delay : Nat) (job : α) : HandledScheduler α :=
  { h with
    counter := h.counter + 1
    latest := h.latest.put uri (h.counter + 1)
    pending := abort (h.handles.get? uri) (h.pending ++ [⟨uri, h.counter + 1, h.now + delay, job⟩])
    handles := h.handles.put uri (h.counter + 1) }

/-- Gives up the handle of a document, and aborts its task. -/
def cancel (h : HandledScheduler α) (uri : Uri) : HandledScheduler α :=
  { h with
    latest := h.latest.remove uri
    pending := abort (h.handles.get? uri) h.pending
    handles := h.handles.remove uri }

def act (h : HandledScheduler α) : Scheduler.Action α → HandledScheduler α
  | .schedule uri delay job => h.schedule uri delay job
  | .cancel uri => h.cancel uri
  | .wait delay => { h with now := h.now + delay }

/-- The scheduler after an action and what it fires. -/
def step (h : HandledScheduler α) (action : Scheduler.Action α) : HandledScheduler α :=
  { h.act action with toScheduler := (h.act action).fire }

def after (h : HandledScheduler α) : List (Scheduler.Action α) → HandledScheduler α
  | [] => h
  | action :: rest => (h.step action).after rest

/-- Every task that can still fire is the one behind the handle of its document. -/
structure Kept (h : HandledScheduler α) : Prop where
  tasks : ∀ task ∈ h.pending, h.handles.get? task.uri = some task.generation
  counted : ∀ uri generation, h.handles.get? uri = some generation → generation ≤ h.counter
  distinct : ∀ first second generation, h.handles.get? first = some generation →
    h.handles.get? second = some generation → first = second

variable {h : HandledScheduler α}

/-- Aborting by the handle of a document takes out exactly its tasks. -/
theorem Kept.abort_eq (kept : Kept h) (uri : Uri) :
    abort (h.handles.get? uri) h.pending = h.pending.filter (·.uri ≠ uri) := by
  refine List.filter_congr fun task member => decide_eq_decide.mpr (not_congr ⟨fun same => ?_, ?_⟩)
  · exact kept.distinct _ _ _ (kept.tasks task member) same.symm
  · rintro rfl
    exact (kept.tasks task member).symm

theorem Kept.act_eq (kept : Kept h) (action : Scheduler.Action α) :
    (h.act action).toScheduler = h.toScheduler.act action := by
  cases action with
  | schedule uri delay job =>
    have fresh : abort (h.handles.get? uri) [⟨uri, h.counter + 1, h.now + delay, job⟩] =
        [⟨uri, h.counter + 1, h.now + delay, job⟩] := by
      refine List.filter_eq_self.mpr fun task member => decide_eq_true fun same => ?_
      have bound := kept.counted uri task.generation same.symm
      rw [List.mem_singleton.mp member] at bound
      exact Nat.not_succ_le_self _ bound
    simp only [act, schedule, Scheduler.act, Scheduler.schedule, Scheduler.mk.injEq, true_and]
    rw [← kept.abort_eq uri]
    exact (List.filter_append ..).trans (congrArg _ fresh)
  | cancel uri =>
    simp only [act, cancel, Scheduler.act, Scheduler.cancel, Scheduler.mk.injEq, true_and]
    exact kept.abort_eq uri
  | wait delay => rfl

theorem Kept.act (kept : Kept h) (action : Scheduler.Action α) : Kept (h.act action) := by
  have same := congrArg Scheduler.pending (kept.act_eq action)
  cases action with
  | schedule uri delay job =>
    refine ⟨fun task member => ?_, fun other generation => ?_, fun first second generation => ?_⟩
    · rw [same] at member
      simp only [HandledScheduler.act, schedule, Table.get?_put]
      rcases List.mem_append.mp member with old | new
      · obtain ⟨old, other⟩ := List.mem_filter.mp old
        rw [if_neg (of_decide_eq_true other)]
        exact kept.tasks task old
      · rw [List.mem_singleton.mp new, if_pos rfl]
    · simp only [HandledScheduler.act, schedule, Table.get?_put]
      split
      · rintro ⟨⟩
        exact Nat.le_refl _
      · exact fun found => Nat.le_succ_of_le (kept.counted other generation found)
    · simp only [HandledScheduler.act, schedule, Table.get?_put]
      have older := kept.counted
      split <;> split <;> intro one two
      · simp_all
      · have bound := older second generation two
        have newest := Option.some.inj one
        omega
      · have bound := older first generation one
        have newest := Option.some.inj two
        omega
      · exact kept.distinct first second generation one two
  | cancel uri =>
    refine ⟨fun task member => ?_, fun other generation => ?_, fun first second generation => ?_⟩
    · rw [same] at member
      obtain ⟨old, other⟩ := List.mem_filter.mp member
      simp only [HandledScheduler.act, cancel, Table.get?_remove]
      rw [if_neg (of_decide_eq_true other)]
      exact kept.tasks task old
    · simp only [HandledScheduler.act, cancel, Table.get?_remove, Option.ite_none_left_eq_some]
      exact fun found => kept.counted other generation found.2
    · simp only [HandledScheduler.act, cancel, Table.get?_remove, Option.ite_none_left_eq_some]
      exact fun one two => kept.distinct first second generation one.2 two.2
  | wait delay => exact ⟨kept.tasks, kept.counted, kept.distinct⟩

theorem Kept.step (kept : Kept h) (action : Scheduler.Action α) : Kept (h.step action) := by
  have kept := kept.act action
  exact ⟨fun task member => kept.tasks task (List.mem_of_mem_filter member), kept.counted, kept.distinct⟩

theorem Kept.after_eq (kept : Kept h) (actions : List (Scheduler.Action α)) :
    (h.after actions).toScheduler = h.toScheduler.after actions := by
  induction actions generalizing h with
  | nil => rfl
  | cons action actions ih =>
    have first : (h.step action).toScheduler = (h.toScheduler.step action).2 :=
      congrArg Scheduler.fire (kept.act_eq action)
    rw [after, ih (kept.step action), first, Scheduler.after_cons]

/-- Over any sequence of actions, keeping and aborting handles comes to the same as dropping timers by
document. -/
theorem toScheduler_after (actions : List (Scheduler.Action α)) :
    (after {} actions : HandledScheduler α).toScheduler = Scheduler.after {} actions := by
  refine Kept.after_eq ⟨?_, ?_, ?_⟩ actions <;> simp [Table.get?]

end HandledScheduler

end Dialect.Editor
