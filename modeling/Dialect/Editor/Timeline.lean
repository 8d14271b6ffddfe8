import Dialect.Editor.Scheduler

/-! The log of a scheduler whose jobs take time: when each job starts and ends, and whether its
generation was current then. A job that has started runs to its end. -/
namespace Dialect.Editor

structure Started where
  uri : Uri
  generation : Nat
  ends : Nat
  deriving Repr, DecidableEq

inductive Moment where
  | start | stop
  deriving Repr, DecidableEq

structure LogEntry where
  time : Nat
  generation : Nat
  moment : Moment
  current : Bool
  deriving Repr, DecidableEq

/-- The order of a log: by time, then generation, and starts before ends. -/
def LogEntry.precedes (a b : LogEntry) : Bool :=
  a.time < b.time || (a.time == b.time &&
    (a.generation < b.generation || (a.generation == b.generation && a.moment == .start)))

structure Timeline where
  scheduler : Scheduler Nat := {}
  running : List Started := []

namespace Timeline

def step (t : Timeline) (action : Scheduler.Action Nat) : List LogEntry × Timeline :=
  let (fired, scheduler) := t.scheduler.step action
  let running := t.running ++ fired.map fun timer =>
    ⟨timer.uri, timer.generation, timer.deadline + timer.job⟩
  let starts := fired.map fun timer =>
    ⟨timer.deadline, timer.generation, .start, scheduler.isCurrent timer.uri timer.generation⟩
  let (ended, running) := running.partition (·.ends ≤ scheduler.now)
  let stops := ended.map fun job =>
    ⟨job.ends, job.generation, .stop, scheduler.isCurrent job.uri job.generation⟩
  (sortBy LogEntry.precedes (starts ++ stops), ⟨scheduler, running⟩)

end Timeline

end Dialect.Editor
