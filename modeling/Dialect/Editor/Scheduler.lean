import Dialect.Editor.Table
import Dialect.Order

/-! Checks that wait for a pause in the editing. Each document has at most one timer; a new one
replaces it. Every timer has a generation, and the generations of all documents come from one
counter, so that a document that is opened again never meets an old one. Time is a number of
milliseconds that only `wait` moves. -/
namespace Dialect.Editor

structure Timer (α : Type) where
  uri : Uri
  generation : Nat
  deadline : Nat
  job : α
  deriving Repr, DecidableEq

/-- Whether `a` fires before `b`: at an earlier time, or at the same time and made earlier. -/
def Timer.precedes {α : Type} (a b : Timer α) : Bool :=
  a.deadline < b.deadline || (a.deadline == b.deadline && a.generation ≤ b.generation)

structure Scheduler (α : Type) where
  now : Nat := 0
  counter : Nat := 0
  /-- The latest generation of each document whose check has not been cancelled. -/
  latest : Table Nat := {}
  pending : List (Timer α) := []

namespace Scheduler

variable {α : Type}

def schedule (s : Scheduler α) (uri : Uri) (delay : Nat) (job : α) : Scheduler α :=
  { s with
    counter := s.counter + 1
    latest := s.latest.put uri (s.counter + 1)
    pending := s.pending.filter (·.uri ≠ uri) ++ [⟨uri, s.counter + 1, s.now + delay, job⟩] }

/-- Drops the timer of a document, and makes what has already started for it stale. -/
def cancel (s : Scheduler α) (uri : Uri) : Scheduler α :=
  { s with latest := s.latest.remove uri, pending := s.pending.filter (·.uri ≠ uri) }

def isCurrent (s : Scheduler α) (uri : Uri) (generation : Nat) : Bool :=
  s.latest.get? uri == some generation

/-- Timers that have reached their deadline, in the order in which they fire. -/
def due (s : Scheduler α) : List (Timer α) :=
  sortBy Timer.precedes (s.pending.filter (·.deadline ≤ s.now))

def fire (s : Scheduler α) : Scheduler α :=
  { s with pending := s.pending.filter (s.now < ·.deadline) }

def wait (s : Scheduler α) (delay : Nat) : Scheduler α := { s with now := s.now + delay }

inductive Action (α : Type) where
  | schedule (uri : Uri) (delay : Nat) (job : α)
  | cancel (uri : Uri)
  | wait (delay : Nat)
  deriving Repr

def act (s : Scheduler α) : Action α → Scheduler α
  | .schedule uri delay job => s.schedule uri delay job
  | .cancel uri => s.cancel uri
  | .wait delay => s.wait delay

def step (s : Scheduler α) (action : Action α) : List (Timer α) × Scheduler α :=
  ((s.act action).due, (s.act action).fire)

/-- All timers that a sequence of actions fires, in order, and the scheduler after it. -/
def run (s : Scheduler α) : List (Action α) → List (Timer α) × Scheduler α
  | [] => ([], s)
  | action :: rest => ((s.step action).1 ++ ((s.step action).2.run rest).1, ((s.step action).2.run rest).2)

end Scheduler

end Dialect.Editor
