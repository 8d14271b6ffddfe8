import Dialect.Editor.Timeline
import Dialect.Proofs.Editor.Handle
import Dialect.Proofs.Order

/-! When jobs start and end. A job starts exactly when the clock reaches its deadline, unless its document
is scheduled again or cancelled before that, and a job that has started ends after its running time.
Everything is said about the entries that one generation leaves in the log of a whole run. -/
namespace Dialect.Editor

namespace Scheduler

variable {α : Type} {uri : Uri}

/-- The document is scheduled again or cancelled before `delay` has passed. -/
def Disturbed (uri : Uri) (delay : Nat) (actions : List (Action α)) : Prop :=
  ∃ front action back, actions = front ++ action :: back ∧ action.touches uri = true ∧ elapsed front < delay

theorem disturbed_nil (delay : Nat) : ¬Disturbed uri delay ([] : List (Action α)) := by
  rintro ⟨front, action, back, split, _⟩
  simp at split

theorem disturbed_cons {delay : Nat} {action : Action α} {actions : List (Action α)} :
    Disturbed uri delay (action :: actions) ↔
      (action.touches uri = true ∧ 0 < delay) ∨ Disturbed uri (delay - action.passes) actions := by
  constructor
  · rintro ⟨front, other, back, split, touches, early⟩
    cases front with
    | nil =>
      cases split
      exact .inl ⟨touches, by simpa using early⟩
    | cons first front =>
      cases split
      refine .inr ⟨front, other, back, rfl, touches, ?_⟩
      rw [elapsed_cons] at early
      omega
  · rintro (⟨touches, positive⟩ | ⟨front, other, back, rfl, touches, early⟩)
    · exact ⟨[], action, actions, rfl, touches, positive⟩
    · refine ⟨action :: front, other, back, rfl, touches, ?_⟩
      rw [elapsed_cons]
      omega

theorem not_disturbed_zero (actions : List (Action α)) : ¬Disturbed uri 0 actions := by
  rintro ⟨_, _, _, _, _, early⟩
  exact Nat.not_lt_zero _ early

instance decidableDisturbed (uri : Uri) (delay : Nat) (actions : List (Action α)) :
    Decidable (Disturbed uri delay actions) :=
  match actions with
  | [] => isFalse (disturbed_nil delay)
  | action :: rest =>
    have := decidableDisturbed uri (delay - action.passes) rest
    decidable_of_iff _ disturbed_cons.symm

/-- The action is about the document, or lets time pass. -/
def Action.concerns (uri : Uri) : Action α → Bool
  | .wait _ => true
  | action => action.touches uri

theorem passes_of_not_concerns {action : Action α} (other : ¬action.concerns uri = true) : action.passes = 0 := by
  cases action with
  | wait delay => exact absurd rfl other
  | schedule | cancel => rfl

theorem elapsed_filter (uri : Uri) (actions : List (Action α)) :
    elapsed (actions.filter (·.concerns uri)) = elapsed actions := by
  induction actions with
  | nil => rfl
  | cons action actions ih =>
    by_cases concerns : action.concerns uri = true
    · rw [List.filter_cons_of_pos concerns, elapsed_cons, elapsed_cons, ih]
    · rw [List.filter_cons_of_neg concerns, elapsed_cons, ih, passes_of_not_concerns concerns, Nat.zero_add]

theorem disturbed_filter {delay : Nat} {actions : List (Action α)} :
    Disturbed uri delay (actions.filter (·.concerns uri)) ↔ Disturbed uri delay actions := by
  induction actions generalizing delay with
  | nil => rfl
  | cons action actions ih =>
    by_cases concerns : action.concerns uri = true
    · rw [List.filter_cons_of_pos concerns, disturbed_cons, disturbed_cons, ih]
    · have untouched : action.touches uri = false := by
        cases action with
        | wait delay => rfl
        | schedule | cancel => exact Bool.eq_false_iff.mpr concerns
      rw [List.filter_cons_of_neg concerns, ih, disturbed_cons, passes_of_not_concerns concerns]
      simp [untouched]

end Scheduler

namespace Timeline

open Scheduler (Action elapsed schedules Disturbed elapsed_cons disturbed_cons disturbed_nil not_disturbed_zero)

def after (t : Timeline) : List (Action Nat) → Timeline
  | [] => t
  | action :: rest => (t.step action).2.after rest

def log (t : Timeline) : List (Action Nat) → List LogEntry
  | [] => []
  | action :: rest => (t.step action).1 ++ (t.step action).2.log rest

/-- When the job of a generation starts and ends, according to a log. -/
def record (entries : List LogEntry) (generation : Nat) : List (Nat × Moment) :=
  (entries.filter (·.generation = generation)).map fun entry => (entry.time, entry.moment)

@[simp] theorem record_nil (generation : Nat) : record [] generation = [] := rfl

@[simp] theorem record_append (first second : List LogEntry) (generation : Nat) :
    record (first ++ second) generation = record first generation ++ record second generation := by
  simp [record]

theorem log_append (t : Timeline) (first second : List (Action Nat)) :
    t.log (first ++ second) = t.log first ++ (t.after first).log second := by
  induction first generalizing t with
  | nil => rfl
  | cons action first ih => rw [List.cons_append, log, ih, log, after, List.append_assoc]

theorem scheduler_after (t : Timeline) (actions : List (Action Nat)) :
    (t.after actions).scheduler = t.scheduler.after actions := by
  induction actions generalizing t with
  | nil => rfl
  | cons action actions ih => exact ih _

/-- The timeline with an action done, before anything fires or ends. -/
def acted (t : Timeline) (action : Action Nat) : Timeline := { t with scheduler := t.scheduler.act action }

def start (timer : Timer Nat) : Started := ⟨timer.uri, timer.generation, timer.deadline + timer.job⟩

/-- All jobs that have started, those that are due included. -/
def started (t : Timeline) : List Started := t.running ++ t.scheduler.due.map start

/-- The starts and ends that are due, in no order. -/
def moments (t : Timeline) : List LogEntry :=
  (t.scheduler.due.map fun timer =>
    ⟨timer.deadline, timer.generation, .start, t.scheduler.isCurrent timer.uri timer.generation⟩) ++
  (t.started.filter (·.ends ≤ t.scheduler.now)).map fun job =>
    ⟨job.ends, job.generation, .stop, t.scheduler.isCurrent job.uri job.generation⟩

/-- What is left when everything that is due has fired and ended. -/
def settled (t : Timeline) : Timeline :=
  ⟨t.scheduler.fire, t.started.filter (t.scheduler.now < ·.ends)⟩

theorem step_eq (t : Timeline) (action : Action Nat) :
    t.step action = (sortBy LogEntry.precedes (t.acted action).moments, (t.acted action).settled) := by
  have late (job : Started) (now : Nat) : (!decide (job.ends ≤ now)) = decide (now < job.ends) := by
    rw [← decide_not]
    exact decide_eq_decide.mpr Nat.not_le
  simp only [step, Scheduler.step, List.partition_eq_filter_filter]
  exact Prod.ext rfl (congrArg (Timeline.mk _) (List.filter_congr fun job _ => late job _))

/-- Generations of the timers that wait and of the jobs that run. -/
def generations (t : Timeline) : List Nat :=
  t.scheduler.pending.map (·.generation) ++ t.running.map (·.generation)

structure Sound (t : Timeline) : Prop where
  distinct : t.generations.Nodup
  counted : ∀ generation ∈ t.generations, generation ≤ t.scheduler.counter
  alone : (t.scheduler.pending.map (·.uri)).Nodup

/-- The generation has been handed out, and its job has ended or never will start. -/
structure Over (t : Timeline) (generation : Nat) : Prop where
  handed : generation ≤ t.scheduler.counter
  absent : generation ∉ t.generations

variable {t : Timeline} {generation : Nat} {action : Action Nat}

theorem mem_generations : generation ∈ t.generations ↔
    (∃ timer ∈ t.scheduler.pending, timer.generation = generation) ∨
      ∃ job ∈ t.running, job.generation = generation := by
  simp [generations]

theorem filter_key_eq {α : Type} {key : α → Nat} {items : List α} (distinct : (items.map key).Nodup) {a : α}
    (member : a ∈ items) : items.filter (key · = key a) = [a] := by
  induction items with
  | nil => cases member
  | cons b items ih =>
    obtain ⟨fresh, distinct⟩ := List.nodup_cons.mp distinct
    rcases List.mem_cons.mp member with rfl | later
    · rw [List.filter_cons_of_pos (by simp), List.filter_eq_nil_iff.mpr]
      intro c inside same
      exact fresh (List.mem_map.mpr ⟨c, inside, by simpa using same⟩)
    · have apart : key b ≠ key a := by
        intro same
        exact fresh (same ▸ List.mem_map_of_mem later)
      rw [List.filter_cons_of_neg (by simpa using apart), ih distinct later]

theorem counter_acted (t : Timeline) (action : Action Nat) :
    t.scheduler.counter ≤ (t.acted action).scheduler.counter := by
  cases action with
  | schedule => exact Nat.le_succ _
  | cancel | wait => exact Nat.le_refl _

@[simp] theorem now_acted (t : Timeline) (action : Action Nat) :
    (t.acted action).scheduler.now = t.scheduler.now + action.passes := by
  cases action <;> rfl

theorem mem_pending_acted {timer : Timer Nat} (member : timer ∈ t.scheduler.pending)
    (untouched : action.touches timer.uri = false) : timer ∈ (t.acted action).scheduler.pending := by
  cases action with
  | schedule uri delay job =>
    refine List.mem_append_left _ (List.mem_filter.mpr ⟨member, decide_eq_true ?_⟩)
    exact fun same => by simp [Action.touches, same] at untouched
  | cancel uri =>
    refine List.mem_filter.mpr ⟨member, decide_eq_true ?_⟩
    exact fun same => by simp [Action.touches, same] at untouched
  | wait delay => exact member

/-- A timer after an action is an old one of a document that the action leaves alone, or has the next
generation. -/
theorem pending_acted {timer : Timer Nat} (member : timer ∈ (t.acted action).scheduler.pending) :
    (timer ∈ t.scheduler.pending ∧ action.touches timer.uri = false) ∨
      timer.generation = t.scheduler.counter + 1 ∧
        t.scheduler.counter + 1 = (t.acted action).scheduler.counter := by
  cases action with
  | schedule uri delay job =>
    rcases List.mem_append.mp member with old | new
    · obtain ⟨old, other⟩ := List.mem_filter.mp old
      exact .inl ⟨old, beq_false_of_ne (Ne.symm (of_decide_eq_true other))⟩
    · rw [List.mem_singleton.mp new]
      exact .inr ⟨rfl, rfl⟩
  | cancel uri =>
    obtain ⟨old, other⟩ := List.mem_filter.mp member
    exact .inl ⟨old, beq_false_of_ne (Ne.symm (of_decide_eq_true other))⟩
  | wait delay => exact .inl ⟨member, rfl⟩

theorem Over.acted (gone : Over t generation) (action : Action Nat) : Over (t.acted action) generation := by
  refine ⟨Nat.le_trans gone.handed (counter_acted t action), fun present => ?_⟩
  rcases mem_generations.mp present with ⟨timer, waits, same⟩ | running
  · rcases pending_acted waits with ⟨old, _⟩ | ⟨newest, _⟩
    · exact gone.absent (mem_generations.mpr (.inl ⟨timer, old, same⟩))
    · have handed := gone.handed
      omega
  · exact gone.absent (mem_generations.mpr (.inr running))

theorem Sound.acted (sound : Sound t) (action : Action Nat) : Sound (t.acted action) := by
  have counted : ∀ generation ∈ (t.acted action).generations,
      generation ≤ (t.acted action).scheduler.counter := by
    intro generation present
    rcases mem_generations.mp present with ⟨timer, waits, rfl⟩ | running
    · rcases pending_acted waits with ⟨old, _⟩ | ⟨newest, counter⟩
      · exact Nat.le_trans (sound.counted _ (mem_generations.mpr (.inl ⟨timer, old, rfl⟩)))
          (counter_acted t action)
      · omega
    · exact Nat.le_trans (sound.counted _ (mem_generations.mpr (.inr running))) (counter_acted t action)
  have kept (uri : Uri) : (t.scheduler.pending.filter (·.uri ≠ uri)).Sublist t.scheduler.pending :=
    List.filter_sublist
  cases action with
  | schedule uri delay job =>
    have fewer : ((t.scheduler.pending.filter (·.uri ≠ uri)).map (·.generation) ++
        t.running.map (·.generation)).Sublist t.generations := ((kept uri).map _).append_right _
    refine ⟨?_, counted, ?_⟩
    · have shape : ((t.acted (.schedule uri delay job)).generations).Perm
          ((t.scheduler.counter + 1) :: ((t.scheduler.pending.filter (·.uri ≠ uri)).map (·.generation) ++
            t.running.map (·.generation))) := by
        simp only [generations, Timeline.acted, Scheduler.act, Scheduler.schedule, List.map_append,
          List.map_cons, List.map_nil, List.append_assoc, List.singleton_append]
        exact List.perm_middle
      rw [shape.nodup_iff, List.nodup_cons]
      refine ⟨fun present => ?_, fewer.nodup sound.distinct⟩
      have bound := sound.counted _ (fewer.subset present)
      omega
    · simp only [Timeline.acted, Scheduler.act, Scheduler.schedule, List.map_append, List.map_cons, List.map_nil]
      refine List.nodup_append.mpr ⟨((kept uri).map _).nodup sound.alone, by simp, ?_⟩
      intro other member own newest
      obtain ⟨timer, inside, rfl⟩ := List.mem_map.mp member
      rw [List.mem_singleton.mp newest]
      exact of_decide_eq_true (List.mem_filter.mp inside).2
  | cancel uri =>
    exact ⟨(((kept uri).map _).append_right _).nodup sound.distinct, counted,
      ((kept uri).map _).nodup sound.alone⟩
  | wait delay => exact ⟨sound.distinct, counted, sound.alone⟩

theorem due_perm (t : Timeline) :
    t.scheduler.due.Perm (t.scheduler.pending.filter (·.deadline ≤ t.scheduler.now)) := sortBy_perm _ _

theorem mem_due {timer : Timer Nat} :
    timer ∈ t.scheduler.due ↔ timer ∈ t.scheduler.pending ∧ timer.deadline ≤ t.scheduler.now := by
  rw [(due_perm t).mem_iff, List.mem_filter, decide_eq_true_eq]

theorem mem_started {job : Started} :
    job ∈ t.started ↔ job ∈ t.running ∨ ∃ timer ∈ t.scheduler.due, start timer = job := by
  simp [started]

/-- Firing moves generations from the timers to the jobs. -/
theorem generations_perm (t : Timeline) :
    (t.scheduler.fire.pending.map (·.generation) ++ t.started.map (·.generation)).Perm t.generations := by
  have jobs : t.started.map (·.generation) =
      t.running.map (·.generation) ++ t.scheduler.due.map (·.generation) := by
    rw [started, List.map_append, List.map_map]
    rfl
  have all := t.scheduler.fire_due_perm.map (·.generation)
  rw [List.map_append] at all
  rw [jobs, generations]
  refine (List.perm_append_comm.append_left _).trans ?_
  rw [← List.append_assoc]
  exact all.append_right _

theorem generations_settled (t : Timeline) :
    t.settled.generations.Sublist
      (t.scheduler.fire.pending.map (·.generation) ++ t.started.map (·.generation)) :=
  (List.filter_sublist.map _).append_left _

theorem mem_of_settled (present : generation ∈ t.settled.generations) : generation ∈ t.generations :=
  (generations_perm t).subset ((generations_settled t).subset present)

theorem Sound.settled (sound : Sound t) : Sound t.settled := by
  refine ⟨?_, fun generation present => sound.counted generation (mem_of_settled present), ?_⟩
  · exact (generations_settled t).nodup ((generations_perm t).nodup_iff.mpr sound.distinct)
  · exact (List.filter_sublist.map _).nodup sound.alone

theorem Over.settled (gone : Over t generation) : Over t.settled generation :=
  ⟨gone.handed, fun present => gone.absent (mem_of_settled present)⟩

/-- The log of a step shows a generation as `moments` does, if that is in order. -/
theorem record_sortBy {entries : List LogEntry}
    (ordered : (entries.filter (·.generation = generation)).Pairwise (LogEntry.precedes · ·)) :
    record (sortBy LogEntry.precedes entries) generation = record entries generation := by
  rw [record, filter_sortBy_of_pairwise (fun entry => decide (entry.generation = generation)) entries ordered,
    record]

theorem filter_moments (t : Timeline) (generation : Nat) :
    t.moments.filter (·.generation = generation) =
      ((t.scheduler.due.filter (·.generation = generation)).map fun timer =>
        ⟨timer.deadline, timer.generation, .start, t.scheduler.isCurrent timer.uri timer.generation⟩) ++
      ((t.started.filter (·.generation = generation)).filter (·.ends ≤ t.scheduler.now)).map fun job =>
        ⟨job.ends, job.generation, .stop, t.scheduler.isCurrent job.uri job.generation⟩ := by
  simp only [moments, List.filter_append, List.filter_map, List.filter_filter, Function.comp_def]
  simp only [Bool.and_comm]

theorem due_filter_eq_nil (absent : ∀ timer ∈ t.scheduler.pending, timer.generation ≠ generation) :
    t.scheduler.due.filter (·.generation = generation) = [] := by
  refine List.filter_eq_nil_iff.mpr fun timer member same => ?_
  exact absent timer (mem_due.mp member).1 (by simpa using same)

theorem Sound.started_filter (sound : Sound t) {job : Started} (member : job ∈ t.started) :
    t.started.filter (·.generation = job.generation) = [job] := by
  refine filter_key_eq ?_ member
  exact (List.nodup_append.mp ((generations_perm t).nodup_iff.mpr sound.distinct)).2.1

theorem Sound.due_filter (sound : Sound t) {timer : Timer Nat} (member : timer ∈ t.scheduler.due) :
    t.scheduler.due.filter (·.generation = timer.generation) = [timer] := by
  refine filter_key_eq ?_ member
  refine ((due_perm t).map _).nodup_iff.mpr ((List.filter_sublist.map _).nodup ?_)
  exact (List.nodup_append.mp sound.distinct).1

/-- No timer has the generation of a job that runs. -/
theorem Sound.apart (sound : Sound t) {job : Started} (running : job ∈ t.running) :
    ∀ timer ∈ t.scheduler.pending, timer.generation ≠ job.generation := fun _ waits =>
  (List.nodup_append.mp sound.distinct).2.2 _ (List.mem_map_of_mem waits) _ (List.mem_map_of_mem running)

theorem record_absent (absent : generation ∉ t.generations) :
    record (sortBy LogEntry.precedes t.moments) generation = [] := by
  rw [mem_generations, not_or] at absent
  have waiting : ∀ timer ∈ t.scheduler.pending, timer.generation ≠ generation :=
    fun timer member same => absent.1 ⟨timer, member, same⟩
  have none : t.started.filter (·.generation = generation) = [] := by
    refine List.filter_eq_nil_iff.mpr fun job member same => ?_
    rcases mem_started.mp member with running | ⟨timer, due, rfl⟩
    · exact absent.2 ⟨job, running, by simpa using same⟩
    · exact waiting timer (mem_due.mp due).1 (of_decide_eq_true same)
  have empty : t.moments.filter (·.generation = generation) = [] := by
    rw [filter_moments, due_filter_eq_nil waiting, none]
    rfl
  rw [record_sortBy (by simp [empty]), record, empty, List.map_nil]

theorem Sound.record_running (sound : Sound t) {job : Started} (running : job ∈ t.running) :
    record (sortBy LogEntry.precedes t.moments) job.generation =
      if job.ends ≤ t.scheduler.now then [(job.ends, .stop)] else [] := by
  have shape := filter_moments t job.generation
  rw [due_filter_eq_nil (sound.apart running), sound.started_filter (mem_started.mpr (.inl running)),
    List.map_nil, List.nil_append, List.filter_singleton] at shape
  split
  · next ended =>
    rw [decide_eq_true ended] at shape
    rw [record_sortBy (by simp [shape]), record, shape]
    rfl
  · next runs =>
    rw [decide_eq_false runs] at shape
    rw [record_sortBy (by simp [shape]), record, shape]
    rfl

theorem Sound.record_due (sound : Sound t) {timer : Timer Nat} (due : timer ∈ t.scheduler.due) :
    record (sortBy LogEntry.precedes t.moments) timer.generation =
      (timer.deadline, .start) ::
        if timer.deadline + timer.job ≤ t.scheduler.now then [(timer.deadline + timer.job, .stop)] else [] := by
  have shape := filter_moments t timer.generation
  have job : t.started.filter (·.generation = timer.generation) = [start timer] :=
    sound.started_filter (mem_started.mpr (.inr ⟨timer, due, rfl⟩))
  rw [sound.due_filter due, job, List.map_singleton, List.filter_singleton] at shape
  split
  · next ended =>
    rw [show decide ((start timer).ends ≤ t.scheduler.now) = true from decide_eq_true ended] at shape
    -- the start stands before the end, also when the job takes no time
    have ordered : timer.deadline < timer.deadline + timer.job ∨ timer.deadline = timer.deadline + timer.job := by
      omega
    rw [record_sortBy (by rw [shape]; simpa [LogEntry.precedes, start] using ordered), record, shape]
    rfl
  · next runs =>
    rw [show decide ((start timer).ends ≤ t.scheduler.now) = false from decide_eq_false runs] at shape
    rw [record_sortBy (by simp [shape]), record, shape]
    rfl

/-- What fires leaves only its job, until that ends. -/
theorem Sound.over_of_ended (sound : Sound t) {job : Started} (member : job ∈ t.started)
    (ended : job.ends ≤ t.scheduler.now) : Over t.settled job.generation := by
  have distinct := (generations_perm t).nodup_iff.mpr sound.distinct
  have present := (generations_perm t).subset
    (List.mem_append_right (t.scheduler.fire.pending.map (·.generation)) (List.mem_map_of_mem member))
  refine ⟨sound.counted _ present, fun left => ?_⟩
  rcases mem_generations.mp left with ⟨timer, waits, same⟩ | ⟨other, runs, same⟩
  · exact (List.nodup_append.mp distinct).2.2 _ (List.mem_map_of_mem waits) _ (List.mem_map_of_mem member) same
  · obtain ⟨runs, late⟩ := List.mem_filter.mp runs
    obtain rfl : other = job := List.inj_on_of_nodup_map (List.nodup_append.mp distinct).2.1 runs member same
    exact Nat.not_le_of_lt (of_decide_eq_true late) ended

theorem Sound.record_early (sound : Sound t) {timer : Timer Nat} (waits : timer ∈ t.scheduler.pending)
    (early : t.scheduler.now < timer.deadline) :
    record (sortBy LogEntry.precedes t.moments) timer.generation = [] := by
  have distinct := (List.nodup_append.mp sound.distinct).1
  have due : t.scheduler.due.filter (·.generation = timer.generation) = [] := by
    refine List.filter_eq_nil_iff.mpr fun other member same => ?_
    obtain ⟨present, late⟩ := mem_due.mp member
    obtain rfl : other = timer := List.inj_on_of_nodup_map distinct present waits (of_decide_eq_true same)
    exact Nat.not_le_of_lt early late
  have none : t.started.filter (·.generation = timer.generation) = [] := by
    refine List.filter_eq_nil_iff.mpr fun job member same => ?_
    rcases mem_started.mp member with running | ⟨other, late, rfl⟩
    · exact sound.apart running timer waits (of_decide_eq_true same).symm
    · exact List.filter_eq_nil_iff.mp due other late same
  have empty : t.moments.filter (·.generation = timer.generation) = [] := by
    rw [filter_moments, due, none]
    rfl
  rw [record_sortBy (by simp [empty]), record, empty, List.map_nil]

/-- The log from now on, with what is due at once. -/
def future (t : Timeline) (actions : List (Action Nat)) : List LogEntry :=
  sortBy LogEntry.precedes t.moments ++ t.settled.log actions

theorem log_cons (t : Timeline) (action : Action Nat) (actions : List (Action Nat)) :
    t.log (action :: actions) = (t.acted action).future actions := by
  rw [log, step_eq, future]

theorem Over.log (gone : Over t generation) (actions : List (Action Nat)) :
    Timeline.record (t.log actions) generation = [] := by
  induction actions generalizing t with
  | nil => rfl
  | cons action actions ih =>
    have gone := gone.acted action
    rw [log_cons, future, record_append, record_absent gone.absent, ih gone.settled, List.nil_append]

/-- A job that runs goes on to its end. -/
theorem Sound.log_running (sound : Sound t) {job : Started} (running : job ∈ t.running)
    (runs : t.scheduler.now < job.ends) (actions : List (Action Nat)) :
    record (t.log actions) job.generation =
      if job.ends ≤ t.scheduler.now + elapsed actions then [(job.ends, .stop)] else [] := by
  induction actions generalizing t with
  | nil => rw [if_neg (by simpa using runs), log, record_nil]
  | cons action actions ih =>
    have sound := sound.acted action
    have running : job ∈ (t.acted action).running := running
    have now : (t.acted action).settled.scheduler.now = t.scheduler.now + action.passes := now_acted ..
    rw [log_cons, future, record_append, sound.record_running running, now_acted, elapsed_cons, ← Nat.add_assoc]
    by_cases ended : job.ends ≤ t.scheduler.now + action.passes
    · have gone : Over (t.acted action).settled job.generation :=
        sound.over_of_ended (mem_started.mpr (.inl running)) (by rwa [now_acted])
      rw [if_pos ended, if_pos (Nat.le_add_right_of_le ended), gone.log, List.append_nil]
    · have runs : t.scheduler.now + action.passes < job.ends := Nat.lt_of_not_le ended
      have left : job ∈ (t.acted action).settled.running := by
        refine List.mem_filter.mpr ⟨mem_started.mpr (.inl running), decide_eq_true ?_⟩
        rwa [now_acted]
      rw [if_neg ended, List.nil_append, ih sound.settled left (by rwa [now]), now]

/-- The starts and ends of a job whose timer fires. -/
def course (deadline runtime clock : Nat) : List (Nat × Moment) :=
  if deadline + runtime ≤ clock then [(deadline, .start), (deadline + runtime, .stop)] else [(deadline, .start)]

theorem Sound.future_due (sound : Sound t) {timer : Timer Nat} (due : timer ∈ t.scheduler.due)
    (actions : List (Action Nat)) :
    record (t.future actions) timer.generation =
      course timer.deadline timer.job (t.scheduler.now + elapsed actions) := by
  have begun : start timer ∈ t.started := mem_started.mpr (.inr ⟨timer, due, rfl⟩)
  rw [future, record_append, sound.record_due due, course]
  by_cases ended : timer.deadline + timer.job ≤ t.scheduler.now
  · have gone : Over t.settled timer.generation := sound.over_of_ended begun ended
    rw [if_pos ended, if_pos (Nat.le_add_right_of_le ended), gone.log, List.append_nil]
  · have left : start timer ∈ t.settled.running :=
      List.mem_filter.mpr ⟨begun, decide_eq_true (Nat.lt_of_not_le ended)⟩
    have later : record (t.settled.log actions) timer.generation =
        if timer.deadline + timer.job ≤ t.scheduler.now + elapsed actions
          then [(timer.deadline + timer.job, .stop)] else [] :=
      sound.settled.log_running left (Nat.lt_of_not_le ended) actions
    rw [if_neg ended, later]
    split <;> rfl

theorem Sound.over_of_touched (sound : Sound t) {timer : Timer Nat} (waits : timer ∈ t.scheduler.pending)
    (touches : action.touches timer.uri = true) : Over (t.acted action) timer.generation := by
  have handed := sound.counted _ (mem_generations.mpr (.inl ⟨timer, waits, rfl⟩))
  refine ⟨Nat.le_trans handed (counter_acted t action), fun present => ?_⟩
  rcases mem_generations.mp present with ⟨other, still, same⟩ | ⟨job, running, same⟩
  · rcases pending_acted still with ⟨old, untouched⟩ | ⟨newest, _⟩
    · obtain rfl : other = timer :=
        List.inj_on_of_nodup_map (List.nodup_append.mp sound.distinct).1 old waits same
      rw [touches] at untouched
      cases untouched
    · omega
  · exact sound.apart running timer waits same.symm

/-- A timer fires at its deadline if nothing touches its document before. -/
theorem Sound.future_pending (sound : Sound t) {timer : Timer Nat} (waits : timer ∈ t.scheduler.pending)
    (actions : List (Action Nat)) :
    record (t.future actions) timer.generation =
      if t.scheduler.now + elapsed actions < timer.deadline ∨
          Disturbed timer.uri (timer.deadline - t.scheduler.now) actions then []
      else course timer.deadline timer.job (t.scheduler.now + elapsed actions) := by
  induction actions generalizing t with
  | nil =>
    by_cases late : timer.deadline ≤ t.scheduler.now
    · rw [sound.future_due (mem_due.mpr ⟨waits, late⟩), if_neg]
      rintro (early | disturbed)
      · exact Nat.not_le_of_lt early late
      · exact disturbed_nil _ disturbed
    · have early := Nat.lt_of_not_le late
      rw [future, log, List.append_nil, sound.record_early waits early, if_pos (.inl early)]
  | cons action actions ih =>
    by_cases late : timer.deadline ≤ t.scheduler.now
    · rw [sound.future_due (mem_due.mpr ⟨waits, late⟩), if_neg]
      rintro (early | disturbed)
      · omega
      · rw [Nat.sub_eq_zero_of_le late] at disturbed
        exact not_disturbed_zero _ disturbed
    · have early := Nat.lt_of_not_le late
      have still : timer ∈ t.settled.scheduler.pending := List.mem_filter.mpr ⟨waits, decide_eq_true early⟩
      have now : (t.settled.acted action).scheduler.now = t.scheduler.now + action.passes := now_acted ..
      rw [future, record_append, sound.record_early waits early, List.nil_append, log_cons]
      by_cases touches : action.touches timer.uri = true
      · have gone := sound.settled.over_of_touched still touches
        rw [future, record_append, record_absent gone.absent, gone.settled.log, if_pos]
        · rfl
        · exact .inr (disturbed_cons.mpr (.inl ⟨touches, Nat.sub_pos_of_lt early⟩))
      · have waits := mem_pending_acted still (Bool.eq_false_iff.mpr touches)
        have same : Disturbed timer.uri (timer.deadline - t.scheduler.now) (action :: actions) ↔
            Disturbed timer.uri (timer.deadline - (t.scheduler.now + action.passes)) actions := by
          rw [disturbed_cons, Nat.sub_sub]
          simp [touches]
        rw [ih (sound.settled.acted action) waits, now, elapsed_cons, Nat.add_assoc]
        simp only [same]

theorem sound_start : Sound {} := by
  constructor <;> simp [generations]

theorem Sound.after (sound : Sound t) (actions : List (Action Nat)) : Sound (t.after actions) := by
  induction actions generalizing t with
  | nil => exact sound
  | cons action actions ih =>
    rw [Timeline.after, step_eq]
    exact ih (sound.acted action).settled

/-- Nothing is logged under a generation before it is handed out. -/
theorem Sound.log_unhanded (sound : Sound t) (actions : List (Action Nat))
    (later : (t.after actions).scheduler.counter < generation) : record (t.log actions) generation = [] := by
  induction actions generalizing t with
  | nil => rfl
  | cons action actions ih =>
    have sound := sound.acted action
    rw [Timeline.after, step_eq] at later
    have bound : (t.acted action).scheduler.counter < generation := by
      refine Nat.lt_of_le_of_lt ?_ later
      rw [scheduler_after, Scheduler.counter_after]
      exact Nat.le_add_right _ _
    have absent : generation ∉ (t.acted action).generations := fun present =>
      Nat.not_le_of_lt bound (sound.counted generation present)
    rw [log_cons, future, record_append, record_absent absent, ih sound.settled later, List.nil_append]

/-- What the log of a whole run says about one schedule in it. -/
theorem record_schedule (before later : List (Action Nat)) (uri : Uri) (delay runtime : Nat) :
    record (log {} (before ++ .schedule uri delay runtime :: later)) (schedules before + 1) =
      if elapsed later < delay ∨ Disturbed uri delay later then []
      else course (elapsed before + delay) runtime (elapsed before + elapsed later) := by
  have counter : (after {} before).scheduler.counter = schedules before := by
    rw [scheduler_after, Scheduler.counter_after]
    exact Nat.zero_add _
  have now : (after {} before).scheduler.now = elapsed before := by
    rw [scheduler_after, Scheduler.now_after]
    exact Nat.zero_add _
  have earlier : record (log {} before) (schedules before + 1) = [] := by
    refine sound_start.log_unhanded before ?_
    rw [counter]
    exact Nat.lt_succ_self _
  have waits : ⟨uri, schedules before + 1, elapsed before + delay, runtime⟩ ∈
      ((after {} before).acted (.schedule uri delay runtime)).scheduler.pending := by
    rw [← counter, ← now]
    exact List.mem_append_right _ (List.mem_singleton.mpr rfl)
  have sound := (sound_start.after before).acted (.schedule uri delay runtime)
  have course := sound.future_pending waits later
  rw [now_acted, now] at course
  simp only [Action.passes, Nat.add_zero, Nat.add_sub_cancel_left, Nat.add_lt_add_iff_left] at course
  rw [log_append, record_append, earlier, List.nil_append, log_cons, course]

/-- A job that is scheduled starts once, at its deadline, and runs to its end, unless its document is
scheduled again or cancelled before the deadline is reached; in that case it never starts. Nothing that
happens after the deadline makes a difference, nor anything that happens to other documents: without all of
that the job does the same. At any time each document has at most one timer that can still fire, and
a scheduler that keeps handles and aborts by them has the same timers. -/
theorem jobs_start_at_their_deadline (before later : List (Action Nat)) (uri : Uri) (delay runtime : Nat) :
    let generation (before : List (Action Nat)) : Nat :=
      ((after {} before).scheduler.schedule uri delay runtime).counter
    let run (before later : List (Action Nat)) : List (Action Nat) :=
      before ++ .schedule uri delay runtime :: later
    let job := record (log {} (run before later)) (generation before)
    let scheduler := (after {} (run before later)).scheduler
    let deadline := (after {} before).scheduler.now + delay
    (job =
      if scheduler.now < deadline ∨ Disturbed uri delay later then []
      else if scheduler.now < deadline + runtime then [(deadline, .start)]
      else [(deadline, .start), (deadline + runtime, .stop)]) ∧
    (let ownBefore := before.filter (·.concerns uri)
     let ownLater := later.filter (·.concerns uri)
     job = record (log {} (run ownBefore ownLater)) (generation ownBefore)) ∧
    (scheduler.pending.map (·.uri)).Nodup ∧
    (HandledScheduler.after {} (run before later)).toScheduler = scheduler := by
  intro generation run job scheduler deadline
  have number (before : List (Action Nat)) : generation before = schedules before + 1 := by
    show (after {} before).scheduler.counter + 1 = schedules before + 1
    rw [scheduler_after, Scheduler.counter_after]
    exact congrArg (· + 1) (Nat.zero_add _)
  have begun : deadline = elapsed before + delay := by
    show (after {} before).scheduler.now + delay = elapsed before + delay
    rw [scheduler_after, Scheduler.now_after]
    exact congrArg (· + delay) (Nat.zero_add _)
  have clock : scheduler.now = elapsed before + elapsed later := by
    show (after {} (run before later)).scheduler.now = _
    rw [scheduler_after, Scheduler.now_after, Scheduler.elapsed_append, elapsed_cons]
    simp [Action.passes]
  have shape : job = if elapsed later < delay ∨ Disturbed uri delay later then []
      else course (elapsed before + delay) runtime (elapsed before + elapsed later) := by
    show record (log {} (run before later)) (generation before) = _
    rw [number]
    exact record_schedule before later uri delay runtime
  refine ⟨?_, ?_, (sound_start.after (run before later)).alone, ?_⟩
  · rw [shape, course, clock, begun]
    simp only [Nat.add_lt_add_iff_left, ← Nat.not_lt, ite_not]
  · show job = record (log {} (run _ _)) (generation _)
    rw [number, record_schedule, shape]
    simp only [Scheduler.elapsed_filter, Scheduler.disturbed_filter]
  · rw [HandledScheduler.toScheduler_after]
    exact (scheduler_after {} (run before later)).symm

/-- A second schedule of a document before the first has fired, and a cancellation after the second has. -/
example :
    let log := log {} [.schedule "a" 500 50, .wait 100, .schedule "a" 500 50, .wait 520, .cancel "a", .wait 100]
    record log 1 = [] ∧ record log 2 = [(600, .start), (650, .stop)] := by
  decide +kernel

end Timeline

end Dialect.Editor
