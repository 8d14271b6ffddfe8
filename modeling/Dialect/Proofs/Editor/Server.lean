import Dialect.Editor.Server
import Mathlib.Data.List.Nodup

/-! What every run of the language server keeps. A check that waits or runs belongs to one document by
its generation; while that generation is current, the document is open and is the one that the check
was scheduled for. So whatever a check publishes when it ends is about the text of that moment. -/
namespace Dialect.Editor

namespace Table

variable {α : Type}

theorem get?_remove (table : Table α) (uri other : Uri) :
    (table.remove uri).get? other = if other = uri then none else table.get? other := by
  by_cases same : other = uri
  · simp [same]
  · simp [same]

theorem get?_put (table : Table α) (uri other : Uri) (value : α) :
    (table.put uri value).get? other = if other = uri then some value else table.get? other := by
  by_cases same : other = uri
  · simp [same]
  · simp [same]

end Table

theorem Scheduler.fire_due_perm {α : Type} (s : Scheduler α) : (s.fire.pending ++ s.due).Perm s.pending := by
  let early (timer : Timer α) : Bool := timer.deadline ≤ s.now
  have late : s.fire.pending = s.pending.filter fun timer => !early timer := by
    refine List.filter_congr fun timer _ => ?_
    simp only [early, ← decide_not, Nat.not_le]
  rw [late]
  refine ((sortBy_perm _ _).append_left _).trans (List.perm_append_comm.trans ?_)
  exact List.filter_append_perm early s.pending

/-- The document that an event gives a new text to, with its text and version. A change without a text
gives none. -/
def Event.renewal? : Event → Option (Uri × List Char × Int)
  | .opened uri text version => some (uri, text, version)
  | .changed uri texts version => texts.getLast?.map fun text => (uri, text, version)
  | _ => none

def Event.renews (uri : Uri) (event : Event) : Bool := event.renewal?.any fun renewal => renewal.1 == uri

def Message.isAbout (uri : Uri) : Message → Bool
  | .publish other _ _ => other == uri
  | .warn _ => false

/-- What the host parser adds to the diagnostics of a text, at most one diagnostic. -/
def hostDiagnostics (launch : Launcher) (parser : Command) (encoding : Encoding) (text : List Char) :
    List Diagnostic :=
  ((hostFinding? launch parser text).map fun finding => .of text encoding finding.diagnostic).toList

theorem length_hostDiagnostics (launch : Launcher) (parser : Command) (encoding : Encoding)
    (text : List Char) : (hostDiagnostics launch parser encoding text).length ≤ 1 := by
  rw [hostDiagnostics]
  cases hostFinding? launch parser text <;> simp

/-- A check of a document that waits for its time or runs. -/
structure Job where
  uri : Uri
  generation : Nat
  check : Check
  deriving DecidableEq

def Timer.toJob (timer : Timer Check) : Job := ⟨timer.uri, timer.generation, timer.job⟩

def RunningCheck.toJob (check : RunningCheck) : Job := ⟨check.uri, check.generation, check.check⟩

namespace Server

def jobs (server : Server) : List Job :=
  server.scheduler.pending.map Timer.toJob ++ server.running.map RunningCheck.toJob

/-- The server without a document. -/
def close (server : Server) (uri : Uri) : Server :=
  { server with scheduler := server.scheduler.cancel uri, workspace := server.workspace.remove uri }

variable {launch : Launcher} {server next : Server} {event : Event} {messages : List Message}

theorem mem_jobs {job : Job} :
    job ∈ server.jobs ↔ (∃ timer ∈ server.scheduler.pending, timer.toJob = job) ∨
      ∃ check ∈ server.running, check.toJob = job := by
  simp [jobs]

theorem mem_jobs_of_running {check : RunningCheck} (member : check ∈ server.running) :
    check.toJob ∈ server.jobs := mem_jobs.mpr (.inr ⟨check, member, rfl⟩)

/-- A check that starts goes on being a job. -/
theorem jobs_startDue (server : Server) : server.startDue.jobs.Perm server.jobs := by
  have started : server.startDue.running.map RunningCheck.toJob =
      server.running.map RunningCheck.toJob ++ server.scheduler.due.map Timer.toJob := by
    rw [startDue, List.map_append, List.map_map]
    rfl
  have all := server.scheduler.fire_due_perm.map Timer.toJob
  rw [List.map_append] at all
  rw [jobs, started, jobs]
  refine (List.perm_append_comm.append_left _).trans ?_
  rw [← List.append_assoc]
  exact all.append_right _

theorem jobs_close (server : Server) (uri : Uri) : (server.close uri).jobs.Sublist server.jobs :=
  (List.filter_sublist.map _).append_right _

theorem mem_jobs_close {job : Job} {uri : Uri} (member : job ∈ server.jobs) (other : job.uri ≠ uri) :
    job ∈ (server.close uri).jobs := by
  rcases mem_jobs.mp member with ⟨timer, waits, rfl⟩ | running
  · exact mem_jobs.mpr (.inl ⟨timer, List.mem_filter.mpr ⟨waits, decide_eq_true other⟩, rfl⟩)
  · exact mem_jobs.mpr (.inr running)

/-- A new text takes the place of the check that waits for its document. -/
theorem jobs_store (server : Server) (uri : Uri) (document : Document) :
    (server.store uri document).jobs.Perm
      (⟨uri, server.scheduler.counter + 1, document, server.encoding⟩ :: (server.close uri).jobs) := by
  refine (jobs_startDue _).trans ?_
  simp only [jobs, Scheduler.schedule, close, Scheduler.cancel, List.map_append, List.map_cons,
    List.map_nil, List.append_assoc, List.singleton_append]
  exact List.perm_middle

theorem jobs_finish (server : Server) (check : RunningCheck) :
    (server.finish launch check).2.jobs.Sublist server.jobs :=
  (List.filter_sublist.map _).append_left _

theorem mem_jobs_finish {job : Job} {check : RunningCheck} (member : job ∈ server.jobs)
    (other : job.generation ≠ check.generation) : job ∈ (server.finish launch check).2.jobs := by
  rcases mem_jobs.mp member with waiting | ⟨own, running, rfl⟩
  · exact mem_jobs.mpr (.inl waiting)
  · exact mem_jobs.mpr (.inr ⟨own, List.mem_filter.mpr ⟨running, decide_eq_true other⟩, rfl⟩)

/-- The effect of an event: its messages and the server after it. -/
inductive Step (launch : Launcher) (server : Server) : Event → List Message → Server → Prop where
  | renewed {event : Event} {uri : Uri} {text : List Char} {version : Int}
      (renewal : event.renewal? = some (uri, text, version)) :
    Step launch server event [.publish uri (diagnose text server.encoding) (some version)]
      (server.store uri (.of text version server.encoding))
  | closed (uri : Uri) :
    Step launch server (.closed uri) [.publish uri [] none] (server.close uri)
  | configured (value : Value) :
    Step launch server (.configured value) [] { server with settings := server.settings.change value }
  | elapsed (delay : Nat) :
    Step launch server (.elapsed delay) []
      { server with scheduler := server.scheduler.wait delay }.startDue
  | finished {check : RunningCheck} (running : check ∈ server.running) :
    Step launch server (.finished check.generation) (server.finish launch check).1
      (server.finish launch check).2
  | vacant {generation : Nat} (idle : ∀ check ∈ server.running, check.generation ≠ generation) :
    Step launch server (.finished generation) [] server
  | empty (uri : Uri) (version : Int) : Step launch server (.changed uri [] version) [] server

theorem step_spec (launch : Launcher) (server : Server) (event : Event) :
    Step launch server event (server.step launch event).1 (server.step launch event).2 := by
  cases event with
  | opened uri text version => exact .renewed rfl
  | changed uri texts version =>
    cases last : texts.getLast? with
    | none =>
      rw [List.getLast?_eq_none_iff.mp last]
      exact .empty uri version
    | some text =>
      simp only [step, last]
      exact .renewed (by simp [Event.renewal?, last])
  | closed uri => exact .closed uri
  | configured value => exact .configured value
  | elapsed delay => exact .elapsed delay
  | finished generation =>
    cases found : server.running.find? (·.generation = generation) with
    | none =>
      simp only [step, found]
      refine .vacant fun check member same => ?_
      simpa [same] using List.find?_eq_none.mp found check member
    | some check =>
      have same : check.generation = generation := by simpa using List.find?_some found
      simp only [step, found]
      rw [← same]
      exact .finished (List.mem_of_find?_eq_some found)

/-- What holds of a server at any time of its work. -/
structure Orderly (server : Server) : Prop where
  distinct : (server.jobs.map (·.generation)).Nodup
  counted : ∀ job ∈ server.jobs, job.generation ≤ server.scheduler.counter
  handed : ∀ uri generation, server.scheduler.latest.get? uri = some generation →
    generation ≤ server.scheduler.counter
  /-- Exactly the open documents have a latest generation. -/
  present : ∀ uri, (server.scheduler.latest.get? uri).isSome = (server.workspace.get? uri).isSome
  documents : ∀ uri document, server.workspace.get? uri = some document →
    document = .of document.text document.version server.encoding
  encoding : ∀ job ∈ server.jobs, job.check.encoding = server.encoding
  /-- A job with the latest generation of a document checks what is stored of it. -/
  current : ∀ job ∈ server.jobs, ∀ uri, server.scheduler.latest.get? uri = some job.generation →
    job.uri = uri ∧ server.workspace.get? uri = some job.check.document

theorem orderly_start (encoding : Encoding) (settings : Settings) :
    Orderly { encoding := encoding, settings := settings } := by
  constructor <;> simp [jobs, Table.get?]

namespace Orderly

variable (orderly : Orderly server)
include orderly

theorem unique {a b : Job} (first : a ∈ server.jobs) (second : b ∈ server.jobs)
    (same : a.generation = b.generation) : a = b :=
  List.inj_on_of_nodup_map orderly.distinct first second same

/-- An event that ends a check ends the one that runs with that generation. -/
theorem step_finished {check : RunningCheck} (running : check ∈ server.running) :
    server.step launch (.finished check.generation) = server.finish launch check := by
  cases found : server.running.find? (·.generation = check.generation) with
  | none => simpa using List.find?_eq_none.mp found check running
  | some other =>
    have same : other.generation = check.generation := by simpa using List.find?_some found
    have distinct : (server.running.map (·.generation)).Nodup := by
      have all := (List.nodup_append.mp (List.map_append ▸ orderly.distinct)).2.1
      rwa [List.map_map] at all
    rw [← List.inj_on_of_nodup_map distinct (List.mem_of_find?_eq_some found) running same]
    simp only [Server.step, found, same]

/-- Jobs may go, and settings and time may change. -/
theorem keep (subset : ∀ job ∈ next.jobs, job ∈ server.jobs)
    (distinct : (next.jobs.map (·.generation)).Nodup)
    (latest : next.scheduler.latest = server.scheduler.latest)
    (counter : next.scheduler.counter = server.scheduler.counter)
    (workspace : next.workspace = server.workspace) (encoding : next.encoding = server.encoding) :
    Orderly next := by
  refine ⟨distinct, ?_, ?_, ?_, ?_, ?_, ?_⟩
  · rw [counter]
    exact fun job member => orderly.counted job (subset job member)
  · rw [latest, counter]
    exact orderly.handed
  · rw [latest, workspace]
    exact orderly.present
  · rw [workspace, encoding]
    exact orderly.documents
  · rw [encoding]
    exact fun job member => orderly.encoding job (subset job member)
  · rw [latest, workspace]
    exact fun job member => orderly.current job (subset job member)

theorem startDue : Orderly server.startDue := by
  have same := jobs_startDue server
  refine orderly.keep (fun job => same.mem_iff.mp) ?_ rfl rfl rfl rfl
  exact (same.map _).nodup_iff.mpr orderly.distinct

theorem finish (check : RunningCheck) : Orderly (server.finish launch check).2 := by
  have fewer := @jobs_finish launch server check
  exact orderly.keep (fun job member => fewer.subset member)
    ((fewer.map _).nodup orderly.distinct) rfl rfl rfl rfl

theorem close (uri : Uri) : Orderly (server.close uri) := by
  have fewer := jobs_close server uri
  refine ⟨(fewer.map _).nodup orderly.distinct, ?_, ?_, ?_, ?_, ?_, ?_⟩
  · exact fun job member => orderly.counted job (fewer.subset member)
  · intro other generation found
    simp only [Server.close, Scheduler.cancel, Table.get?_remove] at found
    exact orderly.handed other generation (Option.ite_none_left_eq_some.mp found).2
  · intro other
    simp only [Server.close, Scheduler.cancel, Table.get?_remove]
    split
    · rfl
    · exact orderly.present other
  · intro other document found
    simp only [Server.close, Table.get?_remove] at found
    exact orderly.documents other document (Option.ite_none_left_eq_some.mp found).2
  · exact fun job member => orderly.encoding job (fewer.subset member)
  · intro job member other found
    simp only [Server.close, Scheduler.cancel, Table.get?_remove] at found ⊢
    obtain ⟨apart, latest⟩ := Option.ite_none_left_eq_some.mp found
    rw [if_neg apart]
    exact orderly.current job (fewer.subset member) other latest

/-- The generation of a new text is its job's alone. -/
theorem store (uri : Uri) (text : List Char) (version : Int) :
    Orderly (server.store uri (.of text version server.encoding)) := by
  have jobs := jobs_store server uri (.of text version server.encoding)
  have closed := orderly.close uri
  have older : ∀ job ∈ (server.close uri).jobs, job.generation ≤ server.scheduler.counter := closed.counted
  refine ⟨?_, ?_, ?_, ?_, ?_, ?_, ?_⟩
  · rw [(jobs.map _).nodup_iff, List.map_cons, List.nodup_cons]
    refine ⟨fun member => ?_, closed.distinct⟩
    obtain ⟨job, present, same⟩ := List.mem_map.mp member
    have bound := older job present
    simp only at same
    omega
  · intro job member
    show job.generation ≤ server.scheduler.counter + 1
    rcases List.mem_cons.mp (jobs.mem_iff.mp member) with rfl | old
    · exact Nat.le_refl _
    · exact Nat.le_succ_of_le (older job old)
  · intro other generation found
    simp only [Server.store, Server.startDue, Scheduler.fire, Scheduler.schedule, Table.get?_put] at found ⊢
    split at found
    · cases found
      exact Nat.le_refl _
    · exact Nat.le_succ_of_le (orderly.handed other generation found)
  · intro other
    simp only [Server.store, Server.startDue, Scheduler.fire, Scheduler.schedule, Table.get?_put]
    split
    · rfl
    · exact orderly.present other
  · intro other document found
    simp only [Server.store, Server.startDue, Table.get?_put] at found ⊢
    split at found
    · cases found
      rfl
    · exact orderly.documents other document found
  · intro job member
    rcases List.mem_cons.mp (jobs.mem_iff.mp member) with rfl | old
    · rfl
    · exact closed.encoding job old
  · intro job member other found
    simp only [Server.store, Server.startDue, Scheduler.fire, Scheduler.schedule, Table.get?_put] at found ⊢
    by_cases same : other = uri
    · rw [if_pos same] at found ⊢
      have newest := Option.some.inj found
      rcases List.mem_cons.mp (jobs.mem_iff.mp member) with rfl | old
      · exact ⟨same.symm, rfl⟩
      · have bound := older job old
        omega
    · rw [if_neg same] at found ⊢
      rcases List.mem_cons.mp (jobs.mem_iff.mp member) with rfl | old
      · have bound := orderly.handed other _ found
        simp only at bound
        omega
      · exact orderly.current job ((jobs_close server uri).subset old) other found

theorem step (step : Step launch server event messages next) : Orderly next := by
  cases step with
  | renewed => exact orderly.store _ _ _
  | closed uri => exact orderly.close uri
  | configured value => exact orderly.keep (fun _ => id) orderly.distinct rfl rfl rfl rfl
  | elapsed delay =>
    refine startDue (orderly.keep (fun _ => id) orderly.distinct rfl rfl rfl rfl)
  | finished => exact orderly.finish _
  | vacant => exact orderly
  | empty => exact orderly

end Orderly

/-- The server after a sequence of events. -/
def after (launch : Launcher) (server : Server) (events : List Event) : Server := (server.run launch events).2

/-- All messages of a sequence of events. -/
def sent (launch : Launcher) (server : Server) (events : List Event) : List Message :=
  (server.run launch events).1

@[simp] theorem after_nil (launch : Launcher) (server : Server) : server.after launch [] = server := rfl

@[simp] theorem sent_nil (launch : Launcher) (server : Server) : server.sent launch [] = [] := rfl

@[simp] theorem after_cons (launch : Launcher) (server : Server) (event : Event) (events : List Event) :
    server.after launch (event :: events) = (server.step launch event).2.after launch events := rfl

@[simp] theorem sent_cons (launch : Launcher) (server : Server) (event : Event) (events : List Event) :
    server.sent launch (event :: events) =
      (server.step launch event).1 ++ (server.step launch event).2.sent launch events := rfl

theorem after_append (launch : Launcher) (server : Server) (first second : List Event) :
    server.after launch (first ++ second) = (server.after launch first).after launch second := by
  induction first generalizing server with
  | nil => rfl
  | cons event first ih => exact ih _

theorem sent_append (launch : Launcher) (server : Server) (first second : List Event) :
    server.sent launch (first ++ second) =
      server.sent launch first ++ (server.after launch first).sent launch second := by
  induction first generalizing server with
  | nil => rfl
  | cons event first ih => rw [List.cons_append, sent_cons, ih, sent_cons, after_cons, List.append_assoc]

theorem Orderly.after (launch : Launcher) (orderly : Orderly server) (events : List Event) :
    Orderly (server.after launch events) := by
  induction events generalizing server with
  | nil => exact orderly
  | cons event events ih => exact ih (orderly.step (step_spec launch server event))

end Server

end Dialect.Editor
