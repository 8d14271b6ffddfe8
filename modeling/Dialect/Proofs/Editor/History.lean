import Dialect.Proofs.Editor.Publication
import Mathlib.Data.List.Induction

/-! The last publication of each document. It follows from the state of the server and from what has
happened to the check of the document's latest generation: an open document shows its own diagnostics
until that check has ended, and what the check found after that; a closed one shows nothing. -/
namespace Dialect.Editor

/-- The last message about a document. -/
def lastAbout (uri : Uri) (messages : List Message) : Option Message :=
  (messages.filter (·.isAbout uri)).getLast?

theorem lastAbout_append (uri : Uri) (first second : List Message) :
    lastAbout uri (first ++ second) = (lastAbout uri second).or (lastAbout uri first) := by
  rw [lastAbout, List.filter_append, List.getLast?_append]
  rfl

@[simp] theorem lastAbout_nil (uri : Uri) : lastAbout uri [] = none := rfl

theorem lastAbout_publish (uri other : Uri) (diagnostics : List Diagnostic) (version : Option Int) :
    lastAbout uri [.publish other diagnostics version] =
      if other = uri then some (.publish other diagnostics version) else none := by
  by_cases same : other = uri <;> simp [lastAbout, Message.isAbout, same]

/-- The event opens, changes or closes the document. -/
def Event.touches (uri : Uri) : Event → Bool
  | .closed other => other == uri
  | event => event.renews uri

namespace Server

/-- The check of a generation started, with the parser that was configured then. -/
def Fired (launch : Launcher) (start : Server) (events : List Event) (generation : Nat) (parser : Command) :
    Prop :=
  ∃ before event later, events = before ++ event :: later ∧
    (∀ check ∈ (start.after launch before).running, check.generation ≠ generation) ∧
    (∃ check ∈ (start.after launch (before ++ [event])).running, check.generation = generation) ∧
    parser = (start.after launch (before ++ [event])).settings.parser

/-- The check of a generation ended. -/
def Finished (launch : Launcher) (start : Server) (events : List Event) (generation : Nat) : Prop :=
  ∃ before later, events = before ++ .finished generation :: later ∧
    ∃ check ∈ (start.after launch before).running, check.generation = generation

variable {launch : Launcher} {start server next : Server} {events : List Event} {event : Event}
  {messages : List Message} {generation : Nat} {parser : Command}

theorem Fired.concat (fired : Fired launch start events generation parser) (event : Event) :
    Fired launch start (events ++ [event]) generation parser := by
  obtain ⟨before, first, later, rfl, known⟩ := fired
  exact ⟨before, first, later ++ [event], by simp, known⟩

theorem Finished.concat (finished : Finished launch start events generation) (event : Event) :
    Finished launch start (events ++ [event]) generation := by
  obtain ⟨before, later, rfl, known⟩ := finished
  exact ⟨before, later ++ [event], by simp, known⟩

/-- A check that has ended ended before the last event or by it. -/
theorem finished_concat_iff :
    Finished launch start (events ++ [event]) generation ↔ Finished launch start events generation ∨
      event = .finished generation ∧
        ∃ check ∈ (start.after launch events).running, check.generation = generation := by
  constructor
  · rintro ⟨before, later, split, running⟩
    rcases List.eq_nil_or_concat later with rfl | ⟨inner, last, rfl⟩
    · obtain ⟨rfl, same⟩ := List.append_inj' split rfl
      exact .inr ⟨by simpa using same, running⟩
    · rw [List.concat_eq_append, ← List.cons_append, ← List.append_assoc] at split
      obtain ⟨rfl, _⟩ := List.append_inj' split rfl
      exact .inl ⟨before, inner, rfl, running⟩
  · rintro (finished | ⟨rfl, running⟩)
    · exact finished.concat event
    · exact ⟨events, [], rfl, running⟩

/-- A check that starts has the parser of that moment, and no check of its generation ran before. -/
theorem Orderly.started (orderly : Orderly server.startDue) {check : RunningCheck}
    (running : check ∈ server.startDue.running) :
    check ∈ server.running ∨ check.parser = server.settings.parser ∧
      ∀ other ∈ server.running, other.generation ≠ check.generation := by
  have distinct := orderly.distinct
  simp only [jobs, Server.startDue, List.map_append, List.map_map] at distinct running
  rcases List.mem_append.mp running with old | new
  · exact .inl old
  · obtain ⟨timer, due, rfl⟩ := List.mem_map.mp new
    refine .inr ⟨rfl, fun other member same => ?_⟩
    have apart := (List.nodup_append.mp (List.nodup_append.mp distinct).2.1).2.2
    exact apart _ (List.mem_map_of_mem member) _ (List.mem_map_of_mem due) same

/-- A check that runs after an event ran before it, or started by it. -/
theorem Orderly.running_step (orderly : Orderly server) (step : Step launch server event messages next)
    {check : RunningCheck} (running : check ∈ next.running) :
    check ∈ server.running ∨ check.parser = next.settings.parser ∧
      ∀ other ∈ server.running, other.generation ≠ check.generation := by
  have orderly := orderly.step step
  cases step with
  | renewed => exact orderly.started running
  | elapsed delay => exact orderly.started running
  | closed | configured | vacant | empty => exact .inl running
  | finished => exact .inl (List.mem_of_mem_filter running)

/-- What has happened to the checks of a run. -/
structure Recorded (launch : Launcher) (start : Server) (events : List Event) : Prop where
  fired : ∀ check ∈ (start.after launch events).running,
    Fired launch start events check.generation check.parser
  finished : ∀ generation, Finished launch start events generation →
    generation ≤ (start.after launch events).scheduler.counter ∧
      ∀ job ∈ (start.after launch events).jobs, job.generation ≠ generation

theorem counter_le_step (step : Step launch server event messages next) :
    server.scheduler.counter ≤ next.scheduler.counter := by
  cases step with
  | renewed => exact Nat.le_succ _
  | closed | configured | elapsed | finished | vacant | empty => exact Nat.le_refl _

/-- A job is an old one, or has the next generation. -/
theorem jobs_step (step : Step launch server event messages next) {job : Job} (member : job ∈ next.jobs) :
    job ∈ server.jobs ∨ job.generation = server.scheduler.counter + 1 := by
  cases step with
  | @renewed _ uri text version _ =>
    rcases List.mem_cons.mp ((jobs_store _ _ _).mem_iff.mp member) with rfl | old
    · exact .inr rfl
    · exact .inl ((jobs_close server uri).subset old)
  | closed uri => exact .inl ((jobs_close server uri).subset member)
  | elapsed delay =>
    exact .inl ((jobs_startDue { server with scheduler := server.scheduler.wait delay }).mem_iff.mp member)
  | finished => exact .inl ((jobs_finish _ _).subset member)
  | configured | vacant | empty => exact .inl member

/-- No job is left of a check that ends. -/
theorem Orderly.ended (orderly : Orderly server) {check : RunningCheck} (running : check ∈ server.running)
    {job : Job} (member : job ∈ (server.finish launch check).2.jobs) : job.generation ≠ check.generation := by
  intro same
  rcases mem_jobs.mp member with ⟨timer, waits, rfl⟩ | ⟨other, present, rfl⟩
  · have apart := (List.nodup_append.mp (List.map_append ▸ orderly.distinct)).2.2
    exact apart _ (List.mem_map_of_mem (List.mem_map_of_mem waits)) _
      (List.mem_map_of_mem (List.mem_map_of_mem running)) same
  · exact of_decide_eq_true (List.mem_filter.mp present).2 same

theorem recorded (launch : Launcher) {start : Server} (orderly : Orderly start) (idle : start.running = [])
    (events : List Event) : Recorded launch start events := by
  induction events using List.reverseRecOn with
  | nil =>
    refine ⟨?_, ?_⟩
    · simp [idle]
    · rintro generation ⟨before, later, split, _⟩
      simp at split
  | append_singleton events event ih =>
    have orderly := orderly.after launch events
    have step := step_spec launch (start.after launch events) event
    have last : start.after launch (events ++ [event]) = ((start.after launch events).step launch event).2 :=
      after_append launch start events [event]
    refine ⟨fun check running => ?_, fun generation finished => ?_⟩
    · rw [last] at running
      rcases orderly.running_step step running with old | ⟨parser, new⟩
      · exact (ih.fired check old).concat event
      · refine ⟨events, event, [], rfl, new, ⟨check, ?_, rfl⟩, ?_⟩
        · rwa [last]
        · rwa [last]
    · rw [last]
      rcases finished_concat_iff.mp finished with before | ⟨rfl, check, running, rfl⟩
      · obtain ⟨counted, gone⟩ := ih.finished generation before
        refine ⟨Nat.le_trans counted (counter_le_step step), fun job member => ?_⟩
        rcases jobs_step step member with old | new
        · exact gone job old
        · omega
      · refine ⟨Nat.le_trans (orderly.counted _ (mem_jobs_of_running running)) (counter_le_step step), ?_⟩
        rw [orderly.step_finished running]
        exact fun job member => orderly.ended running member

/-- What an event means for an open document: nothing, a new text, or the end of its latest check. -/
inductive Effect (launch : Launcher) (server next : Server) (event : Event) (uri : Uri) (document : Document)
    (generation : Nat) : Option Message → Prop where
  | kept (stored : server.workspace.get? uri = some document)
      (latest : server.scheduler.latest.get? uri = some generation)
      (jobs : ∀ job ∈ server.jobs, job.uri = uri → job.generation = generation → job ∈ next.jobs) :
    Effect launch server next event uri document generation none
  | renewed {job : Job} (member : job ∈ next.jobs) (about : job.uri = uri)
      (newest : job.generation = generation) :
    Effect launch server next event uri document generation
      (some (.publish uri document.diagnostics (some document.version)))
  | checked {check : RunningCheck} (running : check ∈ server.running) (newest : check.generation = generation)
      (ends : event = .finished generation) :
    Effect launch server next event uri document generation
      (some (.publish uri (document.diagnostics ++
        hostDiagnostics launch check.parser server.encoding document.text) (some document.version)))

theorem Orderly.effect (orderly : Orderly server) (step : Step launch server event messages next) {uri : Uri}
    {document : Document} (stored : next.workspace.get? uri = some document)
    (latest : next.scheduler.latest.get? uri = some generation) :
    Effect launch server next event uri document generation (lastAbout uri messages) := by
  cases step with
  | @renewed _ other text version _ =>
    have jobs := jobs_store server other (.of text version server.encoding)
    simp only [Server.store, Server.startDue, Scheduler.fire, Scheduler.schedule, Table.get?_put] at stored latest
    rw [lastAbout_publish]
    by_cases same : uri = other
    · rw [if_pos same] at stored latest
      cases stored
      cases latest
      obtain ⟨job, member, about, newest⟩ : ∃ job ∈ (server.store other (.of text version server.encoding)).jobs,
          job.uri = other ∧ job.generation = server.scheduler.counter + 1 :=
        ⟨_, jobs.mem_iff.mpr List.mem_cons_self, rfl, rfl⟩
      rw [if_pos same.symm, ← same]
      exact .renewed (same ▸ member) (same ▸ about) newest
    · rw [if_neg same] at stored latest
      rw [if_neg (Ne.symm same)]
      refine .kept stored latest fun job member about _ => ?_
      exact jobs.mem_iff.mpr (List.mem_cons_of_mem _ (mem_jobs_close member (about ▸ same)))
  | closed other =>
    simp only [Server.close, Scheduler.cancel, Table.get?_remove] at stored latest
    obtain ⟨same, stored⟩ := Option.ite_none_left_eq_some.mp stored
    rw [if_neg same] at latest
    rw [lastAbout_publish, if_neg (Ne.symm same)]
    exact .kept stored latest fun job member about _ => mem_jobs_close member (about ▸ same)
  | configured | vacant | empty => exact .kept stored latest fun job member _ _ => member
  | elapsed delay =>
    have jobs := jobs_startDue { server with scheduler := server.scheduler.wait delay }
    exact .kept stored latest fun job member _ _ => jobs.mem_iff.mpr member
  | @finished check running =>
    have stored : server.workspace.get? uri = some document := stored
    have latest : server.scheduler.latest.get? uri = some generation := latest
    by_cases same : check.generation = generation
    · rw [← same] at latest
      have about : check.uri = uri := (orderly.current _ (mem_jobs_of_running running) uri latest).1
      subst about
      obtain ⟨other, there, _, result⟩ := @Orderly.result launch server orderly check running latest
      cases stored.symm.trans there
      have sent : (server.finish launch check).1 = [check.result launch] := by
        simp [Server.finish, Scheduler.isCurrent, latest]
      rw [sent, result, lastAbout_publish, if_pos rfl]
      exact .checked running same (by rw [same])
    · have silent : lastAbout uri (server.finish launch check).1 = none := by
        simp only [Server.finish, Scheduler.isCurrent, beq_iff_eq]
        split
        · next current =>
          rw [RunningCheck.result, lastAbout_publish, if_neg]
          rintro rfl
          exact same (Option.some.inj (current.symm.trans latest))
        · rfl
      rw [silent]
      exact .kept stored latest fun job member _ newest => mem_jobs_finish member (newest ▸ Ne.symm same)

/-- An open document shows its own diagnostics as long as its latest check has not ended, and those
with what the host parser found after that. -/
inductive Shown (launch : Launcher) (start : Server) (events : List Event) (uri : Uri) (document : Document)
    (generation : Nat) : Option Message → Prop where
  | own {job : Job} (member : job ∈ (start.after launch events).jobs) (about : job.uri = uri)
      (newest : job.generation = generation) :
    Shown launch start events uri document generation
      (some (.publish uri document.diagnostics (some document.version)))
  | checked {parser : Command} (finished : Finished launch start events generation)
      (fired : Fired launch start events generation parser) :
    Shown launch start events uri document generation
      (some (.publish uri (document.diagnostics ++
        hostDiagnostics launch parser start.encoding document.text) (some document.version)))

theorem shown (launch : Launcher) {start : Server} (orderly : Orderly start) (idle : start.running = [])
    (fresh : ∀ uri, start.workspace.get? uri = none) {events : List Event} {uri : Uri} {document : Document}
    (stored : (start.after launch events).workspace.get? uri = some document)
    (latest : (start.after launch events).scheduler.latest.get? uri = some generation) :
    Shown launch start events uri document generation (lastAbout uri (start.sent launch events)) := by
  induction events using List.reverseRecOn generalizing document generation with
  | nil =>
    rw [after_nil, fresh] at stored
    cases stored
  | append_singleton events event ih =>
    have records := recorded launch orderly idle events
    have orderly := orderly.after launch events
    have encoding := encoding_after launch start events
    have last : start.after launch (events ++ [event]) = ((start.after launch events).step launch event).2 :=
      after_append launch start events [event]
    rw [last] at stored latest
    have effect := orderly.effect (step_spec launch (start.after launch events) event) stored latest
    rw [sent_append, lastAbout_append, sent_cons, sent_nil, List.append_nil]
    generalize lastAbout uri ((start.after launch events).step launch event).1 = message at effect
    cases effect with
    | kept stored latest jobs =>
      have before := ih stored latest
      rw [Option.none_or]
      generalize lastAbout uri (start.sent launch events) = shown at before
      cases before with
      | own member about newest => exact .own (last ▸ jobs _ member about newest) about newest
      | checked finished fired => exact .checked (finished.concat event) (fired.concat event)
    | renewed member about newest =>
      rw [Option.some_or]
      exact .own (last ▸ member) about newest
    | @checked check running newest ends =>
      rw [Option.some_or, encoding]
      refine .checked (finished_concat_iff.mpr (.inr ⟨ends, check, running, newest⟩)) ?_
      exact newest ▸ (records.fired check running).concat event

theorem closed_before {uri : Uri} (step : Step launch server event messages next)
    (closed : next.workspace.get? uri = none) (other : event ≠ .closed uri) :
    server.workspace.get? uri = none ∧ event.renews uri = false := by
  cases step with
  | @renewed _ renewed _ _ renewal =>
    simp only [store, startDue, Table.get?_put] at closed
    by_cases same : uri = renewed
    · simp [same] at closed
    · rw [if_neg same] at closed
      refine ⟨closed, ?_⟩
      simpa [Event.renews, renewal] using Ne.symm same
  | closed closes =>
    have apart : uri ≠ closes := by
      rintro rfl
      exact other rfl
    simp only [close, Table.get?_remove, if_neg apart] at closed
    exact ⟨closed, rfl⟩
  | configured | elapsed | finished | vacant | empty => exact ⟨closed, rfl⟩

/-- A document that is not open shows nothing, if it has ever been shown. -/
theorem shown_closed (launch : Launcher) {start : Server} (orderly : Orderly start) {events : List Event}
    {uri : Uri} (closed : (start.after launch events).workspace.get? uri = none) :
    lastAbout uri (start.sent launch events) =
      if events.any (·.touches uri) then some (.publish uri [] none) else none := by
  induction events using List.reverseRecOn with
  | nil => rfl
  | append_singleton events event ih =>
    have orderly := orderly.after launch events
    have step := step_spec launch (start.after launch events) event
    rw [after_append, after_cons, after_nil] at closed
    rw [sent_append, lastAbout_append, sent_cons, sent_nil, List.append_nil]
    by_cases closes : event = .closed uri
    · have sent : ((start.after launch events).step launch event).1 = [.publish uri [] none] := by
        rw [closes]
        rfl
      have touched : event.touches uri = true := by simp [closes, Event.touches]
      simp [sent, touched, lastAbout_publish]
    · obtain ⟨before, kept⟩ := closed_before step closed closes
      have silent : lastAbout uri ((start.after launch events).step launch event).1 = none := by
        rw [lastAbout, List.getLast?_eq_none_iff, List.filter_eq_nil_iff]
        exact fun message sent about => closes ((orderly.silent_step before step kept).2 message sent about).2
      have untouched : event.touches uri = false := by
        cases event with
        | closed other => simpa [Event.touches] using closes
        | opened | changed | configured | elapsed | finished => exact kept
      simp [silent, untouched, ih before]

/-- No result is lost: the last message about a document follows from the state. It is empty if the
document is closed. For an open document it holds the stored diagnostics, which are those of the stored
text, with the stored version, and, once the check of the latest generation has ended, what the
parser that was configured when that check started finds in the stored text. A change without a text
changes nothing. -/
theorem last_publication_settled (launch : Launcher) (encoding : Encoding) (settings : Settings)
    (events : List Event) (uri : Uri) :
    let start : Server := { encoding := encoding, settings := settings }
    let server := start.after launch events
    let last := lastAbout uri (start.sent launch events)
    (server.workspace.get? uri = none →
      last = if events.any (·.touches uri) then some (.publish uri [] none) else none) ∧
    (∀ document, server.workspace.get? uri = some document →
      document.diagnostics = diagnose document.text encoding ∧
      ∃ generation, server.scheduler.latest.get? uri = some generation ∧
        (¬Finished launch start events generation →
          last = some (.publish uri document.diagnostics (some document.version))) ∧
        (Finished launch start events generation →
          ∃ parser, Fired launch start events generation parser ∧
            last = some (.publish uri
              (document.diagnostics ++ hostDiagnostics launch parser encoding document.text)
              (some document.version)))) ∧
    (∀ version, server.step launch (.changed uri [] version) = ([], server)) := by
  intro start server last
  have fresh : Orderly start := orderly_start encoding settings
  have orderly : Orderly server := fresh.after launch events
  have records : Recorded launch start events := recorded launch fresh rfl events
  refine ⟨fun closed => shown_closed launch fresh closed, fun document stored => ⟨?_, ?_⟩, fun _ => rfl⟩
  · have own := orderly.documents uri document stored
    rw [encoding_after launch start events] at own
    exact congrArg Document.diagnostics own
  · obtain ⟨generation, latest⟩ : ∃ generation, server.scheduler.latest.get? uri = some generation := by
      rw [← Option.isSome_iff_exists, orderly.present uri, stored]
      rfl
    have shown := shown launch fresh rfl (fun _ => rfl) stored latest
    refine ⟨generation, latest, ?_⟩
    change Shown launch start events uri document generation last at shown
    generalize last = message at shown ⊢
    cases shown with
    | own member _ newest =>
      refine ⟨fun _ => rfl, fun finished => ?_⟩
      exact absurd newest ((records.finished generation finished).2 _ member)
    | @checked parser finished fired =>
      exact ⟨fun unfinished => absurd finished unfinished, fun _ => ⟨parser, fired, rfl⟩⟩

/-- A document whose check has ended, and one that was closed while its check waited. The parser stops at the end of the
first document, which stands on the second line of what it reads. -/
theorem last_publication_settled_checked :
    let launch : Launcher := fun _ _ => .ok ⟨.exited 1, [], Utf8.encode "error: unexpected end at x:2:5".toList⟩
    let start : Server := { encoding := .utf16, settings := {} }
    let events : List Event :=
      [.opened "a" "x = 1".toList 7, .opened "b" [] 1, .elapsed 300, .closed "b", .elapsed 200, .finished 1]
    let document := Document.of "x = 1".toList 7 .utf16
    (start.after launch events).workspace.get? "a" = some document ∧
      Finished launch start events 1 ∧
      (∃ parser, Fired launch start events 1 parser ∧
        lastAbout "a" (start.sent launch events) = some (.publish "a"
          (document.diagnostics ++ hostDiagnostics launch parser .utf16 document.text)
          (some document.version))) ∧
      lastAbout "a" (start.sent launch events) = some (.publish "a"
        [⟨⟨⟨0, 0⟩, ⟨0, 5⟩⟩, 1, "statement-shape", "Missing ';' at end of statement"⟩,
          ⟨⟨⟨0, 4⟩, ⟨0, 5⟩⟩, 1, "syntax", "unexpected end"⟩] (some 7)) ∧
      (start.after launch events).workspace.get? "b" = none ∧
      lastAbout "b" (start.sent launch events) = some (.publish "b" [] none) := by
  intro launch start events document
  have stored : (start.after launch events).workspace.get? "a" = some document := by decide +kernel
  have closed : (start.after launch events).workspace.get? "b" = none := by decide +kernel
  have latest : (start.after launch events).scheduler.latest.get? "a" = some 1 := by decide +kernel
  have finished : Finished launch start events 1 := ⟨events.take 5, [], rfl, by decide +kernel⟩
  have touched : events.any (·.touches "b") = true := by decide +kernel
  have message : lastAbout "a" (start.sent launch events) = some (.publish "a"
      [⟨⟨⟨0, 0⟩, ⟨0, 5⟩⟩, 1, "statement-shape", "Missing ';' at end of statement"⟩,
        ⟨⟨⟨0, 4⟩, ⟨0, 5⟩⟩, 1, "syntax", "unexpected end"⟩] (some 7)) := by decide +kernel
  -- The facts above are all that the rest uses of this run.
  clear_value launch events document
  obtain ⟨_, generation, found, _, checked⟩ :=
    (last_publication_settled launch .utf16 {} events "a").2.1 document stored
  obtain rfl : 1 = generation := Option.some.inj (latest.symm.trans found)
  have last := (last_publication_settled launch .utf16 {} events "b").1 closed
  rw [if_pos touched] at last
  obtain ⟨parser, fired, shown⟩ := checked finished
  exact ⟨stored, finished, ⟨parser, fired, shown⟩, message, closed, last⟩

end Server

end Dialect.Editor
