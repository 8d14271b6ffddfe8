import Dialect.Proofs.Editor.Server

/-! What the language server publishes. The result of a check is published only while the document
that it was scheduled for is the one that is stored, and a closed document stays silent. -/
namespace Dialect.Editor.Server

variable {launch : Launcher} {server next : Server} {event : Event} {messages : List Message}

/-- The result of a check is that of the document as it is stored. -/
theorem Orderly.result (orderly : Orderly server) {check : RunningCheck} (running : check ∈ server.running)
    (latest : server.scheduler.latest.get? check.uri = some check.generation) :
    ∃ document, server.workspace.get? check.uri = some document ∧
      document.diagnostics = diagnose document.text server.encoding ∧
      check.result launch = .publish check.uri
        (document.diagnostics ++ hostDiagnostics launch check.parser server.encoding document.text)
        (some document.version) := by
  have job := mem_jobs_of_running running
  have stored := (orderly.current _ job _ latest).2
  have encoding : check.check.encoding = server.encoding := orderly.encoding _ job
  refine ⟨check.check.document, stored, ?_, ?_⟩
  · have own := orderly.documents _ _ stored
    exact congrArg Document.diagnostics own
  · rw [← encoding]
    rfl

/-- Only a check that is current publishes anything when it ends. -/
theorem exists_of_mem_finished {generation : Nat} {message : Message}
    (sent : message ∈ (server.step launch (.finished generation)).1) :
    ∃ check ∈ server.running, check.generation = generation ∧
      server.scheduler.latest.get? check.uri = some check.generation ∧ message = check.result launch := by
  generalize effect : Event.finished generation = event at sent
  have step := step_spec launch server event
  generalize (server.step launch event).1 = messages, (server.step launch event).2 = next at sent step
  cases step with
  | finished running =>
    cases effect
    simp only [Server.finish, List.mem_ite_nil_right, Scheduler.isCurrent, beq_iff_eq, List.mem_singleton] at sent
    exact ⟨_, running, rfl, sent⟩
  | renewed renewal =>
    subst effect
    cases renewal
  | closed | configured | elapsed | empty => cases effect
  | vacant => cases sent

/-- A document that is not open stays so, and nothing but closing it again speaks of it. -/
theorem Orderly.silent_step (orderly : Orderly server) {uri : Uri} (closed : server.workspace.get? uri = none)
    (step : Step launch server event messages next) (kept : event.renews uri = false) :
    next.workspace.get? uri = none ∧
      ∀ message ∈ messages, message.isAbout uri = true → message = .publish uri [] none ∧ event = .closed uri := by
  cases step with
  | @renewed _ other text version renewal =>
    have other : other ≠ uri := by simpa [Event.renews, renewal] using kept
    refine ⟨?_, by simp [Message.isAbout, other]⟩
    simp only [Server.store, Server.startDue, Table.get?_put, if_neg other.symm]
    exact closed
  | closed other =>
    refine ⟨?_, ?_⟩
    · simp only [Server.close, Table.get?_remove, closed, ite_self]
    · simp only [List.mem_singleton, Message.isAbout]
      rintro message rfl same
      simpa using same
  | configured | elapsed | vacant | empty => exact ⟨closed, by simp⟩
  | @finished check running =>
    refine ⟨closed, fun message sent about => ?_⟩
    simp only [Server.finish, List.mem_ite_nil_right, Scheduler.isCurrent, beq_iff_eq, List.mem_singleton] at sent
    obtain ⟨latest, rfl⟩ := sent
    obtain ⟨document, stored, _⟩ := @Orderly.result launch _ orderly check running latest
    have same : check.uri = uri := by simpa [RunningCheck.result, Message.isAbout] using about
    rw [same, closed] at stored
    cases stored

theorem Orderly.silent (orderly : Orderly server) {uri : Uri} (closed : server.workspace.get? uri = none)
    {events : List Event} (kept : ∀ event ∈ events, event.renews uri = false) :
    ∀ message ∈ server.sent launch events, message.isAbout uri = true →
      message = .publish uri [] none ∧ .closed uri ∈ events := by
  induction events generalizing server with
  | nil => simp
  | cons event events ih =>
    have step := step_spec launch server event
    obtain ⟨still, quiet⟩ := orderly.silent_step closed step (kept event List.mem_cons_self)
    have later := ih (orderly.step step) still fun other member => kept other (List.mem_cons_of_mem _ member)
    intro message member about
    rw [sent_cons, List.mem_append] at member
    rcases member with now | then_
    · obtain ⟨same, rfl⟩ := quiet message now about
      exact ⟨same, List.mem_cons_self⟩
    · exact (later message then_ about).imp_right (List.mem_cons_of_mem _)

/-- A job whose generation is not, and will never again be, the latest of its document. -/
structure Outdated (server : Server) (job : Job) : Prop where
  counted : job.generation ≤ server.scheduler.counter
  stale : server.scheduler.latest.get? job.uri ≠ some job.generation
  alone : ∀ other ∈ server.jobs, other.generation = job.generation → other.uri = job.uri

theorem Outdated.step {job : Job} (outdated : Outdated server job)
    (step : Step launch server event messages next) : Outdated next job := by
  have counted := outdated.counted
  have stale := outdated.stale
  have alone := outdated.alone
  cases step with
  | @renewed _ uri text version _ =>
    have jobs := jobs_store server uri (.of text version server.encoding)
    refine ⟨Nat.le_succ_of_le counted, ?_, fun other member same => ?_⟩
    · simp only [store, startDue, Scheduler.fire, Scheduler.schedule, Table.get?_put]
      split
      · simp only [ne_eq, Option.some.injEq]
        omega
      · exact stale
    · rcases List.mem_cons.mp (jobs.mem_iff.mp member) with rfl | old
      · simp only at same
        omega
      · exact alone other ((jobs_close server uri).subset old) same
  | closed uri =>
    refine ⟨counted, ?_, fun other member => alone other ((jobs_close server uri).subset member)⟩
    simp only [close, Scheduler.cancel, Table.get?_remove]
    split
    · simp
    · exact stale
  | configured | vacant | empty => exact ⟨counted, stale, alone⟩
  | elapsed delay =>
    refine ⟨counted, stale, fun other member => ?_⟩
    exact alone other ((jobs_startDue { server with scheduler := server.scheduler.wait delay }).mem_iff.mp member)
  | finished _ =>
    exact ⟨counted, stale, fun other member => alone other ((jobs_finish _ _).subset member)⟩

theorem Outdated.after {job : Job} (outdated : Outdated server job) (events : List Event) :
    Outdated (server.after launch events) job := by
  induction events generalizing server with
  | nil => exact outdated
  | cons event events ih => exact ih (outdated.step (step_spec launch server event))

/-- The end of an outdated check is silent. -/
theorem Outdated.finished {job : Job} (outdated : Outdated server job) :
    (server.step launch (.finished job.generation)).1 = [] := by
  refine List.eq_nil_iff_forall_not_mem.mpr fun message sent => ?_
  obtain ⟨check, running, same, latest, _⟩ := exists_of_mem_finished sent
  have uri : check.uri = job.uri := outdated.alone _ (mem_jobs_of_running running) same
  rw [uri, same] at latest
  exact outdated.stale latest

theorem Orderly.outdated_close (orderly : Orderly server) {job : Job} (member : job ∈ server.jobs) :
    Outdated (server.close job.uri) job := by
  refine ⟨orderly.counted job member, ?_, fun other present same => ?_⟩
  · simp [Server.close, Scheduler.cancel]
  · rw [orderly.unique ((jobs_close server job.uri).subset present) member same]

theorem encoding_after (launch : Launcher) (server : Server) (events : List Event) :
    (server.after launch events).encoding = server.encoding := by
  induction events generalizing server with
  | nil => rfl
  | cons event events ih =>
    have step := step_spec launch server event
    rw [after_cons, ih]
    generalize (server.step launch event).1 = messages, (server.step launch event).2 = next at step
    cases step <;> rfl

/-- Nothing stale is published. Whatever a check publishes when it ends is about a document that is open
then, with its stored version, its stored diagnostics, which are those of its text, and at most one
diagnostic of the host parser for that text. After a document is closed nothing but a further close
speaks of it until it gets a text again; and a check that waited or ran when it was closed never publishes
anything, whatever happens afterwards. -/
theorem no_stale_publication (launch : Launcher) (encoding : Encoding) (settings : Settings)
    (events : List Event) :
    let start : Server := { encoding := encoding, settings := settings }
    let server := start.after launch events
    (∀ generation, ∀ message ∈ (server.step launch (.finished generation)).1,
      ∃ uri document parser, server.workspace.get? uri = some document ∧
        document.diagnostics = diagnose document.text encoding ∧
        (hostDiagnostics launch parser encoding document.text).length ≤ 1 ∧
        message = .publish uri
          (document.diagnostics ++ hostDiagnostics launch parser encoding document.text)
          (some document.version)) ∧
    (∀ uri later, (∀ event ∈ later, event.renews uri = false) →
      ∀ message ∈ (server.step launch (.closed uri)).2.sent launch later, message.isAbout uri = true →
        message = .publish uri [] none ∧ .closed uri ∈ later) ∧
    (∀ job ∈ server.jobs, ∀ later,
      (((server.step launch (.closed job.uri)).2.after launch later).step launch
        (.finished job.generation)).1 = []) := by
  intro start server
  have orderly : Orderly server := (orderly_start encoding settings).after launch events
  have kept : server.encoding = encoding := encoding_after launch start events
  refine ⟨fun generation message sent => ?_, fun uri later quiet => ?_, fun job member later => ?_⟩
  · obtain ⟨check, running, _, latest, rfl⟩ := exists_of_mem_finished sent
    obtain ⟨document, stored, own, result⟩ := @Orderly.result launch server orderly check running latest
    rw [kept] at own result
    exact ⟨check.uri, document, check.parser, stored, own, length_hostDiagnostics .., result⟩
  · exact (orderly.close uri).silent (by simp [close]) quiet
  · exact ((orderly.outdated_close member).after later).finished

/-- A document that is closed and opened again while its first check runs. -/
theorem no_stale_publication_reopened :
    let launch : Launcher := fun _ _ => .ok ⟨.exited 1, [], Utf8.encode "error: bad at x:1:1".toList⟩
    let start : Server := {}
    let server := start.after launch [.opened "a" "x = 1".toList 7, .elapsed 500]
    let job : Job := ⟨"a", 1, .of "x = 1".toList 7 .utf16, .utf16⟩
    (∃ message ∈ (server.step launch (.finished 1)).1, ∃ uri document parser,
      server.workspace.get? uri = some document ∧ message = .publish uri
        (document.diagnostics ++ hostDiagnostics launch parser .utf16 document.text)
        (some document.version)) ∧
    (∀ event ∈ [Event.finished 1, .closed "a"], event.renews "a" = false) ∧
    (∀ message ∈ (server.step launch (.closed "a")).2.sent launch [.finished 1, .closed "a"],
      message.isAbout "a" = true → message = .publish "a" [] none) ∧
    job ∈ server.jobs ∧
    (((server.step launch (.closed "a")).2.after launch [.opened "a" "x = 2".toList 8]).step launch
      (.finished 1)).1 = [] := by
  intro launch start server job
  obtain ⟨results, silent, outdated⟩ :=
    no_stale_publication launch .utf16 {} [.opened "a" "x = 1".toList 7, .elapsed 500]
  have kept : ∀ event ∈ [Event.finished 1, .closed "a"], event.renews "a" = false := by
    simp [Event.renews, Event.renewal?]
  have member : job ∈ server.jobs := by decide +kernel
  have sent : RunningCheck.result launch ⟨"a", 1, job.check, .defaultParser⟩ ∈
      (server.step launch (.finished 1)).1 := by decide +kernel
  obtain ⟨uri, document, parser, stored, _, _, same⟩ := results 1 _ sent
  refine ⟨⟨_, sent, uri, document, parser, stored, same⟩, kept, ?_, member, outdated job member _⟩
  intro message published about
  exact (silent "a" _ kept message published about).1

end Dialect.Editor.Server
