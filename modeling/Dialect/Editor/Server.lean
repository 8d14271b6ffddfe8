import Dialect.Editor.Completion
import Dialect.Editor.Edit
import Dialect.Editor.Scheduler
import Dialect.Editor.Workspace
import Dialect.Host.Check
import Dialect.Host.Settings

/-! The language server between its documents and the host parser. Every change of a document is
diagnosed at once and, after a pause, checked by the host parser. A check keeps the document that it
was scheduled for, takes the parser that is configured when it fires, and may end at any later time;
its result is published only while its generation is current. -/
namespace Dialect.Editor

structure Check where
  document : Document
  encoding : Encoding
  deriving Repr, DecidableEq

structure RunningCheck where
  uri : Uri
  generation : Nat
  check : Check
  parser : Command
  deriving Repr, DecidableEq

inductive Message where
  | publish (uri : Uri) (diagnostics : List Diagnostic) (version : Option Int)
  | warn (text : String)
  deriving Repr, DecidableEq

structure Server where
  encoding : Encoding := .utf16
  settings : Settings := {}
  workspace : Workspace := {}
  scheduler : Scheduler Check := {}
  running : List RunningCheck := []

inductive Event where
  | opened (uri : Uri) (text : List Char) (version : Int)
  | changed (uri : Uri) (texts : List (List Char)) (version : Int)
  | closed (uri : Uri)
  | configured (value : Value)
  | elapsed (delay : Nat)
  | finished (generation : Nat)

namespace RunningCheck

def external (launch : Launcher) (check : RunningCheck) : List Diagnostic :=
  let document := check.check.document
  ((hostFinding? launch check.parser document.text).map fun finding =>
    Diagnostic.of document.text check.check.encoding finding.diagnostic).toList

def result (launch : Launcher) (check : RunningCheck) : Message :=
  .publish check.uri (check.check.document.diagnostics ++ check.external launch)
    (some check.check.document.version)

end RunningCheck

namespace Server

def startDue (server : Server) : Server :=
  { server with
    scheduler := server.scheduler.fire
    running := server.running ++ server.scheduler.due.map fun timer =>
      ⟨timer.uri, timer.generation, timer.job, server.settings.parser⟩ }

def store (server : Server) (uri : Uri) (document : Document) : Server :=
  { server with
    workspace := server.workspace.put uri document
    scheduler :=
      server.scheduler.schedule uri server.settings.debounce ⟨document, server.encoding⟩ }.startDue

def refresh (server : Server) (uri : Uri) (text : List Char) (version : Int) :
    List Message × Server :=
  let document := Document.of text version server.encoding
  ([.publish uri document.diagnostics (some version)], server.store uri document)

/-- Ends a check. Its result is dropped when the document has changed or closed since. -/
def finish (launch : Launcher) (server : Server) (check : RunningCheck) : List Message × Server :=
  (if server.scheduler.isCurrent check.uri check.generation then [check.result launch] else [],
    { server with running := server.running.filter (·.generation ≠ check.generation) })

def step (launch : Launcher) (server : Server) : Event → List Message × Server
  | .opened uri text version => server.refresh uri text version
  | .changed uri texts version =>
    match texts.getLast? with
    | some text => server.refresh uri text version
    | none => ([], server)
  | .closed uri =>
    ([.publish uri [] none],
      { server with
        scheduler := server.scheduler.cancel uri
        workspace := server.workspace.remove uri })
  | .configured value => ([], { server with settings := server.settings.change value })
  | .elapsed delay => ([], { server with scheduler := server.scheduler.wait delay }.startDue)
  | .finished generation =>
    match server.running.find? (·.generation = generation) with
    | some check => server.finish launch check
    | none => ([], server)

/-- All messages of a sequence of events, and the server after it. -/
def run (launch : Launcher) (server : Server) : List Event → List Message × Server
  | [] => ([], server)
  | event :: rest =>
    let (messages, next) := server.step launch event
    let (more, last) := next.run launch rest
    (messages ++ more, last)

/-- The edits that format a document. A formatter that fails changes nothing, and the editor is
told. -/
def format (launch : Launcher) (server : Server) (uri : Uri) : List Message × Option (List Edit) :=
  match server.workspace.get? uri with
  | none => ([], none)
  | some document =>
    match formatDocument launch server.settings.formatter document.text server.encoding with
    | .ok edits => ([], some edits)
    | .error failure => ([.warn s!"znix: formatting failed: {failure.message}"], none)

def complete (server : Server) (uri : Uri) (cursor : Place) : Option (List Item) :=
  (server.workspace.get? uri).bind fun document => complete? document.text cursor server.encoding

end Server

end Dialect.Editor
