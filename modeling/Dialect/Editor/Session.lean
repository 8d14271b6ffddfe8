import Dialect.Editor.Call

/-! A session of the language server: the order of initialisation, work, shutdown and exit around the
server, with the answers that requests get. -/
namespace Dialect.Editor

inductive Phase where
  | uninitialized | working | shutDown | exited
  deriving Repr, DecidableEq

inductive Result where
  | capabilities (encoding : Encoding)
  | edits (edits : Option (List Edit))
  | items (items : Option (List Item))
  | nothing
  deriving Repr, DecidableEq

abbrev Reply := Except Fault Result

def serverName : String := "znix-lsp"

def serverVersion : String := "0.1.0"

def triggerCharacters : List String := ["$", "_", "(", "\""]

structure Session where
  phase : Phase := .uninitialized
  server : Server := {}

namespace Session

def reply (launch : Launcher) (session : Session) : Question → List Message × Result
  | .formatting uri =>
    let (messages, edits) := session.server.format launch uri
    (messages, .edits edits)
  | .completion uri cursor => ([], .items (session.server.complete uri cursor))

/-- A call while the server works. A notification that somebody waits for is refused, and a request
that nobody waits for is passed over. -/
def work (launch : Launcher) (session : Session) (call : Call) (awaited : Bool) :
    List Message × Option Reply × Session :=
  match call, awaited with
  | .notice (some event), false =>
    let (messages, server) := session.server.step launch event
    (messages, none, { session with server := server })
  | .ask (.ok question), true =>
    let (messages, result) := session.reply launch question
    (messages, some (.ok result), session)
  | .ask (.error fault), true => ([], some (.error fault), session)
  | .notice _, true | .initialise _, true => ([], some (.error .invalidRequest), session)
  | .shutdown bare, _ =>
    ([], some (if bare then .ok .nothing else .error .invalidParams),
      { session with phase := .shutDown })
  | _, _ => ([], none, session)

def initialise (session : Session) (opening : Opening) : Session :=
  ⟨.working, { session.server with
    encoding := .negotiate opening.encodings
    settings := match opening.options with
      | some value => session.server.settings.update value
      | none => session.server.settings }⟩

def prepare (session : Session) (call : Call) (awaited : Bool) : Option Reply × Session :=
  match call, awaited with
  | .initialise (some opening), true =>
    let next := session.initialise opening
    (some (.ok (.capabilities next.server.encoding)), next)
  | .initialise none, true => (some (.error .invalidParams), session)
  | _, _ => (some (.error .notInitialized), session)

def answer (launch : Launcher) (session : Session) (call : Call) (awaited : Bool) :
    List Message × Option Reply × Session :=
  match call, session.phase with
  | .exit, _ => ([], none, { session with phase := .exited })
  | .cancel, _ => ([], some (.error .invalidRequest), session)
  | .unknown negligible, _ =>
    ([], if negligible then none else some (.error .methodNotFound), session)
  | call, .uninitialized => ([], session.prepare call awaited)
  | call, .working => session.work launch call awaited
  | _, _ => ([], some (.error .invalidRequest), session)

def finishAll (launch : Launcher) (server : Server) : List Nat → List Message × Server
  | [] => ([], server)
  | generation :: rest =>
    let (messages, next) := server.step launch (.finished generation)
    let (more, last) := finishAll launch next rest
    (messages ++ more, last)

inductive Input where
  | call (call : Call) (awaited : Bool)
  /-- Time passes. With `hold`, checks that start meanwhile go on beyond it. -/
  | wait (delay : Nat) (hold : Bool)

inductive Answer where
  | none
  | reply (reply : Reply)
  | exited

def topic : Message → Uri
  | .publish uri _ _ => uri
  | .warn _ => ""

def sortByTopic (messages : List Message) : List Message :=
  sortBy (fun a b => !decide (topic b < topic a)) messages

def effect (launch : Launcher) (session : Session) : Input → List Message × Answer × Session
  | .wait delay _ =>
    ([], .none, { session with server := (session.server.step launch (.elapsed delay)).2 })
  | .call call awaited =>
    if session.phase = .exited then ([], .exited, session)
    else
      let (messages, reply, next) := session.answer launch call awaited
      (messages, if awaited then (reply.map .reply).getD .none else .none, next)

/-- One input. Checks that it starts end with it, unless they are held; checks that were held before
end after it. What the server would send after its exit is lost. -/
def step (launch : Launcher) (session : Session) (input : Input) :
    List Message × Answer × Session :=
  let held := session.server.running.map (·.generation)
  let (messages, answer, next) := session.effect launch input
  let ending := match input with
    | .wait _ true => held
    | _ => next.server.running.map (·.generation)
  let (more, server) := finishAll launch next.server ending
  let sent := if next.phase = .exited then messages else messages ++ more
  (sortByTopic sent, answer, { next with server := server })

end Session

end Dialect.Editor
