import Dialect.Editor.Protocol.Method
import Dialect.Editor.Protocol.Opening
import Dialect.Editor.Server

/-! What an editor sends: methods with their parameters, read as what they mean for the server. -/
namespace Dialect.Editor

structure Opening where
  encodings : Option (List String)
  options : Option Value

inductive Question where
  | formatting (uri : Uri)
  | completion (uri : Uri) (cursor : Place)
  deriving Repr, DecidableEq

inductive Fault where
  | notInitialized | invalidRequest | methodNotFound | invalidParams
  deriving Repr, DecidableEq

def Fault.code : Fault → Int
  | .notInitialized => -32002
  | .invalidRequest => -32600
  | .methodNotFound => -32601
  | .invalidParams => -32602

inductive Call where
  | initialise (opening : Option Opening)
  /-- The end of the work. It takes no parameters; `bare` says that there are none. -/
  | shutdown (bare : Bool)
  | exit
  | cancel
  /-- A notification. There is no event when it changes nothing or cannot be read. -/
  | notice (event : Option Event)
  | ask (question : Except Fault Question)
  /-- No method of the protocol; `negligible` says that nobody needs to know it. -/
  | unknown (negligible : Bool)

namespace Call

open Protocol

def uri? : Value → Option Uri
  | .string s => Uri.ofText? s
  | _ => none

def natural? : Value → Option Nat
  | .integer n => some n.toNat
  | _ => none

def integer? : Value → Option Int
  | .integer n => some n
  | _ => none

def text? (value : Value) : Option (List Char) := value.string?.map String.toList

def present? : Option Value → Option Value
  | some .null => none
  | found => found

def opening? (params : Value) : Option Opening := do
  guard (opening.admits params)
  let capabilities ← openingLayout.get? "capabilities" params
  let general := present? (capabilitiesLayout.get? "general" capabilities)
  let encodings := general.bind fun general =>
    present? (generalLayout.get? "positionEncodings" general)
  return ⟨encodings.bind Value.strings?,
    present? (openingLayout.get? "initializationOptions" params)⟩

def opened? (params : Value) : Option Event := do
  guard ((Shape.record openedLayout).admits params)
  let document ← openedLayout.get? "textDocument" params
  let member (name : String) := openedDocumentLayout.get? name document
  return .opened (← (← member "uri") |> uri?) (← (← member "text") |> text?)
    (← (← member "version") |> integer?)

def changed? (params : Value) : Option Event := do
  guard ((Shape.record changedLayout).admits params)
  let document ← changedLayout.get? "textDocument" params
  let .list changes ← changedLayout.get? "contentChanges" params | none
  let texts ← changes.mapM fun change => do text? (← contentLayout.get? "text" change)
  return .changed (← (← versionedLayout.get? "uri" document) |> uri?) texts
    (← (← versionedLayout.get? "version" document) |> integer?)

def document? (layout : Layout) (params : Value) : Option Uri := do
  uri? (← documentLayout.get? "uri" (← layout.get? "textDocument" params))

def closed? (params : Value) : Option Event := do
  guard ((Shape.record closedLayout).admits params)
  return .closed (← document? closedLayout params)

def configured? (params : Value) : Option Event := do
  guard ((Shape.record configuredLayout).admits params)
  return .configured (← configuredLayout.get? "settings" params)

def formatting? (params : Value) : Option Question := do
  guard ((Shape.named formattingLayout .any).admits params)
  return .formatting (← document? formattingLayout params)

def completion? (params : Value) : Option Question := do
  guard ((Shape.named completionLayout .any).admits params)
  let position ← completionLayout.get? "position" params
  return .completion (← document? completionLayout params)
    ⟨← (← placeLayout.get? "line" position) |> natural?,
      ← (← placeLayout.get? "character" position) |> natural?⟩

def asked (question : Option Question) : Call :=
  .ask (match question with
    | some question => .ok question
    | none => .error .invalidParams)

def idle (method : String) (params : Option Value) : Call :=
  match idleRequests.lookup method with
  | some shape => .ask (.error (if params.any shape.admits then .methodNotFound else .invalidParams))
  | none =>
    if idleNotices.contains method then .notice none
    else .unknown (startsWith ['$', '/'] method.toList)

def read (method : String) (params : Option Value) : Call :=
  match method with
  | "initialize" => .initialise (params.bind opening?)
  | "shutdown" => .shutdown params.isNone
  | "exit" => .exit
  | "$/cancelRequest" => .cancel
  | "textDocument/didOpen" => .notice (params.bind opened?)
  | "textDocument/didChange" => .notice (params.bind changed?)
  | "textDocument/didClose" => .notice (params.bind closed?)
  | "workspace/didChangeConfiguration" => .notice (params.bind configured?)
  | "textDocument/formatting" => asked (params.bind formatting?)
  | "textDocument/completion" => asked (params.bind completion?)
  | other => idle other params

end Call

end Dialect.Editor
