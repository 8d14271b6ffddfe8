import Dialect.Editor.Protocol.Basic

/-! The methods of the editor protocol that the server knows: the shapes of the parameters of those
that it offers, and the others with theirs. -/
namespace Dialect.Editor.Protocol

def openedDocumentLayout : Layout :=
  .ofList [("uri", .address), ("languageId", .text), ("version", signed), ("text", .text)]

def openedLayout : Layout := .ofList [("textDocument", .record openedDocumentLayout)]

def versionedLayout : Layout := .ofList [("uri", .address), ("version", signed)]

def contentLayout : Layout :=
  .ofList [("range", .optional area), ("rangeLength", .optional natural), ("text", .text)]

def changedLayout : Layout :=
  .ofList [("textDocument", .record versionedLayout), ("contentChanges", .list (.record contentLayout))]

def closedLayout : Layout := .ofList inDocument

def configuredLayout : Layout := .ofList [("settings", .any)]

def formattingLayout : Layout :=
  .ofList (inDocument ++ [("options", formattingOptions)] ++ progress)

def completionLayout : Layout :=
  .ofList (cursor ++ parts ++
    [("context", .optional (.fields [("triggerKind", signed), textField "triggerCharacter"]))])

def callItem : Shape :=
  .fields [("name", .text), ("kind", signed), ("tags", .optional (.list signed)),
    textField "detail", ("uri", .address), ("range", area), ("selectionRange", area),
    anyField "data"]

def typeItem : Shape :=
  .fields [("name", .text), ("kind", signed), ("tags", .optional signed), textField "detail",
    ("uri", .address), ("range", area), ("selectionRange", area), anyField "data"]

def signature : Shape :=
  .fields [("label", .text), ("documentation", .optional prose),
    ("parameters", .optional (.list (.fields [
      ("label", .either .text (.fields [("start", natural), ("end", natural)])),
      ("documentation", .optional prose)]))),
    ("activeParameter", .optional natural)]

def signatureContext : Shape :=
  .fields [("triggerKind", signed), textField "triggerCharacter", ("isRetrigger", .flag),
    ("activeSignatureHelp", .optional (.fields [("signatures", .list signature),
      ("activeSignature", .optional natural), ("activeParameter", .optional natural)]))]

def documentEdit : Shape :=
  .fields [("textDocument", .fields [("uri", .address), ("version", .optional signed)]),
    ("edits", .list textEdit)]

def workspaceEdit : Shape :=
  .fields [("changes", .omissible (.optional (.dictionary .address (.list textEdit)))),
    ("documentChanges", .optional (.list (.either documentEdit
      (.namedFields [("kind", .word ["create", "rename", "delete"])])))),
    ("changeAnnotations", .optional (.dictionary .text
      (.fields [("label", .text), flagField "needsConfirmation", textField "description"])))]

def codeAction : Shape :=
  .fields [("title", .text), textField "kind", ("diagnostics", .optional (.list diagnostic)),
    ("edit", .optional workspaceEdit), ("command", .optional command), flagField "isPreferred",
    ("disabled", .optional (.fields [("reason", .text)])), anyField "data"]

def completionItem : Shape :=
  .fields [("label", .text),
    ("labelDetails", .optional (.fields [textField "detail", textField "description"])),
    ("kind", .optional signed), textField "detail", ("documentation", .optional prose),
    flagField "deprecated", flagField "preselect", textField "sortText", textField "filterText",
    textField "insertText", ("insertTextFormat", .optional signed),
    ("insertTextMode", .optional signed),
    ("textEdit", .optional (.either textEdit
      (.fields [("newText", .text), ("insert", area), ("replace", area)]))),
    ("additionalTextEdits", .optional (.list textEdit)), ("command", .optional command),
    ("commitCharacters", .optional texts), anyField "data", ("tags", .optional (.list signed))]

def inlayHint : Shape :=
  .fields [("position", place),
    ("label", .either .text (.list (.fields [("value", .text), ("tooltip", .optional prose),
      ("location", .optional location), ("command", .optional command)]))),
    ("kind", .optional signed), ("textEdits", .optional (.list textEdit)),
    ("tooltip", .optional prose), flagField "paddingLeft", flagField "paddingRight", anyField "data"]

def color : Shape :=
  .fields [("red", .number), ("green", .number), ("blue", .number), ("alpha", .number)]

def fileList (names : List String) : Shape :=
  .fields [("files", .list (.fields (names.map fun name => (name, .text))))]

def placeRequests : Members := [
  ("textDocument/declaration", .namedFields (cursor ++ parts)),
  ("textDocument/definition", .namedFields (cursor ++ parts)),
  ("textDocument/typeDefinition", .namedFields (cursor ++ parts)),
  ("textDocument/implementation", .namedFields (cursor ++ parts)),
  ("textDocument/references",
    .namedFields (cursor ++ parts ++ [("context", .fields [("includeDeclaration", .flag)])])),
  ("textDocument/documentHighlight", .namedFields (cursor ++ parts)),
  ("textDocument/hover", .namedFields (cursor ++ progress)),
  ("textDocument/signatureHelp",
    .namedFields (cursor ++ progress ++ [("context", .optional signatureContext)])),
  ("textDocument/onTypeFormatting",
    .namedFields (cursor ++ [("ch", .text), ("options", formattingOptions)])),
  ("textDocument/rename", .namedFields (cursor ++ progress ++ [("newName", .text)])),
  ("textDocument/prepareRename", .fields cursor),
  ("textDocument/linkedEditingRange", .namedFields (cursor ++ progress)),
  ("textDocument/moniker", .namedFields (cursor ++ parts)),
  ("textDocument/prepareCallHierarchy", .namedFields (cursor ++ progress)),
  ("textDocument/prepareTypeHierarchy", .namedFields (cursor ++ progress))]

def documentRequests : Members := [
  ("textDocument/willSaveWaitUntil", .fields (inDocument ++ [("reason", signed)])),
  ("textDocument/documentLink", .namedFields (inDocument ++ parts)),
  ("textDocument/codeLens", .namedFields (inDocument ++ parts)),
  ("textDocument/foldingRange", .namedFields (inDocument ++ parts)),
  ("textDocument/selectionRange",
    .namedFields (inDocument ++ parts ++ [("positions", .list place)])),
  ("textDocument/documentSymbol", .namedFields (inDocument ++ parts)),
  ("textDocument/semanticTokens/full", .namedFields (inDocument ++ parts)),
  ("textDocument/semanticTokens/full/delta",
    .namedFields (inDocument ++ parts ++ [("previousResultId", .text)])),
  ("textDocument/semanticTokens/range", .namedFields (inDocument ++ parts ++ [("range", area)])),
  ("textDocument/inlineValue",
    .namedFields (inDocument ++ progress ++ [("range", area),
      ("context", .fields [("frameId", signed), ("stoppedLocation", area)])])),
  ("textDocument/inlayHint", .namedFields (inDocument ++ progress ++ [("range", area)])),
  ("textDocument/diagnostic",
    .namedFields (inDocument ++ parts ++ [textField "identifier", textField "previousResultId"])),
  ("textDocument/codeAction",
    .namedFields (inDocument ++ parts ++ [("range", area),
      ("context", .fields [("diagnostics", .list diagnostic), ("only", .optional texts),
        ("triggerKind", .optional signed)])])),
  ("textDocument/documentColor", .namedFields (inDocument ++ parts)),
  ("textDocument/colorPresentation",
    .namedFields (inDocument ++ parts ++ [("color", color), ("range", area)])),
  ("textDocument/rangeFormatting",
    .namedFields (inDocument ++ progress ++ [("range", area), ("options", formattingOptions)]))]

def itemRequests : Members := [
  ("callHierarchy/incomingCalls", .namedFields (("item", callItem) :: parts)),
  ("callHierarchy/outgoingCalls", .namedFields (("item", callItem) :: parts)),
  ("typeHierarchy/supertypes", .namedFields (("item", typeItem) :: parts)),
  ("typeHierarchy/subtypes", .namedFields (("item", typeItem) :: parts)),
  ("documentLink/resolve",
    .fields [("range", area), ("target", .optional .address), textField "tooltip", anyField "data"]),
  ("codeLens/resolve",
    .fields [("range", area), ("command", .optional command), anyField "data"]),
  ("inlayHint/resolve", inlayHint),
  ("completionItem/resolve", completionItem),
  ("codeAction/resolve", codeAction),
  ("workspaceSymbol/resolve",
    .fields [("name", .text), ("kind", signed), ("tags", .optional (.list signed)),
      textField "containerName", ("location", .either location document), anyField "data"])]

def workspaceRequests : Members := [
  ("workspace/symbol", .namedFields (parts ++ [("query", .text)])),
  ("workspace/diagnostic",
    .namedFields (parts ++ [textField "identifier",
      ("previousResultIds", .list (.fields [("uri", .address), ("value", .text)]))])),
  ("workspace/executeCommand",
    .namedFields (progress ++ [("command", .text), ("arguments", .omissible (.list .any))])),
  ("workspace/willCreateFiles", fileList ["uri"]),
  ("workspace/willRenameFiles", fileList ["oldUri", "newUri"]),
  ("workspace/willDeleteFiles", fileList ["uri"])]

/-- The requests that the server knows and does not offer, with the shapes of their parameters. -/
def idleRequests : Members :=
  placeRequests ++ documentRequests ++ itemRequests ++ workspaceRequests

def idleNotices : List String := [
  "initialized", "textDocument/willSave", "textDocument/didSave",
  "workspace/didChangeWorkspaceFolders", "workspace/didChangeWatchedFiles",
  "workspace/didCreateFiles", "workspace/didRenameFiles", "workspace/didDeleteFiles"]

end Dialect.Editor.Protocol
