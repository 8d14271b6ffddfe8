import Dialect.Editor.Protocol.Basic

/-! The shape of what an editor says of itself when it starts the server. -/
namespace Dialect.Editor.Protocol

def dynamic : String × Shape := flagField "dynamicRegistration"

def feature (name : String) : String × Shape := (name, .optional (.fields [dynamic]))

def ability (name : String) (members : Members) : String × Shape :=
  (name, .optional (.fields members))

def renewable (name : String) : String × Shape := ability name [flagField "refreshSupport"]

def jump (name : String) : String × Shape := ability name [dynamic, flagField "linkSupport"]

/-- Tags that an editor knows; older ones only say whether they know any. -/
def tags : String × Shape :=
  ("tagSupport", .omissible (.optional (.either .flag (.fields [("valueSet", .list signed)]))))

def markups (name : String) : String × Shape :=
  (name, .optional (.list (.word ["plaintext", "markdown"])))

def kinds (name : String) : String × Shape := ability name [("valueSet", .optional (.list signed))]

def resolvable : String × Shape := ability "resolveSupport" [("properties", texts)]

def workspaceAbilities : Members := [
  flagField "applyEdit",
  ability "workspaceEdit" [flagField "documentChanges",
    ("resourceOperations", .optional (.list (.word ["create", "rename", "delete"]))),
    ("failureHandling",
      .optional (.word ["abort", "transactional", "textOnlyTransactional", "undo"])),
    flagField "normalizesLineEndings",
    ability "changeAnnotationSupport" [flagField "groupsOnLabel"]],
  feature "didChangeConfiguration",
  ability "didChangeWatchedFiles" [dynamic, flagField "relativePatternSupport"],
  ability "symbol" [dynamic, kinds "symbolKind", tags, resolvable],
  feature "executeCommand",
  flagField "workspaceFolders",
  flagField "configuration",
  renewable "semanticTokens",
  renewable "codeLens",
  ability "fileOperations" [dynamic, flagField "didCreate", flagField "willCreate",
    flagField "didRename", flagField "willRename", flagField "didDelete", flagField "willDelete"],
  renewable "inlineValue",
  renewable "inlayHint",
  renewable "diagnostic"]

def completionAbilities : Members := [
  dynamic,
  ability "completionItem" [flagField "snippetSupport", flagField "commitCharactersSupport",
    markups "documentationFormat", flagField "deprecatedSupport", flagField "preselectSupport",
    tags, flagField "insertReplaceSupport", resolvable,
    ability "insertTextModeSupport" [("valueSet", .list signed)], flagField "labelDetailsSupport"],
  kinds "completionItemKind",
  flagField "contextSupport",
  ("insertTextMode", .optional signed),
  ability "completionList" [("itemDefaults", .optional texts)]]

def semanticTokenAbilities : Members := [
  dynamic,
  ("requests", .fields [flagField "range",
    ("full", .optional (.either .flag (.fields [flagField "delta"])))]),
  ("tokenTypes", texts),
  ("tokenModifiers", texts),
  ("formats", texts),
  flagField "overlappingTokenSupport",
  flagField "multilineTokenSupport",
  flagField "serverCancelSupport",
  flagField "augmentsSyntaxTokens"]

def documentAbilities : Members := [
  ability "synchronization" [dynamic, flagField "willSave", flagField "willSaveWaitUntil",
    flagField "didSave"],
  ability "completion" completionAbilities,
  ability "hover" [dynamic, markups "contentFormat"],
  ability "signatureHelp" [dynamic,
    ability "signatureInformation" [markups "documentationFormat",
      ability "parameterInformation" [flagField "labelOffsetSupport"],
      flagField "activeParameterSupport"],
    flagField "contextSupport"],
  feature "references",
  feature "documentHighlight",
  ability "documentSymbol" [dynamic, kinds "symbolKind",
    flagField "hierarchicalDocumentSymbolSupport", tags],
  feature "formatting",
  feature "rangeFormatting",
  feature "onTypeFormatting",
  jump "declaration",
  jump "definition",
  jump "typeDefinition",
  jump "implementation",
  ability "codeAction" [dynamic,
    ability "codeActionLiteralSupport" [("codeActionKind", .fields [("valueSet", texts)])],
    flagField "isPreferredSupport", flagField "disabledSupport", flagField "dataSupport",
    resolvable, flagField "honorsChangeAnnotations"],
  feature "codeLens",
  ability "documentLink" [dynamic, flagField "tooltipSupport"],
  feature "colorProvider",
  ability "rename" [dynamic, flagField "prepareSupport",
    ("prepareSupportDefaultBehavior", .optional signed), flagField "honorsChangeAnnotations"],
  ability "publishDiagnostics" [flagField "relatedInformation", tags, flagField "versionSupport",
    flagField "codeDescriptionSupport", flagField "dataSupport"],
  ability "foldingRange" [dynamic, ("rangeLimit", .optional natural), flagField "lineFoldingOnly",
    ability "foldingRangeKind"
      [("valueSet", .optional (.list (.word ["comment", "imports", "region"])))],
    ability "foldingRange" [flagField "collapsedText"]],
  feature "selectionRange",
  feature "linkedEditingRange",
  feature "callHierarchy",
  ability "semanticTokens" semanticTokenAbilities,
  feature "moniker",
  feature "typeHierarchy",
  feature "inlineValue",
  ability "inlayHint" [dynamic, resolvable],
  ability "diagnostic" [dynamic, flagField "relatedDocumentSupport"]]

def notebookAbilities : Members :=
  [("synchronization", .fields [dynamic, flagField "executionSummaryReport"])]

def windowAbilities : Members := [
  flagField "workDoneProgress",
  ability "showMessage"
    [ability "messageActionItem" [flagField "additionalPropertiesSupport"]],
  ability "showDocument" [("support", .flag)]]

def generalLayout : Layout := .ofList [
  ability "regularExpressions" [("engine", .text), textField "version"],
  ability "markdown" [("parser", .text), textField "version", ("allowedTags", .optional texts)],
  ability "staleRequestSupport" [("cancel", .flag), ("retryOnContentModified", texts)],
  ("positionEncodings", .optional texts)]

def capabilitiesLayout : Layout := .ofList [
  ability "workspace" workspaceAbilities,
  ability "textDocument" documentAbilities,
  ability "notebookDocument" notebookAbilities,
  ability "window" windowAbilities,
  ("general", .optional (.record generalLayout)),
  anyField "experimental"]

def openingLayout : Layout := .ofList [
  ("processId", .optional natural),
  textField "rootPath",
  ("rootUri", .omissible (.optional .address)),
  anyField "initializationOptions",
  ("capabilities", .record capabilitiesLayout),
  ("trace", .omissible (.optional (.word ["off", "messages", "verbose"]))),
  ("workspaceFolders", .optional (.list (.fields [("uri", .address), ("name", .text)]))),
  ("clientInfo", .optional (.fields [("name", .text), textField "version"])),
  textField "locale"]

def opening : Shape := .record openingLayout

end Dialect.Editor.Protocol
