import Dialect.Shape

/-! The shapes that many messages of the editor protocol share. -/
namespace Dialect.Editor.Protocol

abbrev Members := List (String × Shape)

def natural : Shape := .integer 0 0xFFFFFFFF

def signed : Shape := .integer (-0x80000000) 0x7FFFFFFF

def texts : Shape := .list .text

def flagField (name : String) : String × Shape := (name, .optional .flag)

def textField (name : String) : String × Shape := (name, .optional .text)

def anyField (name : String) : String × Shape := (name, .optional .any)

def placeLayout : Layout := .ofList [("line", natural), ("character", natural)]

def place : Shape := .record placeLayout

def area : Shape := .fields [("start", place), ("end", place)]

def location : Shape := .fields [("uri", .address), ("range", area)]

def documentLayout : Layout := .ofList [("uri", .address)]

def document : Shape := .record documentLayout

/-- By this an editor recognises what belongs to a request of its own. -/
def token : Shape := .either signed .text

def progress : Members := [("workDoneToken", .optional token)]

/-- A request whose progress may be reported and whose result may come in parts. -/
def parts : Members := progress ++ [("partialResultToken", .optional token)]

def cursor : Members := [("textDocument", document), ("position", place)]

def inDocument : Members := [("textDocument", document)]

/-- Options of a formatter; those without a meaning of their own are flags, numbers or texts. -/
def formattingOptions : Shape :=
  .named (.ofList [("tabSize", natural), ("insertSpaces", .flag), flagField "trimTrailingWhitespace",
      flagField "insertFinalNewline", flagField "trimFinalNewlines"])
    (.either .flag (.either signed .text))

def prose : Shape :=
  .either .text (.fields [("kind", .word ["plaintext", "markdown"]), ("value", .text)])

def command : Shape :=
  .fields [("title", .text), ("command", .text), ("arguments", .optional (.list .any))]

def textEdit : Shape := .fields [("range", area), ("newText", .text)]

def diagnostic : Shape :=
  .fields [("range", area), ("severity", .optional signed), ("code", .optional token),
    ("codeDescription", .optional (.fields [("href", .address)])), textField "source",
    ("message", .text),
    ("relatedInformation", .optional (.list (.fields [("location", location), ("message", .text)]))),
    ("tags", .optional (.list signed)), anyField "data"]

end Dialect.Editor.Protocol
