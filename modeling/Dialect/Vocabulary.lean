import Dialect.Text.Word

/-! The words and signs of the dialect. -/
namespace Dialect

def sigil : Char := '$'

/-- Starts a comment, which runs to the end of its line. -/
def commentMarker : Char := '#'

def rawDelimiter : List Char := ['\'', '\'']

def declareKeyword : List Char := "declare".toList

/-- First words of a structural node `(zmdl …)`. -/
def structuralKeywords : List (List Char) := ["zmdl".toList, "zalias".toList, "zimport".toList]

def actionKeywords : List (List Char) :=
  ["_onEnter".toList, "_onExit".toList, "_onChange".toList]

/-- Opens an action block without naming an attribute. -/
def actionShorthand : List Char := ['@', 'd', 'o']

/-- Words that go on with an expression after a closing brace. -/
def continuationKeywords : List (List Char) := ["in".toList, "then".toList, "else".toList]

/-- Lines that start with one of these words are no attribute statements. -/
def controlKeywords : List (List Char) :=
  ["let".toList, "in".toList, "with".toList, "inherit".toList, "rec".toList, "if".toList,
    "then".toList, "else".toList, "assert".toList, "import".toList, "or".toList]

/-- Words after which the host language accepts a whole document. -/
def topLevelKeywords : List (List Char) := ["let".toList, "with".toList, "rec".toList]

/-- A word offered for completion, with what it stands for. -/
structure Term where
  name : String
  meaning : String
  deriving Repr, DecidableEq

def underscoreKeywords : List Term := [
  ⟨"_meta", "Metadata block describing the configuration"⟩,
  ⟨"_extends", "Configuration this one extends"⟩,
  ⟨"_include", "Additional files merged into this configuration"⟩,
  ⟨"_doc", "Documentation string"⟩,
  ⟨"_onEnter", "Action run when the configuration is activated"⟩,
  ⟨"_onExit", "Action run when the configuration is deactivated"⟩,
  ⟨"_onChange", "Action run when a watched value changes"⟩]

def contextVariables : List Term := [
  ⟨"ctx", "Evaluation context"⟩,
  ⟨"env", "Process environment"⟩,
  ⟨"user", "Current user"⟩,
  ⟨"project", "Project being configured"⟩,
  ⟨"target", "Build target"⟩,
  ⟨"system", "Host system description"⟩]

def declaredTypes : List String :=
  ["string", "int", "integer", "float", "boolean", "bool", "enum"]

def isIdentStart (c : Char) : Bool := isAsciiLetter c || c == '_'

def isIdentChar (c : Char) : Bool :=
  isAsciiLetter c || isAsciiDigit c || c == '_' || c == '-' || c == '\''

def leadingWord? (text : List Char) : Option (List Char) :=
  if text.head?.any isIdentStart then some (text.takeWhile isIdentChar) else none

def isOpener (c : Char) : Bool := c == '(' || c == '{' || c == '['

def isCloser (c : Char) : Bool := c == ')' || c == '}' || c == ']'

def closerOf (opener : Char) : Char :=
  if opener = '(' then ')' else if opener = '[' then ']' else '}'

end Dialect
