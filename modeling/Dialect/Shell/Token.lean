import Dialect.Shell.Script

/-! The tokens of scripts, and what a reader has to know about the text that it stands in. -/
namespace Dialect.Shell

open Dialect.Filter (Octets)

inductive Direction where
  | file (access : Access)
  | duplicate
  | document (stripTabs : Bool)
  deriving Repr, DecidableEq

inductive Token where
  | finish
  | newline
  | sign (text : String)
  | keyword (text : String)
  | redirect (fd : Nat) (direction : Direction)
  | word (parts : List Part)

def Token.name : Token → String
  | .finish => "end of file"
  | .newline => "newline"
  | .sign text | .keyword text => "\"" ++ text ++ "\""
  | .redirect _ _ => "redirection"
  | .word _ => "word"

def Token.isSign (token : Token) (text : String) : Bool :=
  match token with
  | .sign other => other == text
  | _ => false

def Token.isKeyword (token : Token) (text : String) : Bool :=
  match token with
  | .keyword other => other == text
  | _ => false

def Token.endsList : Token → Bool
  | .finish => true
  | .sign text => text == ")" || text == ";;"
  | .keyword text =>
    ["do", "done", "elif", "else", "esac", "fi", "then", "\x7d"].contains text
  | _ => false

def keywords : List String :=
  ["!", "case", "do", "done", "elif", "else", "esac", "fi", "for", "if", "in", "then", "until", "while",
    "\x7b", "\x7d"]

def Token.asKeyword (token : Token) : Token :=
  match token with
  | .word parts =>
    match bareText? parts with
    | some text =>
      match keywords.find? (·.toList == text) with
      | some name => .keyword name
      | none => token
    | none => token
  | token => token

def specialNames : List String :=
  [".", ":", "break", "continue", "eval", "exec", "exit", "export", "readonly", "return", "set", "shift",
    "times", "trap", "unset"]

structure Pending where
  number : Nat
  mark : Octets
  stripTabs : Bool
  verbatim : Bool
  deriving Repr, DecidableEq

/-- What a reader of scripts has not yet read, and what it has to remember. -/
structure Cursor where
  rest : Octets
  line : Nat := 1
  pushed : Option Token := none
  pending : List Pending := []
  documents : List (Nat × List Part) := []
  count : Nat := 0

def Cursor.within (cursor : Cursor) (text : Octets) : Cursor :=
  { rest := text, line := cursor.line, count := cursor.count }

structure Fault where
  line : Nat
  message : String
  deriving Repr, DecidableEq

abbrev Reader := StateT Cursor (Except Fault)

namespace Reader

def fail {α : Type} (message : String) : Reader α := fun cursor => .error ⟨cursor.line, message⟩

def unexpected {α : Type} (token : Token) (expected : Option Token := none) : Reader α :=
  fail (token.name ++ " unexpected" ++
    match expected with
    | some other => " (expecting " ++ other.name ++ ")"
    | none => "")

def rest : Reader Octets := return (← get).rest

def skip (count : Nat) : Reader Unit :=
  modify fun cursor => { cursor with
    rest := cursor.rest.drop count
    line := cursor.line + (cursor.rest.take count).count '\n' }

def push (token : Token) : Reader Unit := modify fun cursor => { cursor with pushed := some token }

def skipBlanks : Nat → Reader Unit
  | 0 => return
  | fuel + 1 => do
    match ← rest with
    | ' ' :: _ | '\t' :: _ =>
      skip 1
      skipBlanks fuel
    | '\\' :: '\n' :: _ =>
      skip 2
      skipBlanks fuel
    | '#' :: more => skip (more.takeWhile (· ≠ '\n')).length.succ
    | _ => return

end Reader

def endsWord (c : Char) : Bool :=
  c == ' ' || c == '\t' || c == '\n' || c == ';' || c == '&' || c == '|' || c == '<' || c == '>' ||
    c == '(' || c == ')'

/-- The text between backquotes, with its escapes resolved, and its length in the source. -/
def backquoted? (quoted : Bool) : Octets → Option (Octets × Nat)
  | [] => none
  | '\\' :: c :: rest => do
    let (text, length) ← backquoted? quoted rest
    let escaped := c == '\x60' || c == '\\' || c == '$' || (quoted && c == '"')
    return (if escaped then c :: text else '\\' :: c :: text, length + 2)
  | c :: rest =>
    if c = '\x60' then some ([], 1)
    else do
      let (text, length) ← backquoted? quoted rest
      return (c :: text, length + 1)

def isSpecialParameter (c : Char) : Bool := "@*#?$!-".toList.contains c

/-- The place of a word, which decides what ends it and what its characters mean. -/
inductive Mode where
  | bare
  | quotes
  | document
  | braces (quoted : Bool)
  | arithmetic (depth : Nat)
  deriving Repr, DecidableEq

def Mode.isQuoted : Mode → Bool
  | .bare => false
  | .quotes | .document | .arithmetic _ => true
  | .braces quoted => quoted

def Mode.escapes (mode : Mode) (c : Char) : Bool :=
  let common := c == '$' || c == '\x60' || c == '\\'
  match mode with
  | .bare | .braces false => true
  | .quotes | .arithmetic _ => common || c == '"'
  | .document => common
  | .braces true => common || c == '"' || c == '\x7d'

/-- The name of a parameter between braces, whether its length is asked for, and how many characters
it takes. -/
def bracedName? (rest : Octets) : Option (Octets × Bool × Nat) :=
  let named (text : Octets) : Option Octets := match text with
    | [] => none
    | c :: more =>
      if isNameStart c then some (c :: more.takeWhile isNameChar)
      else if c.isDigit then some (c :: more.takeWhile Char.isDigit)
      else none
  match rest with
  | '#' :: c :: more =>
    match named (c :: more) with
    | some name => some (name, true, name.length + 1)
    | none =>
      if isSpecialParameter c && more.head? = some '\x7d' then some ([c], true, 2)
      else some (['#'], false, 1)
  | rest =>
    match named rest with
    | some name => some (name, false, name.length)
    | none =>
      match rest with
      | c :: _ => if isSpecialParameter c then some ([c], false, 1) else none
      | [] => none

/-- What follows the name of a parameter between braces, and how many characters it takes. -/
def formOf (rest : Octets) : Form × Nat :=
  let operator? (orEmpty : Bool) (c : Char) : Option Form := match c with
    | '-' => some (.fallback orEmpty)
    | '=' => some (.assign orEmpty)
    | '?' => some (.demand orEmpty)
    | '+' => some (.alternative orEmpty)
    | _ => none
  match rest with
  | '\x7d' :: _ => (.plain, 0)
  | '#' :: '#' :: _ => (.trim false true, 2)
  | '#' :: _ => (.trim false false, 1)
  | '%' :: '%' :: _ => (.trim true true, 2)
  | '%' :: _ => (.trim true false, 1)
  | ':' :: c :: _ =>
    match operator? true c with
    | some form => (form, 2)
    | none => (.invalid, 0)
  | c :: _ =>
    match operator? false c with
    | some form => (form, 1)
    | none => (.invalid, 0)
  | [] => (.invalid, 0)

/-- The lines up to a mark: their text, and the number of characters with the mark. -/
def documentLines (pending : Pending) : Nat → Octets → Octets × Nat
  | 0, _ => ([], 0)
  | fuel + 1, text =>
    let line := text.takeWhile (· ≠ '\n')
    let shown := if pending.stripTabs then line.dropWhile (· == '\t') else line
    if text.isEmpty then ([], 0)
    else if shown = pending.mark then ([], min text.length (line.length + 1))
    else
      let ended := line.length < text.length
      let (more, length) := documentLines pending fuel (text.drop (line.length + 1))
      (shown ++ (if ended then ['\n'] else []) ++ more, min text.length (line.length + 1) + length)

end Dialect.Shell
