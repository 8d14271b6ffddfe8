import Dialect.Filter.Octet

/-! Shell scripts as data: words with what is expanded in them, redirections and commands. -/
namespace Dialect.Shell

open Dialect.Filter (Octets)

/-- How the value of a parameter is used. Those with `orEmpty` treat an empty value like none. -/
inductive Form where
  | plain
  | length
  | fallback (orEmpty : Bool)
  | assign (orEmpty : Bool)
  /-- The word is the message of a failure, if there is no value. -/
  | demand (orEmpty : Bool)
  | alternative (orEmpty : Bool)
  /-- Without the shortest or longest stretch at one end that the word matches. -/
  | trim (atEnd longest : Bool)
  | invalid
  deriving Repr, DecidableEq

inductive Access where
  | read | write
  deriving Repr, DecidableEq

mutual

/-- A part of a word. What is quoted is not split at blanks. -/
inductive Part where
  | literal (text : Octets) (quoted : Bool)
  | parameter (name : Octets) (form : Form) (word : List Part) (quoted : Bool)
  | output (command : Command) (quoted : Bool)
  | arithmetic (expression : List Part) (quoted : Bool)

inductive Redirect where
  | file (fd : Nat) (access : Access) (target : List Part)
  | duplicate (fd : Nat) (target : List Part)
  /-- Reads the document with a number, which follows the line in the script. -/
  | document (fd : Nat) (number : Nat)

inductive Command where
  | empty
  | simple (line : Nat) (assignments : List (Octets × List Part)) (words : List (List Part))
      (redirects : List Redirect)
  | pipeline (negated : Bool) (stages : List Command)
  | sequence (first second : Command)
  /-- The second runs if the first succeeds, or, with `onFailure`, if it fails. -/
  | dependent (onFailure : Bool) (first second : Command)
  | background (command : Command)
  | apart (line : Nat) (command : Command)
  | redirected (line : Nat) (command : Command) (redirects : List Redirect)
  | branch (condition yes no : Command)
  | loop (awaits : Bool) (condition body : Command)
  /-- Repeats for each word, or for each argument if no words are given. -/
  | each (line : Nat) (name : Octets) (words : Option (List (List Part))) (body : Command)
  | choice (line : Nat) (word : List Part) (cases : List (List (List Part) × Command))
  | define (line : Nat) (name : Octets) (body : Command)

end

instance : Inhabited Command := ⟨.empty⟩

/-- Text in front of parts, joined with a literal that is quoted in the same way. -/
def Part.consText (text : Octets) (quoted : Bool) (parts : List Part) : List Part :=
  match parts with
  | .literal more other :: rest =>
    if other = quoted then .literal (text ++ more) quoted :: rest else .literal text quoted :: parts
  | parts => .literal text quoted :: parts

/-- The text of a word in which nothing is quoted or expanded. -/
def bareText? : List Part → Option Octets
  | [] => some []
  | .literal text false :: rest => (bareText? rest).map (text ++ ·)
  | _ => none

/-- The text of a word as it stands, without what is expanded. -/
def literalText (word : List Part) : Octets :=
  word.flatMap fun
    | .literal text _ => text
    | _ => []

def Command.andThen : Command → Command → Command
  | .empty, second => second
  | first, second => .sequence first second

def isNameStart (c : Char) : Bool := c.isAlpha || c == '_'

def isNameChar (c : Char) : Bool := c.isAlphanum || c == '_'

def isName (text : Octets) : Bool := text.head?.any isNameStart && text.all isNameChar

/-- A word that sets a variable: its name and the rest of the word. -/
def assignment? (word : List Part) : Option (Octets × List Part) :=
  match word with
  | .literal text false :: rest =>
    let name := text.takeWhile isNameChar
    if isName name && text[name.length]? = some '=' then
      let value := text.drop (name.length + 1)
      some (name, if value.isEmpty then rest else .literal value false :: rest)
    else none
  | _ => none

end Dialect.Shell
