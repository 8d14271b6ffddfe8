import Dialect.Code.Line
import Dialect.Diagnostic

/-! The shape of statements, line by line: an attribute statement has an `=` and ends in `;` unless
it opens a nested value, and a closing brace is followed by something that can follow a value. -/
namespace Dialect

/-- Endings of a line without `=` that open a nested value or a function body. -/
def openingEndings : List (List Char) := [['{'], ['['], ['('], rawDelimiter, [':']]

def statementEndings : List (List Char) := [[';'], ['{'], ['['], ['('], rawDelimiter, ['=']]

/-- What the line after a closing brace may start with. -/
def braceFollowers : List (List Char) :=
  [[';'], [','], [')'], [']'], ['}'], [':'], ['/', '/'], ['.']]

namespace CodeLine

/-- A keyword at the end of the line announces an expression. -/
def endsWithContinuation (line : CodeLine) : Bool :=
  continuationKeywords.contains ((line.trimmed.reverse.takeWhile isIdentChar).reverse)

/-- The next line gives a value or an expression. -/
def expectsValue (line : CodeLine) : Bool :=
  endsWith ['='] line.chars || line.endsWithContinuation

/-- The line can follow a closing brace that ends the line before it. -/
def startsContinuation (line : CodeLine) : Bool :=
  match line.firstColumn? with
  | none => true
  | some first =>
    braceFollowers.any (fun follower => startsWith follower (line.chars.drop first)) ||
      (line.wordAt? first).any (continuationKeywords.contains ·)

/-- Lines that are no attribute statements, by what they start with. -/
def isExempt (line : CodeLine) (first : Nat) : Bool :=
  match line.chars[first]? with
  | none => true
  | some lead =>
    isCloser lead || lead == ';' || (line.wordAt? first).any (controlKeywords.contains ·) ||
      (lead == '(' && (line.wordAt? (first + 1)).any (structuralKeywords.contains ·))

end CodeLine

/-- Words glued to a closing brace. In `f { } arg` the brace ends an argument, so only a word right
after the brace counts. -/
def gluedWords (line : Nat) (code : CodeLine) (arrayClosers : List Nat) : List Finding :=
  code.chars.zipIdx.filterMap fun (c, column) =>
    if c = '}' ∧ ¬ arrayClosers.contains column then
      ((code.wordAt? (column + 1)).filter (fun word => !continuationKeywords.contains word)).map
        fun word => ⟨.wordAfterBrace word, .onLine line column 1⟩
    else none

/-- A closing brace at the end of the line, with nothing after it that could go on. -/
def openEnd (line : Nat) (code : CodeLine) (rest : List CodeLine) (arrayClosers : List Nat) :
    List Finding :=
  let column := code.chars.length - 1
  if endsWith ['}'] code.chars ∧ ¬ arrayClosers.contains column then
    match rest.find? (fun next => !next.isBlank) with
    | some next =>
      if next.startsContinuation then [] else [⟨.unterminatedBrace, .onLine line column 1⟩]
    | none => []
  else []

def checkStatement (line : Nat) (code : CodeLine) (expectsValue : Bool) : List Finding :=
  match code.firstColumn? with
  | none => []
  | some first =>
    if expectsValue || code.isExempt first then []
    else
      let range := Range.onLine line first code.trimmed.length
      if code.chars.contains '=' then
        if code.endsWithAny statementEndings then [] else [⟨.missingTerminator, range⟩]
      else if code.endsWithAny openingEndings then [] else [⟨.missingEquals, range⟩]

end Dialect
