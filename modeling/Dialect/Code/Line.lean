import Dialect.Text.Blank
import Dialect.Text.Line
import Dialect.Text.Search
import Dialect.Vocabulary

/-! A line reduced to its code: comments are cut off, string bodies blanked, and every character
that is left keeps its column. Only a raw string goes on over the end of a line. -/
namespace Dialect

/-- What a line shows from some character on, and whether it ends inside a raw string or inside `"…"`. -/
structure LineReading where
  chars : List Char
  raw : Bool
  quoted : Bool
  deriving Repr, DecidableEq

def LineReading.behind (shown : List Char) (reading : LineReading) : LineReading :=
  { reading with chars := shown ++ reading.chars }

/-- Reads a line on inside a raw string, inside `"…"` or in code, up to its comment. -/
def readLine (raw quoted : Bool) : List Char → LineReading
  | [] => ⟨[], raw, quoted⟩
  | c :: rest =>
    if raw then
      if c = '\'' ∧ rest.head? = some '\'' then
        match rest with
        | _ :: third :: further =>
          -- `'''`, `''$` and `''\` stand for characters of the string
          if third = '\'' ∨ third = '$' ∨ third = '\\' then
            (readLine raw quoted further).behind [' ', ' ', ' ']
          else (readLine false quoted (third :: further)).behind rawDelimiter
        | _ => ⟨rawDelimiter, false, quoted⟩
      else (readLine raw quoted rest).behind [' ']
    else if quoted then
      if c = '\\' then
        match rest with
        | [] => ⟨[' '], raw, quoted⟩
        | _ :: further => (readLine raw quoted further).behind [' ', ' ']
      else if c = '"' then (readLine raw false rest).behind ['"']
      else (readLine raw quoted rest).behind [' ']
    else if c = commentMarker then ⟨[], raw, quoted⟩
    else if c = '"' then (readLine raw true rest).behind ['"']
    else if c = '\'' ∧ rest.head? = some '\'' then
      match rest with
      | [] => ⟨[c], raw, quoted⟩
      | _ :: further => (readLine true quoted further).behind rawDelimiter
    else (readLine raw quoted rest).behind [c]

@[ext]
structure CodeLine where
  chars : List Char
  startsRaw : Bool
  endsRaw : Bool
  deriving Repr, DecidableEq

namespace CodeLine

/-- Comments are cut off, and so are the blanks before them. -/
def ofText (raw : Bool) (line : List Char) : CodeLine :=
  ⟨trimEnd (readLine raw false line).chars, raw, (readLine raw false line).raw⟩

/-- The code lines of consecutive lines, the first of which starts inside a raw string or not. -/
def ofLines (raw : Bool) : List (List Char) → List CodeLine
  | [] => []
  | line :: rest => ofText raw line :: ofLines (ofText raw line).endsRaw rest

def ofDocument (text : List Char) : List CodeLine := ofLines false (lines text)

def isBlank (line : CodeLine) : Bool := isBlankText line.chars

/-- The column of the first character that is not blank. -/
def firstColumn? (line : CodeLine) : Option Nat := line.chars.findIdx? (fun c => !Dialect.isBlank c)

def trimmed (line : CodeLine) : List Char := trim line.chars

def wordAt? (line : CodeLine) (column : Nat) : Option (List Char) :=
  leadingWord? (line.chars.drop column)

def endsWithAny (line : CodeLine) (endings : List (List Char)) : Bool :=
  endings.any (fun ending => endsWith ending line.chars)

end CodeLine

end Dialect
