/-! Two notions of line. `splitLines` cuts at every newline and keeps all else, so it is exact about
positions; `lines` is what a reader of the text sees: no line after a final newline, and no carriage
return before a newline. -/
namespace Dialect

/-- The stretches between newlines; one more than there are newlines. -/
def splitLines (text : List Char) : List (List Char) :=
  text.foldr
    (fun c (found : List (List Char)) =>
      if c = '\n' then [] :: found
      else match found with
        | [] => [[c]]
        | line :: rest => (c :: line) :: rest)
    [[]]

def chopReturn (line : List Char) : List Char :=
  if line.getLast? = some '\r' then line.dropLast else line

/-- Ends each stretch that a newline closed, and forgets an empty last one. -/
def closeLines : List (List Char) → List (List Char)
  | [] => []
  | [last] => if last.isEmpty then [] else [last]
  | line :: rest => chopReturn line :: closeLines rest

/-- The lines of `text`: a final newline opens no further line. -/
def lines (text : List Char) : List (List Char) := closeLines (splitLines text)

/-- What stands on the same line before a place, given all that stands before it. -/
def lineBefore (before : List Char) : List Char :=
  (before.reverse.takeWhile (· ≠ '\n')).reverse

end Dialect
