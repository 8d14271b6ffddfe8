import Dialect.Text.Blank

/-! Command lines of the host tools. -/
namespace Dialect

/-- A program and its arguments. Its input always comes from standard input. -/
structure Command where
  program : String
  args : List String := []
  deriving Repr, DecidableEq

namespace Command

def display (command : Command) : String := String.intercalate " " (command.program :: command.args)

/-- Reads a command line: words between blanks, the first of which is the program. -/
def ofText? (text : List Char) : Option Command :=
  match (blankSeparated text).map String.ofList with
  | [] => none
  | program :: args => some ⟨program, args⟩

def defaultFormatter : Command := ⟨"nixfmt", []⟩

/-- The parser used when none is configured: it parses and never evaluates. -/
def defaultParser : Command := ⟨"nix-instantiate", ["--parse", "-"]⟩

end Command

end Dialect
