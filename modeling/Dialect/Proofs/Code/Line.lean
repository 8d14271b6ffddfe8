import Dialect.Code.Line
import Dialect.Proofs.Code.TopLevel
import Dialect.Proofs.Position.Table
import Dialect.Proofs.Text.Line

/-! Code lines stand on the lines of their document: line for line, and column for column up to the end of
the code. -/
namespace Dialect

/-- A closed line starts the stretch between newlines that has its number. -/
theorem closeLines_prefix {found : List (List Char)} {number : Nat} {line : List Char}
    (there : (closeLines found)[number]? = some line) : ∃ whole, found[number]? = some whole ∧ line <+: whole := by
  induction found using closeLines.induct generalizing number with
  | case1 => cases there
  | case2 last empty =>
    rw [closeLines, if_pos empty] at there
    cases there
  | case3 last filled =>
    rw [closeLines, if_neg filled] at there
    exact ⟨line, there, List.prefix_rfl⟩
  | case4 first rest more ih =>
    rw [closeLines.eq_3 _ _ more] at there
    cases number with
    | zero =>
      obtain rfl := Option.some.inj there
      obtain ⟨gap, _, split⟩ := exists_chopReturn_append_blank first
      exact ⟨first, rfl, gap, split⟩
    | succ number => exact ih there

/-- What code shows of a line: at most as many characters, each the one in its column or a blank. -/
structure Shows (code source : List Char) : Prop where
  length_le : code.length ≤ source.length
  char : ∀ {column : Nat} {c : Char}, code[column]? = some c → c ≠ ' ' → source[column]? = some c

theorem getElem?_of_start {part whole : List Char} (start : part <+: whole) {column : Nat} {c : Char}
    (here : part[column]? = some c) : whole[column]? = some c := by
  obtain ⟨rest, rfl⟩ := start
  rwa [List.getElem?_append_left (List.getElem?_eq_some_iff.mp here).1]

/-- Code that is cut off shows what it showed, also of a longer line. -/
theorem Shows.cut {code source code' source' : List Char} (whole : Shows code source) (part : code' <+: code)
    (longer : source <+: source') : Shows code' source' where
  length_le := Nat.le_trans part.length_le (Nat.le_trans whole.length_le longer.length_le)
  char here solid := getElem?_of_start longer (whole.char (getElem?_of_start part here) solid)

theorem shows_map_visible (lexemes : List Lexeme) : Shows (lexemes.map Lexeme.visible) (lexemes.map (·.char)) where
  length_le := by simp
  char {column c} here solid := by
    rw [List.getElem?_map] at here ⊢
    obtain ⟨lexeme, there, rfl⟩ := Option.map_eq_some_iff.mp here
    have code : lexeme.role ≠ .body := by
      intro body
      exact solid (if_pos body)
    rw [there, Lexeme.visible, if_neg code]
    rfl

namespace CodeLine

theorem shows_ofText (raw : Bool) (line : List Char) : Shows (ofText raw line).chars line := by
  obtain ⟨gap, _, trimmed⟩ := exists_trimEnd_append_blank (visible (entry raw) line)
  have read := (List.takeWhile_prefix (l := lex (entry raw) line) (·.role ≠ .comment)).map (·.char)
  rw [map_char_lex] at read
  rw [chars_ofText]
  exact (shows_map_visible _).cut ⟨gap, trimmed⟩ read

theorem shows_ofLines {raw : Bool} {found : List (List Char)} {number : Nat} {code : CodeLine}
    (there : (ofLines raw found)[number]? = some code) :
    ∃ line, found[number]? = some line ∧ Shows code.chars line := by
  induction found generalizing raw number with
  | nil => cases there
  | cons line rest ih =>
    cases number with
    | zero =>
      obtain rfl := Option.some.inj there
      exact ⟨line, rfl, shows_ofText raw line⟩
    | succ number => exact ih there

theorem shows_ofDocument {text : List Char} {number : Nat} {code : CodeLine}
    (there : (ofDocument text)[number]? = some code) :
    ∃ line, lineAt? text number = some line ∧ Shows code.chars line := by
  obtain ⟨closed, found, part⟩ := shows_ofLines there
  obtain ⟨line, whole, start⟩ := closeLines_prefix found
  exact ⟨line, (lineAt?_eq text number).trans whole, part.cut List.prefix_rfl start⟩

end CodeLine

end Dialect
