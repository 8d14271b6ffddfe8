import Dialect.Code.Line
import Dialect.Code.TopLevel
import Mathlib.Tactic.SplitIfs

/-! What is code. `lex` gives each character of a text its role, one character at a time with the following ones as
lookahead. The reading of a line and the search for a top-level sign take several characters at once and know nothing
of each other; both are measured by these roles. -/
namespace Dialect

/-- What a character is part of. -/
inductive Role where
  | code
  | delimiter
  | body
  | comment
  deriving Repr, DecidableEq

/-- What the characters read so far have opened. -/
inductive Mode where
  | code
  | comment
  | quoted
  | escaped
  /-- Before the second apostrophe that opens a raw string. -/
  | rawOpening
  | raw
  /-- Before the second apostrophe that closes a raw string. -/
  | rawClosing
  /-- Before the last two characters of an escape in a raw string. -/
  | rawEscape
  /-- Before the last character of an escape in a raw string. -/
  | rawEscaped
  deriving Repr, DecidableEq

namespace Mode

def inRaw : Mode → Bool
  | .rawOpening | .raw | .rawEscape | .rawEscaped => true
  | _ => false

/-- The third character of an escape in a raw string. -/
def escapes (c : Char) : Bool := c == '\'' || c == '$' || c == '\\'

/-- The role of `c`, which `rest` follows, and the mode after it. -/
def step (mode : Mode) (c : Char) (rest : List Char) : Role × Mode :=
  match mode with
  | .code =>
    if c = '"' then (.delimiter, .quoted)
    else if c = '\'' ∧ rest.head? = some '\'' then (.delimiter, .rawOpening)
    else if c = commentMarker then (.comment, .comment)
    else (.code, .code)
  | .comment => if c = '\n' then (.code, .code) else (.comment, .comment)
  | .quoted =>
    if c = '\\' then (.body, .escaped)
    else if c = '"' then (.delimiter, .code)
    else (.body, .quoted)
  | .escaped => (.body, .quoted)
  | .rawOpening => (.delimiter, .raw)
  | .raw =>
    if c = '\'' ∧ rest.head? = some '\'' then
      if rest.tail.head?.any escapes then (.body, .rawEscape) else (.delimiter, .rawClosing)
    else (.body, .raw)
  | .rawClosing => (.delimiter, .code)
  | .rawEscape => (.body, .rawEscaped)
  | .rawEscaped => (.body, .raw)

end Mode

/-- A character with its role. -/
structure Lexeme where
  char : Char
  role : Role
  deriving Repr, DecidableEq

/-- What a reader of the code sees: string bodies are blank. -/
def Lexeme.visible (l : Lexeme) : Char := if l.role = .body then ' ' else l.char

/-- The roles of all characters of a text that starts in `mode`. -/
def lex (mode : Mode) : List Char → List Lexeme
  | [] => []
  | c :: rest => ⟨c, (mode.step c rest).1⟩ :: lex (mode.step c rest).2 rest

/-- The mode after the whole text. -/
def modeAfter (mode : Mode) : List Char → Mode
  | [] => mode
  | c :: rest => modeAfter (mode.step c rest).2 rest

/-- The search by the roles of the characters. -/
def topLevelFrom (target : Target) (depth index : Nat) : List Lexeme → Option Nat
  | [] => none
  | ⟨c, role⟩ :: rest =>
    if role ≠ .code then topLevelFrom target depth (index + 1) rest
    else if isOpener c then topLevelFrom target (depth + 1) (index + 1) rest
    else if isCloser c then
      match depth with
      | 0 => none
      | depth + 1 => topLevelFrom target depth (index + 1) rest
    else if c = '=' ∧ target = .equals ∧ depth = 0 then
      match rest with
      | [] => some index
      | next :: further =>
        if next.char = '=' then topLevelFrom target depth (index + 2) further else some index
    else if c = ';' ∧ depth = 0 then
      if target = .terminator then some index else none
    else topLevelFrom target depth (index + 1) rest

/-- What the search does at a lexeme. -/
inductive Move where
  | pass (depth : Nat)
  | fail
  | hit
  | sign
  deriving DecidableEq

def move (target : Target) (depth : Nat) (lexeme : Lexeme) : Move :=
  if lexeme.role ≠ .code then .pass depth
  else if isOpener lexeme.char then .pass (depth + 1)
  else if isCloser lexeme.char then
    match depth with
    | 0 => .fail
    | depth + 1 => .pass depth
  else if lexeme.char = '=' ∧ target = .equals ∧ depth = 0 then .sign
  else if lexeme.char = ';' ∧ depth = 0 then if target = .terminator then .hit else .fail
  else .pass depth

section Search

variable {target : Target} {depth index : Nat}

theorem topLevelFrom_cons (lexeme : Lexeme) (rest : List Lexeme) :
    topLevelFrom target depth index (lexeme :: rest) =
      match move target depth lexeme with
      | .pass depth => topLevelFrom target depth (index + 1) rest
      | .fail => none
      | .hit => some index
      | .sign =>
        match rest with
        | [] => some index
        | next :: further =>
          if next.char = '=' then topLevelFrom target depth (index + 2) further else some index := by
  rw [topLevelFrom.eq_def, move.eq_def]
  simp only
  split_ifs
  all_goals first
    | rfl
    | cases depth <;> rfl

theorem topLevelFrom_sign {text : List Char} (single : text.head? ≠ some '=') (mode : Mode) :
    topLevelFrom .equals 0 index (⟨'=', .code⟩ :: lex mode text) = some index := by
  have sign : move .equals 0 ⟨'=', .code⟩ = .sign := by decide
  rw [topLevelFrom_cons, sign]
  cases text with
  | nil => rfl
  | cons c text =>
    have other : c ≠ '=' := by simpa using single
    simp [lex, other]

theorem topLevelFrom_pair (mode : Mode) (text : List Char) :
    topLevelFrom .equals 0 index (⟨'=', .code⟩ :: lex mode ('=' :: text)) =
      topLevelFrom .equals 0 (index + 2) (lex (mode.step '=' text).2 text) := by
  have sign : move .equals 0 ⟨'=', .code⟩ = .sign := by decide
  rw [topLevelFrom_cons, sign]
  simp [lex]

end Search

namespace CodeLine

/-- The mode in which a line starts. -/
def entry (raw : Bool) : Mode := if raw then .raw else .code

/-- What is visible of a line before its comment. -/
def visible (mode : Mode) (line : List Char) : List Char :=
  ((lex mode line).takeWhile (·.role ≠ .comment)).map Lexeme.visible

end CodeLine

end Dialect
