import Dialect.Host.Command
import Dialect.Value

/-! Settings, and how they are read from the structured values that a client sends. -/
namespace Dialect

/-- Reads a command: by field names, or by position. The program is required. -/
def Command.ofValue? : Value → Option Command
  | .object fields => do
    let program ← (← fields.lookup "command").string?
    return ⟨program, ← Value.read? Value.strings? [] (fields.lookup "args")⟩
  | .list [program] => do return ⟨← program.string?, []⟩
  | .list [program, args] => do return ⟨← program.string?, ← args.strings?⟩
  | _ => none

structure Settings where
  formatter : Command := .defaultFormatter
  parser : Command := .defaultParser
  /-- Milliseconds between the last edit and the check by the host parser. -/
  debounce : Nat := 500
  deriving Repr, DecidableEq

namespace Settings

/-- Reads settings: by field names, or by position. What is left out keeps its default. -/
def ofValue? : Value → Option Settings
  | .object fields => do
    return ⟨← Value.read? Command.ofValue? .defaultFormatter (fields.lookup "formatter"),
      ← Value.read? Command.ofValue? .defaultParser (fields.lookup "parser"),
      ← Value.read? Value.delay? 500 (fields.lookup "debounceMs")⟩
  | .list items =>
    if 3 < items.length then none
    else do
      return ⟨← Value.read? Command.ofValue? .defaultFormatter items[0]?,
        ← Value.read? Command.ofValue? .defaultParser items[1]?,
        ← Value.read? Value.delay? 500 items[2]?⟩
  | _ => none

/-- Takes over settings that can be read and keeps the present ones otherwise. -/
def update (settings : Settings) (value : Value) : Settings := (ofValue? value).getD settings

/-- Takes over the settings in a change notice. They may stand under the project's own key; null
changes nothing. -/
def change (settings : Settings) (value : Value) : Settings :=
  let own := match value with
    | .object fields => (fields.lookup "znix").getD value
    | other => other
  match own with
  | .null => settings
  | own => settings.update own

end Settings

end Dialect
