import Dialect.Cli.FileSystem
import Dialect.Proofs.Text.Utf8

/-! What the program relies on when it rewrites a file. A file that can be read can be written, and then only what it
holds changes: where paths lead stays, and so do all other files. Files that hold nothing need not keep what is written
to them; the null device does not. -/
namespace Dialect.Cli.FileSystem

variable {State File : Type} [FileSystem State File]

structure Laws (State : Type) {File : Type} [FileSystem State File] : Prop where
  writable {state : State} {path : String} {file : File} {old : Bytes} (led : target state path = .ok file)
    (held : read state file = .ok old) (bytes : Bytes) : ∃ state', write state file bytes = .ok state'
  target_write {state state' : State} {file : File} {bytes : Bytes} (written : write state file bytes = .ok state')
    (path : String) : target state' path = target state path
  read_write {state state' : State} {path : String} {file : File} {old bytes : Bytes}
    (led : target state path = .ok file) (held : read state file = .ok old) (filled : old ≠ [])
    (written : write state file bytes = .ok state') : read state' file = .ok bytes
  read_write_other {state state' : State} {file other : File} {bytes : Bytes}
    (written : write state file bytes = .ok state') (apart : other ≠ file) : read state' other = read state other

variable {state state' : State} {path other : String} {bytes old : Bytes}

theorem readPath_eq_ok_iff :
    readPath state path = .ok bytes ↔ ∃ file, target state path = .ok file ∧ read state file = .ok bytes := by
  rw [readPath]
  cases target state path <;> simp [bind, Except.bind]

theorem writePath_eq_ok_iff :
    writePath state path bytes = .ok state' ↔ ∃ file, target state path = .ok file ∧ write state file bytes = .ok state' := by
  rw [writePath]
  cases target state path <;> simp [bind, Except.bind]

theorem readPath_congr (same : target state other = target state path) : readPath state other = readPath state path := by
  rw [readPath, readPath, same]

theorem readText_congr (same : target state other = target state path) : readText state other = readText state path := by
  rw [readText, readText, readPath_congr same]

/-- What a file holds is its text, encoded. -/
theorem readText_eq_ok_iff {source : List Char} :
    readText state path = .ok source ↔ readPath state path = .ok (Utf8.encode source) := by
  rw [readText]
  cases readPath state path with
  | error reason => simp [bind, Except.bind]
  | ok bytes =>
    simp only [bind, Except.bind, Except.ok.injEq, ← Utf8.decode_eq_ok_iff]
    cases Utf8.decode bytes <;> simp [pure, Except.pure, throw, throwThe, MonadExceptOf.throw]

namespace Laws

theorem exists_writePath (laws : Laws State) (held : readPath state path = .ok old) (bytes : Bytes) :
    ∃ state', writePath state path bytes = .ok state' := by
  obtain ⟨file, led, held⟩ := readPath_eq_ok_iff.mp held
  obtain ⟨state', written⟩ := laws.writable led held bytes
  exact ⟨state', writePath_eq_ok_iff.mpr ⟨file, led, written⟩⟩

theorem target_writePath (laws : Laws State) (written : writePath state path bytes = .ok state') (other : String) :
    target state' other = target state other := by
  obtain ⟨file, _, written⟩ := writePath_eq_ok_iff.mp written
  exact laws.target_write written other

theorem readPath_writePath (laws : Laws State) (held : readPath state path = .ok old) (filled : old ≠ [])
    (written : writePath state path bytes = .ok state') : readPath state' path = .ok bytes := by
  obtain ⟨file, led, held⟩ := readPath_eq_ok_iff.mp held
  obtain ⟨file', led', written'⟩ := writePath_eq_ok_iff.mp written
  obtain rfl : file = file' := Except.ok.inj (led.symm.trans led')
  refine readPath_eq_ok_iff.mpr ⟨file, ?_, laws.read_write led held filled written'⟩
  rw [laws.target_writePath written, led]

theorem readPath_writePath_other (laws : Laws State) (written : writePath state path bytes = .ok state')
    (apart : target state other ≠ target state path) : readPath state' other = readPath state other := by
  obtain ⟨file, led, written'⟩ := writePath_eq_ok_iff.mp written
  rw [readPath, readPath, laws.target_writePath written]
  cases lead : target state other with
  | error reason => rfl
  | ok file' =>
    have different : file' ≠ file := by
      rintro rfl
      exact apart (lead.trans led.symm)
    exact laws.read_write_other written' different

end Laws

end Dialect.Cli.FileSystem
