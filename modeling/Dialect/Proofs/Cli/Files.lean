import Dialect.Cli.Files
import Dialect.Proofs.Cli.FileSystem
import Mathlib.Data.List.Basic

/-! Files in memory are a file system of the kind that the program relies on. -/
namespace Dialect.Cli

namespace Files

section Paths

variable {files files' : Files}

/-- Where paths lead depends on which names the entries have, and on the faults. -/
structure SameNames (files files' : Files) : Prop where
  lookup : ∀ name, files'.lookup name = files.lookup name
  isSome : ∀ name, (files'.entries.lookup name).isSome = (files.entries.lookup name).isSome
  faults : files'.faults = files.faults

theorem SameNames.enter (same : SameNames files files') (place : Place) (step : String) :
    files'.enter place step = files.enter place step := by
  simp only [Files.enter, same.lookup]

theorem SameNames.follow (same : SameNames files files') (target : Target) (steps : List String) :
    files'.follow target steps = files.follow target steps := by
  induction steps generalizing target with
  | nil => simp only [Files.follow]
  | cons step rest ih =>
    cases target with
    | directory place => simp only [Files.follow, same.enter, ih]
    | file name | void => simp only [Files.follow]

theorem SameNames.target (same : SameNames files files') (path : String) : files'.target path = files.target path := by
  simp only [Files.target, same.isSome, same.faults, same.follow]

/-- A file that a path leads to is there. -/
theorem isSome_of_lookup {name key : String} (found : files.lookup key = .ok (.file name)) :
    (files.entries.lookup name).isSome = true := by
  rw [Files.lookup] at found
  split at found
  · next there =>
    cases found
    exact there
  · split at found <;> cases found

theorem isSome_of_enter {place : Place} {step name : String} (entered : files.enter place step = .ok (.file name)) :
    (files.entries.lookup name).isSome = true := by
  rw [Files.enter.eq_def] at entered
  split at entered
  · cases entered
  split at entered
  · cases entered
  split at entered
  · cases entered
  split at entered
  · exact isSome_of_lookup entered
  · split at entered <;> cases entered
  · split at entered <;> cases entered
  · cases entered
  · cases entered

theorem isSome_of_follow {target : Target} {steps : List String} {name : String}
    (start : ∀ name, target = .file name → (files.entries.lookup name).isSome = true)
    (led : files.follow target steps = .ok (.file name)) : (files.entries.lookup name).isSome = true := by
  induction steps generalizing target with
  | nil =>
    rw [Files.follow] at led
    cases led
    exact start name rfl
  | cons step rest ih =>
    cases target with
    | directory place =>
      rw [Files.follow] at led
      split at led
      · next entered =>
        refine ih ?_ led
        rintro name rfl
        exact isSome_of_enter entered
      · cases led
    | file _ | void => cases led

theorem isSome_of_target {path name : String} (led : files.target path = .ok (.file name)) :
    (files.entries.lookup name).isSome = true := by
  rw [Files.target] at led
  split at led
  · next there =>
    cases led
    exact there
  · split at led
    · cases led
    · split at led
      · cases led
      · exact isSome_of_follow (fun name none => by cases none) led

end Paths

section Write

variable {files : Files} {path : String} {bytes : Bytes}

theorem lookup_rewritten (entries : List (String × Bytes)) (name key : String) (bytes : Bytes) :
    (entries.map fun entry => if entry.1 = name then (entry.1, bytes) else entry).lookup key =
      (entries.lookup key).map fun old => if key = name then bytes else old := by
  induction entries with
  | nil => rfl
  | cons entry rest ih =>
    obtain ⟨own, old⟩ := entry
    have kept : (if own = name then (own, bytes) else (own, old)) = (own, if own = name then bytes else old) := by
      split <;> rfl
    rw [List.map_cons, kept, List.lookup_cons, List.lookup_cons]
    cases here : key == own with
    | true =>
      obtain rfl := beq_iff_eq.mp here
      rfl
    | false => exact ih

theorem sameNames_rewritten (files : Files) (name : String) (bytes : Bytes) :
    SameNames files { files with
      entries := files.entries.map fun entry => if entry.1 = name then (entry.1, bytes) else entry } := by
  have isSome (key : String) : ((files.entries.map fun entry =>
      if entry.1 = name then (entry.1, bytes) else entry).lookup key).isSome = (files.entries.lookup key).isSome := by
    rw [lookup_rewritten, Option.isSome_map]
  refine ⟨fun key => ?_, isSome, rfl⟩
  have under : ((files.entries.map fun entry => if entry.1 = name then (entry.1, bytes) else entry).any
      fun entry => entry.1.startsWith (key ++ "/")) =
        files.entries.any fun entry => entry.1.startsWith (key ++ "/") := by
    rw [List.any_map]
    congr 1
    funext entry
    simp only [Function.comp_apply]
    split <;> rfl
  simp only [Files.lookup, isSome, under]

theorem mapError_eq_ok_iff {α : Type} {x : Except ReadError α} {a : α} :
    x.mapError ReadError.message = .ok a ↔ x = .ok a := by
  cases x <;> simp [Except.mapError]

theorem target_write {files' : Files} {target : Target} (written : files.write target bytes = .ok files')
    (path : String) : files'.target path = files.target path := by
  cases target with
  | directory place => cases written
  | void =>
    cases written
    rfl
  | file name =>
    cases written
    exact (sameNames_rewritten files name bytes).target path

theorem read_write {files' : Files} {target : Target} {old : Bytes} (led : files.target path = .ok target)
    (held : files.read target = .ok old) (filled : old ≠ []) (written : files.write target bytes = .ok files') :
    files'.read target = .ok bytes := by
  cases target with
  | directory place => cases written
  | void =>
    cases held
    exact absurd rfl filled
  | file name =>
    cases written
    obtain ⟨before, there⟩ := Option.isSome_iff_exists.mp (isSome_of_target led)
    simp [Files.read, lookup_rewritten, there]

theorem read_write_other {files' : Files} {target other : Target} (written : files.write target bytes = .ok files')
    (apart : other ≠ target) : files'.read other = files.read other := by
  cases other with
  | directory place => rfl
  | void => rfl
  | file key =>
    cases target with
    | directory place => cases written
    | void =>
      cases written
      rfl
    | file name =>
      cases written
      have different : key ≠ name := by
        rintro rfl
        exact apart rfl
      simp [Files.read, lookup_rewritten, different]

theorem writable {target : Target} {old : Bytes} (held : files.read target = .ok old) (bytes : Bytes) :
    ∃ files', files.write target bytes = .ok files' := by
  cases target with
  | directory place => cases held
  | void | file name => exact ⟨_, rfl⟩

end Write

theorem laws : FileSystem.Laws Files where
  writable _ held bytes := by
    obtain ⟨files', written⟩ := writable (mapError_eq_ok_iff.mp held) bytes
    exact ⟨files', mapError_eq_ok_iff.mpr written⟩
  target_write written path := congrArg (·.mapError ReadError.message) (target_write (mapError_eq_ok_iff.mp written) path)
  read_write led held filled written := mapError_eq_ok_iff.mpr
    (read_write (mapError_eq_ok_iff.mp led) (mapError_eq_ok_iff.mp held) filled (mapError_eq_ok_iff.mp written))
  read_write_other written apart :=
    congrArg (·.mapError ReadError.message) (read_write_other (mapError_eq_ok_iff.mp written) apart)

end Files

end Dialect.Cli
