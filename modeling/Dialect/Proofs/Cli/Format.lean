import Dialect.Cli.Run
import Dialect.Proofs.Cli.Files
import Dialect.Proofs.Host.Format

/-! Formatting files one after the other, on any file system. Each path that comes up has its turn on the files as the
turns before it have left them: its file gets the result of its own text or stays, and all other files stay. The run
ends before the first path that cannot be read. -/
namespace Dialect.Cli

open FileSystem

section Relations

variable {State File : Type} [FileSystem State File]

/-- The file of a path holds `formatted`, and nothing else has changed. -/
structure Rewritten (path : String) (formatted : List Char) (files files' : State) : Prop where
  own : readPath files' path = .ok (Utf8.encode formatted)
  others : ∀ other, target files other ≠ target files path → readPath files' other = readPath files other
  target : ∀ other, target files' other = target files other

/-- The turn of a path, by what the launcher does with the mask of its text, and the result of the turn. -/
inductive Turn (launch : Launcher) (formatter : Command) (write : Bool) (path : String) (files : State) :
    State → Option (List Char) → Prop where
  | printed {source formatted : List Char} (read : readText files path = .ok source)
    (formats : Formats launch formatter source formatted) (prints : write = false) :
    Turn launch formatter write path files files (some formatted)
  | written {source formatted : List Char} {files' : State} (read : readText files path = .ok source)
    (formats : Formats launch formatter source formatted) (writes : write = true)
    (rewritten : Rewritten path formatted files files') : Turn launch formatter write path files files' (some formatted)
  | failed {source : List Char} {failure : Failure} (read : readText files path = .ok source)
    (fails : FormatFails launch formatter source failure) : Turn launch formatter write path files files none

/-- How far a run goes: `before index` are the files that the path with this number finds, and `results` are those of
the paths that had their turn. -/
structure Progress (launch : Launcher) (formatter : Command) (write : Bool) (files : State) (paths : List String)
    (before : Nat → State) (results : List (Option (List Char))) : Prop where
  start : before 0 = files
  inside : results.length ≤ paths.length
  turn : ∀ index path result, paths[index]? = some path → results[index]? = some result →
    Turn launch formatter write path (before index) (before (index + 1)) result
  stop : ∀ path, paths[results.length]? = some path → ∃ reason, readText (before results.length) path = .error reason

/-- What a path reads is the result of a turn before the one with this number, on the text that the file had then; the
path of that turn leads to the same file. -/
def HoldsResult (launch : Launcher) (formatter : Command) (files : State) (paths : List String)
    (before : Nat → State) (index : Nat) (path : String) (files' : State) : Prop :=
  ∃ earlier own source formatted, earlier < index ∧ paths[earlier]? = some own ∧
    target files own = target files path ∧ readText (before earlier) path = .ok source ∧
    Formats launch formatter source formatted ∧ readPath files' path = .ok (Utf8.encode formatted)

end Relations

section Turn

variable {State File : Type} [FileSystem State File] {launch : Launcher} {formatter : Command} {write : Bool}
  {path : String} {files files' : State}

theorem Turn.target_eq {result : Option (List Char)} (turn : Turn launch formatter write path files files' result)
    (other : String) : target files' other = target files other := by
  cases turn with
  | printed | failed => rfl
  | written _ _ _ rewritten => exact rewritten.target other

theorem Rewritten.same {source : List Char} (read : readText files path = .ok source) :
    Rewritten path source files files where
  own := readText_eq_ok_iff.mp read
  others _ _ := rfl
  target _ := rfl

theorem Rewritten.of_writePath (laws : Laws State) {source formatted : List Char}
    (read : readText files path = .ok source) (filled : source ≠ [])
    (written : writePath files path (Utf8.encode formatted) = .ok files') : Rewritten path formatted files files' where
  own := by
    have encoded : Utf8.encode source ≠ [] := by
      intro empty
      have decoded := Utf8.decode_encode source
      rw [empty] at decoded
      exact filled (Except.ok.inj decoded).symm
    exact laws.readPath_writePath (readText_eq_ok_iff.mp read) encoded written
  others _ apart := laws.readPath_writePath_other written apart
  target := laws.target_writePath written

/-- A result is always delivered: only documents that are not blank change, and what can be read can be written. -/
theorem exists_deliver (laws : Laws State) {console : Console State} {source formatted : List Char}
    (read : readText console.files path = .ok source) (formats : Formats launch formatter source formatted) :
    ∃ console', deliver write path source formatted console = .ok console' ∧
      Turn launch formatter write path console.files console'.files (some formatted) ∧
      console'.stdout = console.stdout ++ if write then [] else formatted := by
  rw [deliver]
  cases write with
  | false => exact ⟨_, rfl, .printed read formats rfl, rfl⟩
  | true =>
    by_cases same : formatted = source
    · subst same
      exact ⟨console, by simp, .written read formats rfl (.same read), by simp⟩
    · have visible := formats.visible same
      have filled : source ≠ [] := by
        rintro rfl
        cases visible
      obtain ⟨files', written⟩ := laws.exists_writePath (readText_eq_ok_iff.mp read) (Utf8.encode formatted)
      refine ⟨{ console with files := files' }.note s!"formatted {path}", ?_,
        .written read formats rfl (.of_writePath laws read filled written), by simp [Console.note]⟩
      rw [if_pos rfl, if_neg same, written]
      rfl

end Turn

namespace Progress

variable {State File : Type} [FileSystem State File] {launch : Launcher} {formatter : Command} {write : Bool}
  {files files' : State} {paths : List String} {path : String} {before : Nat → State}
  {results : List (Option (List Char))}

theorem nil (files : State) : Progress launch formatter write files [] (fun _ => files) [] where
  start := rfl
  inside := Nat.le_refl 0
  turn _ _ _ next := by cases next
  stop _ next := by cases next

theorem unreadable {reason : String} (failed : readText files path = .error reason) (rest : List String) :
    Progress launch formatter write files (path :: rest) (fun _ => files) [] where
  start := rfl
  inside := Nat.zero_le _
  turn _ _ _ _ result := by cases result
  stop other next := by
    obtain rfl : path = other := Option.some.inj next
    exact ⟨reason, failed⟩

theorem cons {result : Option (List Char)} (first : Turn launch formatter write path files files' result)
    (further : Progress launch formatter write files' paths before results) :
    Progress launch formatter write files (path :: paths) (fun index => index.casesOn files before)
      (result :: results) where
  start := rfl
  inside := Nat.succ_le_succ further.inside
  turn index other result' next known := by
    cases index with
    | zero =>
      obtain rfl : path = other := Option.some.inj next
      obtain rfl : result = result' := Option.some.inj known
      show Turn launch formatter write path files (before 0) result
      rwa [further.start]
    | succ index => exact further.turn index other result' next known
  stop other next := further.stop other next

theorem exists_turn (progress : Progress launch formatter write files paths before results) {index : Nat}
    (below : index < results.length) :
    ∃ path result, paths[index]? = some path ∧ results[index]? = some result ∧
      Turn launch formatter write path (before index) (before (index + 1)) result := by
  have next := List.getElem?_eq_getElem (Nat.lt_of_lt_of_le below progress.inside)
  have known := List.getElem?_eq_getElem below
  exact ⟨_, _, next, known, progress.turn index _ _ next known⟩

theorem target_eq (progress : Progress launch formatter write files paths before results) {index : Nat}
    (inside : index ≤ results.length) (path : String) : target (before index) path = target files path := by
  induction index with
  | zero => rw [progress.start]
  | succ index ih =>
    obtain ⟨own, result, _, _, turn⟩ := progress.exists_turn inside
    rw [turn.target_eq, ih (Nat.le_of_succ_le inside)]

theorem files_eq (progress : Progress launch formatter false files paths before results) {index : Nat}
    (inside : index ≤ results.length) : before index = files := by
  induction index with
  | zero => exact progress.start
  | succ index ih =>
    obtain ⟨own, result, _, _, turn⟩ := progress.exists_turn inside
    rw [← ih (Nat.le_of_succ_le inside)]
    generalize before (index + 1) = next at turn
    cases turn with
    | printed | failed => rfl
    | written _ _ writes _ => cases writes

/-- A file holds what it held at first, or the result of the last turn that changed it, on the text that it had then. -/
theorem read_eq (progress : Progress launch formatter write files paths before results) {index : Nat}
    (inside : index ≤ results.length) (path : String) :
    readPath (before index) path = readPath files path ∨
      HoldsResult launch formatter files paths before index path (before index) := by
  induction index with
  | zero => exact .inl (by rw [progress.start])
  | succ index ih =>
    obtain ⟨own, result, next, _, turn⟩ := progress.exists_turn inside
    have lead := progress.target_eq (Nat.le_of_succ_le inside)
    have kept (same : readPath (before (index + 1)) path = readPath (before index) path) :
        readPath (before (index + 1)) path = readPath files path ∨
          HoldsResult launch formatter files paths before (index + 1) path (before (index + 1)) := by
      rcases ih (Nat.le_of_succ_le inside) with first | ⟨earlier, other, source, formatted, below, rest⟩
      · exact .inl (same.trans first)
      · rw [← same] at rest
        exact .inr ⟨earlier, other, source, formatted, Nat.lt_succ_of_lt below, rest⟩
    generalize after : before (index + 1) = files' at turn kept ⊢
    cases turn with
    | printed | failed => exact kept rfl
    | @written source formatted _ read formats writes rewritten =>
      by_cases apart : target (before index) path ≠ target (before index) own
      · exact kept (rewritten.others path apart)
      · have hits : target (before index) path = target (before index) own := not_not.mp apart
        refine .inr ⟨index, own, source, formatted, Nat.lt_succ_self index, next, ?_, ?_, formats, ?_⟩
        · rw [← lead own, ← lead path, hits]
        · rw [readText_congr hits, read]
        · rw [← rewritten.own]
          apply readPath_congr
          rw [rewritten.target, rewritten.target, hits]

end Progress

/-- What a run leaves behind and shows, if it starts on a console after `failed` files without a result. -/
structure Ended {State File : Type} [FileSystem State File] (write : Bool) (failed : Nat) (console : Console State)
    (paths : List String) (run : Console State × Verdict) (before : Nat → State) (results : List (Option (List Char))) :
    Prop where
  files : run.1.files = before results.length
  stdout : run.1.stdout = console.stdout ++ if write then [] else (results.filterMap id).flatten
  aborted : run.2 = .aborted ↔ results.length < paths.length
  /-- The last message names the file that could not be read. -/
  notice : ∀ path reason, paths[results.length]? = some path → readText (before results.length) path = .error reason →
    run.1.notices.getLast? = some (.line s!"Error: reading {path}\n\nCaused by:\n    {reason}")
  clean : run.2 = .clean ↔ failed = 0 ∧ results.length = paths.length ∧ none ∉ results
  understood : run.2 ≠ .misused

namespace Ended

variable {State File : Type} [FileSystem State File] {write : Bool} {failed : Nat} {console console' : Console State}
  {paths : List String} {path : String} {before : Nat → State} {results : List (Option (List Char))}

theorem nil (write : Bool) (failed : Nat) (console : Console State) :
    Ended write failed console [] (console, if failed = 0 then .clean else .unclean) (fun _ => console.files) [] where
  files := rfl
  stdout := by cases write <;> simp
  aborted := by by_cases none : failed = 0 <;> simp [none]
  notice _ _ next := by cases next
  clean := by by_cases none : failed = 0 <;> simp [none]
  understood := by by_cases none : failed = 0 <;> simp [none]

theorem unreadable {reason : String} (unread : readText console.files path = .error reason) (write : Bool)
    (failed : Nat) (rest : List String) :
    Ended write failed console (path :: rest) (console.abort "reading" path reason, .aborted) (fun _ => console.files)
      [] where
  files := rfl
  stdout := by cases write <;> simp [Console.abort, Console.note]
  aborted := by simp
  notice other reason' next unread' := by
    obtain rfl : path = other := Option.some.inj next
    obtain rfl : reason = reason' := Except.error.inj (unread.symm.trans unread')
    simp [Console.abort, Console.note]
    rfl
  clean := by simp
  understood := by simp

theorem afterFailure {run : Console State × Verdict} {text : String}
    (further : Ended write (failed + 1) (console.note text) paths run before results) :
    Ended write failed console (path :: paths) run (fun index => index.casesOn console.files before)
      (none :: results) where
  files := further.files
  stdout := further.stdout
  aborted := by rw [further.aborted, List.length_cons, List.length_cons, Nat.add_lt_add_iff_right]
  notice other reason next unread := further.notice other reason next unread
  clean := by simp [further.clean]
  understood := further.understood

theorem afterResult {run : Console State × Verdict} {formatted : List Char}
    (shown : console'.stdout = console.stdout ++ if write then [] else formatted)
    (further : Ended write failed console' paths run before results) :
    Ended write failed console (path :: paths) run (fun index => index.casesOn console.files before)
      (some formatted :: results) where
  files := further.files
  stdout := by
    rw [further.stdout, shown,
      List.filterMap_cons_some (show id (some formatted) = some formatted from rfl), List.flatten_cons, List.append_assoc]
    cases write <;> rfl
  aborted := by rw [further.aborted, List.length_cons, List.length_cons, Nat.add_lt_add_iff_right]
  notice other reason next unread := further.notice other reason next unread
  clean := by simp [further.clean]
  understood := further.understood

end Ended

theorem exists_progress {State File : Type} [FileSystem State File] (laws : Laws State) (launch : Launcher)
    (formatter : Command) (write : Bool) (failed : Nat) (console : Console State) (paths : List String) :
    ∃ before results, Progress launch formatter write console.files paths before results ∧
      Ended write failed console paths (formatFiles launch formatter write failed console paths) before results := by
  induction paths generalizing failed console with
  | nil => exact ⟨_, _, .nil console.files, .nil write failed console⟩
  | cons path rest ih =>
    rw [formatFiles]
    cases read : readText console.files path with
    | error reason => exact ⟨_, _, .unreadable read rest, .unreadable read write failed rest⟩
    | ok source =>
      cases outcome : formatText launch formatter source with
      | error failure =>
        have unchanged : Turn launch formatter write path console.files console.files none :=
          .failed read (formatText_eq_error_iff.mp outcome)
        obtain ⟨before, results, progress, ended⟩ := ih (failed + 1) (console.note s!"{path}: {failure.message}")
        simp only [outcome]
        exact ⟨_, _, .cons unchanged progress, ended.afterFailure⟩
      | ok formatted =>
        obtain ⟨console', delivered, turn, shown⟩ := exists_deliver laws read (formatText_eq_ok_iff.mp outcome)
        obtain ⟨before, results, progress, ended⟩ := ih failed console'
        simp only [outcome]
        rw [delivered]
        exact ⟨_, _, .cons turn progress, ended.afterResult shown⟩

theorem Verdict.code_eq_zero {verdict : Verdict} (understood : verdict ≠ .misused) :
    verdict.code = 0 ↔ verdict = .clean := by
  cases verdict with
  | misused => exact absurd rfl understood
  | clean | unclean | aborted => simp [Verdict.code]

/-- Formatting changes only what it formats. Of the paths, a number have their turn, each on the files as the turn before
has left them; the next one, if there is one, cannot be read, and the run ends there with a message that names it. A
turn gives its file the result of the text that it finds, if the formatter succeeds on the mask of this text and results
are written, and changes nothing else; if the formatter fails, it changes nothing. So each file ends up as it was or with
a result for a text that it had, without writing no file changes and the results are printed in order, and the program
reports success if and only if all files were read and formatted. -/
theorem format_changes_only_formatted {State File : Type} [FileSystem State File] (laws : Laws State)
    (launch : Launcher) (files : State) (paths : List String) (formatter parser : Option Command) (write : Bool) :
    let tool := formatter.getD .defaultFormatter
    let result := run launch files (.run ⟨.format write, paths, formatter, parser⟩)
    ∃ before results, Progress launch tool write files paths before results ∧
      result.1.files = before results.length ∧
      (∀ path, readPath result.1.files path = readPath files path ∨
        HoldsResult launch tool files paths before results.length path result.1.files) ∧
      (write = false → result.1.files = files) ∧
      result.1.stdout = (if write then [] else (results.filterMap id).flatten) ∧
      (result.2 = .aborted ↔ results.length < paths.length) ∧
      (∀ path reason, paths[results.length]? = some path → readText (before results.length) path = .error reason →
        result.1.notices.getLast? = some (.line s!"Error: reading {path}\n\nCaused by:\n    {reason}")) ∧
      (result.2.code = 0 ↔ results.length = paths.length ∧ none ∉ results) := by
  intro tool result
  obtain ⟨before, results, progress, ended⟩ := exists_progress laws launch tool write 0 { files := files } paths
  refine ⟨before, results, progress, ended.files, fun path => ?_, fun prints => ?_, ended.stdout, ended.aborted,
    ended.notice, ?_⟩
  · have final := progress.read_eq (Nat.le_refl _) path
    rwa [← ended.files] at final
  · subst prints
    exact ended.files.trans (progress.files_eq (Nat.le_refl _))
  · have clean := ended.clean
    rw [← Verdict.code_eq_zero ended.understood] at clean
    simp only [true_and] at clean
    exact clean

/-- Ends each document by one more line break, but fails where it finds a `!`. -/
def lineEnder : Launcher := fun _ input =>
  .ok (if input.contains 33 then ⟨.exited 1, [], []⟩ else ⟨.exited 0, input ++ [10], []⟩)

def threeFiles : Files := ⟨[("a", [123, 125]), ("b", [123, 33, 125]), ("c", [123, 125])], [("gone", .notFound)]⟩

/-- One file is formatted twice, with a failure between, and the run ends before the last file. -/
theorem format_changes_only_formatted_repeated :
    let paths := ["a", "b", "a", "gone", "c"]
    let result := run lineEnder threeFiles (.run ⟨.format true, paths, none, none⟩)
    FileSystem.Laws Files ∧
      result.1.files.entries = [("a", [123, 125, 10, 10]), ("b", [123, 33, 125]), ("c", [123, 125])] ∧
      result.1.notices = [.line "formatted a", .line "b: formatter exited with exit status: 1: ", .line "formatted a",
        .line "Error: reading gone\n\nCaused by:\n    No such file or directory (os error 2)"] ∧
      ∃ before results, Progress lineEnder .defaultFormatter true threeFiles paths before results ∧
        results.length < paths.length ∧
        HoldsResult lineEnder .defaultFormatter threeFiles paths before results.length "a" result.1.files := by
  intro paths result
  obtain ⟨before, results, progress, _, each, _, _, aborted, _⟩ :=
    format_changes_only_formatted Files.laws lineEnder threeFiles paths none none true
  have stopped : result.2 = .aborted := by decide +kernel
  have changed : FileSystem.readPath result.1.files "a" ≠ FileSystem.readPath threeFiles "a" := by decide +kernel
  exact ⟨Files.laws, by decide +kernel, by decide +kernel, before, results, progress, aborted.mp stopped,
    (each "a").resolve_left changed⟩

end Dialect.Cli
