import Dialect.Host.Format

/-! Which runs of a tool succeed, and what formatting makes of a document: without regard to how a program is started,
by what it leaves behind. -/
namespace Dialect

section Run

variable {launch : Launcher} {tool : Tool} {command : Command} {input output : List Char}

/-- A run that ends with status 0 and prints a text that is not blank. -/
structure Tool.Prints (launch : Launcher) (command : Command) (input output : List Char) : Prop where
  run : ∃ exit, launch command (Utf8.encode input) = .ok exit ∧ exit.ending = .exited 0 ∧
    Utf8.decode exit.stdout = .ok output
  visible : isBlankText output = false

/-- All other runs, and what is reported of them. -/
inductive Tool.Fails (launch : Launcher) (tool : Tool) (command : Command) (input : List Char) : Failure → Prop where
  | spawn {reason : String} (unstarted : launch command (Utf8.encode input) = .error (.spawn reason)) :
    Fails launch tool command input (.spawn tool command reason)
  | io {reason : String} (broken : launch command (Utf8.encode input) = .error (.io reason)) :
    Fails launch tool command input (.io tool reason)
  | noText {exit : Exit} {fault : Utf8.Fault} (ran : launch command (Utf8.encode input) = .ok exit)
    (unread : Utf8.decode exit.stdout = .error fault) : Fails launch tool command input (.invalidOutput tool fault)
  | refused {exit : Exit} {output : List Char} (ran : launch command (Utf8.encode input) = .ok exit)
    (read : Utf8.decode exit.stdout = .ok output) (ended : exit.ending ≠ .exited 0) :
    Fails launch tool command input (.failed tool exit.ending.status (trim (Utf8.decodeLossy exit.stderr)))
  | blank {exit : Exit} {output : List Char} (ran : launch command (Utf8.encode input) = .ok exit)
    (read : Utf8.decode exit.stdout = .ok output) (ended : exit.ending = .exited 0)
    (nothing : isBlankText output = true) : Fails launch tool command input (.emptyOutput tool)

/-- What a tool prints on a run that succeeds. -/
def Tool.printed (launch : Launcher) (tool : Tool) (command : Command) (input : List Char) :
    Except Failure (List Char) := do
  (← Tool.run launch tool command input).result tool

theorem Tool.printed_of_exit {exit : Exit} (ran : launch command (Utf8.encode input) = .ok exit)
    (read : Utf8.decode exit.stdout = .ok output) :
    Tool.printed launch tool command input =
      if exit.ending = .exited 0 then if isBlankText output then .error (.emptyOutput tool) else .ok output
      else .error (.failed tool exit.ending.status (trim (Utf8.decodeLossy exit.stderr))) := by
  simp only [Tool.printed, Tool.run, ran, read, bind, Except.bind, ToolOutput.result]
  by_cases ended : exit.ending = .exited 0 <;> simp [ended]

theorem Tool.printed_spec (launch : Launcher) (tool : Tool) (command : Command) (input : List Char) :
    match Tool.printed launch tool command input with
    | .ok output => Tool.Prints launch command input output
    | .error failure => Tool.Fails launch tool command input failure := by
  cases ran : launch command (Utf8.encode input) with
  | error fault =>
    cases fault with
    | spawn reason =>
      have printed : Tool.printed launch tool command input = .error (.spawn tool command reason) := by
        simp [Tool.printed, Tool.run, ran, bind, Except.bind]
      rw [printed]
      exact .spawn ran
    | io reason =>
      have printed : Tool.printed launch tool command input = .error (.io tool reason) := by
        simp [Tool.printed, Tool.run, ran, bind, Except.bind]
      rw [printed]
      exact .io ran
  | ok exit =>
    cases read : Utf8.decode exit.stdout with
    | error fault =>
      have printed : Tool.printed launch tool command input = .error (.invalidOutput tool fault) := by
        simp [Tool.printed, Tool.run, ran, read, bind, Except.bind]
      rw [printed]
      exact .noText ran read
    | ok output =>
      rw [Tool.printed_of_exit ran read]
      by_cases ended : exit.ending = .exited 0
      · rw [if_pos ended]
        cases visible : isBlankText output with
        | true => exact .blank ran read ended visible
        | false => exact ⟨⟨exit, ran, ended, read⟩, visible⟩
      · rw [if_neg ended]
        exact .refused ran read ended

theorem Tool.Prints.printed (prints : Tool.Prints launch command input output) :
    Tool.printed launch tool command input = .ok output := by
  obtain ⟨⟨exit, ran, ended, read⟩, visible⟩ := prints
  rw [Tool.printed_of_exit ran read, if_pos ended, visible]
  rfl

theorem Tool.Fails.printed {failure : Failure} (fails : Tool.Fails launch tool command input failure) :
    Tool.printed launch tool command input = .error failure := by
  cases fails with
  | spawn ran | io ran => simp [Tool.printed, Tool.run, ran, bind, Except.bind]
  | noText ran unread => simp [Tool.printed, Tool.run, ran, unread, bind, Except.bind]
  | refused ran read ended => rw [Tool.printed_of_exit ran read, if_neg ended]
  | blank ran read ended nothing => rw [Tool.printed_of_exit ran read, if_pos ended, if_pos nothing]

theorem Tool.printed_eq_ok_iff :
    Tool.printed launch tool command input = .ok output ↔ Tool.Prints launch command input output := by
  refine ⟨fun printed => ?_, Tool.Prints.printed⟩
  have spec := Tool.printed_spec launch tool command input
  rwa [printed] at spec

theorem Tool.printed_eq_error_iff {failure : Failure} :
    Tool.printed launch tool command input = .error failure ↔ Tool.Fails launch tool command input failure := by
  refine ⟨fun printed => ?_, Tool.Fails.printed⟩
  have spec := Tool.printed_spec launch tool command input
  rwa [printed] at spec

end Run

section Format

variable {launch : Launcher} {formatter : Command} {source formatted : List Char}

/-- What formatting gives: a blank document as it is, and any other one restored from what the formatter prints for its
mask. -/
inductive Formats (launch : Launcher) (formatter : Command) (source : List Char) : List Char → Prop where
  | blank (blank : isBlankText source = true) : Formats launch formatter source source
  | restored {output : List Char} (visible : isBlankText source = false)
    (prints : Tool.Prints launch formatter (mask .format source).text output) :
    Formats launch formatter source ((mask .format source).restore output)

/-- The formatter fails on the mask of a document. -/
structure FormatFails (launch : Launcher) (formatter : Command) (source : List Char) (failure : Failure) : Prop where
  visible : isBlankText source = false
  fails : Tool.Fails launch .formatter formatter (mask .format source).text failure

theorem formatText_visible (visible : isBlankText source = false) :
    formatText launch formatter source =
      (Tool.printed launch .formatter formatter (mask .format source).text).map (mask .format source).restore := by
  rw [formatText, visible, if_neg Bool.false_ne_true, Tool.printed]
  dsimp only
  cases Tool.run launch .formatter formatter (mask .format source).text with
  | error failure => rfl
  | ok output =>
    simp only [bind, Except.bind]
    cases output.result .formatter <;> rfl

theorem formatText_eq_ok_iff :
    formatText launch formatter source = .ok formatted ↔ Formats launch formatter source formatted := by
  cases blank : isBlankText source with
  | true =>
    rw [formatText, if_pos blank, Except.ok.injEq]
    constructor
    · rintro rfl
      exact .blank blank
    · rintro (_ | ⟨visible, _⟩)
      · rfl
      · rw [blank] at visible
        cases visible
  | false =>
    rw [formatText_visible blank]
    constructor
    · intro result
      cases printed : Tool.printed launch .formatter formatter (mask .format source).text with
      | error failure => simp [printed, Except.map] at result
      | ok output =>
        simp only [printed, Except.map, Except.ok.injEq] at result
        rw [← result]
        exact .restored blank (Tool.printed_eq_ok_iff.mp printed)
    · rintro (blank' | ⟨_, prints⟩)
      · rw [blank] at blank'
        cases blank'
      · rw [prints.printed]
        rfl

theorem formatText_eq_error_iff {failure : Failure} :
    formatText launch formatter source = .error failure ↔ FormatFails launch formatter source failure := by
  cases blank : isBlankText source with
  | true =>
    rw [formatText, if_pos blank]
    constructor
    · intro result
      cases result
    · rintro ⟨visible, _⟩
      rw [blank] at visible
      cases visible
  | false =>
    rw [formatText_visible blank]
    constructor
    · intro result
      cases printed : Tool.printed launch .formatter formatter (mask .format source).text with
      | error failure' =>
        simp only [printed, Except.map, Except.error.injEq] at result
        exact ⟨blank, result ▸ Tool.printed_eq_error_iff.mp printed⟩
      | ok output => simp [printed, Except.map] at result
    · rintro ⟨_, fails⟩
      rw [fails.printed]
      rfl

/-- A change is never made to a blank document. -/
theorem Formats.visible (formats : Formats launch formatter source formatted) (changed : formatted ≠ source) :
    isBlankText source = false := by
  cases formats with
  | blank => exact absurd rfl changed
  | restored visible _ => exact visible

end Format

end Dialect
