import Dialect.Proofs.Structure.Block
import Dialect.Proofs.Structure.Unseen

/-! Sections of a document. A scan looks ahead only from a brace at the end of a line, and no further than to the next
line with code. Where a section has closed its brackets and its raw strings and announces no value at its end, the scan
is back in the state that it starts in. So such a section has no part in what is found below it, and if its last code
is no brace, what stands below it has no part in what is found in the section. -/
namespace Dialect

/-- The last line with code. -/
def lastCode? (codes : List CodeLine) : Option CodeLine := codes.reverse.find? (fun code => !code.isBlank)

/-- The last line with code does not end with a brace. -/
def Settled (codes : List CodeLine) : Prop := ∀ last ∈ lastCode? codes, endsWith ['}'] last.chars = false

instance (codes : List CodeLine) : Decidable (Settled codes) := by unfold Settled; infer_instance

theorem lastCode?_cons (code : CodeLine) (codes : List CodeLine) :
    lastCode? (code :: codes) = (lastCode? codes).or (if code.isBlank then none else some code) := by
  rw [lastCode?, List.reverse_cons, List.find?_append, lastCode?]
  cases blank : code.isBlank <;> simp [blank]

theorem lastCode?_eq_none {codes : List CodeLine} :
    lastCode? codes = none ↔ codes.find? (fun code => !code.isBlank) = none := by
  simp [lastCode?]

theorem isBlank_eq_false_of_brace {code : CodeLine} (brace : endsWith ['}'] code.chars = true) :
    code.isBlank = false := by
  have member : '}' ∈ code.chars := (List.isSuffixOf_iff_suffix.mp brace).subset List.mem_cons_self
  by_contra blank
  rw [Bool.not_eq_false] at blank
  have visible := isBlankText_iff.mp blank '}' member
  simp [isBlank] at visible

theorem Settled.tail {code : CodeLine} {above : List CodeLine} (settled : Settled (code :: above)) :
    Settled above := by
  intro last member
  apply settled last
  rw [lastCode?_cons, Option.mem_def.mp member]
  rfl

/-- Below a brace at the end of a line a settled text has a line with code. -/
theorem Settled.exists_code {code : CodeLine} {above : List CodeLine} (settled : Settled (code :: above))
    (brace : endsWith ['}'] code.chars = true) : ∃ next, above.find? (fun next => !next.isBlank) = some next := by
  apply Option.ne_none_iff_exists'.mp
  intro unseen
  have last : code ∈ lastCode? (code :: above) := by
    simp [lastCode?_cons, lastCode?_eq_none.mpr unseen, isBlank_eq_false_of_brace brace]
  simp [settled code last] at brace

namespace ScanState

/-- A line of a settled text sees nothing below the text. -/
theorem line_append {code : CodeLine} {above : List CodeLine} (settled : Settled (code :: above)) (state : ScanState)
    (number : Nat) (below : List CodeLine) :
    state.line number code (above ++ below) = state.line number code above := by
  by_cases brace : endsWith ['}'] code.chars = true
  · obtain ⟨next, seen⟩ := settled.exists_code brace
    apply line_congr
    simp [List.find?_append, seen]
  · simp [line, openEnd, brace]

/-- The scan comes to a line in the state that the lines above it leave, and what it finds in these depends on what
stands below them through the first line with code only. If they are settled, it does not depend on it. -/
theorem exists_run_append (state : ScanState) (number : Nat) (above : List CodeLine) :
    ∃ found : Option CodeLine → List Finding,
      (∀ below, state.run number (above ++ below) =
        found (below.find? fun next => !next.isBlank) ++
          (state.after number above).run (number + above.length) below) ∧
      (Settled above → ∀ next, found next = found none) := by
  induction above generalizing state number with
  | nil => exact ⟨fun _ => [], fun _ => rfl, fun _ _ => rfl⟩
  | cons code above ih =>
    obtain ⟨found, split, alone⟩ := ih (state.line number code above).2 (number + 1)
    refine ⟨fun next => (state.line number code (above ++ next.toList)).1 ++ found next, ?_, ?_⟩
    · intro below
      have seen : state.line number code (above ++ (below.find? fun next => !next.isBlank).toList) =
          state.line number code (above ++ below) := by
        apply line_congr
        cases first : below.find? (fun next => !next.isBlank) with
        | none => simp [List.find?_append, first]
        | some next =>
          have visible := List.find?_some first
          simp [List.find?_append, first, visible]
      have length : number + (code :: above).length = number + 1 + above.length := by
        rw [List.length_cons]
        omega
      rw [List.cons_append, run, after, length]
      simp only [seen, List.append_assoc, ← split]
      rfl
    · intro settled next
      simp only [line_append settled, alone settled.tail next]

end ScanState

/-- A text of whole lines that leaves nothing open: no bracket, no array, no raw string and no value, and no brace at
the end of its code. -/
structure FinishedSection (text : List Char) : Prop where
  whole : lineBefore text = []
  stack : (ScanState.after {} 0 (CodeLine.ofDocument text)).nesting.stack = []
  arrayDepth : (ScanState.after {} 0 (CodeLine.ofDocument text)).nesting.arrayDepth = 0
  expectsValue : (ScanState.after {} 0 (CodeLine.ofDocument text)).expectsValue = false
  raw : CodeLine.carried false (CodeLine.ofDocument text) = false
  settled : Settled (CodeLine.ofDocument text)

/-- At the end of a text without open brackets no action block is open. -/
theorem block_after_eq_none {text : List Char}
    (closed : (ScanState.after {} 0 (CodeLine.ofDocument text)).nesting.stack = []) :
    (ScanState.after {} 0 (CodeLine.ofDocument text)).nesting.block = none := by
  have last := nestingAt_start text (CodeLine.ofDocument text).length
  rw [List.take_length] at last
  obtain ⟨_, tracks⟩ := exists_tracks text ⟨(CodeLine.ofDocument text).length, 0⟩
  have follows := tracks.follows
  rw [last] at follows
  exact follows.block_eq_none closed

theorem ScanState.eq_start {state : ScanState} (stack : state.nesting.stack = [])
    (arrayDepth : state.nesting.arrayDepth = 0) (block : state.nesting.block = none)
    (expectsValue : state.expectsValue = false) : state = {} := by
  obtain ⟨⟨_, _, _⟩, _⟩ := state
  simp_all

/-- Behind a finished section the scan starts anew. -/
theorem FinishedSection.after_eq {text : List Char} (finished : FinishedSection text) :
    ScanState.after {} 0 (CodeLine.ofDocument text) = {} := by
  apply ScanState.eq_start finished.stack finished.arrayDepth
  · exact block_after_eq_none finished.stack
  · exact finished.expectsValue

/-- A finished section has no influence on what follows. With any text below it the scan finds what it finds in the
section alone, and then what it finds in the other text alone, as many lines further down as the section has. -/
theorem finished_section_scanned_apart {above : List Char} (finished : FinishedSection above) (below : List Char) :
    scan (above ++ below) = scan above ++ (scan below).map (·.renumber (· + (lines above).length)) := by
  obtain ⟨found, split, alone⟩ := ScanState.exists_run_append {} 0 (CodeLine.ofDocument above)
  rw [finished.after_eq, CodeLine.length_ofDocument, Nat.zero_add] at split
  have bare : scan above = found none := by
    have whole := split []
    rw [List.append_nil, ScanState.run] at whole
    simpa [scan, Nesting.unclosed] using whole
  have moved : ScanState.run {} (lines above).length (CodeLine.ofDocument below) =
      (scan below).map (·.renumber (· + (lines above).length)) := by
    have shifted := ScanState.run_renumber (· + (lines above).length) {} 0 (CodeLine.ofDocument below) (by omega)
    simpa [scan, ScanState.renumber, Nesting.renumber] using shifted
  rw [scan_below finished.whole, finished.raw, split, alone finished.settled, bare]
  exact congrArg (found none ++ ·) moved

/-- The round bracket in the block takes the closer of the block, so the block goes on over the raw string below it and
up to the brace of the last line with code. -/
theorem finished_section_scanned_apart_late :
    let above := "a = [\n  1\n];\nrun = @do \x7b ( \x7d;\nc = ''\n  \x7d\n'';\nd \x7d = 1;\n\n".toList
    let below := "e = 2\n".toList
    FinishedSection above ∧ scan (above ++ below) =
      [⟨.unexpectedCloser '}', .onLine 3 14 1⟩, ⟨.missingTerminator, .onLine 9 0 5⟩] := by
  intro above below
  have anew : ScanState.after {} 0 (CodeLine.ofDocument above) = {} := by decide +kernel
  have finished : FinishedSection above :=
    ⟨by decide +kernel, by rw [anew], by rw [anew], by rw [anew], by decide +kernel, by decide +kernel⟩
  refine ⟨finished, ?_⟩
  rw [finished_section_scanned_apart finished below]
  decide +kernel

/-- A brace at the end of a section looks over blank lines at what stands below it. -/
example :
    let above := "a = \x7b\n\x7d\n\n".toList
    ScanState.after {} 0 (CodeLine.ofDocument above) = {} ∧ ¬ Settled (CodeLine.ofDocument above) ∧
      scan above = [] ∧ scan (above ++ "b = 1;\n".toList) = [⟨.unterminatedBrace, .onLine 1 0 1⟩] := by
  decide +kernel

end Dialect
