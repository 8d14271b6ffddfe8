import Dialect.Proofs.Code.Line
import Dialect.Proofs.Declaration.Meaning
import Dialect.Proofs.Position.Resolve
import Dialect.Proofs.Structure.Place

/-! Findings point at text. Whatever the analysis reports stands on a stretch of the document that is not
empty, and all readers of a report see the same stretch. -/
namespace Dialect

section Findings

variable {text : List Char} {f : Finding}

/-- The code of a line is no longer than the line, so what stands on the code stands in the document. -/
theorem within_of_mem_scan (member : f ∈ scan text) : f.range.Within text := by
  obtain ⟨number, code, there, column, length, place, filled, short⟩ := onCode_scan member
  obtain ⟨line, found, part⟩ := CodeLine.shows_ofDocument there
  rw [place]
  exact Range.within_onLine found filled (Nat.le_trans short part.length_le)

theorem exists_of_mem_checkDeclarations (member : f ∈ checkDeclarations text) :
    ∃ d ∈ findDeclarations text, ∃ value, d.value = some value ∧
      f = ⟨d.problem (value.slice text), .ofSpan text value⟩ := by
  obtain ⟨d, found, reported⟩ := List.mem_filterMap.mp member
  obtain ⟨value, given, reported⟩ := Option.bind_eq_some_iff.mp reported
  split at reported
  · cases reported
  · exact ⟨d, found, value, given, (Option.some.inj reported).symm⟩

/-- Every finding covers a stretch of the document that is not empty. -/
theorem within_of_mem_analyze (member : f ∈ analyze text) : f.range.Within text := by
  rcases List.mem_append.mp member with scanned | checked
  · exact within_of_mem_scan scanned
  · obtain ⟨d, found, value, given, rfl⟩ := exists_of_mem_checkDeclarations checked
    obtain ⟨filled, inside⟩ := inside_of_value found given
    exact Range.within_ofSpan filled inside

/-- A structural finding covers the bracket that its problem names. -/
theorem slice_of_structural (member : f ∈ analyze text) (structural : f.isStructural = true) :
    ∃ c, isBracket c = true ∧ f.range.slice text = [c] ∧ (f.problem = .unexpectedCloser c ∨ f.problem = .unclosed c) := by
  rcases List.mem_append.mp member with scanned | checked
  · obtain ⟨b, known, kind⟩ := bracket_of_structural scanned structural
    obtain ⟨bracket, code, there, here⟩ := mem_documentBrackets.mp known
    obtain ⟨line, found, part⟩ := CodeLine.shows_ofDocument there
    have solid : b.char ≠ ' ' := by
      intro blank
      rw [blank] at bracket
      cases bracket
    have covered := Range.slice_onLine found (part.char here solid)
    rcases kind with rfl | rfl
    · exact ⟨b.char, bracket, covered, .inl rfl⟩
    · exact ⟨b.char, bracket, covered, .inr rfl⟩
  · obtain ⟨d, _, value, _, rfl⟩ := exists_of_mem_checkDeclarations checked
    simp only [Finding.isStructural, Declaration.problem] at structural
    split at structural <;> cases structural

end Findings

/-- Every diagnostic points at real text: it ends after it starts, at positions of the document. The command
line and the editor, in each encoding that it may ask for, show the same text for it, which is not empty; for
a structural diagnostic that text is the bracket that its message names. -/
theorem diagnostics_point_at_text (text : List Char) :
    ∀ d ∈ (analyze text).map Finding.diagnostic,
      (d.range.start.Before d.range.stop ∧ d.range.start.IsIn text ∧ d.range.stop.IsIn text) ∧
      ∃ shown, shown ≠ [] ∧ (Cli.Report.of text d).labelled? text = some shown ∧
        (∀ encoding : Editor.Encoding, lineCount text < UInt32.size →
          (∀ line ∈ splitLines text, measure encoding.width line < UInt32.size) →
          (Editor.Diagnostic.of text encoding d).area.slice? text encoding = some shown) ∧
        (d.kind = .structural → ∃ c, isBracket c = true ∧ shown = [c] ∧
          (d.message = s!"Unexpected closing character '{c}'" ∨ d.message = s!"Unclosed character '{c}'")) := by
  intro d member
  obtain ⟨f, found, rfl⟩ := List.mem_map.mp member
  have within : f.diagnostic.range.Within text := within_of_mem_analyze found
  refine ⟨⟨within.order, within.start, within.stop⟩, f.range.slice text, within.slice_ne_nil,
    labelled?_of_within within, slice?_of_within within, fun structural => ?_⟩
  obtain ⟨c, bracket, covered, kind⟩ := slice_of_structural found (decide_eq_true structural)
  refine ⟨c, bracket, covered, ?_⟩
  rcases kind with problem | problem
  · exact .inl (congrArg Problem.message problem)
  · exact .inr (congrArg Problem.message problem)

/-- A stray bracket behind a character beyond the basic plane, and a value on two lines after a carriage return. -/
theorem diagnostics_point_at_text_astral :
    let text := "a = \"𝕏\"; ]\r\ndeclare n : int =\n  \"é𝕏\n\";\n".toList
    let bracket : Diagnostic := ⟨.onLine 0 9 1, "Unexpected closing character ']'", .error, .structural⟩
    let value : Diagnostic := ⟨⟨⟨2, 2⟩, ⟨3, 1⟩⟩,
      "Type mismatch: 'n' is declared as int but the value is not a valid int", .error, .typeMismatch⟩
    (bracket ∈ (analyze text).map Finding.diagnostic ∧ value ∈ (analyze text).map Finding.diagnostic) ∧
      ∀ encoding, (Editor.Diagnostic.of text encoding bracket).area.slice? text encoding = some [']'] ∧
        (Editor.Diagnostic.of text encoding value).area.slice? text encoding = some "\"é𝕏\n\"".toList := by
  intro text bracket value
  have bracketFound : bracket ∈ (analyze text).map Finding.diagnostic := by decide +kernel
  have valueFound : value ∈ (analyze text).map Finding.diagnostic := by decide +kernel
  have marks (d : Diagnostic) (found : d ∈ (analyze text).map Finding.diagnostic) {shown : List Char}
      (label : (Cli.Report.of text d).labelled? text = some shown) (encoding : Editor.Encoding) :
      (Editor.Diagnostic.of text encoding d).area.slice? text encoding = some shown := by
    obtain ⟨_, _, _, labelled, marked, _⟩ := diagnostics_point_at_text text d found
    rw [← label, labelled]
    refine marked encoding (by decide +kernel) ?_
    cases encoding with
    | utf16 => decide +kernel
    | utf32 => decide +kernel
  exact ⟨⟨bracketFound, valueFound⟩, fun encoding =>
    ⟨marks bracket bracketFound (by decide +kernel) encoding, marks value valueFound (by decide +kernel) encoding⟩⟩

end Dialect
