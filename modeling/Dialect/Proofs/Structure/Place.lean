import Dialect.Proofs.Structure.Bracket

/-! Where the findings of a scan stand: each on a stretch of one code line, and a structural one on the
bracket that it names. -/
namespace Dialect

/-- A finding on the shape of statements stands on the line where it is made. -/
theorem onCode_line {state : ScanState} {number : Nat} {code : CodeLine} {rest : List CodeLine} {f : Finding}
    (member : f ∈ (state.line number code rest).1) (other : f.isStructural = false) : f.OnCode number code := by
  obtain ⟨shape, split, places⟩ := exists_line_findings state number code rest
  rw [split] at member
  rcases List.mem_append.mp member with bracket | statement
  · rw [(structural_scanBrackets ..).2] at bracket
    obtain ⟨b, _, rfl⟩ := List.mem_map.mp bracket
    cases other
  · exact (places f statement).2

theorem onCode_run {state : ScanState} {number : Nat} {codes : List CodeLine} {f : Finding}
    (member : f ∈ state.run number codes) (other : f.isStructural = false) :
    ∃ index code, codes[index]? = some code ∧ f.OnCode (number + index) code := by
  induction codes generalizing state number with
  | nil =>
    obtain ⟨b, _, rfl⟩ := List.mem_map.mp member
    cases other
  | cons code codes ih =>
    rcases List.mem_append.mp member with here | later
    · exact ⟨0, code, rfl, onCode_line here other⟩
    · obtain ⟨index, code, there, place⟩ := ih later
      exact ⟨index + 1, code, there, by rwa [← Nat.add_assoc, Nat.add_right_comm]⟩

/-- A structural finding is about a bracket of the code. -/
theorem bracket_of_structural {text : List Char} {f : Finding} (member : f ∈ scan text)
    (structural : f.isStructural = true) : ∃ b ∈ documentBrackets text, f = b.unexpected ∨ f = b.unclosed := by
  have kept := List.mem_filter.mpr ⟨member, structural⟩
  rw [structural_scan] at kept
  have known := Bracket.mem_of_mem_strays_append [] (documentBrackets text)
  rcases List.mem_append.mp kept with stray | left
  · obtain ⟨b, reported, rfl⟩ := List.mem_map.mp stray
    exact ⟨b, known b (List.mem_append_left _ reported), .inl rfl⟩
  · obtain ⟨b, reported, rfl⟩ := List.mem_map.mp left
    exact ⟨b, known b (List.mem_append_right _ (List.mem_reverse.mp reported)), .inr rfl⟩

/-- Every finding of a scan stands on the code of the document. -/
theorem onCode_scan {text : List Char} {f : Finding} (member : f ∈ scan text) :
    ∃ number code, (CodeLine.ofDocument text)[number]? = some code ∧ f.OnCode number code := by
  cases structural : f.isStructural with
  | false =>
    obtain ⟨index, code, there, place⟩ := onCode_run member structural
    rw [Nat.zero_add] at place
    exact ⟨index, code, there, place⟩
  | true =>
    obtain ⟨b, bracket, kind⟩ := bracket_of_structural member structural
    obtain ⟨_, code, there, here⟩ := mem_documentBrackets.mp bracket
    refine ⟨b.line, code, there, b.column, 1, ?_, Nat.one_pos, (List.getElem?_eq_some_iff.mp here).1⟩
    rcases kind with rfl | rfl
    · rfl
    · rfl

end Dialect
