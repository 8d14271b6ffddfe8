import Dialect.Proofs.Mask.Indent
import Dialect.Proofs.Mask.RoundTrip
import Dialect.Proofs.Mask.Spacing

/-! What a document says after the formatter left it alone. Restoring shortens blanks and moves lines to the
left, so the declarations and strings are the same as long as no comment loses the line break that ends it
and nothing of this happens inside of a string. -/
namespace Dialect

/-- No run inside the stretch changes. -/
def Spared (source : List Char) (span : Span) : Prop :=
  ∀ run ∈ runs source, span.start ≤ run.start → run.stop ≤ span.stop → run.slice source = [' ']

instance (source : List Char) (span : Span) : Decidable (Spared source span) :=
  inferInstanceAs (Decidable (∀ run ∈ runs source, span.start ≤ run.start → run.stop ≤ span.stop →
    run.slice source = [' ']))

section Spaced

variable {source : List Char} {front rest : List Part} {old new : List Char}

theorem place_of_spacing (split : spacing source = front ++ .gap old new :: rest) :
    ∃ run ∈ runs source, old = run.slice source ∧ new = [' '] ∧ oldText front = source.take run.start ∧
      (oldText front).length = run.start ∧ (oldText front).length + old.length = run.stop := by
  obtain ⟨run, member, rfl, rfl, text, c, _, there, _⟩ := run_of_spacing split
  have order := (blankFrom_of_mem_runs member).1
  have inside := (List.getElem?_eq_some_iff.mp there).1
  have length := Span.length_slice (Nat.le_of_lt inside)
  have place : (oldText front).length = run.start := by
    rw [text, List.length_take]
    omega
  exact ⟨run, member, rfl, rfl, text, place, by omega⟩

theorem eq_of_spared {span : Span} (spared : Spared source span)
    (split : spacing source = front ++ .gap old new :: rest) (low : span.start ≤ (oldText front).length)
    (high : (oldText front).length + old.length ≤ span.stop) : old = new := by
  obtain ⟨run, member, rfl, rfl, _, start, stop⟩ := place_of_spacing split
  rw [start] at low
  rw [stop] at high
  exact spared run member low high

theorem findDeclarations_spaced
    (breaks : ∀ run ∈ runs source, '\n' ∈ run.slice source → isCommented (source.take run.start) = false)
    (options : ∀ d ∈ findDeclarations source, ∀ word ∈ findAll quotedWord? (d.optionSpan.slice source),
      Spared source ⟨d.head.stop + word.span.start, d.head.stop + word.span.stop⟩) :
    List.Forall₂ Declaration.SameMeaning (findDeclarations source) (findDeclarations (spaced source)) := by
  have aligned := @findDeclarations_aligned (spacing source) (harmless_spacing source)
  rw [oldText_spacing, newText_spacing] at aligned
  apply aligned
  · intro front old new rest split _ commented
    obtain ⟨run, member, rfl, rfl, text, _⟩ := place_of_spacing split
    constructor
    · intro newline
      simp [text, breaks run member newline] at commented
    · simp
  · intro d found word member front old new rest split
    exact eq_of_spared (options d found word member) split

theorem stringBodies_spaced
    (breaks : ∀ run ∈ runs source, '\n' ∈ run.slice source → modeAt .code source run.start ≠ .comment)
    (strings : ∀ literal ∈ stringLiterals source, Spared source literal) :
    stringBodies source = stringBodies (spaced source) := by
  have aligned := @stringBodies_aligned (spacing source) (harmless_spacing source)
  rw [oldText_spacing, newText_spacing] at aligned
  apply aligned
  · intro front old new rest split _ comment
    rw [oldText_spacing] at comment
    obtain ⟨run, member, rfl, rfl, _, start, _⟩ := place_of_spacing split
    constructor
    · intro newline
      exact absurd (start ▸ comment) (breaks run member newline)
    · simp
  · intro literal member front old new rest split
    exact eq_of_spared (strings literal member) split

end Spaced

section Margins

variable {moved : Bool} {parts : List Part}

theorem Margins.harmless (margins : Margins moved true true parts) : Harmless [] parts := by
  intro front old new rest split
  obtain ⟨blank, blank', place⟩ := margins front old new rest split
  refine ⟨blank, blank', ?_⟩
  rcases place with ⟨_, rfl⟩ | ⟨_, rfl⟩ | ⟨_, breaks, breaks'⟩
  · exact .inr (.start rfl rest)
  · exact .inr .finish
  · exact .inl ⟨List.ne_nil_of_mem breaks, List.ne_nil_of_mem breaks'⟩

theorem Margins.breaks {front rest : List Part} {old new : List Char} (margins : Margins moved true true parts)
    (split : parts = front ++ .gap old new :: rest) (filled : front ≠ []) (more : rest ≠ []) :
    moved = true ∧ '\n' ∈ old ∧ '\n' ∈ new := by
  obtain ⟨_, _, place⟩ := margins front old new rest split
  rcases place with ⟨_, first⟩ | ⟨_, last⟩ | breaks
  · exact absurd first filled
  · exact absurd last more
  · exact breaks

/-- A gap inside the text puts a line break in what stands around it. -/
theorem Margins.mem_slice {front rest : List Part} {old new : List Char} {span : Span}
    (margins : Margins moved true true parts) (split : parts = front ++ .gap old new :: rest)
    (positive : 0 < span.start) (inside : span.stop < (oldText parts).length)
    (low : span.start ≤ (oldText front).length) (high : (oldText front).length + old.length ≤ span.stop) :
    moved = true ∧ '\n' ∈ span.slice (oldText parts) := by
  have text : oldText parts = oldText front ++ (old ++ oldText rest) := by simp [split]
  have breaks : moved = true ∧ '\n' ∈ old ∧ '\n' ∈ new := by
    apply margins.breaks split
    · rintro rfl
      rw [oldText_nil, List.length_nil] at low
      omega
    · rintro rfl
      rw [text, oldText_nil, List.append_nil, List.length_append] at inside
      omega
  rw [text]
  exact ⟨breaks.1, mem_slice_of_inside low high breaks.2.1⟩

theorem findDeclarations_reindented (margins : Margins moved true true parts)
    (lines : moved = true → ∀ d ∈ findDeclarations (oldText parts), ∀ word ∈ d.options, '\n' ∉ word) :
    List.Forall₂ Declaration.SameMeaning (findDeclarations (oldText parts)) (findDeclarations (newText parts)) := by
  apply findDeclarations_aligned margins.harmless
  · intro front old new rest split more commented
    have filled : front ≠ [] := by
      rintro rfl
      cases commented
    have breaks := margins.breaks split filled more
    simp [breaks.2]
  · intro d found word member front old new rest split low high
    obtain ⟨quoted, bounded⟩ := slice_option found member
    have placed := placed_of_mem_findDeclarations found
    have order := placed.order
    have inside := placed.inside
    have breaks : moved = true ∧
        '\n' ∈ Span.slice ⟨d.head.stop + word.span.start, d.head.stop + word.span.stop⟩ (oldText parts) := by
      apply margins.mem_slice split _ _ low high
      · show 0 < d.head.stop + word.span.start
        omega
      · show d.head.stop + word.span.stop < (oldText parts).length
        omega
    have among : word.value ∈ d.options := by
      rw [options_of_mem_findDeclarations found]
      exact List.mem_map_of_mem member
    rw [quoted] at breaks
    exact absurd (by simpa using breaks.2) (lines breaks.1 d found word.value among)

theorem stringBodies_reindented (margins : Margins moved true true parts)
    (lines : moved = true → ∀ body ∈ stringBodies (oldText parts), '\n' ∉ body) :
    stringBodies (oldText parts) = stringBodies (newText parts) := by
  apply stringBodies_aligned margins.harmless
  · intro front old new rest split more comment
    have filled : front ≠ [] := by
      rintro rfl
      rw [oldText_nil, List.length_nil, modeAt_zero] at comment
      cases comment
    have breaks := margins.breaks split filled more
    simp [breaks.2]
  · intro literal member front old new rest split low high
    obtain ⟨before, body, after, text, span⟩ := exists_of_mem_stringLiterals member
    have breaks : moved = true ∧ '\n' ∈ literal.slice (oldText parts) := by
      apply margins.mem_slice split _ _ low high
      · simp [span]
      · rw [text, span]
        simp only [List.length_append, List.length_cons]
        omega
    exact absurd breaks.2 (lines breaks.1 _ (List.mem_map_of_mem member))

end Margins

/-- Restoring what the formatter left alone keeps the declarations one by one, with what they say, unless a
comment loses the line break that ends it, a run changes inside of a quoted option or unwrapping moves the
lines of one. -/
theorem format_mask_keeps_declarations (source : List Char)
    (breaks : ∀ run ∈ runs source, '\n' ∈ run.slice source → isCommented (source.take run.start) = false)
    (options : ∀ d ∈ findDeclarations source, ∀ word ∈ findAll quotedWord? (d.optionSpan.slice source),
      Spared source ⟨d.head.stop + word.span.start, d.head.stop + word.span.stop⟩)
    (lines : (mask .format source).wrapped = true → movesLines (mask .format source).body = true →
      ∀ d ∈ findDeclarations source, ∀ word ∈ d.options, '\n' ∉ word) :
    let masked := mask .format source
    List.Forall₂ Declaration.SameMeaning (findDeclarations source)
      (findDeclarations (masked.restore masked.text)) := by
  intro masked
  -- the source with its runs shortened stands between the source and what comes back
  have spaced := findDeclarations_spaced breaks options
  by_cases wrapped : masked.wrapped = true
  · obtain ⟨parts, old, new, margins⟩ := exists_parts_restore wrapped
    rw [← old] at spaced
    rw [← new]
    refine Declaration.forall₂_sameMeaning_trans spaced (findDeclarations_reindented margins ?_)
    intro moves d found word member
    have among : d.options ∈ (findDeclarations source).map (·.options) := by
      rw [Declaration.map_options_eq spaced]
      exact List.mem_map_of_mem found
    obtain ⟨e, there, same⟩ := List.mem_map.mp among
    exact lines wrapped moves e there word (same ▸ member)
  · rwa [restore_text fun wraps => absurd wraps wrapped]

theorem format_mask_keeps_declarations_indented :
    let source := "\n  declare m : enum\t[\"a b\"]  = 1; # =\n".toList
    let masked := mask .format source
    masked.wrapped = true ∧ movesLines masked.body = true ∧
      masked.restore masked.text = "declare m : enum [\"a b\"] = 1; # =\n".toList ∧
      List.Forall₂ Declaration.SameMeaning (findDeclarations source)
        (findDeclarations (masked.restore masked.text)) := by
  intro source masked
  have lines : ∀ d ∈ findDeclarations source, ∀ word ∈ d.options, '\n' ∉ word := by decide +kernel
  refine ⟨by decide +kernel, by decide +kernel, by decide +kernel, ?_⟩
  exact format_mask_keeps_declarations source (by decide +kernel) (by decide +kernel) fun _ _ => lines

/-- A declaration whose options end with a comment: the `=` joins the comment. -/
theorem format_mask_loses_commented_declaration :
    let source := "declare m : enum [\"a\"] # note\n= \"a\";\n".toList
    let masked := mask .format source
    masked.restore masked.text = "declare m : enum [\"a\"] # note = \"a\";\n".toList ∧
      ¬List.Forall₂ Declaration.SameMeaning (findDeclarations source)
        (findDeclarations (masked.restore masked.text)) := by
  intro source masked
  have text : masked.restore masked.text = "declare m : enum [\"a\"] # note = \"a\";\n".toList := by decide +kernel
  have found : findDeclarations source ≠ [] := by decide +kernel
  have lost : findDeclarations "declare m : enum [\"a\"] # note = \"a\";\n".toList = [] := by decide +kernel
  refine ⟨text, fun kept => ?_⟩
  rw [text, lost, List.forall₂_nil_right_iff] at kept
  exact found kept

/-- Restoring what the formatter left alone keeps the bodies of all string literals, unless a comment loses the
line break that ends it, a run changes inside of a literal or unwrapping moves the lines of one. -/
theorem format_mask_keeps_strings (source : List Char)
    (breaks : ∀ run ∈ runs source, '\n' ∈ run.slice source → modeAt .code source run.start ≠ .comment)
    (strings : ∀ literal ∈ stringLiterals source, Spared source literal)
    (lines : (mask .format source).wrapped = true → movesLines (mask .format source).body = true →
      ∀ body ∈ stringBodies source, '\n' ∉ body) :
    let masked := mask .format source
    stringBodies source = stringBodies (masked.restore masked.text) := by
  intro masked
  have spaced := stringBodies_spaced breaks strings
  by_cases wrapped : masked.wrapped = true
  · obtain ⟨parts, old, new, margins⟩ := exists_parts_restore wrapped
    rw [← old] at spaced
    rw [← new, spaced]
    apply stringBodies_reindented margins
    intro moves body member
    exact lines wrapped moves body (spaced ▸ member)
  · rwa [restore_text fun wraps => absurd wraps wrapped]

theorem format_mask_keeps_strings_indented :
    let source := "\n  a = \"x  @do \x7b\"; # \"\n  b = @do\n  \x7b\x7d;\n".toList
    let masked := mask .format source
    masked.wrapped = true ∧ movesLines masked.body = true ∧
      masked.restore masked.text = "a = \"x  @do \x7b\"; # \"\nb = @do \x7b\x7d;\n".toList ∧
      stringBodies source = stringBodies (masked.restore masked.text) := by
  intro source masked
  have lines : ∀ body ∈ stringBodies source, '\n' ∉ body := by decide +kernel
  refine ⟨by decide +kernel, by decide +kernel, by decide +kernel, ?_⟩
  exact format_mask_keeps_strings source (by decide +kernel) (by decide +kernel) fun _ _ => lines

/-- An action marker inside of a string: of the blanks before its brace one is left. -/
theorem format_mask_changes_marker_in_string :
    let source := "\x7b a = \"@do   \x7b\"; \x7d".toList
    let masked := mask .format source
    masked.restore masked.text = "\x7b a = \"@do \x7b\"; \x7d".toList ∧
      stringBodies source ≠ stringBodies (masked.restore masked.text) := by
  intro source masked
  have text : masked.restore masked.text = "\x7b a = \"@do \x7b\"; \x7d".toList := by decide +kernel
  refine ⟨text, ?_⟩
  rw [text]
  decide +kernel

end Dialect
