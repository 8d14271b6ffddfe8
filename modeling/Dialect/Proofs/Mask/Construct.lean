import Dialect.Mask.Construct
import Dialect.Proofs.Code.Action
import Dialect.Proofs.Declaration.Basic

/-! Where constructs stand in a document. Each takes a stretch that starts with a character that is
not blank, that no identifier goes on from, and whose blanks at the end, if it has any, stand
before a bracket. -/
namespace Dialect

/-- What is common to the stretches of all constructs. -/
structure Stretch (source : List Char) (span : Span) : Prop where
  order : span.start < span.stop
  inside : span.stop ≤ source.length
  first : ∀ c, source[span.start]? = some c → isBlank c = false ∧ c ≠ '='
  next : ∀ c, source[span.stop]? = some c → isIdentStart c = false
  last : ∀ c, source[span.stop - 1]? = some c → isBlank c = true →
    ∃ d, source[span.stop]? = some d ∧ isBlank d = false ∧ d ≠ '='

/-- A stretch is judged by what it matches and by what follows. -/
theorem Stretch.of_drop_eq {source : List Char} {span : Span} {matched rest : List Char}
    (split : source.drop span.start = matched ++ rest)
    (length : span.stop = span.start + matched.length) (nonempty : matched ≠ [])
    (first : ∀ c, matched.head? = some c → isBlank c = false ∧ c ≠ '=')
    (next : ∀ c, rest.head? = some c → isIdentStart c = false)
    (last : ∀ c, matched.getLast? = some c → isBlank c = true →
      ∃ d, rest.head? = some d ∧ isBlank d = false ∧ d ≠ '=') : Stretch source span := by
  obtain ⟨slice, after, bound⟩ := Span.of_drop_eq split length
  have positive := List.length_pos_iff.mpr nonempty
  have at_drop (start index : Nat) : source[start + index]? = (source.drop start)[index]? := by simp
  have at_start : source[span.start]? = matched.head? := by
    rw [← Nat.add_zero span.start, at_drop, split, List.getElem?_append_left positive,
      List.head?_eq_getElem?]
  have at_stop : source[span.stop]? = rest.head? := by
    rw [← Nat.add_zero span.stop, at_drop, after, List.head?_eq_getElem?]
  have at_last : source[span.stop - 1]? = matched.getLast? := by
    rw [show span.stop - 1 = span.start + (matched.length - 1) by omega, at_drop, split,
      List.getElem?_append_left (by omega), List.getLast?_eq_getElem?]
  exact ⟨by omega, bound nonempty, by rwa [at_start], by rwa [at_stop], by rwa [at_last, at_stop]⟩

theorem nodeLength?_eq_some {inner : Bool} {here : List Char} {length : Nat}
    (recognised : nodeLength? inner here = some length) :
    ∃ taken rest, here = taken ++ ')' :: rest ∧ length = taken.length + 1 := by
  induction here generalizing inner length with
  | nil => cases recognised
  | cons c rest ih =>
    have further {inner : Bool} (more : (nodeLength? inner rest).map (· + 1) = some length) :
        ∃ taken after, c :: rest = taken ++ ')' :: after ∧ length = taken.length + 1 := by
      obtain ⟨length, found, rfl⟩ := Option.map_eq_some_iff.mp more
      obtain ⟨taken, after, rfl, rfl⟩ := ih found
      exact ⟨c :: taken, after, rfl, rfl⟩
    rw [nodeLength?] at recognised
    split at recognised
    · split at recognised
      · cases recognised
      · exact further recognised
    split at recognised
    · next closes =>
      split at recognised
      · exact further recognised
      · cases recognised
        exact ⟨[], rest, by rw [closes, List.nil_append], rfl⟩
    · exact further recognised

theorem node?_eq_some {before : Option Char} {here : List Char} {taken : Nat}
    (recognised : node? before here = some ((), taken)) :
    ∃ inner rest, here = '(' :: 'z' :: inner ++ ')' :: rest ∧ taken = inner.length + 3 := by
  simp only [node?, Option.bind_eq_bind, Option.pure_def] at recognised
  obtain ⟨afterParen, paren, recognised⟩ := Option.bind_eq_some_iff.mp recognised
  obtain ⟨keyword, found, recognised⟩ := Option.bind_eq_some_iff.mp recognised
  split at recognised
  · cases recognised
  obtain ⟨length, closed, recognised⟩ := Option.bind_eq_some_iff.mp recognised
  obtain ⟨inside, rest, text, rfl⟩ := nodeLength?_eq_some closed
  have starts : startsWith keyword afterParen = true := by simpa using List.find?_some found
  obtain ⟨word, rfl⟩ : ∃ word, keyword = 'z' :: word := by
    have member := List.mem_of_find?_eq_some found
    simp only [structuralKeywords, List.mem_cons, List.not_mem_nil, or_false] at member
    rcases member with rfl | rfl | rfl
    all_goals exact ⟨_, rfl⟩
  have split := List.prefix_iff_eq_append.mp (startsWith_iff.mp starts)
  cases recognised
  refine ⟨word ++ inside, rest, ?_, ?_⟩
  · rw [after?_eq_some_iff.mp paren, ← split, text]
    simp
  · simp only [List.length_cons, List.length_append]
    omega

theorem isIdentChar_of_isSegmentChar {c : Char} (segment : isSegmentChar c = true) :
    isIdentChar c = true := by
  simp only [isSegmentChar] at segment
  simp [isIdentChar, segment]

theorem isSegmentChar_of_isIdentStart {c : Char} (start : isIdentStart c = true) :
    isSegmentChar c = true := by
  simp only [isIdentStart, Bool.or_eq_true] at start
  rcases start with letter | underscore
  · simp [isSegmentChar, letter]
  · simp [isSegmentChar, underscore]

theorem isBlank_eq_false_of_isIdentStart {c : Char} (start : isIdentStart c = true) :
    isBlank c = false :=
  isBlank_eq_false_of_isIdentChar (isIdentChar_of_isIdentStart start)

/-- What is taken of a variable: characters that are not blank, up to one that no segment has. -/
def Delimited (taken rest : List Char) : Prop :=
  (∀ c ∈ taken, isBlank c = false) ∧ ∀ c, rest.head? = some c → isSegmentChar c = false

theorem segmentLength_spec (text : List Char) :
    ∃ taken rest, text = taken ++ rest ∧ segmentLength text = taken.length ∧ Delimited taken rest := by
  induction text with
  | nil => exact ⟨[], [], rfl, rfl, by simp, by simp⟩
  | cons c rest ih =>
    rw [segmentLength]
    split
    · next goesOn =>
      obtain ⟨taken, after, rfl, length, visible, stops⟩ := ih
      refine ⟨c :: taken, after, rfl, by simp [length], ?_, stops⟩
      have first : isBlank c = false := by
        rcases goesOn with segment | ⟨rfl, _⟩
        · exact isBlank_eq_false_of_isIdentChar (isIdentChar_of_isSegmentChar segment)
        · rfl
      simpa [first] using visible
    · next stops =>
      simp only [not_or, Bool.not_eq_true] at stops
      exact ⟨[], c :: rest, rfl, rfl, by simp, by simpa using stops.1⟩

theorem segmentsLength_skip (skip : Nat) (text : List Char) (inside : skip ≤ text.length) :
    segmentsLength skip text = skip + segmentsLength 0 (text.drop skip) := by
  induction text generalizing skip with
  | nil => simp_all [segmentsLength]
  | cons c rest ih =>
    cases skip with
    | zero => simp
    | succ skip =>
      rw [segmentsLength, ih skip (by simpa using inside), List.drop_succ_cons]
      omega

theorem segmentsLength_spec (text : List Char)
    (separate : ∀ c, text.head? = some c → isSegmentChar c = false) :
    ∃ taken rest, text = taken ++ rest ∧ segmentsLength 0 text = taken.length ∧
      Delimited taken rest := by
  match text with
  | [] => exact ⟨[], [], rfl, rfl, by simp, by simp⟩
  | c :: rest =>
    have stop : ∃ taken after, c :: rest = taken ++ after ∧ 0 = taken.length ∧ Delimited taken after :=
      ⟨[], c :: rest, rfl, rfl, by simp, separate⟩
    rw [segmentsLength]
    split
    · next point =>
      cases rest with
      | nil => exact stop
      | cons d more =>
        rw [segment?]
        split
        · next length found =>
          split at found
          · next start =>
            -- the segment after the point, then the segments after that
            obtain ⟨taken, after, split, counted, visible, stops⟩ := segmentLength_spec more
            have shorter : after.length ≤ more.length := by simp [split]
            obtain ⟨taken', after', split', counted', visible', stops'⟩ :=
              segmentsLength_spec after stops
            subst split split'
            cases found
            refine ⟨c :: d :: taken ++ taken', after', by simp, ?_, ?_, stops'⟩
            · rw [segmentsLength_skip _ _ (by simp [counted])]
              simp [counted, counted']
              omega
            · have first := isBlank_eq_false_of_isIdentStart start
              have point' : isBlank c = false := by rw [point]; rfl
              simp only [List.cons_append, List.mem_cons, List.mem_append]
              rintro e (rfl | rfl | member | member)
              · exact point'
              · exact first
              · exact visible e member
              · exact visible' e member
          · cases found
        · exact stop
    · exact stop
termination_by text.length
decreasing_by simp; omega

theorem reference?_eq_some {before : Option Char} {here : List Char} {taken : Nat}
    (recognised : reference? before here = some ((), taken)) :
    ∃ name rest, here = '$' :: name ++ rest ∧ taken = name.length + 1 ∧ Delimited name rest := by
  simp only [reference?, Option.bind_eq_bind, Option.pure_def] at recognised
  obtain ⟨text, signed, recognised⟩ := Option.bind_eq_some_iff.mp recognised
  obtain ⟨first, found, recognised⟩ := Option.bind_eq_some_iff.mp recognised
  cases recognised
  cases text with
  | nil => cases found
  | cons c more =>
    rw [segment?] at found
    split at found
    · next start =>
      obtain ⟨name, rest, rfl, counted, visible, stops⟩ := segmentLength_spec more
      obtain ⟨name', rest', rfl, counted', visible', stops'⟩ := segmentsLength_spec rest stops
      cases found
      refine ⟨c :: name ++ name', rest', ?_, ?_, ?_, stops'⟩
      · rw [after?_eq_some_iff.mp signed]
        simp [sigil]
      · simp [counted, counted']
        omega
      · have first := isBlank_eq_false_of_isIdentStart start
        simp only [List.cons_append, List.mem_cons, List.mem_append]
        rintro e (rfl | member | member)
        · exact first
        · exact visible e member
        · exact visible' e member
    · cases found

theorem mem_constructs {source : List Char} {construct : Construct} :
    construct ∈ constructs source ↔
    (∃ d ∈ findDeclarations source, construct = .declaration d) ∨
    (∃ span ∈ markers source, isCommented (source.take span.start) = false ∧ construct = .action span) ∨
    (∃ found ∈ findAll node? source,
      construct = .node ⟨found.span.start + 1, found.span.stop - 1⟩) ∨
    (∃ found ∈ findAll reference? source, construct = .reference found.span) := by
  simp only [constructs, List.mem_append, List.mem_map, List.mem_filter, Bool.not_eq_true',
    @eq_comm _ construct, or_assoc, and_assoc]

theorem placed_of_mem_constructs {source : List Char} {d : Declaration}
    (member : .declaration d ∈ constructs source) : d.Placed source := by
  rcases mem_constructs.mp member with ⟨e, located, same⟩ | ⟨_, _, _, same⟩ | ⟨_, _, same⟩ | ⟨_, _, same⟩
  · cases same
    exact placed_of_mem_findDeclarations located
  all_goals cases same

/-- An action marker is `@do` with the blanks before its brace. -/
theorem action_of_mem_constructs {source : List Char} {span : Span}
    (member : .action span ∈ constructs source) :
    ∃ gap rest, source.drop span.start = actionShorthand ++ gap ++ '{' :: rest ∧
      isBlankText gap = true ∧ span.stop = span.start + 3 + gap.length := by
  rcases mem_constructs.mp member with ⟨_, _, other⟩ | ⟨_, located, _, same⟩ | ⟨_, _, other⟩ | ⟨_, _, other⟩
  · cases other
  · cases same
    obtain ⟨front, gap, rest, text, blank, _, rfl⟩ := mem_markers.mp located
    refine ⟨gap, rest, ?_, blank, (Nat.add_assoc ..).symm⟩
    rw [text, List.drop_left]
  · cases other
  · cases other

theorem isWordChar_of_isIdentStart {c : Char} (start : isIdentStart c = true) :
    isWordChar c = true := by
  have ascii : c.toNat < 128 := by
    simp only [isIdentStart, isAsciiLetter, Bool.or_eq_true, Bool.and_eq_true, decide_eq_true_eq,
      beq_iff_eq, Char.le_def, UInt32.le_iff_toNat_le] at start
    rcases start with (⟨_, high⟩ | ⟨_, high⟩) | rfl
    · exact Nat.lt_of_le_of_lt high (by decide)
    · exact Nat.lt_of_le_of_lt high (by decide)
    · decide
  simp only [isIdentStart, Bool.or_eq_true] at start
  rcases start with letter | underscore
  · simp [isWordChar, ascii, letter]
  · simp [isWordChar, ascii, underscore]

theorem isIdentStart_eq_false_of_endsWord {rest : List Char} (ends : endsWord rest = true) {c : Char}
    (first : rest.head? = some c) : isIdentStart c = false := by
  simp only [endsWord, first, Option.any_some, Bool.not_eq_true'] at ends
  exact Bool.eq_false_iff.mpr fun start => by simp [isWordChar_of_isIdentStart start] at ends

theorem stretch_head {source : List Char} {d : Declaration} (placed : d.Placed source) :
    Stretch source d.head := by
  refine ⟨placed.order, Nat.le_trans placed.before (Nat.le_of_lt placed.inside), ?_, ?_, ?_⟩
  · intro c same
    cases placed.first.symm.trans same
    exact ⟨rfl, by decide⟩
  · intro c same
    exact isIdentStart_eq_false_of_endsWord placed.ends (by simpa using same)
  · intro c same blank
    obtain ⟨letter, there, isLetter⟩ := placed.last
    cases there.symm.trans same
    have visible := isBlank_eq_false_of_isIdentStart (c := c) (by simp [isIdentStart, isLetter])
    simp [visible] at blank

theorem stretch_action {source : List Char} {span : Span} {gap rest : List Char}
    (text : source.drop span.start = actionShorthand ++ gap ++ '{' :: rest)
    (length : span.stop = span.start + 3 + gap.length) : Stretch source span := by
  refine .of_drop_eq text (by simp [actionShorthand]; omega) (by simp [actionShorthand]) ?_ ?_ ?_
  · rintro c ⟨⟩
    exact ⟨rfl, by decide⟩
  · rintro c ⟨⟩
    rfl
  · intro c _ _
    exact ⟨'{', rfl, rfl, by decide⟩

theorem stretch_node {source : List Char} {start stop : Nat} {inner rest : List Char}
    (text : source.drop start = '(' :: 'z' :: inner ++ ')' :: rest)
    (length : stop = start + inner.length + 3) : Stretch source ⟨start + 1, stop - 1⟩ := by
  have split : source.drop (start + 1) = ('z' :: inner) ++ ')' :: rest := by
    rw [← List.drop_drop, text]
    rfl
  refine .of_drop_eq split (by simp; omega) (by simp) ?_ ?_ ?_
  · rintro c ⟨⟩
    exact ⟨rfl, by decide⟩
  · rintro c ⟨⟩
    rfl
  · intro c _ _
    exact ⟨')', rfl, rfl, by decide⟩

theorem stretch_reference {source : List Char} {span : Span} {name rest : List Char}
    (text : source.drop span.start = '$' :: name ++ rest)
    (length : span.stop = span.start + name.length + 1) (delimited : Delimited name rest) :
    Stretch source span := by
  refine .of_drop_eq text (by simp; omega) (by simp) ?_ ?_ ?_
  · rintro c ⟨⟩
    exact ⟨rfl, by decide⟩
  · intro c first
    have stops := delimited.2 c first
    exact Bool.eq_false_iff.mpr fun start => by simp [isSegmentChar_of_isIdentStart start] at stops
  · intro c last blank
    have visible : isBlank c = false := by
      rcases List.mem_cons.mp (List.mem_of_getLast? last) with rfl | member
      · rfl
      · exact delimited.1 c member
    simp [visible] at blank

theorem stretch_of_mem_constructs {source : List Char} {construct : Construct}
    (member : construct ∈ constructs source) : Stretch source construct.span := by
  rcases mem_constructs.mp member with ⟨d, located, rfl⟩ | ⟨found, located, _, rfl⟩ |
    ⟨found, located, rfl⟩ | ⟨found, located, rfl⟩
  · exact stretch_head (placed_of_mem_findDeclarations located)
  · obtain ⟨gap, rest, text, _, length⟩ := action_of_mem_constructs member
    exact stretch_action text length
  · obtain ⟨inside, order, recognised⟩ := mem_findAll located
    obtain ⟨inner, rest, text, taken⟩ := node?_eq_some recognised
    exact stretch_node text (by omega)
  · obtain ⟨inside, order, recognised⟩ := mem_findAll located
    obtain ⟨name, rest, text, taken, delimited⟩ := reference?_eq_some recognised
    exact stretch_reference text (by simp only [Construct.span]; omega) delimited

end Dialect
