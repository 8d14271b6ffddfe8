import Dialect.Proofs.Code.Action
import Dialect.Proofs.Declaration.Spelling
import Dialect.Proofs.Structure.Canonical

/-! Statements that lack their `;`. What is laid out above such a statement leaves the scan outside arrays and
action blocks, the statement is reported on its own line, and the scan goes on below it as if it were whole. -/
namespace Dialect

/-- A binding without the `;` at its end. -/
def Row.statement (name : Word) (value : Scalar) : List Char := name.text ++ [' ', '=', ' '] ++ value.text

/-- The tree binds `name` to `value` outside arrays and action blocks, and these rows are laid out above and below
this binding. -/
inductive Attributes.Binds (name : Word) (value : Scalar) : Attributes → List Row → List Row → Prop where
  | here (rest : Attributes) : Binds name value (.scalar name value rest) [] rest.rows
  | afterScalar {rest : Attributes} {above below : List Row} (other : Word) (first : Scalar)
    (later : Binds name value rest above below) :
    Binds name value (.scalar other first rest) (.binding other first :: above) below
  | afterSet {rest : Attributes} {above below : List Row} (other : Word) (inner : Attributes)
    (later : Binds name value rest above below) :
    Binds name value (.set other inner rest)
      (.opening (some other) .set :: (inner.rows ++ .closing .set true :: above)) below
  | afterArray {rest : Attributes} {above below : List Row} (other : Word) (elements : Elements)
    (later : Binds name value rest above below) :
    Binds name value (.array other elements rest)
      (.opening (some other) .array :: (elements.rows ++ .closing .array true :: above)) below
  | inside {inner : Attributes} {above below : List Row} (other : Word) (rest : Attributes)
    (ordinary : other.text ∉ actionKeywords) (nested : Binds name value inner above below) :
    Binds name value (.set other inner rest) (.opening (some other) .set :: above)
      (below ++ .closing .set true :: rest.rows)

theorem Attributes.Binds.rows_eq {name : Word} {value : Scalar} {tree : Attributes} {above below : List Row}
    (binds : tree.Binds name value above below) : tree.rows = above ++ .binding name value :: below := by
  induction binds with
  | here rest => rfl
  | afterScalar other first later ih => rw [Attributes.rows, ih, List.cons_append]
  | afterSet other inner later ih => rw [Attributes.rows, ih]; simp
  | afterArray other elements later ih => rw [Attributes.rows, ih]; simp
  | inside other rest ordinary nested ih => rw [Attributes.rows, ih]; simp

/-- A shorthand before the only brace of a line has nothing but blanks between them. -/
theorem exists_marker {front : List Char} {c : Char} {span : Span} (absent : '{' ∉ front)
    (member : span ∈ markers (front ++ [c])) :
    ∃ before gap, front = before ++ (actionShorthand ++ gap) ∧ isBlankText gap = true := by
  obtain ⟨before, gap, rest, whole, blank, _⟩ := mem_markers.mp member
  rw [← List.append_assoc] at whole
  obtain ⟨more, split, last⟩ := append_eq_append_cons_of_not_mem absent whole
  obtain rfl : more = [] := by
    have length := congrArg List.length last
    simp only [List.length_append, List.length_cons, List.length_nil] at length
    exact List.eq_nil_of_length_eq_zero (by omega)
  exact ⟨_, gap, (split.trans (List.append_nil _)).symm, blank⟩

theorem markers_blank {gap : List Char} (blank : isBlankText gap = true) (c : Char) :
    markers (gap ++ [c]) = [] := by
  have absent : '{' ∉ gap := fun member => absurd (Row.flat_blank blank _ member) (by decide)
  refine List.eq_nil_iff_forall_not_mem.mpr fun found member => ?_
  obtain ⟨before, inner, rfl, _⟩ := exists_marker absent member
  exact absurd (isBlankText_iff.mp blank '@' (by simp [actionShorthand])) (by decide)

/-- Between a shorthand and its brace there is no `=`. -/
theorem markers_assigned {front : List Char} (absent : '{' ∉ front) (c : Char) :
    markers (front ++ [' ', '=', ' '] ++ [c]) = [] := by
  refine List.eq_nil_iff_forall_not_mem.mpr fun found member => ?_
  obtain ⟨before, gap, split, blank⟩ := exists_marker (by simp [absent]) member
  have back := congrArg List.reverse split
  simp only [actionShorthand, List.reverse_append, List.reverse_cons, List.reverse_nil, List.nil_append,
    List.append_assoc, List.cons_append] at back
  have blanks : ∀ b ∈ gap.reverse, isBlank b = true := fun b member =>
    isBlankText_iff.mp blank b (List.mem_reverse.mp member)
  generalize gap.reverse = behind at blanks back
  rcases behind with _ | ⟨first, _ | ⟨sign, more⟩⟩
  · simp at back
  · simp at back
  · simp only [List.cons_append, List.cons.injEq] at back
    have visible := blanks sign (by simp)
    rw [← back.2.1] at visible
    cases visible

/-- The identifier at the start of a name ends where the name ends, or before another sign of the name. -/
theorem leadingWord?_name {name word rest : List Char} (read : leadingWord? (name ++ ' ' :: rest) = some word) :
    word = name ∨ ∃ c further, name = word ++ c :: further := by
  obtain ⟨split, _, ident⟩ := leadingWord?_eq_some read
  rcases List.append_eq_append_iff.mp split with ⟨longer, rfl, behind⟩ | ⟨further, shorter, _⟩
  · match longer, behind with
    | [], _ => exact .inl (List.append_nil _)
    | c :: longer, behind =>
      obtain ⟨rfl, _⟩ := List.cons.inj behind
      exact absurd (List.all_eq_true.mp ident ' ' (by simp)) (by decide)
  · match further, shorter with
    | [], shorter => exact .inl (shorter.trans (List.append_nil _)).symm
    | c :: further, shorter => exact .inr ⟨c, further, shorter⟩

theorem Word.isBlank_eq_false {name : Word} {c : Char} (member : c ∈ name.text) : isBlank c = false := by
  have plain := List.all_eq_true.mp name.plain c member
  simp only [isPlain, Bool.and_eq_true, Bool.not_eq_true'] at plain
  exact plain.1.1.1

theorem Word.firstColumn? {code : CodeLine} {gap rest : List Char} (name : Word) (blank : isBlankText gap = true)
    (chars : code.chars = gap ++ (name.text ++ rest)) : code.firstColumn? = some gap.length := by
  obtain ⟨c, more, spelled⟩ := List.exists_cons_of_ne_nil name.filled
  have visible : isBlank c = false := name.isBlank_eq_false (by simp [spelled])
  rw [spelled, List.cons_append] at chars
  exact firstColumn?_append blank visible chars

theorem actionMarker?_named {gap : List Char} {name : Word} {enclosure : Enclosure}
    (blank : isBlankText gap = true) (ordinary : name.text ∉ actionKeywords) :
    actionMarker? ((Row.opening (some name) enclosure).code gap) = none := by
  set code := (Row.opening (some name) enclosure).code gap with laid
  have chars : code.chars = gap ++ (name.text ++ ([' ', '=', ' '] ++ [enclosure.opener])) := by
    rw [laid, Row.code, Row.shown, Row.print, List.append_assoc]
  have dropped : code.chars.drop gap.length = name.text ++ ([' ', '=', ' '] ++ [enclosure.opener]) := by
    rw [chars, List.drop_left]
  rw [actionMarker?, name.firstColumn? blank chars]
  dsimp only
  cases read : (code.wordAt? gap.length).filter (actionKeywords.contains ·) with
  | none =>
    have absent : '{' ∉ gap ++ name.text := by
      rw [List.mem_append, not_or]
      exact ⟨fun member => absurd (Row.flat_blank blank _ member) (by decide),
        fun member => absurd (List.all_eq_true.mp name.plain _ member) (by decide)⟩
    have none := markers_assigned absent enclosure.opener
    rw [List.append_assoc, List.append_assoc, ← chars] at none
    simp only [shorthandColumn?_eq, none, List.head?_nil, Option.map_none]
  | some word =>
    obtain ⟨word?, keyword⟩ := Option.filter_eq_some_iff.mp read
    rw [CodeLine.wordAt?, dropped] at word?
    rcases leadingWord?_name word? with rfl | ⟨c, further, shorter⟩
    · exact absurd (List.contains_iff_mem.mp keyword) ordinary
    · have member : c ∈ name.text := shorter ▸ List.mem_append_right _ List.mem_cons_self
      have next : code.chars.drop (gap.length + word.length) =
          c :: (further ++ ([' ', '=', ' '] ++ [enclosure.opener])) := by
        rw [← List.drop_drop, dropped, shorter, List.append_assoc, List.drop_left, List.cons_append]
      have sign : code.chars[gap.length + word.length]? = some c := by
        rw [← List.head?_drop, next, List.head?_cons]
      dsimp only
      rw [next, List.takeWhile_cons_of_neg (by simp [name.isBlank_eq_false member]), List.length_nil, Nat.add_zero,
        sign, if_neg]
      exact fun same => isPlain_ne (List.all_eq_true.mp name.plain c member) rfl (Option.some.inj same)

/-- An opening row marks no action block, unless its name is an action keyword. -/
theorem actionMarker?_opening {gap : List Char} {name : Option Word} {enclosure : Enclosure}
    (blank : isBlankText gap = true) (ordinary : ∀ word ∈ name, word.text ∉ actionKeywords) :
    actionMarker? ((Row.opening name enclosure).code gap) = none := by
  cases name with
  | some name => exact actionMarker?_named blank (ordinary name rfl)
  | none =>
    have visible : isBlank enclosure.opener = false := by cases enclosure <;> rfl
    have word : ((Row.opening none enclosure).code gap).wordAt? gap.length = none := by
      rw [CodeLine.wordAt?, Row.code, List.drop_left]
      cases enclosure <;> rfl
    have chars : ((Row.opening none enclosure).code gap).chars = gap ++ [enclosure.opener] := rfl
    rw [actionMarker?, firstColumn?_append blank visible chars]
    dsimp only
    rw [word, chars, shorthandColumn?_eq, markers_blank blank]
    rfl

section Line

variable {gap : List Char} {name : Word} {value : Scalar}

/-- What a reader of the code sees of a statement. -/
def Row.statementShown (name : Word) (value : Scalar) : List Char := name.text ++ [' ', '=', ' '] ++ value.shown

theorem Row.shown_statement (name : Word) (value : Scalar) : Shown (statement name value) (statementShown name value) :=
  (name.shown.append (.self (by simp [commentMarker]))).append value.shown_text

theorem Row.length_statementShown (name : Word) (value : Scalar) :
    (statementShown name value).length = (statement name value).length := by
  cases value <;> simp [statement, statementShown, Scalar.text, Scalar.shown]

theorem Row.flat_statement (blank : isBlankText gap = true) (name : Word) (value : Scalar) :
    Flat (gap ++ statementShown name value) :=
  List.forall_mem_append.mpr ⟨flat_blank blank, List.forall_mem_append.mpr ⟨flat_lead name, flat_shown value⟩⟩

theorem Row.trim_statement (blank : isBlankText gap = true) (name : Word) (value : Scalar) :
    trim (gap ++ statementShown name value) = statementShown name value := by
  obtain ⟨c, more, spelled⟩ := List.exists_cons_of_ne_nil name.filled
  have visible : isBlank c = false := name.isBlank_eq_false (by simp [spelled])
  obtain ⟨front, last, ends, final⟩ := value.exists_last
  rw [trim, trimStart_append blank, statementShown, spelled, List.cons_append, List.cons_append,
    trimStart_cons visible, ends, ← List.append_assoc, ← List.cons_append,
    trimEnd_concat (isBlank_eq_false_of_endsScalar final)]

/-- The code of a statement that stands after the blanks `gap`. -/
def Row.unended (gap : List Char) (name : Word) (value : Scalar) : CodeLine :=
  ⟨gap ++ statementShown name value, false, false⟩

/-- Neither a sign nor a keyword at its start exempts the line. -/
theorem Row.isExempt_unended (letters : name.text.all isIdentChar = true) (assigns : name.text ∉ controlKeywords) :
    (unended gap name value).isExempt gap.length = false := by
  obtain ⟨c, more, spelled⟩ := List.exists_cons_of_ne_nil name.filled
  have plain : isPlain c = true := List.all_eq_true.mp name.plain c (by simp [spelled])
  have first : (unended gap name value).chars[gap.length]? = some c := by simp [unended, statementShown, spelled]
  have word : (unended gap name value).wordAt? gap.length =
      leadingWord? (name.text ++ ' ' :: ('=' :: ' ' :: value.shown)) := by
    rw [CodeLine.wordAt?, unended, List.drop_left, statementShown, List.append_assoc]
    rfl
  have ordinary : (leadingWord? (name.text ++ ' ' :: ('=' :: ' ' :: value.shown))).any
      (controlKeywords.contains ·) = false := by
    rw [leadingWord?, List.takeWhile_append_of_pos (List.all_eq_true.mp letters)]
    split
    · simpa [isIdentChar, isAsciiLetter, isAsciiDigit] using assigns
    · rfl
  have sign {d : Char} (other : isPlain d = false) : c ≠ d := isPlain_ne plain other
  rw [CodeLine.isExempt, first]
  dsimp only
  rw [word, ordinary]
  simp [isCloser, @sign ')' rfl, @sign ']' rfl, @sign '}' rfl, @sign ';' rfl, @sign '(' rfl]

theorem endsWith_last {ending front : List Char} {c : Char} (filled : ending ≠ [])
    (suffix : endsWith ending (front ++ [c]) = true) : ending.getLast? = some c := by
  obtain ⟨start, split⟩ := List.isSuffixOf_iff_suffix.mp suffix
  rw [← List.getLast?_append_of_ne_nil start filled, split, List.getLast?_concat]

theorem Row.endsWithAny_unended (gap : List Char) (name : Word) (value : Scalar) :
    (unended gap name value).endsWithAny statementEndings = false := by
  obtain ⟨front, c, ends, final⟩ := value.exists_last
  have chars : (unended gap name value).chars = gap ++ (name.text ++ [' ', '=', ' '] ++ front) ++ [c] := by
    simp [unended, statementShown, ends]
  refine List.any_eq_false.mpr fun ending member suffix => ?_
  have other : ∀ ending ∈ statementEndings,
      ending ≠ [] ∧ ending.getLast?.all (fun d => !endsScalar d) = true := by decide
  obtain ⟨filled, sign⟩ := other ending member
  rw [chars] at suffix
  simp [endsWith_last filled suffix, final] at sign

theorem Row.checkStatement_unended (blank : isBlankText gap = true) (letters : name.text.all isIdentChar = true)
    (assigns : name.text ∉ controlKeywords) (number : Nat) :
    checkStatement number (unended gap name value) false =
      [⟨.missingTerminator, .onLine number gap.length (statement name value).length⟩] := by
  have start : (unended gap name value).firstColumn? = some gap.length :=
    name.firstColumn? blank (congrArg (gap ++ ·) (List.append_assoc ..))
  have sign : (unended gap name value).chars.contains '=' = true := by simp [unended, statementShown]
  have trimmed : (unended gap name value).trimmed.length = (statement name value).length := by
    rw [CodeLine.trimmed, unended, trim_statement blank, length_statementShown]
  rw [checkStatement, start]
  dsimp only
  rw [isExempt_unended letters assigns, Bool.or_false, if_neg Bool.false_ne_true, if_pos sign, endsWithAny_unended,
    if_neg Bool.false_ne_true, trimmed]

theorem Row.expectsValue_unended (gap : List Char) (name : Word) (value : Scalar) :
    (unended gap name value).expectsValue = false := by
  obtain ⟨front, c, ends, final⟩ := value.exists_last
  have chars : (unended gap name value).chars = gap ++ (name.text ++ [' ', '=', ' '] ++ front) ++ [c] := by
    simp [unended, statementShown, ends]
  rw [CodeLine.expectsValue, chars, endsWith_concat, endsWithContinuation_eq_false chars
    (isBlank_eq_false_of_endsScalar final) (ne_of_endsScalar final rfl) (ne_of_endsScalar final rfl), Bool.or_false]
  exact beq_eq_false_iff_ne.mpr (ne_of_endsScalar final rfl).symm

/-- The line reports what it lacks, and leaves the scan where it was. -/
theorem Row.line_unended {nesting : Nesting} (blank : isBlankText gap = true)
    (letters : name.text.all isIdentChar = true) (assigns : name.text ∉ controlKeywords)
    (noBlock : nesting.block = none) (noArray : nesting.arrayDepth = 0) (number : Nat) (rest : List CodeLine) :
    ScanState.line ⟨nesting, false⟩ number (unended gap name value) rest =
      ([⟨.missingTerminator, .onLine number gap.length (statement name value).length⟩], ⟨nesting, false⟩) := by
  have flat : Flat (unended gap name value).chars := flat_statement blank name value
  have absent : '}' ∉ (unended gap name value).chars := fun member => absurd (flat _ member) (by decide)
  obtain ⟨glued, ended⟩ := followers_eq_nil number [] rest absent
  have brackets : scanBrackets nesting number (unended gap name value) =
      ⟨nesting, actionMarker? (unended gap name value), [], []⟩ := BracketPass.run_flat flat number _ 0
  have raw : (unended gap name value).startsRaw = false := rfl
  simp only [ScanState.line, brackets, raw, glued, ended, noBlock, noArray,
    checkStatement_unended blank letters assigns, expectsValue_unended]
  simp

end Line

/-- Outside arrays and action blocks, rows with such a line between them report this line only, and leave the scan
as it came to them. -/
def Reports (name : Word) (value : Scalar) (above below : List Row) : Prop :=
  ∀ (nesting : Nesting) (number : Nat) (front back : List (List Char)) (gap : List Char) (rest : List CodeLine),
    nesting.Sound → nesting.block = none → nesting.arrayDepth = 0 → PrintedAs front above → PrintedAs back below →
      isBlankText gap = true →
        ScanState.run ⟨nesting, false⟩ number (front.map (CodeLine.ofText false) ++
            Row.unended gap name value :: (back.map (CodeLine.ofText false) ++ rest)) =
          ⟨.missingTerminator, .onLine (number + front.length) gap.length (Row.statement name value).length⟩ ::
            ScanState.run ⟨nesting, false⟩ (number + front.length + 1 + back.length) rest

section Reports

variable {name : Word} {value : Scalar} {above below : List Row}

/-- A set that is no action block takes what it holds for what stands outside of it. -/
theorem Reports.run_enclosed (reports : Reports name value above below) {other : Option Word} {ended : Bool}
    (ordinary : ∀ word ∈ other, word.text ∉ actionKeywords) {nesting : Nesting} (sound : nesting.Sound)
    (noBlock : nesting.block = none) (noArray : nesting.arrayDepth = 0) {first last : List Char}
    {front back : List (List Char)} {gap : List Char} {rest : List CodeLine}
    (opened : trimStart first = (Row.opening other .set).text) (printed : PrintedAs front above)
    (printed' : PrintedAs back below) (closed : trimStart last = (Row.closing .set ended).text)
    (blank : isBlankText gap = true) (follows : ended = true ∨ rest = []) (number : Nat) :
    ScanState.run ⟨nesting, false⟩ number (CodeLine.ofText false first :: (front.map (CodeLine.ofText false) ++
        Row.unended gap name value :: (back.map (CodeLine.ofText false) ++ CodeLine.ofText false last :: rest))) =
      ⟨.missingTerminator, .onLine (number + 1 + front.length) gap.length (Row.statement name value).length⟩ ::
        ScanState.run ⟨nesting, false⟩ (number + 1 + front.length + 1 + back.length + 1) rest := by
  obtain ⟨space, blank', opening⟩ := Row.exists_code opened
  obtain ⟨space', blank'', closing⟩ := Row.exists_code closed
  obtain ⟨column, pushed⟩ := Row.line_opening ⟨nesting, false⟩ number other .set blank'
    (front.map (CodeLine.ofText false) ++
      Row.unended gap name value :: (back.map (CodeLine.ofText false) ++ CodeLine.ofText false last :: rest))
  rw [actionMarker?_opening blank' ordinary, Option.any_none] at pushed
  have inner : (nesting.push ⟨Enclosure.opener .set, number, column⟩ false).block = none := by
    simp [Nesting.push, Nesting.enters, noBlock]
  have depth : (nesting.push ⟨Enclosure.opener .set, number, column⟩ false).arrayDepth = 0 := by
    simp [Nesting.push, Enclosure.opener, noArray]
  rw [opening, ScanState.run, pushed, List.nil_append,
    reports _ _ front back gap _ (sound.push _ false) inner depth printed printed' blank, closing, ScanState.run,
    Row.line_closing .set ended blank'' (Nesting.closes_push rfl false) (follows.imp_right .inr), List.nil_append]
  dsimp only
  rw [Nesting.pop_push sound rfl false]

theorem Reports.here (letters : name.text.all isIdentChar = true) (assigns : name.text ∉ controlKeywords)
    (calm : Calm 0 below) : Reports name value [] below := by
  intro nesting number front back gap rest sound noBlock noArray printed printed' blank
  obtain rfl := List.map_eq_nil_iff.mp printed
  rw [List.map_nil, List.nil_append, ScanState.run, Row.line_unended blank letters assigns noBlock noArray,
    calm nesting _ back rest sound (Nat.zero_le _) printed']
  rfl

theorem Reports.after {head : List Row} (calm : Calm 0 head) (reports : Reports name value above below) :
    Reports name value (head ++ above) below := by
  intro nesting number front back gap rest sound noBlock noArray printed printed' blank
  rw [PrintedAs, List.map_append] at printed
  obtain ⟨upper, lower, rfl, printed, printed''⟩ := List.map_eq_append_iff.mp printed
  rw [List.map_append, List.append_assoc, calm nesting number upper _ sound (Nat.zero_le _) printed,
    reports nesting _ lower back gap rest sound noBlock noArray printed'' printed' blank, List.length_append,
    Nat.add_assoc number]

theorem Reports.inside {other : Word} {more : List Row} (ordinary : other.text ∉ actionKeywords)
    (reports : Reports name value above below) (calm : Calm 0 more) :
    Reports name value (.opening (some other) .set :: above) (below ++ .closing .set true :: more) := by
  intro nesting number front back gap rest sound noBlock noArray printed printed' blank
  rw [PrintedAs, List.map_cons] at printed
  rw [PrintedAs, List.map_append, List.map_cons] at printed'
  obtain ⟨first, front, rfl, opened, listed⟩ := List.map_eq_cons_iff.mp printed
  obtain ⟨back, further, rfl, listed', ends⟩ := List.map_eq_append_iff.mp printed'
  obtain ⟨last, further, rfl, closed, listed''⟩ := List.map_eq_cons_iff.mp ends
  have ordinary' : ∀ word ∈ some other, word.text ∉ actionKeywords := fun word same => by
    obtain rfl := Option.mem_some.mp same
    exact ordinary
  rw [List.map_cons, List.cons_append, List.map_append, List.map_cons, List.append_assoc, List.cons_append,
    reports.run_enclosed ordinary' sound noBlock noArray opened listed listed' closed blank (.inl rfl) number,
    calm nesting _ further rest sound (Nat.zero_le _) listed'', List.length_cons, List.length_append, List.length_cons,
    show number + 1 + front.length = number + (front.length + 1) by omega]
  congr 2
  omega

end Reports

/-- Wherever a tree binds a name outside arrays and action blocks, the rows around this binding are scanned so. -/
theorem Attributes.Binds.reports {name : Word} {value : Scalar} {tree : Attributes} {above below : List Row}
    (binds : tree.Binds name value above below) (letters : name.text.all isIdentChar = true)
    (assigns : name.text ∉ controlKeywords) : Reports name value above below := by
  induction binds with
  | here rest => exact .here letters assigns rest.calm
  | @afterScalar _ above below other first later ih =>
    have calm : Calm 0 [.binding other first] := .cons (fun _ _ _ _ _ blank => Row.line_binding other first blank) .nil
    exact Reports.after calm ih
  | afterSet other inner later ih =>
    have calm : Calm 0 (.opening (some other) .set :: (inner.rows ++ [.closing .set true])) :=
      .enclosed inner.calm (Nat.zero_le _) (.inl rfl) .nil
    simpa using Reports.after calm ih
  | afterArray other elements later ih =>
    have calm : Calm 0 (.opening (some other) .array :: (elements.rows ++ [.closing .array true])) :=
      .enclosed elements.calm (Nat.le_refl _) (.inl rfl) .nil
    simpa using Reports.after calm ih
  | inside other rest ordinary nested ih => exact ih.inside ordinary rest.calm

/-- The code of a document with such a line between printed ones. -/
theorem ofDocument_unended {start more indent gap : List Char} {name : Word} {value : Scalar} {above below : List Row}
    (complete : lineBefore start = []) (upper : PrintedAs (lines start) above) (lower : PrintedAs (lines more) below)
    (blank : isBlankText indent = true) (blank' : isBlankText gap = true)
    (single : '\n' ∉ indent ++ Row.statement name value ++ gap) :
    CodeLine.ofDocument (start ++ (indent ++ Row.statement name value ++ gap ++ '\n' :: more)) =
      (lines start).map (CodeLine.ofText false) ++
        Row.unended indent name value :: (lines more).map (CodeLine.ofText false) := by
  obtain ⟨front, c, ends, final⟩ := value.exists_last
  have split : Row.statementShown name value = name.text ++ [' ', '=', ' '] ++ front ++ [c] := by
    simp [Row.statementShown, ends]
  have read : CodeLine.ofText false (indent ++ Row.statement name value) = Row.unended indent name value :=
    (Row.shown_statement name value).ofText blank split (isBlank_eq_false_of_endsScalar final)
  have below := ofLines_printed lower []
  rw [List.append_nil, show CodeLine.ofLines false [] = [] from rfl, List.append_nil] at below
  rw [CodeLine.ofDocument, lines_append complete, lines_newline single, ofLines_printed upper, CodeLine.ofLines,
    CodeLine.ofText_chopReturn _ single, CodeLine.ofText_append_blank _ single blank', read,
    show (Row.unended indent name value).endsRaw = false from rfl, below]

/-- A statement that ends with `;` on a line of its own, outside arrays and action blocks: without this `;` it is
reported from its name to the end of its value, and nothing else is. -/
theorem missing_terminator_exact {name : Word} {value : Scalar} {tree : Attributes} {above below : List Row}
    (binds : tree.Binds name value above below) (letters : name.text.all isIdentChar = true)
    (assigns : name.text ∉ controlKeywords) {text : List Char} (printed : PrintedAs (lines text) tree.document) :
    ∃ before after indent, text = before ++ ';' :: after ∧ before.count '\n' = above.length + 1 ∧
      lineBefore before = indent ++ Row.statement name value ∧ isBlankText indent = true ∧ endsLine after = true ∧
      (scan (before ++ after)).map Finding.diagnostic =
        [⟨.onLine (above.length + 1) indent.length (Row.statement name value).length,
          "Missing ';' at end of statement", .error, .statementShape⟩] := by
  have whole := printed
  rw [PrintedAs, Attributes.document, binds.rows_eq, List.map_cons, List.map_append, List.map_append, List.map_cons,
    List.append_assoc, List.cons_append] at whole
  obtain ⟨first, further, listed, opened, inner⟩ := List.map_eq_cons_iff.mp whole
  obtain ⟨front, lower, rfl, printedAbove, inner⟩ := List.map_eq_append_iff.mp inner
  obtain ⟨line, lower, rfl, own, inner⟩ := List.map_eq_cons_iff.mp inner
  obtain ⟨back, ends, rfl, printedBelow, inner⟩ := List.map_eq_append_iff.mp inner
  obtain ⟨last, rfl, closed⟩ := List.map_eq_singleton_iff.mp inner
  rw [← List.cons_append] at listed
  obtain ⟨start, gap, rest, rfl, complete, listedAbove, single, blank, stops⟩ := exists_lines_split listed
  obtain ⟨indent, blank', split⟩ := exists_blank_append_trimStart line
  rw [own] at split
  obtain rfl : indent ++ Row.statement name value ++ [';'] = line := by rw [List.append_assoc]; exact split
  obtain ⟨rfl, none⟩ | ⟨more, rfl, listedBelow⟩ := stops
  · simp at none
  have bare : '\n' ∉ indent ++ Row.statement name value ++ gap := fun member => single (by simp at member ⊢; tauto)
  have bare' : '\n' ∉ indent ++ Row.statement name value := fun member => bare (List.mem_append_left _ member)
  have upper : PrintedAs (lines start) (.opening none .set :: above) := by
    rw [listedAbove, PrintedAs, List.map_cons, opened, printedAbove, List.map_cons]
  have lower : PrintedAs (lines more) (below ++ [.closing .set false]) := by
    rw [listedBelow, PrintedAs, List.map_append, List.map_append, printedBelow, List.map_singleton, closed,
      List.map_singleton]
  have codes := ofDocument_unended complete upper lower blank' blank bare
  have row : start.count '\n' = above.length + 1 := by
    rw [← length_lines_of_whole complete, ← List.length_map, upper, List.length_map, List.length_cons]
  have sound : Nesting.Sound {} := fun _ none => absurd none (Option.not_mem_none _)
  have found := (binds.reports letters assigns).run_enclosed (fun _ none => absurd none (Option.not_mem_none _))
    sound rfl rfl opened printedAbove printedBelow closed blank' (.inr rfl) 0
  refine ⟨start ++ (indent ++ Row.statement name value), gap ++ '\n' :: more, indent, by simp, ?_, ?_, blank',
    endsLine_newline blank (fun member => bare (List.mem_append_right _ member)) more, ?_⟩
  · rw [List.count_append, List.count_eq_zero_of_not_mem bare', Nat.add_zero, row]
  · rw [lineBefore_append bare', complete, List.nil_append]
  · have row' : 0 + 1 + front.length = above.length + 1 := by
      rw [Nat.zero_add, Nat.add_comm, ← List.length_map trimStart, printedAbove, List.length_map]
    rw [List.append_assoc, ← List.append_assoc _ gap, scan, codes, listedAbove, listedBelow, List.map_cons,
      List.map_append, List.cons_append, List.map_singleton, found, List.map_cons, row']
    rfl

/-- In a set below an action block and an array, where the value holds a `;` and the line ends with a carriage
return. -/
theorem missing_terminator_nested :
    ∃ before after indent, ("\x7b\n  _onEnter = \x7b\n  1x = 1;\n  \x7d;\nlist = [\n  \"a\"\n];\n a = \x7b\n" ++
        "\tb-c = \"d; = \x7b\";\r\n \x7d;\n n = 2;\n\x7d").toList = before ++ ';' :: after ∧
      before.count '\n' = 8 ∧ lineBefore before = indent ++ "b-c = \"d; = \x7b\"".toList ∧
      isBlankText indent = true ∧ endsLine after = true ∧
      (scan (before ++ after)).map Finding.diagnostic =
        [⟨.onLine 8 indent.length 14, "Missing ';' at end of statement", .error, .statementShape⟩] := by
  have binds : Attributes.Binds ⟨"b-c".toList, by decide, by decide⟩ (.string "d; = \x7b".toList (by decide)) _ _ _ :=
    .afterSet ⟨"_onEnter".toList, by decide, by decide⟩
      (.scalar ⟨"1x".toList, by decide, by decide⟩ (.number "1".toList (by decide) (by decide)) .nil)
      (.afterArray ⟨"list".toList, by decide, by decide⟩ (.scalar (.string "a".toList (by decide)) .nil)
        (.inside ⟨"a".toList, by decide, by decide⟩
          (.scalar ⟨"n".toList, by decide, by decide⟩ (.number "2".toList (by decide) (by decide)) .nil) (by decide)
          (.here .nil)))
  refine missing_terminator_exact binds (by decide) (by decide) ?_
  unfold PrintedAs
  decide +kernel

end Dialect
