import Dialect.Proofs.Structure.Bracket
import Dialect.Proofs.Structure.Tree

/-! The scan of a document that is laid out in rows. A row without brackets leaves everything as it was, an
opening row pushes its bracket and the closing row of the same enclosure takes it away again, so that whatever
stands inside an enclosure is scanned with nothing found, the scan is back where it was behind it. -/
namespace Dialect

/-- An action block lies inside the brackets that are open. -/
def Nesting.Sound (nesting : Nesting) : Prop := ∀ depth ∈ nesting.block, depth ≤ nesting.stack.length

/-- How many arrays an enclosure opens. -/
def Enclosure.arrays : Enclosure → Nat
  | .set => 0
  | .array => 1

namespace Nesting

variable {nesting : Nesting} {b : Bracket} {enclosure : Enclosure}

theorem Sound.push (sound : nesting.Sound) (b : Bracket) (marked : Bool) : (nesting.push b marked).Sound := by
  intro depth entered
  rw [Nesting.push] at entered ⊢
  dsimp only at entered ⊢
  split at entered
  · obtain rfl := Option.mem_some.mp entered
    exact Nat.le_refl _
  · exact Nat.le_succ_of_le (sound depth entered)

theorem arrayDepth_push (fits : b.char = enclosure.opener) (marked : Bool) :
    (nesting.push b marked).arrayDepth = nesting.arrayDepth + enclosure.arrays := by
  cases enclosure <;> simp [Nesting.push, fits, Enclosure.opener, Enclosure.arrays]

theorem closes_push (fits : b.char = enclosure.opener) (marked : Bool) :
    (nesting.push b marked).closes enclosure.closer = true := by
  cases enclosure <;> simp [Nesting.push, Nesting.closes, fits, closerOf, Enclosure.opener, Enclosure.closer]

theorem Sound.filter (sound : nesting.Sound) :
    nesting.block.filter (fun depth => depth ≤ nesting.stack.length) = nesting.block := by
  cases block : nesting.block with
  | none => rfl
  | some depth => exact if_pos (decide_eq_true (sound depth block))

/-- The closer of an enclosure undoes its opener, and leaves an action block that this has entered. -/
theorem pop_push (sound : nesting.Sound) (fits : b.char = enclosure.opener) (marked : Bool) :
    (nesting.push b marked).pop enclosure.closer = nesting := by
  have depth : ((nesting.push b marked).pop enclosure.closer).arrayDepth = nesting.arrayDepth := by
    cases enclosure <;> simp [Nesting.push, Nesting.pop, fits, Enclosure.opener, Enclosure.closer]
  have block : ((nesting.push b marked).pop enclosure.closer).block = nesting.block := by
    cases enters : nesting.enters b.char marked with
    | false =>
      rw [Nesting.pop, Nesting.push, enters]
      exact sound.filter
    | true =>
      have none : nesting.block = none := by
        simp only [Nesting.enters, Bool.and_eq_true, Option.isNone_iff_eq_none] at enters
        exact enters.2
      simp [Nesting.pop, Nesting.push, enters, none, Option.filter]
  calc (nesting.push b marked).pop enclosure.closer
      = ⟨nesting.stack, ((nesting.push b marked).pop enclosure.closer).arrayDepth,
          ((nesting.push b marked).pop enclosure.closer).block⟩ := rfl
    _ = nesting := by rw [depth, block]

end Nesting

def Flat (chars : List Char) : Prop := ∀ c ∈ chars, isBracket c = false

namespace BracketPass

theorem run_append (line : Nat) (pass : BracketPass) (column : Nat) (front back : List Char) :
    run line pass column (front ++ back) = run line (run line pass column front) (column + front.length) back := by
  induction front generalizing pass column with
  | nil => rfl
  | cons c front ih =>
    rw [List.cons_append, run, ih, run, List.length_cons]
    congr 1
    omega

theorem run_flat {chars : List Char} (flat : Flat chars) (line : Nat) (pass : BracketPass) (column : Nat) :
    run line pass column chars = pass := by
  induction chars generalizing column with
  | nil => rfl
  | cons c chars ih =>
    rw [run, step_other (flat c List.mem_cons_self), ih fun d member => flat d (List.mem_cons_of_mem c member)]

end BracketPass

section Line

variable {state : ScanState} {number : Nat} {code : CodeLine} {arrayClosers : List Nat}

theorem gluedWords_eq_nil
    (apart : ∀ column, code.chars[column]? = some '}' → code.wordAt? (column + 1) = none) :
    gluedWords number code arrayClosers = [] := by
  refine List.filterMap_eq_nil_iff.mpr fun ⟨c, column⟩ member => ?_
  have there := List.mem_zipIdx_iff_getElem?.mp member
  dsimp only at there ⊢
  split
  · next brace =>
    rw [apart column (brace.1 ▸ there)]
    rfl
  · rfl

/-- Only a closing brace asks for what follows it. -/
theorem followers_eq_nil (number : Nat) (arrayClosers : List Nat) (rest : List CodeLine)
    (absent : '}' ∉ code.chars) :
    gluedWords number code arrayClosers = [] ∧ openEnd number code rest arrayClosers = [] := by
  refine ⟨gluedWords_eq_nil fun column there => absurd (List.mem_of_getElem? there) absent, ?_⟩
  refine if_neg fun closed => absent ?_
  have suffix : ['}'] <:+ code.chars := List.isSuffixOf_iff_suffix.mp closed.1
  exact suffix.subset List.mem_cons_self

theorem endsWith_concat (front : List Char) (c d : Char) : endsWith [d] (front ++ [c]) = (d == c) := by
  simp [endsWith, List.isSuffixOf, List.isPrefixOf]

/-- A line that ends like a statement, or opens something without an `=`. -/
theorem checkStatement_eq_nil {front : List Char} {c : Char} {expectsValue : Bool}
    (last : code.chars = front ++ [c])
    (ends : if code.chars.contains '=' then [c] ∈ statementEndings else [c] ∈ openingEndings) :
    checkStatement number code expectsValue = [] := by
  have found {endings : List (List Char)} (member : [c] ∈ endings) : code.endsWithAny endings = true :=
    List.any_eq_true.mpr ⟨[c], member, by rw [last, endsWith_concat, beq_self_eq_true]⟩
  rw [checkStatement]
  split
  · rfl
  · split
    · rfl
    · dsimp only
      split at ends
      · next sign => rw [if_pos sign, if_pos (found ends)]
      · next sign => rw [if_neg sign, if_pos (found ends)]

theorem firstColumn?_append {gap rest : List Char} {c : Char} (blank : isBlankText gap = true)
    (visible : isBlank c = false) (chars : code.chars = gap ++ c :: rest) :
    code.firstColumn? = some gap.length := by
  have none : gap.findIdx? (fun d => !isBlank d) = none :=
    List.findIdx?_eq_none_iff.mpr fun d member => by simp [isBlankText_iff.mp blank d member]
  simp [CodeLine.firstColumn?, chars, List.findIdx?_append, none, List.findIdx?_cons, visible]

/-- A line that starts with a closer is no statement. -/
theorem checkStatement_closer {gap rest : List Char} {c : Char} {expectsValue : Bool}
    (blank : isBlankText gap = true) (visible : isBlank c = false) (closes : isCloser c = true)
    (chars : code.chars = gap ++ c :: rest) :
    checkStatement number code expectsValue = [] := by
  have exempt : code.isExempt gap.length = true := by simp [CodeLine.isExempt, chars, closes]
  rw [checkStatement, firstColumn?_append blank visible chars]
  dsimp only
  rw [exempt, Bool.or_true, if_pos rfl]

/-- A line on which no check of its shape finds anything leaves its brackets and its code to the next one. -/
theorem line_eq {rest : List CodeLine} {pass : BracketPass}
    (brackets : scanBrackets state.nesting number code = pass) (fit : pass.findings = [])
    (glued : gluedWords number code pass.arrayClosers = [])
    (ended : openEnd number code rest pass.arrayClosers = [])
    (shape : state.nesting.arrayDepth = 0 → checkStatement number code state.expectsValue = [])
    (filled : code.isBlank = false) :
    state.line number code rest = ([], ⟨pass.nesting, code.expectsValue⟩) := by
  subst brackets
  have statement : (if !code.startsRaw && state.nesting.block.isNone && state.nesting.arrayDepth == 0 &&
      (scanBrackets state.nesting number code).nesting.arrayDepth == 0 then
        checkStatement number code state.expectsValue else []) = [] := by
    split
    · next checked =>
      simp only [Bool.and_eq_true, beq_iff_eq] at checked
      exact shape checked.1.2
    · rfl
  simp only [ScanState.line, statement, fit, glued, ended, filled]
  simp

end Line

theorem exists_trim_concat {c : Char} (visible : isBlank c = false) (front : List Char) :
    ∃ rest, trim (front ++ [c]) = rest ++ [c] := by
  rw [trim, trimStart, List.dropWhile_append]
  split
  · exact ⟨[], by simp [visible, trimEnd]⟩
  · exact ⟨_, trimEnd_concat visible _⟩

theorem endsWithContinuation_eq_false {code : CodeLine} {front : List Char} {c : Char}
    (last : code.chars = front ++ [c]) (visible : isBlank c = false) (n : c ≠ 'n') (e : c ≠ 'e') :
    code.endsWithContinuation = false := by
  obtain ⟨rest, trimmed⟩ := exists_trim_concat visible front
  rw [CodeLine.endsWithContinuation, CodeLine.trimmed, last, trimmed, List.reverse_append, List.reverse_singleton,
    List.singleton_append, List.takeWhile_cons]
  split
  · have other (word : List Char) : continuationKeywords.contains (word ++ [c]) = false := by
      refine Bool.eq_false_iff.mpr fun member => ?_
      have keyword := List.contains_iff_mem.mp member
      simp only [continuationKeywords, List.mem_cons, List.not_mem_nil, or_false] at keyword
      rcases keyword with same | same | same
      all_goals
        have final := congrArg List.getLast? same
        rw [List.getLast?_concat] at final
        simp_all
    rw [List.reverse_cons]
    exact other _
  · rfl

namespace Row

variable {gap : List Char}

theorem expectsValue_code (gap : List Char) (row : Row) : (row.code gap).expectsValue = false := by
  obtain ⟨front, c, last, visible, sign, n, e⟩ := row.exists_last
  have chars : (row.code gap).chars = gap ++ front ++ [c] := by rw [code, last, List.append_assoc]
  rw [CodeLine.expectsValue, endsWithContinuation_eq_false chars visible n e, chars, endsWith_concat]
  simp [Ne.symm sign]

theorem isBlank_code (gap : List Char) (row : Row) : (row.code gap).isBlank = false := by
  obtain ⟨front, c, last, visible, _⟩ := row.exists_last
  simp [CodeLine.isBlank, code, last, visible]

theorem flat_blank (blank : isBlankText gap = true) : Flat gap := by
  intro c member
  have other {d : Char} (visible : isBlank d = false) : c ≠ d :=
    ne_of_isBlank (isBlankText_iff.mp blank c member) visible
  simp [isBracket, isOpener, isCloser, @other '(' rfl, @other '[' rfl, @other '{' rfl, @other ')' rfl,
    @other ']' rfl, @other '}' rfl]

theorem flat_plain {text : List Char} (plain : text.all isPlain = true) : Flat text := by
  intro c member
  have free := List.all_eq_true.mp plain c member
  simp only [isPlain, Bool.and_eq_true, Bool.not_eq_true'] at free
  simp [isBracket, free]

theorem flat_lead (name : Word) : Flat (name.text ++ [' ', '=', ' ']) :=
  List.forall_mem_append.mpr ⟨flat_plain name.plain, by simp [isBracket, isOpener, isCloser]⟩

theorem flat_shown (value : Scalar) : Flat value.shown := by
  cases value with
  | number digits filled decimal =>
    refine flat_plain (List.all_eq_true.mpr fun c member => ?_)
    exact isPlain_of_isAsciiDigit (List.all_eq_true.mp decimal c member)
  | string body unescaped =>
    intro c member
    simp only [Scalar.shown, List.mem_cons, List.mem_append, List.mem_map, List.not_mem_nil, or_false] at member
    rcases member with rfl | ⟨_, _, rfl⟩ | rfl <;> rfl

variable {state : ScanState} {number : Nat} {rest : List CodeLine}

/-- A row without brackets leaves the scan where it was. -/
theorem line_flat {row : Row} (flat : Flat row.shown) (blank : isBlankText gap = true)
    (shape : state.nesting.arrayDepth = 0 → checkStatement number (row.code gap) state.expectsValue = []) :
    state.line number (row.code gap) rest = ([], ⟨state.nesting, false⟩) := by
  have whole : Flat (row.code gap).chars := List.forall_mem_append.mpr ⟨flat_blank blank, flat⟩
  have absent : '}' ∉ (row.code gap).chars := fun member => absurd (whole _ member) (by decide)
  obtain ⟨glued, ended⟩ := followers_eq_nil number [] rest absent
  have brackets := BracketPass.run_flat whole number ⟨state.nesting, actionMarker? (row.code gap), [], []⟩ 0
  rw [line_eq brackets rfl glued ended shape (isBlank_code gap row), expectsValue_code]

theorem line_binding (name : Word) (value : Scalar) (blank : isBlankText gap = true) :
    state.line number ((Row.binding name value).code gap) rest = ([], ⟨state.nesting, false⟩) := by
  have flat : Flat (Row.binding name value).shown :=
    List.forall_mem_append.mpr ⟨List.forall_mem_append.mpr ⟨flat_lead name, flat_shown value⟩,
      by simp [isBracket, isOpener, isCloser]⟩
  have last : ((Row.binding name value).code gap).chars =
      gap ++ (name.text ++ [' ', '=', ' '] ++ value.shown) ++ [';'] := (List.append_assoc ..).symm
  have sign : ((Row.binding name value).code gap).chars.contains '=' = true := by simp [last]
  refine line_flat flat blank fun _ => checkStatement_eq_nil last ?_
  rw [if_pos sign]
  decide

theorem line_element (value : Scalar) (blank : isBlankText gap = true) (inside : 0 < state.nesting.arrayDepth) :
    state.line number ((Row.element value).code gap) rest = ([], ⟨state.nesting, false⟩) :=
  line_flat (flat_shown value) blank fun none => absurd none (Nat.pos_iff_ne_zero.mp inside)

/-- An opening row pushes its bracket, and enters an action block if a marker stands before it. -/
theorem line_opening (state : ScanState) (number : Nat) (name : Option Word) (enclosure : Enclosure)
    (blank : isBlankText gap = true) (rest : List CodeLine) :
    ∃ column, state.line number ((Row.opening name enclosure).code gap) rest =
      ([], ⟨state.nesting.push ⟨enclosure.opener, number, column⟩
        ((actionMarker? ((Row.opening name enclosure).code gap)).any (· ≤ column)), false⟩) := by
  obtain ⟨front, flat, last⟩ : ∃ front, Flat front ∧
      ((Row.opening name enclosure).code gap).chars = front ++ [enclosure.opener] := by
    cases name with
    | none => exact ⟨gap, flat_blank blank, rfl⟩
    | some name =>
      exact ⟨_, List.forall_mem_append.mpr ⟨flat_blank blank, flat_lead name⟩, (List.append_assoc ..).symm⟩
  have opens : isOpener enclosure.opener = true := by cases enclosure <;> rfl
  have brackets : scanBrackets state.nesting number ((Row.opening name enclosure).code gap) =
      BracketPass.step number ⟨state.nesting, actionMarker? ((Row.opening name enclosure).code gap), [], []⟩
        enclosure.opener (0 + front.length) := by
    rw [scanBrackets, last, BracketPass.run_append, BracketPass.run_flat flat]
    rfl
  rw [BracketPass.step, if_pos opens] at brackets
  have absent : '}' ∉ ((Row.opening name enclosure).code gap).chars := by
    rw [last, List.mem_append, not_or]
    refine ⟨fun member => absurd (flat _ member) (by decide), ?_⟩
    cases enclosure <;> decide
  obtain ⟨glued, ended⟩ := followers_eq_nil number [] rest absent
  have shape (expectsValue : Bool) :
      checkStatement number ((Row.opening name enclosure).code gap) expectsValue = [] := by
    refine checkStatement_eq_nil last ?_
    split <;> cases enclosure <;> decide
  rw [line_eq brackets rfl glued ended (fun _ => shape _) (isBlank_code gap _), expectsValue_code]
  exact ⟨_, rfl⟩

/-- What stands behind the closer of an enclosure. -/
def ending (ended : Bool) : List Char := if ended then [';'] else []

theorem chars_closing (gap : List Char) (enclosure : Enclosure) (ended : Bool) :
    ((Row.closing enclosure ended).code gap).chars = gap ++ enclosure.closer :: ending ended := by
  cases ended <;> rfl

theorem gluedWords_closing (enclosure : Enclosure) (ended : Bool) (blank : isBlankText gap = true)
    (arrayClosers : List Nat) :
    gluedWords number ((Row.closing enclosure ended).code gap) arrayClosers = [] := by
  refine gluedWords_eq_nil fun column there => ?_
  have absent : '}' ∉ gap := fun member => absurd (flat_blank blank _ member) (by decide)
  have absent' : '}' ∉ ending ended := by cases ended <;> decide
  rw [chars_closing] at there
  have place : column = gap.length := by
    rcases Nat.lt_trichotomy column gap.length with low | same | high
    · rw [List.getElem?_append_left low] at there
      exact absurd (List.mem_of_getElem? there) absent
    · exact same
    · obtain ⟨further, split⟩ : ∃ further, column - gap.length = further + 1 :=
        ⟨column - gap.length - 1, by omega⟩
      rw [List.getElem?_append_right (Nat.le_of_lt high), split, List.getElem?_cons_succ] at there
      exact absurd (List.mem_of_getElem? there) absent'
  have behind : (gap ++ enclosure.closer :: ending ended).drop (gap.length + 1) = ending ended := by
    rw [List.append_cons, List.drop_left' (by simp)]
  rw [CodeLine.wordAt?, chars_closing, place, behind]
  cases ended <;> rfl

theorem openEnd_closing {arrayDepth : Nat} (enclosure : Enclosure) (ended : Bool)
    (follows : ended = true ∨ 0 < arrayDepth ∨ rest = []) :
    openEnd number ((Row.closing enclosure ended).code gap) rest
      (if enclosure.closer = '}' ∧ 0 < arrayDepth then [] ++ [0 + gap.length] else []) = [] := by
  rw [openEnd, chars_closing]
  cases ended with
  | true =>
    refine if_neg fun closed => ?_
    have sign := closed.1
    rw [List.append_cons, show ending true = [';'] from rfl, endsWith_concat] at sign
    cases sign
  | false =>
    rcases follows with same | inside | rfl
    · cases same
    · refine if_neg fun closed => closed.2 ?_
      have sign := closed.1
      rw [show ending false = [] from rfl, endsWith_concat] at sign
      simp [(beq_iff_eq.mp sign).symm, inside, ending]
    · rw [List.find?_nil]
      exact ite_self []

/-- A closing row pops the bracket of its enclosure. Nothing has to follow its brace if a `;` does, within an
array, and at the end of the document. -/
theorem line_closing (enclosure : Enclosure) (ended : Bool) (blank : isBlankText gap = true)
    (fits : state.nesting.closes enclosure.closer = true)
    (follows : ended = true ∨ 0 < state.nesting.arrayDepth ∨ rest = []) :
    state.line number ((Row.closing enclosure ended).code gap) rest =
      ([], ⟨state.nesting.pop enclosure.closer, false⟩) := by
  have closes : isCloser enclosure.closer = true := by cases enclosure <;> rfl
  have other : isOpener enclosure.closer = false := by cases enclosure <;> rfl
  have visible : isBlank enclosure.closer = false := by cases enclosure <;> rfl
  have flat : Flat (ending ended) := by cases ended <;> simp [Flat, ending, isBracket, isOpener, isCloser]
  have brackets : scanBrackets state.nesting number ((Row.closing enclosure ended).code gap) =
      BracketPass.step number ⟨state.nesting, actionMarker? ((Row.closing enclosure ended).code gap), [], []⟩
        enclosure.closer (0 + gap.length) := by
    rw [scanBrackets, chars_closing, BracketPass.run_append, BracketPass.run_flat (flat_blank blank),
      BracketPass.run, BracketPass.run_flat flat]
  rw [BracketPass.step, if_neg (by simp [other]), if_pos closes] at brackets
  rw [line_eq brackets (if_pos fits) (gluedWords_closing enclosure ended blank _)
    (openEnd_closing enclosure ended follows)
    (fun _ => checkStatement_closer blank visible closes (chars_closing gap enclosure ended)) (isBlank_code gap _),
    expectsValue_code]

end Row

/-- Lines that a scan leaves as it came to them, with nothing found, if at least so many arrays are open. -/
def Calm (arrays : Nat) (rows : List Row) : Prop :=
  ∀ (nesting : Nesting) (number : Nat) (found : List (List Char)) (rest : List CodeLine), nesting.Sound →
    arrays ≤ nesting.arrayDepth → PrintedAs found rows →
      ScanState.run ⟨nesting, false⟩ number (found.map (CodeLine.ofText false) ++ rest) =
        ScanState.run ⟨nesting, false⟩ (number + found.length) rest

/-- Behind an enclosure the scan is back where it was before it. -/
theorem run_enclosed {inner : Nat} {name : Option Word} {enclosure : Enclosure} {ended : Bool} {rows : List Row}
    (calm : Calm inner rows) {nesting : Nesting} (sound : nesting.Sound)
    (deep : inner ≤ nesting.arrayDepth + enclosure.arrays) {first last : List Char} {inside : List (List Char)}
    (opened : trimStart first = (Row.opening name enclosure).text)
    (printed : PrintedAs inside rows)
    (closed : trimStart last = (Row.closing enclosure ended).text) {rest : List CodeLine}
    (follows : ended = true ∨ 0 < nesting.arrayDepth ∨ rest = []) (number : Nat) :
    ScanState.run ⟨nesting, false⟩ number (CodeLine.ofText false first ::
        (inside.map (CodeLine.ofText false) ++ CodeLine.ofText false last :: rest)) =
      ScanState.run ⟨nesting, false⟩ (number + inside.length + 2) rest := by
  obtain ⟨gap, blank, opening⟩ := Row.exists_code opened
  obtain ⟨gap', blank', closing⟩ := Row.exists_code closed
  obtain ⟨column, pushed⟩ := Row.line_opening ⟨nesting, false⟩ number name enclosure blank
    (inside.map (CodeLine.ofText false) ++ CodeLine.ofText false last :: rest)
  generalize (actionMarker? ((Row.opening name enclosure).code gap)).any (· ≤ column) = marked at pushed
  have depth : (nesting.push ⟨enclosure.opener, number, column⟩ marked).arrayDepth =
      nesting.arrayDepth + enclosure.arrays := Nesting.arrayDepth_push rfl marked
  have follows' : ended = true ∨ 0 < (nesting.push ⟨enclosure.opener, number, column⟩ marked).arrayDepth ∨
      rest = [] := follows.imp_right (Or.imp_left fun positive => by omega)
  rw [opening, ScanState.run, pushed, List.nil_append,
    calm _ _ inside _ (sound.push _ marked) (depth ▸ deep) printed, closing, ScanState.run,
    Row.line_closing enclosure ended blank' (Nesting.closes_push rfl marked) follows', List.nil_append,
    Nesting.pop_push sound rfl marked, Nat.add_right_comm number 1]

namespace Calm

variable {arrays : Nat}

theorem nil : Calm arrays [] := by
  intro nesting number found rest _ _ printed
  obtain rfl := List.map_eq_nil_iff.mp printed
  rfl

theorem append {first second : List Row} (calm : Calm arrays first) (calm' : Calm arrays second) :
    Calm arrays (first ++ second) := by
  intro nesting number found rest sound within printed
  rw [PrintedAs, List.map_append] at printed
  obtain ⟨front, back, rfl, printed, printed'⟩ := List.map_eq_append_iff.mp printed
  rw [List.map_append, List.append_assoc, calm nesting number front _ sound within printed,
    calm' nesting _ back rest sound within printed', List.length_append, Nat.add_assoc]

/-- A line on which the scan stays as it is. -/
theorem cons {row : Row} {rows : List Row}
    (stays : ∀ (nesting : Nesting) (number : Nat) (gap : List Char) (rest : List CodeLine),
      arrays ≤ nesting.arrayDepth → isBlankText gap = true →
        ScanState.line ⟨nesting, false⟩ number (row.code gap) rest = ([], ⟨nesting, false⟩))
    (calm : Calm arrays rows) : Calm arrays (row :: rows) := by
  intro nesting number found rest sound within printed
  rw [PrintedAs, List.map_cons] at printed
  obtain ⟨line, found, rfl, first, printed⟩ := List.map_eq_cons_iff.mp printed
  obtain ⟨gap, blank, code⟩ := Row.exists_code first
  rw [List.map_cons, List.cons_append, ScanState.run, code, stays nesting number gap _ within blank,
    List.nil_append, calm nesting _ found rest sound within printed, List.length_cons, Nat.add_right_comm,
    Nat.add_assoc]

theorem enclosed {inner : Nat} {name : Option Word} {enclosure : Enclosure} {ended : Bool} {rows more : List Row}
    (calm : Calm inner rows) (deep : inner ≤ arrays + enclosure.arrays) (follows : ended = true ∨ 0 < arrays)
    (after : Calm arrays more) :
    Calm arrays (.opening name enclosure :: (rows ++ .closing enclosure ended :: more)) := by
  intro nesting number found rest sound within printed
  rw [PrintedAs, List.map_cons, List.map_append, List.map_cons] at printed
  obtain ⟨first, lower, rfl, opened, further⟩ := List.map_eq_cons_iff.mp printed
  obtain ⟨inside, below, rfl, listed, ends⟩ := List.map_eq_append_iff.mp further
  obtain ⟨last, below, rfl, closed, listed'⟩ := List.map_eq_cons_iff.mp ends
  have follows' : ended = true ∨ 0 < nesting.arrayDepth ∨ below.map (CodeLine.ofText false) ++ rest = [] :=
    follows.imp_right fun positive => .inl (Nat.lt_of_lt_of_le positive within)
  have back := run_enclosed calm sound (Nat.le_trans deep (Nat.add_le_add_right within _)) opened listed closed
    follows' number
  rw [List.map_cons, List.map_append, List.map_cons, List.cons_append, List.append_assoc, List.cons_append, back,
    after nesting _ below rest sound within listed']
  congr 1
  simp only [List.length_cons, List.length_append]
  omega

end Calm


mutual

theorem Attributes.calm (tree : Attributes) : Calm 0 tree.rows :=
  match tree with
  | .nil => .nil
  | .scalar name value rest =>
    .cons (fun _ _ _ _ _ blank => Row.line_binding name value blank) rest.calm
  | .set _ inner rest => .enclosed inner.calm (Nat.zero_le _) (.inl rfl) rest.calm
  | .array _ elements rest => .enclosed elements.calm (Nat.le_refl _) (.inl rfl) rest.calm

theorem Elements.calm (elements : Elements) : Calm 1 elements.rows :=
  match elements with
  | .nil => .nil
  | .scalar value rest => .cons (fun _ _ _ _ inside blank => Row.line_element value blank inside) rest.calm
  | .set inner rest => .enclosed inner.calm (Nat.zero_le _) (.inr Nat.one_pos) rest.calm

end

/-- A document that is laid out in rows is scanned with nothing found. -/
theorem canonical_document_clean (tree : Attributes) (text : List Char) (printed : PrintedAs (lines text) tree.document) :
    scan text = [] := by
  have codes := ofLines_printed printed []
  rw [List.append_nil, show CodeLine.ofLines false [] = [] from rfl, List.append_nil] at codes
  rw [PrintedAs, Attributes.document, List.map_cons, List.map_append] at printed
  rw [scan, CodeLine.ofDocument, codes]
  obtain ⟨first, lower, whole, opened, further⟩ := List.map_eq_cons_iff.mp printed
  obtain ⟨inside, below, rfl, listed, ends⟩ := List.map_eq_append_iff.mp further
  obtain ⟨last, rfl, closed⟩ := List.map_eq_singleton_iff.mp ends
  rw [whole, List.map_cons, List.map_append, List.map_singleton,
    run_enclosed tree.calm (fun _ none => absurd none (Option.not_mem_none _)) (Nat.zero_le _) opened listed closed
      (.inr (.inr rfl))]
  rfl

/-- A document with an action block, a keyword for a name, and brackets and an `=` in a string. -/
theorem canonical_document_clean_example :
    scan ("\x7b\n  name = \"a = ) b\";\n\t_onEnter = \x7b\n  list = [\n    12\n    \x7b\n      in = 1;\n" ++
      "    \x7d\n  \"]\"\n  ];\n  \x7d;\n\x7d\n").toList = [] := by
  refine canonical_document_clean
    (.scalar ⟨"name".toList, by decide, by decide⟩ (.string "a = ) b".toList (by decide))
    (.set ⟨"_onEnter".toList, by decide, by decide⟩
      (.array ⟨"list".toList, by decide, by decide⟩
        (.scalar (.number "12".toList (by decide) (by decide))
          (.set (.scalar ⟨"in".toList, by decide, by decide⟩ (.number "1".toList (by decide) (by decide)) .nil)
            (.scalar (.string "]".toList (by decide)) .nil)))
        .nil)
      .nil)) _ ?_
  unfold PrintedAs
  decide +kernel

end Dialect
