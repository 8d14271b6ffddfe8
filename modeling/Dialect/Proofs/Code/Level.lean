import Dialect.Proofs.Code.Index

/-! What the search for an `=` or a `;` finds, in terms of the code view: the first such sign outside brackets, if
no closer of a bracket that was not opened comes before it. -/
namespace Dialect

/-- What the code view shows before a place. -/
def codeBefore (text : List Char) (index : Nat) : List Char := (List.range index).filterMap (codeAt? text)

/-- So many brackets are open after these characters, all kinds counted alike, and no closer came too early. -/
structure OpenAfter (depth : Nat) (chars : List Char) : Prop where
  count : chars.countP isOpener = chars.countP isCloser + depth
  ordered : ∀ front, front <+: chars → front.countP isCloser ≤ front.countP isOpener

/-- The place stands outside brackets. -/
def AtTop (text : List Char) (index : Nat) : Prop := OpenAfter 0 (codeBefore text index)

/-- From left to right, adjacent `=` make pairs. The place holds the second one of a pair. -/
def endsPair (text : List Char) : Nat → Bool
  | 0 => false
  | index + 1 => codeAt? text index == some '=' && codeAt? text (index + 1) == some '=' && !endsPair text index

/-- An `=` that belongs to no pair. -/
def Assigns (text : List Char) (index : Nat) : Prop :=
  codeAt? text index = some '=' ∧ endsPair text index = false ∧ endsPair text (index + 1) = false

section Depth

variable {depth : Nat} {chars : List Char} {c : Char}

theorem isCloser_eq_false_of_isOpener (opens : isOpener c = true) : isCloser c = false := by
  simp only [isOpener, Bool.or_eq_true, beq_iff_eq] at opens
  rcases opens with (rfl | rfl) | rfl <;> rfl

theorem openAfter_nil : OpenAfter 0 [] where
  count := rfl
  ordered front start := by rw [List.prefix_nil.mp start]; exact Nat.le_refl _

namespace OpenAfter

theorem concat {depth' : Nat} (opened : OpenAfter depth chars)
    (count : (chars ++ [c]).countP isOpener = (chars ++ [c]).countP isCloser + depth') :
    OpenAfter depth' (chars ++ [c]) where
  count := count
  ordered front start := by
    rcases List.prefix_concat_iff.mp start with rfl | earlier
    · omega
    · exact opened.ordered front earlier

theorem opener (opened : OpenAfter depth chars) (opens : isOpener c = true) :
    OpenAfter (depth + 1) (chars ++ [c]) := by
  refine opened.concat ?_
  simp [List.countP_append, opens, isCloser_eq_false_of_isOpener opens, opened.count]
  omega

theorem closer (opened : OpenAfter (depth + 1) chars) (other : isOpener c = false) (closes : isCloser c = true) :
    OpenAfter depth (chars ++ [c]) := by
  refine opened.concat ?_
  simp [List.countP_append, other, closes, opened.count]
  omega

theorem flat (opened : OpenAfter depth chars) (other : isOpener c = false) (other' : isCloser c = false) :
    OpenAfter depth (chars ++ [c]) := by
  refine opened.concat ?_
  simp [List.countP_append, other, other', opened.count]

theorem unique {depth' : Nat} (opened : OpenAfter depth chars) (opened' : OpenAfter depth' chars) :
    depth = depth' := by
  have count := opened.count
  have count' := opened'.count
  omega

theorem exceeded {depth' : Nat} {longer : List Char} (opened : OpenAfter 0 chars) (other : isOpener c = false)
    (closes : isCloser c = true) (start : chars ++ [c] <+: longer) : ¬ OpenAfter depth' longer := by
  intro opened'
  have ordered := opened'.ordered _ start
  simp only [List.countP_append, List.countP_singleton, other, closes, opened.count, if_true, Bool.false_eq_true,
    if_false] at ordered
  omega

end OpenAfter

end Depth

theorem codeBefore_succ (text : List Char) (index : Nat) :
    codeBefore text (index + 1) = codeBefore text index ++ (codeAt? text index).toList := by
  rw [codeBefore, List.range_succ, List.filterMap_append, codeBefore]
  cases shown : codeAt? text index <;> simp [shown]

theorem codeBefore_prefix (text : List Char) {index index' : Nat} (below : index ≤ index') :
    codeBefore text index <+: codeBefore text index' := by
  obtain ⟨more, rfl⟩ := Nat.exists_eq_add_of_le below
  rw [codeBefore, codeBefore, List.range_add, List.filterMap_append]
  exact List.prefix_append _ _

theorem endsPair_succ {text : List Char} {index : Nat} (paired : endsPair text (index + 1) = true) :
    codeAt? text index = some '=' ∧ codeAt? text (index + 1) = some '=' ∧ endsPair text index = false := by
  simpa [endsPair, and_assoc] using paired

/-- What the search looks for. -/
def Target.Hits (text : List Char) (index : Nat) : Target → Prop
  | .terminator => codeAt? text index = some ';'
  | .equals => Assigns text index

/-- What ends the search outside brackets. -/
def Target.Stops (target : Target) (text : List Char) (index : Nat) : Prop :=
  target.Hits text index ∨ codeAt? text index = some ';'

/-- The first place outside brackets that ends the search, if it is one that the search looks for. -/
structure Target.First (target : Target) (text : List Char) (index : Nat) : Prop where
  hits : target.Hits text index
  top : AtTop text index
  first : ∀ earlier < index, target.Stops text earlier → ¬ AtTop text earlier

/-- What is known where the search has come to. -/
structure Reached (target : Target) (text : List Char) (index depth : Nat) : Prop where
  opened : OpenAfter depth (codeBefore text index)
  passed : ∀ earlier < index, target.Stops text earlier → ¬ AtTop text earlier
  single : target = .equals → depth = 0 → endsPair text index = false

theorem Target.Hits.sign {target : Target} {text : List Char} {index : Nat} (hits : target.Hits text index) :
    codeAt? text index = some '=' ∨ codeAt? text index = some ';' := by
  cases target with
  | equals => exact .inl hits.1
  | terminator => exact .inr hits

section Search

variable {target : Target} {text : List Char} {index depth : Nat}

/-- What stops the search is not passed, and neither is the first `=` of what may be a pair. -/
theorem Reached.pass {depth' : Nat} (reached : Reached target text index depth)
    (opened : OpenAfter depth' (codeBefore text (index + 1)))
    (goes : target.Stops text index → depth ≠ 0)
    (further : codeAt? text index = some '=' → target = .equals → depth' ≠ 0) :
    Reached target text (index + 1) depth' where
  opened := opened
  passed earlier low stops top := by
    rcases Nat.lt_succ_iff_lt_or_eq.mp low with before | rfl
    · exact reached.passed earlier before stops top
    · exact goes stops (reached.opened.unique top)
  single equals zero := by
    by_contra paired
    exact further (endsPair_succ (by simpa using paired)).1 equals zero

theorem Reached.le (reached : Reached target text index depth) {found : Nat} (first : target.First text found) :
    index ≤ found := by
  by_contra before
  exact reached.passed found (Nat.not_le.mp before) (.inl first.hits) first.top

theorem Reached.first (reached : Reached target text index 0) (hits : target.Hits text index) (found : Nat) :
    index = found ↔ target.First text found := by
  refine ⟨fun same => same ▸ ⟨hits, reached.opened, reached.passed⟩, fun first => ?_⟩
  by_contra other
  have further : index < found := Nat.lt_of_le_of_ne (reached.le first) other
  exact first.first index further (.inl hits) reached.opened

/-- The lexeme that stands at a place, as far as it is a sign, is what the code view shows there. -/
def Stands (text : List Char) (index : Nat) (lexeme : Lexeme) : Prop :=
  ∀ d, isSign d = true → (codeAt? text index = some d ↔ lexeme = ⟨d, .code⟩)

variable {lexeme : Lexeme}

theorem Reached.quiet (reached : Reached target text index depth)
    (quiet : ∀ d, isSign d = true → codeAt? text index ≠ some d) : Reached target text (index + 1) depth := by
  refine reached.pass ?_ (fun stops => ?_) fun sign => absurd sign (quiet '=' rfl)
  · rw [codeBefore_succ]
    cases shown : codeAt? text index with
    | none => simpa using reached.opened
    | some c =>
      have other : isSign c = false := Bool.eq_false_iff.mpr fun sign => quiet c sign shown
      simp only [isSign, Bool.or_eq_false_iff] at other
      exact reached.opened.flat other.1.1.1 other.1.1.2
  · rcases stops with hits | ends
    · rcases hits.sign with sign | sign
      · exact absurd sign (quiet '=' rfl)
      · exact absurd sign (quiet ';' rfl)
    · exact absurd ends (quiet ';' rfl)

/-- A bracket is neither an `=` nor a `;`. -/
theorem not_stops_of_bracket {c : Char} (here : codeAt? text index = some c)
    (bracket : isOpener c = true ∨ isCloser c = true) :
    ¬ target.Stops text index ∧ codeAt? text index ≠ some '=' := by
  have equals : codeAt? text index ≠ some '=' := by
    rw [here]
    rintro same
    cases Option.some.inj same
    rcases bracket with bracket | bracket <;> cases bracket
  have ends : codeAt? text index ≠ some ';' := by
    rw [here]
    rintro same
    cases Option.some.inj same
    rcases bracket with bracket | bracket <;> cases bracket
  refine ⟨fun stops => ?_, equals⟩
  rcases stops with hits | sign
  · exact hits.sign.elim equals ends
  · exact ends sign

theorem Reached.move_pass {depth' : Nat} (reached : Reached target text index depth)
    (stands : Stands text index lexeme) (moved : move target depth lexeme = .pass depth') :
    Reached target text (index + 1) depth' := by
  obtain ⟨c, role⟩ := lexeme
  rw [move.eq_def] at moved
  split_ifs at moved with hidden opens closes assigns ends
  · obtain rfl := Move.pass.inj moved
    exact reached.quiet fun d sign shown => hidden (congrArg Lexeme.role ((stands d sign).mp shown))
  all_goals obtain rfl : role = .code := Classical.not_not.mp hidden
  · obtain rfl := Move.pass.inj moved
    have here : codeAt? text index = some c := (stands c (by simp [isSign, opens])).mpr rfl
    obtain ⟨goes, other⟩ := not_stops_of_bracket here (.inl opens)
    refine reached.pass ?_ (fun stops => absurd stops goes) fun sign => absurd sign other
    rw [codeBefore_succ, here]
    exact reached.opened.opener opens
  · have here : codeAt? text index = some c := (stands c (by simp [isSign, closes])).mpr rfl
    obtain ⟨goes, other⟩ := not_stops_of_bracket here (.inr closes)
    cases depth with
    | zero => cases moved
    | succ depth =>
      obtain rfl := Move.pass.inj moved
      refine reached.pass ?_ (fun stops => absurd stops goes) fun sign => absurd sign other
      rw [codeBefore_succ, here]
      exact reached.opened.closer (by simpa using opens) closes
  · obtain rfl := Move.pass.inj moved
    by_cases sign : isSign c = true
    · have here : codeAt? text index = some c := (stands c sign).mpr rfl
      have assigned : codeAt? text index = some '=' → target = .equals → depth ≠ 0 := fun shown equals zero =>
        assigns ⟨Option.some.inj (here.symm.trans shown), equals, zero⟩
      have ended : codeAt? text index = some ';' → depth ≠ 0 := fun shown zero =>
        ends ⟨Option.some.inj (here.symm.trans shown), zero⟩
      refine reached.pass ?_ (fun stops => ?_) assigned
      · rw [codeBefore_succ, here]
        exact reached.opened.flat (by simpa using opens) (by simpa using closes)
      · rcases stops with hits | shown
        · cases target with
          | equals => exact assigned hits.1 rfl
          | terminator => exact ended hits
        · exact ended shown
    · exact reached.quiet fun d sign' shown => sign ((Lexeme.mk.inj ((stands d sign').mp shown)).1 ▸ sign')

/-- The search fails at a closer of a bracket that was not opened, and at a `;` that it does not look for. -/
theorem Reached.move_fail (reached : Reached target text index depth) (stands : Stands text index lexeme)
    (moved : move target depth lexeme = .fail) (found : Nat) : ¬ target.First text found := by
  intro first
  obtain ⟨c, role⟩ := lexeme
  rw [move.eq_def] at moved
  split_ifs at moved with hidden opens closes assigns ends looked
  all_goals obtain rfl : role = .code := Classical.not_not.mp hidden
  · have here : codeAt? text index = some c := (stands c (by simp [isSign, closes])).mpr rfl
    cases depth with
    | succ depth => cases moved
    | zero =>
      have other : index ≠ found := by
        rintro rfl
        exact (not_stops_of_bracket here (.inr closes)).1 (.inl first.hits)
      have further : index + 1 ≤ found := Nat.lt_of_le_of_ne (reached.le first) other
      have start := codeBefore_prefix text further
      rw [codeBefore_succ, here] at start
      exact reached.opened.exceeded (by simpa using opens) closes start first.top
  · obtain ⟨rfl, rfl⟩ := ends
    have here : codeAt? text index = some ';' := (stands ';' rfl).mpr rfl
    have other : index ≠ found := by
      rintro rfl
      cases target with
      | terminator => exact looked rfl
      | equals => rw [first.hits.1] at here; cases here
    have further : index < found := Nat.lt_of_le_of_ne (reached.le first) other
    exact first.first index further (.inr here) reached.opened

theorem Reached.move_hit (reached : Reached target text index depth) (stands : Stands text index lexeme)
    (moved : move target depth lexeme = .hit) (found : Nat) : index = found ↔ target.First text found := by
  obtain ⟨c, role⟩ := lexeme
  rw [move.eq_def] at moved
  split_ifs at moved with hidden opens closes assigns ends looked
  · cases depth <;> cases moved
  · obtain ⟨rfl, rfl⟩ := ends
    obtain rfl : role = .code := Classical.not_not.mp hidden
    subst looked
    exact reached.first ((stands ';' rfl).mpr rfl) found

theorem Reached.pair (reached : Reached .equals text index 0) (first : codeAt? text index = some '=')
    (second : codeAt? text (index + 1) = some '=') : Reached .equals text (index + 2) 0 where
  opened := by
    rw [codeBefore_succ, second, codeBefore_succ, first]
    exact (reached.opened.flat rfl rfl).flat rfl rfl
  passed earlier low stops top := by
    have paired : endsPair text (index + 1) = true := by simp [endsPair, first, second, reached.single rfl rfl]
    rcases stops with ⟨sign, whole, whole'⟩ | ends
    · rcases Nat.lt_or_ge earlier index with before | here
      · exact reached.passed earlier before (.inl ⟨sign, whole, whole'⟩) top
      · obtain rfl | rfl : earlier = index ∨ earlier = index + 1 := by omega
        · rw [paired] at whole'
          cases whole'
        · rw [paired] at whole
          cases whole
    · rcases Nat.lt_or_ge earlier index with before | here
      · exact reached.passed earlier before (.inr ends) top
      · obtain rfl | rfl : earlier = index ∨ earlier = index + 1 := by omega
        · rw [first] at ends
          cases ends
        · rw [second] at ends
          cases ends
  single _ _ := by
    have paired : endsPair text (index + 1) = true := by simp [endsPair, first, second, reached.single rfl rfl]
    rw [endsPair, paired, Bool.not_true, Bool.and_false]

/-- The second of two adjacent `=` is code if the first one is. -/
theorem lex_pair {mode : Mode} {role : Role} (first : (lex mode text)[index]? = some ⟨'=', .code⟩)
    (second : (lex mode text)[index + 1]? = some ⟨'=', role⟩) : role = .code := by
  induction text generalizing mode index with
  | nil => cases first
  | cons c text ih =>
    cases index with
    | succ index => exact ih first second
    | zero =>
      obtain ⟨rfl, code⟩ := Lexeme.mk.inj (Option.some.inj first)
      have next : (mode.step '=' text).2 = .code := by
        cases mode <;> simp [Mode.step, commentMarker] at code ⊢
      cases text with
      | nil => cases second
      | cons d text =>
        rw [lex, next] at second
        obtain ⟨rfl, role⟩ := Lexeme.mk.inj (Option.some.inj second)
        rw [← role]
        simp [Mode.step, commentMarker]

/-- From wherever it has come to, the search goes on to the first place that ends it. -/
theorem Reached.topLevelFrom_iff (strings : StringsEnd text) (reached : Reached target text index depth)
    (found : Nat) :
    topLevelFrom target depth index ((lex .code text).drop index) = some found ↔ target.First text found := by
  -- on what is left of the text, since a pair is passed at once
  generalize total : text.length - index = size
  induction size using Nat.strongRecOn generalizing index depth with
  | _ size ih =>
    have stands {place : Nat} {lexeme : Lexeme} (there : (lex .code text)[place]? = some lexeme) :
        Stands text place lexeme := fun d sign => by
      rw [codeAt?_eq_lex strings sign, there, Option.some.injEq]
    cases rest : (lex .code text).drop index with
    | nil =>
      have beyond : text.length ≤ index := by simpa [length_lex] using rest
      refine ⟨fun absent => (by cases absent), fun first => ?_⟩
      have inside := first.hits.sign.elim lt_of_codeAt? lt_of_codeAt?
      have far := reached.le first
      omega
    | cons lexeme further =>
      have there : (lex .code text)[index]? = some lexeme := by rw [← List.head?_drop, rest, List.head?_cons]
      have next : (lex .code text).drop (index + 1) = further := by rw [← List.tail_drop, rest, List.tail_cons]
      have inside : index < text.length := by
        rw [← length_lex .code text]
        exact (List.getElem?_eq_some_iff.mp there).1
      rw [topLevelFrom_cons]
      cases moved : move target depth lexeme with
      | pass depth' =>
        rw [← next]
        exact ih _ (by omega) (reached.move_pass (stands there) moved) rfl
      | fail => simpa using reached.move_fail (stands there) moved found
      | hit => simpa using reached.move_hit (stands there) moved found
      | sign =>
        obtain ⟨rfl, rfl, rfl⟩ := move_sign moved
        have sign : codeAt? text index = some '=' := (stands there '=' rfl).mpr rfl
        have second : codeAt? text (index + 1) = some '=' ↔ further.head? = some ⟨'=', .code⟩ := by
          rw [codeAt?_eq_lex strings rfl, ← List.head?_drop, next]
        have alone (other : codeAt? text (index + 1) ≠ some '=') : Target.equals.Hits text index :=
          ⟨sign, reached.single rfl rfl, by simp [endsPair, other]⟩
        cases further with
        | nil => simpa using reached.first (alone (by simp [second])) found
        | cons lexeme more =>
          have there' : (lex .code text)[index + 1]? = some lexeme := by rw [← List.head?_drop, next, List.head?_cons]
          by_cases pair : lexeme.char = '='
          · have code : lexeme = ⟨'=', .code⟩ := by
              obtain ⟨c, role⟩ := lexeme
              obtain rfl : c = '=' := pair
              rw [lex_pair there there']
            have rest' : (lex .code text).drop (index + 2) = more := by rw [← List.tail_drop, next, List.tail_cons]
            have later := reached.pair sign (second.mpr (by rw [code, List.head?_cons]))
            simp only [pair, if_true]
            rw [← rest']
            exact ih _ (by omega) later rfl
          · have other : codeAt? text (index + 1) ≠ some '=' := fun shown => by
              rw [second, List.head?_cons, Option.some.injEq] at shown
              exact pair (congrArg Lexeme.char shown)
            simpa [pair] using reached.first (alone other) found

theorem reached_zero (target : Target) (text : List Char) : Reached target text 0 0 :=
  ⟨openAfter_nil, fun _ low => absurd low (Nat.not_lt_zero _), fun _ _ => rfl⟩

theorem topLevel?_iff (strings : StringsEnd text) (found : Nat) :
    topLevel? target text = some found ↔ target.First text found := by
  rw [topLevel?_eq]
  exact (reached_zero target text).topLevelFrom_iff strings found

end Search

/-- How consecutive lines are read, the first of which starts inside a raw string or not. -/
def lineReadings (raw : Bool) : List (List Char) → List LineReading
  | [] => []
  | line :: rest => readLine raw false line :: lineReadings (readLine raw false line).raw rest

/-- No line ends inside `"…"`. -/
def LinesEnd (text : List Char) : Prop := ∀ reading ∈ lineReadings false (lines text), reading.quoted = false

instance (text : List Char) : Decidable (LinesEnd text) :=
  inferInstanceAs (Decidable (∀ reading ∈ lineReadings false (lines text), reading.quoted = false))

theorem lineReadings_append (raw : Bool) (first second : List (List Char)) :
    lineReadings raw (first ++ second) =
      lineReadings raw first ++ lineReadings (CodeLine.carried raw (CodeLine.ofLines raw first)) second := by
  induction first generalizing raw with
  | nil => rfl
  | cons line first ih =>
    rw [List.cons_append, lineReadings, lineReadings, CodeLine.ofLines, CodeLine.carried_cons, ih, List.cons_append]
    rfl

theorem quoted_readLine (raw : Bool) {line : List Char} (single : '\n' ∉ line) :
    (readLine raw false line).quoted = (modeAfter (CodeLine.entry raw) line).inQuotes := by
  cases raw with
  | false => exact (follows_readLine .code line).quoted single
  | true => exact (follows_readLine .raw line).quoted single

/-- A line break ends a line, and it is read as `lines` gives it, without the `\r`. -/
theorem LinesEnd.stringsEnd {text : List Char} (closed : LinesEnd text) : StringsEnd text := by
  intro index inside newline
  obtain ⟨before, c, rest, rfl, rfl⟩ := exists_append_cons inside
  obtain rfl : c = '\n' := by simpa using newline
  have single := not_mem_lineBefore before
  have whole := lineBefore_linesAbove before
  obtain ⟨gap, blank, chopped⟩ := exists_chopReturn_append_blank (lineBefore before)
  have bare : '\n' ∉ chopReturn (lineBefore before) := fun member =>
    single (chopped ▸ List.mem_append_left gap member)
  have apart : Apart gap := apart_of_isBlankText blank
  have read : readLine (CodeLine.carried false (CodeLine.ofDocument (linesAbove before))) false
      (chopReturn (lineBefore before)) ∈ lineReadings false (lines (before ++ '\n' :: rest)) := by
    conv in before ++ _ => rw [← linesAbove_append_lineBefore before]
    rw [List.append_assoc, lines_append whole, lines_newline single, lineReadings_append]
    exact List.mem_append_right _ List.mem_cons_self
  have quoted := closed _ read
  rw [quoted_readLine _ bare] at quoted
  rw [List.take_left, List.drop_left, viewMode_end (show endsLine ('\n' :: rest) = true from rfl), ← chopped,
    modeAfter_append apart, inQuotes_modeAfter_blank blank]
  exact quoted

/-- The search for a `;` gives the byte offset of the first one outside brackets in the code view, and the search
for an `=` that of the first one there that belongs to no pair `==`, unless a `;` comes first; if a closer that
closes nothing comes first, they give nothing. -/
theorem top_level_exact {text : List Char} (closed : LinesEnd text) :
    (∀ offset, (topLevel? .terminator text).map (byteOffset text) = some offset ↔
      ∃ index, byteOffset text index = offset ∧ codeAt? text index = some ';' ∧ AtTop text index ∧
        ∀ earlier < index, AtTop text earlier → codeAt? text earlier ≠ some ';') ∧
    (∀ offset, (topLevel? .equals text).map (byteOffset text) = some offset ↔
      ∃ index, byteOffset text index = offset ∧ Assigns text index ∧ AtTop text index ∧
        ∀ earlier < index, AtTop text earlier → ¬ Assigns text earlier ∧ codeAt? text earlier ≠ some ';') := by
  have exact (target : Target) (found : Nat) : topLevel? target text = some found ↔ target.First text found :=
    topLevel?_iff closed.stringsEnd found
  simp only [Option.map_eq_some_iff, exact]
  refine ⟨fun offset => exists_congr fun index => ⟨?_, ?_⟩, fun offset => exists_congr fun index => ⟨?_, ?_⟩⟩
  · rintro ⟨first, same⟩
    exact ⟨same, first.hits, first.top, fun earlier low top ends => first.first earlier low (.inr ends) top⟩
  · rintro ⟨same, hits, top, before⟩
    exact ⟨⟨hits, top, fun earlier low stops top' => before earlier low top' (stops.elim id id)⟩, same⟩
  · rintro ⟨first, same⟩
    exact ⟨same, first.hits, first.top, fun earlier low top =>
      ⟨fun assigns => first.first earlier low (.inl assigns) top,
        fun ends => first.first earlier low (.inr ends) top⟩⟩
  · rintro ⟨same, hits, top, before⟩
    exact ⟨⟨hits, top, fun earlier low stops top' =>
      stops.elim (before earlier low top').1 (before earlier low top').2⟩, same⟩

/-- An escaped quote, an escape in a raw string, a comment and a wide character come before the pair. -/
theorem top_level_exact_wide :
    let text := "(\"\\\";\") '' ''' ; = '' # ;\r\né == b = 1; c".toList
    LinesEnd text ∧
      (∃ index, byteOffset text index = 38 ∧ codeAt? text index = some ';' ∧ AtTop text index ∧
        ∀ earlier < index, AtTop text earlier → codeAt? text earlier ≠ some ';') ∧
      ∃ index, byteOffset text index = 35 ∧ Assigns text index ∧ AtTop text index ∧
        ∀ earlier < index, AtTop text earlier → ¬ Assigns text earlier ∧ codeAt? text earlier ≠ some ';' := by
  intro text
  have closed : LinesEnd text := by decide +kernel
  obtain ⟨terminator, equals⟩ := top_level_exact closed
  exact ⟨closed, (terminator 38).mp (by decide +kernel), (equals 35).mp (by decide +kernel)⟩

end Dialect
