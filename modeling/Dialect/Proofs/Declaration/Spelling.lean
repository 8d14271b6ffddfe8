import Dialect.Proofs.Declaration.Head
import Dialect.Proofs.Text.Seam

/-! How a head is spelled. A head is recognised exactly where it is spelled out and its type ends a word, so that
of all that follows it only the first character counts. -/
namespace Dialect

/-- `declare NAME : TYPE`, with blanks between these. -/
def Head.Spelled (head : Head) (matched : List Char) : Prop :=
  ∃ space gap gap', matched = declareKeyword ++ (space ++ (head.name ++ (gap ++ ':' :: (gap' ++ head.typeName)))) ∧
    (space ≠ [] ∧ isBlankText space = true) ∧ isBlankText gap = true ∧ isBlankText gap' = true ∧
    (head.name.head?.any isIdentStart = true ∧ head.name.all isIdentChar = true) ∧
    (head.typeName ≠ [] ∧ head.typeName.all isAsciiLetter = true)

theorem leadingWord?_eq_some {text name : List Char} (read : leadingWord? text = some name) :
    text = name ++ text.drop name.length ∧ name.head?.any isIdentStart = true ∧ name.all isIdentChar = true := by
  rw [leadingWord?] at read
  split at read
  · next start =>
    obtain rfl := Option.some.inj read
    refine ⟨(takeWhile_append_drop isIdentChar text).symm, ?_, List.all_takeWhile⟩
    cases text with
    | nil => cases start
    | cons c text =>
      have first : isIdentStart c = true := by simpa using start
      rw [List.takeWhile_cons_of_pos (isIdentChar_of_isIdentStart first)]
      exact first
  · cases read

theorem leadingWord?_append {name rest : List Char} (start : name.head?.any isIdentStart = true)
    (ident : name.all isIdentChar = true) (ends : rest.head?.any isIdentChar = false) :
    leadingWord? (name ++ rest) = some name := by
  have first : (name ++ rest).head?.any isIdentStart = true := by
    cases name with
    | nil => cases start
    | cons c name => exact start
  rw [leadingWord?, if_pos first, takeWhile_append_stopped (List.all_eq_true.mp ident) ends]

theorem name?_eq_some {text name rest : List Char} (read : name? text = some (name, rest)) :
    ∃ space, text = space ++ (name ++ rest) ∧ (space ≠ [] ∧ isBlankText space = true) ∧
      name.head?.any isIdentStart = true ∧ name.all isIdentChar = true := by
  rw [name?] at read
  split at read
  · next spaced =>
    obtain ⟨word, named, same⟩ := Option.map_eq_some_iff.mp read
    obtain ⟨rfl, rfl⟩ := Prod.mk.inj same
    obtain ⟨split, start, ident⟩ := leadingWord?_eq_some named
    obtain ⟨space, blank, whole⟩ := exists_blank_append_trimStart text
    refine ⟨space, by rw [← split, whole], ⟨?_, blank⟩, start, ident⟩
    rintro rfl
    rw [List.nil_append] at whole
    cases text with
    | nil => cases spaced
    | cons c text =>
      have visible : isBlank c = false := isBlank_head_trimStart (by rw [whole]; rfl)
      simp [visible] at spaced
  · cases read

theorem name?_append {space name rest : List Char} (spaced : space ≠ [] ∧ isBlankText space = true)
    (start : name.head?.any isIdentStart = true) (ident : name.all isIdentChar = true)
    (ends : rest.head?.any isIdentChar = false) : name? (space ++ (name ++ rest)) = some (name, rest) := by
  obtain ⟨c, more, rfl⟩ := List.exists_cons_of_ne_nil spaced.1
  have lead := isBlankText_iff.mp spaced.2 c List.mem_cons_self
  have trimmed : trimStart (c :: more ++ (name ++ rest)) = name ++ rest := by
    rw [trimStart_append spaced.2]
    cases name with
    | nil => cases start
    | cons d name =>
      exact trimStart_cons (isBlank_eq_false_of_isIdentChar (List.all_eq_true.mp ident d List.mem_cons_self)) _
  rw [name?, if_pos (by simpa using lead), trimmed, leadingWord?_append start ident ends, Option.map_some,
    List.drop_left]

theorem colon?_eq_some {name name' text rest : List Char} (read : colon? name text = some (name', rest)) :
    name' = name ∧ ∃ gap gap', text = gap ++ ':' :: (gap' ++ rest) ∧ isBlankText gap = true ∧
      isBlankText gap' = true := by
  obtain ⟨behind, colon, same⟩ := Option.map_eq_some_iff.mp read
  obtain ⟨rfl, rfl⟩ := Prod.mk.inj same
  obtain ⟨gap, blank, whole⟩ := exists_blank_append_trimStart text
  obtain ⟨gap', blank', whole'⟩ := exists_blank_append_trimStart behind
  refine ⟨rfl, gap, gap', ?_, blank, blank'⟩
  rw [whole', ← whole, after?_eq_some_iff.mp colon]
  rfl

theorem colon?_append (name : List Char) {gap gap' rest : List Char} (blank : isBlankText gap = true)
    (blank' : isBlankText gap' = true) (visible : rest.head?.any isBlank = false) :
    colon? name (gap ++ ':' :: (gap' ++ rest)) = some (name, rest) := by
  have trimmed : trimStart (gap' ++ rest) = rest := by
    rw [trimStart_append blank']
    cases rest with
    | nil => rfl
    | cons c rest => exact trimStart_cons (by simpa using visible) rest
  rw [colon?, trimStart_append blank, trimStart_cons (show isBlank ':' = false from rfl),
    show ':' :: (gap' ++ rest) = [':'] ++ (gap' ++ rest) from rfl, after?_append, Option.map_some, trimmed]

theorem type?_eq_some {name text rest : List Char} {head : Head} (read : type? name text = some (head, rest)) :
    head.name = name ∧ text = head.typeName ++ rest ∧
      (head.typeName ≠ [] ∧ head.typeName.all isAsciiLetter = true) ∧ endsWord rest = true := by
  simp only [type?] at read
  split at read
  · cases read
  · next accepted =>
    simp only [Bool.or_eq_true, List.isEmpty_iff, Bool.not_eq_true', not_or, Bool.not_eq_false] at accepted
    obtain ⟨rfl, rfl⟩ := Prod.mk.inj (Option.some.inj read)
    exact ⟨rfl, (takeWhile_append_drop isAsciiLetter text).symm, ⟨accepted.1, List.all_takeWhile⟩, accepted.2⟩

theorem type?_append (name : List Char) {typeName rest : List Char}
    (letters : typeName ≠ [] ∧ typeName.all isAsciiLetter = true) (ends : endsWord rest = true) :
    type? name (typeName ++ rest) = some (⟨name, typeName⟩, rest) := by
  have stopped : rest.head?.any isAsciiLetter = false := by
    cases rest with
    | nil => rfl
    | cons c rest =>
      refine Bool.eq_false_iff.mpr fun letter => ?_
      simp [endsWord, isWordChar_of_isAsciiLetter letter] at ends
  have taken := takeWhile_append_stopped (List.all_eq_true.mp letters.2) stopped
  simp [type?, taken, letters.1, ends]

theorem spelled_of_headWith? {text rest : List Char} {head : Head} (read : headWith? text = some (head, rest)) :
    ∃ matched, text = matched ++ rest ∧ head.Spelled matched ∧ endsWord rest = true := by
  obtain ⟨⟨_, behind⟩, keyword, read⟩ := Option.bind_eq_some_iff.mp read
  obtain ⟨⟨name, further⟩, named, read⟩ := Option.bind_eq_some_iff.mp read
  obtain ⟨⟨name', last⟩, colon, typed⟩ := Option.bind_eq_some_iff.mp read
  obtain ⟨_, spelled, same⟩ := Option.map_eq_some_iff.mp keyword
  obtain ⟨_, rfl⟩ := Prod.mk.inj same
  obtain ⟨space, rfl, spaced, start, ident⟩ := name?_eq_some named
  obtain ⟨rfl, gap, gap', rfl, blank, blank'⟩ := colon?_eq_some colon
  obtain ⟨rfl, rfl, letters, ends⟩ := type?_eq_some typed
  refine ⟨_, ?_, ⟨space, gap, gap', rfl, spaced, blank, blank', ⟨start, ident⟩, letters⟩, ends⟩
  rw [after?_eq_some_iff.mp spelled]
  simp

theorem headWith?_of_spelled {matched rest : List Char} {head : Head} (spelled : head.Spelled matched)
    (ends : endsWord rest = true) : headWith? (matched ++ rest) = some (head, rest) := by
  obtain ⟨space, gap, gap', rfl, spaced, blank, blank', ⟨start, ident⟩, letters⟩ := spelled
  have behind : (gap ++ ':' :: (gap' ++ (head.typeName ++ rest))).head?.any isIdentChar = false := by
    cases gap with
    | nil => rfl
    | cons c gap =>
      simpa using isIdentChar_eq_false_of_isBlank (isBlankText_iff.mp blank c List.mem_cons_self)
  have visible : (head.typeName ++ rest).head?.any isBlank = false := by
    obtain ⟨c, more, typeName⟩ := List.exists_cons_of_ne_nil letters.1
    have letter : isAsciiLetter c = true := List.all_eq_true.mp letters.2 c (by simp [typeName])
    rw [typeName]
    refine Bool.eq_false_iff.mpr fun lead => ?_
    rw [isAsciiLetter_eq_false_of_isBlank (by simpa using lead)] at letter
    cases letter
  have whole : declareKeyword ++ (space ++ (head.name ++ (gap ++ ':' :: (gap' ++ head.typeName)))) ++ rest =
      declareKeyword ++ (space ++ (head.name ++ (gap ++ ':' :: (gap' ++ (head.typeName ++ rest))))) := by simp
  simp only [whole, headWith?, keyword?, after?_append, Option.map_some, Option.bind_some,
    name?_append spaced start ident behind, colon?_append _ blank blank' visible, type?_append _ letters ends]

theorem head?_ne {c : Char} (other : c ≠ 'd') (before : Option Char) (rest : List Char) :
    head? before (c :: rest) = none := by
  rw [head?_eq, headWith?_ne other]
  simp

/-- A head is recognised if it is spelled out at a word boundary and its type ends a word. -/
theorem head?_eq_some_iff {before : Option Char} {here : List Char} {head : Head} {taken : Nat} :
    head? before here = some (head, taken) ↔ before.any isWordChar = false ∧
      ∃ matched rest, here = matched ++ rest ∧ taken = matched.length ∧ head.Spelled matched ∧
        endsWord rest = true := by
  rw [head?_eq]
  constructor
  · intro read
    split at read
    · cases read
    · next boundary =>
      obtain ⟨⟨head', rest⟩, whole, same⟩ := Option.map_eq_some_iff.mp read
      obtain ⟨rfl, rfl⟩ := Prod.mk.inj same
      obtain ⟨matched, rfl, spelled, ends⟩ := spelled_of_headWith? whole
      exact ⟨Bool.eq_false_iff.mpr boundary, matched, rest, rfl, by simp, spelled, ends⟩
  · rintro ⟨boundary, matched, rest, rfl, rfl, spelled, ends⟩
    rw [if_neg (by simp [boundary]), headWith?_of_spelled spelled ends]
    simp

namespace Head.Spelled

variable {head : Head} {matched : List Char}

theorem exists_last (spelled : head.Spelled matched) :
    ∃ front letter, matched = front ++ [letter] ∧ isAsciiLetter letter = true := by
  obtain ⟨space, gap, gap', rfl, _, _, _, _, letters⟩ := spelled
  rcases List.eq_nil_or_concat head.typeName with none | ⟨front, letter, typeName⟩
  · exact absurd none letters.1
  · rw [List.concat_eq_append] at typeName
    refine ⟨declareKeyword ++ (space ++ (head.name ++ (gap ++ ':' :: (gap' ++ front)))), letter, ?_, ?_⟩
    · simp [typeName]
    · exact List.all_eq_true.mp letters.2 letter (by simp [typeName])

/-- A head holds no sign but its colon. -/
theorem not_mem (spelled : head.Spelled matched) {c : Char} (visible : isBlank c = false)
    (sign : isIdentChar c = false) (other : c ≠ ':') : c ∉ matched := by
  obtain ⟨space, gap, gap', rfl, spaced, blank, blank', ⟨_, ident⟩, _, letters⟩ := spelled
  have clear {gap : List Char} := @not_mem_of_isBlankText c gap visible
  have word {word : List Char} (all : word.all isIdentChar = true) : c ∉ word := fun member => by
    rw [List.all_eq_true.mp all c member] at sign
    cases sign
  have typeName : head.typeName.all isIdentChar = true := List.all_eq_true.mpr fun d member => by
    simp [isIdentChar, List.all_eq_true.mp letters d member]
  simp [word (show declareKeyword.all isIdentChar = true from rfl), clear spaced.2, word ident, clear blank, other,
    clear blank', word typeName]

end Head.Spelled

theorem endsWord_append {back back' : List Char} (ends : endsWord back = true) (ends' : endsWord back' = true)
    (tail : List Char) : endsWord (tail ++ back') = endsWord (tail ++ back) := by
  cases tail with
  | nil => rw [List.nil_append, List.nil_append, ends, ends']
  | cons c tail => rfl

/-- A comment behind a place where a head may end does not change the heads before it. -/
theorem sameAhead_head? {front back : List Char} {b : Char} (blank : isBlank b = true)
    (ends : endsWord back = true) (comment : List Char) :
    SameAhead head? front back (b :: commentMarker :: (comment ++ back)) := by
  intro before here filled suffix within
  have ends' : endsWord (b :: commentMarker :: (comment ++ back)) = true := by
    simp [endsWord, isWordChar_eq_false_of_isBlank blank]
  cases read : head? before (here ++ back) with
  | some recognised =>
    obtain ⟨head, taken⟩ := recognised
    have short := within head taken read
    obtain ⟨boundary, matched, rest, split, rfl, spelled, stops⟩ := head?_eq_some_iff.mp read
    obtain ⟨tail, rfl, rfl⟩ := exists_tail split short
    rw [← endsWord_append ends ends' tail] at stops
    exact head?_eq_some_iff.mpr ⟨boundary, matched, _, List.append_assoc .., rfl, spelled, stops⟩
  | none =>
    refine Option.eq_none_iff_forall_ne_some.mpr fun recognised read' => ?_
    obtain ⟨head, taken⟩ := recognised
    obtain ⟨boundary, matched, rest, split, rfl, spelled, stops⟩ := head?_eq_some_iff.mp read'
    have short : matched.length ≤ here.length := by
      by_contra long
      obtain ⟨more, rfl, excess⟩ : ∃ more, matched = here ++ more ∧
          b :: commentMarker :: (comment ++ back) = more ++ rest := by
        rcases List.append_eq_append_iff.mp split with ⟨more, rfl, excess⟩ | ⟨more, rfl, _⟩
        · exact ⟨more, rfl, excess⟩
        · exact absurd (by simp) long
      cases more with
      | nil => simp at long
      | cons c more =>
        obtain ⟨rfl, further⟩ := List.cons.inj excess
        cases more with
        | nil =>
          obtain ⟨front, letter, last, isLetter⟩ := spelled.exists_last
          obtain ⟨_, rfl⟩ := List.append_singleton_inj.mp last
          rw [isAsciiLetter_eq_false_of_isBlank blank] at isLetter
          cases isLetter
        | cons d more =>
          obtain ⟨rfl, _⟩ := List.cons.inj further
          exact spelled.not_mem (show isBlank commentMarker = false from rfl) rfl (by decide) (by simp)
    obtain ⟨tail, rfl, rfl⟩ := exists_tail split short
    rw [endsWord_append ends ends' tail] at stops
    rw [head?_eq_some_iff.mpr ⟨boundary, matched, _, List.append_assoc .., rfl, spelled, stops⟩] at read
    cases read

end Dialect
