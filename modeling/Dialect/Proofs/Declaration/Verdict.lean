import Dialect.Declaration.Check
import Dialect.Proofs.Declaration.Meaning

/-! What the check says of a head. It depends on the text behind the head only: on where the `=` and the `;` stand
there, on the words quoted before the `=`, and on the value, blanks around it not considered. -/
namespace Dialect

theorem mem_trim {c : Char} {text : List Char} (member : c ∈ text) (visible : isBlank c = false) :
    c ∈ trim text := by
  obtain ⟨gap, blank, split⟩ := exists_trim text
  rw [split, List.mem_append, List.mem_append] at member
  rcases member with lead | inner | behind
  · rw [of_mem_takeWhile lead] at visible
    cases visible
  · exact inner
  · exact absurd behind (not_mem_of_isBlankText visible blank)

section Word

variable {word front tail : List Char}

/-- A word without blanks goes over no blank. -/
theorem startsWith_append (visible : word.any isBlank = false) (parted : tail.head?.all isBlank = true) :
    startsWith word (front ++ tail) = startsWith word front := by
  rw [Bool.eq_iff_iff, startsWith_iff, startsWith_iff]
  refine ⟨fun starts => ?_, fun starts => starts.trans (List.prefix_append front tail)⟩
  induction front generalizing word with
  | nil =>
    match word, tail with
    | [], _ => exact List.nil_prefix
    | c :: word, [] => exact starts
    | c :: word, d :: tail =>
      obtain ⟨rfl, _⟩ := List.cons_prefix_cons.mp starts
      have blank : isBlank c = true := parted
      simp [blank] at visible
  | cons d front ih =>
    match word with
    | [] => exact List.nil_prefix
    | c :: word =>
      obtain ⟨rfl, more⟩ := List.cons_prefix_cons.mp starts
      rw [List.any_cons, Bool.or_eq_false_iff] at visible
      exact List.cons_prefix_cons.mpr ⟨rfl, ih visible.2 more⟩

theorem startsWith_trimEnd (visible : word.any isBlank = false) (text : List Char) :
    startsWith word (trimEnd text) = startsWith word text := by
  obtain ⟨gap, blank, split⟩ := exists_trimEnd_append_blank text
  have parted : gap.head?.all isBlank = true := by
    cases gap with
    | nil => rfl
    | cons c gap => exact isBlankText_iff.mp blank c List.mem_cons_self
  conv_rhs => rw [← split, startsWith_append visible parted]

end Word

theorem slice_trimSpan? {text : List Char} {span trimmed : Span} (found : trimSpan? text span = some trimmed) :
    trimmed.slice text = trim (span.slice text) := by
  rw [trimSpan?] at found
  split at found
  · cases found
  · obtain rfl := Option.some.inj found
    obtain ⟨gap, _, split⟩ := exists_trim (span.slice text)
    obtain ⟨rest, whole⟩ : ∃ rest, text.drop span.start = span.slice text ++ rest :=
      ⟨_, (List.take_append_drop _ _).symm⟩
    rw [split, List.append_assoc, List.append_assoc] at whole
    have inner : text.drop (span.start + ((span.slice text).takeWhile isBlank).length) =
        trim (span.slice text) ++ (gap ++ rest) := by
      rw [← List.drop_drop, whole, List.drop_left]
    exact (Span.of_drop_eq inner rfl).1

def quotedWords (text : List Char) : List (List Char) := (findAll quotedWord? text).map (·.value)

namespace Head

def type (head : Head) : DeclaredType := .ofName head.typeName

/-- What is wrong with a value after this head. -/
def judge (head : Head) (options : List (List Char)) (value : List Char) : Option Problem :=
  if isBlankText value || head.type.accepts options (trim value) then none
  else if head.type = .enum then some (.invalidOption (unquoted (trim value)) head.name options)
  else some (.mismatch head.name head.type)

/-- What the check says of this head, given all that follows its `=`. -/
def valueVerdict (head : Head) (options : List (List Char)) (rest : List Char) : Option Problem :=
  (topLevel? .terminator rest).bind fun length => head.judge options (rest.take length)

/-- What the check says of this head, given all that follows it. -/
def verdict (head : Head) (rest : List Char) : Option Problem :=
  (topLevel? .equals rest).bind fun gap =>
    head.valueVerdict (quotedWords (rest.take gap)) (rest.drop (gap + 1))

end Head

theorem map_problem_finding? (text : List Char) (found : Found Head) (gap : Nat) :
    ((Declaration.complete text found gap).finding? text).map (·.problem) =
      found.value.valueVerdict (quotedWords ((text.drop found.span.stop).take gap))
        ((text.drop found.span.stop).drop (gap + 1)) := by
  have options : Span.slice ⟨found.span.stop, found.span.stop + gap⟩ text =
      (text.drop found.span.stop).take gap := by
    rw [Span.slice, Nat.add_sub_cancel_left]
  rw [Declaration.finding?, Declaration.complete, options, Head.valueVerdict, List.drop_drop, ← Nat.add_assoc]
  cases topLevel? .terminator (text.drop (found.span.stop + gap + 1)) with
  | none => rfl
  | some length =>
    have value : Span.slice ⟨found.span.stop + gap + 1, found.span.stop + gap + 1 + length⟩ text =
        (text.drop (found.span.stop + gap + 1)).take length := by
      rw [Span.slice, Nat.add_sub_cancel_left]
    simp only [Option.bind_some]
    rw [Head.judge, ← value]
    cases trimmed : trimSpan? text ⟨found.span.stop + gap + 1, found.span.stop + gap + 1 + length⟩ with
    | none =>
      have blank := trimSpan?_isSome text ⟨found.span.stop + gap + 1, found.span.stop + gap + 1 + length⟩
      rw [trimmed, Option.isSome_none, Eq.comm, Bool.not_eq_false'] at blank
      simp [blank]
    | some span =>
      have visible := trimSpan?_isSome text ⟨found.span.stop + gap + 1, found.span.stop + gap + 1 + length⟩
      rw [trimmed, Option.isSome_some, Eq.comm, Bool.not_eq_true'] at visible
      simp only [Option.bind_some, slice_trimSpan? trimmed, visible, Bool.false_or, Declaration.problem]
      rw [← Head.type, ← quotedWords]
      split_ifs <;> rfl

/-- What the check says of a head that was found in `text`. -/
def headProblem? (text : List Char) (found : Found Head) : Option Problem :=
  if isCommented (text.take found.span.start) then none else found.value.verdict (text.drop found.span.stop)

theorem map_problem_checkDeclarations (text : List Char) :
    (checkDeclarations text).map (·.problem) = (findAll head? text).filterMap (headProblem? text) := by
  rw [checkDeclarations, findDeclarations, List.filterMap_filterMap, List.map_filterMap]
  refine List.filterMap_congr fun found _ => ?_
  rw [Declaration.ofHead?_eq, headProblem?]
  split
  · rfl
  · rw [Head.verdict]
    cases topLevel? .equals (text.drop found.span.stop) with
    | none => rfl
    | some gap => exact map_problem_finding? text found gap

/-- Whether the check says the same of a value and of this value with a comment in it, by what stands before the
comment and whether it rejects the value without it. -/
def DeclaredType.allowsComment (type : DeclaredType) (front : List Char) (rejected : Bool) : Bool :=
  match type with
  | .string => rejected || !isBlankText front
  | .int | .float | .boolean => rejected
  | .enum => false
  | .other _ => true

theorem not_mem_of_isDigits {text : List Char} (digits : isDigits text = true) : commentMarker ∉ text := by
  rw [isDigits, Bool.and_eq_true] at digits
  exact fun member => absurd (List.all_eq_true.mp digits.2 _ member) (by decide)

theorem mem_unsigned {text : List Char} (member : commentMarker ∈ text) : commentMarker ∈ unsigned text := by
  rw [unsigned.eq_def]
  split
  · exact (List.mem_cons.mp member).resolve_left (by decide)
  · exact (List.mem_cons.mp member).resolve_left (by decide)
  · exact member

theorem not_mem_of_isInteger {value : List Char} (integer : isInteger value = true) : commentMarker ∉ value :=
  fun member => not_mem_of_isDigits integer (mem_unsigned member)

theorem not_mem_of_isFloat {value : List Char} (float : isFloat value = true) : commentMarker ∉ value := by
  intro member
  have there := mem_unsigned member
  rw [isFloat] at float
  generalize unsigned value = number at float there
  have split := takeWhile_append_drop (· ≠ '.') number
  split at float
  · exact not_mem_of_isDigits float there
  · next point fraction behind =>
    rw [Bool.and_eq_true] at float
    rw [behind] at split
    have sign : point = '.' := by
      have stopped := List.head?_dropWhile_not (· ≠ '.') number
      rw [← List.append_cancel_left (split.trans List.takeWhile_append_dropWhile.symm)] at stopped
      simpa using stopped
    rw [← split, List.mem_append, List.mem_cons] at there
    rcases there with whole | rfl | fraction
    · exact not_mem_of_isDigits float.1 whole
    · cases sign
    · exact not_mem_of_isDigits float.2 fraction

/-- No number and no truth value holds a comment sign. -/
theorem DeclaredType.not_mem_of_accepts {type : DeclaredType} {options : List (List Char)} {value : List Char}
    (plain : type = .int ∨ type = .float ∨ type = .boolean) (accepted : type.accepts options value = true) :
    commentMarker ∉ value := by
  rcases plain with rfl | rfl | rfl
  · exact not_mem_of_isInteger accepted
  · exact not_mem_of_isFloat accepted
  · simp only [accepts, Bool.or_eq_true, beq_iff_eq] at accepted
    rcases accepted with rfl | rfl <;> decide

namespace Head

variable {head : Head} {options : List (List Char)} {value front tail : List Char} {b : Char}

theorem judge_options (other : head.type ≠ .enum) (options options' : List (List Char)) (value : List Char) :
    head.judge options value = head.judge options' value := by
  have same : head.type.accepts options (trim value) = head.type.accepts options' (trim value) := by
    cases type : head.type with
    | enum => exact absurd type other
    | _ => rfl
  rw [judge, judge, same, if_neg other, if_neg other]

theorem judge_rejected (other : head.type ≠ .enum) (visible : isBlankText value = false)
    (rejected : head.type.accepts options (trim value) = false) :
    head.judge options value = some (.mismatch head.name head.type) := by
  rw [judge, visible, rejected, if_neg other]
  rfl

theorem judge_eq_of_isSome (other : head.type ≠ .enum) (found : (head.judge options value).isSome = true) :
    head.judge options value = some (.mismatch head.name head.type) := by
  rw [judge, if_neg other] at found ⊢
  split at found
  · cases found
  · next rejected => rw [if_neg rejected]

/-- A string starts as it starts before a comment in it. -/
theorem accepts_string (visible : isBlankText front = false) (parted : tail.head?.all isBlank = true) :
    DeclaredType.string.accepts options (trim (front ++ tail)) =
      (startsWith ['"'] (trimStart front) || startsWith rawDelimiter (trimStart front)) := by
  have quote : ['"'].any isBlank = false := rfl
  have raw : rawDelimiter.any isBlank = false := rfl
  rw [DeclaredType.accepts, trim, trimStart_append_visible visible, startsWith_trimEnd quote,
    startsWith_trimEnd raw, startsWith_append quote parted, startsWith_append raw parted]

/-- The check says the same of a value with a comment in it, where its type allows one. -/
theorem judge_comment (blank : isBlank b = true) (parted : tail.head?.all isBlank = true) (comment : List Char)
    (allowed : head.type.allowsComment front (head.judge options (front ++ tail)).isSome = true) :
    head.judge options (front ++ b :: commentMarker :: (comment ++ tail)) =
      head.judge options (front ++ tail) := by
  have sign : commentMarker ∈ front ++ b :: commentMarker :: (comment ++ tail) := by simp
  have visible : isBlankText (front ++ b :: commentMarker :: (comment ++ tail)) = false :=
    Bool.eq_false_iff.mpr fun blank => not_mem_of_isBlankText rfl blank sign
  have plain (number : head.type = .int ∨ head.type = .float ∨ head.type = .boolean)
      (rejected : (head.judge options (front ++ tail)).isSome = true) :
      head.judge options (front ++ b :: commentMarker :: (comment ++ tail)) =
        head.judge options (front ++ tail) := by
    have other : head.type ≠ .enum := by rcases number with type | type | type <;> simp [type]
    rw [judge_eq_of_isSome other rejected, judge_rejected other visible]
    refine Bool.eq_false_iff.mpr fun accepted => ?_
    exact DeclaredType.not_mem_of_accepts number accepted (mem_trim sign rfl)
  cases type : head.type with
  | int | float | boolean =>
    rw [type] at allowed
    exact plain (by simp [type]) allowed
  | enum =>
    rw [type] at allowed
    cases allowed
  | other name => simp [judge, type, DeclaredType.accepts]
  | string =>
    have other : head.type ≠ .enum := by simp [type]
    rw [type] at allowed
    by_cases lead : isBlankText front = true
    · have rejected : (head.judge options (front ++ tail)).isSome = true := by
        simpa [DeclaredType.allowsComment, lead] using allowed
      rw [judge_eq_of_isSome other rejected, judge_rejected other visible]
      have bare : trimStart (front ++ b :: commentMarker :: (comment ++ tail)) =
          commentMarker :: (comment ++ tail) := by
        rw [List.append_cons, trimStart_append (by simp [lead, blank]), trimStart_cons rfl]
      have quote : ['"'].any isBlank = false := rfl
      have raw : rawDelimiter.any isBlank = false := rfl
      rw [type, DeclaredType.accepts, trim, startsWith_trimEnd quote, startsWith_trimEnd raw, bare]
      rfl
    · have lead := Bool.eq_false_iff.mpr lead
      have parted' : (b :: commentMarker :: (comment ++ tail)).head?.all isBlank = true := by simpa using blank
      have whole : isBlankText (front ++ tail) = false := by rw [isBlankText_append, lead, Bool.false_and]
      rw [judge, judge, visible, whole, type, accepts_string lead parted, accepts_string lead parted']
      simp

end Head

end Dialect
