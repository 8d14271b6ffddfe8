import Dialect.Proofs.Analysis
import Mathlib.Computability.Language

/-! The values of a declared type, as a regular language where they are written in a fixed way. The check
accepts this language and nothing else, and reports each value outside it once, at its place. -/
namespace Dialect

open scoped Computability

namespace DeclaredType

def digit : Language Char := {word | ∃ c ∈ ['0', '1', '2', '3', '4', '5', '6', '7', '8', '9'], word = [c]}

def decimal : Language Char := digit * digit∗

def sign : Language Char := 1 + {['+']} + {['-']}

/-- `word` is what is left of `value` without one pair of double quotes around it. -/
def Unquotes (value word : List Char) : Prop :=
  value = '"' :: (word ++ ['"']) ∨ (value = word ∧ ∀ inner, value ≠ '"' :: (inner ++ ['"']))

/-- The values of a type, where an enumeration has these options. -/
def language (options : List (List Char)) : DeclaredType → Language Char
  | .string => {value | ['"'] <+: value ∨ ['\'', '\''] <+: value}
  | .int => sign * decimal
  | .float => sign * (decimal * (1 + {['.']} * decimal))
  | .boolean => {"true".toList, "false".toList}
  | .enum => {value | ∃ word ∈ options, Unquotes value word}
  | .other _ => ⊤

theorem isAsciiDigit_iff {c : Char} :
    isAsciiDigit c = true ↔ c ∈ ['0', '1', '2', '3', '4', '5', '6', '7', '8', '9'] := by
  have codes : ∀ code < 58, 48 ≤ code → Char.ofNat code ∈ ['0', '1', '2', '3', '4', '5', '6', '7', '8', '9'] := by
    decide
  constructor
  · intro digit
    simp only [isAsciiDigit, Bool.and_eq_true, decide_eq_true_eq, Char.le_def, UInt32.le_iff_toNat_le] at digit
    rw [← Char.ofNat_toNat c]
    exact codes c.toNat (Nat.lt_succ_of_le digit.2) digit.1
  · intro member
    simp only [List.mem_cons, List.not_mem_nil, or_false] at member
    rcases member with rfl | rfl | rfl | rfl | rfl | rfl | rfl | rfl | rfl | rfl <;> rfl

theorem mem_decimal {word : List Char} : word ∈ decimal ↔ isDigits word = true := by
  rw [decimal, Language.mem_mul, isDigits, Bool.and_eq_true]
  constructor
  · rintro ⟨_, ⟨c, first, rfl⟩, rest, more, rfl⟩
    refine ⟨rfl, ?_⟩
    obtain ⟨words, rfl, digits⟩ := Language.mem_kstar.mp more
    rw [List.singleton_append, List.all_cons, isAsciiDigit_iff.mpr first, Bool.true_and, List.all_flatten]
    refine List.all_eq_true.mpr fun word member => ?_
    obtain ⟨d, digit, rfl⟩ := digits word member
    simp [isAsciiDigit_iff.mpr digit]
  · rintro ⟨filled, digits⟩
    cases word with
    | nil => cases filled
    | cons c rest =>
      rw [List.all_cons, Bool.and_eq_true] at digits
      refine ⟨[c], ⟨c, isAsciiDigit_iff.mp digits.1, rfl⟩, rest, ?_, rfl⟩
      have parted : rest = (rest.map fun d => [d]).flatten := by
        rw [← List.flatMap_def, List.flatMap_singleton']
      refine Language.mem_kstar.mpr ⟨rest.map fun d => [d], parted, fun word member => ?_⟩
      obtain ⟨d, there, rfl⟩ := List.mem_map.mp member
      exact ⟨d, isAsciiDigit_iff.mp (List.all_eq_true.mp digits.2 d there), rfl⟩

/-- Where no word of a language starts with a sign, one sign may be put before each. -/
theorem mem_sign_mul {number : Language Char}
    (bare : ∀ word ∈ number, word.head? ≠ some '+' ∧ word.head? ≠ some '-') {value : List Char} :
    value ∈ sign * number ↔ unsigned value ∈ number := by
  have signed {c : Char} (known : [c] ∈ sign) {word : List Char} (member : word ∈ number) :
      c :: word ∈ sign * number := Language.mem_mul.mpr ⟨[c], known, word, member, rfl⟩
  have plus : ['+'] ∈ sign := .inl (.inr rfl)
  have minus : ['-'] ∈ sign := .inr rfl
  have none : [] ∈ sign := .inl (.inl rfl)
  constructor
  · intro member
    obtain ⟨mark, known, word, inside, rfl⟩ := Language.mem_mul.mp member
    rcases known with (rfl | rfl) | rfl
    · obtain ⟨noPlus, noMinus⟩ := bare word inside
      match word, noPlus, noMinus, inside with
      | [], _, _, inside => exact inside
      | c :: word, noPlus, noMinus, inside =>
        have same : unsigned (c :: word) = c :: word := by
          rw [unsigned.eq_3]
          · exact fun rest split => noPlus (by rw [split]; rfl)
          · exact fun rest split => noMinus (by rw [split]; rfl)
        simpa [same] using inside
    · exact inside
    · exact inside
  · intro inside
    match value, inside with
    | [], inside => exact Language.mem_mul.mpr ⟨[], none, [], inside, rfl⟩
    | c :: word, inside =>
      by_cases isPlus : c = '+'
      · subst isPlus
        exact signed plus inside
      · by_cases isMinus : c = '-'
        · subst isMinus
          exact signed minus inside
        · have same : unsigned (c :: word) = c :: word := by
            rw [unsigned.eq_3]
            · exact fun rest split => isPlus (List.cons.inj split).1
            · exact fun rest split => isMinus (List.cons.inj split).1
          rw [same] at inside
          exact Language.mem_mul.mpr ⟨[], none, c :: word, inside, rfl⟩

theorem ne_of_isDigits {word : List Char} (digits : isDigits word = true) {c : Char} (other : isAsciiDigit c = false) :
    c ∉ word := by
  intro member
  rw [isDigits, Bool.and_eq_true] at digits
  rw [List.all_eq_true.mp digits.2 c member] at other
  cases other

theorem head?_ne_of_isDigits {word : List Char} (digits : isDigits word = true) (rest : List Char) {c : Char}
    (other : isAsciiDigit c = false) : (word ++ rest).head? ≠ some c := by
  cases word with
  | nil => cases digits
  | cons d word =>
    intro first
    obtain rfl : d = c := by simpa using first
    exact ne_of_isDigits digits other List.mem_cons_self

theorem isInteger_iff {value : List Char} : isInteger value = true ↔ value ∈ language [] .int := by
  rw [language, mem_sign_mul, mem_decimal, isInteger]
  intro word member
  have digits := mem_decimal.mp member
  rw [← List.append_nil word]
  exact ⟨head?_ne_of_isDigits digits [] rfl, head?_ne_of_isDigits digits [] rfl⟩

theorem mem_fraction {rest : List Char} :
    rest ∈ (1 + {['.']} * decimal : Language Char) ↔
      rest = [] ∨ ∃ fraction, rest = '.' :: fraction ∧ isDigits fraction = true := by
  rw [Language.mem_add, Language.mem_one, Language.mem_mul]
  refine or_congr Iff.rfl ⟨?_, ?_⟩
  · rintro ⟨_, rfl, fraction, digits, rfl⟩
    exact ⟨fraction, rfl, mem_decimal.mp digits⟩
  · rintro ⟨fraction, rfl, digits⟩
    exact ⟨['.'], rfl, fraction, mem_decimal.mpr digits, rfl⟩

theorem isFloat_iff {value : List Char} : isFloat value = true ↔ value ∈ language [] .float := by
  rw [language, mem_sign_mul]
  · rw [isFloat, Language.mem_mul]
    constructor
    · intro accepted
      have parted := takeWhile_append_drop (· ≠ '.') (unsigned value)
      split at accepted
      · next whole =>
        rw [whole, List.append_nil] at parted
        exact ⟨_, mem_decimal.mpr accepted, [], mem_fraction.mpr (.inl rfl), List.append_nil _⟩
      · next point fraction tail =>
        rw [Bool.and_eq_true] at accepted
        have stops := List.head?_dropWhile_not (· ≠ '.') (unsigned value)
        rw [← List.append_cancel_left (parted.trans List.takeWhile_append_dropWhile.symm), tail] at stops
        obtain rfl : point = '.' := by simpa using stops
        rw [tail] at parted
        exact ⟨_, mem_decimal.mpr accepted.1, _, mem_fraction.mpr (.inr ⟨fraction, rfl, accepted.2⟩), parted⟩
    · rintro ⟨whole, digits, rest, further, split⟩
      have digits := mem_decimal.mp digits
      have kept : ∀ c ∈ whole, decide (c ≠ '.') = true := fun c member => by
        simpa using fun point : c = '.' => ne_of_isDigits digits (c := '.') rfl (point ▸ member)
      rw [← split, List.takeWhile_append_of_pos kept]
      rcases mem_fraction.mp further with rfl | ⟨fraction, rfl, digits'⟩
      · simpa using digits
      · simp [digits, digits']
  · intro word member
    obtain ⟨whole, digits, rest, _, rfl⟩ := Language.mem_mul.mp member
    exact ⟨head?_ne_of_isDigits (mem_decimal.mp digits) rest rfl,
      head?_ne_of_isDigits (mem_decimal.mp digits) rest rfl⟩

theorem unquoted_quoted (inner : List Char) : unquoted ('"' :: (inner ++ ['"'])) = inner := by simp [unquoted]

theorem unquoted_bare {value : List Char} (bare : ∀ inner, value ≠ '"' :: (inner ++ ['"'])) :
    unquoted value = value := by
  rw [unquoted.eq_def]
  split
  · next rest =>
    refine if_neg fun last => ?_
    obtain ⟨inner, rfl⟩ := List.getLast?_eq_some_iff.mp last
    exact bare inner rfl
  · rfl

theorem unquotes_iff {value word : List Char} : Unquotes value word ↔ unquoted value = word := by
  constructor
  · rintro (rfl | ⟨rfl, bare⟩)
    · exact unquoted_quoted word
    · exact unquoted_bare bare
  · rintro rfl
    by_cases quoted : ∃ inner, value = '"' :: (inner ++ ['"'])
    · obtain ⟨inner, rfl⟩ := quoted
      rw [unquoted_quoted]
      exact .inl rfl
    · have bare := not_exists.mp quoted
      rw [unquoted_bare bare]
      exact .inr ⟨rfl, bare⟩

/-- The names of the vocabulary are those of the types that are checked. -/
theorem ofName_eq_other_iff {name word : List Char} :
    ofName name = .other word ↔ word = name ∧ name ∉ declaredTypes.map String.toList := by
  constructor
  · intro other
    rw [ofName] at other
    split_ifs at other with string int float boolean enum
    obtain rfl := DeclaredType.other.inj other
    rw [not_or] at int boolean
    refine ⟨rfl, ?_⟩
    simp only [declaredTypes, List.map_cons, List.map_nil, List.mem_cons, List.not_mem_nil, or_false, not_or]
    exact ⟨string, int.1, int.2, float, boolean.1, boolean.2, enum⟩
  · rintro ⟨rfl, unknown⟩
    simp only [declaredTypes, List.map_cons, List.map_nil, List.mem_cons, List.not_mem_nil, or_false, not_or] at unknown
    obtain ⟨string, int, integer, float, boolean, bool, enum⟩ := unknown
    rw [ofName, if_neg string, if_neg (not_or.mpr ⟨int, integer⟩), if_neg float,
      if_neg (not_or.mpr ⟨boolean, bool⟩), if_neg enum]

/-- The name that messages give to a type is one of its names. -/
theorem ofName_display (name : List Char) : ofName (ofName name).display.toList = ofName name := by
  by_cases known : name ∈ declaredTypes.map String.toList
  · simp only [declaredTypes, List.map_cons, List.map_nil, List.mem_cons, List.not_mem_nil, or_false] at known
    rcases known with rfl | rfl | rfl | rfl | rfl | rfl | rfl <;> rfl
  · have other := ofName_eq_other_iff.mpr ⟨rfl, known⟩
    rw [other, display, String.toList_ofList, other]

/-- A type accepts the values of its language. -/
theorem accepts_iff {type : DeclaredType} {options : List (List Char)} {value : List Char} :
    type.accepts options value = true ↔ value ∈ type.language options := by
  cases type with
  | string =>
    rw [accepts, Bool.or_eq_true, startsWith_iff, startsWith_iff]
    rfl
  | int => exact isInteger_iff
  | float => exact isFloat_iff
  | boolean =>
    rw [accepts, Bool.or_eq_true, beq_iff_eq, beq_iff_eq]
    rfl
  | enum =>
    rw [accepts, List.contains_iff_mem]
    constructor
    · exact fun member => ⟨_, member, unquotes_iff.mpr rfl⟩
    · rintro ⟨word, member, unquotes⟩
      rwa [unquotes_iff.mp unquotes]
  | other name => exact ⟨fun _ => trivial, fun _ => rfl⟩

end DeclaredType

/-- The value of the declaration is none of its type. -/
def Declaration.IllTyped (text : List Char) (d : Declaration) : Prop :=
  ∃ value ∈ d.value, value.slice text ∉ d.type.language d.options

theorem Declaration.illTyped_iff {text : List Char} {d : Declaration} :
    d.IllTyped text ↔ (d.finding? text).isSome = true := by
  rw [Declaration.IllTyped, Declaration.finding?]
  cases d.value with
  | none => simp
  | some value => simp [← DeclaredType.accepts_iff]

instance (text : List Char) (d : Declaration) : Decidable (d.IllTyped text) :=
  decidable_of_iff _ Declaration.illTyped_iff.symm

/-- The results of a partial function belong to the elements that have one, in their order. -/
theorem forall₂_filter_filterMap {α β : Type} {f : α → Option β} {p : α → Bool} {R : α → β → Prop} {items : List α}
    (defined : ∀ a, p a = (f a).isSome) (related : ∀ a ∈ items, ∀ b ∈ f a, R a b) :
    List.Forall₂ R (items.filter p) (items.filterMap f) := by
  induction items with
  | nil => exact .nil
  | cons a items ih =>
    have later := ih fun a member => related a (List.mem_cons_of_mem _ member)
    cases result : f a with
    | none => simpa [defined, result] using later
    | some b =>
      have here := related a List.mem_cons_self b result
      simpa [defined, result] using And.intro here later

/-- The check reports exactly the declarations whose value is none of their type, one by one and in the order
in which they stand in the document. The range of each report, resolved to byte offsets, is the stretch of the value
and cuts it out of the document. -/
theorem type_check_exact (text : List Char) :
    List.Forall₂ (fun d report => ∃ value ∈ d.value,
        report = ⟨report.range, (d.problem (value.slice text)).message, .error, .typeMismatch⟩ ∧
          ⟨report.range.start.toByte text, report.range.stop.toByte text⟩ = value.bytes text ∧
          bytesBetween? text (report.range.start.toByte text) (report.range.stop.toByte text) =
            some (value.slice text))
      ((findDeclarations text).filter (fun d => d.IllTyped text)) ((checkDeclarations text).map Finding.diagnostic) ∧
    (findDeclarations text).Pairwise (fun d e => d.head.stop ≤ e.head.start) := by
  refine ⟨?_, findDeclarations_ordered text⟩
  rw [checkDeclarations, List.forall₂_map_right_iff]
  refine forall₂_filter_filterMap (fun d => ?_) fun d member f reported => ?_
  · rw [Bool.eq_iff_iff, decide_eq_true_iff, Declaration.illTyped_iff]
  · obtain ⟨value, given, reported⟩ := Option.bind_eq_some_iff.mp reported
    split at reported
    · cases reported
    · obtain rfl := Option.some.inj reported
      obtain ⟨filled, inside⟩ := inside_of_value member given
      refine ⟨value, given, ?_, Range.toByte_ofSpan (Nat.le_of_lt filled) inside, ?_⟩
      · rw [Finding.diagnostic, Declaration.problem]
        split <;> rfl
      · exact (Range.within_ofSpan filled inside).bytesBetween?.trans (congrArg some (Range.slice_ofSpan filled inside))

example : (checkDeclarations "declare é : int = 1; declare r : float = -1.; declare b : bool =\n  yes;".toList).map
    (fun f => (f.diagnostic.message, f.range)) =
      [("Type mismatch: 'r' is declared as float but the value is not a valid float", ⟨⟨0, 41⟩, ⟨0, 44⟩⟩),
        ("Type mismatch: 'b' is declared as boolean but the value is not a valid boolean", ⟨⟨1, 2⟩, ⟨1, 5⟩⟩)] := by
  decide +kernel

end Dialect
