import Dialect.Host.Report
import Dialect.Proofs.Text.Blank
import Dialect.Proofs.Text.Search
import Mathlib.Data.List.Basic

/-! The error reports of the host parser are read as it writes them. It puts the place of an error behind the message,
with or without a comma, or on a later line; colours may stand anywhere in its output. -/
namespace Dialect

theorem isAsciiDigit_of_mem_toDigits {number : Nat} {c : Char} (member : c ∈ Nat.toDigits 10 number) :
    isAsciiDigit c = true := by
  have digit := Nat.isDigit_of_mem_toDigits (by decide) (by decide) member
  simpa [isAsciiDigit, Char.isDigit, Char.le_def] using digit

theorem isDecimal_of_isAsciiDigit {c : Char} (digit : isAsciiDigit c = true) : isDecimal c = true := by
  simp only [isAsciiDigit, Bool.and_eq_true, decide_eq_true_eq, Char.le_def, UInt32.le_iff_toNat_le] at digit
  exact inRanges_eq_true_iff.mpr ⟨(0x30, 0x39), List.mem_cons_self, digit⟩

theorem decimalValue_toDigits (number : Nat) : decimalValue (Nat.toDigits 10 number) = number :=
  Nat.ofDigitChars_ten_toDigits

/-- A number that fits in a machine word is read as it is written. -/
theorem readDecimal?_toDigits {number : Nat} (fits : number < UInt64.size) :
    readDecimal? (Nat.toDigits 10 number) = some number := by
  have digits : (Nat.toDigits 10 number).all isAsciiDigit = true :=
    List.all_eq_true.mpr fun _ => isAsciiDigit_of_mem_toDigits
  have bounded : number ≤ wordMax := Nat.le_of_lt_succ fits
  simp [readDecimal?, digits, decimalValue_toDigits, bounded, Nat.toDigits_ne_nil]

theorem takeWhile_toDigits (number : Nat) {rest : List Char} (stops : rest.head?.any isDecimal = false) :
    (Nat.toDigits 10 number ++ rest).takeWhile isDecimal = Nat.toDigits 10 number :=
  takeWhile_append_stopped (fun _ member => isDecimal_of_isAsciiDigit (isAsciiDigit_of_mem_toDigits member)) stops

theorem isDecimal_colon : isDecimal ':' = false := by decide +kernel

namespace ErrorReport

/-- The second text is the first one with colour sequences put in. -/
inductive Coloured : List Char → List Char → Prop where
  | nil : Coloured [] []
  | keep (c : Char) {plain shown : List Char} (rest : Coloured plain shown) : Coloured (c :: plain) (c :: shown)
  | sequence (parameters : List Char) (letter : Char)
    (known : parameters.all (fun c => isAsciiDigit c || c == ';' || c == '?') = true)
    (ends : isAsciiLetter letter = true) {plain shown : List Char} (rest : Coloured plain shown) :
    Coloured plain ('\x1b' :: '[' :: (parameters ++ letter :: shown))

theorem Coloured.refl (text : List Char) : Coloured text text := by
  induction text with
  | nil => exact .nil
  | cons c text ih => exact .keep c ih

theorem Coloured.append {plain shown plain' shown' : List Char} (first : Coloured plain shown)
    (second : Coloured plain' shown') : Coloured (plain ++ plain') (shown ++ shown') := by
  induction first with
  | nil => exact second
  | keep c _ ih => exact .keep c ih
  | sequence parameters letter known ends _ ih =>
    simpa using Coloured.sequence parameters letter known ends ih

theorem isAsciiLetter_not_parameter {letter : Char} (ends : isAsciiLetter letter = true) :
    (isAsciiDigit letter || letter == ';' || letter == '?') = false := by
  simp only [isAsciiLetter, Bool.or_eq_true, Bool.and_eq_true, decide_eq_true_eq, Char.le_def,
    UInt32.le_iff_toNat_le] at ends
  refine Bool.eq_false_iff.mpr fun parameter => ?_
  simp only [isAsciiDigit, Bool.or_eq_true, Bool.and_eq_true, decide_eq_true_eq, beq_iff_eq, Char.le_def,
    UInt32.le_iff_toNat_le] at parameter
  rcases parameter with (⟨_, high⟩ | rfl) | rfl
  · have upper := Nat.le_trans high (by decide : '9'.val.toNat ≤ 64)
    rcases ends with ⟨low, _⟩ | ⟨low, _⟩
    · exact absurd (Nat.le_trans low upper) (by decide)
    · exact absurd (Nat.le_trans low upper) (by decide)
  · revert ends
    decide
  · revert ends
    decide

theorem colour?_sequence {parameters : List Char} {letter : Char}
    (known : parameters.all (fun c => isAsciiDigit c || c == ';' || c == '?') = true)
    (ends : isAsciiLetter letter = true) (rest : List Char) :
    colour? ('\x1b' :: '[' :: (parameters ++ letter :: rest)) = some ([], parameters.length + 3) := by
  have taken : (parameters ++ letter :: rest).takeWhile (fun c => isAsciiDigit c || c == ';' || c == '?') =
      parameters := takeWhile_append_stopped (List.all_eq_true.mp known) (isAsciiLetter_not_parameter ends)
  simp only [colour?, after?, if_true, Option.bind_eq_bind, Option.bind_some, taken,
    List.getElem?_append_right (Nat.le_refl _), Nat.sub_self, List.getElem?_cons_zero, ends]

/-- Taking the colours out leaves the text into which they were put. -/
theorem Coloured.stripColours_eq {plain shown : List Char} (coloured : Coloured plain shown)
    (bare : '\x1b' ∉ plain) : stripColours shown = plain := by
  rw [stripColours]
  induction coloured with
  | nil => rfl
  | @keep c plain shown _ ih =>
    rw [List.mem_cons, not_or] at bare
    have quiet : colour? (c :: shown) = none := by simp [colour?, after?, bare.1]
    rw [replaceFrom, quiet]
    exact congrArg (c :: ·) (ih bare.2)
  | @sequence parameters letter known ends plain shown _ ih =>
    have skipped := replaceFrom_skip colour? ('[' :: (parameters ++ [letter])) shown
    simp only [List.length_cons, List.length_append, List.length_nil, List.cons_append, List.append_assoc,
      List.nil_append] at skipped
    rw [replaceFrom, colour?_sequence known ends]
    exact skipped.trans (ih bare)

/-- How the parser puts a message and its place together. -/
inductive Rendering where
  | plain
  | comma
  /-- The place stands on a later line with a colon at its end, after blank lines and an indentation. -/
  | later (gap : List Char) (blank : isBlankText gap = true)

namespace Rendering

/-- What stands between the message and the word before the place. -/
def joint : Rendering → List Char
  | .plain => [' ']
  | .comma => [',', ' ']
  | .later gap _ => '\n' :: gap

def ending : Rendering → List Char
  | .later _ _ => [':']
  | _ => []

theorem ending_eq (rendering : Rendering) : rendering.ending = [] ∨ rendering.ending = [':'] := by
  cases rendering <;> simp [ending]

/-- The place of a report in a text that the parser calls `tag`, as far as the parser writes no blank. -/
def place (rendering : Rendering) (tag : List Char) (report : ErrorReport) : List Char :=
  tag ++ ':' :: (Nat.toDigits 10 report.line ++ ':' :: (Nat.toDigits 10 report.column ++ rendering.ending))

/-- The report as the parser writes it. -/
def text (rendering : Rendering) (tag : List Char) (report : ErrorReport) : List Char :=
  errorMark ++ ' ' :: (report.message ++ (rendering.joint ++ 'a' :: 't' :: ' ' :: rendering.place tag report))

end Rendering

/-- Reports that the parser can make. -/
structure Writable (tag : List Char) (report : ErrorReport) : Prop where
  filled : report.message ≠ []
  single : '\n' ∉ report.message
  first : report.message.head?.any isBlank = false
  last : report.message.getLast?.any isBlank = false
  ended : report.message.getLast? ≠ some ','
  words : ['a', 't'] ∉ blankSeparated report.message
  tagged : tag ≠ []
  unbroken : tag.any isBlank = false
  line : report.line < UInt64.size
  column : report.column < UInt64.size

section Place

variable {accept : List Char → Bool}

theorem numbers?_ne {c : Char} (other : c ≠ ':') (rest : List Char) : numbers? (c :: rest) = none := by
  simp [numbers?, after?, Ne.symm other]

theorem numbers?_toDigits (line column : Nat) {rest : List Char} (stops : rest.head?.any isDecimal = false) :
    numbers? (':' :: (Nat.toDigits 10 line ++ ':' :: (Nat.toDigits 10 column ++ rest))) =
      some (⟨Nat.toDigits 10 line, Nat.toDigits 10 column⟩, rest) := by
  have colon (rest : List Char) : (':' :: rest).head?.any isDecimal = false := isDecimal_colon
  have filled (number : Nat) : (Nat.toDigits 10 number).isEmpty = false :=
    List.isEmpty_eq_false_iff.mpr Nat.toDigits_ne_nil
  simp only [numbers?, after?, if_true, Option.bind_eq_bind, Option.bind_some, takeWhile_toDigits line (colon _),
    takeWhile_toDigits column stops, List.drop_left, filled, Bool.or_self, Bool.false_eq_true, if_false, Option.pure_def]

/-- No place starts in this text, neither at its first character nor behind it. -/
def Quiet (accept : List Char → Bool) (text : List Char) : Prop :=
  location? accept text = none ∧ numbers? text = none

theorem location?_cons_of_quiet {text : List Char} (quiet : Quiet accept text) (c : Char) :
    location? accept (c :: text) = none := by
  rw [location?, quiet.1, quiet.2]
  rfl

theorem Quiet.append {text : List Char} (quiet : Quiet accept text) {word : List Char} (plain : ':' ∉ word) :
    Quiet accept (word ++ text) := by
  induction word with
  | nil => exact quiet
  | cons c word ih =>
    rw [List.mem_cons, not_or] at plain
    exact ⟨location?_cons_of_quiet (ih plain.2) c, numbers?_ne (Ne.symm plain.1) _⟩

theorem not_mem_toDigits (number : Nat) : ':' ∉ Nat.toDigits 10 number := fun member => by
  have digit := isAsciiDigit_of_mem_toDigits member
  cases digit

/-- The tag goes up to the last place in the text. -/
theorem location?_append {tag text rest : List Char} {written : Written} (tagged : tag ≠ [])
    (none : location? accept text = none) (here : numbers? text = some (written, rest)) (ends : accept rest = true) :
    location? accept (tag ++ text) = some written := by
  obtain ⟨c, tag, rfl⟩ := List.exists_cons_of_ne_nil tagged
  induction tag generalizing c with
  | nil =>
    rw [List.singleton_append, location?, none, here]
    simp [Option.filter, ends]
  | cons d tag ih =>
    rw [List.cons_append, location?, ih d (List.cons_ne_nil d tag)]

theorem location?_place {tag : List Char} (tagged : tag ≠ []) (rendering : Rendering) (report : ErrorReport)
    (ends : accept rendering.ending = true) :
    location? accept (rendering.place tag report) =
      some ⟨Nat.toDigits 10 report.line, Nat.toDigits 10 report.column⟩ := by
  have stops : rendering.ending.head?.any isDecimal = false := by
    cases rendering with
    | later => exact isDecimal_colon
    | _ => rfl
  have final : Quiet accept rendering.ending := by cases rendering <;> exact ⟨rfl, rfl⟩
  have column := final.append (not_mem_toDigits report.column)
  -- behind the line number there is one colon, or there are two and nothing follows the second
  have single : numbers? (':' :: (Nat.toDigits 10 report.column ++ rendering.ending)) = none := by
    simp only [numbers?, after?, if_true, Option.bind_eq_bind, Option.bind_some,
      takeWhile_toDigits report.column stops, List.drop_left]
    rcases rendering.ending_eq with none | colon
    · rw [none]
      rfl
    · simp [colon, after?]
  have line : Quiet accept (Nat.toDigits 10 report.line ++ ':' :: (Nat.toDigits 10 report.column ++ rendering.ending)) :=
    Quiet.append ⟨location?_cons_of_quiet column ':', single⟩ (not_mem_toDigits report.line)
  exact location?_append tagged (location?_cons_of_quiet line ':') (numbers?_toDigits _ _ stops) ends

end Place

theorem any_isBlank_place {tag : List Char} {report : ErrorReport} (writable : Writable tag report)
    (rendering : Rendering) : (rendering.place tag report).any isBlank = false := by
  have colon : isBlank ':' = false := rfl
  have digits (number : Nat) : (Nat.toDigits 10 number).any isBlank = false := by
    refine List.any_eq_false.mpr fun c member => ?_
    have ident : isIdentChar c = true := by simp [isIdentChar, isAsciiDigit_of_mem_toDigits member]
    rw [isBlank_eq_false_of_isIdentChar ident]
    exact Bool.false_ne_true
  have ending : rendering.ending.any isBlank = false := by cases rendering <;> rfl
  simp only [Rendering.place, List.any_append, List.any_cons, writable.unbroken, colon, digits, ending, Bool.or_false]

theorem takeWhile_unbroken {run rest : List Char} (unbroken : run.any isBlank = false)
    (parted : rest.head?.all isBlank = true) : (run ++ rest).takeWhile (fun c => !isBlank c) = run := by
  refine takeWhile_append_stopped (fun c member => ?_) ?_
  · simpa using List.any_eq_false.mp unbroken c member
  · cases rest with
    | nil => rfl
    | cons c rest => simpa using parted

theorem placeAfter?_append {run after : List Char} (filled : run ≠ []) (unbroken : run.any isBlank = false)
    (parted : after.head?.all isBlank = true) :
    placeAfter? ('a' :: 't' :: ' ' :: (run ++ after)) = some (run, after) := by
  have trimmed : trimStart (' ' :: (run ++ after)) = run ++ after := by
    obtain ⟨c, run, rfl⟩ := List.exists_cons_of_ne_nil filled
    rw [List.any_cons, Bool.or_eq_false_iff] at unbroken
    have space : isBlankText [' '] = true := rfl
    exact (trimStart_append space _).trans (trimStart_cons unbroken.1 _)
  simp only [placeAfter?, after?, if_true, Option.bind_eq_bind, Option.bind_some, trimmed,
    takeWhile_unbroken unbroken parted, List.drop_left]
  rfl

/-- Right behind its message, the place is read. -/
theorem following?_place {tag after : List Char} {report : ErrorReport} (writable : Writable tag report)
    (rendering : Rendering) (parted : after.head?.all isBlank = true) :
    following? (rendering.joint ++ 'a' :: 't' :: ' ' :: (rendering.place tag report ++ after)) =
      some ⟨Nat.toDigits 10 report.line, Nat.toDigits 10 report.column⟩ := by
  have filled : rendering.place tag report ≠ [] := by simp [Rendering.place]
  have placed := placeAfter?_append filled (any_isBlank_place writable rendering) parted
  have located : location? (fun _ => true) (rendering.place tag report) =
      some ⟨Nat.toDigits 10 report.line, Nat.toDigits 10 report.column⟩ :=
    location?_place writable.tagged rendering report rfl
  generalize rendering.place tag report = run at placed located
  have gone (gap : List Char) (blank : isBlankText gap = true) :
      trimStart (gap ++ 'a' :: 't' :: ' ' :: (run ++ after)) = 'a' :: 't' :: ' ' :: (run ++ after) :=
    (trimStart_append blank _).trans (trimStart_cons rfl _)
  have space : isBlank ' ' = true := rfl
  have spaced := gone [' '] rfl
  rw [List.singleton_append] at spaced
  cases rendering with
  | plain => simp [following?, Rendering.joint, after?, spaced, placed, located, space]
  | comma => simp [following?, Rendering.joint, after?, spaced, placed, located, space]
  | later gap blank =>
    have newline : isBlank '\n' = true := rfl
    have below := gone ('\n' :: gap) (by rw [isBlankText_cons, newline, blank, Bool.and_self])
    rw [List.cons_append] at below
    simp [following?, Rendering.joint, after?, below, placed, located, newline]

theorem mem_blankSeparated {front word rest : List Char} {c : Char} (blank : isBlank c = true) (filled : word ≠ [])
    (unbroken : word.any isBlank = false) (parted : rest.head?.all isBlank = true) :
    word ∈ blankSeparated (front ++ c :: (word ++ rest)) := by
  obtain ⟨d, word, rfl⟩ := List.exists_cons_of_ne_nil filled
  rw [List.any_cons, Bool.or_eq_false_iff] at unbroken
  rw [blankSeparated_append blank, List.cons_append, blankSeparated_cons unbroken.1,
    takeWhile_unbroken unbroken.2 parted]
  exact List.mem_append_right _ List.mem_cons_self

/-- A suffix of a message that ends visibly goes on visibly behind its leading blanks. -/
theorem exists_word_of_blank {back : List Char} (leads : back.head?.any isBlank = true)
    (last : back.getLast?.any isBlank = false) (rest : List Char) :
    ∃ front c word, back = front ++ c :: word ∧ isBlank c = true ∧ word ≠ [] ∧
      trimStart (back ++ rest) = word ++ rest := by
  obtain ⟨gap, blank, split⟩ := exists_blank_append_trimStart back
  have visible : isBlankText back = false := by
    refine Bool.eq_false_iff.mpr fun blank => ?_
    cases final : back.getLast? with
    | none =>
      rw [List.getLast?_eq_none_iff.mp final] at leads
      cases leads
    | some c =>
      rw [final, Option.any_some, isBlankText_iff.mp blank c (List.mem_of_getLast? final)] at last
      cases last
  have word : trimStart back ≠ [] := fun empty => by
    rw [empty, List.append_nil] at split
    rw [split, visible] at blank
    cases blank
  obtain ⟨front, c, rfl⟩ : ∃ front c, gap = front ++ [c] := by
    rcases List.eq_nil_or_concat gap with rfl | ⟨front, c, rfl⟩
    · obtain ⟨c, first, leading⟩ := (Option.any_eq_true _ _).mp leads
      rw [← show trimStart back = back from split] at first
      rw [isBlank_head_trimStart first] at leading
      cases leading
    · exact ⟨front, c, List.concat_eq_append⟩
  rw [isBlankText_append, Bool.and_eq_true] at blank
  exact ⟨front, c, trimStart back, by simpa using split.symm, by simpa using blank.2, word,
    trimStart_append_visible visible rest⟩

/-- No place is read behind a part of the message. -/
theorem following?_suffix {message back rest : List Char} (suffix : back <:+ message) (filled : back ≠ [])
    (last : message.getLast?.any isBlank = false) (ended : message.getLast? ≠ some ',')
    (words : ['a', 't'] ∉ blankSeparated message) (other : rest.head? ≠ some 't') :
    following? (back ++ rest) = none := by
  obtain ⟨front, rfl⟩ := suffix
  -- a comma may be left out, but not the last character of the message
  obtain ⟨back', suffix', filled', here⟩ : ∃ back', back' <:+ back ∧ back' ≠ [] ∧
      (after? [','] (back ++ rest)).getD (back ++ rest) = back' ++ rest := by
    obtain ⟨c, tail, rfl⟩ := List.exists_cons_of_ne_nil filled
    by_cases comma : ',' = c
    · subst comma
      refine ⟨tail, List.suffix_cons _ _, fun empty => ended ?_, by simp [after?]⟩
      rw [empty, List.getLast?_append]
      rfl
    · exact ⟨c :: tail, List.suffix_refl _, filled, by simp [after?, comma]⟩
  obtain ⟨lead, rfl⟩ := suffix'
  rw [following?, here]
  simp only [Option.bind_eq_bind]
  split
  · rfl
  next leads =>
  have leads : back'.head?.any isBlank = true := by
    obtain ⟨c, tail, rfl⟩ := List.exists_cons_of_ne_nil filled'
    simpa using leads
  have last : back'.getLast?.any isBlank = false := by
    rw [← List.append_assoc, List.getLast?_append_of_ne_nil _ filled'] at last
    exact last
  obtain ⟨gap, c, word, rfl, blank, filled, trimmed⟩ := exists_word_of_blank leads last rest
  rw [trimmed]
  cases read : placeAfter? (word ++ rest) with
  | none => rfl
  | some found =>
    refine absurd ?_ words
    simp only [placeAfter?, Option.bind_eq_bind, Option.bind_eq_some_iff] at read
    obtain ⟨behind, keyword, read⟩ := read
    split at read
    · cases read
    next parted =>
    obtain ⟨d, word, rfl⟩ := List.exists_cons_of_ne_nil filled
    rw [after?_eq_some_iff, List.cons_append, List.cons_append, List.cons.injEq] at keyword
    obtain ⟨rfl, keyword⟩ := keyword
    cases word with
    | nil =>
      rw [List.nil_append] at keyword
      rw [keyword] at other
      exact absurd rfl other
    | cons d word =>
      rw [List.cons_append, List.singleton_append, List.cons.injEq] at keyword
      obtain ⟨rfl, rfl⟩ := keyword
      have ends : word.head?.all isBlank = true := by
        cases word with
        | nil => rfl
        | cons d word => simpa using parted
      have member : ['a', 't'] ∈ blankSeparated (front ++ (lead ++ gap) ++ c :: (['a', 't'] ++ word)) :=
        mem_blankSeparated blank (by simp) rfl ends
      simpa using member

/-- The shortest message that a place follows is the whole one. -/
theorem shortestMessage?_append {message rest : List Char} {written : Written} (filled : message ≠ [])
    (single : '\n' ∉ message) (found : following? rest = some written)
    (quiet : ∀ back, back <:+ message → back ≠ [] → following? (back ++ rest) = none) (taken : List Char) :
    shortestMessage? taken (message ++ rest) = some (taken.reverse ++ message, written) := by
  induction message generalizing taken with
  | nil => exact absurd rfl filled
  | cons c message ih =>
    rw [List.mem_cons, not_or] at single
    rw [List.cons_append, shortestMessage?, if_neg (Ne.symm single.1)]
    by_cases final : message = []
    · subst final
      rw [List.nil_append, found]
      simp
    · rw [quiet message (List.suffix_cons c message) final]
      simp only
      rw [ih final single.2 fun back suffix => quiet back (suffix.trans (List.suffix_cons c message))]
      simp

/-- The mark goes over no end of a text without it. -/
theorem after?_errorMark_append {before rest : List Char} (filled : before ≠ []) (absent : ¬ errorMark <+: before) :
    after? errorMark (before ++ (errorMark ++ rest)) = none := by
  cases read : after? errorMark (before ++ (errorMark ++ rest)) with
  | none => rfl
  | some behind =>
    have split := after?_eq_some_iff.mp read
    rcases List.append_eq_append_iff.mp split with ⟨tail, mark, tailed⟩ | ⟨tail, whole, _⟩
    · -- the mark would end with the start of another one, in which there is no colon
      have short : tail.length < errorMark.length := by
        rw [mark, List.length_append]
        exact Nat.lt_add_of_pos_left (List.length_pos_iff.mpr filled)
      have start : tail = errorMark.take tail.length := by
        have taken := congrArg (List.take tail.length) tailed
        rw [List.take_append_of_le_length (Nat.le_of_lt short), List.take_left] at taken
        exact taken.symm
      have plain : ∀ length < errorMark.length, ':' ∉ errorMark.take length := by decide
      refine absurd ?_ (plain tail.length short)
      rw [← start]
      by_cases empty : tail = []
      · rw [empty, List.append_nil] at mark
        exact absurd (mark ▸ List.prefix_refl _) absent
      · have last : (before ++ tail).getLast? = some ':' := by
          rw [← mark]
          rfl
        rw [List.getLast?_append_of_ne_nil _ empty] at last
        exact List.mem_of_getLast? last
    · exact absurd ⟨tail, whole.symm⟩ absent

theorem inline?_append {before rest : List Char} (absent : ¬ errorMark <:+: before) {found : List Char × Written}
    (read : messageAfterBlanks? rest = some found) : inline? (before ++ (errorMark ++ rest)) = some found := by
  induction before with
  | nil =>
    have marked : after? errorMark (errorMark ++ rest) = some rest := after?_append errorMark rest
    obtain ⟨c, mark, spelled⟩ := List.exists_cons_of_ne_nil (by decide : errorMark ≠ [])
    rw [List.nil_append]
    rw [spelled, List.cons_append] at marked ⊢
    rw [inline?, spelled, marked, Option.bind_some, read]
  | cons c before ih =>
    have none : after? errorMark (c :: before ++ (errorMark ++ rest)) = none :=
      after?_errorMark_append (List.cons_ne_nil c before) fun start => absent start.isInfix
    rw [List.cons_append] at none ⊢
    rw [inline?, none]
    exact ih fun later => absent (later.trans (List.suffix_cons c before).isInfix)

theorem messageAfterBlanks?_cons (c : Char) (rest : List Char) :
    messageAfterBlanks? (c :: rest) =
      (if isBlank c then messageAfterBlanks? rest else none).or (shortestMessage? [] (c :: rest)) := by
  rw [messageAfterBlanks?.eq_def]
  dsimp only
  cases (if isBlank c then messageAfterBlanks? rest else none) <;> rfl

theorem messageAfterBlanks?_append {message rest : List Char} {written : Written} (filled : message ≠ [])
    (first : message.head?.any isBlank = false) (read : shortestMessage? [] (message ++ rest) = some (message, written)) :
    messageAfterBlanks? (' ' :: (message ++ rest)) = some (message, written) := by
  obtain ⟨c, tail, rfl⟩ := List.exists_cons_of_ne_nil filled
  have visible : isBlank c = false := first
  have here : messageAfterBlanks? (c :: (tail ++ rest)) = some (c :: tail, written) := by
    rw [messageAfterBlanks?_cons, visible, if_neg Bool.false_ne_true, Option.none_or]
    exact read
  have space : isBlank ' ' = true := rfl
  rw [messageAfterBlanks?_cons, if_pos space, List.cons_append, here, Option.some_or]

/-- The first error in the output is read, whatever stands before it. -/
theorem inline?_text {tag before after : List Char} {report : ErrorReport} (writable : Writable tag report)
    (rendering : Rendering) (absent : ¬ errorMark <:+: before) (parted : after.head?.all isBlank = true) :
    inline? (before ++ (rendering.text tag report ++ after)) =
      some (report.message, ⟨Nat.toDigits 10 report.line, Nat.toDigits 10 report.column⟩) := by
  have other : (rendering.joint ++ 'a' :: 't' :: ' ' :: (rendering.place tag report ++ after)).head? ≠ some 't' := by
    cases rendering <;> simp [Rendering.joint]
  have read := messageAfterBlanks?_append writable.filled writable.first
    (shortestMessage?_append writable.filled writable.single (following?_place writable rendering parted)
      (fun back suffix filled => following?_suffix suffix filled writable.last writable.ended writable.words other) [])
  have whole := inline?_append absent read
  simpa [Rendering.text] using whole

/-- Every error that the parser reports is read as it was written: in each rendering, with colours anywhere, behind
any text without the mark of an error and before anything that does not go on with the place. -/
theorem renderings_read_back {tag : List Char} {report : ErrorReport} (writable : Writable tag report)
    (rendering : Rendering) (before after : List Char) {shown : List Char} (absent : ¬ errorMark <:+: before)
    (parted : after.head?.all isBlank = true) (bare : '\x1b' ∉ before ++ (rendering.text tag report ++ after))
    (coloured : Coloured (before ++ (rendering.text tag report ++ after)) shown) :
    ofOutput? shown = some report := by
  have read : read? ⟨Nat.toDigits 10 report.line, Nat.toDigits 10 report.column⟩ =
      some (report.line, report.column) := by
    rw [read?, readDecimal?_toDigits writable.line, readDecimal?_toDigits writable.column]
    rfl
  simp only [ofOutput?, coloured.stripColours_eq bare, inline?_text writable rendering absent parted,
    Option.bind_some, read, Option.map_some, trim_eq_self writable.first writable.last]

/-- A tag with colons and digits, on a line of its own, with colours inside the mark and the numbers. -/
theorem renderings_read_back_coloured :
    Writable "a:1:2".toList ⟨"no at-sign".toList, 7, 13⟩ ∧
      ofOutput? "note\nerr\x1b[31;1mor: no at-sign\n\n  at a:1:2:7:\x1b[0m13:\n".toList =
        some ⟨"no at-sign".toList, 7, 13⟩ := by
  have writable : Writable "a:1:2".toList ⟨"no at-sign".toList, 7, 13⟩ := by
    constructor <;> decide +kernel
  have red : Coloured [] "\x1b[31;1m".toList := .sequence "31;1".toList 'm' rfl rfl .nil
  have plain : Coloured [] "\x1b[0m".toList := .sequence "0".toList 'm' rfl rfl .nil
  have coloured := (Coloured.refl "note\nerr".toList).append
    (red.append ((Coloured.refl "or: no at-sign\n\n  at a:1:2:7:".toList).append
      (plain.append (Coloured.refl "13:\n".toList))))
  refine ⟨writable, ?_⟩
  exact renderings_read_back writable (.later "\n  ".toList rfl) "note\n".toList ['\n'] (by decide +kernel) rfl
    (by decide +kernel) coloured

end ErrorReport

end Dialect
