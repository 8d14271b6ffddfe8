import Dialect.Proofs.Code.View
import Dialect.Structure.Statement

/-! Attribute trees, and the layout of a document that has one item on each line, at any indentation. -/
namespace Dialect

/-- Stands for itself: no blank, no bracket, and no sign of the syntax around words. -/
def isPlain (c : Char) : Bool :=
  !isBlank c && !isOpener c && !isCloser c && !List.contains ['"', '\'', commentMarker, '=', ';'] c

/-- A name. Letters, digits, `_` and `-` are plain. -/
structure Word where
  text : List Char
  filled : text ≠ []
  plain : text.all isPlain = true

/-- Needs no escape in a string on one line. -/
def isUnescaped (c : Char) : Bool := c != '"' && c != '\\' && c != '\n'

inductive Scalar where
  | number (digits : List Char) (filled : digits ≠ []) (decimal : digits.all isAsciiDigit = true)
  | string (body : List Char) (unescaped : body.all isUnescaped = true)

mutual

/-- What stands between the braces of a set. -/
inductive Attributes where
  | nil
  | scalar (name : Word) (value : Scalar) (rest : Attributes)
  | set (name : Word) (inner : Attributes) (rest : Attributes)
  | array (name : Word) (elements : Elements) (rest : Attributes)

/-- What stands between the brackets of an array. -/
inductive Elements where
  | nil
  | scalar (value : Scalar) (rest : Elements)
  | set (inner : Attributes) (rest : Elements)

end

/-- What goes on over several lines. -/
inductive Enclosure where
  | set
  | array

namespace Enclosure

def opener : Enclosure → Char
  | set => '{'
  | array => '['

def closer : Enclosure → Char
  | set => '}'
  | array => ']'

end Enclosure

/-- What stands on one line. -/
inductive Row where
  | binding (name : Word) (value : Scalar)
  | element (value : Scalar)
  | opening (name : Option Word) (enclosure : Enclosure)
  | closing (enclosure : Enclosure) (ended : Bool)

namespace Scalar

def text : Scalar → List Char
  | number digits _ _ => digits
  | string body _ => '"' :: (body ++ ['"'])

/-- What a reader of the code sees of it. -/
def shown : Scalar → List Char
  | number digits _ _ => digits
  | string body _ => '"' :: (body.map (fun _ => ' ') ++ ['"'])

end Scalar

namespace Row

def print (value : Scalar → List Char) : Row → List Char
  | binding name scalar => name.text ++ [' ', '=', ' '] ++ value scalar ++ [';']
  | element scalar => value scalar
  | opening none enclosure => [enclosure.opener]
  | opening (some name) enclosure => name.text ++ [' ', '=', ' '] ++ [enclosure.opener]
  | closing enclosure false => [enclosure.closer]
  | closing enclosure true => [enclosure.closer, ';']

def text : Row → List Char := print Scalar.text

def shown : Row → List Char := print Scalar.shown

end Row

mutual

def Attributes.rows : Attributes → List Row
  | .nil => []
  | .scalar name value rest => .binding name value :: rest.rows
  | .set name inner rest => .opening (some name) .set :: (inner.rows ++ .closing .set true :: rest.rows)
  | .array name elements rest =>
    .opening (some name) .array :: (elements.rows ++ .closing .array true :: rest.rows)

def Elements.rows : Elements → List Row
  | .nil => []
  | .scalar value rest => .element value :: rest.rows
  | .set inner rest => .opening none .set :: (inner.rows ++ .closing .set false :: rest.rows)

end

def Attributes.document (tree : Attributes) : List Row :=
  .opening none .set :: (tree.rows ++ [.closing .set false])

/-- These lines hold one row each, at any indentation. -/
def PrintedAs (found : List (List Char)) (rows : List Row) : Prop := found.map trimStart = rows.map Row.text

open CodeLine

/-- A line that shows `front`, where it stands in code, as `shown`, and is read on in code. -/
def Shown (front shown : List Char) : Prop :=
  ∀ back, readLine false false (front ++ back) = (readLine false false back).behind shown

theorem LineReading.behind_behind (first second : List Char) (reading : LineReading) :
    (reading.behind second).behind first = reading.behind (first ++ second) := by
  simp [behind]

namespace Shown

variable {front front' shown shown' : List Char}

theorem append (first : Shown front shown) (second : Shown front' shown') :
    Shown (front ++ front') (shown ++ shown') := by
  intro back
  rw [List.append_assoc, first, second, LineReading.behind_behind]

theorem self (free : ∀ c ∈ front, c ≠ '"' ∧ c ≠ '\'' ∧ c ≠ commentMarker) : Shown front front := by
  intro back
  induction front with
  | nil => rfl
  | cons c front ih =>
    obtain ⟨quote, prime, marker⟩ := free c List.mem_cons_self
    have read : readLine false false (c :: (front ++ back)) = (readLine false false (front ++ back)).behind [c] := by
      rw [readLine.eq_def]
      simp [quote, prime, marker]
    rw [List.cons_append, read, ih fun d member => free d (List.mem_cons_of_mem c member), LineReading.behind_behind,
      List.singleton_append]

theorem blank (blank : isBlankText front = true) : Shown front front := by
  refine self fun c member => ?_
  have other {d : Char} (visible : isBlank d = false) : c ≠ d :=
    ne_of_isBlank (isBlankText_iff.mp blank c member) visible
  exact ⟨other rfl, other rfl, other rfl⟩

theorem body {body : List Char} (unescaped : body.all isUnescaped = true) (back : List Char) :
    readLine false true (body ++ '"' :: back) =
      (readLine false false back).behind (body.map (fun _ => ' ') ++ ['"']) := by
  induction body with
  | nil =>
    rw [List.nil_append, readLine.eq_def]
    simp
  | cons c body ih =>
    simp only [List.all_cons, Bool.and_eq_true, isUnescaped, bne_iff_ne] at unescaped
    have read : readLine false true (c :: (body ++ '"' :: back)) =
        (readLine false true (body ++ '"' :: back)).behind [' '] := by
      rw [readLine.eq_def]
      simp [unescaped]
    rw [List.cons_append, read, ih (by simpa [isUnescaped] using unescaped.2), LineReading.behind_behind]
    rfl

/-- A line that ends in a visible sign is read as it is shown. -/
theorem ofText {gap last : List Char} {c : Char} (read : Shown front shown) (blank : isBlankText gap = true)
    (ends : shown = last ++ [c]) (visible : isBlank c = false) :
    CodeLine.ofText false (gap ++ front) = ⟨gap ++ shown, false, false⟩ := by
  have whole := (Shown.blank blank).append read []
  rw [List.append_nil] at whole
  have cut : trimEnd (gap ++ shown ++ []) = gap ++ shown := by
    rw [List.append_nil, ends, ← List.append_assoc, trimEnd_concat visible]
  apply CodeLine.ext
  · rw [CodeLine.ofText, whole]
    exact cut
  · rfl
  · rw [CodeLine.ofText, whole]
    rfl

end Shown

theorem isPlain_ne {c d : Char} (plain : isPlain c = true) (other : isPlain d = false) : c ≠ d := by
  rintro rfl
  rw [plain] at other
  cases other

theorem isPlain_of_isIdentChar {c : Char} (ident : isIdentChar c = true) (prime : c ≠ '\'') :
    isPlain c = true := by
  have visible := isBlank_eq_false_of_isIdentChar ident
  have other {d : Char} (sign : isIdentChar d = false) : c ≠ d := by
    rintro rfl
    rw [ident] at sign
    cases sign
  simp [isPlain, visible, isOpener, isCloser, prime, @other '(' rfl, @other '[' rfl, @other '{' rfl,
    @other ')' rfl, @other ']' rfl, @other '}' rfl, @other '"' rfl, @other commentMarker rfl, @other '=' rfl,
    @other ';' rfl]

theorem isPlain_of_isAsciiDigit {c : Char} (digit : isAsciiDigit c = true) : isPlain c = true := by
  refine isPlain_of_isIdentChar (by simp [isIdentChar, digit]) ?_
  rintro rfl
  cases digit

theorem Word.shown (word : Word) : Shown word.text word.text :=
  .self fun c member =>
    have plain := List.all_eq_true.mp word.plain c member
    ⟨isPlain_ne plain rfl, isPlain_ne plain rfl, isPlain_ne plain rfl⟩

theorem Scalar.shown_text (value : Scalar) : Shown value.text value.shown := by
  cases value with
  | number digits filled decimal =>
    refine .self fun c member => ?_
    have plain := isPlain_of_isAsciiDigit (List.all_eq_true.mp decimal c member)
    exact ⟨isPlain_ne plain rfl, isPlain_ne plain rfl, isPlain_ne plain rfl⟩
  | string body unescaped =>
    intro back
    have read : readLine false false ('"' :: (body ++ '"' :: back)) =
        (readLine false true (body ++ '"' :: back)).behind ['"'] := by
      rw [readLine.eq_def]
      simp [commentMarker]
    rw [text, shown, List.cons_append, List.append_assoc, List.singleton_append, read, Shown.body unescaped,
      LineReading.behind_behind]
    rfl

theorem Row.shown_text (row : Row) : Shown row.text row.shown := by
  have between : Shown [' ', '=', ' '] [' ', '=', ' '] := .self (by simp [commentMarker])
  have opener (enclosure : Enclosure) : Shown [enclosure.opener] [enclosure.opener] := by
    cases enclosure <;> exact .self (by simp [Enclosure.opener, commentMarker])
  cases row with
  | binding name value =>
    exact ((name.shown.append between).append value.shown_text).append (.self (by simp [commentMarker]))
  | element value => exact value.shown_text
  | opening name enclosure =>
    cases name with
    | none => exact opener enclosure
    | some name => exact (name.shown.append between).append (opener enclosure)
  | closing enclosure ended =>
    cases enclosure <;> cases ended <;> exact .self (by simp [text, print, Enclosure.closer, commentMarker])

/-- A scalar ends in a digit or a quote. -/
def endsScalar (c : Char) : Bool := isAsciiDigit c || c == '"'

theorem Scalar.exists_last (value : Scalar) : ∃ front c, value.shown = front ++ [c] ∧ endsScalar c = true := by
  cases value with
  | number digits filled decimal =>
    rcases List.eq_nil_or_concat digits with rfl | ⟨front, c, rfl⟩
    · exact absurd rfl filled
    · have digit : isAsciiDigit c = true := by simp at decimal; exact decimal.2
      exact ⟨front, c, List.concat_eq_append, by simp [endsScalar, digit]⟩
  | string body unescaped => exact ⟨'"' :: body.map (fun _ => ' '), '"', rfl, rfl⟩

theorem ne_of_endsScalar {c d : Char} (ends : endsScalar c = true) (other : endsScalar d = false) : c ≠ d := by
  rintro rfl
  rw [ends] at other
  cases other

theorem isBlank_eq_false_of_endsScalar {c : Char} (ends : endsScalar c = true) : isBlank c = false := by
  rw [endsScalar, Bool.or_eq_true, beq_iff_eq] at ends
  rcases ends with digit | rfl
  · exact isBlank_eq_false_of_isIdentChar (by simp [isIdentChar, digit])
  · rfl

/-- A row ends in a sign or in a digit, so nothing of it is cut off and it announces no value. -/
theorem Row.exists_last (row : Row) :
    ∃ front c, row.shown = front ++ [c] ∧ isBlank c = false ∧ c ≠ '=' ∧ c ≠ 'n' ∧ c ≠ 'e' := by
  cases row with
  | binding name value => exact ⟨_, ';', rfl, by decide⟩
  | element value =>
    obtain ⟨front, c, split, ends⟩ := value.exists_last
    exact ⟨front, c, split, isBlank_eq_false_of_endsScalar ends, ne_of_endsScalar ends rfl, ne_of_endsScalar ends rfl,
      ne_of_endsScalar ends rfl⟩
  | opening name enclosure =>
    cases name with
    | none => exact ⟨[], enclosure.opener, rfl, by cases enclosure <;> decide⟩
    | some name => exact ⟨_, enclosure.opener, rfl, by cases enclosure <;> decide⟩
  | closing enclosure ended =>
    cases ended with
    | false => exact ⟨[], enclosure.closer, rfl, by cases enclosure <;> decide⟩
    | true => exact ⟨[enclosure.closer], ';', rfl, by decide⟩

namespace Row

/-- The code line of a row that stands after the blanks `gap`. -/
def code (gap : List Char) (row : Row) : CodeLine := ⟨gap ++ row.shown, false, false⟩

theorem exists_code {line : List Char} {row : Row} (printed : trimStart line = row.text) :
    ∃ gap, isBlankText gap = true ∧ ofText false line = row.code gap := by
  obtain ⟨gap, blank, split⟩ := exists_blank_append_trimStart line
  obtain ⟨front, c, last, visible, _⟩ := row.exists_last
  rw [printed] at split
  exact ⟨gap, blank, split ▸ row.shown_text.ofText blank last visible⟩

end Row

/-- Every line of the layout starts and ends in code. -/
theorem ofLines_printed {found : List (List Char)} {rows : List Row} (printed : PrintedAs found rows)
    (more : List (List Char)) : ofLines false (found ++ more) = found.map (ofText false) ++ ofLines false more := by
  induction found generalizing rows with
  | nil => rfl
  | cons line found ih =>
    match rows, printed with
    | row :: rows, printed =>
      rw [PrintedAs, List.map_cons, List.map_cons, List.cons.injEq] at printed
      obtain ⟨gap, _, code⟩ := Row.exists_code printed.1
      rw [List.cons_append, ofLines, List.map_cons, code, show (Row.code gap row).endsRaw = false from rfl,
        ih printed.2, List.cons_append]

end Dialect
