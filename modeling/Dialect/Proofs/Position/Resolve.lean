import Dialect.Cli.Report
import Dialect.Editor.Diagnostic
import Dialect.Proofs.Position.Index
import Dialect.Proofs.Text.Search

/-! How readers find the text that a diagnostic points at. All they have is numbers: the command line counts
the bytes of the whole text, an editor the code units of one line. -/
namespace Dialect

/-- How many characters are `count` units wide in all, where a text starts with such characters. -/
def charsIn? (width : Char → Nat) : Nat → List Char → Option Nat
  | 0, _ => some 0
  | _ + 1, [] => none
  | count + 1, c :: rest =>
    if width c ≤ count + 1 then (charsIn? width (count + 1 - width c) rest).map (· + 1) else none

/-- The stretch of the source that a report labels. -/
def Cli.Report.labelled? (source : List Char) (report : Cli.Report) : Option (List Char) := do
  let start ← charsIn? byteWidth report.offset source
  let stop ← charsIn? byteWidth (report.offset + report.length) source
  return Span.slice ⟨start, stop⟩ source

/-- The stretch of a text between two byte offsets. -/
def bytesBetween? (text : List Char) (start stop : Nat) : Option (List Char) := do
  let first ← charsIn? byteWidth start text
  let last ← charsIn? byteWidth stop text
  return Span.slice ⟨first, last⟩ text

/-- The character at a place, by its index; the line ends at newlines only. -/
def Editor.Place.index? (text : List Char) (encoding : Editor.Encoding) (place : Editor.Place) : Option Nat := do
  let line ← lineAt? text place.line
  let column ← charsIn? encoding.width place.character line
  return lineStart text place.line + column

/-- The text that an editor marks. -/
def Editor.Area.slice? (text : List Char) (encoding : Editor.Encoding) (area : Editor.Area) :
    Option (List Char) := do
  let start ← area.start.index? text encoding
  let stop ← area.stop.index? text encoding
  return Span.slice ⟨start, stop⟩ text

theorem charsIn?_cons {width : Char → Nat} {c : Char} (positive : 0 < width c) (count : Nat) (text : List Char) :
    charsIn? width (width c + count) (c :: text) = (charsIn? width count text).map (· + 1) := by
  obtain ⟨more, total⟩ := Nat.exists_eq_add_one_of_ne_zero (n := width c + count) (by omega)
  rw [total, charsIn?, if_pos (by omega), ← total, Nat.add_sub_cancel_left]

/-- The width of the first characters says how many they are. -/
theorem charsIn?_measure {width : Char → Nat} (positive : ∀ c, 0 < width c) {text : List Char} {count : Nat}
    (inside : count ≤ text.length) : charsIn? width (measure width (text.take count)) text = some count := by
  induction text generalizing count with
  | nil =>
    obtain rfl : count = 0 := Nat.le_zero.mp inside
    rfl
  | cons c text ih =>
    cases count with
    | zero => rfl
    | succ count =>
      rw [List.take_succ_cons, measure_cons, charsIn?_cons (positive c), ih (Nat.le_of_succ_le_succ inside)]
      rfl

theorem charsIn?_byteOffset {text : List Char} {index : Nat} (inside : index ≤ text.length) :
    charsIn? byteWidth (byteOffset text index) text = some index := charsIn?_measure Char.utf8Size_pos inside

/-- The bytes before a position are those of the characters before it. -/
theorem charsIn?_toByte {text : List Char} {p : Position} (inside : p.IsIn text) :
    charsIn? byteWidth (p.toByte text) text = some (p.toIndex text) := by
  rw [inside.toByte_eq]
  exact charsIn?_byteOffset inside.toIndex_le

theorem measure_take_le (width : Char → Nat) (text : List Char) (count : Nat) :
    measure width (text.take count) ≤ measure width text := by
  have whole := measure_append width (text.take count) (text.drop count)
  rw [List.take_append_drop] at whole
  omega

theorem byteOffset_le (text : List Char) {i j : Nat} (ordered : i ≤ j) : byteOffset text i ≤ byteOffset text j := by
  have part := measure_take_le byteWidth (text.take j) i
  rwa [List.take_take, Nat.min_eq_left ordered] at part

theorem byteOffset_lt {text : List Char} {i j : Nat} (ordered : i < j) (inside : j ≤ text.length) :
    byteOffset text i < byteOffset text j := by
  refine Nat.lt_of_le_of_ne (byteOffset_le text (Nat.le_of_lt ordered)) fun same => ?_
  have first := charsIn?_byteOffset (Nat.le_trans (Nat.le_of_lt ordered) inside)
  rw [same, charsIn?_byteOffset inside] at first
  exact absurd (Option.some.inj first).symm (Nat.ne_of_lt ordered)

theorem Editor.Encoding.width_pos (encoding : Editor.Encoding) (c : Char) : 0 < encoding.width c := by
  cases encoding with
  | utf16 =>
    simp only [Editor.Encoding.width, unitWidth]
    split <;> decide
  | utf32 => exact Nat.one_pos

namespace Range

/-- The range covers a stretch of the document that is not empty. -/
structure Within (text : List Char) (r : Range) : Prop where
  start : r.start.IsIn text
  stop : r.stop.IsIn text
  order : r.start.Before r.stop

/-- The text that a range covers. -/
def slice (text : List Char) (r : Range) : List Char :=
  Span.slice ⟨r.start.toIndex text, r.stop.toIndex text⟩ text

variable {text chars : List Char} {number column length : Nat}

theorem within_onLine (found : lineAt? text number = some chars) (filled : 0 < length)
    (short : column + length ≤ chars.length) : (onLine number column length).Within text where
  start := Position.isIn_of_lineAt? (p := ⟨number, column⟩) found (Nat.le_trans (Nat.le_add_right _ _) short)
  stop := Position.isIn_of_lineAt? (p := ⟨number, column + length⟩) found short
  order := .inr ⟨rfl, Nat.lt_add_of_pos_right filled⟩

theorem within_ofSpan {span : Span} (filled : span.start < span.stop) (inside : span.stop ≤ text.length) :
    (ofSpan text span).Within text := by
  obtain ⟨start, first⟩ := Position.isIn_ofIndex (Nat.le_trans (Nat.le_of_lt filled) inside)
  obtain ⟨stop, last⟩ := Position.isIn_ofIndex inside
  refine ⟨start, stop, (start.before_iff stop).mpr ?_⟩
  rwa [first, last]

theorem Within.slice_ne_nil {r : Range} (within : r.Within text) : r.slice text ≠ [] := by
  have filled := (within.start.before_iff within.stop).mp within.order
  have inside := within.stop.toIndex_le
  have length := @Span.length_slice ⟨r.start.toIndex text, r.stop.toIndex text⟩ text inside
  rw [slice, ← List.length_pos_iff, length]
  exact Nat.sub_pos_of_lt filled

theorem Within.bytesBetween? {r : Range} (within : r.Within text) :
    bytesBetween? text (r.start.toByte text) (r.stop.toByte text) = some (r.slice text) := by
  rw [Dialect.bytesBetween?, charsIn?_toByte within.start, charsIn?_toByte within.stop]
  rfl

theorem slice_ofSpan {span : Span} (filled : span.start < span.stop) (inside : span.stop ≤ text.length) :
    (ofSpan text span).slice text = span.slice text := by
  obtain ⟨_, first⟩ := Position.isIn_ofIndex (Nat.le_trans (Nat.le_of_lt filled) inside)
  obtain ⟨_, last⟩ := Position.isIn_ofIndex inside
  rw [slice, ofSpan, first, last]

/-- And resolved to byte offsets it is the stretch in byte offsets. -/
theorem toByte_ofSpan {span : Span} (order : span.start ≤ span.stop) (inside : span.stop ≤ text.length) :
    (⟨(ofSpan text span).start.toByte text, (ofSpan text span).stop.toByte text⟩ : Span) = span.bytes text := by
  obtain ⟨start, first⟩ := Position.isIn_ofIndex (Nat.le_trans order inside)
  obtain ⟨stop, last⟩ := Position.isIn_ofIndex inside
  rw [ofSpan, start.toByte_eq, stop.toByte_eq, first, last]
  rfl

theorem slice_onLine {c : Char} (found : lineAt? text number = some chars) (here : chars[column]? = some c) :
    (onLine number column 1).slice text = [c] := by
  have inside := (List.getElem?_eq_some_iff.mp here).1
  have there := Position.getElem?_toIndex (p := ⟨number, column⟩) found inside
  have start := Position.toIndex_eq (p := ⟨number, column⟩) found (Nat.le_of_lt inside)
  have stop := Position.toIndex_eq (p := ⟨number, column + 1⟩) found inside
  obtain ⟨bound, same⟩ := List.getElem?_eq_some_iff.mp (there.trans here)
  simp only at start stop
  rw [slice, Span.slice, onLine, stop, ← Nat.add_assoc, ← start, Nat.add_sub_cancel_left,
    List.drop_eq_getElem_cons bound, same]
  rfl

end Range

section Readers

variable {text : List Char} {d : Diagnostic}

/-- A label ends where its range ends, unless the range ends before it starts. -/
theorem Cli.Report.stop_eq (ordered : d.range.start.toByte text ≤ d.range.stop.toByte text) :
    (Cli.Report.of text d).offset + (Cli.Report.of text d).length = d.range.stop.toByte text := by
  simp only [Cli.Report.of]
  omega

/-- The command line labels the range of the diagnostic. -/
theorem labelled?_of_within (within : d.range.Within text) :
    (Cli.Report.of text d).labelled? text = some (d.range.slice text) := by
  have order := byteOffset_le text (Nat.le_of_lt ((within.start.before_iff within.stop).mp within.order))
  rw [← within.start.toByte_eq, ← within.stop.toByte_eq] at order
  have start : (Cli.Report.of text d).offset = d.range.start.toByte text := rfl
  rw [Cli.Report.labelled?, Cli.Report.stop_eq order, start, charsIn?_toByte within.start,
    charsIn?_toByte within.stop]
  rfl

theorem place_eq {p : Position} {line : List Char} {encoding : Editor.Encoding}
    (found : lineAt? text p.line = some line) (column : p.column ≤ line.length) :
    Editor.place text encoding p =
      ⟨min p.line Editor.placeMax, min (measure encoding.width (line.take p.column)) Editor.placeMax⟩ := by
  cases encoding with
  | utf16 =>
    simp only [Editor.place, found]
    rfl
  | utf32 =>
    simp only [Editor.place, Editor.Encoding.width, measure_one, List.length_take_of_le column]

/-- Where numbers are large enough for the document, a place counts the units before its position. -/
theorem place_of_short {p : Position} {line : List Char} {encoding : Editor.Encoding}
    (found : lineAt? text p.line = some line) (column : p.column ≤ line.length) (few : lineCount text < UInt32.size)
    (short : ∀ line ∈ splitLines text, measure encoding.width line < UInt32.size) :
    Editor.place text encoding p = ⟨p.line, measure encoding.width (line.take p.column)⟩ := by
  have small := short line (mem_of_lineAt? found)
  have part := measure_take_le encoding.width line p.column
  have lower := lt_of_lineAt? found
  rw [place_eq found column, Nat.min_eq_left, Nat.min_eq_left]
  · exact Nat.le_of_lt_succ (Nat.lt_of_le_of_lt part small)
  · exact Nat.le_of_lt_succ (Nat.lt_trans lower few)

theorem index?_place {p : Position} (inside : p.IsIn text) (encoding : Editor.Encoding)
    (few : lineCount text < UInt32.size) (short : ∀ line ∈ splitLines text, measure encoding.width line < UInt32.size) :
    (Editor.place text encoding p).index? text encoding = some (p.toIndex text) := by
  obtain ⟨line, found, column⟩ := inside.exists_line
  rw [place_of_short found column few short, Editor.Place.index?]
  simp only [found, Option.bind_eq_bind, Option.bind_some, charsIn?_measure encoding.width_pos column]
  rw [Position.toIndex_eq found column]
  rfl

/-- And it marks the range of the diagnostic. -/
theorem slice?_of_within (within : d.range.Within text) (encoding : Editor.Encoding)
    (few : lineCount text < UInt32.size) (short : ∀ line ∈ splitLines text, measure encoding.width line < UInt32.size) :
    (Editor.Diagnostic.of text encoding d).area.slice? text encoding = some (d.range.slice text) := by
  rw [Editor.Area.slice?]
  simp only [Editor.Diagnostic.of, Editor.area, index?_place within.start encoding few short,
    index?_place within.stop encoding few short]
  rfl

end Readers

end Dialect
