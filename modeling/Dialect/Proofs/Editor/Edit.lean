import Dialect.Editor.Edit
import Dialect.Proofs.Position.Offset

/-! What an editor makes of the edits that it is sent. It looks their places up in its own text, line by line and in
the units of the encoding, and exchanges what stands between them. -/
namespace Dialect.Editor

/-- The exchange that an edit asks for; none if one of its places is not between two characters of the text. -/
def Edit.splice? (text : List Char) (encoding : Encoding) (edit : Edit) : Option Splice := do
  let start ← edit.area.start.index? text encoding
  let stop ← edit.area.stop.index? text encoding
  return ⟨⟨start, stop⟩, edit.newText⟩

/-- The text after all edits, which speak of the text before them. -/
def edited? (text : List Char) (encoding : Encoding) (edits : List Edit) : Option (List Char) :=
  (edits.mapM (Edit.splice? text encoding)).map fun splices => Splice.weave text 0 (Splice.sort splices)

/-- The stretch of an area in byte offsets. -/
def Area.bytes? (text : List Char) (encoding : Encoding) (area : Area) : Option Span := do
  let start ← area.start.index? text encoding
  let stop ← area.stop.index? text encoding
  return Span.bytes ⟨start, stop⟩ text

/-- No line of the text is too long for a place, and no line number too large. -/
structure Encoding.Fits (encoding : Encoding) (text : List Char) : Prop where
  few : lineCount text < UInt32.size
  short : ∀ line ∈ splitLines text, measure encoding.width line < UInt32.size

section FullArea

variable {text : List Char} {encoding : Encoding}

theorem index?_origin (text : List Char) (encoding : Encoding) : Place.index? text encoding ⟨0, 0⟩ = some 0 := by
  simp only [Place.index?, lineAt?_zero, Option.bind_eq_bind, Option.bind_some, charsIn?]
  rfl

/-- The end of the full area is the end of the text. -/
theorem index?_end (fits : encoding.Fits text) :
    (fullArea text encoding).stop.index? text encoding = some text.length := by
  obtain ⟨inside, index⟩ := Position.isIn_ofIndex (Nat.le_refl text.length)
  rw [fullArea, Position.ofByte_byteLength, index?_place inside encoding fits.few fits.short, index]

theorem bytes?_fullArea (fits : encoding.Fits text) :
    (fullArea text encoding).bytes? text encoding = some ⟨0, byteLength text⟩ := by
  have start : (fullArea text encoding).start.index? text encoding = some 0 := index?_origin text encoding
  simp only [Area.bytes?, start, index?_end fits, Option.bind_eq_bind, Option.bind_some, Span.bytes, byteOffset,
    List.take_length]
  rfl

theorem weave_whole (text replacement : List Char) :
    Splice.weave text 0 [⟨⟨0, text.length⟩, replacement⟩] = replacement := by
  simp [Splice.weave, Span.slice]

theorem edited?_editsBetween (fits : encoding.Fits text) (formatted : List Char) :
    edited? text encoding (editsBetween text formatted encoding) = some formatted := by
  rw [editsBetween]
  split
  · next same =>
    rw [← same]
    rfl
  · have start : (fullArea text encoding).start.index? text encoding = some 0 := index?_origin text encoding
    have whole : Edit.splice? text encoding ⟨fullArea text encoding, formatted⟩ =
        some ⟨⟨0, text.length⟩, formatted⟩ := by
      simp only [Edit.splice?, start, index?_end fits, Option.bind_eq_bind, Option.bind_some, Option.pure_def]
    simp only [edited?, List.mapM_cons, List.mapM_nil, whole, Option.bind_eq_bind, Option.bind_some,
      Option.pure_def, Option.map_some]
    exact congrArg some (weave_whole text formatted)

end FullArea

/-- An editor that carries out the edits has the formatted text. The full area is the whole text to the byte, and no
edit is sent only for a text that stays as it is. So formatting a document leads the editor to what the formatter
has made of it. -/
theorem edits_reproduce_formatted (source formatted : List Char) (encoding : Encoding) (fits : encoding.Fits source) :
    edited? source encoding (editsBetween source formatted encoding) = some formatted ∧
      (fullArea source encoding).bytes? source encoding = some ⟨0, byteLength source⟩ ∧
      (editsBetween source formatted encoding = [] ↔ source = formatted) ∧
      ∀ launch formatter, (formatDocument launch formatter source encoding).map (edited? source encoding) =
        (formatText launch formatter source).map some := by
  refine ⟨edited?_editsBetween fits formatted, bytes?_fullArea fits, ?_, fun launch formatter => ?_⟩
  · rw [editsBetween]
    split <;> simp_all
  · rw [formatDocument]
    cases formatText launch formatter source with
    | error failure => rfl
    | ok text => exact congrArg Except.ok (edited?_editsBetween fits text)

/-- A last line after a carriage return and with a character beyond the basic plane, which takes two units. -/
theorem edits_reproduce_formatted_astral :
    Encoding.utf16.Fits "a\r\n𝕏=1".toList ∧
      editsBetween "a\r\n𝕏=1".toList "a\n𝕏 = 1;\n".toList .utf16 =
        [⟨⟨⟨0, 0⟩, ⟨1, 4⟩⟩, "a\n𝕏 = 1;\n".toList⟩] ∧
      edited? "a\r\n𝕏=1".toList .utf16 [⟨⟨⟨0, 0⟩, ⟨1, 4⟩⟩, "a\n𝕏 = 1;\n".toList⟩] = some "a\n𝕏 = 1;\n".toList := by
  have edits : editsBetween "a\r\n𝕏=1".toList "a\n𝕏 = 1;\n".toList .utf16 =
      [⟨⟨⟨0, 0⟩, ⟨1, 4⟩⟩, "a\n𝕏 = 1;\n".toList⟩] := by decide +kernel
  have fits : Encoding.utf16.Fits "a\r\n𝕏=1".toList := ⟨by decide +kernel, by decide +kernel⟩
  refine ⟨fits, edits, ?_⟩
  rw [← edits]
  exact (edits_reproduce_formatted _ _ _ fits).1

end Dialect.Editor
