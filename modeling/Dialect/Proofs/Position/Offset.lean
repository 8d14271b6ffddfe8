import Dialect.Proofs.Position.Resolve

/-! Byte offsets and positions. Between the offsets at which characters start or end and the positions of a document
they are inverse to each other and keep the order. What is no position of the document counts as the nearest one
that is. -/
namespace Dialect

/-- The offset stands between two characters of the text, or at one of its ends. -/
def IsBoundary (text : List Char) (offset : Nat) : Prop := ∃ index ≤ text.length, byteOffset text index = offset

instance (text : List Char) (offset : Nat) : Decidable (IsBoundary text offset) :=
  inferInstanceAs (Decidable (∃ index ≤ text.length, byteOffset text index = offset))

theorem byteOffset_length (text : List Char) : byteOffset text text.length = byteLength text := by
  simp [byteOffset]

theorem byteOffset_cons (c : Char) (text : List Char) (index : Nat) :
    byteOffset (c :: text) (index + 1) = byteWidth c + byteOffset text index := by
  simp [byteOffset, byteLength, measure_cons]

theorem IsBoundary.le_byteLength {text : List Char} {offset : Nat} (boundary : IsBoundary text offset) :
    offset ≤ byteLength text := by
  obtain ⟨index, inside, rfl⟩ := boundary
  rw [← byteOffset_length]
  exact byteOffset_le text inside

namespace Position

variable {text line : List Char} {p q : Position}

theorem precedes_iff : p.Precedes q ↔ ¬ q.Before p := by
  simp only [Precedes, Before]
  omega

/-- Positions of the document are ordered as their indices are. -/
theorem IsIn.precedes_iff (inside : p.IsIn text) (inside' : q.IsIn text) :
    p.Precedes q ↔ toIndex text p ≤ toIndex text q := by
  rw [Position.precedes_iff, inside'.before_iff inside]
  exact Nat.not_lt

/-- The end of its line stands for a position behind it, the end of the text for one below all lines. -/
def nearest (text : List Char) (p : Position) : Position :=
  match lineAt? text p.line with
  | some line => ⟨p.line, min p.column line.length⟩
  | none => ofIndex text text.length

theorem isIn_nearest (text : List Char) (p : Position) : (nearest text p).IsIn text := by
  rw [nearest]
  split
  · next line found => exact isIn_of_lineAt? (p := ⟨p.line, _⟩) found (Nat.min_le_right _ _)
  · exact (isIn_ofIndex (Nat.le_refl _)).1

theorem toByte_of_none (below : lineAt? text p.line = none) : toByte text p = byteLength text := by
  have lower := lineAt?_eq_none_iff.mp below
  rw [lineCount_eq] at lower
  rw [toByte_eq_distance]
  exact distance_below lower byteWidth p.column

theorem toByte_of_some (found : lineAt? text p.line = some line) :
    toByte text p = toByte text ⟨p.line, min p.column line.length⟩ := by
  obtain ⟨front, rest, _, _, distance⟩ := exists_line_split found
  have part : line.take (min p.column line.length) = line.take p.column := by simp
  simp only [toByte_eq_distance, distance, part]

/-- A position has the offset of the position that stands for it. -/
theorem toByte_nearest (text : List Char) (p : Position) : toByte text (nearest text p) = toByte text p := by
  cases found : lineAt? text p.line with
  | some line => simp only [nearest, found, toByte_of_some found]
  | none =>
    obtain ⟨inside, last⟩ := isIn_ofIndex (Nat.le_refl text.length)
    simp only [nearest, found, toByte_of_none found, inside.toByte_eq, last, byteOffset_length]

theorem toByte_eq_byteOffset (text : List Char) (p : Position) :
    toByte text p = byteOffset text (toIndex text (nearest text p)) := by
  rw [← toByte_nearest]
  exact (isIn_nearest text p).toByte_eq

theorem isBoundary_toByte (text : List Char) (p : Position) : IsBoundary text (toByte text p) :=
  ⟨_, (isIn_nearest text p).toIndex_le, (toByte_eq_byteOffset text p).symm⟩

theorem Precedes.nearest (ordered : p.Precedes q) (text : List Char) :
    (p.nearest text).Precedes (q.nearest text) := by
  cases found : lineAt? text q.line with
  | none =>
    obtain ⟨inside, last⟩ := isIn_ofIndex (Nat.le_refl text.length)
    have bottom : q.nearest text = ofIndex text text.length := by simp only [Position.nearest, found]
    rw [bottom]
    apply ((isIn_nearest text p).precedes_iff inside).mpr
    rw [last]
    exact (isIn_nearest text p).toIndex_le
  | some line =>
    have inside := lt_of_lineAt? found
    rcases ordered with above | ⟨same, left⟩
    · obtain ⟨upper, found'⟩ := exists_lineAt? (Nat.lt_trans above inside)
      simp only [Position.nearest, found, found']
      exact .inl above
    · simp only [Position.nearest, same, found]
      refine .inr ⟨rfl, ?_⟩
      simp only
      omega

theorem Precedes.toByte_le (ordered : p.Precedes q) (text : List Char) : toByte text p ≤ toByte text q := by
  rw [toByte_eq_byteOffset, toByte_eq_byteOffset]
  apply byteOffset_le
  exact ((isIn_nearest text p).precedes_iff (isIn_nearest text q)).mp (ordered.nearest text)

/-- The start of a line, in the table and in the text. -/
theorem exists_lineStart (found : lineAt? text p.line = some line) :
    ∃ start, (lineStarts text)[p.line]? = some start ∧ start = toByte text ⟨p.line, 0⟩ ∧
      dropBytes? start text = some (text.drop (lineStart text p.line)) := by
  obtain ⟨front, rest, split, length, distance⟩ := exists_line_split found
  have start : byteOffset text (lineStart text p.line) = toByte text ⟨p.line, 0⟩ := by
    rw [toByte_eq_distance, distance, List.take_zero, List.append_nil, byteOffset, ← length, split, List.append_assoc,
      List.take_left, byteLength]
  refine ⟨toByte text ⟨p.line, 0⟩, ?_, rfl, ?_⟩
  · rw [getElem?_lineStarts, found, toByte_eq_distance]
    rfl
  · rw [← start, dropBytes?_byteOffset]

/-- Of the table the entries up to the line of a position are those that are not above its offset. -/
theorem IsIn.length_takeWhile (inside : p.IsIn text) :
    ((lineStarts text).takeWhile (· ≤ toByte text p)).length = p.line + 1 := by
  have entry {number start : Nat} (there : (lineStarts text)[number]? = some start) :
      start = toByte text ⟨number, 0⟩ ∧ (⟨number, 0⟩ : Position).IsIn text := by
    rw [getElem?_lineStarts] at there
    obtain ⟨chars, found, rfl⟩ := Option.map_eq_some_iff.mp there
    exact ⟨(toByte_eq_distance text ⟨number, 0⟩).symm, isIn_of_lineAt? (p := ⟨number, 0⟩) found (Nat.zero_le _)⟩
  have length : p.line < (lineStarts text).length := inside.1
  have upper : ∀ start ∈ (lineStarts text).take (p.line + 1), decide (start ≤ toByte text p) = true := by
    intro start member
    obtain ⟨number, there⟩ := List.mem_iff_getElem?.mp member
    rw [List.getElem?_take, Option.ite_none_right_eq_some] at there
    obtain ⟨near, there⟩ := there
    rw [(entry there).1]
    apply decide_eq_true
    apply Precedes.toByte_le
    rcases Nat.lt_or_eq_of_le (Nat.le_of_lt_succ near) with above | same
    · exact .inl above
    · exact .inr ⟨same, Nat.zero_le _⟩
  have lower : ((lineStarts text).drop (p.line + 1)).takeWhile (· ≤ toByte text p) = [] := by
    cases below : (lineStarts text).drop (p.line + 1) with
    | nil => rfl
    | cons start more =>
      have there : (lineStarts text)[p.line + 1]? = some start := by rw [← List.head?_drop, below, List.head?_cons]
      obtain ⟨same, next⟩ := entry there
      refine List.takeWhile_cons_of_neg ?_
      have order := inside.toIndex_lt next (.inl (Nat.lt_succ_self _))
      have later := byteOffset_lt order next.toIndex_le
      rw [← inside.toByte_eq, ← next.toByte_eq, ← same] at later
      simpa using later
  rw [← List.take_append_drop (p.line + 1) (lineStarts text), List.takeWhile_append_of_pos upper, lower,
    List.append_nil, List.length_take_of_le length]

theorem IsIn.ofByte_toByte (inside : p.IsIn text) : ofByte text (toByte text p) = p := by
  obtain ⟨line, found, short⟩ := inside.exists_line
  obtain ⟨start, there, first, behind⟩ := exists_lineStart found
  obtain ⟨front, rest, split, length, distance⟩ := exists_line_split found
  have within : toByte text p ≤ byteLength text := (isBoundary_toByte text p).le_byteLength
  have column : toByte text p - start = byteLength (line.take p.column) := by
    rw [first, toByte_eq_distance, toByte_eq_distance, distance, distance, measure_append, measure_append]
    simp [byteLength, measure]
  have before : text.drop (lineStart text p.line) = line.take p.column ++ (line.drop p.column ++ rest) := by
    rw [← length, split, List.append_assoc, List.drop_left, ← List.append_assoc, List.take_append_drop]
  rw [ofByte, Nat.min_eq_left within]
  rw [inside.length_takeWhile, Nat.add_sub_cancel, there, Option.getD_some, behind, Option.bind_some, column, before,
    takeBytes?_append, Option.map_some, Option.getD_some, List.length_take_of_le short]

theorem ofByte_byteOffset {index : Nat} (inside : index ≤ text.length) :
    ofByte text (byteOffset text index) = ofIndex text index := by
  obtain ⟨found, same⟩ := isIn_ofIndex inside
  rw [← found.ofByte_toByte, found.toByte_eq, same]

/-- The last position is that of the length. -/
theorem ofByte_byteLength (text : List Char) : ofByte text (byteLength text) = ofIndex text text.length := by
  rw [← byteOffset_length, ofByte_byteOffset (Nat.le_refl _)]

theorem ofByte_past {offset : Nat} (past : byteLength text ≤ offset) : ofByte text offset = ofByte text (byteLength text) := by
  rw [ofByte, ofByte, Nat.min_eq_right past, Nat.min_self]

theorem toByte_ofByte {offset : Nat} (boundary : IsBoundary text offset) :
    (ofByte text offset).IsIn text ∧ toByte text (ofByte text offset) = offset := by
  obtain ⟨index, inside, rfl⟩ := boundary
  obtain ⟨found, same⟩ := isIn_ofIndex inside
  rw [ofByte_byteOffset inside, found.toByte_eq, same]
  exact ⟨found, rfl⟩

theorem ofByte_precedes {first second : Nat} (boundary : IsBoundary text first) (boundary' : IsBoundary text second)
    (ordered : first ≤ second) : (ofByte text first).Precedes (ofByte text second) := by
  obtain ⟨i, inside, rfl⟩ := boundary
  obtain ⟨j, inside', rfl⟩ := boundary'
  have indices : i ≤ j := by
    by_contra later
    exact Nat.not_lt.mpr ordered (byteOffset_lt (Nat.lt_of_not_le later) inside)
  obtain ⟨found, same⟩ := isIn_ofIndex inside
  obtain ⟨found', same'⟩ := isIn_ofIndex inside'
  rw [ofByte_byteOffset inside, ofByte_byteOffset inside']
  apply (found.precedes_iff found').mpr
  rwa [same, same']

end Position

/-- Byte offsets and positions of a document are inverse to each other. An offset between two characters is that of
its position, and a position of the document that of its offset; both ways keep the order. Offsets beyond the text
have the position of its end. And every position whatever has an offset between two characters: a column beyond
its line that of the end of the line, a line below all others that of the end of the text. So nothing is lost where
the command line labels a range that does not end before it starts. -/
theorem offset_and_position_inverse (text : List Char) :
    (∀ offset, IsBoundary text offset →
      (Position.ofByte text offset).IsIn text ∧ (Position.ofByte text offset).toByte text = offset) ∧
    (∀ offset, byteLength text < offset → Position.ofByte text offset = Position.ofByte text (byteLength text)) ∧
    (∀ p : Position, p.IsIn text → Position.ofByte text (p.toByte text) = p) ∧
    (∀ p : Position, IsBoundary text (p.toByte text) ∧ p.toByte text ≤ byteLength text ∧
      (∀ line, lineAt? text p.line = some line →
        p.toByte text = Position.toByte text ⟨p.line, min p.column line.length⟩) ∧
      (lineAt? text p.line = none → p.toByte text = byteLength text)) ∧
    (∀ p q : Position, p.Precedes q → p.toByte text ≤ q.toByte text) ∧
    (∀ first second, IsBoundary text first → IsBoundary text second → first ≤ second →
      (Position.ofByte text first).Precedes (Position.ofByte text second)) ∧
    ∀ d : Diagnostic, d.range.start.Precedes d.range.stop →
      (Cli.Report.of text d).offset = d.range.start.toByte text ∧
        (Cli.Report.of text d).offset + (Cli.Report.of text d).length = d.range.stop.toByte text := by
  refine ⟨?_, ?_, ?_, ?_, ?_, ?_, ?_⟩
  · intro offset boundary
    exact Position.toByte_ofByte boundary
  · intro offset past
    exact Position.ofByte_past (Nat.le_of_lt past)
  · intro p inside
    exact inside.ofByte_toByte
  · intro p
    have boundary := Position.isBoundary_toByte text p
    exact ⟨boundary, boundary.le_byteLength, fun line => Position.toByte_of_some, Position.toByte_of_none⟩
  · intro p q ordered
    exact ordered.toByte_le text
  · intro first second boundary boundary' ordered
    exact Position.ofByte_precedes boundary boundary' ordered
  · intro d ordered
    exact ⟨rfl, Cli.Report.stop_eq (ordered.toByte_le text)⟩

/-- The second line has a character of four bytes, of which the offset 5 is none of the ends, and a carriage return.
The range goes over the end of that line and of the text. -/
theorem offset_and_position_inverse_astral :
    let text := "a\n𝕏é\r\n".toList
    let d : Diagnostic := ⟨⟨⟨1, 2⟩, ⟨7, 3⟩⟩, "", .error, .structural⟩
    (IsBoundary text 6 ∧ ¬IsBoundary text 5 ∧ Position.IsIn text ⟨1, 1⟩ ∧ d.range.start.Precedes d.range.stop) ∧
      Position.toByte text (Position.ofByte text 6) = 6 ∧ Position.ofByte text (Position.toByte text ⟨1, 1⟩) = ⟨1, 1⟩ ∧
      Position.toByte text ⟨1, 9⟩ = Position.toByte text ⟨1, 3⟩ ∧ Position.toByte text ⟨7, 3⟩ = 10 ∧
      (Cli.Report.of text d).offset + (Cli.Report.of text d).length = 10 := by
  intro text d
  have boundary : IsBoundary text 6 := by decide +kernel
  have second : lineAt? text 1 = some "𝕏é\r".toList := by decide +kernel
  have inside : Position.IsIn text ⟨1, 1⟩ := Position.isIn_of_lineAt? second (by decide)
  have ordered : d.range.start.Precedes d.range.stop := by decide
  obtain ⟨offsets, _, positions, clamped, _, _, labels⟩ := offset_and_position_inverse text
  have below : Position.toByte text ⟨7, 3⟩ = 10 := by
    rw [(clamped ⟨7, 3⟩).2.2.2 (by decide +kernel)]
    decide +kernel
  refine ⟨⟨boundary, by decide +kernel, inside, ordered⟩, (offsets 6 boundary).2, positions _ inside,
    (clamped ⟨1, 9⟩).2.2.1 "𝕏é\r".toList second, below, ?_⟩
  rw [(labels d ordered).2]
  exact below

end Dialect
