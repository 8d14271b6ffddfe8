import Dialect.Text.Utf8
import Mathlib.Data.Nat.Notation
import Mathlib.Tactic.Common

/-! UTF-8 reads what it writes, and nothing else: bytes are the text that they decode to, encoded. -/
namespace Dialect.Utf8

theorem toNat_toUInt8 {n : Nat} (small : n < 256) : n.toUInt8.toNat = n := UInt8.toNat_ofNat_of_lt small

theorem lengthOf?_eq (lead : UInt8) : lengthOf? lead =
    if lead.toNat < 0x80 then some 1 else if 0xC2 ≤ lead.toNat ∧ lead.toNat ≤ 0xDF then some 2
    else if 0xE0 ≤ lead.toNat ∧ lead.toNat ≤ 0xEF then some 3
    else if 0xF0 ≤ lead.toNat ∧ lead.toNat ≤ 0xF4 then some 4 else none := by
  simp [lengthOf?, UInt8.lt_iff_toNat_lt, UInt8.le_iff_toNat_le]

theorem isContinuation_iff {b : UInt8} : isContinuation b = true ↔ 0x80 ≤ b.toNat ∧ b.toNat ≤ 0xBF := by
  simp [isContinuation, UInt8.le_iff_toNat_le]

/-- What may follow a first byte: those that exclude overlong forms, surrogates and numbers beyond the last character
have a narrower range. -/
theorem isSecond_iff {lead b : UInt8} : isSecond lead b = true ↔
    0x80 ≤ b.toNat ∧ b.toNat ≤ 0xBF ∧ (lead.toNat = 0xE0 → 0xA0 ≤ b.toNat) ∧ (lead.toNat = 0xED → b.toNat ≤ 0x9F) ∧
      (lead.toNat = 0xF0 → 0x90 ≤ b.toNat) ∧ (lead.toNat = 0xF4 → b.toNat ≤ 0x8F) := by
  simp only [isSecond, ← UInt8.toNat_inj, UInt8.le_iff_toNat_le]
  split
  · next h => simp at h ⊢; omega
  split
  · next h => simp at h ⊢; omega
  split
  · next h => simp at h ⊢; omega
  split
  · next h => simp at h ⊢; omega
  · next h => simp at *; omega

/-- The bytes that spell the number of a character. Each number of a character is spelled in one way. -/
inductive Spells : Bytes → Nat → Prop where
  | one {a : UInt8} (low : a.toNat < 0x80) : Spells [a] a.toNat
  | two {a b : UInt8} (lead : lengthOf? a = some 2) (second : isSecond a b = true) :
    Spells [a, b] (a.toNat % 0x20 * 0x40 + payload b)
  | three {a b c : UInt8} (lead : lengthOf? a = some 3) (second : isSecond a b = true)
      (third : isContinuation c = true) :
    Spells [a, b, c] (a.toNat % 0x10 * 0x1000 + payload b * 0x40 + payload c)
  | four {a b c d : UInt8} (lead : lengthOf? a = some 4) (second : isSecond a b = true)
      (third : isContinuation c = true) (fourth : isContinuation d = true) :
    Spells [a, b, c, d] (a.toNat % 0x08 * 0x40000 + payload b * 0x1000 + payload c * 0x40 + payload d)

theorem lengthOf?_eq_one {lead : UInt8} : lengthOf? lead = some 1 ↔ lead.toNat < 0x80 := by
  rw [lengthOf?_eq]
  grind

theorem lengthOf?_eq_two {lead : UInt8} : lengthOf? lead = some 2 ↔ 0xC2 ≤ lead.toNat ∧ lead.toNat ≤ 0xDF := by
  rw [lengthOf?_eq]
  grind

theorem lengthOf?_eq_three {lead : UInt8} : lengthOf? lead = some 3 ↔ 0xE0 ≤ lead.toNat ∧ lead.toNat ≤ 0xEF := by
  rw [lengthOf?_eq]
  grind

theorem lengthOf?_eq_four {lead : UInt8} : lengthOf? lead = some 4 ↔ 0xF0 ≤ lead.toNat ∧ lead.toNat ≤ 0xF4 := by
  rw [lengthOf?_eq]
  grind

theorem spells_encodeChar (c : Char) : Spells (encodeChar c) c.toNat := by
  have valid : c.toNat < 0xD800 ∨ 0xDFFF < c.toNat ∧ c.toNat < 0x110000 := c.valid
  rw [encodeChar]
  generalize c.toNat = n at valid
  by_cases one : n < 0x80
  · have spelled := @Spells.one n.toUInt8 (by rw [toNat_toUInt8] <;> omega)
    rw [if_pos one]
    rwa [toNat_toUInt8 (by omega)] at spelled
  by_cases two : n < 0x800
  · have first : (0xC0 + n / 0x40).toUInt8.toNat = 0xC0 + n / 0x40 := toNat_toUInt8 (by omega)
    have second : (0x80 + n % 0x40).toUInt8.toNat = 0x80 + n % 0x40 := toNat_toUInt8 (by omega)
    have spelled := @Spells.two (0xC0 + n / 0x40).toUInt8 (0x80 + n % 0x40).toUInt8
      (by rw [lengthOf?_eq_two]; omega) (by rw [isSecond_iff]; omega)
    have number : (0xC0 + n / 0x40) % 0x20 * 0x40 + (0x80 + n % 0x40) % 0x40 = n := by omega
    rw [payload, first, second, number] at spelled
    rwa [if_neg one, if_pos two]
  by_cases three : n < 0x10000
  · have first : (0xE0 + n / 0x1000).toUInt8.toNat = 0xE0 + n / 0x1000 := toNat_toUInt8 (by omega)
    have second : (0x80 + n / 0x40 % 0x40).toUInt8.toNat = 0x80 + n / 0x40 % 0x40 := toNat_toUInt8 (by omega)
    have third : (0x80 + n % 0x40).toUInt8.toNat = 0x80 + n % 0x40 := toNat_toUInt8 (by omega)
    have spelled := @Spells.three (0xE0 + n / 0x1000).toUInt8 (0x80 + n / 0x40 % 0x40).toUInt8
      (0x80 + n % 0x40).toUInt8 (by rw [lengthOf?_eq_three]; omega) (by rw [isSecond_iff]; omega)
      (by rw [isContinuation_iff]; omega)
    have number : (0xE0 + n / 0x1000) % 0x10 * 0x1000 + (0x80 + n / 0x40 % 0x40) % 0x40 * 0x40 +
      (0x80 + n % 0x40) % 0x40 = n := by omega
    rw [payload, payload, first, second, third, number] at spelled
    rwa [if_neg one, if_neg two, if_pos three]
  · have first : (0xF0 + n / 0x40000).toUInt8.toNat = 0xF0 + n / 0x40000 := toNat_toUInt8 (by omega)
    have second : (0x80 + n / 0x1000 % 0x40).toUInt8.toNat = 0x80 + n / 0x1000 % 0x40 := toNat_toUInt8 (by omega)
    have third : (0x80 + n / 0x40 % 0x40).toUInt8.toNat = 0x80 + n / 0x40 % 0x40 := toNat_toUInt8 (by omega)
    have fourth : (0x80 + n % 0x40).toUInt8.toNat = 0x80 + n % 0x40 := toNat_toUInt8 (by omega)
    have spelled := @Spells.four (0xF0 + n / 0x40000).toUInt8 (0x80 + n / 0x1000 % 0x40).toUInt8
      (0x80 + n / 0x40 % 0x40).toUInt8 (0x80 + n % 0x40).toUInt8 (by rw [lengthOf?_eq_four]; omega)
      (by rw [isSecond_iff]; omega) (by rw [isContinuation_iff]; omega) (by rw [isContinuation_iff]; omega)
    have number : (0xF0 + n / 0x40000) % 0x08 * 0x40000 + (0x80 + n / 0x1000 % 0x40) % 0x40 * 0x1000 +
      (0x80 + n / 0x40 % 0x40) % 0x40 * 0x40 + (0x80 + n % 0x40) % 0x40 = n := by omega
    rw [payload, payload, payload, first, second, third, fourth, number] at spelled
    rwa [if_neg one, if_neg two, if_neg three]

theorem toUInt8_eq {n : Nat} {b : UInt8} (same : n = b.toNat) : n.toUInt8 = b := by
  rw [same]
  exact UInt8.ofNat_toNat

/-- What is spelled is a character, and it is written with these bytes. -/
theorem Spells.encodeChar {bytes : Bytes} {n : Nat} (spelled : Spells bytes n) :
    encodeChar (Char.ofNat n) = bytes := by
  have number {n : Nat} (valid : n < 0xD800 ∨ 0xDFFF < n ∧ n < 0x110000) : (Char.ofNat n).toNat = n := by
    rw [Char.ofNat, dif_pos valid]
    rfl
  rw [Utf8.encodeChar]
  cases spelled with
  | @one a low => rw [number (by omega), if_pos low, toUInt8_eq rfl]
  | @two a b lead second =>
    rw [lengthOf?_eq_two] at lead
    rw [isSecond_iff] at second
    rw [payload, number (by omega), if_neg (by omega), if_pos (by omega)]
    rw [@toUInt8_eq _ a (by omega), @toUInt8_eq _ b (by omega)]
  | @three a b c lead second third =>
    rw [lengthOf?_eq_three] at lead
    rw [isSecond_iff] at second
    rw [isContinuation_iff] at third
    rw [payload, payload, number (by omega), if_neg (by omega), if_neg (by omega), if_pos (by omega)]
    rw [@toUInt8_eq _ a (by omega), @toUInt8_eq _ b (by omega), @toUInt8_eq _ c (by omega)]
  | @four a b c d lead second third fourth =>
    rw [lengthOf?_eq_four] at lead
    rw [isSecond_iff] at second
    rw [isContinuation_iff] at third fourth
    rw [payload, payload, payload, number (by omega), if_neg (by omega), if_neg (by omega), if_neg (by omega)]
    rw [@toUInt8_eq _ a (by omega), @toUInt8_eq _ b (by omega), @toUInt8_eq _ c (by omega), @toUInt8_eq _ d (by omega)]

/-- A spelled character is the first piece of what starts with it. -/
theorem Spells.pieceAt {lead : UInt8} {tail : Bytes} {n : Nat} (spelled : Spells (lead :: tail) n) (rest : Bytes) :
    pieceAt lead (tail ++ rest) = .char (Char.ofNat n) (tail.length + 1) := by
  cases spelled with
  | one low => simp [Utf8.pieceAt, lengthOf?_eq_one.mpr low]
  | two lead second => simp [Utf8.pieceAt, lead, second]
  | three lead second third => simp [Utf8.pieceAt, lead, second, third]
  | four lead second third fourth => simp [Utf8.pieceAt, lead, second, third, fourth]

/-- A piece that is a character spells it. -/
theorem spells_of_pieceAt {lead : UInt8} {rest : Bytes} {c : Char} {size : Nat}
    (found : pieceAt lead rest = .char c size) :
    ∃ tail rest' n, rest = tail ++ rest' ∧ size = tail.length + 1 ∧ Spells (lead :: tail) n ∧ c = Char.ofNat n := by
  rw [pieceAt] at found
  split at found
  · cases found
  · next one =>
    cases found
    exact ⟨[], rest, lead.toNat, rfl, rfl, .one (lengthOf?_eq_one.mp one), rfl⟩
  · next length other known =>
    have bounded : length = 2 ∨ length = 3 ∨ length = 4 := by
      rw [lengthOf?_eq] at known
      grind
    split at found
    · cases found
    · next b more =>
      cases second : isSecond lead b with
      | false => simp [second] at found
      | true =>
        simp only [second, Bool.not_true, Bool.false_eq_true, if_false] at found
        by_cases two : length = 2
        · subst two
          cases found
          exact ⟨[b], more, _, rfl, rfl, .two known second, rfl⟩
        rw [if_neg two] at found
        split at found
        · cases found
        · next c more =>
          cases third : isContinuation c with
          | false => simp [third] at found
          | true =>
            simp only [third, Bool.not_true, Bool.false_eq_true, if_false] at found
            by_cases three : length = 3
            · subst three
              cases found
              exact ⟨[b, c], more, _, rfl, rfl, .three known second third, rfl⟩
            rw [if_neg three] at found
            split at found
            · cases found
            · next d more =>
              cases fourth : isContinuation d with
              | false => simp [fourth] at found
              | true =>
                obtain rfl : length = 4 := by omega
                simp only [fourth, Bool.not_true, Bool.false_eq_true, if_false] at found
                cases found
                exact ⟨[b, c, d], more, _, rfl, rfl, .four known second third fourth, rfl⟩

theorem piecesFrom_append (front back : Bytes) : piecesFrom front.length (front ++ back) = piecesFrom 0 back := by
  induction front with
  | nil => rfl
  | cons b front ih => rw [List.cons_append, List.length_cons, piecesFrom, ih]

theorem exists_encodeChar (c : Char) :
    ∃ lead tail, encodeChar c = lead :: tail ∧ ∀ rest, pieceAt lead (tail ++ rest) = .char c (tail.length + 1) := by
  have spelled := spells_encodeChar c
  cases bytes : encodeChar c with
  | nil =>
    rw [bytes] at spelled
    cases spelled
  | cons lead tail =>
    rw [bytes] at spelled
    refine ⟨lead, tail, rfl, fun rest => ?_⟩
    rw [spelled.pieceAt, Char.ofNat_toNat]

theorem pieces_encode (text : List Char) :
    pieces (encode text) = text.map fun c => .char c (encodeChar c).length := by
  induction text with
  | nil => rfl
  | cons c text ih =>
    obtain ⟨lead, tail, bytes, piece⟩ := exists_encodeChar c
    have split : encode (c :: text) = lead :: (tail ++ encode text) := by rw [encode, List.flatMap_cons, bytes]; rfl
    rw [pieces] at ih ⊢
    rw [split, piecesFrom, piece, Piece.size, Nat.add_sub_cancel, piecesFrom_append, ih, List.map_cons, bytes,
      List.length_cons]

theorem faultFrom?_chars (size : Char → Nat) (index : Nat) (text : List Char) :
    faultFrom? index (text.map fun c => .char c (size c)) = none := by
  induction text generalizing index with
  | nil => rfl
  | cons c text ih => rw [List.map_cons, faultFrom?, ih]

theorem decode_encode (text : List Char) : decode (encode text) = .ok text := by
  rw [decode, decodeLossy, pieces_encode, faultFrom?_chars, List.map_map]
  exact congrArg Except.ok (List.map_id text)

/-- Bytes without a fault are the characters of their pieces, written one after the other. -/
theorem encode_of_sound {bytes : Bytes} {skip index : Nat} (sound : faultFrom? index (piecesFrom skip bytes) = none) :
    encode ((piecesFrom skip bytes).map Piece.shown) = bytes.drop skip := by
  induction bytes generalizing skip index with
  | nil => simp [piecesFrom, encode]
  | cons lead rest ih =>
    cases skip with
    | succ skip => exact ih sound
    | zero =>
      rw [piecesFrom] at sound ⊢
      cases piece : pieceAt lead rest with
      | broken size | cut size => simp [piece, faultFrom?] at sound
      | char c size =>
        obtain ⟨tail, rest', n, rfl, rfl, spelled, rfl⟩ := spells_of_pieceAt piece
        rw [piece, faultFrom?] at sound
        have later := ih sound
        rw [Piece.size, Nat.add_sub_cancel, List.drop_left] at later
        rw [List.map_cons, encode, List.flatMap_cons, Piece.shown, Piece.size, Nat.add_sub_cancel, spelled.encodeChar]
        exact congrArg (lead :: tail ++ ·) later

theorem decode_eq_ok_iff {bytes : Bytes} {text : List Char} : decode bytes = .ok text ↔ bytes = encode text := by
  constructor
  · intro read
    rw [decode] at read
    split at read
    · cases read
    · next sound =>
      cases read
      exact (encode_of_sound sound).symm
  · rintro rfl
    exact decode_encode text

end Dialect.Utf8
