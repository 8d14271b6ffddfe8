import Dialect.Text.Measure

/-! Widths add up, and the byte offset of a character is a place between two characters. -/
namespace Dialect

theorem measure_cons (width : Char → Nat) (c : Char) (text : List Char) :
    measure width (c :: text) = width c + measure width text := by
  have start (total : Nat) : text.foldl (fun total c => total + width c) total =
      total + text.foldl (fun total c => total + width c) 0 := by
    induction text generalizing total with
    | nil => rfl
    | cons d rest ih =>
      rw [List.foldl_cons, List.foldl_cons, ih, ih (0 + width d)]
      omega
  rw [measure, List.foldl_cons, start, Nat.zero_add]
  rfl

theorem dropBytes?_cons (c : Char) (count : Nat) (text : List Char) :
    dropBytes? (byteWidth c + count) (c :: text) = dropBytes? count text := by
  have positive : 0 < byteWidth c := Char.utf8Size_pos c
  obtain ⟨more, total⟩ : ∃ more, byteWidth c + count = more + 1 := ⟨byteWidth c + count - 1, by omega⟩
  rw [total, dropBytes?, if_pos (by omega), ← total, Nat.add_sub_cancel_left]

theorem dropBytes?_byteOffset (text : List Char) (index : Nat) :
    dropBytes? (byteOffset text index) text = some (text.drop index) := by
  induction text generalizing index with
  | nil => simp [byteOffset, byteLength, measure, dropBytes?]
  | cons c rest ih =>
    cases index with
    | zero => simp [byteOffset, byteLength, measure, dropBytes?]
    | succ index =>
      rw [byteOffset, List.take_succ_cons, byteLength, measure_cons, dropBytes?_cons, List.drop_succ_cons]
      exact ih index

theorem takeBytes?_append (front rest : List Char) : takeBytes? (byteLength front) (front ++ rest) = some front := by
  induction front with
  | nil => rw [show byteLength [] = 0 from rfl, takeBytes?]
  | cons c front ih =>
    have positive : 0 < byteWidth c := Char.utf8Size_pos c
    obtain ⟨more, total⟩ : ∃ more, byteWidth c + byteLength front = more + 1 :=
      ⟨byteWidth c + byteLength front - 1, by omega⟩
    rw [byteLength, measure_cons, ← byteLength, List.cons_append, total, takeBytes?, if_pos (by omega), ← total,
      Nat.add_sub_cancel_left, ih]
    rfl

end Dialect
