import Dialect.Proofs.Position.Table
import Mathlib.Data.List.Forall2

/-! Positions count newlines: they depend on nothing else in a text but its length, and no position of
a text lies beyond its last line. -/
namespace Dialect

namespace Position

theorem advance_line_le (p : Position) (index : Nat) (text : List Char) :
    (advance p index text).line ≤ p.line + text.count '\n' := by
  fun_induction advance p index text with
  | case1 => simp
  | case2 => simp
  | case3 p index rest ih =>
    rw [List.count_cons_self]
    exact Nat.le_trans ih (by simp only []; omega)
  | case4 p index c rest other ih => rw [List.count_cons_of_ne other]; exact ih

theorem ofIndex_line_lt (text : List Char) (index : Nat) :
    (ofIndex text index).line < lineCount text := by
  rw [lineCount_eq, ofIndex]
  exact Nat.lt_succ_of_le (Nat.le_trans (advance_line_le ⟨0, 0⟩ index text) (by simp))

/-- What follows a place does not move it. -/
theorem advance_append (p : Position) {index : Nat} {text : List Char} (inside : index ≤ text.length)
    (more : List Char) : advance p index (text ++ more) = advance p index text := by
  fun_induction advance p index text with
  | case1 => rw [advance]
  | case2 => simp at inside
  | case3 p index rest ih =>
    rw [List.cons_append, advance, if_pos rfl, ih (by simpa using inside)]
  | case4 p index c rest other ih =>
    rw [List.cons_append, advance, if_neg other, ih (by simpa using inside)]

/-- Starting further down moves every line as far. -/
theorem advance_below (below : Nat) (p : Position) (index : Nat) (text : List Char) :
    advance ⟨p.line + below, p.column⟩ index text =
      ⟨(advance p index text).line + below, (advance p index text).column⟩ := by
  fun_induction advance p index text with
  | case1 => rw [advance]
  | case2 => rw [advance]
  | case3 p index rest ih => rw [advance, if_pos rfl, ← ih, Nat.add_right_comm]
  | case4 p index c rest other ih => rw [advance, if_neg other, ← ih]

/-- Texts with their newlines at the same places have the same positions. -/
theorem advance_congr {a b : List Char} (same : List.Forall₂ (fun c d => c = '\n' ↔ d = '\n') a b)
    (p : Position) (index : Nat) : advance p index a = advance p index b := by
  induction same generalizing p index with
  | nil => rfl
  | @cons c d a b first _ ih =>
    cases index with
    | zero => rw [advance, advance]
    | succ index => simp only [advance, first, ih]

end Position

end Dialect
