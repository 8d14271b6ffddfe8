/-! Sorting by insertion, for lists that are short and whose order of equals matters. -/
namespace Dialect

variable {α : Type}

/-- Puts `a` before the first element that it may precede. -/
def insertBy (precedes : α → α → Bool) (a : α) : List α → List α
  | [] => [a]
  | b :: rest => if precedes a b then a :: b :: rest else b :: insertBy precedes a rest

/-- In the order that `precedes` gives; elements that may precede each other keep their order. -/
def sortBy (precedes : α → α → Bool) (items : List α) : List α :=
  items.foldr (insertBy precedes) []

theorem insertBy_perm (precedes : α → α → Bool) (a : α) (items : List α) :
    (insertBy precedes a items).Perm (a :: items) := by
  induction items with
  | nil => exact .refl _
  | cons b rest ih =>
    rw [insertBy]
    split
    · exact .refl _
    · exact (ih.cons b).trans (.swap a b rest)

theorem sortBy_perm (precedes : α → α → Bool) (items : List α) :
    (sortBy precedes items).Perm items := by
  induction items with
  | nil => exact .refl _
  | cons a rest ih => exact (insertBy_perm precedes a (sortBy precedes rest)).trans (ih.cons a)

@[simp] theorem mem_sortBy (precedes : α → α → Bool) (items : List α) (a : α) :
    a ∈ sortBy precedes items ↔ a ∈ items := (sortBy_perm precedes items).mem_iff

end Dialect
