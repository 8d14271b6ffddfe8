import Dialect.Editor.Uri

/-! Tables by document. -/
namespace Dialect.Editor

structure Table (α : Type) where
  rows : List (Uri × α) := []
  deriving Repr

namespace Table

variable {α : Type}

def get? (table : Table α) (uri : Uri) : Option α := table.rows.lookup uri

def remove (table : Table α) (uri : Uri) : Table α := ⟨table.rows.filter fun row => row.1 ≠ uri⟩

def put (table : Table α) (uri : Uri) (value : α) : Table α :=
  ⟨(uri, value) :: (table.remove uri).rows⟩

theorem lookup_filter_self (rows : List (Uri × α)) (uri : Uri) :
    (rows.filter fun row => row.1 ≠ uri).lookup uri = none := by
  induction rows with
  | nil => rfl
  | cons row rest ih =>
    obtain ⟨key, value⟩ := row
    by_cases same : key = uri
    · rw [List.filter_cons_of_neg (by simp [same])]
      exact ih
    · rw [List.filter_cons_of_pos (by simp [same]), List.lookup_cons,
        beq_false_of_ne (Ne.symm same)]
      exact ih

theorem lookup_filter_other (rows : List (Uri × α)) (uri other : Uri) (apart : other ≠ uri) :
    (rows.filter fun row => row.1 ≠ uri).lookup other = rows.lookup other := by
  induction rows with
  | nil => rfl
  | cons row rest ih =>
    obtain ⟨key, value⟩ := row
    by_cases same : key = uri
    · rw [List.filter_cons_of_neg (by simp [same]), List.lookup_cons,
        beq_false_of_ne (same ▸ apart), ih]
    · rw [List.filter_cons_of_pos (by simp [same]), List.lookup_cons, List.lookup_cons, ih]

@[simp] theorem get?_remove_self (table : Table α) (uri : Uri) :
    (table.remove uri).get? uri = none := lookup_filter_self _ _

@[simp] theorem get?_remove_other (table : Table α) (uri other : Uri) (apart : other ≠ uri) :
    (table.remove uri).get? other = table.get? other := lookup_filter_other _ _ _ apart

@[simp] theorem get?_put_self (table : Table α) (uri : Uri) (value : α) :
    (table.put uri value).get? uri = some value := by
  rw [put, get?, List.lookup_cons, beq_self_eq_true]

@[simp] theorem get?_put_other (table : Table α) (uri other : Uri) (value : α)
    (apart : other ≠ uri) : (table.put uri value).get? other = table.get? other := by
  rw [put, get?, List.lookup_cons, beq_false_of_ne apart]
  exact get?_remove_other table uri other apart

end Table

end Dialect.Editor
