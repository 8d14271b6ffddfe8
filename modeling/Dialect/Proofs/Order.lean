import Dialect.Order

/-! Sorting by insertion gives a sorted list and keeps the order of equals. -/
namespace Dialect

variable {α : Type} {precedes : α → α → Bool}

theorem mem_insertBy {a b : α} {items : List α} :
    b ∈ insertBy precedes a items ↔ b = a ∨ b ∈ items := by
  rw [(insertBy_perm precedes a items).mem_iff, List.mem_cons]

theorem insertBy_sorted (total : ∀ a b, precedes a b = true ∨ precedes b a = true)
    (trans : ∀ a b c, precedes a b = true → precedes b c = true → precedes a c = true)
    (a : α) {items : List α} (sorted : items.Pairwise (precedes · ·)) :
    (insertBy precedes a items).Pairwise (precedes · ·) := by
  induction items with
  | nil => simp [insertBy]
  | cons b rest ih =>
    obtain ⟨first, others⟩ := List.pairwise_cons.mp sorted
    rw [insertBy]
    split
    · next earlier =>
      refine List.pairwise_cons.mpr ⟨fun c member => ?_, sorted⟩
      rcases List.mem_cons.mp member with rfl | member
      · exact earlier
      · exact trans a b c earlier (first c member)
    · next later =>
      refine List.pairwise_cons.mpr ⟨fun c member => ?_, ih others⟩
      rcases mem_insertBy.mp member with rfl | member
      · exact (total c b).resolve_left later
      · exact first c member

theorem sortBy_sorted (total : ∀ a b, precedes a b = true ∨ precedes b a = true)
    (trans : ∀ a b c, precedes a b = true → precedes b c = true → precedes a c = true)
    (items : List α) : (sortBy precedes items).Pairwise (precedes · ·) := by
  induction items with
  | nil => exact .nil
  | cons a rest ih => exact insertBy_sorted total trans a ih

/-- Items each of which may precede the later ones stay in their order. -/
theorem filter_sortBy_of_pairwise (p : α → Bool) (items : List α)
    (ordered : (items.filter p).Pairwise (precedes · ·)) :
    (sortBy precedes items).filter p = items.filter p := by
  have insert (a : α) (others : List α)
      (ahead : ∀ b ∈ others, p a = true → p b = true → precedes a b = true) :
      (insertBy precedes a others).filter p = (a :: others).filter p := by
    induction others with
    | nil => rfl
    | cons b rest ih =>
      rw [insertBy]
      split
      · rfl
      · next later =>
        have ih := ih fun c member => ahead c (List.mem_cons_of_mem b member)
        have apart : p a = true → p b = false := fun pa =>
          Bool.eq_false_iff.mpr fun pb => later (ahead b List.mem_cons_self pa pb)
        cases pa : p a <;> simp_all [List.filter_cons]
  induction items with
  | nil => rfl
  | cons a rest ih =>
    have known := ih (ordered.sublist ((List.sublist_cons_self a rest).filter p))
    have ahead : ∀ b ∈ sortBy precedes rest, p a = true → p b = true → precedes a b = true := by
      intro b member pa pb
      rw [List.filter_cons_of_pos pa] at ordered
      exact List.rel_of_pairwise_cons ordered
        (List.mem_filter.mpr ⟨(mem_sortBy precedes rest b).mp member, pb⟩)
    calc (sortBy precedes (a :: rest)).filter p = (a :: sortBy precedes rest).filter p :=
          insert a _ ahead
      _ = (a :: rest).filter p := by simp [List.filter_cons, known]

/-- Items that may all precede each other stay in their order. -/
theorem filter_sortBy (p : α → Bool) (items : List α)
    (equal : ∀ a ∈ items, ∀ b ∈ items, p a = true → p b = true → precedes a b = true) :
    (sortBy precedes items).filter p = items.filter p := by
  refine filter_sortBy_of_pairwise p items (List.pairwise_of_forall_mem_list fun a first b second => ?_)
  obtain ⟨ma, pa⟩ := List.mem_filter.mp first
  obtain ⟨mb, pb⟩ := List.mem_filter.mp second
  exact equal a ma b mb pa pb

/-- Items with the same key stay in their order. -/
theorem sortBy_ties {β : Type} [DecidableEq β] (key : α → β)
    (tie : ∀ a b, key a = key b → precedes a b = true) {R : α → α → Prop} {items : List α}
    (order : items.Pairwise R) :
    (sortBy precedes items).Pairwise fun a b => key a = key b → R a b := by
  refine List.pairwise_iff_forall_sublist.mpr fun {a b} together same => ?_
  have kept := together.filter (fun c => key c = key a)
  rw [filter_sortBy _ _ fun c _ d _ first second => tie c d (by simp_all)] at kept
  simp only [same, decide_true, List.filter_cons_of_pos, List.filter_nil] at kept
  exact List.pairwise_iff_forall_sublist.mp order (kept.trans List.filter_sublist)

theorem insertBy_map {β : Type} {f : β → α} {q : β → β → Bool} {b : β} {items : List β}
    (same : ∀ c ∈ items, precedes (f b) (f c) = q b c) :
    insertBy precedes (f b) (items.map f) = (insertBy q b items).map f := by
  induction items with
  | nil => rfl
  | cons c rest ih =>
    rw [List.map_cons, insertBy, insertBy, same c List.mem_cons_self]
    split
    · rfl
    · rw [ih fun d member => same d (List.mem_cons_of_mem _ member), List.map_cons]

/-- Where an order on items is that on what `f` makes of them, sorting before and after `f` is the same. -/
theorem sortBy_map {β : Type} {f : β → α} {q : β → β → Bool} {items : List β}
    (same : ∀ b ∈ items, ∀ c ∈ items, precedes (f b) (f c) = q b c) :
    sortBy precedes (items.map f) = (sortBy q items).map f := by
  induction items with
  | nil => rfl
  | cons b rest ih =>
    have later := ih fun c member d member' => same c (List.mem_cons_of_mem _ member) d (List.mem_cons_of_mem _ member')
    have here : ∀ c ∈ sortBy q rest, precedes (f b) (f c) = q b c := by
      intro c member
      exact same b List.mem_cons_self c (List.mem_cons_of_mem _ ((mem_sortBy q rest c).mp member))
    show insertBy precedes (f b) (sortBy precedes (rest.map f)) = (insertBy q b (sortBy q rest)).map f
    rw [later, insertBy_map here]

end Dialect
