import Dialect.Proofs.Text.Alignment

/-! Searches of texts with the same start. What a search finds there is the same, as far as no find goes over the
end of that start and the pattern does not look over it; from there on it goes its own way. -/
namespace Dialect

theorem exists_tail {here back matched rest : List Char} (split : here ++ back = matched ++ rest)
    (short : matched.length ≤ here.length) : ∃ tail, here = matched ++ tail ∧ rest = tail ++ back := by
  rcases List.append_eq_append_iff.mp split with ⟨more, rfl, rfl⟩ | ⟨more, rfl, rfl⟩
  · rw [List.length_append] at short
    obtain rfl : more = [] := List.eq_nil_of_length_eq_zero (by omega)
    exact ⟨[], by simp, by simp⟩
  · exact ⟨more, rfl, rfl⟩

variable {α : Type} {pattern : Option Char → List Char → Option (α × Nat)}

/-- The same find in a text that has so many characters more before it. -/
def Found.shift (count : Nat) (found : Found α) : Found α :=
  ⟨⟨found.span.start + count, found.span.stop + count⟩, found.value⟩

theorem findFrom_shift (before : Option Char) (skip index count : Nat) (text : List Char) :
    findFrom pattern before skip (index + count) text =
      (findFrom pattern before skip index text).map (·.shift count) := by
  induction text generalizing before skip index with
  | nil => rfl
  | cons c rest ih =>
    have next : index + count + 1 = index + 1 + count := Nat.add_right_comm index count 1
    cases skip with
    | succ skip => rw [findFrom, findFrom, next, ih]
    | zero =>
      rw [findFrom, findFrom, next]
      split
      · next value taken recognised =>
        rw [ih, List.map_cons]
        simp [Found.shift, Nat.add_right_comm]
      · exact ih ..

/-- It only matters for the first character what stands before a text. -/
theorem findFrom_before {before before' : Option Char} {text : List Char}
    (same : pattern before text = pattern before' text) (index : Nat) :
    findFrom pattern before 0 index text = findFrom pattern before' 0 index text := by
  cases text with
  | nil => rfl
  | cons c rest => rw [findFrom, findFrom, same]

/-- Where the pattern recognises nothing nothing is found. -/
theorem findFrom_quiet {front back : List Char}
    (quiet : ∀ before c rest, c ∈ front → pattern before (c :: rest) = none) (before : Option Char)
    (index : Nat) :
    findFrom pattern before 0 index (front ++ back) =
      findFrom pattern (front.getLast?.or before) 0 (index + front.length) back := by
  induction front generalizing before index with
  | nil => rfl
  | cons c front ih =>
    rw [List.cons_append, findFrom_missed (quiet before c _ List.mem_cons_self),
      ih fun before d rest member => quiet before d rest (List.mem_cons_of_mem c member), List.getLast?_cons,
      List.length_cons]
    congr 1
    · cases front.getLast? <;> rfl
    · omega

/-- Wherever the pattern stays within `front`, it is the same before `back'` as before `back`. -/
def SameAhead (pattern : Option Char → List Char → Option (α × Nat)) (front back back' : List Char) : Prop :=
  ∀ before here, here ≠ [] → here <:+ front →
    (∀ value taken, pattern before (here ++ back) = some (value, taken) → taken ≤ here.length) →
      pattern before (here ++ back') = pattern before (here ++ back)

theorem SameAhead.refl (front back : List Char) : SameAhead pattern front back back := fun _ _ _ _ _ => rfl

theorem SameAhead.tail {c : Char} {front back back' : List Char}
    (same : SameAhead pattern (c :: front) back back') : SameAhead pattern front back back' :=
  fun before here filled suffix => same before here filled (suffix.trans (List.suffix_cons c front))

/-- The finds within the common start of all texts that look the same from there. -/
theorem findFrom_seam {front back : List Char} {before : Option Char} {skip index : Nat}
    (fits : skip ≤ front.length)
    (whole : ∀ found ∈ findFrom pattern before skip index (front ++ back),
      found.span.start < index + front.length → found.span.stop ≤ index + front.length) :
    ∃ finds, (∀ found ∈ finds, found.span.stop ≤ index + front.length) ∧
      ∀ back', SameAhead pattern front back back' →
        findFrom pattern before skip index (front ++ back') =
          finds ++ findFrom pattern (front.getLast?.or before) 0 (index + front.length) back' := by
  induction front generalizing before skip index with
  | nil =>
    obtain rfl : skip = 0 := Nat.le_zero.mp fits
    exact ⟨[], by simp, fun _ _ => rfl⟩
  | cons c front ih =>
    have length : index + (c :: front).length = index + 1 + front.length := by
      rw [List.length_cons]
      omega
    have last : (c :: front).getLast?.or before = front.getLast?.or (some c) := by
      rw [List.getLast?_cons]
      cases front.getLast? <;> rfl
    rw [length, List.cons_append] at whole
    rw [length, last]
    cases skip with
    | succ skip =>
      obtain ⟨finds, inside, same⟩ := ih (Nat.le_of_succ_le_succ fits) (by simpa [findFrom] using whole)
      exact ⟨finds, inside, fun back' ahead => same back' ahead.tail⟩
    | zero =>
      have within : ∀ value taken, pattern before (c :: (front ++ back)) = some (value, taken) →
          taken ≤ front.length + 1 := by
        intro value taken read
        cases taken with
        | zero => exact Nat.zero_le _
        | succ taken =>
          have member : ⟨⟨index, index + taken + 1⟩, value⟩ ∈
              findFrom pattern before 0 index (c :: (front ++ back)) := by
            rw [findFrom, read]
            exact List.mem_cons_self
          have stop := whole _ member (by simp only; omega)
          simp only at stop
          omega
      have same {back' : List Char} (ahead : SameAhead pattern (c :: front) back back') :
          pattern before (c :: (front ++ back')) = pattern before (c :: (front ++ back)) :=
        ahead before (c :: front) (by simp) List.suffix_rfl within
      by_cases recognised : ∃ value taken, pattern before (c :: (front ++ back)) = some (value, taken + 1)
      · obtain ⟨value, taken, read⟩ := recognised
        have here {back' : List Char} (ahead : SameAhead pattern (c :: front) back back') :
            findFrom pattern before 0 index (c :: (front ++ back')) =
              ⟨⟨index, index + taken + 1⟩, value⟩ ::
                findFrom pattern (some c) taken (index + 1) (front ++ back') := by
          rw [findFrom, same ahead, read]
        have short := within value (taken + 1) read
        rw [here (.refl _ _)] at whole
        obtain ⟨finds, inside, same⟩ := ih (Nat.le_of_succ_le_succ short) fun found member =>
          whole found (List.mem_cons_of_mem _ member)
        refine ⟨⟨⟨index, index + taken + 1⟩, value⟩ :: finds, ?_, fun back' ahead => ?_⟩
        · intro found member
          rcases List.mem_cons.mp member with rfl | member
          · simp only
            omega
          · exact inside found member
        · rw [List.cons_append, here ahead, same back' ahead.tail, List.cons_append]
      · have here {back' : List Char} (ahead : SameAhead pattern (c :: front) back back') :
            findFrom pattern before 0 index (c :: (front ++ back')) =
              findFrom pattern (some c) 0 (index + 1) (front ++ back') := by
          rw [findFrom, same ahead]
          split
          · next value taken read => exact absurd ⟨value, taken, read⟩ recognised
          · rfl
        rw [here (.refl _ _)] at whole
        obtain ⟨finds, inside, same⟩ := ih (Nat.zero_le _) whole
        exact ⟨finds, inside, fun back' ahead => by rw [List.cons_append, here ahead, same back' ahead.tail]⟩

end Dialect
