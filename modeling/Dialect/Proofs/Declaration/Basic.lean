import Dialect.Declaration.Basic
import Dialect.Proofs.Code.TopLevel
import Dialect.Proofs.Text.Search

/-! Where declarations stand: their heads are whole words without an `=`, one after the other, and
each is followed by the `=` of its value. -/
namespace Dialect

theorem not_mem_of_isBlankText {c : Char} {gap : List Char} (visible : isBlank c = false)
    (blank : isBlankText gap = true) : c ∉ gap := fun member =>
  ne_of_isBlank (isBlankText_iff.mp blank c member) visible rfl

/-- What is recognised before the type of a declaration. -/
theorem declaredName?_eq_some {before : Option Char} {here name rest : List Char}
    (recognised : declaredName? before here = some (name, rest)) :
    ∃ lead, here = 'd' :: lead ++ rest ∧ '=' ∉ lead := by
  simp only [declaredName?, Option.bind_eq_bind, Option.pure_def] at recognised
  split at recognised
  · cases recognised
  obtain ⟨afterKeyword, keyword, recognised⟩ := Option.bind_eq_some_iff.mp recognised
  split at recognised
  · cases recognised
  obtain ⟨word, named, recognised⟩ := Option.bind_eq_some_iff.mp recognised
  obtain ⟨afterColon, colon, recognised⟩ := Option.bind_eq_some_iff.mp recognised
  obtain ⟨rfl, rfl⟩ := Prod.mk.inj (Option.some.inj recognised)
  obtain ⟨gap, blank, text⟩ := exists_blank_append_trimStart afterKeyword
  obtain ⟨gap₁, blank₁, text₁⟩ := exists_blank_append_trimStart
    ((trimStart afterKeyword).drop word.length)
  obtain ⟨gap₂, blank₂, text₂⟩ := exists_blank_append_trimStart afterColon
  have word_eq : word = (trimStart afterKeyword).takeWhile isIdentChar := by
    simp only [leadingWord?] at named
    split at named
    · exact (Option.some.inj named).symm
    · cases named
  have split : word ++ (trimStart afterKeyword).drop word.length = trimStart afterKeyword := by
    rw [word_eq, takeWhile_append_drop]
  have word_clean : '=' ∉ word := by
    intro member
    rw [word_eq] at member
    exact absurd (of_mem_takeWhile member) (by decide)
  have spelled : declareKeyword = 'd' :: ['e', 'c', 'l', 'a', 'r', 'e'] := rfl
  refine ⟨['e', 'c', 'l', 'a', 'r', 'e'] ++ gap ++ word ++ gap₁ ++ [':'] ++ gap₂, ?_, ?_⟩
  · have colon_text := after?_eq_some_iff.mp colon
    calc here = declareKeyword ++ (gap ++ (word ++ (gap₁ ++ ([':'] ++ (gap₂ ++ trimStart afterColon))))) := by
          rw [text₂, ← colon_text, text₁, split, text]
          exact after?_eq_some_iff.mp keyword
      _ = _ := by simp [spelled]
  · simp only [List.mem_append, not_or]
    have clear {gap : List Char} := @not_mem_of_isBlankText '=' gap rfl
    exact ⟨⟨⟨⟨⟨by decide, clear blank⟩, word_clean⟩, clear blank₁⟩, by decide⟩, clear blank₂⟩

/-- A head starts with its keyword, ends with a letter of its type and holds no `=`. -/
theorem head?_eq_some {before : Option Char} {here : List Char} {head : Head} {taken : Nat}
    (recognised : head? before here = some (head, taken)) :
    ∃ lead letter rest, here = 'd' :: lead ++ letter :: rest ∧ taken = lead.length + 2 ∧
      isAsciiLetter letter = true ∧ '=' ∉ lead ∧ endsWord rest = true := by
  simp only [head?, Option.bind_eq_bind, Option.pure_def] at recognised
  obtain ⟨⟨name, afterColon⟩, named, recognised⟩ := Option.bind_eq_some_iff.mp recognised
  obtain ⟨lead, text, clean⟩ := declaredName?_eq_some named
  split at recognised
  · cases recognised
  next accepted =>
  obtain ⟨_, rfl⟩ := Prod.mk.inj (Option.some.inj recognised)
  simp only [Bool.or_eq_true, List.isEmpty_iff, Bool.not_eq_true', not_or, Bool.not_eq_false] at accepted
  have split := takeWhile_append_drop isAsciiLetter afterColon
  have letters := @of_mem_takeWhile isAsciiLetter afterColon
  generalize afterColon.takeWhile isAsciiLetter = typeName at accepted split letters
  generalize afterColon.drop typeName.length = rest at accepted split
  subst split
  obtain ⟨front, letter, rfl⟩ := (List.eq_nil_or_concat typeName).resolve_left accepted.1
  rw [List.concat_eq_append] at *
  refine ⟨lead ++ front, letter, rest, ?_, ?_, letters (by simp), ?_, accepted.2⟩
  · simp [text]
  · simp [text]; omega
  · simp only [List.mem_append, not_or]
    refine ⟨clean, fun member => ?_⟩
    exact absurd (letters (List.mem_append_left _ member)) (by decide)

namespace Declaration

/-- Where the parts of a declaration stand in its document. -/
structure Placed (source : List Char) (d : Declaration) : Prop where
  order : d.head.start < d.head.stop
  before : d.head.stop ≤ d.equals
  first : source[d.head.start]? = some 'd'
  last : ∃ c, source[d.head.stop - 1]? = some c ∧ isAsciiLetter c = true
  ends : endsWord (source.drop d.head.stop) = true
  clean : '=' ∉ d.head.slice source
  sign : source[d.equals]? = some '='
  single : source[d.equals + 1]? ≠ some '='
  search : topLevel? .equals (source.drop d.head.stop) = some (d.equals - d.head.stop)

theorem Placed.inside {source : List Char} {d : Declaration} (placed : Placed source d) :
    d.equals < source.length := (List.getElem?_eq_some_iff.mp placed.sign).1

end Declaration

theorem ofHead?_eq_some {source : List Char} {found : Found Head} {d : Declaration}
    (completed : Declaration.ofHead? source found = some d) :
    d.head = found.span ∧
      ∃ gap, topLevel? .equals (source.drop found.span.stop) = some gap ∧
        d.equals = found.span.stop + gap := by
  simp only [Declaration.ofHead?, Option.bind_eq_bind, Option.pure_def] at completed
  split at completed
  · cases completed
  obtain ⟨gap, search, completed⟩ := Option.bind_eq_some_iff.mp completed
  cases completed
  exact ⟨rfl, gap, search, rfl⟩

/-- Every declaration that is found stands in the document as it says. -/
theorem placed_of_mem_findDeclarations {source : List Char} {d : Declaration}
    (member : d ∈ findDeclarations source) : d.Placed source := by
  obtain ⟨found, located, completed⟩ := List.mem_filterMap.mp member
  obtain ⟨inside, order, recognised⟩ := mem_findAll located
  obtain ⟨same, gap, search, equals_eq⟩ := ofHead?_eq_some completed
  rw [← same] at inside order recognised search equals_eq
  obtain ⟨lead, letter, rest, text, taken, isLetter, clean, ends⟩ := head?_eq_some recognised
  have matched : source.drop d.head.start = ('d' :: lead ++ [letter]) ++ rest := by simp [text]
  obtain ⟨slice, after, bound⟩ := Span.of_drop_eq matched (by simp; omega)
  obtain ⟨before, further, split, length, single⟩ := topLevel?_equals search
  have at_drop (start index : Nat) : source[start + index]? = (source.drop start)[index]? := by simp
  refine ⟨order, by omega, ?_, ⟨letter, ?_, isLetter⟩, by rwa [after], ?_, ?_, ?_, ?_⟩
  · simpa [matched] using at_drop d.head.start 0
  · rw [show d.head.stop - 1 = d.head.start + (lead.length + 1) by omega, at_drop, matched]
    simp
  · rw [slice]
    simp only [List.cons_append, List.mem_cons, List.mem_append, not_or]
    refine ⟨by decide, clean, ?_, by simp⟩
    rintro rfl
    exact absurd isLetter (by decide)
  · rw [equals_eq, at_drop, split, length]
    simp
  · rw [equals_eq, Nat.add_assoc, at_drop, split, length]
    simpa [List.head?_eq_getElem?, List.getElem?_append_right] using single
  · rw [search, equals_eq]
    simp

theorem findDeclarations_ordered (source : List Char) :
    (findDeclarations source).Pairwise (fun a b => a.head.stop ≤ b.head.start) := by
  refine List.pairwise_filterMap.mpr ((findAll_ordered source).imp ?_)
  intro a b order c completed e completed'
  rw [(ofHead?_eq_some completed).1, (ofHead?_eq_some completed').1]
  exact order

end Dialect
