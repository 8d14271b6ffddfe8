import Dialect.Proofs.Text.Blank
import Dialect.Structure.Statement

/-! What the checks on the shape of a line report: findings of their own kind, each on a stretch of the line. -/
namespace Dialect

/-- The finding stands on a stretch, not empty, of the code line with this number. -/
def Finding.OnCode (f : Finding) (number : Nat) (code : CodeLine) : Prop :=
  ∃ column length, f.range = .onLine number column length ∧ 0 < length ∧ column + length ≤ code.chars.length

section Line

variable {number : Nat} {code : CodeLine} {arrayClosers : List Nat} {f : Finding}

theorem gluedWords_spec (member : f ∈ gluedWords number code arrayClosers) :
    f.problem.kind = .statementShape ∧ f.OnCode number code := by
  obtain ⟨⟨c, column⟩, there, found⟩ := List.mem_filterMap.mp member
  dsimp only at found
  split at found
  · obtain ⟨word, _, rfl⟩ := Option.map_eq_some_iff.mp found
    have inside := (List.getElem?_eq_some_iff.mp (List.mem_zipIdx_iff_getElem?.mp there)).1
    exact ⟨rfl, column, 1, rfl, Nat.one_pos, inside⟩
  · cases found

theorem openEnd_spec {rest : List CodeLine} (member : f ∈ openEnd number code rest arrayClosers) :
    f.problem.kind = .statementShape ∧ f.OnCode number code := by
  rw [openEnd] at member
  split at member
  · next closed =>
    obtain ⟨front, split⟩ := List.isSuffixOf_iff_suffix.mp closed.1
    split at member
    · split at member
      · cases member
      · rw [List.mem_singleton.mp member]
        refine ⟨rfl, code.chars.length - 1, 1, rfl, Nat.one_pos, ?_⟩
        simp [← split]
    · cases member
  · cases member

/-- The first column of a code line and its trimmed length stay on the line. -/
theorem CodeLine.trimmed_inside {first : Nat} (start : code.firstColumn? = some first) :
    0 < code.trimmed.length ∧ first + code.trimmed.length ≤ code.chars.length := by
  obtain ⟨inside, found⟩ := List.findIdx?_eq_some_iff_findIdx_eq.mp start
  obtain ⟨_, solid, _⟩ := List.findIdx?_eq_some_iff_getElem.mp start
  have visible : isBlankText code.chars = false := by
    refine Bool.eq_false_iff.mpr fun blank => ?_
    rw [isBlankText_iff.mp blank _ (List.getElem_mem inside)] at solid
    cases solid
  have lead : (code.chars.takeWhile Dialect.isBlank).length = first := by
    rw [List.takeWhile_eq_take_findIdx_not, found, List.length_take_of_le (Nat.le_of_lt inside)]
  rw [← lead]
  exact length_trim visible

theorem checkStatement_spec {expectsValue : Bool} (member : f ∈ checkStatement number code expectsValue) :
    f.problem.kind = .statementShape ∧ f.OnCode number code := by
  rw [checkStatement] at member
  split at member
  · cases member
  · next first start =>
    obtain ⟨filled, short⟩ := CodeLine.trimmed_inside start
    have place (problem : Problem) : Finding.OnCode ⟨problem, .onLine number first code.trimmed.length⟩ number code :=
      ⟨first, _, rfl, filled, short⟩
    split at member
    · cases member
    · dsimp only at member
      split at member <;> split at member
      all_goals first
        | cases member; done
        | rw [List.mem_singleton.mp member]; exact ⟨rfl, place _⟩

end Line

end Dialect
