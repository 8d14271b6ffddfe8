import Dialect.Proofs.Code.View
import Dialect.Proofs.Declaration.Meaning

/-! Which heads are reported. A head is left out where a comment sign stands before it on its line, whatever
reads this sign: one inside a string silences a head in code, and a head inside a string is reported. -/
namespace Dialect

/-- A comment sign inside a string stands on the line before this place. -/
def SignInString (before rest : List Char) : Prop :=
  ∃ earlier later, before = earlier ++ commentMarker :: later ∧ '\n' ∉ later ∧
    (viewMode earlier (commentMarker :: (later ++ rest))).outside = false

theorem SignInString.concat {before rest : List Char} {c : Char} (inLine : c ≠ '\n') :
    SignInString (before ++ [c]) rest ↔
      SignInString before (c :: rest) ∨ c = commentMarker ∧ (viewMode before (c :: rest)).outside = false := by
  constructor
  · rintro ⟨earlier, later, split, single, inside⟩
    rcases List.eq_nil_or_concat later with rfl | ⟨later, d, rfl⟩
    · obtain ⟨rfl, rfl⟩ := List.append_singleton_inj.mp split
      exact .inr ⟨rfl, inside⟩
    · rw [List.concat_eq_append, ← List.cons_append, ← List.append_assoc] at split
      obtain ⟨rfl, rfl⟩ := List.append_singleton_inj.mp split
      simp only [List.concat_eq_append, List.mem_append, not_or] at single
      exact .inl ⟨earlier, later, rfl, single.1, by simpa using inside⟩
  · rintro (⟨earlier, later, rfl, single, inside⟩ | ⟨rfl, inside⟩)
    · refine ⟨earlier, later ++ [c], by simp, by simp [single, Ne.symm inLine], by simpa using inside⟩
    · exact ⟨before, [], rfl, List.not_mem_nil, inside⟩

/-- The step that leads into a comment, or stays in one. -/
theorem Mode.step_comment {mode : Mode} {c : Char} {rest : List Char} (inLine : c ≠ '\n') :
    (mode.step c rest).2 = .comment ↔ mode = .comment ∨ mode = .code ∧ c = commentMarker := by
  cases mode <;> simp only [step]
  case code => split_ifs with quote raw sign <;> simp_all [commentMarker]
  case comment => simp [inLine]
  case quoted => split_ifs <;> simp
  case raw => split_ifs <;> simp
  all_goals simp

/-- A line is commented for the search of heads if the code view reads a comment there, or has read the sign of
one inside a string. -/
theorem isCommented_iff (before rest : List Char) :
    isCommented before = true ↔ viewMode before rest = .comment ∨ SignInString before rest := by
  induction before using List.reverseRecOn generalizing rest with
  | nil =>
    have none : ¬ SignInString [] rest := by
      rintro ⟨earlier, later, split, _⟩
      simp at split
    simp [none, isCommented, lineBefore]
  | append_singleton before c ih =>
    by_cases inLine : c = '\n'
    · subst inLine
      have none : ¬ SignInString (before ++ ['\n']) rest := by
        rintro ⟨earlier, later, split, single, _⟩
        rcases List.eq_nil_or_concat later with rfl | ⟨later, d, rfl⟩
        · simp [commentMarker] at split
        · simp only [List.concat_eq_append, List.mem_append, not_or, List.mem_singleton] at split single
          rw [← List.cons_append, ← List.append_assoc] at split
          exact single.2 (List.append_singleton_inj.mp split).2
      have entry : CodeLine.entry (viewMode before ('\n' :: rest)).inRaw ≠ .comment := by
        rw [CodeLine.entry]
        split <;> simp
      rw [isCommented_concat, if_pos rfl, viewMode_concat, if_pos rfl]
      simp [none, entry]
    · rw [isCommented_concat, if_neg inLine, viewMode_concat, if_neg inLine, SignInString.concat inLine,
        Mode.step_comment inLine, Bool.or_eq_true, ih (c :: rest), beq_iff_eq]
      cases mode : viewMode before (c :: rest) <;> simp [Mode.outside] <;> tauto

/-- A head is told by the place where it starts. -/
theorem findAll_inj {α : Type} {pattern : Option Char → List Char → Option (α × Nat)} {text : List Char}
    {found found' : Found α} (member : found ∈ findAll pattern text) (member' : found' ∈ findAll pattern text)
    (start : found.span.start = found'.span.start) : found = found' := by
  obtain ⟨_, order, recognised⟩ := mem_findAll member
  obtain ⟨_, order', recognised'⟩ := mem_findAll member'
  rw [← start, recognised, Option.some.injEq, Prod.mk.injEq] at recognised'
  obtain ⟨⟨first, stop⟩, value⟩ := found
  obtain ⟨⟨first', stop'⟩, value'⟩ := found'
  simp only at start order order' recognised'
  obtain ⟨rfl, length⟩ := recognised'
  obtain rfl : first = first' := start
  obtain rfl : stop = stop' := by omega
  rfl

/-- The declaration with this head is reported. -/
def Reported (text : List Char) (head : Found Head) : Prop :=
  ∃ d ∈ findDeclarations text,
    d.head = head.span ∧ d.name = head.value.name ∧ d.type = .ofName head.value.typeName

theorem reported_iff {text : List Char} {head : Found Head} (member : head ∈ findAll head? text) :
    Reported text head ↔ isCommented (text.take head.span.start) = false ∧
      (topLevel? .equals (text.drop head.span.stop)).isSome = true := by
  constructor
  · rintro ⟨d, reported, same, _⟩
    obtain ⟨found, located, completed⟩ := List.mem_filterMap.mp reported
    have span : found.span = head.span := by rw [← (ofHead?_eq_some completed).1, same]
    obtain rfl := findAll_inj located member (congrArg Span.start span)
    rw [Declaration.ofHead?_eq] at completed
    split at completed
    · cases completed
    · next bare =>
      obtain ⟨gap, search, _⟩ := Option.map_eq_some_iff.mp completed
      exact ⟨Bool.eq_false_iff.mpr bare, by rw [search]; rfl⟩
  · rintro ⟨bare, search⟩
    obtain ⟨gap, search⟩ := Option.isSome_iff_exists.mp search
    refine ⟨Declaration.complete text head gap, List.mem_filterMap.mpr ⟨head, member, ?_⟩, rfl, rfl, rfl⟩
    rw [Declaration.ofHead?_eq, bare, search]
    rfl

/-- A head is reported if an `=` follows it, and its keyword neither stands in a comment nor behind a comment sign
that a string of its line holds. So where its line has no such sign and the keyword is in no string, it is
reported if and only if the keyword is code and an `=` follows. -/
theorem declarations_recognised (text : List Char) (head : Found Head) (member : head ∈ findAll head? text) :
    (Reported text head ↔
      viewMode (text.take head.span.start) (text.drop head.span.start) ≠ .comment ∧
        ¬ SignInString (text.take head.span.start) (text.drop head.span.start) ∧
        (topLevel? .equals (text.drop head.span.stop)).isSome = true) ∧
    (¬ SignInString (text.take head.span.start) (text.drop head.span.start) →
      (viewMode (text.take head.span.start) (text.drop head.span.start)).outside = true →
        (Reported text head ↔
          viewMode (text.take head.span.start) (text.drop head.span.start) = .code ∧
            (topLevel? .equals (text.drop head.span.stop)).isSome = true)) := by
  have commented := isCommented_iff (text.take head.span.start) (text.drop head.span.start)
  rw [reported_iff member, ← Bool.not_eq_true, commented, not_or, and_assoc]
  refine ⟨Iff.rfl, fun bare outside => ?_⟩
  cases mode : viewMode (text.take head.span.start) (text.drop head.span.start) <;>
    simp_all [Mode.outside]

/-- A head behind a string without the sign, and one in a comment. -/
theorem declarations_recognised_example :
    Reported "a = \"x\"; declare n : int = 5; # declare m : int = 6;".toList
        ⟨⟨9, 24⟩, "n".toList, "int".toList⟩ ∧
      ¬ Reported "a = \"x\"; declare n : int = 5; # declare m : int = 6;".toList
        ⟨⟨32, 47⟩, "m".toList, "int".toList⟩ := by
  have found : findAll head? "a = \"x\"; declare n : int = 5; # declare m : int = 6;".toList =
      [⟨⟨9, 24⟩, "n".toList, "int".toList⟩, ⟨⟨32, 47⟩, "m".toList, "int".toList⟩] := by rfl
  have first := (declarations_recognised _ _ (found ▸ List.mem_cons_self)).2
  have second := (declarations_recognised _ _ (found ▸ List.mem_cons_of_mem _ List.mem_cons_self)).1
  constructor
  · have bare :=
      (isCommented_iff "a = \"x\"; ".toList "declare n : int = 5; # declare m : int = 6;".toList).not.mp
      (by decide)
    exact (first (not_or.mp bare).2 (by decide +kernel)).mpr (by decide +kernel)
  · exact fun reported => (second.mp reported).1 (by decide +kernel)

/-- A sign in a string silences a head behind it, which the code view reads as code. -/
theorem head_behind_sign_in_string :
    StringsEnd "a = \"#\"; declare n : int = 5;".toList ∧
      (findAll head? "a = \"#\"; declare n : int = 5;".toList).map (·.span) = [⟨9, 24⟩] ∧
      viewMode ("a = \"#\"; ".toList) ("declare n : int = 5;".toList) = .code ∧
      topLevel? .equals " = 5;".toList = some 1 ∧
      findDeclarations "a = \"#\"; declare n : int = 5;".toList = [] := by
  decide +kernel

end Dialect
