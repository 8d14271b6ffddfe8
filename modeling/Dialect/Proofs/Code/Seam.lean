import Dialect.Proofs.Code.Search
import Dialect.Proofs.Code.View

/-! The search for an `=` or a `;` over a comment at the end of a line. The search passes it, so that it ends at
the same character as without the comment. -/
namespace Dialect

section Search

variable {target : Target} {depth index : Nat}

theorem topLevelFrom_shift (target : Target) (depth index count : Nat) (lexemes : List Lexeme) :
    topLevelFrom target depth (index + count) lexemes =
      (topLevelFrom target depth index lexemes).map (· + count) := by
  -- on the number of lexemes, since a pair of `=` is passed at once
  generalize total : lexemes.length = size
  induction size using Nat.strongRecOn generalizing lexemes depth index with
  | _ size ih =>
    cases lexemes with
    | nil => rfl
    | cons lexeme rest =>
      rw [topLevelFrom_cons, topLevelFrom_cons]
      cases move target depth lexeme with
      | pass depth =>
        simp only
        rw [Nat.add_right_comm, ih rest.length (by simp [← total]) _ _ rest rfl]
      | fail => rfl
      | hit => rfl
      | sign =>
        cases rest with
        | nil => rfl
        | cons next further =>
          simp only
          have shorter : further.length < size := by
            rw [← total, List.length_cons, List.length_cons]
            omega
          split
          · rw [Nat.add_right_comm, ih further.length shorter _ _ further rfl]
          · rfl

theorem le_of_topLevelFrom {lexemes : List Lexeme} {found : Nat}
    (search : topLevelFrom target depth index lexemes = some found) : index ≤ found := by
  rw [← Nat.zero_add index, topLevelFrom_shift] at search
  obtain ⟨place, _, rfl⟩ := Option.map_eq_some_iff.mp search
  exact Nat.le_add_left index place

/-- The search goes on at this lexeme as if it was not there. -/
def Lexeme.Passed (lexeme : Lexeme) : Prop := ∀ target depth, move target depth lexeme = .pass depth

theorem Lexeme.passed_of_role {lexeme : Lexeme} (other : lexeme.role ≠ .code) : lexeme.Passed := fun _ _ =>
  if_pos other

theorem topLevelFrom_passed {passed rest : List Lexeme} (pass : ∀ lexeme ∈ passed, lexeme.Passed) :
    topLevelFrom target depth index (passed ++ rest) = topLevelFrom target depth (index + passed.length) rest := by
  induction passed generalizing index with
  | nil => rfl
  | cons lexeme passed ih =>
    rw [List.cons_append, topLevelFrom_cons, pass lexeme List.mem_cons_self target depth]
    simp only
    rw [ih fun later member => pass later (List.mem_cons_of_mem _ member), List.length_cons]
    congr 1
    omega

/-- What the search makes of the start of a text, behind which no `=` follows at once: it ends there, in the same
way in all such texts, or comes to the end of it equally deep. -/
def Searched (target : Target) (depth index : Nat) (front : List Lexeme) : Prop :=
  (∃ found : Option Nat, (∀ place ∈ found, place < index + front.length) ∧
    ∀ back : List Lexeme, back.head?.map (·.char) ≠ some '=' →
      topLevelFrom target depth index (front ++ back) = found) ∨
  ∃ depth', ∀ back : List Lexeme, back.head?.map (·.char) ≠ some '=' →
    topLevelFrom target depth index (front ++ back) = topLevelFrom target depth' (index + front.length) back

theorem Searched.of_step {depth' index' : Nat} {front front' : List Lexeme}
    (later : Searched target depth' index' front')
    (step : ∀ back : List Lexeme, back.head?.map (·.char) ≠ some '=' →
      topLevelFrom target depth index (front ++ back) = topLevelFrom target depth' index' (front' ++ back))
    (length : index' + front'.length = index + front.length) : Searched target depth index front := by
  rw [Searched, length] at later
  rcases later with ⟨found, inside, same⟩ | ⟨deep, same⟩
  · exact .inl ⟨found, inside, fun back single => (step back single).trans (same back single)⟩
  · exact .inr ⟨deep, fun back single => (step back single).trans (same back single)⟩

theorem searched (target : Target) (depth index : Nat) (front : List Lexeme) :
    Searched target depth index front := by
  generalize total : front.length = size
  induction size using Nat.strongRecOn generalizing depth index front with
  | _ size ih =>
    match front with
    | [] => exact .inr ⟨depth, fun _ _ => rfl⟩
    | lexeme :: front =>
      rw [List.length_cons] at total
      have inside : index < index + (lexeme :: front).length := by simp
      cases moved : move target depth lexeme with
      | pass depth' =>
        refine (ih front.length (by omega) depth' (index + 1) front rfl).of_step (fun back _ => ?_)
          (by simp; omega)
        rw [List.cons_append, topLevelFrom_cons, moved]
      | fail =>
        refine .inl ⟨none, by simp, fun back _ => ?_⟩
        rw [List.cons_append, topLevelFrom_cons, moved]
      | hit =>
        refine .inl ⟨some index, by simp, fun back _ => ?_⟩
        rw [List.cons_append, topLevelFrom_cons, moved]
      | sign =>
        match front with
        | [] =>
          refine .inl ⟨some index, by simp, fun back single => ?_⟩
          rw [List.singleton_append, topLevelFrom_cons, moved]
          cases back with
          | nil => rfl
          | cons next back =>
            have other : next.char ≠ '=' := by simpa using single
            simp only [if_neg other]
        | next :: front =>
          by_cases pair : next.char = '='
          · refine (ih front.length (by simp at total; omega) depth (index + 2) front rfl).of_step
              (fun back _ => ?_) (by simp; omega)
            rw [List.cons_append, topLevelFrom_cons, moved]
            simp only [List.cons_append, if_pos pair]
          · refine .inl ⟨some index, by simp, fun back _ => ?_⟩
            rw [List.cons_append, topLevelFrom_cons, moved]
            simp only [List.cons_append, if_neg pair]

theorem length_lex (mode : Mode) (text : List Char) : (lex mode text).length = text.length := by
  rw [← List.length_map (f := (·.char)), map_char_lex]

theorem head?_lex (mode : Mode) (text : List Char) : (lex mode text).head?.map (·.char) = text.head? := by
  cases text <;> rfl

/-- The search passes this part of a line, and the line does not end in a string. -/
def Skipped (mode : Mode) (part : List Char) : Prop :=
  (∀ lexeme ∈ lex mode part, lexeme.Passed) ∧ (modeAfter mode part).outside = true

variable {mode : Mode} {part rest gap comment : List Char} {b : Char}

theorem skipped_commented (single : '\n' ∉ part) : Skipped .comment part := by
  refine ⟨?_, by rw [modeAfter_commented single]; rfl⟩
  induction part with
  | nil => simp [lex]
  | cons c part ih =>
    rw [List.mem_cons, not_or] at single
    have read : Mode.step .comment c part = (.comment, .comment) := by simp [Mode.step, Ne.symm single.1]
    intro lexeme member
    rw [lex, read] at member
    rcases List.mem_cons.mp member with rfl | member
    · exact Lexeme.passed_of_role (by simp)
    · exact ih single.2 lexeme member

theorem skipped_blank (outside : mode.outside = true) (blank : isBlankText gap = true) (single : '\n' ∉ gap) :
    Skipped mode gap := by
  cases mode with
  | comment => exact skipped_commented single
  | code =>
    refine ⟨fun lexeme member target depth => ?_, by rw [modeAfter_blank blank (.inl rfl)]; rfl⟩
    have there := List.mem_map_of_mem (f := (·.char)) member
    rw [map_char_lex] at there
    exact move_blank (isBlankText_iff.mp blank _ there) lexeme.role
  | _ => cases outside

theorem skipped_comment (outside : mode.outside = true) (blank : isBlank b = true)
    (single : '\n' ∉ b :: commentMarker :: comment) : Skipped mode (b :: commentMarker :: comment) := by
  cases mode with
  | comment => exact skipped_commented single
  | code =>
    have begun : Mode.step .code commentMarker comment = (.comment, .comment) := by simp [Mode.step, commentMarker]
    obtain ⟨passed, ends⟩ := @skipped_commented comment fun member =>
      single (List.mem_cons_of_mem _ (List.mem_cons_of_mem _ member))
    rw [Skipped, lex, lex, modeAfter, modeAfter, step_code_blank blank, begun]
    refine ⟨fun lexeme member => ?_, ends⟩
    rcases List.mem_cons.mp member with rfl | member
    · exact fun _ _ => move_blank blank .code
    · rcases List.mem_cons.mp member with rfl | member
      · exact Lexeme.passed_of_role (by simp)
      · exact passed lexeme member
  | _ => cases outside

theorem lex_outside (outside : mode.outside = true) (ends : rest = [] ∨ ∃ more, rest = '\n' :: more) :
    lex mode rest = lex .code rest := by
  rcases ends with rfl | ⟨more, rfl⟩
  · rfl
  · cases mode with
    | code => rfl
    | comment => rfl
    | _ => cases outside

theorem apart_of_ends (ends : rest = [] ∨ ∃ more, rest = '\n' :: more) : Apart rest := by
  rcases ends with rfl | ⟨more, rfl⟩
  · exact apart_nil
  · exact apart_newline more

theorem topLevelFrom_skipped (skipped : Skipped mode part) (ends : rest = [] ∨ ∃ more, rest = '\n' :: more) :
    topLevelFrom target depth index (lex mode (part ++ rest)) =
      topLevelFrom target depth (index + part.length) (lex .code rest) := by
  rw [lex_append (apart_of_ends ends), topLevelFrom_passed skipped.1, length_lex, lex_outside skipped.2 ends]

/-- Where a place is in a text that has `count` characters more from `start` on. -/
def displace (start count place : Nat) : Nat := if place < start then place else place + count

/-- The search ends at the same character with a comment and without. -/
theorem topLevel?_comment {front after : List Char} (last : endsLine after = true)
    (outside : (modeAfter .code front).outside = true) (blank : isBlank b = true) (single : '\n' ∉ b :: comment)
    (target : Target) :
    topLevel? target (front ++ b :: commentMarker :: (comment ++ after)) =
      (topLevel? target (front ++ after)).map (displace front.length (comment.length + 2)) := by
  obtain ⟨gap, rest, rfl, taken, bare, ends⟩ := exists_line_append after
  have here := last
  rw [endsLine, taken] at last
  have added : '\n' ∉ b :: commentMarker :: (comment ++ gap) := by
    have marker : '\n' ≠ commentMarker := by decide
    simp only [List.mem_cons, List.mem_append, not_or] at single ⊢
    exact ⟨single.1, marker, single.2, bare⟩
  have whole : b :: commentMarker :: (comment ++ (gap ++ rest)) =
      b :: commentMarker :: (comment ++ gap) ++ rest := by simp
  have apart : Apart (gap ++ rest) := apart_of_endsLine here
  have other' : (gap ++ rest).head? ≠ some '=' := fun sign => by
    have lead := head?_take_endsLine here 1
    simp [List.head?_take, sign, isBlank] at lead
  have apart' : Apart (b :: commentMarker :: (comment ++ gap) ++ rest) := apart_of_isBlank blank _
  have other : (b :: commentMarker :: (comment ++ gap) ++ rest).head? ≠ some '=' := by
    simpa using ne_of_isBlank blank rfl
  rw [← head?_lex (modeAfter .code front)] at other other'
  rw [topLevel?_eq, topLevel?_eq, whole, lex_append apart', lex_append apart]
  rcases searched target 0 0 (lex .code front) with ⟨found, inside, same⟩ | ⟨deep, same⟩
  · rw [same _ other, same _ other']
    cases found with
    | none => rfl
    | some place =>
      have low := inside place rfl
      rw [Nat.zero_add, length_lex] at low
      rw [Option.map_some, displace, if_pos low]
  · rw [same _ other, same _ other', topLevelFrom_skipped (skipped_comment outside blank added) ends,
      topLevelFrom_skipped (skipped_blank outside last bare) ends, length_lex, Nat.zero_add]
    have further : front.length + (b :: commentMarker :: (comment ++ gap)).length =
        front.length + gap.length + (comment.length + 2) := by
      simp only [List.length_cons, List.length_append]
      omega
    rw [further, topLevelFrom_shift]
    refine Option.map_congr fun place found => ?_
    have low := le_of_topLevelFrom found
    rw [displace, if_neg (by omega)]

theorem role_of_topLevelFrom {lexemes : List Lexeme} {found : Nat}
    (search : topLevelFrom target depth index lexemes = some found) :
    ∃ place lexeme, found = index + place ∧ lexemes[place]? = some lexeme ∧ lexeme.role = .code := by
  generalize total : lexemes.length = size
  induction size using Nat.strongRecOn generalizing depth index lexemes with
  | _ size ih =>
    cases lexemes with
    | nil => cases search
    | cons lexeme rest =>
      rw [List.length_cons] at total
      rw [topLevelFrom_cons] at search
      cases moved : move target depth lexeme with
      | pass depth' =>
        rw [moved] at search
        obtain ⟨place, found, rfl, there, role⟩ := ih rest.length (by omega) search rfl
        exact ⟨place + 1, found, by omega, there, role⟩
      | fail =>
        rw [moved] at search
        cases search
      | hit =>
        have role : lexeme.role = .code := by
          by_contra other
          rw [move.eq_def, if_pos other] at moved
          cases moved
        rw [moved] at search
        exact ⟨0, lexeme, (Option.some.inj search).symm, rfl, role⟩
      | sign =>
        obtain ⟨rfl, rfl, rfl⟩ := move_sign moved
        rw [moved] at search
        cases rest with
        | nil => exact ⟨0, ⟨'=', .code⟩, (Option.some.inj search).symm, rfl, rfl⟩
        | cons next further =>
          simp only at search
          split at search
          · rw [List.length_cons] at total
            obtain ⟨place, found, rfl, there, role⟩ := ih further.length (by omega) search rfl
            exact ⟨place + 2, found, by omega, there, role⟩
          · exact ⟨0, ⟨'=', .code⟩, (Option.some.inj search).symm, rfl, rfl⟩

theorem getElem?_lex (mode : Mode) (front : List Char) (c : Char) (back : List Char) :
    (lex mode (front ++ c :: back))[front.length]? =
      some ⟨c, ((modeAt mode (front ++ c :: back) front.length).step c back).1⟩ := by
  induction front generalizing mode with
  | nil => simp [lex, modeAt_zero]
  | cons d front ih => rw [List.cons_append, lex, List.length_cons, List.getElem?_cons_succ, ih, modeAt]

/-- What stands behind the `=` that is found is read as a text of its own. -/
theorem modeAfter_topLevel? {front back after : List Char} (apart : Apart after)
    (search : topLevel? .equals (front ++ '=' :: (back ++ after)) = some front.length) :
    modeAfter .code (front ++ '=' :: back) = modeAfter .code back := by
  rw [topLevel?_eq] at search
  obtain ⟨place, lexeme, found, there, role⟩ := role_of_topLevelFrom search
  obtain rfl : place = front.length := by omega
  rw [getElem?_lex, Option.some.injEq] at there
  have code : modeAt .code (front ++ '=' :: (back ++ after)) front.length = .code := by
    rw [← there] at role
    generalize modeAt .code (front ++ '=' :: (back ++ after)) front.length = mode at role
    cases mode <;> simp [Mode.step] at role ⊢
  have whole := modeAt_append_apart apart .code (front ++ '=' :: back)
  have parted := modeAt_append .code front ('=' :: (back ++ after)) (back.length + 1)
  have length : (front ++ '=' :: back).length = front.length + (back.length + 1) := by simp
  have next : Mode.step .code '=' (back ++ after) = (.code, .code) := by simp [Mode.step, commentMarker]
  rw [code, modeAt, next, modeAt_append_apart apart] at parted
  rw [← whole, length, List.append_assoc]
  exact parted

end Search

end Dialect
