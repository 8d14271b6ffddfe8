import Dialect.Mask.Restore
import Dialect.Proofs.Mask.Token
import Mathlib.Data.List.Basic

/-! Exchanging one token. Among clean items a token stands at one place only, so restoring its
placeholder rewrites the items around that place and nothing else. What it takes away with the token
are an added sign and the blanks around it, and the items that are left are clean again. -/
namespace Dialect

/-- The only place of `token` in `left ++ token ++ right` is the one shown. -/
def Once (token left right : List Char) : Prop :=
  ∀ before rest, left ++ (token ++ right) = before ++ (token ++ rest) → before = left

section Once

variable {token left right : List Char}

theorem Once.not_prefix_left (once : Once token left right) {front back : List Char}
    (split : left = front ++ back) (nonempty : back ≠ []) : ¬token <+: back ++ (token ++ right) := by
  rintro ⟨rest, text⟩
  have same := once front rest (by rw [split, List.append_assoc, text])
  rw [split] at same
  exact nonempty (List.append_right_eq_self.mp same.symm)

theorem Once.not_prefix_right (once : Once token left right) (visible : token ≠ [])
    {front back : List Char} (split : right = front ++ back) : ¬token <+: back := by
  rintro ⟨rest, rfl⟩
  have same := once (left ++ token ++ front) rest (by simp [split])
  rw [List.append_assoc] at same
  exact visible (List.append_eq_nil_iff.mp (List.append_right_eq_self.mp same)).1

theorem replaceFrom_once {rule : List Char → Option (List Char × Nat)}
    {matched rest replacement : List Char} (once : Once token left right) (visible : token ≠ [])
    (only : ∀ here, ¬token <+: here → rule here = none) (split : token ++ right = matched ++ rest)
    (covers : token <+: matched)
    (found : rule (token ++ right) = some (replacement, matched.length)) :
    replaceFrom rule 0 (left ++ (token ++ right)) = left ++ (replacement ++ rest) := by
  obtain ⟨more, rfl⟩ := covers
  rw [List.append_assoc, List.append_cancel_left_eq] at split
  have quiet : replaceFrom rule 0 rest = rest := by
    have passed := @replaceFrom_pass rule rest [] fun front back same _ => by
      rw [List.append_nil]
      exact only _ (once.not_prefix_right visible (by rw [split, same, ← List.append_assoc]))
    simpa [replaceFrom] using passed
  rw [replaceFrom_pass fun front back same nonempty => only _ (once.not_prefix_left same nonempty)]
  obtain ⟨t, tail, rfl⟩ := List.exists_cons_of_ne_nil visible
  have here : rule (t :: (tail ++ right)) = some (replacement, (tail ++ more).length + 1) := found
  rw [List.cons_append, replaceFrom, here]
  simp only [split]
  rw [← List.append_assoc tail, replaceFrom_skip, quiet]

theorem joinContinuations_pass {segment front back : List Char}
    (quiet : ∀ before rest, front = before ++ rest → rest ≠ [] → ¬token <+: rest ++ back) :
    Placeholder.joinContinuations token segment 0 (front ++ back) =
      Placeholder.joinContinuations token (front.reverse ++ segment) 0 back := by
  induction front generalizing segment with
  | nil => rfl
  | cons c front ih =>
    have absent : after? token (c :: (front ++ back)) = none := by
      rw [Option.eq_none_iff_forall_ne_some]
      intro rest found
      exact quiet [] (c :: front) rfl (by simp) ⟨rest, (after?_eq_some_iff.mp found).symm⟩
    rw [List.cons_append, Placeholder.joinContinuations, absent, List.reverse_cons, List.append_assoc]
    exact ih fun before rest split => quiet (c :: before) rest (by rw [split, List.cons_append])

theorem joinContinuations_skip (segment front back : List Char) :
    Placeholder.joinContinuations token segment front.length (front ++ back) =
      Placeholder.joinContinuations token segment 0 back := by
  induction front with
  | nil => rfl
  | cons c front ih => rw [List.cons_append, List.length_cons, Placeholder.joinContinuations, ih]

theorem joinContinuations_nil (token segment : List Char) :
    Placeholder.joinContinuations token segment 0 [] = segment.reverse := by
  rw [Placeholder.joinContinuations.eq_def]

theorem joinContinuations_once (once : Once token left right) (visible : token ≠ []) :
    Placeholder.joinContinuations token [] 0 (left ++ (token ++ right)) =
      Placeholder.beforeContinuation left ++ ' ' :: trimStart right := by
  obtain ⟨gap, _, text⟩ := exists_blank_append_trimStart right
  have quiet : Placeholder.joinContinuations token [] 0 (trimStart right) = trimStart right := by
    have passed := @joinContinuations_pass token [] (trimStart right) [] fun before rest same _ => by
      rw [List.append_nil]
      exact once.not_prefix_right visible (by rw [← text, same, ← List.append_assoc])
    simpa [joinContinuations_nil] using passed
  rw [joinContinuations_pass fun before rest same nonempty => once.not_prefix_left same nonempty]
  obtain ⟨t, tail, rfl⟩ := List.exists_cons_of_ne_nil visible
  have here : after? (t :: tail) (t :: (tail ++ right)) = some right := after?_append (t :: tail) right
  have taken : (tail ++ right).length - (trimStart right).length = (tail ++ gap).length := by
    have lengths := congrArg List.length text
    simp only [List.length_append] at lengths ⊢
    omega
  rw [List.cons_append, Placeholder.joinContinuations, here]
  simp only [taken, List.append_nil, List.reverse_reverse]
  rw [show tail ++ right = (tail ++ gap) ++ trimStart right by rw [List.append_assoc, text],
    joinContinuations_skip, quiet]

theorem beforeContinuation_append {front gap gap' : List Char} (blank : isBlankText gap = true)
    (blank' : isBlankText gap' = true) (trimmed : trimEnd front = front) :
    Placeholder.beforeContinuation (front ++ gap ++ ';' :: gap') = front := by
  have sign : trimEnd (front ++ gap ++ ';' :: gap') = front ++ gap ++ [';'] := by
    rw [List.append_cons, trimEnd_append blank', trimEnd_concat rfl]
  rw [Placeholder.beforeContinuation, sign]
  simp [trimEnd_append blank, trimmed]

namespace Placeholder

variable {p : Placeholder} {left right gap gap' gap'' : List Char}

theorem restore_plain (kind : p.kind = .plain) (visible : p.token ≠ []) (once : Once p.token left right) :
    p.restore (left ++ (p.token ++ right)) = left ++ (p.text ++ right) := by
  rw [restore, kind]
  simp only [replaceAll, List.isEmpty_iff, visible, if_false]
  refine replaceFrom_once once visible (fun here absent => ?_) rfl (List.prefix_refl _) ?_
  · rw [if_neg (by rwa [startsWith_iff])]
  · rw [if_pos (startsWith_iff.mpr (List.prefix_append _ _))]

theorem restore_assignment (kind : p.kind = .assignment) (visible : p.token ≠ [])
    (blank : isBlankText gap = true) (blank' : isBlankText gap' = true)
    (trimmed : trimStart right = right) (once : Once p.token left (gap ++ '=' :: (gap' ++ right))) :
    p.restore (left ++ (p.token ++ (gap ++ '=' :: (gap' ++ right)))) =
      left ++ (p.text ++ ' ' :: right) := by
  rw [restore, kind, List.append_cons p.text]
  have absent : ∀ here, ¬p.token <+: here → p.assignment? here = none := by
    intro here absent
    rw [assignment?, Option.bind_eq_bind, Option.bind_eq_none_iff]
    intro rest found
    exact absurd ⟨rest, (after?_eq_some_iff.mp found).symm⟩ absent
  have sign : trimStart (gap ++ '=' :: (gap' ++ right)) = ['='] ++ (gap' ++ right) := by
    rw [trimStart_append blank, trimStart_cons rfl]
    rfl
  have split : p.token ++ (gap ++ '=' :: (gap' ++ right)) = (p.token ++ (gap ++ '=' :: gap')) ++ right := by
    simp
  refine replaceFrom_once once visible absent split (List.prefix_append _ _) ?_
  simp only [assignment?, after?_append, sign, trimStart_append blank', trimmed, Option.bind_eq_bind,
    Option.bind_some, Option.pure_def, Option.some.injEq, Prod.mk.injEq, true_and, List.length_append,
    List.length_cons]
  omega

theorem restore_continuation (kind : p.kind = .continuation) (visible : p.token ≠ [])
    (blank : isBlankText gap = true) (blank' : isBlankText gap' = true)
    (blank'' : isBlankText gap'' = true) (trimmed : trimEnd left = left)
    (once : Once p.token (left ++ gap ++ ';' :: gap') (gap'' ++ '=' :: right)) :
    p.restore (left ++ gap ++ ';' :: gap' ++ (p.token ++ (gap'' ++ '=' :: right))) =
      left ++ ' ' :: '=' :: right := by
  rw [restore, kind]
  simp only
  rw [joinContinuations_once once visible, beforeContinuation_append blank blank' trimmed,
    trimStart_append blank'', trimStart_cons rfl]

end Placeholder

end Once

/-- The items do not start with a blank. -/
def StartsVisible (items : List Item) : Prop := ∀ item, items.head? = some item → item.isBlank = false

/-- The items do not end with a blank. -/
def EndsVisible (items : List Item) : Prop := ∀ item, items.getLast? = some item → item.isBlank = false

variable {stem : List Char} {meaning : Nat → List Char}

theorem trimStart_render (isStem : IsStem stem) {items : List Item} (visible : StartsVisible items) :
    trimStart (render stem items) = render stem items := by
  match items with
  | [] => rfl
  | .char c :: rest => exact trimStart_cons (visible (.char c) rfl) _
  | .token number :: rest =>
    obtain ⟨tail, shape, _⟩ := tokenOf_shape isStem number
    rw [render_token, shape]
    exact trimStart_cons rfl _

theorem trimEnd_render {items : List Item} (visible : EndsVisible items) :
    trimEnd (render stem items) = render stem items := by
  rcases List.eq_nil_or_concat items with rfl | ⟨front, last, rfl⟩
  · rfl
  rw [List.concat_eq_append, render_append]
  cases last with
  | char c => exact trimEnd_concat (visible (.char c) (by simp)) _
  | token number =>
    have shape := List.dropLast_append_getLast? '_' (getLast?_tokenOf stem number)
    rw [render_token, render_nil, List.append_nil, ← shape, ← List.append_assoc]
    exact trimEnd_concat rfl _

/-- How restoring a placeholder rewrites the items around its token. -/
inductive Step (number : Nat) (text : List Char) : PlaceholderKind → List Item → List Item → Prop where
  | plain (before rest : List Item) :
    Step number text .plain (before ++ .token number :: rest) (before ++ (text.map .char ++ rest))
  | assignment {gap gap' : List Char} (blank : isBlankText gap = true) (blank' : isBlankText gap' = true)
      (before : List Item) {rest : List Item} (visible : StartsVisible rest) :
    Step number text .assignment
      (before ++ .token number :: (gap.map .char ++ .char '=' :: (gap'.map .char ++ rest)))
      (before ++ (text.map .char ++ .char ' ' :: rest))
  | continuation {gap gap' gap'' : List Char} (blank : isBlankText gap = true)
      (blank' : isBlankText gap' = true) (blank'' : isBlankText gap'' = true)
      {before : List Item} (visible : EndsVisible before) (rest : List Item) :
    Step number text .continuation
      (before ++ gap.map .char ++ .char ';' :: gap'.map .char ++
        .token number :: (gap''.map .char ++ .char '=' :: rest))
      (before ++ .char ' ' :: .char '=' :: rest)

theorem Clean.once (isStem : IsStem stem) {number : Nat} {before rest : List Item}
    (clean : Clean stem meaning (before ++ .token number :: rest)) :
    Once (tokenOf stem number) (render stem before) (render stem rest) := by
  intro left right split
  obtain ⟨before', rest', same, rfl, rfl⟩ := clean.split isStem (by simpa using split)
  have distinct := clean.nodup
  simp only [numbers_append, numbers_token, List.nodup_append, List.nodup_cons, mem_numbers] at distinct
  have absent : .token number ∉ before := fun member =>
    distinct.2.2 number member number List.mem_cons_self rfl
  have same := (List.append_cons_inj_of_notMem absent distinct.2.1.1).mp same
  rw [same.1]

theorem tokenOf_ne_nil (stem : List Char) (number : Nat) : tokenOf stem number ≠ [] := by
  simp [tokenOf_eq]

/-- Restoring a placeholder is such a step on the items of a text. -/
theorem Step.restore (isStem : IsStem stem) {p : Placeholder} {number : Nat} {items items' : List Item}
    (clean : Clean stem meaning items) (token : p.token = tokenOf stem number)
    (step : Step number p.text p.kind items items') :
    p.restore (render stem items) = render stem items' := by
  have visible : p.token ≠ [] := token ▸ tokenOf_ne_nil stem number
  generalize same : p.kind = kind at step
  cases step with
  | plain before rest =>
    have once := clean.once isStem
    rw [← token] at once
    simpa [token] using Placeholder.restore_plain same visible once
  | assignment blank blank' before starts =>
    have once := clean.once isStem
    simp only [← token, render_append, render_chars, render_char] at once
    simpa [token] using
      Placeholder.restore_assignment same visible blank blank' (trimStart_render isStem starts) once
  | continuation blank blank' blank'' ends rest =>
    have once := clean.once isStem
    simp only [← token, render_append, render_chars, render_char] at once
    simpa [token] using
      Placeholder.restore_continuation same visible blank blank' blank'' (trimEnd_render ends) once

/-- Items of which the second arise from the first by exchanging tokens for what they stand for,
putting characters that belong to no identifier in the place of others and leaving out the last ones. -/
inductive Looser (meaning : Nat → List Char) : List Item → List Item → Prop where
  | done (dropped : List Item) : Looser meaning dropped []
  | keep (item : Item) {items items' : List Item} (rest : Looser meaning items items') :
    Looser meaning (item :: items) (item :: items')
  | part (dropped : List Item) {c : Char} (separates : isIdentChar c = false) {items items' : List Item}
      (rest : Looser meaning items items') : Looser meaning (dropped ++ items) (.char c :: items')
  | reveal (number : Nat) {items items' : List Item} (rest : Looser meaning items items') :
    Looser meaning (.token number :: items) ((meaning number).map .char ++ items')

namespace Looser

variable {items items' : List Item}

theorem refl (items : List Item) : Looser meaning items items := by
  induction items with
  | nil => exact .done []
  | cons item items ih => exact .keep item ih

theorem append_left (front : List Item) (rest : Looser meaning items items') :
    Looser meaning (front ++ items) (front ++ items') := by
  induction front with
  | nil => exact rest
  | cons item front ih => exact .keep item ih

theorem expand_loosened (looser : Looser meaning items items') :
    ∃ front, front <+: expand meaning items ∧ Loosened isIdentChar front (expand meaning items') := by
  induction looser with
  | done dropped => exact ⟨[], List.nil_prefix, .nil⟩
  | keep item _ ih =>
    obtain ⟨front, starts, loosened⟩ := ih
    rw [expand_cons, expand_cons]
    exact ⟨_, (List.prefix_append_right_inj _).mpr starts, loosened.append_left _⟩
  | part dropped separates _ ih =>
    obtain ⟨front, starts, loosened⟩ := ih
    rw [expand_append]
    exact ⟨_, (List.prefix_append_right_inj _).mpr starts, .part _ separates loosened⟩
  | reveal number _ ih =>
    obtain ⟨front, starts, loosened⟩ := ih
    rw [expand_cons, expand_append, expand_chars]
    exact ⟨_, (List.prefix_append_right_inj _).mpr starts, loosened.append_left _⟩

theorem numbers_sublist (looser : Looser meaning items items') :
    (numbers items').Sublist (numbers items) := by
  induction looser with
  | done dropped => exact List.nil_sublist _
  | keep item _ ih =>
    cases item with
    | char c => exact ih
    | token number => exact ih.cons_cons number
  | part dropped _ _ ih =>
    rw [numbers_append, numbers_char]
    exact ih.trans (List.sublist_append_right _ _)
  | reveal number _ ih =>
    rw [numbers_append, numbers_chars, numbers_token]
    exact ih.cons number

/-- A token that is left was there before, with what followed it made looser. -/
theorem token_split (looser : Looser meaning items items') {before' rest' : List Item} {number : Nat}
    (split : items' = before' ++ .token number :: rest') :
    ∃ before rest, items = before ++ .token number :: rest ∧ Looser meaning rest rest' := by
  induction looser generalizing before' with
  | done dropped => simp at split
  | keep item later ih =>
    rcases List.cons_eq_append_iff.mp split with ⟨rfl, same⟩ | ⟨before', rfl, same⟩
    · cases same
      exact ⟨[], _, rfl, later⟩
    · obtain ⟨before, rest, rfl, looser⟩ := ih same
      exact ⟨item :: before, rest, rfl, looser⟩
  | part dropped _ _ ih =>
    rcases List.cons_eq_append_iff.mp split with ⟨_, same⟩ | ⟨before', rfl, same⟩
    · cases same
    · obtain ⟨before, rest, rfl, looser⟩ := ih same
      exact ⟨dropped ++ before, rest, by simp, looser⟩
  | @reveal revealed items items' later ih =>
    have further {before' : List Item} (same : items' = before' ++ .token number :: rest') :
        ∃ before rest, .token revealed :: items = before ++ .token number :: rest ∧
          Looser meaning rest rest' := by
      obtain ⟨before, rest, rfl, looser⟩ := ih same
      exact ⟨.token revealed :: before, rest, rfl, looser⟩
    rcases List.append_eq_append_iff.mp split with ⟨more, rfl, same⟩ | ⟨more, same, rest⟩
    · exact further same
    · -- the characters that were revealed hold no token
      match more, rest with
      | [], rest => exact @further [] rest.symm
      | item :: more, rest =>
        cases rest
        have member : .token number ∈ (meaning revealed).map Item.char := by simp [same]
        simp at member

theorem clean (isStem : IsStem stem) (looser : Looser meaning items items')
    (clean : Clean stem meaning items) : Clean stem meaning items' := by
  refine ⟨fun occurs => ?_, fun before' number rest' split c first => ?_, ?_⟩
  · obtain ⟨front, starts, loosened⟩ := looser.expand_loosened
    exact clean.fresh ((loosened.isInfix (isIdentChar_of_mem_stem isStem) occurs).trans starts.isInfix)
  · obtain ⟨before, rest, split', looser⟩ := looser.token_split split
    obtain ⟨front, starts, loosened⟩ := looser.expand_loosened
    refine Bool.eq_false_iff.mpr fun start => ?_
    have leads := List.singleton_prefix_iff_head?_eq_some.mpr (loosened.head_of_isIdentStart first start)
    have same := List.singleton_prefix_iff_head?_eq_some.mp (leads.trans starts)
    have stopped := clean.apart before number rest split' c same
    simp [start] at stopped
  · exact clean.nodup.sublist looser.numbers_sublist

end Looser

theorem Step.looser {number : Nat} {text : List Char} {kind : PlaceholderKind} {items items' : List Item}
    (step : Step number text kind items items') (means : meaning number = text) :
    Looser meaning items items' := by
  cases step with
  | plain before rest =>
    rw [← means]
    exact (Looser.reveal number (.refl rest)).append_left before
  | assignment blank blank' before starts =>
    rw [← means]
    refine (Looser.reveal number ?_).append_left before
    rw [← List.cons_append, ← List.append_assoc]
    exact .part _ rfl (.refl _)
  | @continuation gap gap' gap'' _ _ _ before _ rest =>
    have taken : before ++ gap.map .char ++ .char ';' :: gap'.map .char ++
        .token number :: (gap''.map .char ++ .char '=' :: rest) =
        before ++ ((gap.map .char ++ .char ';' :: gap'.map .char ++
          .token number :: gap''.map .char) ++ .char '=' :: rest) := by simp
    rw [taken]
    exact (Looser.part _ rfl (.refl _)).append_left before

end Dialect
