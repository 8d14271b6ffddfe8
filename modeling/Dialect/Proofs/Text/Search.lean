import Dialect.Text.Search

/-! What the searches of a text find. A find stands where the pattern recognised it, with the right
character before it, and later finds start after it. -/
namespace Dialect

theorem after?_eq_some_iff {word text rest : List Char} :
    after? word text = some rest ↔ text = word ++ rest := by
  induction word generalizing text with
  | nil => simp [after?, eq_comm]
  | cons w word ih =>
    cases text with
    | nil => simp [after?]
    | cons c text =>
      simp only [after?, List.cons_append, List.cons.injEq]
      split
      · next same => simp [same, ih]
      · next other => simp [Ne.symm other]

theorem after?_append (word rest : List Char) : after? word (word ++ rest) = some rest :=
  after?_eq_some_iff.mpr rfl

theorem startsWith_iff {word text : List Char} : startsWith word text = true ↔ word <+: text :=
  List.isPrefixOf_iff_prefix

theorem occursIn_iff {word text : List Char} : occursIn word text = true ↔ word <:+: text := by
  induction text with
  | nil => simp [occursIn]
  | cons c rest ih => simp [occursIn, startsWith_iff, ih, List.infix_cons_iff]

theorem takeWhile_append_drop (p : Char → Bool) (text : List Char) :
    text.takeWhile p ++ text.drop (text.takeWhile p).length = text := by
  induction text with
  | nil => rfl
  | cons c rest ih => cases kept : p c <;> simp [kept, ih]

theorem of_mem_takeWhile {p : Char → Bool} {text : List Char} {c : Char}
    (member : c ∈ text.takeWhile p) : p c = true := List.all_eq_true.mp List.all_takeWhile c member

/-- A run goes up to the first character that does not belong to it. -/
theorem takeWhile_append_stopped {p : Char → Bool} {run rest : List Char} (kept : ∀ c ∈ run, p c = true)
    (stopped : rest.head?.any p = false) : (run ++ rest).takeWhile p = run := by
  rw [List.takeWhile_append_of_pos kept]
  cases rest with
  | nil => rw [List.takeWhile_nil, List.append_nil]
  | cons c rest => rw [List.takeWhile_cons_of_neg (by simpa using stopped), List.append_nil]

theorem append_eq_append_cons_of_not_mem {α : Type} {front rest before after : List α} {c : α} (absent : c ∉ front)
    (split : front ++ rest = before ++ c :: after) :
    ∃ more, before = front ++ more ∧ rest = more ++ c :: after := by
  rcases List.append_eq_append_iff.mp split with ⟨more, rfl, rest⟩ | ⟨more, rfl, rest⟩
  · exact ⟨more, rfl, rest⟩
  · cases more with
    | nil => exact ⟨[], by simp, by simpa using rest.symm⟩
    | cons d more =>
      cases rest
      simp at absent

theorem exists_append_cons {text : List Char} {index : Nat} (inside : index < text.length) :
    ∃ before c rest, text = before ++ c :: rest ∧ before.length = index :=
  ⟨text.take index, text[index], text.drop (index + 1), by simp, List.length_take_of_le (Nat.le_of_lt inside)⟩

namespace Span

theorem length_slice {span : Span} {text : List Char} (inside : span.stop ≤ text.length) :
    (span.slice text).length = span.stop - span.start := by
  simp only [slice, List.length_take, List.length_drop]
  omega

theorem getElem?_slice (span : Span) (text : List Char) (index : Nat) :
    (span.slice text)[index]? =
      if index < span.stop - span.start then text[span.start + index]? else none := by
  simp only [slice, List.getElem?_take, List.getElem?_drop]

theorem slice_append_drop (span : Span) (text : List Char) (ordered : span.start ≤ span.stop) :
    span.slice text ++ text.drop span.stop = text.drop span.start := by
  have split := List.take_append_drop (span.stop - span.start) (text.drop span.start)
  rwa [List.drop_drop, Nat.add_sub_cancel' ordered] at split

/-- A stretch that starts where `matched` stands and is as long covers it. -/
theorem of_drop_eq {span : Span} {text matched rest : List Char}
    (split : text.drop span.start = matched ++ rest) (length : span.stop = span.start + matched.length) :
    span.slice text = matched ∧ text.drop span.stop = rest ∧
      (matched ≠ [] → span.stop ≤ text.length) := by
  refine ⟨by simp [slice, split, length], ?_, fun nonempty => ?_⟩
  · rw [length, ← List.drop_drop, split, List.drop_left]
  · have total := congrArg List.length split
    have positive := List.length_pos_iff.mpr nonempty
    simp only [List.length_drop, List.length_append] at total
    omega

end Span

section Find

variable {α : Type} {pattern : Option Char → List Char → Option (α × Nat)}

/-- Nothing is found among the characters to be skipped. -/
theorem le_start_of_mem_findFrom {before : Option Char} {skip index : Nat} {rest : List Char}
    {found : Found α} (member : found ∈ findFrom pattern before skip index rest) :
    index + skip ≤ found.span.start := by
  induction rest generalizing before skip index with
  | nil => simp [findFrom] at member
  | cons c rest ih =>
    cases skip with
    | succ skip =>
      have low := ih (by simpa [findFrom] using member)
      omega
    | zero =>
      rw [findFrom] at member
      split at member
      · rcases List.mem_cons.mp member with rfl | more
        · exact Nat.le_refl _
        · have low := ih more
          omega
      · have low := ih member
        omega

theorem findFrom_ordered (before : Option Char) (skip index : Nat) (rest : List Char) :
    (findFrom pattern before skip index rest).Pairwise (fun a b => a.span.stop ≤ b.span.start) := by
  induction rest generalizing before skip index with
  | nil => exact .nil
  | cons c rest ih =>
    cases skip with
    | succ skip => exact ih ..
    | zero =>
      rw [findFrom]
      split
      · refine List.pairwise_cons.mpr ⟨fun found member => ?_, ih ..⟩
        have low := le_start_of_mem_findFrom member
        show index + _ + 1 ≤ _
        omega
      · exact ih ..

/-- The pattern recognised every find at its place, after what stands before it. -/
theorem recognised_of_mem_findFrom (done rest : List Char) (skip : Nat) {found : Found α}
    (member : found ∈ findFrom pattern done.getLast? skip done.length rest) :
    found.span.start < (done ++ rest).length ∧ found.span.start < found.span.stop ∧
    pattern ((done ++ rest).take found.span.start).getLast? ((done ++ rest).drop found.span.start) =
      some (found.value, found.span.stop - found.span.start) := by
  induction rest generalizing done skip with
  | nil => simp [findFrom] at member
  | cons c rest ih =>
    have later (skip : Nat)
        (more : found ∈ findFrom pattern (some c) skip (done.length + 1) rest) :=
      ih (done ++ [c]) skip (by simpa using more)
    simp only [List.append_assoc, List.singleton_append] at later
    cases skip with
    | succ skip => exact later skip (by simpa [findFrom] using member)
    | zero =>
      rw [findFrom] at member
      split at member
      · next value taken recognised =>
        rcases List.mem_cons.mp member with rfl | more
        · refine ⟨by simp, Nat.lt_add_of_pos_right (Nat.succ_pos _), ?_⟩
          simp only [List.take_left, List.drop_left, recognised, Option.some.injEq, Prod.mk.injEq,
            true_and]
          omega
        · exact later _ more
      · exact later _ member

theorem mem_findAll {text : List Char} {found : Found α} (member : found ∈ findAll pattern text) :
    found.span.start < text.length ∧ found.span.start < found.span.stop ∧
    pattern (text.take found.span.start).getLast? (text.drop found.span.start) =
      some (found.value, found.span.stop - found.span.start) := by
  simpa using recognised_of_mem_findFrom [] text 0 member

theorem findAll_ordered (text : List Char) :
    (findAll pattern text).Pairwise (fun a b => a.span.stop ≤ b.span.start) := findFrom_ordered ..

/-- What the pattern recognises is found, unless it stands in something found before it. -/
theorem findFrom_complete {done front here : List Char} {skip taken : Nat} {value : α} (filled : here ≠ [])
    (passed : skip ≤ front.length) (recognised : pattern (done ++ front).getLast? here = some (value, taken + 1))
    (free : ∀ a b, front = a ++ b → b ≠ [] → ∀ earlier taken',
      pattern (done ++ a).getLast? (b ++ here) = some (earlier, taken') → taken' ≤ b.length) :
    ⟨⟨(done ++ front).length, (done ++ front).length + taken + 1⟩, value⟩ ∈
      findFrom pattern done.getLast? skip done.length (front ++ here) := by
  induction front generalizing done skip with
  | nil =>
    obtain rfl : skip = 0 := Nat.le_zero.mp passed
    obtain ⟨c, rest, rfl⟩ := List.exists_cons_of_ne_nil filled
    rw [List.append_nil] at recognised ⊢
    rw [List.nil_append, findFrom, recognised]
    exact List.mem_cons_self
  | cons c front ih =>
    have later (skip : Nat) (passed : skip ≤ front.length) :=
      @ih (done ++ [c]) skip passed (by simpa using recognised) fun a b split => by
        simpa using free (c :: a) b (by simp [split])
    simp only [List.append_assoc, List.singleton_append, List.length_append, List.length_singleton,
      List.getLast?_concat] at later
    rw [List.length_append, List.cons_append]
    cases skip with
    | succ skip => exact later skip (Nat.le_of_succ_le_succ passed)
    | zero =>
      rw [findFrom]
      split
      · next earlier taken' known =>
        have short := free [] (c :: front) rfl (List.cons_ne_nil _ _) earlier (taken' + 1) (by simpa using known)
        exact List.mem_cons_of_mem _ (later taken' (Nat.le_of_succ_le_succ short))
      · exact later 0 (Nat.zero_le _)

theorem findAll_complete {front here : List Char} {taken : Nat} {value : α} (filled : here ≠ [])
    (recognised : pattern front.getLast? here = some (value, taken + 1))
    (free : ∀ a b, front = a ++ b → b ≠ [] → ∀ earlier taken',
      pattern a.getLast? (b ++ here) = some (earlier, taken') → taken' ≤ b.length) :
    ⟨⟨front.length, front.length + taken + 1⟩, value⟩ ∈ findAll pattern (front ++ here) :=
  @findFrom_complete α pattern [] front here 0 taken value filled (Nat.zero_le _) recognised free

end Find

theorem replaceFrom_skip (rule : List Char → Option (List Char × Nat)) (front back : List Char) :
    replaceFrom rule front.length (front ++ back) = replaceFrom rule 0 back := by
  induction front with
  | nil => rfl
  | cons c front ih => rw [List.cons_append, List.length_cons, replaceFrom, ih]

theorem replaceFrom_pass {rule : List Char → Option (List Char × Nat)} {front back : List Char}
    (quiet : ∀ before rest, front = before ++ rest → rest ≠ [] → rule (rest ++ back) = none) :
    replaceFrom rule 0 (front ++ back) = front ++ replaceFrom rule 0 back := by
  induction front with
  | nil => rfl
  | cons c front ih =>
    have here : rule (c :: (front ++ back)) = none := quiet [] (c :: front) rfl (by simp)
    rw [List.cons_append, replaceFrom, here, List.cons_append]
    simp only
    rw [ih fun before rest split => quiet (c :: before) rest (by rw [split, List.cons_append])]

/-- The second text arises from the first by putting characters that are not `kept` in the place of
stretches of any length. -/
inductive Loosened (kept : Char → Bool) : List Char → List Char → Prop where
  | nil : Loosened kept [] []
  | keep (c : Char) {a b : List Char} (rest : Loosened kept a b) : Loosened kept (c :: a) (c :: b)
  | part (dropped : List Char) {c : Char} (separates : kept c = false) {a b : List Char}
      (rest : Loosened kept a b) : Loosened kept (dropped ++ a) (c :: b)

namespace Loosened

variable {kept : Char → Bool} {a b : List Char}

theorem append_left (front : List Char) (rest : Loosened kept a b) :
    Loosened kept (front ++ a) (front ++ b) := by
  induction front with
  | nil => exact rest
  | cons c front ih => exact .keep c ih

theorem refl (text : List Char) : Loosened kept text text := by
  simpa using append_left text .nil

theorem append (first : Loosened kept a b) {a' b' : List Char} (second : Loosened kept a' b') :
    Loosened kept (a ++ a') (b ++ b') := by
  induction first with
  | nil => exact second
  | keep c _ ih => exact .keep c ih
  | part dropped separates _ ih =>
    rw [List.append_assoc]
    exact .part dropped separates ih

/-- Separators put in the place of a stretch. -/
theorem replace {dropped added : List Char} (nonempty : added ≠ [])
    (separate : ∀ c ∈ added, kept c = false) : Loosened kept dropped added := by
  have inserted {added : List Char} (separate : ∀ c ∈ added, kept c = false) : Loosened kept [] added := by
    induction added with
    | nil => exact .nil
    | cons c added ih =>
      exact .part [] (separate c List.mem_cons_self) (ih fun d member => separate d (List.mem_cons_of_mem c member))
  obtain ⟨c, more, rfl⟩ := List.exists_cons_of_ne_nil nonempty
  rw [← List.append_nil dropped]
  exact .part dropped (separate c List.mem_cons_self)
    (inserted fun d member => separate d (List.mem_cons_of_mem c member))

/-- A word of kept characters that starts the looser text started the other one. -/
theorem isPrefix (loosened : Loosened kept a b) {word : List Char} (all : ∀ c ∈ word, kept c = true)
    (starts : word <+: b) : word <+: a := by
  induction loosened generalizing word with
  | nil => exact starts
  | keep c _ ih =>
    match word with
    | [] => exact List.nil_prefix
    | d :: word =>
      obtain ⟨rfl, more⟩ := List.cons_prefix_cons.mp starts
      exact List.cons_prefix_cons.mpr ⟨rfl, ih (fun e member => all e (List.mem_cons_of_mem _ member)) more⟩
  | part dropped separates _ _ =>
    match word with
    | [] => exact List.nil_prefix
    | d :: word =>
      obtain ⟨rfl, _⟩ := List.cons_prefix_cons.mp starts
      simp [all d List.mem_cons_self] at separates

/-- Loosening makes no new word of kept characters. -/
theorem isInfix (loosened : Loosened kept a b) {word : List Char} (all : ∀ c ∈ word, kept c = true)
    (occurs : word <:+: b) : word <:+: a := by
  induction loosened with
  | nil => exact occurs
  | keep c rest ih =>
    rcases List.infix_cons_iff.mp occurs with starts | later
    · exact ((Loosened.keep c rest).isPrefix all starts).isInfix
    · exact (ih later).trans (List.infix_cons (List.infix_refl _))
  | part dropped separates rest ih =>
    rcases List.infix_cons_iff.mp occurs with starts | later
    · exact ((Loosened.part dropped separates rest).isPrefix all starts).isInfix
    · exact (ih later).trans ⟨dropped, [], by simp⟩

end Loosened

end Dialect
