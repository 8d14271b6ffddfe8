import Dialect.Structure.Bracket

/-! Balanced words of brackets, and the stack that recognises them. A closer takes the innermost open bracket
from the stack, whether it fits or not; a word is balanced exactly if every closer fits and nothing stays
open. If only openers are left over, they are those that nothing after them closes. -/
namespace Dialect

inductive Balanced : List Char → Prop where
  | nil : Balanced []
  | wrap {opener : Char} {inner : List Char} (opens : isOpener opener = true) (balanced : Balanced inner) :
    Balanced (opener :: inner ++ [closerOf opener])
  | append {first second : List Char} (left : Balanced first) (right : Balanced second) :
    Balanced (first ++ second)

@[simp] theorem isOpener_closerOf (opener : Char) : isOpener (closerOf opener) = false := by
  rw [closerOf]
  split
  · rfl
  · split <;> rfl

/-- A pair may be put anywhere into a balanced word. -/
theorem Balanced.insert {word : List Char} (balanced : Balanced word) {opener : Char}
    (opens : isOpener opener = true) {front back : List Char} (split : word = front ++ back) :
    Balanced (front ++ opener :: closerOf opener :: back) := by
  have pair : Balanced [opener, closerOf opener] := .wrap opens .nil
  induction balanced generalizing front back with
  | nil =>
    obtain ⟨rfl, rfl⟩ := List.append_eq_nil_iff.mp split.symm
    exact pair
  | @wrap outer inner outerOpens balanced ih =>
    rcases front with _ | ⟨first, front⟩
    · have whole := Balanced.append pair (.wrap outerOpens balanced)
      rw [split] at whole
      exact whole
    · rw [List.cons_append, List.cons_append] at split
      obtain ⟨rfl, inside⟩ := List.cons.inj split
      rcases List.eq_nil_or_concat back with rfl | ⟨back, last, rfl⟩
      · have whole := Balanced.append (.wrap outerOpens balanced) pair
        rw [List.cons_append, inside] at whole
        simpa using whole
      · rw [List.concat_eq_append, ← List.append_assoc] at inside
        obtain ⟨inside, same⟩ := List.append_inj' inside rfl
        have whole := Balanced.wrap outerOpens (ih inside)
        rw [List.singleton_inj.mp same] at whole
        simpa using whole
  | append left right ihLeft ihRight =>
    rcases List.append_eq_append_iff.mp split with ⟨more, rfl, rest⟩ | ⟨more, rest, rfl⟩
    · rw [List.append_assoc]
      exact .append left (ihRight rest)
    · have whole := Balanced.append (ihLeft rest) right
      simpa using whole

namespace Bracket

/-- What is open after a word, the innermost first, if `stack` was open before it. -/
def openAfter (stack : List Bracket) : List Bracket → List Bracket
  | [] => stack
  | b :: rest => if isOpener b.char then openAfter (b :: stack) rest else openAfter stack.tail rest

def fits (stack : List Bracket) (b : Bracket) : Bool :=
  stack.head?.any fun opener => closerOf opener.char == b.char

/-- The closers of a word that do not fit the innermost open bracket. -/
def strays (stack : List Bracket) : List Bracket → List Bracket
  | [] => []
  | b :: rest =>
    if isOpener b.char then strays (b :: stack) rest
    else if fits stack b then strays stack.tail rest
    else b :: strays stack.tail rest

variable {stack word : List Bracket} {b : Bracket}

theorem openAfter_opener (opens : isOpener b.char = true) :
    openAfter stack (b :: word) = openAfter (b :: stack) word := by rw [openAfter, if_pos opens]

theorem openAfter_closer (closes : isOpener b.char = false) :
    openAfter stack (b :: word) = openAfter stack.tail word := by simp [openAfter, closes]

theorem strays_opener (opens : isOpener b.char = true) :
    strays stack (b :: word) = strays (b :: stack) word := by rw [strays, if_pos opens]

theorem strays_fits (closes : isOpener b.char = false) (fit : fits stack b = true) :
    strays stack (b :: word) = strays stack.tail word := by simp [strays, closes, fit]

theorem strays_misfit (closes : isOpener b.char = false) (misfit : fits stack b = false) :
    strays stack (b :: word) = b :: strays stack.tail word := by simp [strays, closes, misfit]

theorem openAfter_append (stack first second : List Bracket) :
    openAfter stack (first ++ second) = openAfter (openAfter stack first) second := by
  induction first generalizing stack with
  | nil => rfl
  | cons b first ih =>
    rw [List.cons_append, openAfter, openAfter]
    split <;> exact ih _

theorem strays_append (stack first second : List Bracket) :
    strays stack (first ++ second) = strays stack first ++ strays (openAfter stack first) second := by
  induction first generalizing stack with
  | nil => rfl
  | cons b first ih =>
    rw [List.cons_append, strays, strays, openAfter]
    split
    · exact ih _
    · split
      · exact ih _
      · rw [ih, List.cons_append]

/-- Whatever is reported was open before or stands in the word. -/
theorem mem_of_mem_strays_append (stack word : List Bracket) :
    ∀ b ∈ strays stack word ++ openAfter stack word, b ∈ stack ++ word := by
  induction word generalizing stack with
  | nil => simp [strays, openAfter]
  | cons c word ih =>
    intro b member
    by_cases opens : isOpener c.char = true
    · rw [strays_opener opens, openAfter_opener opens] at member
      exact List.perm_middle.mem_iff.mpr (ih (c :: stack) b member)
    · have closes := Bool.eq_false_iff.mpr opens
      have later : b ∈ strays stack.tail word ++ openAfter stack.tail word → b ∈ stack ++ c :: word := by
        intro member
        rcases List.mem_append.mp (ih stack.tail b member) with old | new
        · exact List.mem_append_left _ (List.mem_of_mem_tail old)
        · exact List.mem_append_right _ (List.mem_cons_of_mem c new)
      cases fit : fits stack c with
      | true =>
        rw [strays_fits closes fit, openAfter_closer closes] at member
        exact later member
      | false =>
        rw [strays_misfit closes fit, openAfter_closer closes, List.cons_append] at member
        rcases List.mem_cons.mp member with rfl | member
        · exact List.mem_append_right _ List.mem_cons_self
        · exact later member

theorem nodup_strays_append {α : Type} (place : Bracket → α) (stack word : List Bracket)
    (distinct : ((stack ++ word).map place).Nodup) :
    ((strays stack word ++ openAfter stack word).map place).Nodup := by
  induction word generalizing stack with
  | nil => simpa [strays, openAfter] using distinct
  | cons c word ih =>
    by_cases opens : isOpener c.char = true
    · rw [strays_opener opens, openAfter_opener opens]
      refine ih (c :: stack) (((List.Perm.map place ?_).nodup_iff).mp distinct)
      exact List.perm_middle
    · have closes := Bool.eq_false_iff.mpr opens
      have kept : (stack.tail ++ word).Sublist (stack ++ word) := (List.tail_sublist stack).append_right word
      have moved : ((c :: (stack ++ word)).map place).Nodup :=
        ((List.perm_middle.map place).nodup_iff).mp distinct
      obtain ⟨fresh, distinct⟩ := List.nodup_cons.mp moved
      have ih := ih stack.tail ((kept.map place).nodup distinct)
      rw [openAfter_closer closes]
      cases fit : fits stack c with
      | true =>
        rw [strays_fits closes fit]
        exact ih
      | false =>
        rw [strays_misfit closes fit, List.cons_append, List.map_cons, List.nodup_cons]
        refine ⟨fun again => fresh ?_, ih⟩
        obtain ⟨other, member, same⟩ := List.mem_map.mp again
        rw [← same]
        exact List.mem_map_of_mem (kept.subset (mem_of_mem_strays_append _ _ other member))

theorem openAfter_balanced {letters : List Char} (balanced : Balanced letters) {word : List Bracket}
    (spelled : word.map (·.char) = letters) (stack : List Bracket) :
    openAfter stack word = stack ∧ strays stack word = [] := by
  induction balanced generalizing word stack with
  | nil =>
    rw [List.map_eq_nil_iff.mp spelled]
    exact ⟨rfl, rfl⟩
  | wrap opens balanced ih =>
    rw [List.cons_append] at spelled
    obtain ⟨b, rest, rfl, rfl, spelledRest⟩ := List.map_eq_cons_iff.mp spelled
    obtain ⟨inner, last, rfl, spelledInner, closed⟩ := List.map_eq_append_iff.mp spelledRest
    obtain ⟨c, nothing, rfl, close, empty⟩ := List.map_eq_cons_iff.mp closed
    obtain rfl := List.map_eq_nil_iff.mp empty
    obtain ⟨same, quiet⟩ := ih spelledInner (b :: stack)
    have closes : isOpener c.char = false := by rw [close, isOpener_closerOf]
    have fit : fits (b :: stack) c = true := by simp [fits, close]
    rw [openAfter_opener opens, strays_opener opens, openAfter_append, strays_append, same, quiet,
      openAfter_closer closes, strays_fits closes fit]
    exact ⟨rfl, rfl⟩
  | append left right ihLeft ihRight =>
    obtain ⟨first, second, rfl, spelledFirst, spelledSecond⟩ := List.map_eq_append_iff.mp spelled
    obtain ⟨same, quiet⟩ := ihLeft spelledFirst stack
    rw [openAfter_append, strays_append, same, quiet, List.nil_append]
    exact ihRight spelledSecond stack

/-- If every closer fits and nothing stays open, the word closes what was open before. -/
theorem balanced_of_strays (stack word : List Bracket) (openers : ∀ b ∈ stack, isOpener b.char = true)
    (quiet : strays stack word = []) (closed : openAfter stack word = []) :
    Balanced ((stack.reverse ++ word).map (·.char)) := by
  induction word generalizing stack with
  | nil =>
    rw [show stack = [] from closed]
    exact .nil
  | cons b word ih =>
    by_cases opens : isOpener b.char = true
    · rw [strays_opener opens] at quiet
      rw [openAfter_opener opens] at closed
      have openers : ∀ c ∈ b :: stack, isOpener c.char = true := by
        intro c member
        rcases List.mem_cons.mp member with rfl | old
        · exact opens
        · exact openers c old
      simpa using ih (b :: stack) openers quiet closed
    · have closes := Bool.eq_false_iff.mpr opens
      cases fit : fits stack b with
      | false =>
        rw [strays_misfit closes fit] at quiet
        cases quiet
      | true =>
        rw [strays_fits closes fit] at quiet
        rw [openAfter_closer closes] at closed
        rcases stack with _ | ⟨opener, stack⟩
        · cases fit
        have close : closerOf opener.char = b.char := by simpa [fits] using fit
        have inner := ih stack (fun c member => openers c (List.mem_cons_of_mem _ member)) quiet closed
        rw [List.map_append] at inner
        have whole := inner.insert (openers opener List.mem_cons_self) rfl
        rw [close] at whole
        simpa using whole

theorem balanced_iff (word : List Bracket) :
    Balanced (word.map (·.char)) ↔ strays [] word = [] ∧ openAfter [] word = [] := by
  constructor
  · intro balanced
    exact (openAfter_balanced balanced rfl []).symm
  · rintro ⟨quiet, closed⟩
    exact balanced_of_strays [] word (by simp) quiet closed

end Bracket

instance decidableBalanced (letters : List Char) : Decidable (Balanced letters) :=
  decidable_of_iff
    (Bracket.strays [] (letters.map (Bracket.mk · 0 0)) = [] ∧
      Bracket.openAfter [] (letters.map (Bracket.mk · 0 0)) = [])
    (by rw [← Bracket.balanced_iff, List.map_map]; exact iff_of_eq (congrArg Balanced (List.map_id letters)))

/-- What follows an opener closes it: a closer that fits stands there after a balanced word. -/
def ClosedIn (opener : Char) (letters : List Char) : Prop :=
  ∃ inner after, Balanced inner ∧ letters = inner ++ closerOf opener :: after

instance decidableClosedIn (opener : Char) (letters : List Char) : Decidable (ClosedIn opener letters) :=
  decidable_of_iff
    (∃ place ∈ List.range letters.length,
      Balanced (letters.take place) ∧ letters[place]? = some (closerOf opener)) <| by
    constructor
    · rintro ⟨place, _, balanced, close⟩
      refine ⟨letters.take place, letters.drop (place + 1), balanced, ?_⟩
      obtain ⟨inside, close⟩ := List.getElem?_eq_some_iff.mp close
      rw [← close, List.getElem_cons_drop, List.take_append_drop]
    · rintro ⟨inner, after, balanced, rfl⟩
      exact ⟨inner.length, by simp, by simpa using balanced, by simp⟩

namespace Bracket

/-- The openers of a word that nothing after them closes, in order. -/
def unmatched : List Bracket → List Bracket
  | [] => []
  | b :: rest =>
    if isOpener b.char = true ∧ ¬ClosedIn b.char (rest.map (·.char)) then b :: unmatched rest else unmatched rest

variable {word : List Bracket} {b : Bracket}

theorem unmatched_closer (closes : isOpener b.char = false) : unmatched (b :: word) = unmatched word := by
  simp [unmatched, closes]

theorem unmatched_closed (closed : ClosedIn b.char (word.map (·.char))) :
    unmatched (b :: word) = unmatched word := by
  simp [unmatched, closed]

theorem unmatched_open (opens : isOpener b.char = true) (left : ¬ClosedIn b.char (word.map (·.char))) :
    unmatched (b :: word) = b :: unmatched word := by
  simp [unmatched, opens, left]

/-- A balanced word has no unmatched opener, whatever follows it. -/
theorem unmatched_balanced {letters : List Char} (balanced : Balanced letters) {word : List Bracket}
    (spelled : word.map (·.char) = letters) (rest : List Bracket) :
    unmatched (word ++ rest) = unmatched rest := by
  induction balanced generalizing word rest with
  | nil =>
    rw [List.map_eq_nil_iff.mp spelled, List.nil_append]
  | @wrap _ letters _ balanced ih =>
    rw [List.cons_append] at spelled
    obtain ⟨b, more, rfl, rfl, spelledMore⟩ := List.map_eq_cons_iff.mp spelled
    obtain ⟨inner, last, rfl, spelledInner, closed⟩ := List.map_eq_append_iff.mp spelledMore
    obtain ⟨c, nothing, rfl, close, empty⟩ := List.map_eq_cons_iff.mp closed
    obtain rfl := List.map_eq_nil_iff.mp empty
    have closed : ClosedIn b.char ((inner ++ [c] ++ rest).map (·.char)) :=
      ⟨letters, rest.map (·.char), balanced, by simp [spelledInner, close]⟩
    rw [List.cons_append, unmatched_closed closed, List.append_assoc, ih spelledInner, List.singleton_append,
      unmatched_closer (by rw [close, isOpener_closerOf])]
  | append _ _ ihLeft ihRight =>
    obtain ⟨first, second, rfl, spelledFirst, spelledSecond⟩ := List.map_eq_append_iff.mp spelled
    rw [List.append_assoc, ihLeft spelledFirst, ihRight spelledSecond]

/-- The outermost open bracket stays open, or some closer of the word takes it after a balanced word. -/
theorem openAfter_concat (stack word : List Bracket) (bottom : Bracket)
    (quiet : strays (stack ++ [bottom]) word = []) :
    (strays stack word = [] ∧ openAfter (stack ++ [bottom]) word = openAfter stack word ++ [bottom]) ∨
      ∃ front b back, word = front ++ b :: back ∧ b.char = closerOf bottom.char ∧
        strays stack front = [] ∧ openAfter stack front = [] := by
  induction word generalizing stack with
  | nil => exact .inl ⟨rfl, rfl⟩
  | cons b word ih =>
    by_cases opens : isOpener b.char = true
    · rw [strays_opener opens, ← List.cons_append] at quiet
      rw [strays_opener opens, openAfter_opener opens, openAfter_opener opens, ← List.cons_append]
      rcases ih (b :: stack) quiet with stays | ⟨front, c, back, rfl, close, calm, closed⟩
      · exact .inl stays
      · refine .inr ⟨b :: front, c, back, rfl, close, ?_, ?_⟩
        · rwa [strays_opener opens]
        · rwa [openAfter_opener opens]
    · have closes := Bool.eq_false_iff.mpr opens
      cases fit : fits (stack ++ [bottom]) b with
      | false =>
        rw [strays_misfit closes fit] at quiet
        cases quiet
      | true =>
        rw [strays_fits closes fit] at quiet
        rcases stack with _ | ⟨top, stack⟩
        · refine .inr ⟨[], b, word, rfl, ?_, rfl, rfl⟩
          exact (beq_iff_eq.mp fit).symm
        · have fit : fits (top :: stack) b = true := fit
          rw [strays_fits closes fit, openAfter_closer closes, openAfter_closer closes]
          rcases ih stack quiet with stays | ⟨front, c, back, rfl, close, calm, closed⟩
          · exact .inl stays
          · refine .inr ⟨b :: front, c, back, rfl, close, ?_, ?_⟩
            · rwa [strays_fits closes fit]
            · rwa [openAfter_closer closes]

/-- Where no closer is stray, the openers that are left are those that nothing closes. -/
theorem openAfter_eq_unmatched (word : List Bracket) (quiet : strays [] word = []) :
    openAfter [] word = (unmatched word).reverse := by
  induction size : word.length using Nat.strongRecOn generalizing word with
  | ind size ih =>
    rcases word with _ | ⟨b, word⟩
    · rfl
    have smaller {other : List Bracket} (shorter : other.length ≤ word.length) (quiet : strays [] other = []) :
        openAfter [] other = (unmatched other).reverse := by
      refine ih other.length ?_ other quiet rfl
      rw [← size, List.length_cons]
      omega
    by_cases opens : isOpener b.char = true
    · rw [strays_opener opens] at quiet
      rw [openAfter_opener opens]
      rcases openAfter_concat [] word b quiet with ⟨calm, stays⟩ | ⟨front, c, back, rfl, close, calm, closed⟩
      · have left : ¬ClosedIn b.char (word.map (·.char)) := by
          -- the closer that would take it is stray where nothing else is open
          rintro ⟨inner, after, balanced, spelled⟩
          obtain ⟨front, last, rfl, spelledFront, spelledLast⟩ := List.map_eq_append_iff.mp spelled
          obtain ⟨c, back, rfl, close, _⟩ := List.map_eq_cons_iff.mp spelledLast
          obtain ⟨same, _⟩ := openAfter_balanced balanced spelledFront []
          rw [strays_append, same, strays_misfit (by rw [close, isOpener_closerOf]) rfl] at calm
          simp at calm
        rw [unmatched_open opens left, List.reverse_cons, ← smaller (Nat.le_refl _) calm]
        exact stays
      · have balanced := (balanced_iff front).mpr ⟨calm, closed⟩
        have closes : isOpener c.char = false := by rw [close, isOpener_closerOf]
        have fit : fits [b] c = true := by simp [fits, close]
        obtain ⟨same, _⟩ := openAfter_balanced balanced rfl [b]
        have closedIn : ClosedIn b.char ((front ++ c :: back).map (·.char)) :=
          ⟨front.map (·.char), back.map (·.char), balanced, by simp [close]⟩
        rw [strays_append, same, strays_fits closes fit] at quiet
        rw [openAfter_append, same, openAfter_closer closes, unmatched_closed closedIn,
          unmatched_balanced balanced rfl, unmatched_closer closes]
        refine smaller ?_ (List.append_eq_nil_iff.mp quiet).2
        rw [List.length_append, List.length_cons]
        omega
    · have closes := Bool.eq_false_iff.mpr opens
      rw [strays_misfit closes rfl] at quiet
      cases quiet

end Bracket

end Dialect
