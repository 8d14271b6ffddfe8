import Dialect.Proofs.Code.Seam
import Dialect.Proofs.Declaration.Spelling
import Dialect.Proofs.Declaration.Verdict

/-! What the check says of a text with a comment more at the end of a line. The searches for the `=` and the `;`
pass the comment; the search for quoted words and the check of the value do not, nor does the search for heads at
its ends. Where the comment gives these nothing to read, the check says the same. -/
namespace Dialect

theorem sameAhead_quotedWord? (front tail : List Char) {extra : List Char} (plain : '"' ∉ extra) :
    SameAhead quotedWord? front tail (extra ++ tail) := by
  intro before here filled _ within
  obtain ⟨c, here, rfl⟩ := List.exists_cons_of_ne_nil filled
  rw [List.cons_append] at within
  rw [List.cons_append, List.cons_append]
  by_cases quote : c = '"'
  · subst quote
    by_cases closed : '"' ∈ here
    · obtain ⟨word, rest, rfl, bare⟩ := List.eq_append_cons_of_mem closed
      simp only [List.append_assoc, List.cons_append, quotedWord?_closed bare]
    · have bare : '"' ∉ tail := by
        intro member
        obtain ⟨word, rest, rfl, bare⟩ := List.eq_append_cons_of_mem member
        have long := within (here ++ word) ((here ++ word).length + 2) (by
          rw [← List.append_assoc]
          exact quotedWord?_closed (by simp [closed, bare]) before rest)
        simp only [List.length_append, List.length_cons] at long
        omega
      have none : '"' ∉ here ++ tail ∧ '"' ∉ here ++ (extra ++ tail) := by
        simp only [List.mem_append, not_or]
        exact ⟨⟨closed, bare⟩, closed, plain, bare⟩
      rw [quotedWord?_open none.1, quotedWord?_open none.2]
  · rw [quotedWord?_ne quote, quotedWord?_ne quote]

/-- The words are the same, if none goes over the place of the comment. -/
theorem quotedWords_comment {front tail extra : List Char} (plain : '"' ∉ extra)
    (parts : ∀ word ∈ findAll quotedWord? (front ++ tail),
      word.span.stop ≤ front.length ∨ front.length ≤ word.span.start) :
    quotedWords (front ++ (extra ++ tail)) = quotedWords (front ++ tail) := by
  obtain ⟨finds, _, same⟩ := @findFrom_seam _ quotedWord? front tail none 0 0 (Nat.zero_le _)
    fun word member low => by
      have apart := parts word member
      omega
  have lead (before before' : Option Char) (index : Nat) :
      findFrom quotedWord? before 0 index tail = findFrom quotedWord? before' 0 index tail :=
    findFrom_before (show quotedWord? before tail = quotedWord? before' tail from rfl) index
  have quiet : ∀ before c rest, c ∈ extra → quotedWord? before (c :: rest) = none := fun before c rest member =>
    quotedWord?_ne (fun quote => plain (quote ▸ member)) before rest
  rw [quotedWords, quotedWords, findAll, findAll, same _ (sameAhead_quotedWord? front tail plain),
    same _ (.refl front tail), findFrom_quiet quiet, findFrom_shift, lead _ (front.getLast?.or none)]
  simp [Found.shift, Function.comp_def]

theorem isCommented_newline (above line : List Char) :
    isCommented (above ++ '\n' :: line) = isCommented line := by
  rw [isCommented, lineBefore_newline, isCommented]

theorem isCommented_comment (before : List Char) {comment : List Char} {b : Char} (single : '\n' ∉ b :: comment) :
    isCommented (before ++ b :: commentMarker :: comment) = true := by
  have marker : '\n' ≠ commentMarker := by decide
  have line : '\n' ∉ b :: commentMarker :: comment := by
    simp only [List.mem_cons, not_or] at single ⊢
    exact ⟨single.1, marker, single.2⟩
  rw [isCommented, lineBefore_append line]
  simp

section Displaced

variable {front extra after : List Char} {place : Nat}

theorem take_displaced (low : front.length ≤ place) : (front ++ (extra ++ after)).take (place + extra.length) =
    front ++ (extra ++ after.take (place - front.length)) := by
  rw [show place + extra.length = front.length + (extra.length + (place - front.length)) by omega,
    List.take_length_add_append, List.take_length_add_append]

theorem drop_displaced (low : front.length ≤ place) :
    (front ++ (extra ++ after)).drop (place + extra.length) = (front ++ after).drop place := by
  rw [show place + extra.length = front.length + (extra.length + (place - front.length)) by omega,
    List.drop_length_add_append, List.drop_length_add_append, List.drop_append, List.drop_of_length_le low,
    List.nil_append]

end Displaced

section Verdict

variable {front after comment : List Char} {b : Char}

theorem endsWord_of_endsLine (last : endsLine after = true) : endsWord after = true := by
  cases after with
  | nil => rfl
  | cons c after => simp [endsWord, isWordChar_eq_false_of_isBlank (head?_take_endsLine last 1)]

/-- What the check reads between a head and the place of a comment, and behind it, does not come to matter. -/
structure Head.Allows (head : Head) (front after comment : List Char) : Prop where
  options : ∀ gap ∈ topLevel? .equals (front ++ after), front.length ≤ gap → head.type = .enum →
    '"' ∉ comment ∧ ∀ word ∈ findAll quotedWord? ((front ++ after).take gap),
      word.span.stop ≤ front.length ∨ front.length ≤ word.span.start
  value : ∀ gap ∈ topLevel? .equals (front ++ after), gap < front.length →
    ∀ length ∈ topLevel? .terminator ((front ++ after).drop (gap + 1)), front.length ≤ gap + 1 + length →
      head.type.allowsComment (front.drop (gap + 1)) (head.verdict (front ++ after)).isSome = true

theorem valueVerdict_comment {head : Head} {options : List (List Char)} (last : endsLine after = true)
    (outside : (modeAfter .code front).outside = true) (blank : isBlank b = true) (single : '\n' ∉ b :: comment)
    (allowed : ∀ length ∈ topLevel? .terminator (front ++ after), front.length ≤ length →
      head.type.allowsComment front (head.valueVerdict options (front ++ after)).isSome = true) :
    head.valueVerdict options (front ++ b :: commentMarker :: (comment ++ after)) =
      head.valueVerdict options (front ++ after) := by
  rw [Head.valueVerdict] at allowed
  rw [Head.valueVerdict, topLevel?_comment last outside blank single, Head.valueVerdict]
  cases search : topLevel? .terminator (front ++ after) with
  | none => rfl
  | some length =>
    rw [search] at allowed
    rw [Option.map_some, Option.bind_some, Option.bind_some, displace]
    split
    · next low =>
      rw [List.take_append_of_le_length (Nat.le_of_lt low), List.take_append_of_le_length (Nat.le_of_lt low)]
    · next low =>
      have low := Nat.le_of_not_lt low
      have whole : (front ++ after).take length = front ++ after.take (length - front.length) := by
        rw [List.take_append, List.take_of_length_le low]
      have allowed := allowed length rfl low
      rw [Option.bind_some, whole] at allowed
      rw [whole, ← Head.judge_comment blank (head?_take_endsLine last _) comment allowed]
      exact congrArg (head.judge options) (@take_displaced front (b :: commentMarker :: comment) after length low)

theorem verdict_comment {head : Head} (last : endsLine after = true)
    (outside : (modeAfter .code front).outside = true) (blank : isBlank b = true) (single : '\n' ∉ b :: comment)
    (allows : head.Allows front after comment) :
    head.verdict (front ++ b :: commentMarker :: (comment ++ after)) = head.verdict (front ++ after) := by
  obtain ⟨options, value⟩ := allows
  rw [Head.verdict] at value
  rw [Head.verdict, topLevel?_comment last outside blank single, Head.verdict]
  cases search : topLevel? .equals (front ++ after) with
  | none => rfl
  | some gap =>
    rw [search] at options value
    rw [Option.map_some, Option.bind_some, Option.bind_some, displace]
    split
    · next place =>
      obtain ⟨words, rest, split, rfl, _⟩ := topLevel?_equals search
      obtain ⟨back, rfl, behind⟩ := exists_tail split (Nat.le_of_lt place)
      cases back with
      | nil => simp at place
      | cons sign back =>
        obtain ⟨rfl, rfl⟩ := List.cons.inj behind
        have taken (more : List Char) : (words ++ '=' :: back ++ more).take words.length = words := by simp
        have dropped (more : List Char) :
            (words ++ '=' :: back ++ more).drop (words.length + 1) = back ++ more := by
          rw [List.append_assoc, List.drop_length_add_append]
          rfl
        have outside' : (modeAfter .code back).outside = true := by
          rw [List.append_assoc] at search
          rwa [modeAfter_topLevel? (apart_of_endsLine last) search] at outside
        have value := value words.length rfl place
        rw [Option.bind_some, taken, dropped] at value
        rw [taken, taken, dropped, dropped]
        refine valueVerdict_comment last outside' blank single fun length found low => ?_
        have allowed := value length found (by simp; omega)
        have behind : (words ++ '=' :: back).drop (words.length + 1) = back := by
          rw [List.drop_length_add_append]
          rfl
        rwa [behind] at allowed
    · next low =>
      have low := Nat.le_of_not_lt low
      have taken := @take_displaced front (b :: commentMarker :: comment) after gap low
      have dropped := @drop_displaced front (b :: commentMarker :: comment) after (gap + 1) (by omega)
      have further : gap + 1 + (b :: commentMarker :: comment).length = gap + (comment.length + 2) + 1 := by
        simp only [List.length_cons]
        omega
      have whole : (front ++ after).take gap = front ++ after.take (gap - front.length) := by
        rw [List.take_append, List.take_of_length_le low]
      rw [further] at dropped
      refine (congrArg (head.valueVerdict _) dropped).trans ?_
      by_cases enum : head.type = .enum
      · obtain ⟨plain, parts⟩ := options gap rfl low enum
        have extra : '"' ∉ b :: commentMarker :: comment := by
          have quote : '"' ≠ b := (ne_of_isBlank blank rfl).symm
          have marker : '"' ≠ commentMarker := by decide
          simp only [List.mem_cons, not_or]
          exact ⟨quote, marker, plain⟩
        rw [whole] at parts ⊢
        rw [← quotedWords_comment extra parts, ← taken]
        rfl
      · rw [Head.valueVerdict, Head.valueVerdict]
        exact Option.bind_congr fun length _ => Head.judge_options enum _ _ _

end Verdict

/-- No head of `text` goes over `place`. -/
def HeadsPart (text : List Char) (place : Nat) : Prop :=
  ∀ found ∈ findAll head? text, found.span.stop ≤ place ∨ place ≤ found.span.start

instance (text : List Char) (place : Nat) : Decidable (HeadsPart text place) :=
  inferInstanceAs (Decidable (∀ found ∈ findAll head? text, found.span.stop ≤ place ∨ place ≤ found.span.start))

section Heads

variable {before after comment : List Char} {b : Char}

/-- The heads before the comment, those inside it and those behind it. -/
theorem heads_comment (last : endsLine after = true) (blank : isBlank b = true)
    (heads : HeadsPart (before ++ after) before.length)
    (ends : HeadsPart (before ++ b :: commentMarker :: (comment ++ after))
      (before.length + (comment.length + 2))) :
    ∃ earlier hidden later, findAll head? (before ++ after) = earlier ++ later ∧
      findAll head? (before ++ b :: commentMarker :: (comment ++ after)) =
        earlier ++ (hidden ++ later.map (·.shift (comment.length + 2))) ∧
      (∀ found ∈ earlier, found.span.stop ≤ before.length) ∧
      (∀ found ∈ hidden, before.length + 2 ≤ found.span.start ∧
        found.span.stop ≤ before.length + (comment.length + 2)) ∧
      ∀ found ∈ later, before.length ≤ found.span.start := by
  have lead (before before' : Option Char) (index : Nat) :
      findFrom head? before 0 index after = findFrom head? before' 0 index after := by
    cases after with
    | nil => rfl
    | cons c after =>
      have visible : c ≠ 'd' := ne_of_isBlank (head?_take_endsLine last 1) rfl
      exact findFrom_before (by rw [head?_ne visible, head?_ne visible]) index
  obtain ⟨earlier, inside, same⟩ := @findFrom_seam _ head? before after none 0 0 (Nat.zero_le _)
    fun found member low => by
      have apart := heads found member
      omega
  have whole := same _ (sameAhead_head? blank (endsWord_of_endsLine last) comment)
  rw [findFrom_missed (head?_ne (ne_of_isBlank blank rfl) _ _),
    findFrom_missed (head?_ne (by decide) _ _)] at whole
  obtain ⟨hidden, inside', same'⟩ := @findFrom_seam _ head? comment after (some commentMarker) 0
    (0 + before.length + 1 + 1) (Nat.zero_le _) fun found member low => by
      have apart := ends found (by rw [findAll, whole]; exact List.mem_append_right _ member)
      omega
  have further := same' _ (.refl comment after)
  have place : 0 + before.length + 1 + 1 + comment.length = 0 + before.length + (comment.length + 2) := by omega
  refine ⟨earlier, hidden, findFrom head? (before.getLast?.or none) 0 (0 + before.length) after,
    same _ (.refl _ _), ?_, fun found member => ?_, fun found member => ⟨?_, ?_⟩, fun found member => ?_⟩
  · rw [findAll, whole, further, place, findFrom_shift, lead]
  · have stop := inside found member
    omega
  · have start := le_start_of_mem_findFrom (further ▸ List.mem_append_left _ member)
    omega
  · have stop := inside' found member
    omega
  · have start := le_start_of_mem_findFrom member
    omega

/-- A head behind the comment is judged alike. -/
theorem headProblem?_behind {found : Found Head} (last : endsLine after = true)
    (member : found ∈ findAll head? (before ++ after)) (low : before.length ≤ found.span.start) :
    headProblem? (before ++ b :: commentMarker :: (comment ++ after)) (found.shift (comment.length + 2)) =
      headProblem? (before ++ after) found := by
  obtain ⟨_, order, recognised⟩ := mem_findAll member
  obtain ⟨lead, letter, rest, first, _⟩ := head?_eq_some recognised
  have start : (before ++ after).take found.span.start =
      before ++ after.take (found.span.start - before.length) := by
    rw [List.take_append, List.take_of_length_le low]
  have place : after = after.take (found.span.start - before.length) ++ 'd' :: (lead ++ letter :: rest) := by
    rw [List.drop_append, List.drop_of_length_le low, List.nil_append] at first
    rw [← List.cons_append, ← first, List.take_append_drop]
  rw [place] at last
  obtain ⟨gap, line, split⟩ := exists_newline last rfl
  have stop : (before ++ b :: commentMarker :: (comment ++ after)).drop
      (found.shift (comment.length + 2)).span.stop = (before ++ after).drop found.span.stop :=
    @drop_displaced before (b :: commentMarker :: comment) after found.span.stop (by omega)
  have same : isCommented ((before ++ b :: commentMarker :: (comment ++ after)).take
      (found.shift (comment.length + 2)).span.start) = isCommented ((before ++ after).take found.span.start) := by
    refine (congrArg isCommented (@take_displaced before (b :: commentMarker :: comment) after _ low)).trans ?_
    rw [start, split, ← List.append_assoc, ← List.append_assoc, isCommented_newline, ← List.append_assoc,
      isCommented_newline]
  rw [headProblem?, headProblem?, same, stop]
  rfl

/-- A head in the comment is not judged. -/
theorem headProblem?_inside {found : Found Head} (single : '\n' ∉ b :: comment)
    (low : before.length + 2 ≤ found.span.start) (high : found.span.start ≤ before.length + (comment.length + 2)) :
    headProblem? (before ++ b :: commentMarker :: (comment ++ after)) found = none := by
  have place : (before ++ b :: commentMarker :: (comment ++ after)).take found.span.start =
      before ++ b :: commentMarker :: comment.take (found.span.start - before.length - 2) := by
    obtain ⟨further, place⟩ := Nat.exists_eq_add_of_le low
    rw [place, Nat.add_assoc, List.take_length_add_append, Nat.add_comm 2, List.take_succ_cons,
      List.take_succ_cons, List.take_append_of_le_length (by omega)]
    congr 4
    omega
  have short : '\n' ∉ b :: comment.take (found.span.start - before.length - 2) := by
    simp only [List.mem_cons, not_or] at single ⊢
    exact ⟨single.1, fun member => single.2 (List.mem_of_mem_take member)⟩
  rw [headProblem?, place, if_pos (isCommented_comment before short)]

end Heads

/-- What the check reads of a declaration in raw text does not meet the comment, or comes out alike with it. -/
structure Declaration.Allows (d : Declaration) (text : List Char) (place : Nat) (comment : List Char) : Prop where
  options : d.type = .enum → d.head.stop ≤ place → place ≤ d.equals →
    '"' ∉ comment ∧ ∀ word ∈ findAll quotedWord? (d.optionSpan.slice text),
      d.head.stop + word.span.stop ≤ place ∨ place ≤ d.head.stop + word.span.start
  value : d.equals < place → ∀ length ∈ topLevel? .terminator (text.drop (d.equals + 1)),
    place ≤ d.equals + 1 + length →
      d.type.allowsComment (Span.slice ⟨d.equals + 1, place⟩ text) (d.finding? text).isSome = true

instance (d : Declaration) (text : List Char) (place : Nat) (comment : List Char) :
    Decidable (d.Allows text place comment) :=
  decidable_of_iff
    ((d.type = .enum → d.head.stop ≤ place → place ≤ d.equals →
      '"' ∉ comment ∧ ∀ word ∈ findAll quotedWord? (d.optionSpan.slice text),
        d.head.stop + word.span.stop ≤ place ∨ place ≤ d.head.stop + word.span.start) ∧
      (d.equals < place → ∀ length ∈ topLevel? .terminator (text.drop (d.equals + 1)),
        place ≤ d.equals + 1 + length →
          d.type.allowsComment (Span.slice ⟨d.equals + 1, place⟩ text) (d.finding? text).isSome = true))
    ⟨fun ⟨options, value⟩ => ⟨options, value⟩, fun ⟨options, value⟩ => ⟨options, value⟩⟩

/-- The comment gives the searches that read raw text nothing to find. -/
structure Unread (before after : List Char) (b : Char) (comment : List Char) : Prop where
  heads : HeadsPart (before ++ after) before.length
  ends : HeadsPart (before ++ b :: commentMarker :: (comment ++ after)) (before.length + (comment.length + 2))
  /-- What follows a head is read as code, as the searches behind the head take it. -/
  code : ∀ found ∈ findAll head? (before ++ after), found.span.stop ≤ before.length →
    isCommented ((before ++ after).take found.span.start) = false →
      viewMode ((before ++ after).take found.span.stop) ((before ++ after).drop found.span.stop) = .code
  declarations : ∀ d ∈ findDeclarations (before ++ after), d.Allows (before ++ after) before.length comment

section Document

variable {before after comment : List Char} {b : Char}

/-- From a place that is read as code on, the code view reads like the lexer of what follows. -/
theorem modeAfter_of_viewMode {lead front : List Char} (strings : StringsEnd (lead ++ (front ++ after)))
    (apart : Apart after) (code : viewMode lead (front ++ after) = .code) :
    modeAfter .code front = viewMode (lead ++ front) after := by
  have whole := strings
  rw [← List.append_assoc] at whole
  rw [viewMode_eq_modeAt strings] at code
  rw [viewMode_eq_modeAt whole, List.append_assoc, List.length_append, modeAt_append, code,
    modeAt_append_apart apart]

/-- A head before the comment allows it, if its declaration does. -/
theorem Head.allows_of_declaration {lead front : List Char} {found : Found Head}
    (stop : found.span.stop = lead.length)
    (declared : ∀ gap ∈ topLevel? .equals (front ++ after),
      (Declaration.complete (lead ++ (front ++ after)) found gap).Allows (lead ++ (front ++ after))
        (lead.length + front.length) comment) : found.value.Allows front after comment := by
  refine ⟨fun gap search low enum => ?_, fun gap search low length ends high => ?_⟩
  · obtain ⟨plain, parts⟩ := (declared gap search).options enum (by simp [Declaration.complete, stop])
      (by simp [Declaration.complete, stop, low])
    have stretch : (Declaration.complete (lead ++ (front ++ after)) found gap).optionSpan.slice
        (lead ++ (front ++ after)) = (front ++ after).take gap := by
      simp [Declaration.complete, Declaration.optionSpan, Span.slice, stop]
    rw [stretch] at parts
    refine ⟨plain, fun word member => (parts word member).imp (fun apart => ?_) fun apart => ?_⟩
    · simp only [Declaration.complete, stop] at apart
      omega
    · simp only [Declaration.complete, stop] at apart
      omega
  · have behind : (lead ++ (front ++ after)).drop (found.span.stop + gap + 1) =
        (front ++ after).drop (gap + 1) := by
      rw [stop, Nat.add_assoc, List.drop_length_add_append]
    have inner : Span.slice ⟨found.span.stop + gap + 1, lead.length + front.length⟩ (lead ++ (front ++ after)) =
        front.drop (gap + 1) := by
      rw [Span.slice, behind, List.drop_append_of_le_length low, List.take_append_of_le_length (by simp; omega),
        List.take_of_length_le (by simp; omega)]
    have judged := map_problem_finding? (lead ++ (front ++ after)) found gap
    rw [stop, List.drop_left] at judged
    have verdict : (found.value.verdict (front ++ after)).isSome =
        ((Declaration.complete (lead ++ (front ++ after)) found gap).finding?
          (lead ++ (front ++ after))).isSome := by
      rw [Head.verdict, search, Option.bind_some, ← judged, Option.isSome_map]
    have allowed := (declared gap search).value (by simp [Declaration.complete, stop, low]) length
      (by simpa only [Declaration.complete, behind] using ends) (by simp only [Declaration.complete, stop]; omega)
    rw [verdict, ← inner]
    exact allowed

/-- A head before the comment is judged alike. -/
theorem headProblem?_before {found : Found Head} (strings : StringsEnd (before ++ after))
    (last : endsLine after = true) (outside : (viewMode before after).outside = true) (blank : isBlank b = true)
    (single : '\n' ∉ b :: comment) (unread : Unread before after b comment)
    (member : found ∈ findAll head? (before ++ after)) (low : found.span.stop ≤ before.length) :
    headProblem? (before ++ b :: commentMarker :: (comment ++ after)) found =
      headProblem? (before ++ after) found := by
  obtain ⟨_, order, _⟩ := mem_findAll member
  obtain ⟨lead, front, rfl, stop⟩ : ∃ lead front, before = lead ++ front ∧ found.span.stop = lead.length :=
    ⟨before.take found.span.stop, before.drop found.span.stop, (List.take_append_drop _ _).symm,
      by rw [List.length_take, Nat.min_eq_left low]⟩
  have taken (more : List Char) : (lead ++ front ++ more).take found.span.start = lead.take found.span.start := by
    rw [List.append_assoc, List.take_append_of_le_length (by omega)]
  have dropped (more : List Char) : (lead ++ front ++ more).drop found.span.stop = front ++ more := by
    rw [stop, List.append_assoc, List.drop_left]
  rw [headProblem?, headProblem?, taken, taken, dropped, dropped]
  cases hidden : isCommented (lead.take found.span.start) with
  | true => rfl
  | false =>
    have code := unread.code found member low (by rw [taken, hidden])
    rw [dropped, stop, List.append_assoc, List.take_left] at code
    rw [List.append_assoc] at strings
    rw [← modeAfter_of_viewMode strings (apart_of_endsLine last) code] at outside
    refine verdict_comment last outside blank single (Head.allows_of_declaration stop fun gap search => ?_)
    have declared := unread.declarations (.complete (lead ++ front ++ after) found gap)
      (List.mem_filterMap.mpr ⟨found, member, by rw [Declaration.ofHead?_eq, taken, hidden, dropped, search]; rfl⟩)
    rwa [List.append_assoc, List.length_append] at declared

/-- A comment at the end of a line that gives the searches of raw text nothing to read leaves the messages of the
check as they are. -/
theorem checkDeclarations_comment (strings : StringsEnd (before ++ after)) (last : endsLine after = true)
    (outside : (viewMode before after).outside = true) (blank : isBlank b = true) (single : '\n' ∉ b :: comment)
    (unread : Unread before after b comment) :
    (checkDeclarations (before ++ b :: commentMarker :: (comment ++ after))).map (·.problem.message) =
      (checkDeclarations (before ++ after)).map (·.problem.message) := by
  obtain ⟨earlier, hidden, later, finds, finds', low, inside, high⟩ :=
    heads_comment last blank unread.heads unread.ends
  have same : (checkDeclarations (before ++ b :: commentMarker :: (comment ++ after))).map (·.problem) =
      (checkDeclarations (before ++ after)).map (·.problem) := by
    have known (found : Found Head) (member : found ∈ earlier ++ later) :
        found ∈ findAll head? (before ++ after) := finds ▸ member
    have quiet : hidden.filterMap (headProblem? (before ++ b :: commentMarker :: (comment ++ after))) = [] :=
      List.filterMap_eq_nil_iff.mpr fun found member => by
        have known : found ∈ findAll head? (before ++ b :: commentMarker :: (comment ++ after)) := by
          rw [finds']
          exact List.mem_append_right _ (List.mem_append_left _ member)
        obtain ⟨_, order, _⟩ := mem_findAll known
        obtain ⟨start, stop⟩ := inside found member
        exact headProblem?_inside single start (by omega)
    rw [map_problem_checkDeclarations, map_problem_checkDeclarations, finds, finds', List.filterMap_append,
      List.filterMap_append, List.filterMap_append, quiet, List.nil_append, List.filterMap_map]
    congr 1
    · exact List.filterMap_congr fun found member =>
        headProblem?_before strings last outside blank single unread (known found (by simp [member]))
          (low found member)
    · exact List.filterMap_congr fun found member =>
        headProblem?_behind last (known found (by simp [member])) (high found member)
  have messages := congrArg (List.map Problem.message) same
  simpa only [List.map_map, Function.comp_def] using messages

end Document

/-- A comment with an `=` and a `;` inside an option list, behind a declaration and before another one. -/
theorem checkDeclarations_comment_options :
    let before := "declare p : int\n= 80;\ndeclare m : enum [\"a\"".toList
    let after := "\n\"b\"] = \"c\";\ndeclare s : string = x;\n".toList
    let comment := " = no;".toList
    (checkDeclarations (before ++ ' ' :: commentMarker :: (comment ++ after))).map (·.problem.message) =
      ["Invalid enum value 'c' for 'm'. Valid options: a, b",
        "Type mismatch: 's' is declared as string but the value is not a valid string"] := by
  intro before after comment
  have unread : Unread before after ' ' comment :=
    ⟨by decide +kernel, by decide +kernel, by decide +kernel, by decide +kernel⟩
  rw [checkDeclarations_comment (by decide +kernel) (by decide +kernel) (by decide +kernel) (by decide +kernel)
    (by decide +kernel) unread]
  decide +kernel

/-- A word quoted in a comment inside an option list is taken for an option. -/
theorem quoted_word_in_comment_read :
    let before := "declare m : enum [\"a\"".toList
    let after := "\n] = \"b\";\n".toList
    let comment := " \"b\"".toList
    StringsEnd (before ++ after) ∧ endsLine after = true ∧ (viewMode before after).outside = true ∧
      '\n' ∉ ' ' :: comment ∧
      (checkDeclarations (before ++ after)).map (·.problem.message) =
        ["Invalid enum value 'b' for 'm'. Valid options: a"] ∧
      checkDeclarations (before ++ ' ' :: commentMarker :: (comment ++ after)) = [] := by
  decide +kernel

end Dialect
