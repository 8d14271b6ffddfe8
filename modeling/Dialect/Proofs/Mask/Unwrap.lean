import Dialect.Proofs.Mask.Run
import Dialect.Proofs.Mask.Wrap
import Dialect.Proofs.Position.Index
import Dialect.Proofs.Text.Place

/-! Unwrapping undoes what a formatter does to a wrapped text that it sets further in: the added braces go, and with
them the spaces that it put before the lines. What it takes off other texts in braces is blank. -/
namespace Dialect

/-- A line set further in by a number of spaces. An empty line stays empty. -/
def indentLine (width : Nat) (line : List Char) : List Char :=
  if line.isEmpty then [] else List.replicate width ' ' ++ line

/-- All lines of a text set further in. -/
def indent (width : Nat) (body : List Char) : List Char :=
  ['\n'].intercalate ((splitLines body).map (indentLine width))

/-- A text that starts and ends with something visible, whose blank lines are empty and whose newlines follow no
carriage return. -/
structure Flush (body : List Char) : Prop where
  first : ∃ c, body.head? = some c ∧ isBlank c = false
  last : ∃ c, body.getLast? = some c ∧ isBlank c = false
  plain : ¬['\r', '\n'] <:+: body
  blank : ∀ line ∈ splitLines body, isBlankText line = true → line = []

section Line

variable {line : List Char}

theorem not_mem_of_mem_splitLines {text : List Char} (member : line ∈ splitLines text) : '\n' ∉ line := by
  induction text generalizing line with
  | nil =>
    obtain rfl : line = [] := List.mem_singleton.mp member
    exact List.not_mem_nil
  | cons c text ih =>
    by_cases newline : c = '\n'
    · subst newline
      rw [splitLines_newline] at member
      rcases List.mem_cons.mp member with rfl | later
      · exact List.not_mem_nil
      · exact ih later
    · obtain ⟨first, rest, split, split'⟩ := exists_splitLines_cons newline text
      rw [split'] at member
      rcases List.mem_cons.mp member with rfl | later
      · have absent : '\n' ∉ first := ih (by simp [split])
        simpa [absent, eq_comm] using newline
      · exact ih (by simp [split, later])

theorem not_mem_indentLine (single : '\n' ∉ line) (width : Nat) : '\n' ∉ indentLine width line := by
  rw [indentLine]
  split
  · exact List.not_mem_nil
  · simp [single]

theorem isBlankText_indentLine (width : Nat) : isBlankText (indentLine width line) = isBlankText line := by
  rw [indentLine]
  split
  · next empty => rw [List.isEmpty_iff.mp empty]
  · simp [isBlankText, isBlank]

theorem dedent_indentLine (width : Nat) (line : List Char) : dedent width (indentLine width line) = line := by
  rw [indentLine]
  split
  · next empty =>
    rw [List.isEmpty_iff.mp empty, dedent]
    cases width <;> rfl
  · rw [dedent, dropBytes?_spaces, Option.getD_some]

theorem chopReturn_indentLine (kept : chopReturn line = line) (width : Nat) :
    chopReturn (indentLine width line) = indentLine width line := by
  rw [indentLine]
  split
  · rfl
  · next filled =>
    have nonempty : line ≠ [] := by simpa using filled
    rw [chopReturn, if_neg]
    intro last
    rw [List.getLast?_append_of_ne_nil _ nonempty] at last
    rw [chopReturn, if_pos last] at kept
    have shorter := congrArg List.length kept
    have positive := List.length_pos_iff.mpr nonempty
    rw [List.length_dropLast] at shorter
    omega

/-- The spaces that a line is set further in by belong to its indentation. -/
theorem le_indentOf_indentLine (filled : line ≠ []) (width : Nat) : width ≤ indentOf (indentLine width line) := by
  rw [indentLine, if_neg (by simpa using filled), indentOf,
    List.takeWhile_append_of_pos fun c member => by simp [List.eq_of_mem_replicate member]]
  simp

theorem indentOf_indentLine {c : Char} (visible : isBlank c = false) (width : Nat) :
    indentOf (indentLine width (c :: line)) = width := by
  have other : c ≠ ' ' := by
    rintro rfl
    cases visible
  rw [indentLine, if_neg (by simp), indentOf,
    List.takeWhile_append_of_pos fun c member => by simp [List.eq_of_mem_replicate member],
    List.takeWhile_cons_of_neg (by simpa using other)]
  simp

end Line

section Body

variable {body : List Char}

theorem splitLines_indent (width : Nat) (body : List Char) :
    splitLines (indent width body) = (splitLines body).map (indentLine width) := by
  rw [indent, splitLines_eq (List.intercalate _ _)]
  apply List.splitOn_intercalate
  · intro line member
    obtain ⟨line, original, rfl⟩ := List.mem_map.mp member
    exact not_mem_indentLine (not_mem_of_mem_splitLines original) width
  · simpa using splitLines_ne_nil body

theorem exists_splitLines_of_head {c : Char} (first : body.head? = some c) (visible : isBlank c = false) :
    ∃ line, c :: line ∈ splitLines body := by
  obtain ⟨rest, rfl⟩ := List.head?_eq_some_iff.mp first
  have other : c ≠ '\n' := by
    rintro rfl
    cases visible
  obtain ⟨line, more, _, split⟩ := exists_splitLines_cons other rest
  exact ⟨line, by simp [split]⟩

/-- The first line has no indentation of its own, so what all lines share is what was added. -/
theorem sharedIndent_indent (flush : Flush body) (width : Nat) :
    sharedIndent ((splitLines body).map (indentLine width)) = width := by
  obtain ⟨c, head, visible⟩ := flush.first
  obtain ⟨line, first⟩ := exists_splitLines_of_head head visible
  have least : ((((splitLines body).map (indentLine width)).filter fun line => !isBlankText line).map indentOf).min? =
      some width := by
    rw [List.min?_eq_some_iff]
    constructor
    · refine List.mem_map.mpr ⟨indentLine width (c :: line), ?_, indentOf_indentLine visible width⟩
      refine List.mem_filter.mpr ⟨List.mem_map_of_mem first, ?_⟩
      rw [isBlankText_indentLine]
      simp [visible]
    · intro other member
      obtain ⟨moved, among, rfl⟩ := List.mem_map.mp member
      obtain ⟨among, shown⟩ := List.mem_filter.mp among
      obtain ⟨line, _, rfl⟩ := List.mem_map.mp among
      apply le_indentOf_indentLine
      rintro rfl
      simp [indentLine] at shown
  rw [sharedIndent, least, Option.getD_some]

/-- No line of such a text ends with a carriage return. -/
theorem Flush.chopReturn_line (flush : Flush body) : ∀ line ∈ splitLines body, chopReturn line = line := by
  have plain : ¬['\r', '\n'] <:+: body ++ ['\n'] := by
    rw [List.infix_concat_iff]
    rintro (⟨front, same⟩ | inner)
    · obtain ⟨c, last, visible⟩ := flush.last
      obtain ⟨front', rfl⟩ := List.getLast?_eq_some_iff.mp last
      have returned := congrArg (fun text => text.reverse[1]?) same
      simp only [List.reverse_append, List.reverse_cons, List.reverse_nil, List.nil_append, List.cons_append,
        List.getElem?_cons_succ, List.getElem?_cons_zero, Option.some.injEq] at returned
      rw [← returned] at visible
      cases visible
    · exact flush.plain inner
  have chopped : (splitLines body).map chopReturn = (splitLines body).map id := by
    rw [← lines_append_newline, lines_eq_splitLines plain, List.map_id]
  exact List.map_inj_left.mp chopped

theorem outdented_indent (flush : Flush body) (width : Nat) : outdented (indent width body) = splitLines body := by
  have chopped : (splitLines (indent width body)).map chopReturn = (splitLines body).map (indentLine width) := by
    rw [splitLines_indent, List.map_map]
    apply List.map_congr_left
    intro line member
    exact chopReturn_indentLine (flush.chopReturn_line line member) width
  calc outdented (indent width body)
      = ((splitLines (indent width body)).map chopReturn).map (dedent width) := by
        rw [outdented, chopped, sharedIndent_indent flush, ← chopped, List.map_map]
        rfl
    _ = (splitLines body).map fun line => dedent width (indentLine width line) := by
        rw [chopped, List.map_map]
        rfl
    _ = splitLines body := by
        simp only [dedent_indentLine, List.map_id']

theorem Flush.trim_eq (flush : Flush body) : trim body = body := by
  obtain ⟨c, first, visible⟩ := flush.first
  obtain ⟨d, last, visible'⟩ := flush.last
  apply trim_eq_self
  · simp [first, visible]
  · simp [last, visible']

/-- Blanks around the added braces do not count. -/
theorem unwrap_surrounded {before after : List Char} (blank : isBlankText before = true)
    (blank' : isBlankText after = true) (body : List Char) :
    unwrap (before ++ wrap body ++ after) = unwrap (wrap body) := by
  have shape : wrap body = '{' :: ('\n' :: body ++ ['\n'] ++ ['}']) := by simp [wrap]
  have inner : stripBraces (trim (before ++ wrap body ++ after)) = '\n' :: body ++ ['\n'] := by
    have stripped := stripBraces_trim blank blank' ('\n' :: body ++ ['\n'])
    rw [shape]
    simpa using stripped
  have inner' : stripBraces (trim (wrap body)) = '\n' :: body ++ ['\n'] := by
    have stripped := @stripBraces_trim [] [] rfl rfl ('\n' :: body ++ ['\n'])
    rw [shape]
    simpa using stripped
  simp only [unwrap, inner, inner']

theorem unwrap_indent (flush : Flush body) (width : Nat) : unwrap (wrap (indent width body)) = body ++ ['\n'] := by
  have filled : body ≠ [] := by
    obtain ⟨c, first, _⟩ := flush.first
    rintro rfl
    cases first
  rw [unwrap_wrap_eq, outdented_indent flush, intercalate_splitLines, flush.trim_eq, if_neg (by simpa using filled)]

end Body

theorem visibleChars_eq_flatten (text : List Char) : visibleChars text = (blankSeparated text).flatten := by
  rw [blankSeparated, List.flatten_filter_not_isEmpty]
  induction text with
  | nil => rfl
  | cons c text ih =>
    rw [visibleChars] at ih ⊢
    rw [List.foldr_cons]
    cases blank : isBlank c with
    | true => simpa [blank] using ih
    | false =>
      rw [List.filter_cons_of_pos (by simp [blank]), ih]
      simp only [Bool.false_eq_true, if_false]
      split
      · next none => simp [none]
      · next word rest some => simp [some]

theorem visibleChars_unwrap {formatted inner : List Char} (braced : trim formatted = '{' :: (inner ++ ['}'])) :
    visibleChars (unwrap formatted) = visibleChars inner := by
  have stripped : stripBraces (trim formatted) = inner := by simp [braced, stripBraces]
  rw [visibleChars_eq_flatten, blankSeparated_unwrap, stripped, ← visibleChars_eq_flatten]

/-- Unwrapping undoes wrapping and indenting. A text that is set further in by any number of spaces, in braces with any
blanks around them, comes back with a newline at its end. And of every text in braces nothing but blanks is lost: what
is visible between the braces stays, in its order. -/
theorem unwrap_undoes_wrap :
    (∀ (body before after : List Char) (width : Nat), Flush body → isBlankText before = true →
      isBlankText after = true → unwrap (before ++ wrap (indent width body) ++ after) = body ++ ['\n']) ∧
    ∀ formatted inner : List Char, trim formatted = '{' :: (inner ++ ['}']) →
      visibleChars (unwrap formatted) = visibleChars inner := by
  constructor
  · intro body before after width flush blank blank'
    rw [unwrap_surrounded blank blank', unwrap_indent flush]
  · intro formatted inner braced
    exact visibleChars_unwrap braced

/-- A body with an inner level and an empty line, three spaces further in; and a text in braces with a line that is
shorter than the indentation, one of wide blanks and one that ends with a carriage return. -/
theorem unwrap_undoes_wrap_nested :
    Flush "a = \x7b\n  b = 1;\n\n\x7d;".toList ∧
    unwrap "\t \x7b\n   a = \x7b\n     b = 1;\n\n   \x7d;\n\x7d\n".toList = "a = \x7b\n  b = 1;\n\n\x7d;\n".toList ∧
    trim " \x7b\n   a\n \n\u3000\u3000\n    b \r\n\x7d ".toList =
      '\x7b' :: ("\n   a\n \n\u3000\u3000\n    b \r\n".toList ++ ['\x7d']) ∧
    visibleChars (unwrap " \x7b\n   a\n \n\u3000\u3000\n    b \r\n\x7d ".toList) = "ab".toList := by
  have flush : Flush "a = \x7b\n  b = 1;\n\n\x7d;".toList := by
    constructor
    · exact ⟨'a', by decide⟩
    · exact ⟨';', by decide⟩
    · decide +kernel
    · decide +kernel
  have braced : trim " \x7b\n   a\n \n\u3000\u3000\n    b \r\n\x7d ".toList =
      '\x7b' :: ("\n   a\n \n\u3000\u3000\n    b \r\n".toList ++ ['\x7d']) := by decide +kernel
  have moved := unwrap_undoes_wrap.1 _ "\t ".toList "\n".toList 3 flush (by decide) (by decide)
  have text : "\t ".toList ++ wrap (indent 3 "a = \x7b\n  b = 1;\n\n\x7d;".toList) ++ "\n".toList =
      "\t \x7b\n   a = \x7b\n     b = 1;\n\n   \x7d;\n\x7d\n".toList := by decide +kernel
  have shown : visibleChars "\n   a\n \n\u3000\u3000\n    b \r\n".toList = "ab".toList := by decide +kernel
  rw [text] at moved
  exact ⟨flush, moved, braced, (unwrap_undoes_wrap.2 _ _ braced).trans shown⟩

end Dialect
