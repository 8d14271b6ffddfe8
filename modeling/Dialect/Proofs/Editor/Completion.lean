import Dialect.Editor.Completion
import Dialect.Proofs.Declaration.Meaning
import Dialect.Proofs.Declaration.Spelling
import Dialect.Proofs.Editor.Cursor

/-! Completion in the value of an enum declaration. The head on the cursor's line is one that is found in the document,
with the same name, but the options are looked up by the name alone: they are those of the first declaration that has
it. -/
namespace Dialect.Editor

deriving instance DecidableEq for Found

theorem head?_eq_bind (before : Option Char) (here : List Char) :
    head? before here = (declaredName? before here).bind fun (name, rest) =>
      (type? name rest).map fun (head, rest) => (head, here.length - rest.length) := by
  rw [head?]
  cases declaredName? before here with
  | none => rfl
  | some named =>
    simp only [type?, Option.bind_eq_bind, Option.pure_def, Option.bind_some]
    split <;> rfl

/-- An open value is recognised after a whole head with text behind it. -/
theorem spelled_of_openEnumValue? {before : Option Char} {here name typed : List Char} {taken : Nat}
    (recognised : openEnumValue? before here = some ((name, typed), taken)) :
    ∃ matched rest, here = matched ++ rest ∧ rest ≠ [] ∧ Head.Spelled ⟨name, "enum".toList⟩ matched ∧
      endsWord rest = true := by
  simp only [openEnumValue?, Option.bind_eq_bind, Option.pure_def] at recognised
  obtain ⟨⟨word, typeAndRest⟩, named, recognised⟩ := Option.bind_eq_some_iff.mp recognised
  obtain ⟨rest, enum, recognised⟩ := Option.bind_eq_some_iff.mp recognised
  split at recognised
  · cases recognised
  next ends =>
  rw [Bool.not_eq_true', Bool.not_eq_false] at ends
  obtain ⟨value, equals, recognised⟩ := Option.bind_eq_some_iff.mp recognised
  obtain ⟨typed', _, recognised⟩ := Option.bind_eq_some_iff.mp recognised
  split at recognised
  · cases recognised
  cases recognised
  have filled : rest ≠ [] := by
    rintro rfl
    cases equals
  have whole : head? before here = some (⟨word, "enum".toList⟩, here.length - rest.length) := by
    have typeName : typeAndRest = "enum".toList ++ rest := after?_eq_some_iff.mp enum
    have typed : type? word ("enum".toList ++ rest) = some (⟨word, "enum".toList⟩, rest) :=
      type?_append word (by decide) ends
    rw [head?_eq_bind, named, Option.bind_some, typeName]
    simp only [typed, Option.map_some]
  obtain ⟨_, matched, rest', split, length, spelled, ends'⟩ := head?_eq_some_iff.mp whole
  refine ⟨matched, rest', split, ?_, spelled, ends'⟩
  rintro rfl
  obtain ⟨front, letter, last, _⟩ := spelled.exists_last
  have positive := List.length_pos_iff.mpr filled
  rw [split, List.append_nil, last, List.length_append, List.length_singleton] at length
  omega

/-- What is recognised on a line is a head in every text that goes on after the line. -/
theorem head?_of_openEnumValue? {before before' : Option Char} {here name typed : List Char} {taken : Nat}
    (recognised : openEnumValue? before here = some ((name, typed), taken)) (boundary : before'.any isWordChar = false)
    (more : List Char) : ∃ length, head? before' (here ++ more) = some (⟨name, "enum".toList⟩, length) := by
  obtain ⟨matched, rest, rfl, filled, spelled, ends⟩ := spelled_of_openEnumValue? recognised
  refine ⟨matched.length, head?_eq_some_iff.mpr ⟨boundary, matched, rest ++ more, ?_, rfl, spelled, ?_⟩⟩
  · rw [List.append_assoc]
  · obtain ⟨c, rest, rfl⟩ := List.exists_cons_of_ne_nil filled
    exact ends

section Line

variable {text before : List Char} {cursor : Place} {encoding : Encoding}

theorem takeWidth_isPrefix (width : Char → Nat) (limit : Nat) (text : List Char) :
    takeWidth width limit text <+: text := by
  induction text generalizing limit with
  | nil => exact List.prefix_rfl
  | cons c text ih =>
    rw [takeWidth]
    split
    · exact List.cons_prefix_cons.mpr ⟨rfl, ih _⟩
    · exact List.nil_prefix

/-- A place of the document on the cursor's line, and what stands from there to the cursor. -/
theorem exists_drop_append {index column : Nat} (read : beforeCursor? text cursor encoding = some before)
    (inside : index ≤ text.length) (place : Position.ofIndex text index = ⟨cursor.line, column⟩)
    (short : column ≤ before.length) : ∃ more, text.drop index = before.drop column ++ more := by
  obtain ⟨isIn, same⟩ := Position.isIn_ofIndex inside
  rw [place] at isIn same
  obtain ⟨whole, found, _⟩ := isIn.exists_line
  obtain ⟨shown, reads, part⟩ := exists_readLine? found
  rw [beforeCursor?, cursorLine?_eq_readLine? isIn.1, reads, Option.map_some] at read
  obtain ⟨tail, rfl⟩ : before <+: whole := by
    rw [← Option.some.inj read]
    exact (takeWidth_isPrefix _ _ _).trans part
  obtain ⟨front, rest, rfl, start, _⟩ := exists_line_split found
  have stands : column ≤ (before ++ tail).length := by rw [List.length_append]; omega
  have position := Position.toIndex_eq (p := ⟨cursor.line, column⟩) found stands
  rw [same, ← start] at position
  refine ⟨tail ++ rest, ?_⟩
  rw [position, ← List.drop_drop, List.append_assoc, List.drop_left, List.append_assoc,
    List.drop_append_of_le_length short]

/-- The declaration at the head before the cursor has the name that is recognised there. -/
theorem named_of_openEnumValue? {found : Found (List Char × List Char)} {d : Declaration}
    (read : beforeCursor? text cursor encoding = some before)
    (recognised : found ∈ findAll openEnumValue? before) (member : d ∈ findDeclarations text)
    (place : Position.ofIndex text d.head.start = ⟨cursor.line, found.span.start⟩) :
    d.name = found.value.1 ∧ d.type = .enum := by
  obtain ⟨head, located, completed⟩ := List.mem_filterMap.mp member
  obtain ⟨inside, _, whole⟩ := mem_findAll located
  obtain ⟨within, _, here⟩ := mem_findAll recognised
  rw [(ofHead?_eq_some completed).1] at place
  obtain ⟨more, split⟩ := exists_drop_append read (Nat.le_of_lt inside) place (Nat.le_of_lt within)
  have boundary := (head?_eq_some_iff.mp whole).1
  obtain ⟨length, whole'⟩ := head?_of_openEnumValue? here boundary more
  rw [← split, whole] at whole'
  have same : head.value = ⟨found.value.1, "enum".toList⟩ := congrArg Prod.fst (Option.some.inj whole')
  rw [Declaration.ofHead?_eq] at completed
  split at completed
  · cases completed
  obtain ⟨gap, _, rfl⟩ := Option.map_eq_some_iff.mp completed
  constructor
  · show head.value.name = _
    rw [same]
  · show DeclaredType.ofName head.value.typeName = _
    rw [same]
    rfl

end Line

/-- The options are those of the first declaration of that name. -/
theorem exists_first_named {text : List Char} {d : Declaration} (member : d ∈ findDeclarations text) :
    ∃ earlier first later, findDeclarations text = earlier ++ first :: later ∧ first.name = d.name ∧
      (∀ e ∈ earlier, e.name ≠ d.name) ∧ optionsOf text d.name = first.options := by
  have there : ((findDeclarations text).find? (·.name = d.name)).isSome = true := by
    rw [List.find?_isSome]
    exact ⟨d, member, by simp⟩
  obtain ⟨first, found⟩ := Option.isSome_iff_exists.mp there
  obtain ⟨named, earlier, later, split, others⟩ := List.find?_eq_some_iff_append.mp found
  refine ⟨earlier, first, later, split, by simpa using named, fun e among => by simpa using others e among, ?_⟩
  rw [optionsOf, found]
  rfl

/-- Where no declaration before it has its name, a declaration is the first of that name. -/
theorem eq_first_named {text : List Char} {d first : Declaration} {earlier later : List Declaration}
    (split : findDeclarations text = earlier ++ first :: later) (others : ∀ e ∈ earlier, e.name ≠ d.name)
    (named : first.name = d.name) (member : d ∈ findDeclarations text)
    (unnamed : ∀ e ∈ findDeclarations text, e.head.start < d.head.start → e.name ≠ d.name) : first = d := by
  have among : first ∈ findDeclarations text := by simp [split]
  have order := findDeclarations_ordered text
  rw [split] at member order
  rcases List.mem_append.mp member with before | behind
  · exact absurd rfl (others d before)
  rcases List.mem_cons.mp behind with same | later
  · exact same.symm
  · have follows := List.rel_of_pairwise_cons (List.pairwise_append.mp order).2.1 later
    have filled := (placed_of_mem_findDeclarations among).order
    exact absurd named (unnamed first among (by omega))

/-- What is offered in the value of an enum declaration. The context is the declaration at whose head the line before the
cursor starts an open value: it has the name that is looked up and is an enum. The labels are the options of the first
declaration of this name that start with what is typed, in their order; so if no earlier declaration has its name, those
of the declaration itself. -/
theorem enum_options_offered (text : List Char) (cursor : Place) (encoding : Encoding) (before : List Char)
    (found : Found (List Char × List Char)) (d : Declaration)
    (read : beforeCursor? text cursor encoding = some before)
    (recognised : (findAll openEnumValue? before).head? = some found) (member : d ∈ findDeclarations text)
    (place : Position.ofIndex text d.head.start = ⟨cursor.line, found.span.start⟩) :
    let typed := found.value.2
    let labels := (complete? text cursor encoding).map fun items => items.map Item.label
    contextAt? text cursor encoding = some (.enumValue d.name typed) ∧ d.type = .enum ∧
      (∃ earlier first later, findDeclarations text = earlier ++ first :: later ∧ first.name = d.name ∧
        (∀ e ∈ earlier, e.name ≠ d.name) ∧
        labels = some ((first.options.filter (startsWith typed)).map String.ofList)) ∧
      ((∀ e ∈ findDeclarations text, e.head.start < d.head.start → e.name ≠ d.name) →
        labels = some ((d.options.filter (startsWith typed)).map String.ofList)) := by
  intro typed labels
  obtain ⟨name, enum⟩ := named_of_openEnumValue? read (List.mem_of_head? recognised) member place
  have context : contextAt? text cursor encoding = some (.enumValue d.name typed) := by
    rw [contextAt?, read, Option.map_some, contextOf, recognised, name]
  obtain ⟨earlier, first, later, split, named, others, options⟩ := exists_first_named member
  have offered : labels = some ((first.options.filter (startsWith typed)).map String.ofList) := by
    simp only [labels, complete?, context, Option.bind_some, itemsFor?, options, Option.map_some, List.map_map]
    rfl
  refine ⟨context, enum, ⟨earlier, first, later, split, named, others, offered⟩, fun unnamed => ?_⟩
  rw [offered, eq_first_named split others named member unnamed]

/-- An option is typed in the second of two declarations, behind a first one of another name. -/
theorem enum_options_offered_second :
    let text := "declare k : enum [\"s\"] = \"s\";\n  declare m : enum [\"fast\" \"safe\" \"slow\"] = \"s\n".toList
    let before := "  declare m : enum [\"fast\" \"safe\" \"slow\"] = \"s".toList
    let d : Declaration :=
      ⟨"m".toList, .enum, ["fast".toList, "safe".toList, "slow".toList], ⟨32, 48⟩, 72, none⟩
    let found : Found (List Char × List Char) := ⟨⟨2, 46⟩, "m".toList, "s".toList⟩
    beforeCursor? text ⟨1, 46⟩ .utf16 = some before ∧ (findAll openEnumValue? before).head? = some found ∧
      d ∈ findDeclarations text ∧ Position.ofIndex text d.head.start = ⟨1, found.span.start⟩ ∧
      (∀ e ∈ findDeclarations text, e.head.start < d.head.start → e.name ≠ d.name) ∧
      (complete? text ⟨1, 46⟩ .utf16).map (·.map Item.label) = some ["safe", "slow"] := by
  intro text before d found
  have read : beforeCursor? text ⟨1, 46⟩ .utf16 = some before := by decide +kernel
  have recognised : (findAll openEnumValue? before).head? = some found := by decide +kernel
  have all : findDeclarations text = [⟨"k".toList, .enum, ["s".toList], ⟨0, 16⟩, 23, some ⟨25, 28⟩⟩, d] := by
    decide +kernel
  have member : d ∈ findDeclarations text := by simp [all]
  have place : Position.ofIndex text d.head.start = ⟨1, found.span.start⟩ := by decide +kernel
  have unnamed : ∀ e ∈ findDeclarations text, e.head.start < d.head.start → e.name ≠ d.name := by
    rw [all]
    decide +kernel
  have offered := enum_options_offered text ⟨1, 46⟩ .utf16 before found d read recognised member place
  have labels : (d.options.filter (startsWith found.value.2)).map String.ofList = ["safe", "slow"] := by decide +kernel
  exact ⟨read, recognised, member, place, unnamed, labels ▸ offered.2.2.2 unnamed⟩

/-- A declaration of the same name in an inner scope comes first, so its options are offered, and not those of the
declaration that is being edited. -/
theorem options_of_inner_scope_offered :
    let text := "a = \x7b declare m : enum [\"x\"] = \"x\"; \x7d;\ndeclare m : enum [\"y\"] = \"".toList
    let before := "declare m : enum [\"y\"] = \"".toList
    let d : Declaration := ⟨"m".toList, .enum, ["y".toList], ⟨39, 55⟩, 62, none⟩
    let found : Found (List Char × List Char) := ⟨⟨0, 26⟩, "m".toList, []⟩
    beforeCursor? text ⟨1, 26⟩ .utf16 = some before ∧ (findAll openEnumValue? before).head? = some found ∧
      d ∈ findDeclarations text ∧ Position.ofIndex text d.head.start = ⟨1, found.span.start⟩ ∧
      (complete? text ⟨1, 26⟩ .utf16).map (·.map Item.label) = some ["x"] ∧
      (d.options.filter (startsWith found.value.2)).map String.ofList = ["y"] := by
  intro text before d found
  have recognised : (findAll openEnumValue? before).head? = some found := by decide +kernel
  exact ⟨by decide +kernel, recognised, by decide +kernel, by decide +kernel, by decide +kernel, by decide +kernel⟩

end Dialect.Editor
