import Dialect.Structure.Scan
import Dialect.Proofs.Structure.Balance
import Dialect.Proofs.Structure.Statement
import Mathlib.Data.List.Nodup

/-! The brackets of a document and what the scan reports about them. The lines only number the brackets of
the code view: over all lines the scan keeps the stack of a single word, and its structural findings are
the stray closers of that word and, at the end, what is still open. -/
namespace Dialect

namespace Bracket

def position (b : Bracket) : Position := ⟨b.line, b.column⟩

def unexpected (b : Bracket) : Finding := ⟨.unexpectedCloser b.char, .onLine b.line b.column 1⟩

def unclosed (b : Bracket) : Finding := ⟨.unclosed b.char, .onLine b.line b.column 1⟩

end Bracket

def isBracket (c : Char) : Bool := isOpener c || isCloser c

/-- The brackets among the characters of a line from `column` on. -/
def bracketsFrom (line column : Nat) (chars : List Char) : List Bracket :=
  (chars.zipIdx column).filterMap fun (c, column) => if isBracket c then some ⟨c, line, column⟩ else none

/-- The brackets of the code lines from `line` on. -/
def linesBrackets (line : Nat) (codes : List CodeLine) : List Bracket :=
  (codes.zipIdx line).flatMap fun (code, line) => bracketsFrom line 0 code.chars

/-- All brackets of the code view, with their places. -/
def documentBrackets (text : List Char) : List Bracket := linesBrackets 0 (CodeLine.ofDocument text)

theorem bracketsFrom_cons (line column : Nat) (c : Char) (chars : List Char) :
    bracketsFrom line column (c :: chars) =
      (if isBracket c then [⟨c, line, column⟩] else []) ++ bracketsFrom line (column + 1) chars := by
  rw [bracketsFrom, List.zipIdx_cons, List.filterMap_cons]
  by_cases bracket : isBracket c = true
  · simp only [bracket, if_true]
    rfl
  · simp only [bracket, Bool.false_eq_true, if_false]
    rfl

theorem linesBrackets_cons (line : Nat) (code : CodeLine) (codes : List CodeLine) :
    linesBrackets line (code :: codes) = bracketsFrom line 0 code.chars ++ linesBrackets (line + 1) codes := rfl

theorem mem_bracketsFrom {line column : Nat} {chars : List Char} {b : Bracket} :
    b ∈ bracketsFrom line column chars ↔
      b.line = line ∧ isBracket b.char = true ∧ column ≤ b.column ∧ chars[b.column - column]? = some b.char := by
  simp only [bracketsFrom, List.mem_filterMap, Prod.exists, List.mk_mem_zipIdx_iff_le_and_getElem?_sub]
  constructor
  · rintro ⟨c, place, ⟨low, here⟩, found⟩
    split at found
    · next bracket =>
      cases found
      exact ⟨rfl, bracket, low, here⟩
    · cases found
  · rintro ⟨rfl, bracket, low, here⟩
    exact ⟨b.char, b.column, ⟨low, here⟩, if_pos bracket⟩

theorem mem_linesBrackets {line : Nat} {codes : List CodeLine} {b : Bracket} :
    b ∈ linesBrackets line codes ↔
      isBracket b.char = true ∧ line ≤ b.line ∧
        ∃ code, codes[b.line - line]? = some code ∧ code.chars[b.column]? = some b.char := by
  simp only [linesBrackets, List.mem_flatMap, Prod.exists, List.mk_mem_zipIdx_iff_le_and_getElem?_sub,
    mem_bracketsFrom]
  constructor
  · rintro ⟨code, number, ⟨low, found⟩, rfl, bracket, _, here⟩
    exact ⟨bracket, low, code, found, here⟩
  · rintro ⟨bracket, low, code, found, here⟩
    exact ⟨code, b.line, ⟨low, found⟩, rfl, bracket, Nat.zero_le _, here⟩

/-- A bracket of the document stands on a code line, at its column. -/
theorem mem_documentBrackets {text : List Char} {b : Bracket} :
    b ∈ documentBrackets text ↔ isBracket b.char = true ∧
      ∃ code, (CodeLine.ofDocument text)[b.line]? = some code ∧ code.chars[b.column]? = some b.char := by
  simp [documentBrackets, mem_linesBrackets]

theorem nodup_bracketsFrom (line column : Nat) (chars : List Char) :
    ((bracketsFrom line column chars).map Bracket.position).Nodup := by
  induction chars generalizing column with
  | nil => exact .nil
  | cons c chars ih =>
    rw [bracketsFrom_cons]
    split
    · rw [List.singleton_append, List.map_cons, List.nodup_cons]
      refine ⟨fun again => ?_, ih (column + 1)⟩
      obtain ⟨b, member, same⟩ := List.mem_map.mp again
      have later := (mem_bracketsFrom.mp member).2.2.1
      have here : b.column = column := congrArg Position.column same
      omega
    · exact ih (column + 1)

/-- No two brackets of a document stand at one place. -/
theorem nodup_linesBrackets (line : Nat) (codes : List CodeLine) :
    ((linesBrackets line codes).map Bracket.position).Nodup := by
  induction codes generalizing line with
  | nil => exact .nil
  | cons code codes ih =>
    rw [linesBrackets_cons, List.map_append]
    refine List.nodup_append.mpr ⟨nodup_bracketsFrom line 0 code.chars, ih (line + 1), ?_⟩
    rintro place first other second rfl
    obtain ⟨b, here, rfl⟩ := List.mem_map.mp first
    obtain ⟨c, below, same⟩ := List.mem_map.mp second
    have own := (mem_bracketsFrom.mp here).1
    have later := (mem_linesBrackets.mp below).2.1
    have together : c.line = b.line := congrArg Position.line same
    omega

namespace BracketPass

open Dialect.Bracket (openAfter strays fits unexpected)

variable {pass : BracketPass} {line : Nat} {c : Char} {column : Nat}

theorem step_opener (opens : isOpener c = true) :
    (pass.step line c column).nesting.stack = ⟨c, line, column⟩ :: pass.nesting.stack ∧
      (pass.step line c column).findings = pass.findings := by
  rw [BracketPass.step, if_pos opens]
  exact ⟨rfl, rfl⟩

theorem step_closer (other : isOpener c = false) (closes : isCloser c = true) :
    (pass.step line c column).nesting.stack = pass.nesting.stack.tail ∧
      (pass.step line c column).findings =
        pass.findings ++ if fits pass.nesting.stack ⟨c, line, column⟩ then []
          else [unexpected ⟨c, line, column⟩] := by
  rw [BracketPass.step, if_neg (by simp [other]), if_pos closes]
  refine ⟨rfl, ?_⟩
  have same : pass.nesting.closes c = fits pass.nesting.stack ⟨c, line, column⟩ := rfl
  by_cases fit : fits pass.nesting.stack ⟨c, line, column⟩ = true
  · simp [same, fit]
  · simp [same, fit, unexpected]

theorem step_other (other : isBracket c = false) : pass.step line c column = pass := by
  obtain ⟨opens, closes⟩ := Bool.or_eq_false_iff.mp other
  rw [BracketPass.step, if_neg (by simp [opens]), if_neg (by simp [closes])]

/-- The pass keeps the stack of the word of its brackets and reports its stray closers. -/
theorem run_brackets (pass : BracketPass) (line column : Nat) (chars : List Char) :
    (BracketPass.run line pass column chars).nesting.stack =
        openAfter pass.nesting.stack (bracketsFrom line column chars) ∧
      (BracketPass.run line pass column chars).findings =
        pass.findings ++ (strays pass.nesting.stack (bracketsFrom line column chars)).map unexpected := by
  induction chars generalizing pass column with
  | nil => exact ⟨rfl, (List.append_nil _).symm⟩
  | cons c chars ih =>
    obtain ⟨stack, findings⟩ := ih (pass.step line c column) (column + 1)
    rw [BracketPass.run, stack, findings, bracketsFrom_cons]
    by_cases opens : isOpener c = true
    · obtain ⟨pushed, kept⟩ := @step_opener pass line c column opens
      have bracket : isBracket c = true := by simp [isBracket, opens]
      rw [if_pos bracket, List.singleton_append, pushed, kept, Bracket.openAfter_opener opens,
        Bracket.strays_opener opens]
      exact ⟨rfl, rfl⟩
    · have other := Bool.eq_false_iff.mpr opens
      by_cases closes : isCloser c = true
      · obtain ⟨popped, reported⟩ := @step_closer pass line c column other closes
        have bracket : isBracket c = true := by simp [isBracket, closes]
        rw [if_pos bracket, List.singleton_append, popped, reported, Bracket.openAfter_closer other]
        cases fit : fits pass.nesting.stack ⟨c, line, column⟩ with
        | true => simp [Bracket.strays_fits other fit]
        | false => simp [Bracket.strays_misfit other fit]
      · have plain : isBracket c = false := by simp [isBracket, other, closes]
        rw [step_other plain, if_neg (by simp [plain]), List.nil_append]
        exact ⟨rfl, rfl⟩

end BracketPass

def Finding.isStructural (f : Finding) : Bool := f.problem.kind = .structural

/-- A line reports brackets first, and then the shape of its statements. -/
theorem exists_line_findings (state : ScanState) (number : Nat) (code : CodeLine) (rest : List CodeLine) :
    ∃ shape, (state.line number code rest).1 = (scanBrackets state.nesting number code).findings ++ shape ∧
      ∀ f ∈ shape, f.problem.kind = .statementShape ∧ f.OnCode number code := by
  refine ⟨_, List.append_assoc .., fun f member => ?_⟩
  rcases List.mem_append.mp member with follower | statement
  · split at follower
    · cases follower
    · rcases List.mem_append.mp follower with glued | ended
      · exact gluedWords_spec glued
      · exact openEnd_spec ended
  · split at statement
    · exact checkStatement_spec statement
    · cases statement

open Dialect.Bracket (openAfter strays unexpected unclosed)

theorem structural_scanBrackets (nesting : Nesting) (line : Nat) (code : CodeLine) :
    (scanBrackets nesting line code).nesting.stack =
        openAfter nesting.stack (bracketsFrom line 0 code.chars) ∧
      (scanBrackets nesting line code).findings =
        (strays nesting.stack (bracketsFrom line 0 code.chars)).map unexpected := by
  obtain ⟨stack, findings⟩ := BracketPass.run_brackets ⟨nesting, actionMarker? code, [], []⟩ line 0 code.chars
  exact ⟨stack, findings⟩

/-- What a line reports about brackets, and the stack after it. -/
theorem structural_line (state : ScanState) (number : Nat) (code : CodeLine) (rest : List CodeLine) :
    (state.line number code rest).1.filter (·.isStructural) =
        (strays state.nesting.stack (bracketsFrom number 0 code.chars)).map unexpected ∧
      (state.line number code rest).2.nesting.stack =
        openAfter state.nesting.stack (bracketsFrom number 0 code.chars) := by
  obtain ⟨stack, findings⟩ := structural_scanBrackets state.nesting number code
  obtain ⟨shape, split, kinds⟩ := exists_line_findings state number code rest
  refine ⟨?_, stack⟩
  have all : ((strays state.nesting.stack (bracketsFrom number 0 code.chars)).map unexpected).filter
      (·.isStructural) = (strays state.nesting.stack (bracketsFrom number 0 code.chars)).map unexpected := by
    refine List.filter_eq_self.mpr fun f member => ?_
    obtain ⟨b, _, rfl⟩ := List.mem_map.mp member
    rfl
  have none : shape.filter (·.isStructural) = [] := by
    refine List.filter_eq_nil_iff.mpr fun f member => ?_
    simp [Finding.isStructural, (kinds f member).1]
  rw [split, findings, List.filter_append, all, none, List.append_nil]

theorem structural_run (state : ScanState) (number : Nat) (codes : List CodeLine) :
    (state.run number codes).filter (·.isStructural) =
      (strays state.nesting.stack (linesBrackets number codes)).map unexpected ++
        (openAfter state.nesting.stack (linesBrackets number codes)).reverse.map unclosed := by
  induction codes generalizing state number with
  | nil =>
    refine List.filter_eq_self.mpr fun f member => ?_
    obtain ⟨b, _, rfl⟩ := List.mem_map.mp member
    rfl
  | cons code codes ih =>
    obtain ⟨reported, stack⟩ := structural_line state number code codes
    rw [ScanState.run, List.filter_append, reported, ih, stack, linesBrackets_cons, Bracket.strays_append,
      Bracket.openAfter_append, List.map_append, List.append_assoc]

theorem structural_scan (text : List Char) :
    (scan text).filter (·.isStructural) =
      (strays [] (documentBrackets text)).map unexpected ++
        (openAfter [] (documentBrackets text)).reverse.map unclosed := structural_run {} 0 _

theorem structural_diagnostics (text : List Char) :
    ((scan text).map Finding.diagnostic).filter (·.kind = .structural) =
      ((strays [] (documentBrackets text)).map unexpected ++
        (openAfter [] (documentBrackets text)).reverse.map unclosed).map Finding.diagnostic := by
  rw [← structural_scan, List.filter_map]
  rfl

/-- The scan reports brackets exactly. It has no structural diagnostic if and only if the brackets of the
code view are a balanced word. If they start one, it has one diagnostic for each opener that nothing
closes, at the opener's place and in the order of the document. And no two structural diagnostics stand at
the same place, whatever the text. -/
theorem bracket_diagnostics_exact (text : List Char) :
    let brackets := documentBrackets text
    let word := brackets.map (·.char)
    let found := ((scan text).map Finding.diagnostic).filter (·.kind = .structural)
    (found = [] ↔ Balanced word) ∧
    ((∃ more, Balanced (word ++ more)) →
      found = (Bracket.unmatched brackets).map fun b =>
        ⟨.onLine b.line b.column 1, s!"Unclosed character '{b.char}'", .error, .structural⟩) ∧
    (found.map (·.range.start)).Nodup := by
  intro brackets word found
  have shape : found = ((strays [] brackets).map unexpected ++
      (openAfter [] brackets).reverse.map unclosed).map Finding.diagnostic := structural_diagnostics text
  refine ⟨?_, ?_, ?_⟩
  · rw [shape, Bracket.balanced_iff]
    simp
  · rintro ⟨more, balanced⟩
    have quiet : strays [] brackets = [] := by
      have spelled : (brackets ++ more.map (Bracket.mk · 0 0)).map (·.char) = word ++ more := by
        rw [List.map_append, List.map_map]
        exact congrArg (word ++ ·) (List.map_id more)
      have none := (Bracket.openAfter_balanced balanced spelled []).2
      rw [Bracket.strays_append] at none
      exact (List.append_eq_nil_iff.mp none).1
    rw [shape, quiet, Bracket.openAfter_eq_unmatched brackets quiet, List.reverse_reverse, List.map_nil,
      List.nil_append, List.map_map]
    rfl
  · have places : found.map (·.range.start) =
        (strays [] brackets ++ (openAfter [] brackets).reverse).map Bracket.position := by
      rw [shape]
      simp only [List.map_append, List.map_map]
      rfl
    rw [places]
    have distinct := Bracket.nodup_strays_append Bracket.position [] brackets (nodup_linesBrackets 0 _)
    refine ((List.Perm.map _ ?_).nodup_iff).mp distinct
    exact (List.reverse_perm _).symm.append_left _

/-- Three openers, of which the second is closed; the brackets in the comment and in the string do not count. -/
theorem bracket_diagnostics_exact_unclosed :
    let text := "a = \x7b\n  b = [ # \x7d\n    \")\" ];\n  f = (\n".toList
    let brackets := documentBrackets text
    let word := brackets.map (·.char)
    let found := ((scan text).map Finding.diagnostic).filter (·.kind = .structural)
    Balanced (word ++ [')', '}']) ∧
      found = [⟨.onLine 0 4 1, "Unclosed character '\x7b'", .error, .structural⟩,
        ⟨.onLine 3 6 1, "Unclosed character '('", .error, .structural⟩] := by
  intro text brackets word found
  have balanced : Balanced (word ++ [')', '}']) := by decide +kernel
  have unmatched : Bracket.unmatched brackets = [⟨'{', 0, 4⟩, ⟨'(', 3, 6⟩] := by decide +kernel
  refine ⟨balanced, ((bracket_diagnostics_exact text).2.1 ⟨_, balanced⟩).trans ?_⟩
  rw [unmatched]
  decide +kernel

end Dialect
