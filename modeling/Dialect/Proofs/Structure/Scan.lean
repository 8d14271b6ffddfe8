import Dialect.Proofs.Text.Blank
import Dialect.Structure.Scan

/-! Scans of lines that are numbered in another way, and of lines with nothing on them. The number of a line
only ever gets into the places of findings and of open brackets. -/
namespace Dialect

section Renumber

variable (number : Nat → Nat)

def Position.renumber (p : Position) : Position := ⟨number p.line, p.column⟩

def Range.renumber (r : Range) : Range := ⟨r.start.renumber number, r.stop.renumber number⟩

def Finding.renumber (f : Finding) : Finding := ⟨f.problem, f.range.renumber number⟩

def Bracket.renumber (b : Bracket) : Bracket := { b with line := number b.line }

def Nesting.renumber (nesting : Nesting) : Nesting :=
  { nesting with stack := nesting.stack.map (·.renumber number) }

def BracketPass.renumber (pass : BracketPass) : BracketPass :=
  { pass with
    nesting := pass.nesting.renumber number
    findings := pass.findings.map (·.renumber number) }

def ScanState.renumber (state : ScanState) : ScanState := { state with nesting := state.nesting.renumber number }

@[simp] theorem Finding.renumber_onLine (problem : Problem) (line column length : Nat) :
    Finding.renumber number ⟨problem, .onLine line column length⟩ =
      ⟨problem, .onLine (number line) column length⟩ := rfl

theorem Nesting.closes_renumber (nesting : Nesting) (closer : Char) :
    (nesting.renumber number).closes closer = nesting.closes closer := by
  cases nesting with
  | mk stack => cases stack <;> rfl

theorem Nesting.pop_renumber (nesting : Nesting) (closer : Char) :
    (nesting.renumber number).pop closer = (nesting.pop closer).renumber number := by
  simp [Nesting.renumber, Nesting.pop, List.map_tail]

theorem Nesting.push_renumber (nesting : Nesting) (bracket : Bracket) (marked : Bool) :
    (nesting.renumber number).push (bracket.renumber number) marked =
      (nesting.push bracket marked).renumber number := by
  have length : (nesting.renumber number).stack.length = nesting.stack.length := List.length_map _
  rw [Nesting.push, length]
  rfl

theorem Nesting.unclosed_renumber (nesting : Nesting) :
    (nesting.renumber number).unclosed = nesting.unclosed.map (·.renumber number) := by
  simp [Nesting.renumber, Nesting.unclosed, Bracket.renumber, Function.comp_def]

theorem BracketPass.step_renumber (pass : BracketPass) (line : Nat) (c : Char) (column : Nat) :
    (pass.renumber number).step (number line) c column = (pass.step line c column).renumber number := by
  rw [BracketPass.step, BracketPass.step]
  split
  · have pushed := pass.nesting.push_renumber number ⟨c, line, column⟩ (pass.marker.any (· ≤ column))
    simp only [BracketPass.renumber, Bracket.renumber] at pushed ⊢
    rw [pushed]
    rfl
  · split
    · have popped : (pass.renumber number).nesting.pop c = (pass.nesting.pop c).renumber number :=
        pass.nesting.pop_renumber number c
      have fit : (pass.renumber number).nesting.closes c = pass.nesting.closes c :=
        pass.nesting.closes_renumber number c
      have depth : (pass.renumber number).nesting.arrayDepth = pass.nesting.arrayDepth := rfl
      have found : (pass.renumber number).findings = pass.findings.map (·.renumber number) := rfl
      simp only [popped, fit, depth, found]
      cases pass.nesting.closes c with
      | true => rfl
      | false => simp [BracketPass.renumber]
    · rfl

theorem BracketPass.run_renumber (pass : BracketPass) (line column : Nat) (chars : List Char) :
    BracketPass.run (number line) (pass.renumber number) column chars =
      (BracketPass.run line pass column chars).renumber number := by
  induction chars generalizing pass column with
  | nil => rfl
  | cons c chars ih => rw [BracketPass.run, BracketPass.step_renumber, ih, BracketPass.run]

theorem scanBrackets_renumber (nesting : Nesting) (line : Nat) (code : CodeLine) :
    scanBrackets (nesting.renumber number) (number line) code =
      (scanBrackets nesting line code).renumber number :=
  BracketPass.run_renumber number ⟨nesting, actionMarker? code, [], []⟩ line 0 code.chars

theorem gluedWords_renumber (line : Nat) (code : CodeLine) (arrayClosers : List Nat) :
    gluedWords (number line) code arrayClosers = (gluedWords line code arrayClosers).map (·.renumber number) := by
  rw [gluedWords, gluedWords, List.map_filterMap]
  congr 1
  funext place
  dsimp only
  split
  · rw [Option.map_map]
    rfl
  · rfl

theorem openEnd_renumber (line : Nat) (code : CodeLine) (rest : List CodeLine) (arrayClosers : List Nat) :
    openEnd (number line) code rest arrayClosers =
      (openEnd line code rest arrayClosers).map (·.renumber number) := by
  rw [openEnd, openEnd]
  split
  · split
    · split <;> rfl
    · rfl
  · rfl

theorem checkStatement_renumber (line : Nat) (code : CodeLine) (expectsValue : Bool) :
    checkStatement (number line) code expectsValue =
      (checkStatement line code expectsValue).map (·.renumber number) := by
  rw [checkStatement, checkStatement]
  split
  · rfl
  · split
    · rfl
    · dsimp only
      split <;> split <;> rfl

namespace ScanState

/-- A line that has another number finds the same on it. -/
theorem line_renumber (state : ScanState) (line : Nat) (code : CodeLine) (rest : List CodeLine) :
    (state.renumber number).line (number line) code rest =
      ((state.line line code rest).1.map (·.renumber number), (state.line line code rest).2.renumber number) := by
  have pass := scanBrackets_renumber number state.nesting line code
  simp only [ScanState.line, ScanState.renumber, pass]
  simp only [BracketPass.renumber, Nesting.renumber, List.map_append, gluedWords_renumber number line,
    openEnd_renumber number line, checkStatement_renumber number line]
  refine Prod.ext ?_ rfl
  simp only
  congr 1
  · congr 1
    split <;> simp
  · split <;> rfl

theorem run_renumber (state : ScanState) (line : Nat) (codes : List CodeLine)
    (next : ∀ later, line ≤ later → number (later + 1) = number later + 1) :
    (state.renumber number).run (number line) codes = (state.run line codes).map (·.renumber number) := by
  induction codes generalizing state line with
  | nil => exact state.nesting.unclosed_renumber number
  | cons code codes ih =>
    rw [ScanState.run, ScanState.run, line_renumber, List.map_append, ← next line (Nat.le_refl _),
      ih _ _ fun later low => next later (Nat.le_of_succ_le low)]

end ScanState

end Renumber

namespace ScanState

/-- A line without code says nothing and changes nothing. -/
theorem run_blank {code : CodeLine} (blank : code.chars = []) (state : ScanState) (line : Nat)
    (rest : List CodeLine) : state.run line (code :: rest) = state.run (line + 1) rest := by
  have quiet : state.line line code rest = ([], state) := by
    simp [ScanState.line, scanBrackets, BracketPass.run, gluedWords, openEnd, endsWith, checkStatement,
      CodeLine.firstColumn?, CodeLine.isBlank, isBlankText, blank]
  rw [ScanState.run, quiet, List.nil_append]

/-- Of the lines below it a line sees the first one that has code. -/
theorem line_congr {rest rest' : List CodeLine}
    (look : rest'.find? (fun next => !next.isBlank) = rest.find? (fun next => !next.isBlank)) (state : ScanState)
    (line : Nat) (code : CodeLine) : state.line line code rest' = state.line line code rest := by
  simp only [ScanState.line, openEnd, look]

/-- What a scan finds in the lines after `front` depends on `front` only through its state, and what it finds
in `front` on those lines only through the first of them that has code. -/
theorem run_append_congr {number : Nat → Nat} {state : ScanState} {line : Nat} {front rest rest' : List CodeLine}
    (look : rest'.find? (fun next => !next.isBlank) = rest.find? (fun next => !next.isBlank))
    (above : ∀ earlier < line + front.length, number earlier = earlier)
    (below : ∀ state : ScanState, (state.renumber number).run (line + front.length) rest' =
      (state.run (line + front.length) rest).map (·.renumber number)) :
    (state.renumber number).run line (front ++ rest') =
      (state.run line (front ++ rest)).map (·.renumber number) := by
  induction front generalizing state line with
  | nil => exact below state
  | cons code front ih =>
    have here : number line = line := above line (Nat.lt_add_of_pos_right (Nat.succ_pos _))
    have same : state.line line code (front ++ rest') = state.line line code (front ++ rest) := by
      apply line_congr
      simp only [List.find?_append, look]
    have step := line_renumber number state line code (front ++ rest')
    have length : line + (code :: front).length = line + 1 + front.length := by
      rw [List.length_cons]
      omega
    rw [here] at step
    rw [length] at above below
    rw [List.cons_append, List.cons_append, ScanState.run, ScanState.run, step, same, List.map_append,
      ih above below]

theorem find?_blank {code : CodeLine} (blank : code.chars = []) (rest : List CodeLine) :
    (code :: rest).find? (fun next => !next.isBlank) = rest.find? (fun next => !next.isBlank) :=
  List.find?_cons_of_neg (by simp [CodeLine.isBlank, isBlankText, blank])

/-- A line without code moves what stands below it one line down. -/
theorem run_insert_blank {number : Nat → Nat} {code : CodeLine} (blank : code.chars = []) (state : ScanState)
    (line : Nat) (front rest : List CodeLine) (above : ∀ earlier < line + front.length, number earlier = earlier)
    (below : ∀ later, line + front.length ≤ later → number later = later + 1) :
    (state.renumber number).run line (front ++ code :: rest) =
      (state.run line (front ++ rest)).map (·.renumber number) := by
  refine run_append_congr (find?_blank blank rest) above fun state => ?_
  rw [run_blank blank, ← below _ (Nat.le_refl _)]
  refine run_renumber number state _ rest fun later low => ?_
  rw [below later low, below (later + 1) (Nat.le_succ_of_le low)]

/-- A line without code at the end is not noticed. -/
theorem run_append_blank {code : CodeLine} (blank : code.chars = []) (state : ScanState) (line : Nat)
    (front : List CodeLine) : state.run line (front ++ [code]) = state.run line front := by
  have kept (found : List Finding) : found.map (·.renumber id) = found := List.map_id found
  have same (state : ScanState) : state.renumber id = state := by
    simp [ScanState.renumber, Nesting.renumber, show (fun b : Bracket => b.renumber id) = id from rfl]
  have bare := @run_append_congr id state line front [] [code] (find?_blank blank [])
    (fun _ _ => rfl) fun state => by rw [run_blank blank, kept, same]; rfl
  rwa [same, kept, List.append_nil] at bare

end ScanState

end Dialect
