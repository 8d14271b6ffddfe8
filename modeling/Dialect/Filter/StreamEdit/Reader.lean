import Dialect.Filter.StreamEdit.Text

/-! Reading scripts. A script comes in one or more expressions, and a mistake is reported with the
number of its expression and the count of characters that have been read there. -/
namespace Dialect.Filter.StreamEdit

structure Source where
  rest : Octets
  taken : Nat := 0
  expression : Nat := 1
  later : List Octets := []
  quiet : Bool := false
  deriving Repr

inductive Refusal where
  | mistake (mistake : Mistake) (expression char : Nat)
  | noLabel (label : Octets)
  | bareClass
  deriving Repr, DecidableEq

abbrev Reader := StateT Source (Except Refusal)

namespace Reader

def fail {α : Type} (mistake : Mistake) : Reader α := fun source =>
  .error (.mistake mistake source.expression source.taken)

def skip (count : Nat) : Reader Unit :=
  modify fun source => { source with rest := source.rest.drop count, taken := source.taken + count }

def rest : Reader Octets := return (← get).rest

def peek : Reader (Option Char) := return (← get).rest.head?

def next : Reader (Option Char) := do
  let c ← peek
  if c.isSome then skip 1
  return c

def takeWhile (accepts : Char → Bool) : Reader Octets := do
  let text := (← rest).takeWhile accepts
  skip text.length
  return text

def isBlank (c : Char) : Bool := c == ' ' || c == '\t'

def isGap (c : Char) : Bool := c == ';' || c == ' ' || ('\t' ≤ c && c ≤ '\r')

def skipBlanks : Reader Unit := do
  let _ ← takeWhile isBlank

def number : Reader Nat := return (number? (← takeWhile Char.isDigit)).getD 0

def delimitedText (what : String) (delimiter : Char) (pattern : Bool) : Reader Octets := do
  let found := delimited delimiter pattern .outside (← rest)
  skip found.length
  if found.closed then return found.text else fail (.unterminated what)

def finish : Reader Unit := do
  skipBlanks
  match ← peek with
  | none | some '}' | some '#' => return
  | some c =>
    skip 1
    if c ≠ '\n' ∧ c ≠ ';' then fail .extraCharacters

def matcherOf (extended : Bool) (text : Octets) (ignoreCase byLine : Bool) (groups : Nat) :
    Reader (Option Matcher) := do
  if text.isEmpty then
    if ignoreCase || byLine then fail .emptyPatternOptions
    return none
  match Pattern.ofText ⟨extended, false⟩ (resolve text.length text) with
  | .error .bareClass => throw .bareClass
  | .error fault => fail (.badPattern fault)
  | .ok reading =>
    if reading.groups < groups then fail (.badReference groups)
    return some ⟨reading.pattern, reading.groups, ignoreCase, byLine⟩

def addressFlags : Nat → Bool → Bool → Reader (Bool × Bool)
  | 0, ignoreCase, byLine => return (ignoreCase, byLine)
  | fuel + 1, ignoreCase, byLine => do
    skipBlanks
    match ← peek with
    | some 'I' => skip 1; addressFlags fuel true byLine
    | some 'M' => skip 1; addressFlags fuel ignoreCase true
    | _ => return (ignoreCase, byLine)

def address (extended : Bool) : Reader (Option RangeEnd) := do
  let pattern (delimiter : Char) : Reader (Option RangeEnd) := do
    let text ← delimitedText "address regex" delimiter true
    let (ignoreCase, byLine) ← addressFlags (← rest).length false false
    return some (.at (.matching (← matcherOf extended text ignoreCase byLine 0)))
  match ← peek with
  | some '/' => skip 1; pattern '/'
  | some '\\' =>
    skip 1
    match ← next with
    | some delimiter => pattern delimiter
    | none => fail (.unterminated "address regex")
  | some '$' => skip 1; return some (.at .lastLine)
  | some '+' => skip 1; skipBlanks; return some (.after (← number))
  | some '~' => skip 1; skipBlanks; return some (.multiple (← number))
  | some c =>
    if !c.isDigit then return none
    let first ← number
    skipBlanks
    if (← peek) ≠ some '~' then return some (.at (.line first))
    skip 1
    skipBlanks
    let step ← number
    return some (.at (if step = 0 then .line first else .every first step))
  | none => return none

def scope (extended : Bool) : Reader Scope := do
  match ← address extended with
  | none => return .all
  | some (.after (_ + 1)) | some (.multiple (_ + 1)) => fail .badStep
  | some found =>
    let first := match found with
      | .at first => first
      | _ => .every 0 1
    skipBlanks
    let last ←
      if (← peek) = some ',' then do
        skip 1
        skipBlanks
        match ← address extended with
        | none => let _ ← next; fail .unexpectedComma
        | some last => skipBlanks; pure (some last)
      else pure none
    let zeroAllowed := match last with
      | some (.at (.matching _)) => true
      | _ => false
    if first = .line 0 ∧ !zeroAllowed then
      let _ ← next
      fail .badLineZero
    return match last with
      | none => .one first
      | some last => .between first last

/-- A name up to a gap, the end of a block or a comment. -/
def label : Reader Octets := do
  skipBlanks
  takeWhile fun c => !isGap c && c != '}' && c != '#'

def fileName : Reader Octets := do
  skipBlanks
  let name ← takeWhile (· ≠ '\n')
  if name.isEmpty then fail .missingFile
  let _ ← next
  return name

def outlet : Reader Outlet := do
  match String.ofList (← fileName) with
  | "/dev/stdout" => return .output
  | "/dev/stderr" => return .errors
  | _ => return .nowhere

def nextExpression : Reader Bool := do
  match (← get).later with
  | [] => return false
  | text :: later =>
    modify fun source =>
      { source with rest := text, taken := 0, expression := source.expression + 1, later := later }
    return true

/-- The lines of a text that is inserted. A backslash at the end of a line or of an expression
continues it on the next. -/
def textLines : Nat → Reader Octets
  | 0 => return []
  | fuel + 1 => do
    let line ← takeWhile fun c => c ≠ '\n' && c ≠ '\\'
    match ← next with
    | some '\\' =>
      match ← next with
      | some c => return line ++ '\\' :: c :: (← textLines fuel)
      | none =>
        if ← nextExpression then return line ++ '\\' :: '\n' :: (← textLines fuel) else return line
    | _ => return line

/-- A text that is inserted, with the end of its last line. -/
def insertion : Reader Octets := do
  skipBlanks
  let size := ((← get).later.map List.length).foldl (· + ·) ((← rest).length + (← get).later.length)
  let lines : Reader Octets := do
    let text ← textLines (size + 1)
    return plainText (text.length + 1) text ++ ['\n']
  match ← rest with
  | [] => fail .missingText
  | ['\\'] =>
    skip 1
    if ← nextExpression then lines else return []
  | '\\' :: '\n' :: _ => skip 2; lines
  | '\\' :: _ => skip 1; lines
  | _ => lines

structure Flags where
  ignoreCase : Bool := false
  byLine : Bool := false
  onward : Bool := false
  print : Bool := false
  occurrence : Option Nat := none
  write : Option Outlet := none

def flags : Nat → Flags → Reader Flags
  | 0, found => return found
  | fuel + 1, found => do
    match ← peek with
    | none => return found
    | some '}' | some '#' => return found
    | some 'w' => skip 1; return { found with write := some (← outlet) }
    | some c =>
      if c.isDigit then
        if found.occurrence.isSome then skip 1; fail .severalNumbers
        let occurrence ← number
        if occurrence = 0 then fail .zeroNumber
        flags fuel { found with occurrence := some occurrence }
      else
        skip 1
        match c with
        | '\n' | ';' => return found
        | ' ' | '\t' => flags fuel found
        | 'i' | 'I' => flags fuel { found with ignoreCase := true }
        | 'm' | 'M' => flags fuel { found with byLine := true }
        | 'g' => if found.onward then fail .severalOnward else flags fuel { found with onward := true }
        | 'p' => if found.print then fail .severalPrint else flags fuel { found with print := true }
        | _ => fail .unknownOption

def substitution (extended : Bool) : Reader Substitution := do
  let what := "`s' command"
  match ← next with
  | none => fail (.unterminated what)
  | some delimiter =>
    let pattern ← delimitedText what delimiter true
    let replacement := replacementOf (← delimitedText what delimiter false)
    let flags ← flags ((← rest).length + 1) {}
    let matcher ← matcherOf extended pattern flags.ignoreCase flags.byLine (largestGroup replacement)
    return ⟨matcher, replacement, flags.occurrence.getD 1, flags.onward, flags.print, flags.write⟩

def exchange : Reader Edit := do
  let what := "`y' command"
  match ← next with
  | none => fail (.unterminated what)
  | some delimiter =>
    let sources ← delimitedText what delimiter false
    let targets ← delimitedText what delimiter false
    let sources := plainText (sources.length + 1) sources
    let targets := plainText (targets.length + 1) targets
    if sources.length ≠ targets.length then fail .unequalLengths
    finish
    return .exchange sources targets

def isLater : Nat → Octets → Octets → Bool
  | 0, _, _ => false
  | _ + 1, [], _ => false
  | _ + 1, _ :: _, [] => true
  | fuel + 1, c :: left, d :: right =>
    if c.isDigit && d.isDigit then
      let first := (c :: left).takeWhile Char.isDigit
      let second := (d :: right).takeWhile Char.isDigit
      if number? first = number? second then
        isLater fuel ((c :: left).drop first.length) ((d :: right).drop second.length)
      else (number? second).getD 0 < (number? first).getD 0
    else if c = d then isLater fuel left right
    else d < c

def version : Octets := ['4', '.', '9']

def plain (edit : Edit) : Reader Edit := do
  finish
  return edit

def numbered (edit : Option Nat → Edit) : Reader Edit := do
  skipBlanks
  let digits ← takeWhile Char.isDigit
  finish
  return edit (number? digits)

/-- Reads what an instruction does; only in a block can the end of one stand. -/
def edit (extended inBlock : Bool) (scope : Scope) : Reader Edit := do
  match ← next with
  | none => fail .missingCommand
  | some c =>
    match c with
    | '{' => return .block
    | '}' =>
      if !inBlock then fail .unmatchedClose
      if scope ≠ .all then fail .blockEndAddress
      plain .blockEnd
    | 's' => return .substitute (← substitution extended)
    | 'y' => exchange
    | 'a' => return .appendText (← insertion)
    | 'i' => return .insertText (← insertion)
    | 'c' => return .changeText (← insertion)
    | ':' =>
      if scope ≠ .all then fail .labelAddress
      let name ← label
      if name.isEmpty then fail .missingLabel
      return .label name
    | 'b' => return .jump .always (← label)
    | 't' => return .jump .replaced (← label)
    | 'T' => return .jump .unreplaced (← label)
    | 'r' => return .readFile (← fileName)
    | 'R' => return .readLine (← fileName)
    | 'w' => return .write (← outlet)
    | 'W' => return .writeFirst (← outlet)
    | 'l' => numbered .list
    | 'q' | 'Q' =>
      match scope with
      | .between _ _ => fail .oneAddress
      | _ => numbered fun code => .quit (c == 'Q') (code.getD 0)
    | 'd' => plain .delete
    | 'D' => plain .deleteFirst
    | 'p' => plain .print
    | 'P' => plain .printFirst
    | 'n' => plain .next
    | 'N' => plain .appendNext
    | 'h' => plain .hold
    | 'H' => plain .appendHold
    | 'g' => plain .get
    | 'G' => plain .appendGet
    | 'x' => plain .swap
    | 'z' => plain .clear
    | '=' => plain .lineNumber
    | 'F' => plain .fileName
    | c => fail (.unknownCommand c)

def instruction (extended inBlock : Bool) : Reader (Option Instruction) := do
  let scope ← scope extended
  let negated := (← peek) = some '!'
  if negated then
    skip 1
    skipBlanks
    if (← peek) = some '!' then skip 1; fail .severalNegations
  match ← peek with
  | some '#' =>
    skip 1
    if scope ≠ .all then fail .commentAddress
    let source ← get
    if source.expression = 1 ∧ source.taken = 1 ∧ source.rest.head? = some 'n' then
      set { source with quiet := true }
    let _ ← takeWhile (· ≠ '\n')
    return none
  | some 'v' =>
    skip 1
    let wanted ← label
    if isLater (wanted.length + 1) wanted version then fail .newerVersion
    return none
  | _ => return some ⟨scope, negated, ← edit extended inBlock scope⟩

/-- Reads the instructions up to the end. `blocks` holds the expressions in which blocks have been
opened. -/
def instructions (extended : Bool) : Nat → List Nat → Reader (List Instruction)
  | 0, _ => fail .missingCommand
  | fuel + 1, blocks => do
    let _ ← takeWhile isGap
    if (← rest).isEmpty then
      if ← nextExpression then instructions extended fuel blocks
      else match blocks with
        | [] => return []
        | expression :: _ => throw (.mistake .unmatchedOpen expression 0)
    else
      let expression := (← get).expression
      match ← instruction extended (!blocks.isEmpty) with
      | none => instructions extended fuel blocks
      | some instruction =>
        let blocks := match instruction.edit with
          | .block => expression :: blocks
          | .blockEnd => blocks.tail
          | _ => blocks
        return instruction :: (← instructions extended fuel blocks)

end Reader

structure Script where
  instructions : List Instruction
  quiet : Bool
  expressions : Nat
  deriving Repr

def missingLabel? (instructions : List Instruction) (instruction : Instruction) : Option Octets :=
  match instruction.edit with
  | .jump _ name =>
    if name.isEmpty || instructions.any (·.edit == .label name) then none else some name
  | _ => none

def Script.ofExpressions (extended : Bool) (expressions : List Octets) : Except Refusal Script := do
  let source : Source := match expressions with
    | [] => ⟨[], 0, 1, [], false⟩
    | first :: later => ⟨first, 0, 1, later, false⟩
  let size := (expressions.map List.length).foldl (· + ·) expressions.length
  let (instructions, source) ← (Reader.instructions extended (size + 2) []).run source
  match instructions.reverse.findSome? (missingLabel? instructions) with
  | some name => throw (.noLabel name)
  | none => return ⟨instructions, source.quiet, source.expression⟩

end Dialect.Filter.StreamEdit
