import Dialect.Filter.Copying
import Dialect.Filter.Pattern.Reader

/-! Programs that count: `wc`, which counts lines, words and bytes, and `nl`, which numbers lines. -/
namespace Dialect.Filter

/-- How many words stand between blanks. A word has a printable character. -/
def wordCount (inWord : Bool) : Octets → Nat
  | [] => 0
  | c :: rest =>
    if c = ' ' ∨ ('\t' ≤ c ∧ c ≤ '\r') then wordCount false rest
    else if inWord ∨ ¬(' ' < c ∧ c ≤ '~') then wordCount inWord rest
    else wordCount true rest + 1

def widest (column : Nat) : Octets → Nat
  | [] => column
  | c :: rest =>
    match c with
    | '\n' | '\r' | '\x0c' => max column (widest 0 rest)
    | '\t' => widest (column + 8 - column % 8) rest
    | c => widest (if isPrintable c then column + 1 else column) rest

structure Counts where
  lines : Nat := 0
  words : Nat := 0
  bytes : Nat := 0
  width : Nat := 0
  deriving Repr, DecidableEq

def Counts.of (text : Octets) : Counts :=
  ⟨text.count '\n', wordCount false text, text.length, widest 0 text⟩

def Counts.add (a b : Counts) : Counts :=
  ⟨a.lines + b.lines, a.words + b.words, a.bytes + b.bytes, max a.width b.width⟩

def wcSwitches : List Switch := [
  ⟨'c', ["bytes"], .nothing, true⟩,
  ⟨'l', ["lines"], .nothing, true⟩,
  ⟨'L', ["max-line-length"], .nothing, true⟩,
  ⟨'m', ["chars"], .nothing, true⟩,
  ⟨'w', ["words"], .nothing, true⟩,
  ⟨'t', ["total"], .value, false⟩]

def wc (args : List Octets) (input : Octets) : Outcome :=
  match Arguments.read wcSwitches args with
  | .error misuse => misused "wc" 1 misuse
  | .ok arguments =>
    let chosen := ['l', 'w', 'm', 'c', 'L'].filter arguments.has
    let shown := if chosen.isEmpty then ['l', 'w', 'c'] else chosen
    let files := filesOf input arguments.operands
    let found := gathered (missingFile "wc") files
    let width := if shown.length = 1 && files.length = 1 then 0 else 7
    let line (counts : Counts) (name : Octets) : Octets :=
      let columns := shown.map fun key => inColumn width (match key with
        | 'l' => counts.lines
        | 'w' => counts.words
        | 'L' => counts.width
        | _ => counts.bytes)
      [' '].intercalate columns ++ (if name.isEmpty then [] else ' ' :: name) ++ ['\n']
    let counted := files.filterMap fun file => file.text.map fun text => (file.name, Counts.of text)
    let total := counted.foldl (fun (total : Counts) (_, counts) => total.add counts) ({} : Counts)
    let wanted := match (arguments.value? 't').map String.ofList with
      | some "always" => true
      | some "never" => false
      | _ => 1 < files.length
    { found with
      out := (counted.flatMap fun (name, counts) =>
          line counts (if arguments.operands.isEmpty then [] else name)) ++
        if wanted then line total "total".toList else [] }

inductive Numbering where
  | all | filled | nothing
  | matching (matcher : Matcher)
  deriving Repr, DecidableEq

inductive Numbering.Fault where
  | style
  | pattern (fault : PatternFault)

def Numbering.ofText (text : Octets) : Except Numbering.Fault Numbering :=
  match text with
  | ['a'] => .ok .all
  | ['t'] => .ok .filled
  | ['n'] => .ok .nothing
  | 'p' :: pattern =>
    match Pattern.ofText ⟨false, true⟩ pattern with
    | .ok reading => .ok (.matching { pattern := reading.pattern, groups := reading.groups })
    | .error fault => .error (.pattern fault)
  | _ => .error .style

def Numbering.covers (numbering : Numbering) (row : Octets) : Bool :=
  match numbering with
  | .all => true
  | .filled => !row.isEmpty
  | .nothing => false
  | .matching matcher => matcher.accepts row

structure Numbers where
  body : Numbering := .filled
  header : Numbering := .nothing
  footer : Numbering := .nothing
  start : Int := 1
  increment : Int := 1
  join : Nat := 1
  format : Octets := ['r', 'n']
  separator : Octets := ['\t']
  width : Nat := 6
  delimiter : Octets := ['\\', ':']
  going : Bool := false

def Numbers.column (numbers : Numbers) (n : Int) : Octets :=
  let digits := (toString n).toList
  let fill := numbers.width - digits.length
  if numbers.format = ['l', 'n'] then digits ++ List.replicate fill ' '
  else if numbers.format = ['r', 'z'] then
    match digits with
    | '-' :: digits => '-' :: List.replicate fill '0' ++ digits
    | digits => List.replicate fill '0' ++ digits
  else List.replicate fill ' ' ++ digits

def Numbers.lines (numbers : Numbers) (numbering : Numbering) (next : Int) (blank : Nat) :
    List Octets → Octets
  | [] => []
  | row :: rest =>
    let section? : Option Numbering :=
      if numbers.delimiter.isEmpty then none
      else if row = numbers.delimiter ++ numbers.delimiter ++ numbers.delimiter then some numbers.header
      else if row = numbers.delimiter ++ numbers.delimiter then some numbers.body
      else if row = numbers.delimiter then some numbers.footer
      else none
    match section? with
    | some numbering =>
      '\n' :: numbers.lines numbering (if numbers.going then next else numbers.start) 0 rest
    | none =>
      let blank := if row.isEmpty then blank + 1 else 0
      let counted := numbering.covers row &&
        !(numbering == .all && row.isEmpty && 1 < numbers.join && blank < numbers.join)
      if counted then
        numbers.column next ++ numbers.separator ++ row ++ '\n' ::
          numbers.lines numbering (next + numbers.increment)
            (if row.isEmpty && numbers.join ≤ blank then 0 else blank) rest
      else
        List.replicate (numbers.width + numbers.separator.length) ' ' ++ row ++ '\n' ::
          numbers.lines numbering next blank rest

def nlSwitches : List Switch := [
  ⟨'b', ["body-numbering"], .value, true⟩,
  ⟨'d', ["section-delimiter"], .value, true⟩,
  ⟨'f', ["footer-numbering"], .value, true⟩,
  ⟨'h', ["header-numbering"], .value, true⟩,
  ⟨'i', ["line-increment"], .value, true⟩,
  ⟨'l', ["join-blank-lines"], .value, true⟩,
  ⟨'n', ["number-format"], .value, true⟩,
  ⟨'p', ["no-renumber"], .nothing, true⟩,
  ⟨'s', ["number-separator"], .value, true⟩,
  ⟨'v', ["starting-line-number"], .value, true⟩,
  ⟨'w', ["number-width"], .value, true⟩]

def integer? : Octets → Option Int
  | '-' :: digits => (number? digits).map fun n => -(n : Int)
  | '+' :: digits => (number? digits).map fun n => (n : Int)
  | digits => (number? digits).map fun n => (n : Int)

def Numbers.ofGiven (numbers : Numbers) : List Given → Except Octets Numbers
  | [] => .ok numbers
  | given :: rest =>
    let value := given.value
    let hint := "Try 'nl --help' for more information.\n".toList
    let bad (what : String) : Except Octets Numbers :=
      .error (s!"nl: invalid {what}: ".toList ++ quoted value ++ ['\n'])
    let style (what : String) (keep : Numbering → Numbers) : Except Octets Numbers :=
      match Numbering.ofText value with
      | .ok numbering => (keep numbering).ofGiven rest
      | .error .style =>
        .error (s!"nl: invalid {what} numbering style: ".toList ++ quoted value ++ '\n' :: hint)
      | .error (.pattern fault) => .error s!"nl: {fault.message}\n".toList
    let positive (what : String) (keep : Nat → Numbers) : Except Octets Numbers :=
      match number? value with
      | some 0 =>
        .error (s!"nl: invalid {what}: ".toList ++ quoted value ++
          ": Numerical result out of range\n".toList)
      | some n => (keep n).ofGiven rest
      | none => bad what
    match given.key with
    | 'b' => style "body" fun numbering => { numbers with body := numbering }
    | 'h' => style "header" fun numbering => { numbers with header := numbering }
    | 'f' => style "footer" fun numbering => { numbers with footer := numbering }
    | 'd' =>
      let delimiter := if value.length = 1 then value ++ [':'] else value
      { numbers with delimiter := delimiter }.ofGiven rest
    | 'i' =>
      match integer? value with
      | some n => { numbers with increment := n }.ofGiven rest
      | none => bad "line number increment"
    | 'v' =>
      match integer? value with
      | some n => { numbers with start := n }.ofGiven rest
      | none => bad "starting line number"
    | 'l' => positive "line number of blank lines" fun n => { numbers with join := n }
    | 'w' => positive "line number field width" fun n => { numbers with width := n }
    | 's' => { numbers with separator := value }.ofGiven rest
    | 'p' => { numbers with going := true }.ofGiven rest
    | _ =>
      if [['l', 'n'], ['r', 'n'], ['r', 'z']].contains value then
        { numbers with format := value }.ofGiven rest
      else
        .error ("nl: invalid line numbering format: ".toList ++ quoted value ++ '\n' :: hint)

def nl (args : List Octets) (input : Octets) : Outcome :=
  match Arguments.read nlSwitches args with
  | .error misuse => misused "nl" 1 misuse
  | .ok arguments =>
    match Numbers.ofGiven {} arguments.given with
    | .error message => ⟨1, [], message⟩
    | .ok numbers =>
      transforming "nl" (filesOf input arguments.operands) fun text =>
        numbers.lines numbers.body numbers.start 0 ((rows text).map (·.1))

end Dialect.Filter
