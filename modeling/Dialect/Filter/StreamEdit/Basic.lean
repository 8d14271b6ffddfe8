import Dialect.Filter.Pattern.Reader

/-! Scripts of the filter `sed`, which edits its input line by line. -/
namespace Dialect.Filter.StreamEdit

inductive Case where
  | kept | upper | lower
  deriving Repr, DecidableEq

def Case.apply (case : Case) (c : Char) : Char :=
  match case with
  | .kept => c
  | .upper => c.toUpper
  | .lower => c.toLower

/-- How a stretch of text is cased: its first letter may differ from the others. -/
structure Casing where
  first : Case := .kept
  all : Case := .kept
  deriving Repr, DecidableEq

def Casing.apply (casing : Casing) : Octets → Octets
  | [] => []
  | c :: rest =>
    (if casing.first = .kept then casing.all.apply c else casing.first.apply c) ::
      rest.map casing.all.apply

/-- A part of a replacement: some text, and perhaps what a group has matched after it. Number 0 is
the whole match. -/
structure Piece where
  text : Octets
  group : Option Nat
  casing : Casing
  deriving Repr, DecidableEq

inductive Outlet where
  | output | errors | nowhere
  deriving Repr, DecidableEq

structure Substitution where
  /-- Without a pattern of its own, the last one that was used. -/
  matcher : Option Matcher
  replacement : List Piece
  occurrence : Nat := 1
  onward : Bool := false
  print : Bool := false
  write : Option Outlet := none
  deriving Repr, DecidableEq

inductive Condition where
  | always
  /-- Something has been substituted since the last line was read or the last such jump. -/
  | replaced
  | unreplaced
  deriving Repr, DecidableEq

inductive Edit where
  | block
  | blockEnd
  | label (name : Octets)
  /-- To a label, or without one to the end of the script. -/
  | jump (condition : Condition) (label : Octets)
  | substitute (substitution : Substitution)
  | exchange (sources targets : Octets)
  | delete
  | deleteFirst
  | print
  | printFirst
  | next
  | appendNext
  | hold
  | appendHold
  | get
  | appendGet
  | swap
  | clear
  | list (width : Option Nat)
  | lineNumber
  | fileName
  | quit (silent : Bool) (code : Nat)
  | insertText (text : Octets)
  | appendText (text : Octets)
  | changeText (text : Octets)
  | readFile (name : Octets)
  | readLine (name : Octets)
  | write (outlet : Outlet)
  | writeFirst (outlet : Outlet)
  deriving Repr, DecidableEq

inductive Address where
  | line (number : Nat)
  | every (first step : Nat)
  | lastLine
  | matching (matcher : Option Matcher)
  deriving Repr, DecidableEq

inductive RangeEnd where
  | at (address : Address)
  | after (count : Nat)
  | multiple (factor : Nat)
  deriving Repr, DecidableEq

inductive Scope where
  | all
  | one (address : Address)
  | between (first : Address) (last : RangeEnd)
  deriving Repr, DecidableEq

structure Instruction where
  scope : Scope
  negated : Bool
  edit : Edit
  deriving Repr, DecidableEq

inductive Mistake where
  | unterminated (what : String)
  | unknownCommand (c : Char)
  | missingCommand
  | unexpectedComma
  | badStep
  | badLineZero
  | severalNegations
  | commentAddress
  | labelAddress
  | missingLabel
  | blockEndAddress
  | unmatchedOpen
  | unmatchedClose
  | oneAddress
  | extraCharacters
  | missingText
  | missingFile
  | unknownOption
  | severalOnward
  | severalPrint
  | severalNumbers
  | zeroNumber
  | badReference (number : Nat)
  | unequalLengths
  | emptyPatternOptions
  | newerVersion
  | badPattern (fault : PatternFault)
  | noPattern
  deriving Repr, DecidableEq

def Mistake.message : Mistake → String
  | .unterminated what => s!"unterminated {what}"
  | .unknownCommand c => s!"unknown command: `{c}'"
  | .missingCommand => "missing command"
  | .unexpectedComma => "unexpected `,'"
  | .badStep => "invalid usage of +N or ~N as first address"
  | .badLineZero => "invalid usage of line address 0"
  | .severalNegations => "multiple `!'s"
  | .commentAddress => "comments don't accept any addresses"
  | .labelAddress => ": doesn't want any addresses"
  | .missingLabel => "\":\" lacks a label"
  | .blockEndAddress => "`\x7d' doesn't want any addresses"
  | .unmatchedOpen => "unmatched `\x7b'"
  | .unmatchedClose => "unexpected `\x7d'"
  | .oneAddress => "command only uses one address"
  | .extraCharacters => "extra characters after command"
  | .missingText => "expected \\ after `a', `c' or `i'"
  | .missingFile => "missing filename in r/R/w/W commands"
  | .unknownOption => "unknown option to `s'"
  | .severalOnward => "multiple `g' options to `s' command"
  | .severalPrint => "multiple `p' options to `s' command"
  | .severalNumbers => "multiple number options to `s' command"
  | .zeroNumber => "number option to `s' command may not be zero"
  | .badReference number => s!"invalid reference \\{number} on `s' command's RHS"
  | .unequalLengths => "strings for `y' command are different lengths"
  | .emptyPatternOptions => "cannot specify modifiers on empty regexp"
  | .newerVersion => "expected newer version of sed"
  | .badPattern fault => fault.message
  | .noPattern => "no previous regular expression"

end Dialect.Filter.StreamEdit
