import Dialect.Filter.Printing.Number

/-! The programs `echo` and `printf`, which read no input. The shell has both for itself; there they
know other escapes and word their complaints in another way. -/
namespace Dialect.Filter

namespace Printing

structure EscapeRules where
  leadingZero : Bool
  hex : Bool := false
  strict : Bool := false
  stops : Bool := false
  quote : Bool := false
  deriving Repr, DecidableEq

inductive Escape where
  | char (c : Char)
  | stop
  | noNumber
  deriving Repr, DecidableEq

/-- Reads an escape after its backslash. Where there is none, the backslash means itself. -/
def readEscape (rules : EscapeRules) (text : Octets) : Escape × Octets :=
  match text with
  | [] => (.char '\\', [])
  | c :: rest =>
    let digits := if rules.leadingZero && c == '0' then rest else text
    let (value, length) := byteNumber 8 3 digits
    if 0 < length ∨ c = '0' then (.char (Char.ofNat value), digits.drop length)
    else if c = 'c' ∧ rules.stops then (.stop, [])
    else if c = 'e' then (.char '\x1b', rest)
    else if c = '"' ∧ rules.quote then (.char '"', rest)
    else if c = 'x' ∧ rules.hex then
      let (value, length) := byteNumber 16 2 rest
      if 0 < length then (.char (Char.ofNat value), rest.drop length)
      else if rules.strict then (.noNumber, [])
      else (.char '\\', text)
    else match escapeOf? c with
      | some resolved => (.char resolved, rest)
      | none => (.char '\\', text)

/-- A text with its escapes resolved, up to the first that ends it. -/
def unescape (rules : EscapeRules) : Nat → Octets → Octets × Option Escape
  | 0, text => (text, none)
  | _ + 1, [] => ([], none)
  | fuel + 1, '\\' :: rest =>
    match readEscape rules rest with
    | (.char c, rest) =>
      let (text, ending) := unescape rules fuel rest
      (c :: text, ending)
    | (ending, _) => ([], some ending)
  | fuel + 1, c :: rest =>
    let (text, ending) := unescape rules fuel rest
    (c :: text, ending)

inductive Voice where
  | program | shell
  deriving Repr, DecidableEq

def Voice.formatRules : Voice → EscapeRules
  | .program => ⟨false, true, true, true, true⟩
  | .shell => ⟨false, false, false, false, false⟩

def Voice.argumentRules : Voice → EscapeRules
  | .program => ⟨true, true, true, true, true⟩
  | .shell => ⟨true, false, false, true, false⟩

inductive Complaint where
  | noFormat
  | badOption (letter : Char)
  | noConversion
  | badDirective (directive : Octets)
  | noHexNumber
  | badWidth (text : Octets)
  | badPrecision (text : Octets)
  | noNumber (text : Octets)
  | partNumber (text : Octets)
  | outOfRange (text : Octets)
  | moreThanOneCharacter (rest : Octets)
  | excess (text : Octets)
  deriving Repr, DecidableEq

def Complaint.message (voice : Voice) : Complaint → Octets
  | .noFormat =>
    match voice with
    | .program => "missing operand\nTry 'printf --help' for more information.".toList
    | .shell => "usage: printf format [arg ...]".toList
  | .badOption letter => "Illegal option -".toList ++ [letter]
  | .noConversion => "missing format character".toList
  | .badDirective directive =>
    directive ++
      match voice with
      | .program => ": invalid conversion specification".toList
      | .shell => ": invalid directive".toList
  | .noHexNumber => "missing hexadecimal number in escape".toList
  | .badWidth text => "invalid field width: ".toList ++ quoted text
  | .badPrecision text => "invalid precision: ".toList ++ quoted text
  | .noNumber text =>
    match voice with
    | .program => quoted text ++ ": expected a numeric value".toList
    | .shell => text ++ ": expected numeric value".toList
  | .partNumber text =>
    match voice with
    | .program => quoted text ++ ": value not completely converted".toList
    | .shell => text ++ ": not completely converted".toList
  | .outOfRange text =>
    (match voice with
      | .program => quoted text
      | .shell => text) ++ ": Numerical result out of range".toList
  | .moreThanOneCharacter rest =>
    "warning: ".toList ++ rest ++
      ": character(s) following character constant have been ignored".toList
  | .excess text => "warning: ignoring excess arguments, starting with ".toList ++ quoted text

structure Progress where
  args : List Octets
  used : Bool := false
  out : Octets := []
  complaints : List Complaint := []
  code : Nat := 0
  stopped : Bool := false

namespace Progress

def print (progress : Progress) (text : Octets) : Progress :=
  { progress with out := progress.out ++ text }

def complain (progress : Progress) (complaint : Complaint) (code : Nat) : Progress :=
  { progress with complaints := progress.complaints ++ [complaint], code := max progress.code code }

def fail (progress : Progress) (complaint : Complaint) (code : Nat) : Progress :=
  { progress.complain complaint code with stopped := true }

/-- Ends all output because an escape says so; the program has then succeeded. -/
def stop (progress : Progress) (voice : Voice) : Progress :=
  { progress with stopped := true, code := if voice = .program then 0 else progress.code }

def take (progress : Progress) : Option Octets × Progress :=
  match progress.args with
  | [] => (none, progress)
  | arg :: args => (some arg, { progress with args := args, used := true })

/-- Takes a number. A quote before a character means the number of the character. -/
def number {α : Type} (voice : Voice) (ofChar : Nat → α) (read : Octets → Reading α)
    (progress : Progress) : α × Progress :=
  match progress.take with
  | (none, progress) => (ofChar 0, progress)
  | (some arg, progress) =>
    let spelled : Octets → Option (Nat × Octets)
      | [] => if voice = .shell then some (0, []) else none
      | c :: rest => some (c.toNat, rest)
    let literal := match arg with
      | '\'' :: rest | '"' :: rest => spelled rest
      | _ => none
    match literal with
    | some (value, rest) =>
      (ofChar value,
        if voice = .program ∧ !rest.isEmpty then progress.complain (.moreThanOneCharacter rest) 0
        else progress)
    | none =>
      let reading := read arg
      (reading.value,
        if !reading.inRange && reading.rest.isEmpty then progress.complain (.outOfRange arg) 1
        else if reading.rest.isEmpty || arg.isEmpty then progress
        else progress.complain (if reading.found then .partNumber arg else .noNumber arg) 1)

end Progress

/-- A directive after its percent sign, before arguments have given its width and precision. -/
structure Directive where
  flags : Octets
  width : Option Nat
  precision : Option (Option Nat)
  letter : Option Char
  text : Octets
  rest : Octets
  deriving Repr, DecidableEq

def readCount (text : Octets) : Option Nat × Octets :=
  match text with
  | '*' :: rest => (none, rest)
  | text =>
    let digits := text.takeWhile Char.isDigit
    (some (valueOf 10 digits), text.drop digits.length)

def readDirective (voice : Voice) (text : Octets) : Directive :=
  let isFlag (c : Char) : Bool :=
    c == '-' || c == '+' || c == ' ' || c == '#' || c == '0' ||
      (voice == .program && (c == '\'' || c == 'I'))
  let flags := text.takeWhile isFlag
  let (width, rest) := readCount (text.drop flags.length)
  let (precision, rest) : Option (Option Nat) × Octets := match rest with
    | '.' :: rest =>
      let (count, rest) := readCount rest
      (some count, rest)
    | rest => (none, rest)
  let isSize (c : Char) : Bool :=
    voice == .program && (c == 'l' || c == 'L' || c == 'h' || c == 'j' || c == 't' || c == 'z')
  let rest := rest.dropWhile isSize
  ⟨flags, width, precision, rest.head?, '%' :: text.take (text.length - rest.tail.length), rest.tail⟩

def Directive.isValid (directive : Directive) (voice : Voice) : Bool :=
  match directive.letter with
  | none => false
  | some c =>
    let plain := directive.flags.isEmpty && directive.width == some 0 && directive.precision.isNone
    if voice = .shell then "bcsdiouxXeEfFgG".toList.contains c
    else if directive.flags.contains '#' && "cdisu".toList.contains c then false
    else if directive.flags.contains '0' && "cs".toList.contains c then false
    else if directive.precision.isSome && c == 'c' then false
    else if c == 'b' || c == 'q' then plain
    else "csdiouxXeEfFgG".toList.contains c

/-- Takes a width or a precision, which has 32 bits. One below a `least` of zero is as good as none. -/
def Progress.count (progress : Progress) (voice : Voice) (least : Int) (tooLarge : Octets → Complaint) :
    Int × Progress :=
  let text := progress.args.head?.getD []
  let (count, progress) := progress.number voice Int.ofNat readSigned
  match voice with
  | .shell => (count.bmod 4294967296, progress)
  | .program =>
    if count < 0 ∧ least = 0 then (-1, progress)
    else if 2147483648 ≤ count ∨ count < least then (0, progress.fail (tooLarge text) 1)
    else (count, progress)

/-- The width and precision. A sign before the width means the left, one before the precision that
there is none. -/
def Progress.layout (progress : Progress) (voice : Voice) (directive : Directive) : Layout × Progress :=
  let (width, progress) : Int × Progress := match directive.width with
    | some width => (width, progress)
    | none => progress.count voice (-2147483648) .badWidth
  let (precision, progress) : Option Nat × Progress := match directive.precision with
    | none => (none, progress)
    | some (some count) => (some count, progress)
    | some none =>
      let (count, progress) := progress.count voice 0 .badPrecision
      (if count < 0 then none else some count.toNat, progress)
  let has := directive.flags.contains
  (⟨has '-' || width < 0, has '+', has ' ', has '#', has '0', width.natAbs, precision⟩, progress)

def Progress.direct (progress : Progress) (voice : Voice) (directive : Directive) : Progress :=
  let (layout, progress) := progress.layout voice directive
  if progress.stopped then progress
  else match directive.letter with
  | none =>
    if voice = .shell then progress.fail .noConversion 2
    else progress.fail (.badDirective directive.text) 1
  | some c =>
    if !directive.isValid voice then
      progress.fail (.badDirective directive.text) (if voice = .shell then 2 else 1)
    else
      let real (style : Char) : Progress :=
        let (bits, limit) := if voice = .shell then (53, 1024) else (64, 16384)
        let ((negative, value), progress) :=
          progress.number voice (fun n => (false, .finite n 1)) (readReal bits limit)
        progress.print (layout.real style c.isUpper negative value)
      match c with
      | 's' =>
        let (arg, progress) := progress.take
        progress.print (layout.text (arg.getD []))
      | 'c' =>
        let (arg, progress) := progress.take
        progress.print (layout.fill [((arg.getD []).head?).getD '\x00'])
      | 'q' =>
        match progress.take with
        | (some arg, progress) => progress.print (shellQuoted false arg)
        | (none, progress) => progress
      | 'b' =>
        let (arg, progress) := progress.take
        let arg := arg.getD []
        match unescape voice.argumentRules (arg.length + 1) arg with
        | (text, none) => progress.print (layout.text text)
        | (text, some .noNumber) => (progress.print text).fail .noHexNumber 1
        | (text, some _) => (progress.print (layout.text text)).stop voice
      | 'd' | 'i' =>
        let (value, progress) := progress.number voice Int.ofNat readSigned
        progress.print (layout.signed value)
      | 'u' | 'o' | 'x' | 'X' =>
        let (value, progress) := progress.number voice id readUnsigned
        progress.print (match c with
          | 'u' => layout.unsigned value
          | 'o' => layout.octal value
          | c => layout.hex (c == 'X') value)
      | 'f' | 'F' => real 'f'
      | 'e' | 'E' => real 'e'
      | _ => real 'g'

def formatOnce (voice : Voice) : Nat → Octets → Progress → Progress
  | 0, _, progress => progress
  | _ + 1, [], progress => progress
  | fuel + 1, c :: rest, progress =>
    if progress.stopped then progress
    else match c, rest with
      | '%', '%' :: rest => formatOnce voice fuel rest (progress.print ['%'])
      | '%', rest =>
        let directive := readDirective voice rest
        formatOnce voice fuel directive.rest (progress.direct voice directive)
      | '\\', rest =>
        match readEscape voice.formatRules rest with
        | (.char c, rest) => formatOnce voice fuel rest (progress.print [c])
        | (.stop, _) => progress.stop voice
        | (.noNumber, _) => progress.fail .noHexNumber 1
      | c, rest => formatOnce voice fuel rest (progress.print [c])

/-- Prints a format again and again until it has taken all arguments. -/
def formatAll (voice : Voice) (format : Octets) : Nat → Progress → Progress
  | 0, progress => progress
  | fuel + 1, progress =>
    let next := formatOnce voice (format.length + 1) format { progress with used := false }
    if next.stopped || next.args.isEmpty || !next.used then next else formatAll voice format fuel next

/-- Prints a format and says what was wrong with it; `name` starts each complaint. -/
def run (voice : Voice) (name : Octets) (args : List Octets) : Outcome :=
  let outcome (progress : Progress) : Outcome :=
    ⟨progress.code, progress.out, progress.complaints.flatMap fun complaint =>
      name ++ ": ".toList ++ complaint.message voice ++ ['\n']⟩
  let formatted (format : Octets) (args : List Octets) : Outcome :=
    let final := formatAll voice format (args.length + 1) { args := args }
    outcome (match voice, final.args with
      | .program, arg :: _ => if final.stopped then final else final.complain (.excess arg) 0
      | _, _ => final)
  let refused (complaint : Complaint) : Outcome :=
    outcome (({ args := [] } : Progress).fail complaint (if voice = .shell then 2 else 1))
  match args with
  | [] | [['-', '-']] => refused .noFormat
  | ['-', '-'] :: format :: args => formatted format args
  | format :: args =>
    match voice, format with
    | .shell, '-' :: c :: _ => refused (.badOption c)
    | _, _ => formatted format args

/-- Joins words, and ends with a newline unless it was refused or an escape ended the output. -/
def line (rules? : Option EscapeRules) (newline : Bool) (words : List Octets) : Outcome :=
  let text := [' '].intercalate words
  let (text, ending) := match rules? with
    | some rules => unescape rules (text.length + 1) text
    | none => (text, none)
  prints (text ++ if newline && ending.isNone then ['\n'] else [])

/-- The options of the program `echo`: words of the letters `n`, `e` and `E`. -/
def echoOptions (newline escapes : Bool) : List Octets → Bool × Bool × List Octets
  | [] => (newline, escapes, [])
  | word :: rest =>
    match word with
    | '-' :: c :: letters =>
      if (c :: letters).all fun c => c == 'n' || c == 'e' || c == 'E' then
        echoOptions (newline && !(c :: letters).contains 'n')
          ((c :: letters).foldl (fun escapes c => if c = 'n' then escapes else c == 'e') escapes) rest
      else (newline, escapes, word :: rest)
    | _ => (newline, escapes, word :: rest)

end Printing

/-- Prints its arguments between spaces. The shell resolves escapes, the program only if it is asked
to. -/
def echo (voice : Printing.Voice) (args : List Octets) : Outcome :=
  match voice with
  | .shell =>
    match args with
    | ['-', 'n'] :: rest => Printing.line (some voice.argumentRules) false rest
    | args => Printing.line (some voice.argumentRules) true args
  | .program =>
    let (newline, escapes, words) := Printing.echoOptions true false args
    Printing.line (if escapes then some ⟨true, true, false, true, false⟩ else none) newline words

def printf (args : List Octets) : Outcome := Printing.run .program "printf".toList args

end Dialect.Filter
