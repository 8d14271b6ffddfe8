import Dialect.Mask.Construct
import Dialect.Mask.Placeholder
import Dialect.Mask.Splice
import Dialect.Position

/-! Masking: a document of the dialect becomes one that the tools of the host language accept. For
the formatter, constructs become placeholders, which are exchanged back in its output. For the parser
they become filler of the same length, so that positions that it reports stay right. -/
namespace Dialect

inductive MaskMode where
  | format | check
  deriving Repr, DecidableEq

structure Masked where
  text : List Char
  placeholders : List Placeholder
  wrapped : Bool
  mode : MaskMode
  deriving Repr, DecidableEq

/-- As long as the given text, with its line breaks where they were; first `lead`, then blanks. -/
def filler : List Char → List Char → List Char
  | [], _ => []
  | c :: rest, lead =>
    if c = '\n' ∨ c = '\r' then c :: filler rest lead
    else lead.head?.getD ' ' :: filler rest lead.tail

/-- The masking of a document in the making. -/
structure Draft where
  stem : List Char
  placeholders : List Placeholder := []
  splices : List Splice := []
  deriving Repr

namespace Draft

def isClaimed (draft : Draft) (span : Span) : Bool := draft.splices.any (·.meets span)

def nextToken (draft : Draft) : List Char := tokenOf draft.stem draft.placeholders.length

def remember (draft : Draft) (text : List Char) (kind : PlaceholderKind) : Draft :=
  { draft with placeholders := draft.placeholders ++ [⟨draft.nextToken, text, kind⟩] }

def splice (draft : Draft) (span : Span) (replacement : List Char) : Draft :=
  { draft with splices := draft.splices ++ [⟨span, replacement⟩] }

def plain (draft : Draft) (source : List Char) (span : Span) : Draft :=
  (draft.remember (span.slice source) .plain).splice span draft.nextToken

/-- Splits a declaration with options in two assignments: the head takes the options, and an added
second one takes the value. -/
def split (draft : Draft) (source : List Char) (d : Declaration) : Draft :=
  let opened := (draft.remember (d.head.slice source) .assignment).splice d.head
    (draft.nextToken ++ [' ', '='])
  (opened.remember [] .continuation).splice ⟨d.equals, d.equals⟩
    ([';', ' '] ++ opened.nextToken ++ [' '])

/-- Masks one construct, unless something before it has claimed its stretch. -/
def mask (mode : MaskMode) (source : List Char) (draft : Draft) (construct : Construct) : Draft :=
  if draft.isClaimed construct.span then draft
  else match mode, construct with
    | .check, .declaration d =>
      let span : Span := ⟨d.head.start, d.equals⟩
      draft.splice span (filler (span.slice source) ['_'])
    | .check, .action span => draft.splice span (filler (span.slice source) ['_', ' ', '='])
    | .check, .node span | .check, .reference span =>
      draft.splice span (filler (span.slice source) ['_'])
    | .format, .declaration d =>
      if d.hasInlineOptions source then draft.split source d else draft.plain source d.head
    | .format, .action span =>
      (draft.remember actionShorthand .assignment).splice span (draft.nextToken ++ [' ', '=', ' '])
    | .format, .node span | .format, .reference span => draft.plain source span

def ofSource (mode : MaskMode) (source : List Char) : Draft :=
  (constructs source).foldl (mask mode source) { stem := freshStem source }

end Draft

def isFunctionHead (line : List Char) : Bool :=
  match leadingWord? line with
  | none => false
  | some name => startsWith [':'] (trimStart (line.drop name.length))

/-- Whether the host language accepts a document that starts with `line`. -/
def startsDocument (line : List Char) : Bool :=
  line.head?.any (fun c => c == '{' || c == '[' || c == '(' || c == '"') ||
    startsWith rawDelimiter line ||
    topLevelKeywords.any (fun keyword =>
      (after? keyword line).any (fun rest => !rest.head?.any isIdentChar)) ||
    isFunctionHead line

/-- Whether `text` needs braces around it. Text without code needs none. -/
def needsWrap (text : List Char) : Bool :=
  match ((lines text).map trimStart).find? (fun line =>
      !line.isEmpty && !startsWith [commentMarker] line) with
  | none => false
  | some line => !startsDocument line

def wrap (text : List Char) : List Char := ['{', '\n'] ++ text ++ ['\n', '}']

/-- Exchanges all constructs of `source` that the host language does not know. -/
def mask (mode : MaskMode) (source : List Char) : Masked :=
  let draft := Draft.ofSource mode source
  let text := Splice.weave source 0 (Splice.sort draft.splices)
  ⟨if needsWrap text then wrap text else text, draft.placeholders, needsWrap text, mode⟩

namespace Masked

/-- How many lines were added in front of the document. -/
def lineOffset (masked : Masked) : Nat := if masked.wrapped then 1 else 0

/-- The place in a document of `lineCount` lines that a position reported for the masked text means;
reported numbers count from one. -/
def sourcePosition (masked : Masked) (line column lineCount : Nat) : Position :=
  ⟨min (line - 1 - masked.lineOffset) (lineCount - 1), column - 1⟩

end Masked

end Dialect
