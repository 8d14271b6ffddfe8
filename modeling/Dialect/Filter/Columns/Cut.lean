import Dialect.Filter.Files

/-! The program `cut`, which copies chosen columns or fields of lines. -/
namespace Dialect.Filter.Cut

structure Span where
  first : Nat
  last : Option Nat
  deriving Repr, DecidableEq

def Span.has (span : Span) (n : Nat) : Bool := span.first ≤ n && span.last.all (n ≤ ·)

inductive Fault where
  | zero
  | position (text : Octets)
  | range
  | noEnds
  | decreasing

def Fault.message (fields : Bool) : Fault → Octets
  | .zero => (if fields then "fields are numbered from 1"
      else "byte/character positions are numbered from 1").toList
  | .position text =>
    (if fields then "invalid field value " else "invalid byte/character position ").toList ++ quoted text
  | .range => (if fields then "invalid field range" else "invalid byte or character range").toList
  | .noEnds => "invalid range with no endpoint: -".toList
  | .decreasing => "invalid decreasing range".toList

/-- A number of a list; none stands for the end of the line. -/
def bound (text : Octets) : Except Fault (Option Nat) :=
  if text.isEmpty then .ok none
  else match number? text with
    | some n => .ok (some n)
    | none => .error (.position (text.dropWhile Char.isDigit))

def Span.ofText (text : Octets) : Except Fault Span := do
  match text.splitOn '-' with
  | [single] =>
    match ← bound single with
    | none | some 0 => throw .zero
    | some n => return ⟨n, some n⟩
  | [low, high] =>
    match ← bound low, ← bound high with
    | none, none => throw .noEnds
    | some 0, _ => throw .zero
    | low, high =>
      if high.any (· < low.getD 1) then throw .decreasing
      return ⟨low.getD 1, high⟩
  | _ => throw .range

def spansOf (text : Octets) : Except Fault (List Span) :=
  (text.splitBy fun a b => isMark a == isMark b && !isMark a).filter (fun part => !part.all isMark)
    |>.mapM Span.ofText
where
  isMark (c : Char) : Bool := c == ',' || c == ' ' || c == '\t'

/-- The chosen items, in the order of the line. Groups of neighbours stay apart. -/
def chosen {α : Type} (spans : List Span) (complement : Bool) (items : List α) : List (List α) :=
  let marked := items.zipIdx.filter fun (_, i) => (spans.any (·.has (i + 1))) != complement
  (marked.splitBy fun a b =>
    b.2 == a.2 + 1 && (complement ||
      !(spans.any fun span => span.first == b.2 + 1 && !spans.any fun other =>
        other.first < span.first && other.last.all (b.2 + 1 ≤ ·)) )).map fun group => group.map (·.1)

def switches : List Switch := [
  ⟨'b', ["bytes"], .value, true⟩,
  ⟨'c', ["characters"], .value, true⟩,
  ⟨'d', ["delimiter"], .value, true⟩,
  ⟨'f', ["fields"], .value, true⟩,
  ⟨'n', [], .nothing, true⟩,
  ⟨'s', ["only-delimited"], .nothing, true⟩,
  ⟨'1', ["complement"], .nothing, false⟩,
  ⟨'2', ["output-delimiter"], .value, false⟩,
  ⟨'z', ["zero-terminated"], .nothing, true⟩]

def fieldsLine? (arguments : Arguments) (spans : List Span) (delimiter : Char) (line : Octets) :
    Option Octets :=
  if line.contains delimiter then
    let chosen := (chosen spans (arguments.has '1') (line.splitOn delimiter)).flatten
    some (((arguments.value? '2').getD [delimiter]).intercalate chosen)
  else if arguments.has 's' then none
  else some line

def bytesLine (arguments : Arguments) (spans : List Span) (line : Octets) : Octets :=
  let groups := chosen spans (arguments.has '1') line
  match arguments.value? '2' with
  | some delimiter => delimiter.intercalate groups
  | none => groups.flatten

def run (args : List Octets) (input : Octets) : Outcome :=
  let refuse (message : Octets) : Outcome :=
    ⟨1, [], "cut: ".toList ++ message ++ "\nTry 'cut --help' for more information.\n".toList⟩
  match Arguments.read switches args with
  | .error misuse => misused "cut" 1 misuse
  | .ok arguments =>
    let lists := arguments.given.filter fun given =>
      given.key == 'b' || given.key == 'c' || given.key == 'f'
    if (arguments.value? 'd').any (1 < ·.length) then
      refuse "the delimiter must be a single character".toList
    else match lists with
    | [] => refuse "you must specify a list of bytes, characters, or fields".toList
    | _ :: _ :: _ => refuse "only one list may be specified".toList
    | [list] =>
      let fields := list.key == 'f'
      let delimiter := match arguments.value? 'd' with
        | none => '\t'
        | some text => text.headD '\x00'
      if !fields && arguments.has 'd' then
        refuse "an input delimiter may be specified only when operating on fields".toList
      else if !fields && arguments.has 's' then
        refuse "suppressing non-delimited lines makes sense\n\tonly when operating on fields".toList
      else match spansOf list.value with
        | .error fault => refuse (fault.message fields)
        | .ok [] => refuse (Fault.zero.message fields)
        | .ok spans =>
          let finish : Octets := if arguments.has 'z' then ['\x00'] else ['\n']
          transforming "cut" (filesOf input arguments.operands) fun text =>
            (linesOf (arguments.has 'z') text).flatMap fun line =>
              let shown :=
                if fields then fieldsLine? arguments spans delimiter line
                else some (bytesLine arguments spans line)
              match shown with
              | some shown => shown ++ finish
              | none => []

end Dialect.Filter.Cut
