import Dialect.Filter.Copying

/-! The programs `sort` and `uniq`, which order lines and join equal neighbours. -/
namespace Dialect.Filter.Sorting

inductive Kind where
  | text | number | human | month | version
  deriving Repr, DecidableEq

structure Manner where
  kind : Kind := .text
  backward : Bool := false
  skipBlanks : Bool := false
  foldCase : Bool := false
  dictionary : Bool := false
  printable : Bool := false
  deriving Repr, DecidableEq

/-- A place in a line: a field and a character in it, counted from 1; character 0 is the end of a
field. -/
structure Place where
  field : Nat
  char : Nat
  skipBlanks : Bool
  deriving Repr, DecidableEq

structure Key where
  first : Place
  last : Option Place
  manner : Option Manner
  deriving Repr, DecidableEq

def isBlank (c : Char) : Bool := c == ' ' || c == '\t'

/-- The rest of a line after so many fields. Without a separator a field starts with its blanks. -/
def afterFields (separator : Option Char) : Nat → Octets → Octets
  | 0, line => line
  | count + 1, line =>
    match separator with
    | some c => afterFields separator count ((line.dropWhile (· ≠ c)).drop 1)
    | none => afterFields separator count ((line.dropWhile isBlank).dropWhile (!isBlank ·))

/-- The rest of a line after a field, before the separator that follows it. -/
def atFieldEnd (separator : Option Char) (line : Octets) : Octets :=
  match separator with
  | some c => line.dropWhile (· ≠ c)
  | none => (line.dropWhile isBlank).dropWhile (!isBlank ·)

def Key.part (key : Key) (separator : Option Char) (line : Octets) : Octets :=
  let start := afterFields separator (key.first.field - 1) line
  let start := if key.first.skipBlanks then start.dropWhile isBlank else start
  let start := start.drop (key.first.char - 1)
  match key.last with
  | none => start
  | some last =>
    let field := afterFields separator (last.field - 1) line
    let rest :=
      if last.char = 0 then atFieldEnd separator field
      else (if last.skipBlanks then field.dropWhile isBlank else field).drop last.char
    start.take (start.length - rest.length)

/-- A decimal number at the start of a text, after blanks: its sign, its digits before the point
without leading zeros, and those after it without trailing ones. -/
structure Decimal where
  negative : Bool
  whole : Nat
  fraction : Octets
  unit : Nat := 0
  deriving Repr, DecidableEq

def Decimal.of (text : Octets) : Decimal :=
  let text := text.dropWhile isBlank
  let negative := text.head? = some '-'
  let text := if negative then text.tail else text
  let whole := text.takeWhile Char.isDigit
  let rest := text.drop whole.length
  let fraction := if rest.head? = some '.' then rest.tail.takeWhile Char.isDigit else []
  let rest := if rest.head? = some '.' then rest.drop (fraction.length + 1) else rest
  let unit := match rest.head? with
    | some c => ("KMGTPEZYRQ".toList.findIdx? (· == c.toUpper)).elim 0 (· + 1)
    | none => 0
  ⟨negative, (number? whole).getD 0, (fraction.reverse.dropWhile (· == '0')).reverse, unit⟩

def Decimal.isZero (n : Decimal) : Bool := n.whole == 0 && n.fraction.isEmpty

def compareText (a b : Octets) : Ordering :=
  match a, b with
  | [], [] => .eq
  | [], _ :: _ => .lt
  | _ :: _, [] => .gt
  | c :: a, d :: b => if c < d then .lt else if d < c then .gt else compareText a b

def Decimal.compare (human : Bool) (a b : Decimal) : Ordering :=
  let size (a b : Decimal) : Ordering :=
    (if human then Ord.compare a.unit b.unit else .eq).then
      ((Ord.compare a.whole b.whole).then (compareText a.fraction b.fraction))
  match a.negative && !a.isZero, b.negative && !b.isZero with
  | false, false => if human && a.isZero && b.isZero then .eq else size a b
  | true, true => size b a
  | true, false => .lt
  | false, true => .gt

def monthOf (text : Octets) : Nat :=
  let name := ((text.dropWhile isBlank).take 3).map Char.toUpper
  (["JAN", "FEB", "MAR", "APR", "MAY", "JUN", "JUL", "AUG", "SEP", "OCT", "NOV", "DEC"].findIdx?
    fun month => month.toList == name).elim 0 (· + 1)

/-- Order of versions: digits count as numbers, letters come before other signs. -/
def compareVersion : Nat → Octets → Octets → Ordering
  | 0, _, _ => .eq
  | _ + 1, [], [] => .eq
  | fuel + 1, a, b =>
    let weight (c : Option Char) : Int := match c with
      | none => 0
      | some '~' => -1
      | some c => if c.isDigit then 0 else if c.isAlpha then c.toNat else c.toNat + 256
    let headA := a.head?
    let headB := b.head?
    if headA.any (!·.isDigit) || headB.any (!·.isDigit) then
      if weight headA = weight headB then compareVersion fuel a.tail b.tail
      else Ord.compare (weight headA) (weight headB)
    else
      let digitsA := a.takeWhile Char.isDigit
      let digitsB := b.takeWhile Char.isDigit
      (Ord.compare ((number? digitsA).getD 0) ((number? digitsB).getD 0)).then
        (if digitsA.isEmpty && digitsB.isEmpty then .eq
          else compareVersion fuel (a.drop digitsA.length) (b.drop digitsB.length))

def Manner.compare (manner : Manner) (a b : Octets) : Ordering :=
  let seen (text : Octets) : Octets :=
    let text := if manner.skipBlanks then text.dropWhile isBlank else text
    let text :=
      if manner.dictionary then text.filter fun c => isBlank c || c.isAlphanum
      else if manner.printable then text.filter isPrintable
      else text
    if manner.foldCase then text.map Char.toUpper else text
  let order := match manner.kind with
    | .text => compareText (seen a) (seen b)
    | .number => (Decimal.of a).compare false (Decimal.of b)
    | .human => (Decimal.of a).compare true (Decimal.of b)
    | .month => Ord.compare (monthOf a) (monthOf b)
    | .version => compareVersion (a.length + b.length + 1) a b
  if manner.backward then order.swap else order

structure Settings where
  keys : List Key := []
  manner : Manner := {}
  separator : Option Char := none
  stable : Bool := false
  unique : Bool := false
  deriving Repr, DecidableEq

def Settings.compareKeys (settings : Settings) (a b : Octets) : Ordering :=
  if settings.keys.isEmpty then settings.manner.compare a b
  else settings.keys.foldl
    (fun order key => order.then
      ((key.manner.getD settings.manner).compare (key.part settings.separator a)
        (key.part settings.separator b)))
    .eq

/-- Lines whose keys are equal are ordered as a whole, unless their order is kept. -/
def Settings.compare (settings : Settings) (a b : Octets) : Ordering :=
  let plain := settings.keys.isEmpty && settings.manner == { backward := settings.manner.backward }
  (settings.compareKeys a b).then
    (if settings.stable || settings.unique || plain then .eq
      else if settings.manner.backward then (compareText a b).swap
      else compareText a b)

def Settings.sorted (settings : Settings) (lines : List Octets) : List Octets :=
  let sorted := lines.mergeSort fun a b => settings.compare a b != .gt
  if settings.unique then
    sorted.foldr
      (fun line kept => match kept with
        | next :: more =>
          if settings.compareKeys line next == .eq then line :: more else line :: next :: more
        | [] => [line])
      []
  else sorted

def Manner.withLetter? (manner : Manner) : Char → Option Manner
  | 'b' => some { manner with skipBlanks := true }
  | 'd' => some { manner with dictionary := true }
  | 'f' => some { manner with foldCase := true }
  | 'g' | 'n' => some { manner with kind := .number }
  | 'h' => some { manner with kind := .human }
  | 'i' => some { manner with printable := true }
  | 'M' => some { manner with kind := .month }
  | 'r' => some { manner with backward := true }
  | 'V' => some { manner with kind := .version }
  | _ => none

/-- Letters that exclude each other, in the order in which they are shown. -/
def conflict? (letters : Octets) : Option Octets :=
  let has := letters.contains
  let count := ("nghM".toList.filter has).length +
    if has 'V' || has 'd' || has 'i' then 1 else 0
  let shown := "dfghiMnV".toList.filter fun c => has c && !(c == 'i' && has 'd')
  if 1 < count then some shown else none

def readPlace? (text : Octets) (char : Nat) : Option (Place × Octets × Octets) := do
  let field := text.takeWhile Char.isDigit
  let n ← number? field
  let rest := text.drop field.length
  let (charNumber, rest) := match rest with
    | '.' :: rest =>
      let digits := rest.takeWhile Char.isDigit
      ((number? digits).getD char, rest.drop digits.length)
    | rest => (char, rest)
  let letters := rest.takeWhile fun c => ({} : Manner).withLetter? c |>.isSome
  return (⟨n, charNumber, letters.contains 'b'⟩, letters, rest.drop letters.length)

def Key.ofText? (text : Octets) : Option Key := do
  let (first, letters, rest) ← readPlace? text 1
  let (last, more, rest) ← match rest with
    | ',' :: rest => do
      let (last, more, rest) ← readPlace? rest 0
      pure (some last, more, rest)
    | rest => pure (none, [], rest)
  if !rest.isEmpty || first.field = 0 then none
  let all := letters ++ more
  let manner := all.foldl (fun manner c => (manner.withLetter? c).getD manner) ({} : Manner)
  -- Blanks are skipped where a place says so, not by the comparison.
  return ⟨first, last, if all.isEmpty then none else some { manner with skipBlanks := false }⟩

def switches : List Switch := [
  ⟨'b', ["ignore-leading-blanks"], .nothing, true⟩,
  ⟨'d', ["dictionary-order"], .nothing, true⟩,
  ⟨'f', ["ignore-case"], .nothing, true⟩,
  ⟨'g', ["general-numeric-sort"], .nothing, true⟩,
  ⟨'i', ["ignore-nonprinting"], .nothing, true⟩,
  ⟨'M', ["month-sort"], .nothing, true⟩,
  ⟨'h', ["human-numeric-sort"], .nothing, true⟩,
  ⟨'n', ["numeric-sort"], .nothing, true⟩,
  ⟨'r', ["reverse"], .nothing, true⟩,
  ⟨'V', ["version-sort"], .nothing, true⟩,
  ⟨'c', ["check"], .attached, true⟩,
  ⟨'C', [], .nothing, true⟩,
  ⟨'k', ["key"], .value, true⟩,
  ⟨'m', ["merge"], .nothing, true⟩,
  ⟨'o', ["output"], .value, true⟩,
  ⟨'s', ["stable"], .nothing, true⟩,
  ⟨'t', ["field-separator"], .value, true⟩,
  ⟨'u', ["unique"], .nothing, true⟩,
  ⟨'z', ["zero-terminated"], .nothing, true⟩]

def disorder? (settings : Settings) (number : Nat) : List Octets → Option (Nat × Octets)
  | a :: b :: rest =>
    let order := settings.compare a b
    if order == .gt || (settings.unique && order == .eq) then some (number + 1, b)
    else disorder? settings (number + 1) (b :: rest)
  | _ => none

def readKeys (manner : Manner) : List Octets → Except Octets (List Key)
  | [] => .ok []
  | text :: rest => do
    match Key.ofText? text with
    | none => .error text
    | some key =>
      let inherited := key.manner.isNone && manner.skipBlanks
      let skip (place : Place) : Place := { place with skipBlanks := place.skipBlanks || inherited }
      return { key with first := skip key.first, last := key.last.map skip } :: (← readKeys manner rest)

/-- Sorts the lines of the files, or looks whether they are in order. -/
def sortWith (arguments : Arguments) (manner : Manner) (separator : Option Char) (keys : List Key)
    (input : Octets) : Outcome :=
  let settings : Settings := ⟨keys, manner, separator, arguments.has 's', arguments.has 'u'⟩
  let files := filesOf input arguments.operands
  match files.find? (·.text.isNone) with
  | some file =>
    ⟨2, [], "sort: cannot read: ".toList ++ shellQuoted true file.name ++
      ": No such file or directory\n".toList⟩
  | none =>
    let text := files.flatMap fun file => file.text.getD []
    let lines := linesOf (arguments.has 'z') text
    let delimiter := if arguments.has 'z' then '\x00' else '\n'
    if arguments.has 'c' || arguments.has 'C' then
      match disorder? settings 1 lines with
      | none => {}
      | some (number, line) =>
        ⟨1, [], if arguments.has 'C' then []
          else s!"sort: -:{number}: disorder: ".toList ++ line ++ ['\n']⟩
    else prints ((settings.sorted lines).flatMap (· ++ [delimiter]))

def sort (args : List Octets) (input : Octets) : Outcome :=
  match Arguments.read switches args with
  | .error misuse => misused "sort" 2 misuse
  | .ok arguments =>
    let letters := (arguments.given.map (·.key)).filter fun c => (({} : Manner).withLetter? c).isSome
    let manner := letters.foldl (fun manner c => (manner.withLetter? c).getD manner) ({} : Manner)
    let separator? : Option (Option Char) := match arguments.value? 't' with
      | none => some none
      | some [c] => some (some c)
      | some ['\\', '0'] => some (some '\x00')
      | some _ => none
    match separator?, readKeys manner (arguments.values 'k') with
    | some separator, .ok [] =>
      match conflict? letters with
      | some shown => ⟨2, [], "sort: options '-".toList ++ shown ++ "' are incompatible\n".toList⟩
      | none => sortWith arguments manner separator [] input
    | none, _ =>
      if arguments.value? 't' = some [] then complains 2 "sort: empty tab"
      else
        ⟨2, [], "sort: multi-character tab ".toList ++ quoted ((arguments.value? 't').getD []) ++ ['\n']⟩
    | _, .error text =>
      if text.head? = some '0' then
        ⟨2, [], "sort: field number is zero: invalid field specification ".toList ++ quoted text ++ ['\n']⟩
      else
        ⟨2, [], "sort: invalid number at field start: invalid count at start of ".toList ++
          quoted text ++ ['\n']⟩
    | some separator, .ok keys => sortWith arguments manner separator keys input

end Dialect.Filter.Sorting

namespace Dialect.Filter

def uniqSwitches : List Switch := [
  ⟨'c', ["count"], .nothing, true⟩,
  ⟨'d', ["repeated"], .nothing, true⟩,
  ⟨'D', [], .nothing, true⟩,
  ⟨'f', ["skip-fields"], .value, true⟩,
  ⟨'i', ["ignore-case"], .nothing, true⟩,
  ⟨'s', ["skip-chars"], .value, true⟩,
  ⟨'u', ["unique"], .nothing, true⟩,
  ⟨'w', ["check-chars"], .value, true⟩,
  ⟨'z', ["zero-terminated"], .nothing, true⟩]

def runsBy (key : Octets → Octets) : List Octets → List (List Octets)
  | [] => []
  | row :: rest =>
    match runsBy key rest with
    | (next :: more) :: others =>
      if key row = key next then (row :: next :: more) :: others else [row] :: (next :: more) :: others
    | _ => [[row]]

def uniq (args : List Octets) (input : Octets) : Outcome :=
  match Arguments.read uniqSwitches args with
  | .error misuse => misused "uniq" 1 misuse
  | .ok arguments =>
    let count (key : Char) : Option (Option Nat) :=
      match arguments.value? key with
      | none => some none
      | some text => (number? text).map some
    let bad (key : Char) (what : String) : Outcome :=
      ⟨1, [], "uniq: ".toList ++ (arguments.value? key).getD [] ++
        s!": invalid number of {what}\n".toList⟩
    match count 'f', count 's', count 'w' with
    | none, _, _ => bad 'f' "fields to skip"
    | _, none, _ => bad 's' "bytes to skip"
    | _, _, none => bad 'w' "bytes to compare"
    | some fields, some chars, some compared =>
      let key (row : Octets) : Octets :=
        let row := Sorting.afterFields none (fields.getD 0) row
        let row := row.drop (chars.getD 0)
        let row := match compared with
          | some count => row.take count
          | none => row
        if arguments.has 'i' then row.map Char.toLower else row
      let delimiter := if arguments.has 'z' then '\x00' else '\n'
      let found := gathered (missingFile "uniq") (filesOf input (arguments.operands.take 1))
      let runs := runsBy key (linesOf (arguments.has 'z') found.out)
      let kept := runs.filter fun run =>
        (!(arguments.has 'd' || arguments.has 'D') || 1 < run.length) &&
          (!arguments.has 'u' || run.length == 1)
      let shown := kept.flatMap fun run =>
        let lines := if arguments.has 'D' then run else run.take 1
        lines.flatMap fun row =>
          (if arguments.has 'c' then inColumn 7 run.length ++ [' '] else []) ++ row ++ [delimiter]
      { found with out := shown }

end Dialect.Filter
