import Dialect.Filter.Files

/-! The program `fold`, which breaks long lines. -/
namespace Dialect.Filter.Fold

def advance (bytes : Bool) (column : Nat) (c : Char) : Nat :=
  if bytes then column + 1
  else match c with
    | '\x08' => column - 1
    | '\r' => 0
    | '\t' => column + 8 - column % 8
    | _ => column + 1

def width (bytes : Bool) (column : Nat) (text : Octets) : Nat := text.foldl (advance bytes) column

/-- Breaks a line; `line` holds what has been read since the last break, in reverse. -/
def broken (bytes atSpaces : Bool) (limit : Nat) : Nat → Octets → Nat → Octets → List Octets
  | 0, line, _, _ => [line.reverse]
  | _ + 1, line, _, [] => [line.reverse]
  | fuel + 1, line, column, c :: rest =>
    let next := advance bytes column c
    if next ≤ limit then broken bytes atSpaces limit fuel (c :: line) next rest
    else if line.isEmpty then broken bytes atSpaces limit fuel [c] next rest
    else
      let kept := line.dropWhile fun d => !(d == ' ' || d == '\t')
      if atSpaces && !kept.isEmpty then
        let carried := line.take (line.length - kept.length)
        kept.reverse ::
          broken bytes atSpaces limit fuel carried (width bytes 0 carried.reverse) (c :: rest)
      else line.reverse :: broken bytes atSpaces limit fuel [] 0 (c :: rest)

def switches : List Switch := [
  ⟨'b', ["bytes"], .nothing, true⟩,
  ⟨'s', ["spaces"], .nothing, true⟩,
  ⟨'w', ["width"], .value, true⟩]

def longForm (word : Octets) : Octets :=
  match word with
  | '-' :: rest =>
    let letters := rest.takeWhile fun c => c == 'b' || c == 's'
    let rest := rest.drop letters.length
    if rest.head?.any Char.isDigit then '-' :: letters ++ 'w' :: rest else word
  | _ => word

def run (args : List Octets) (input : Octets) : Outcome :=
  match Arguments.read switches (args.map longForm) with
  | .error misuse => misused "fold" 1 misuse
  | .ok arguments =>
    let text := (arguments.value? 'w').getD "80".toList
    match number? text with
    | none => ⟨1, [], "fold: invalid number of columns: ".toList ++ quoted text ++ ['\n']⟩
    | some 0 =>
      ⟨1, [], "fold: invalid number of columns: ".toList ++ quoted text ++
        ": Numerical result out of range\n".toList⟩
    | some limit =>
      transforming "fold" (filesOf input arguments.operands) fun text =>
        (rows text).flatMap fun (row, ended) =>
          let lines := broken (arguments.has 'b') (arguments.has 's') limit (2 * row.length + 2) [] 0 row
          ['\n'].intercalate lines ++ if ended then ['\n'] else []

end Dialect.Filter.Fold
