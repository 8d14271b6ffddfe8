import Dialect.Filter.Arguments

/-! The files that operands name. Of all files only the standard input and empty ones exist here, and
the input can be read once. -/
namespace Dialect.Filter

structure File where
  name : Octets
  text : Option Octets
  deriving Repr, DecidableEq

def isInput (name : Octets) : Bool := name == ['-'] || name == "/dev/stdin".toList

def filesNamed (input : Octets) : List Octets → List File
  | [] => []
  | name :: rest =>
    if isInput name then ⟨name, some input⟩ :: filesNamed [] rest
    else ⟨name, if name = "/dev/null".toList then some [] else none⟩ :: filesNamed input rest

/-- The files of a program that reads its input if none is named. -/
def filesOf (input : Octets) (operands : List Octets) : List File :=
  filesNamed input (if operands.isEmpty then [['-']] else operands)

def missingFile (program : String) (name : Octets) : Octets :=
  program.toList ++ ": ".toList ++ shellQuoted true name ++ ": No such file or directory\n".toList

def cannotOpen (program how : String) (name : Octets) : Octets :=
  s!"{program}: {how} ".toList ++ quoted name ++ " for reading: No such file or directory\n".toList

/-- The text of all files that exist, and complaints about the others. -/
def gathered (complaint : Octets → Octets) (files : List File) : Outcome :=
  let missing := files.filter (·.text.isNone)
  ⟨if missing.isEmpty then 0 else 1, files.flatMap fun file => file.text.getD [],
    missing.flatMap fun file => complaint file.name⟩

def transforming (program : String) (files : List File) (transform : Octets → Octets) : Outcome :=
  let found := gathered (missingFile program) files
  { found with out := transform found.out }

def unitFactor? (unit : Octets) : Option Nat :=
  match String.ofList unit with
  | "" => some 1
  | "b" => some 512
  | "kB" | "KB" => some 1000
  | "k" | "K" | "KiB" => some 1024
  | "MB" => some 1000000
  | "m" | "M" | "MiB" => some 1048576
  | "GB" => some 1000000000
  | "G" | "GiB" => some 1073741824
  | _ => none

def size? (text : Octets) : Option Nat := do
  let text := if text.head? = some '+' then text.tail else text
  let digits := text.takeWhile Char.isDigit
  let value ← number? digits
  let factor ← unitFactor? (text.drop digits.length)
  return value * factor

end Dialect.Filter
