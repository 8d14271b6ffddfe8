import Dialect.Filter.Arguments
import Dialect.Filter.StreamEdit.Run

/-! The filter `sed`. -/
namespace Dialect.Filter.StreamEdit

def switches : List Switch := [
  ⟨'n', ["quiet", "silent"], .nothing, true⟩,
  ⟨'e', ["expression"], .value, true⟩,
  ⟨'f', ["file"], .value, true⟩,
  ⟨'E', ["regexp-extended"], .nothing, true⟩,
  ⟨'r', [], .nothing, true⟩,
  ⟨'i', ["in-place"], .attached, true⟩,
  ⟨'l', ["line-length"], .value, true⟩,
  ⟨'s', ["separate"], .nothing, true⟩,
  ⟨'u', ["unbuffered"], .nothing, true⟩,
  ⟨'b', ["binary"], .nothing, true⟩,
  ⟨'z', ["null-data", "zero-terminated"], .nothing, true⟩,
  ⟨'p', ["posix"], .nothing, false⟩,
  ⟨'L', ["follow-symlinks"], .nothing, false⟩]

def Refusal.outcome : Refusal → Outcome
  | .mistake cause expression char =>
    complains 1 s!"sed: -e expression #{expression}, char {char}: {cause.message}"
  | .noLabel label => ⟨4, [], "sed: can't find label for jump to \x60".toList ++ label ++ ['\'', '\n']⟩
  | .bareClass => complains 4 s!"sed: {PatternFault.bareClass.message}"

def linesOf (delimiter : Char) (input : Octets) : List (Octets × Bool) :=
  if delimiter = '\n' then rows input
  else
    let exchange (c : Char) : Char := if c = '\n' then delimiter else if c = delimiter then '\n' else c
    (rows (input.map exchange)).map fun (line, ended) => (line.map exchange, ended)

/-- More steps than a script takes that ends: each line may go through all instructions about as
often as there are characters. -/
def stepLimit (script : List Instruction) (input : Octets) : Nat :=
  100000 + 64 * (script.length + 1) * (input.length + 64)

/-- Runs a script on files, of which only the standard input and empty ones exist. -/
def editFiles (script : Script) (settings : Settings) (files : List Octets) (input : Octets) : Outcome :=
  let isInput (name : Octets) : Bool := name == ['-'] || name == "/dev/stdin".toList
  let missing := files.filter fun name => !isInput name && name ≠ "/dev/null".toList
  let lines :=
    if files.isEmpty || files.any isInput then linesOf settings.delimiter input else []
  let settings := { settings with quiet := settings.quiet || script.quiet }
  let final := edited script.instructions settings (stepLimit script.instructions input) lines
  let complaints := missing.flatMap fun name =>
    "sed: can't read ".toList ++ name ++ ": No such file or directory\n".toList
  let stuck := match final.stuck with
    | some mistake =>
      s!"sed: -e expression #{script.expressions}, char 0: {mistake.message}\n".toList
    | none => []
  ⟨if final.stuck.isSome then 1 else if final.code ≠ 0 then final.code else if missing.isEmpty then 0 else 2,
    final.out.reverse.flatten, complaints ++ final.err.reverse.flatten ++ stuck⟩

def run (args : List Octets) (input : Octets) : Outcome :=
  match Arguments.read switches args with
  | .error misuse => misused "sed" 1 misuse
  | .ok arguments =>
    let extended := arguments.has 'E' || arguments.has 'r'
    let settings : Settings := {
      quiet := arguments.has 'n'
      delimiter := if arguments.has 'z' then '\x00' else '\n'
      width := ((arguments.value? 'l').bind number?).getD 70 }
    match arguments.value? 'f' with
    | some name =>
      ⟨1, [], "sed: couldn't open file ".toList ++ name ++ ": No such file or directory\n".toList⟩
    | none =>
      let (scripts, files) := match arguments.values 'e', arguments.operands with
        | [], script :: files => ([script], files)
        | scripts, files => (scripts, files)
      if scripts.isEmpty then complains 1 "Usage: sed [OPTION]... \x7bscript-only-if-no-other-script\x7d [input-file]..."
      else match Script.ofExpressions extended scripts with
        | .error refusal => refusal.outcome
        | .ok script =>
          if arguments.has 'i' && files.isEmpty then complains 4 "sed: no input files"
          else editFiles script settings files input

end Dialect.Filter.StreamEdit
