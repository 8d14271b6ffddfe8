import Dialect.Filter.Octet

/-! The words after the name of a program: options, which start with a hyphen, and operands. -/
namespace Dialect.Filter

inductive Wants where
  | nothing
  | value
  | attached
  deriving Repr, DecidableEq

structure Switch where
  /-- Its letter, or the sign by which the program refers to an option that has only names. -/
  key : Char
  names : List String := []
  wants : Wants := .nothing
  hasLetter : Bool := true
  deriving Repr, DecidableEq

structure Given where
  key : Char
  value : Octets := []
  deriving Repr, DecidableEq

inductive Misuse where
  | unknownLetter (letter : Char)
  | unknownName (name : Octets)
  | ambiguous (name : Octets) (candidates : List String)
  | letterLacksValue (letter : Char)
  | nameLacksValue (name : String)
  | excessValue (name : String)
  deriving Repr, DecidableEq

def Misuse.message : Misuse → Octets
  | .unknownLetter letter => "invalid option -- '".toList ++ [letter, '\'']
  | .unknownName name => "unrecognized option '--".toList ++ name ++ ['\'']
  | .ambiguous name candidates =>
    "option '--".toList ++ name ++ "' is ambiguous; possibilities:".toList ++
      candidates.flatMap fun candidate => s!" '--{candidate}'".toList
  | .letterLacksValue letter => "option requires an argument -- '".toList ++ [letter, '\'']
  | .nameLacksValue name => s!"option '--{name}' requires an argument".toList
  | .excessValue name => s!"option '--{name}' doesn't allow an argument".toList

structure Arguments where
  given : List Given := []
  operands : List Octets := []
  deriving Repr, DecidableEq

namespace Arguments

def has (arguments : Arguments) (key : Char) : Bool := arguments.given.any (·.key == key)

def value? (arguments : Arguments) (key : Char) : Option Octets :=
  (arguments.given.reverse.find? (·.key == key)).map (·.value)

def values (arguments : Arguments) (key : Char) : List Octets :=
  (arguments.given.filter (·.key == key)).map (·.value)

end Arguments

/-- Reads the letters of one word; a value may be the next word. -/
def readLetters (switches : List Switch) : Octets → List Octets → Except Misuse (List Given × List Octets)
  | [], rest => .ok ([], rest)
  | c :: letters, rest =>
    match switches.find? fun switch => switch.hasLetter && switch.key == c with
    | none => .error (.unknownLetter c)
    | some switch =>
      match switch.wants, letters, rest with
      | .nothing, letters, rest => do
        let (given, rest) ← readLetters switches letters rest
        return (⟨c, []⟩ :: given, rest)
      | .attached, letters, rest => .ok ([⟨c, letters⟩], rest)
      | .value, [], [] => .error (.letterLacksValue c)
      | .value, [], value :: rest => .ok ([⟨c, value⟩], rest)
      | .value, letters, rest => .ok ([⟨c, letters⟩], rest)

/-- The option that a name or the start of a name means. -/
def switchOf (switches : List Switch) (name : Octets) : Except Misuse (Switch × String) :=
  let known := switches.flatMap fun switch => switch.names.map fun name => (switch, name)
  match known.find? fun (_, full) => full.toList == name with
  | some found => .ok found
  | none =>
    match known.filter fun (_, full) => name.isPrefixOf full.toList with
    | [] => .error (.unknownName name)
    | first :: more =>
      if more.all (·.1 == first.1) then .ok first
      else .error (.ambiguous name ((first :: more).map (·.2)))

def readName (switches : List Switch) (word : Octets) (rest : List Octets) :
    Except Misuse (Given × List Octets) := do
  let name := word.takeWhile (· ≠ '=')
  let value := word.drop (name.length + 1)
  let valued := name.length < word.length
  match switchOf switches name with
  | .error (.unknownName _) => .error (.unknownName word)
  | .error misuse => .error misuse
  | .ok (switch, full) =>
    match switch.wants, rest with
    | .nothing, rest => if valued then .error (.excessValue full) else .ok (⟨switch.key, []⟩, rest)
    | .attached, rest => .ok (⟨switch.key, value⟩, rest)
    | .value, rest =>
      if valued then .ok (⟨switch.key, value⟩, rest)
      else match rest with
        | value :: rest => .ok (⟨switch.key, value⟩, rest)
        | [] => .error (.nameLacksValue full)

/-- Reads words from the first on. Options may follow operands if `mixed` says so; two hyphens end
them. -/
def readWords (switches : List Switch) (mixed : Bool) : Nat → List Octets → Except Misuse Arguments
  | 0, words => .ok { operands := words }
  | _ + 1, [] => .ok {}
  | fuel + 1, word :: rest =>
    match word with
    | ['-', '-'] => .ok { operands := rest }
    | '-' :: '-' :: name => do
      let (given, rest) ← readName switches name rest
      let more ← readWords switches mixed fuel rest
      return { more with given := given :: more.given }
    | '-' :: c :: letters => do
      let (given, rest) ← readLetters switches (c :: letters) rest
      let more ← readWords switches mixed fuel rest
      return { more with given := given ++ more.given }
    | operand =>
      if mixed then do
        let more ← readWords switches mixed fuel rest
        return { more with operands := operand :: more.operands }
      else .ok { operands := operand :: rest }

def Arguments.read (switches : List Switch) (words : List Octets) (mixed : Bool := true) :
    Except Misuse Arguments :=
  readWords switches mixed words.length words

def misused (program : String) (code : Nat) (misuse : Misuse) : Outcome :=
  let name := program.toList
  ⟨code, [], name ++ ": ".toList ++ misuse.message ++ "\nTry '".toList ++ name ++
    " --help' for more information.\n".toList⟩

end Dialect.Filter
