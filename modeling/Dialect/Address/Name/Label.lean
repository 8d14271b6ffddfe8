import Dialect.Address.Name.Character
import Dialect.Address.Punycode
import Dialect.Text.Composite
import Dialect.Text.Direction
import Dialect.Text.Joining

/-! The labels of host names, which are the pieces between dots. -/
namespace Dialect.Address.Name

def nearest (text : List Char) : Option Char := (text.dropWhile isTransparent).head?

/-- Whether `c` may stand between `before`, nearest first, and `after`. Only the two joiners are in
question. Both may follow a mark that silences a vowel, and the one that separates may stand between
letters which would connect. -/
def fits (c : Char) (before after : List Char) : Bool :=
  if c.toNat == 0x200C || c.toNat == 0x200D then
    before.head?.any (fun d => combiningClass d == 9) ||
      (c.toNat == 0x200C && (nearest before).any joinsNext && (nearest after).any joinsPrevious)
  else true

def allFit (before : List Char) : List Char → Bool
  | [] => true
  | c :: rest => fits c before rest && allFit (c :: before) rest

/-- Whether a label starts with a character of its own, has joiners only where they do something and,
unless it is ASCII, is of a bearable length. -/
def isSound (label : List Char) : Bool :=
  !label.head?.any isMark && allFit [] label &&
    (label.all (·.toNat < 0x80) || label.length ≤ 1000)

/-- Whether the parts of a label cannot change places with each other, or with other labels, when a name
with both directions is shown. Marks at the end do not count. -/
def isSteady (label : List Char) : Bool :=
  let ways := label.map direction
  let counted := (ways.reverse.dropWhile (· == .mark)).reverse
  let last := counted.getLast?
  match ways with
  | [] => true
  | .left :: _ =>
    counted.all (fun way => way != .right && way != .arabic) &&
      (last == some .left || last == some .european)
  | .right :: _ =>
    counted.all (fun way => way != .left) &&
      (last == some .right || last == some .european || last == some .arabic) &&
      !(counted.contains .european && counted.contains .arabic)
  | _ => false

/-- Whether a label has something that is written from right to left. -/
def hasTurn (label : List Char) : Bool :=
  label.any fun c => direction c == .right || direction c == .arabic

/-- The code of a label that is given in its ASCII form. -/
def code? : List Char → Option (List Char)
  | 'x' :: 'n' :: '-' :: '-' :: code => some code
  | _ => none

/-- The label that a code stands for. The code has to be the one that the label would get. -/
def decoded? (code : List Char) : Option (List Char) := do
  guard (code.all (·.toNat < 0x80) && code.length ≤ 2000 && code.getLast?.any (· != '-'))
  let label ← Punycode.decode? code
  guard (label.all isKept && composed label == label && (code? label).isNone)
  return label

structure Label where
  text : List Char
  ascii : List Char
  deriving Repr, DecidableEq

def Label.read? (label : List Char) : Option Label := do
  let text ← match code? label with
    | some code => decoded? code
    | none => some label
  guard (isSound text)
  return ⟨text, if (code? label).isSome then label else Punycode.encode label⟩

end Dialect.Address.Name
