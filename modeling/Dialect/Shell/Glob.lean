import Dialect.Filter.Pattern.Bracket
import Dialect.Shell.Script

/-! Patterns of the shell, in which `*`, `?` and brackets stand for other characters. -/
namespace Dialect.Shell

open Dialect.Filter (Octets)

structure Sign where
  char : Char
  quoted : Bool
  deriving Repr, DecidableEq

def signs (text : Octets) (quoted : Bool) : List Sign := text.map (⟨·, quoted⟩)

namespace Glob

inductive Item where
  | any
  | single
  | char (c : Char)
  | oneOf (negated : Bool) (ranges : List (Char × Char))
  deriving Repr, DecidableEq

/-- The ranges between brackets up to the closing one, and what follows it. The first character never
closes. -/
def readRanges : Nat → Bool → List Sign → Option (List (Char × Char) × List Sign)
  | 0, _, _ => none
  | _ + 1, _, [] => none
  | fuel + 1, first, sign :: rest =>
    if sign.char = ']' ∧ !sign.quoted ∧ !first then some ([], rest)
    else
      let name := ((rest.drop 1).map (·.char)).takeWhile (· ≠ ':')
      let closed := ((rest.drop (1 + name.length)).map (·.char)).take 2 == [':', ']']
      if sign.char = '[' ∧ !sign.quoted ∧ rest.head?.any (·.char == ':') ∧ closed then do
        let ranges ← Dialect.Filter.classRanges? name
        let (more, rest) ← readRanges fuel false (rest.drop (name.length + 3))
        return (ranges ++ more, rest)
      else match rest with
        | dash :: last :: others =>
          if dash.char = '-' ∧ !dash.quoted ∧ (last.char ≠ ']' ∨ last.quoted) then do
            let (more, rest) ← readRanges fuel false others
            return ((sign.char, last.char) :: more, rest)
          else do
            let (more, rest) ← readRanges fuel false rest
            return ((sign.char, sign.char) :: more, rest)
        | rest => do
          let (more, rest) ← readRanges fuel false rest
          return ((sign.char, sign.char) :: more, rest)

def items : Nat → List Sign → List Item
  | 0, _ => []
  | _ + 1, [] => []
  | fuel + 1, sign :: rest =>
    if sign.quoted then .char sign.char :: items fuel rest
    else match sign.char with
      | '*' => .any :: items fuel rest
      | '?' => .single :: items fuel rest
      | '[' =>
        let negated := rest.head?.any fun next => !next.quoted && (next.char == '!' || next.char == '^')
        match readRanges (rest.length + 1) true (if negated then rest.tail else rest) with
        | some (ranges, rest) => .oneOf negated ranges :: items fuel rest
        | none => .char '[' :: items fuel rest
      | '\\' =>
        match rest with
        | next :: rest => .char next.char :: items fuel rest
        | [] => [.char '\\']
      | c => .char c :: items fuel rest

def Item.admits (item : Item) (c : Char) : Bool :=
  match item with
  | .any | .single => true
  | .char d => c == d
  | .oneOf negated ranges => (ranges.any fun (low, high) => low ≤ c && c ≤ high) != negated

def matchesAll : List Item → Octets → Bool
  | [], text => text.isEmpty
  | .any :: rest, [] => matchesAll rest []
  | .any :: rest, c :: text => matchesAll rest (c :: text) || matchesAll (.any :: rest) text
  | _ :: _, [] => false
  | item :: rest, c :: text => item.admits c && matchesAll rest text
termination_by pattern text => (pattern.length, text.length)

end Glob

def globMatches (pattern : List Sign) (text : Octets) : Bool :=
  Glob.matchesAll (Glob.items (pattern.length + 1) pattern) text

/-- A text without the shortest or longest stretch at one end that a pattern matches. -/
def trimmedBy (pattern : List Sign) (atEnd longest : Bool) (text : Octets) : Octets :=
  let lengths := List.range (text.length + 1)
  let cut (length : Nat) : Octets × Octets :=
    if atEnd then (text.drop (text.length - length), text.take (text.length - length))
    else (text.take length, text.drop length)
  let order := if longest then lengths.reverse else lengths
  match order.find? fun length => globMatches pattern (cut length).1 with
  | some length => (cut length).2
  | none => text

end Dialect.Shell
