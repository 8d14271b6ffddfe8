import Dialect.Vocabulary

/-! The first `=` or `;` of a text that stands in no bracket, string or comment. -/
namespace Dialect

inductive Target where
  | equals
  | terminator
  deriving Repr, DecidableEq

/-- Searches on from a place that is `depth` brackets deep. A closer of a bracket that was opened before the start of
the search ends it, and so does a terminator on the way to an `=`. -/
def Target.searchFrom (target : Target) (depth index : Nat) (quoted raw comment : Bool) : List Char → Option Nat
  | [] => none
  | c :: rest =>
    if comment then target.searchFrom depth (index + 1) quoted raw (c ≠ '\n') rest
    else if raw then
      if c = '\'' ∧ rest.head? = some '\'' then
        match rest with
        | _ :: third :: further =>
          if third = '\'' ∨ third = '$' ∨ third = '\\' then
            target.searchFrom depth (index + 3) quoted raw comment further
          else target.searchFrom depth (index + 2) quoted false comment (third :: further)
        | _ => none
      else target.searchFrom depth (index + 1) quoted raw comment rest
    else if quoted then
      if c = '\\' then
        match rest with
        | [] => none
        | _ :: further => target.searchFrom depth (index + 2) quoted raw comment further
      else target.searchFrom depth (index + 1) (c ≠ '"') raw comment rest
    else if c = '"' then target.searchFrom depth (index + 1) true raw comment rest
    else if c = '\'' ∧ rest.head? = some '\'' then
      match rest with
      | [] => none
      | _ :: further => target.searchFrom depth (index + 2) quoted true comment further
    else if c = commentMarker then target.searchFrom depth (index + 1) quoted raw true rest
    else if isOpener c then target.searchFrom (depth + 1) (index + 1) quoted raw comment rest
    else if isCloser c then
      match depth with
      | 0 => none
      | depth + 1 => target.searchFrom depth (index + 1) quoted raw comment rest
    else if c = '=' ∧ target = .equals ∧ depth = 0 then
      if rest.head? = some '=' then
        match rest with
        | [] => none
        | _ :: further => target.searchFrom depth (index + 2) quoted raw comment further
      else some index
    else if c = ';' ∧ depth = 0 then
      if target = .terminator then some index else none
    else target.searchFrom depth (index + 1) quoted raw comment rest

/-- The index of the target in a text that starts as code. -/
def topLevel? (target : Target) (text : List Char) : Option Nat :=
  target.searchFrom 0 0 false false false text

end Dialect
