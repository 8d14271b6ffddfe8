import Dialect.Mask.Basic

/-! From the output of the host formatter back to the dialect: first the added braces go, with the
indentation that they caused, then every placeholder is exchanged for what it stands for. -/
namespace Dialect

/-- Without one opening brace at the start and one closing brace at the end, if both are there. -/
def stripBraces (text : List Char) : List Char :=
  match text with
  | '{' :: rest => if rest.getLast? = some '}' then rest.dropLast else text
  | _ => text

def indentOf (line : List Char) : Nat := (line.takeWhile (· == ' ')).length

/-- The indentation that all lines share; blank lines do not count. -/
def sharedIndent (found : List (List Char)) : Nat :=
  (((found.filter fun line => !isBlankText line).map indentOf).min?).getD 0

/-- A line without its first `indent` bytes. A blank line that is shorter, or that has no character
boundary there, becomes empty. -/
def dedent (indent : Nat) (line : List Char) : List Char :=
  (dropBytes? indent line).getD (trimStart line)

/-- The contents of the added braces, one indentation level further out and ended by a newline. -/
def unwrap (formatted : List Char) : List Char :=
  let inner := lines (stripBraces (trim formatted))
  let body := trim (['\n'].intercalate (inner.map (dedent (sharedIndent inner))))
  if body.isEmpty then [] else body ++ ['\n']

namespace Placeholder

/-- The token of an assignment with the added `=` and the blanks around that; a token that lost its
`=` goes alone. -/
def assignment? (p : Placeholder) (here : List Char) : Option (List Char × Nat) := do
  let rest ← after? p.token here
  match after? ['='] (trimStart rest) with
  | some value => return (p.text ++ [' '], here.length - (trimStart value).length)
  | none => return (p.text, p.token.length)

/-- What precedes a continuation, without the added `;` and the blanks around that. -/
def beforeContinuation (segment : List Char) : List Char :=
  match (trimEnd segment).getLast? with
  | some ';' => trimEnd (trimEnd segment).dropLast
  | _ => segment

/-- Joins what precedes each token of a continuation to what follows it with one space. `segment`
holds the characters since the last token, in reverse; `skip` counts those still to be passed. -/
def joinContinuations (token segment : List Char) (skip : Nat) : List Char → List Char
  | [] => segment.reverse
  | c :: rest =>
    match skip with
    | skip + 1 => joinContinuations token segment skip rest
    | 0 =>
      match after? token (c :: rest) with
      | some tail =>
        beforeContinuation segment.reverse ++ ' ' ::
          joinContinuations token [] (rest.length - (trimStart tail).length) rest
      | none => joinContinuations token (c :: segment) 0 rest

/-- Exchanges the token for what it stands for. -/
def restore (text : List Char) (p : Placeholder) : List Char :=
  match p.kind with
  | .plain => replaceAll p.token p.text text
  | .assignment => replaceFrom p.assignment? 0 text
  | .continuation => joinContinuations p.token [] 0 text

end Placeholder

/-- Exchanges all tokens, the last one made first, so that no text brings back a token that has
been dealt with. -/
def restoreAll (placeholders : List Placeholder) (text : List Char) : List Char :=
  placeholders.reverse.foldl Placeholder.restore text

def Masked.restore (masked : Masked) (formatted : List Char) : List Char :=
  restoreAll masked.placeholders (if masked.wrapped then unwrap formatted else formatted)

end Dialect
