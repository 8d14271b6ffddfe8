import Dialect.Address.Host
import Dialect.Address.Path

/-! Addresses in their normal form. Two texts name the same document exactly when they have the same
normal form. -/
namespace Dialect.Address

/-- Without blanks and controls around it, and without tabs and line breaks. -/
def tidy (text : List Char) : List Char :=
  let outer (c : Char) : Bool := c.toNat ≤ 0x20
  let front := text.dropWhile outer
  ((front.reverse.dropWhile outer).reverse).filter fun c => c != '\t' && c != '\n' && c != '\r'

def isSchemeChar (c : Char) : Bool :=
  isAsciiLetter c || isAsciiDigit c || c == '+' || c == '-' || c == '.'

def scheme? (text : List Char) : Option (List Char × List Char) :=
  if (text.head?.map isAsciiLetter).getD false then
    let name := text.takeWhile isSchemeChar
    match text.drop name.length with
    | ':' :: rest => some (lower name, rest)
    | _ => none
  else none

def endsPath (c : Char) : Bool := c == '?' || c == '#'

def ending (scheme : Scheme) : List Char → List Char
  | '?' :: rest =>
    let query := rest.takeWhile (· ≠ '#')
    let written := '?' :: escape (.query scheme.isKnown) query
    match rest.drop query.length with
    | [] => written
    | _ :: fragment => written ++ '#' :: escape .fragment fragment
  | _ :: fragment => '#' :: escape .fragment fragment
  | [] => []

/-- Reads the path at the front of `text`, after the given folders, and what ends the address. The
result says whether a drive letter was met. -/
def pathAndEnding (scheme : Scheme) (folders : Folders) (text : List Char) :
    List Char × Bool × List Char :=
  let path := text.takeWhile fun c => !endsPath c
  let reading := readPath scheme ⟨folders, [], false⟩ [] path
  (reading.text scheme, reading.drive, ending scheme (text.drop path.length))

def endsAuthority (scheme : Scheme) (c : Char) : Bool := endsPath c || scheme.isSeparator c

def withoutSeparator (scheme : Scheme) : List Char → List Char
  | [] => []
  | c :: rest => if scheme.isSeparator c then rest else c :: rest

/-- A host that may belong to a file: none for the local one. -/
def fileHost? (host : List Char) : Option (List Char) :=
  if host.isEmpty then some []
  else (knownHost? host).map fun host => if host = "localhost".toList then [] else host

def file? (text : List Char) : Option (List Char) :=
  let slash (c : Option Char) : Bool := c == some '/' || c == some '\\'
  if slash text.head? && slash text.tail.head? then
    let rest := text.drop 2
    let host := rest.takeWhile fun c => !endsAuthority .file c
    let after := if isDrive host then rest else rest.drop host.length
    do
      let host ← fileHost? (if isDrive host then [] else host)
      if host.isEmpty then
        let (path, _, ending) := pathAndEnding .file [[]] after
        return "file://".toList ++ path ++ ending
      else
        let (path, drive, ending) := pathAndEnding .file [[]] (withoutSeparator .file after)
        return "file://".toList ++ (if drive then [] else host) ++ path ++ ending
  else
    let (path, _, ending) := pathAndEnding .file (if slash text.head? then [] else [[]]) text
    some ("file://".toList ++ path ++ ending)

/-- A user and a password, with the sign that divides them from the host. -/
def credentials (text : List Char) : List Char :=
  let user := text.takeWhile (· ≠ ':')
  let secret := (text.drop user.length).drop 1
  let written := escape .user user ++ (if secret.isEmpty then [] else ':' :: escape .user secret)
  if written.isEmpty then [] else written ++ ['@']

def splitCredentials (text : List Char) : List Char × List Char :=
  let behind := (text.reverse.takeWhile (· ≠ '@')).reverse
  if behind.length = text.length then ([], text)
  else (credentials (text.take (text.length - behind.length - 1)), behind)

def hostEnd (inside : Bool) : List Char → List Char
  | [] => []
  | c :: rest =>
    if c = ':' ∧ !inside then []
    else c :: hostEnd (if c = '[' then true else if c = ']' then false else inside) rest

/-- A port as it is written; the one that the scheme has anyway is left out. -/
def port? (scheme : Scheme) (digits : List Char) : Option (List Char) :=
  if digits.isEmpty then some []
  else do
    let value ← if digits.all isAsciiDigit then number? 10 digits else none
    guard (value < 0x10000)
    return if scheme = .web value then [] else ':' :: (toString value).toList

def hostAndPort? (scheme : Scheme) (text : List Char) : Option (List Char) := do
  let host := hostEnd false text
  let after := text.drop host.length
  let written ← if scheme.isKnown then knownHost? host else otherHost? host
  guard (!(host.isEmpty && (scheme.isKnown || !after.isEmpty)))
  return written ++ (← port? scheme (after.drop 1))

def authority? (scheme : Scheme) (text : List Char) : Option (List Char) := do
  let front := text.takeWhile fun c => !endsAuthority scheme c
  let (user, rest) := splitCredentials front
  let host ← hostAndPort? scheme rest
  let after := text.drop front.length
  guard (!(host.isEmpty && (!user.isEmpty || (front == ['@'] && !after.isEmpty))))
  let (path, _, ending) :=
    if scheme.isKnown then pathAndEnding scheme [[]] (withoutSeparator scheme after)
    else pathAndEnding scheme [] after
  return "//".toList ++ user ++ host ++ path ++ ending

def other? (text : List Char) : Option (List Char) :=
  match text with
  | '/' :: '/' :: rest => authority? .other rest
  | '/' :: rest =>
    let (path, _, ending) := pathAndEnding .other [[]] rest
    some ((if startsWithSlashes path then "/.".toList else []) ++ path ++ ending)
  | _ =>
    let path := text.takeWhile fun c => !endsPath c
    some (escape .plain path ++ ending .other (text.drop path.length))
where
  startsWithSlashes : List Char → Bool
    | '/' :: '/' :: _ => true
    | _ => false

/-- The normal form of an address; none if the text is no address. -/
def normal? (text : List Char) : Option (List Char) := do
  let (name, rest) ← scheme? (tidy text)
  match Scheme.ofName name with
  | .file => file? rest
  | .web port =>
    (authority? (.web port) (rest.dropWhile fun c => c == '/' || c == '\\')).map (name ++ [':'] ++ ·)
  | .other => (other? rest).map (name ++ [':'] ++ ·)

end Dialect.Address
