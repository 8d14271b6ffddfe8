import Dialect.Address.Escape

/-! Paths of addresses. A path is read segment by segment: a segment of one dot is dropped, one of two
dots drops the segment before it, and the first segment of a file may be a drive letter, which is never
dropped. -/
namespace Dialect.Address

inductive Scheme where
  | file
  /-- A scheme whose addresses have a host, with the port that need not be written. -/
  | web (port : Nat)
  | other
  deriving Repr, DecidableEq

namespace Scheme

def ofName (name : List Char) : Scheme :=
  match String.ofList name with
  | "file" => .file
  | "http" | "ws" => .web 80
  | "https" | "wss" => .web 443
  | "ftp" => .web 21
  | _ => .other

def isKnown (scheme : Scheme) : Bool := scheme != .other

def isSeparator (scheme : Scheme) (c : Char) : Bool := c == '/' || (c == '\\' && scheme.isKnown)

end Scheme

def isDrive : List Char → Bool
  | [letter, mark] => isAsciiLetter letter && (mark == ':' || mark == '|')
  | _ => false

def startsWithDrive : List Char → Bool
  | letter :: mark :: rest =>
    isDrive [letter, mark] && (rest.isEmpty || rest.head? == some '\\')
  | _ => false

def dot? : List Char → Option (List Char)
  | '.' :: rest => some rest
  | '%' :: '2' :: 'e' :: rest => some rest
  | '%' :: '2' :: 'E' :: rest => some rest
  | _ => none

def isDot (segment : List Char) : Bool := dot? segment == some []

def isDoubleDot (segment : List Char) : Bool := (dot? segment).bind dot? == some []

/-- The segments that are complete; each one is followed by a slash. -/
abbrev Folders := List (List Char)

def Folders.parent (folders : Folders) : Folders :=
  match folders.getLast? with
  | some last => if folders.length < 2 || startsWithDrive last then folders else folders.dropLast
  | none => folders

def Folders.text (folders : Folders) : List Char := folders.flatMap (· ++ ['/'])

structure PathReading where
  folders : Folders
  last : List Char
  drive : Bool
  deriving Repr, DecidableEq

def isFrontDrive (scheme : Scheme) (folders : Folders) (segment : List Char) : Bool :=
  scheme == .file && folders == [[]] && isDrive segment

/-- A segment as it is kept: a drive letter has a colon. -/
def keep (scheme : Scheme) (folders : Folders) (segment : List Char) : List Char :=
  if isFrontDrive scheme folders segment then segment.take 1 ++ [':'] else segment

def PathReading.close (scheme : Scheme) (reading : PathReading) (segment : List Char)
    (closed : Bool) : PathReading :=
  if isDoubleDot segment then { reading with folders := reading.folders.parent, last := [] }
  else if isDot segment then { reading with last := [] }
  else
    let kept := keep scheme reading.folders segment
    let drive := reading.drive || isFrontDrive scheme reading.folders segment
    if closed then ⟨reading.folders ++ [kept], [], drive⟩ else ⟨reading.folders, kept, drive⟩

/-- Reads a path that is cut off before its query, with the segment so far in reverse. -/
def readPath (scheme : Scheme) (reading : PathReading) (segment : List Char) :
    List Char → PathReading
  | [] => reading.close scheme (escape .path segment.reverse) false
  | c :: rest =>
    if scheme.isSeparator c then
      readPath scheme (reading.close scheme (escape .path segment.reverse) true) [] rest
    else readPath scheme reading (c :: segment) rest

def PathReading.text (scheme : Scheme) (reading : PathReading) : List Char :=
  let written := reading.folders.text ++ reading.last
  if scheme = .file then '/' :: written.dropWhile (· = '/') else written

end Dialect.Address
