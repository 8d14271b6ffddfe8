import Dialect.Shell.Arithmetic
import Dialect.Shell.Glob
import Dialect.Shell.State

/-! Expanding words. How a command in a word runs is a parameter. -/
namespace Dialect.Shell

open Dialect.Filter (Octets)

abbrev Runner := Command → State → State

namespace State

def output (run : Runner) (command : Command) (state : State) : Octets × State :=
  let (text, after) := state.captured fun inside => inside.apart fun inside =>
    run command { inside with status := 0 }
  (chomp text, { after with status := state.status, outputStatus := some after.status })

/-- All arguments as chunks. Between quotes `@` keeps them apart, and `*` joins them. -/
def allArguments (state : State) (joined quoted : Bool) : List Chunk :=
  let args := state.args.tail
  if joined && quoted then
    let between := state.separators.take 1
    [.quoted (between.intercalate args)]
  else
    (args.map fun arg => if quoted then Chunk.quoted arg else Chunk.loose arg).intersperse .border

end State

def joinedText (chunks : List Chunk) : Octets :=
  chunks.flatMap fun
    | .bare text | .quoted text | .loose text => text
    | .border => [' ']

def patternSigns (chunks : List Chunk) : List Sign :=
  chunks.flatMap fun
    | .bare text | .loose text => signs text false
    | .quoted text => signs text true
    | .border => signs [' '] false

/-- Text that stands in braces is split like the value that it replaces. -/
def loosened : Chunk → Chunk
  | .bare text => .loose text
  | chunk => chunk

mutual

def expand (run : Runner) : Nat → List Part → State → List Chunk × State
  | 0, _, state => ([], state)
  | _ + 1, [], state => ([], state)
  | fuel + 1, part :: rest, state =>
    if !state.goesOn then ([], state)
    else
      let (chunks, state) := expandPart run fuel part state
      let (more, state) := expand run fuel rest state
      (chunks ++ more, state)

def expandPart (run : Runner) : Nat → Part → State → List Chunk × State
  | 0, _, state => ([], state)
  | _ + 1, .literal text quoted, state => ([if quoted then .quoted text else .bare text], state)
  | _ + 1, .output command quoted, state =>
    let (text, state) := state.output run command
    ([if quoted then .quoted text else .loose text], state)
  | fuel + 1, .arithmetic expression quoted, state =>
    let (chunks, state) := expand run fuel expression state
    let text := joinedText chunks
    if !state.goesOn then ([], state)
    else match Arithmetic.evaluate state.bindings text with
      | .ok (value, bindings) =>
        let shown := (toString value).toList
        ([if quoted then .quoted shown else .loose shown], { state with bindings := bindings })
      | .error fault => ([], state.abort (fault.message text))
  | fuel + 1, .parameter name form word quoted, state =>
    let several := name == ['@'] || name == ['*']
    let value? : Option Octets :=
      if several then
        if state.args.tail.isEmpty then none
        else some ((if name = ['*'] then state.separators.take 1 else [' ']).intercalate state.args.tail)
      else state.parameter? name
    let shown (text : Octets) : List Chunk := [if quoted then .quoted text else .loose text]
    let own : List Chunk :=
      if several then state.allArguments (name == ['*']) quoted else shown (value?.getD [])
    let lacks (orEmpty : Bool) : Bool := match value? with
      | none => true
      | some text => orEmpty && text.isEmpty
    let replaced (state : State) : List Chunk × State :=
      let (chunks, state) := expand run fuel word state
      (if quoted then chunks else chunks.map loosened, state)
    let fault (state : State) : List Chunk × State :=
      ([], state.abort (name ++ ": parameter not set".toList))
    let missing := state.options.unsetIsFault && value?.isNone && !several
    match form with
    | .plain => if missing then fault state else (own, state)
    | .length =>
      if missing then fault state
      else (shown (toString (value?.getD []).length).toList, state)
    | .fallback orEmpty => if lacks orEmpty then replaced state else (own, state)
    | .alternative orEmpty => if lacks orEmpty then ([], state) else replaced state
    | .assign orEmpty =>
      if !lacks orEmpty then (own, state)
      else
        let (chunks, state) := replaced state
        if !isName name then ([], state.abort (name ++ ": bad variable name".toList))
        else
          let text := joinedText chunks
          (shown text, if state.goesOn then state.assign name text else state)
    | .demand orEmpty =>
      if !lacks orEmpty then (own, state)
      else
        let (chunks, state) := replaced state
        let text := joinedText chunks
        let message :=
          if !word.isEmpty then text
          else if orEmpty then "parameter not set or null".toList
          else "parameter not set".toList
        ([], if state.goesOn then state.abort (name ++ ": ".toList ++ message) else state)
    | .trim atEnd longest =>
      if missing then fault state
      else
        let (chunks, state) := expand run fuel word state
        (shown (trimmedBy (patternSigns chunks) atEnd longest (value?.getD [])), state)
    | .invalid => ([], state.abort "Bad substitution".toList)

end

def expandJoined (run : Runner) (fuel : Nat) (word : List Part) (state : State) : Octets × State :=
  let (chunks, state) := expand run fuel word state
  (joinedText chunks, state)

def expandFields (run : Runner) (fuel : Nat) : List (List Part) → State → List Octets × State
  | [], state => ([], state)
  | word :: rest, state =>
    let (chunks, state) := expand run fuel word state
    let fields := Fields.ofChunks state.separators chunks
    let (more, state) := expandFields run fuel rest state
    (fields ++ more, state)

end Dialect.Shell
