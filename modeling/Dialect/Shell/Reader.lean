import Dialect.Shell.Token

/-! Reading scripts. A script is read line by line; what a line starts, such as a loop or a quotation,
may take it over several lines. -/
namespace Dialect.Shell

open Dialect.Filter (Octets)
open Reader

mutual

def readParts : Nat → Mode → Reader (List Part)
  | 0, _ => fail "too long"
  | fuel + 1, mode => do
    let quoted := mode.isQuoted
    match ← rest with
    | [] =>
      match mode with
      | .bare | .document => return []
      | .quotes | .braces true => fail "Unterminated quoted string"
      | .braces false => fail "Missing '\x7d'"
      | .arithmetic _ => fail "Missing '))'"
    | '\\' :: '\n' :: _ =>
      skip 2
      readParts fuel mode
    | ['\\'] =>
      skip 1
      return Part.consText ['\\'] true (← readParts fuel mode)
    | '\\' :: c :: _ =>
      skip 2
      let text := if mode.escapes c then [c] else ['\\', c]
      return Part.consText text true (← readParts fuel mode)
    | '$' :: _ =>
      skip 1
      let part ← readDollar fuel mode
      return part ++ (← readParts fuel mode)
    | c :: more =>
      if c = '\x60' then
        match backquoted? quoted more with
        | none =>
          skip (more.length + 1)
          fail "EOF in backquote substitution"
        | some (text, length) =>
          let cursor ← get
          match readList fuel false true .empty (cursor.within text) with
          | .error fault => throw fault
          | .ok (command, inner) =>
            set { cursor with
              documents := inner.documents ++ cursor.documents
              count := inner.count }
            match inner.pushed with
            | some .finish | none =>
              skip (length + 1)
              return .output command quoted :: (← readParts fuel mode)
            | some token => unexpected token
      else if c = '"' then
        match mode with
        | .quotes =>
          skip 1
          return []
        | .bare | .braces false =>
          skip 1
          let inside ← readParts fuel .quotes
          let after ← readParts fuel mode
          let vanishes := !inside.isEmpty && inside.all fun
            | .parameter name .plain _ _ => name == ['@']
            | _ => false
          return if vanishes then inside ++ after else .literal [] true :: inside ++ after
        | .braces true =>
          skip 1
          readParts fuel mode
        | _ =>
          skip 1
          return Part.consText [c] true (← readParts fuel mode)
      else if c = '\'' && !quoted then
        let text := more.takeWhile (· ≠ '\'')
        if text.length = more.length then
          skip (more.length + 1)
          fail "Unterminated quoted string"
        else
          skip (text.length + 2)
          return .literal text true :: (← readParts fuel mode)
      else match mode with
        | .bare =>
          if endsWord c then return []
          else
            skip 1
            return Part.consText [c] false (← readParts fuel mode)
        | .braces _ =>
          skip 1
          if c = '\x7d' then return []
          else return Part.consText [c] quoted (← readParts fuel mode)
        | .arithmetic depth =>
          if c = ')' && depth = 0 && more.head? = some ')' then
            skip 2
            return []
          else
            skip 1
            let depth := if c = '(' then depth + 1 else if c = ')' then depth - 1 else depth
            return Part.consText [c] true (← readParts fuel (.arithmetic depth))
        | _ =>
          skip 1
          return Part.consText [c] true (← readParts fuel mode)

def readDollar : Nat → Mode → Reader (List Part)
  | 0, _ => fail "too long"
  | fuel + 1, mode => do
    let quoted := mode.isQuoted
    match ← rest with
    | '(' :: '(' :: _ =>
      skip 2
      let expression ← readParts fuel (.arithmetic 0)
      return [.arithmetic expression quoted]
    | '(' :: _ =>
      skip 1
      let outer := (← get).pending
      modify fun cursor => { cursor with pending := [] }
      let command ← readList fuel false true .empty
      let token ← readToken fuel false false
      if !token.isSign ")" then unexpected token (some (.sign ")"))
      modify fun cursor => { cursor with pending := outer }
      return [.output command quoted]
    | '\x7b' :: more =>
      match bracedName? more with
      | none =>
        skip 1
        let word ← readParts fuel (.braces quoted)
        return [.parameter [] .invalid word quoted]
      | some (name, true, length) =>
        skip (length + 1)
        let word ← readParts fuel (.braces quoted)
        return [.parameter name (if word.isEmpty then .length else .invalid) [] quoted]
      | some (name, false, length) =>
        skip (length + 1)
        let (form, length) := formOf (← rest)
        skip length
        let inner := match form with
          | .trim _ _ => false
          | _ => quoted
        let word ← readParts fuel (.braces inner)
        return [.parameter name form word quoted]
    | c :: more =>
      if isNameStart c then
        let name := c :: more.takeWhile isNameChar
        skip name.length
        return [.parameter name .plain [] quoted]
      else if c.isDigit || isSpecialParameter c then
        skip 1
        return [.parameter [c] .plain [] quoted]
      else return [.literal ['$'] quoted]
    | [] => return [.literal ['$'] quoted]

def readRaw : Nat → Reader Token
  | 0 => fail "too long"
  | fuel + 1 => do
    match (← get).pushed with
    | some token =>
      modify fun cursor => { cursor with pushed := none }
      return token
    | none =>
      skipBlanks ((← rest).length + 1)
      let take (count : Nat) (token : Token) : Reader Token := do
        skip count
        return token
      match ← rest with
      | [] => return .finish
      | '\n' :: _ => take 1 .newline
      | '&' :: '&' :: _ => take 2 (.sign "&&")
      | '&' :: _ => take 1 (.sign "&")
      | '|' :: '|' :: _ => take 2 (.sign "||")
      | '|' :: _ => take 1 (.sign "|")
      | ';' :: ';' :: _ => take 2 (.sign ";;")
      | ';' :: _ => take 1 (.sign ";")
      | '(' :: _ => take 1 (.sign "(")
      | ')' :: _ => take 1 (.sign ")")
      | c :: more =>
        let digit? : Option Nat := if c.isDigit then some (c.toNat - '0'.toNat) else none
        let arrows := if digit?.isSome then more else c :: more
        let start := if digit?.isSome then 1 else 0
        let output (length : Nat) (direction : Direction) : Reader Token :=
          take (start + length) (.redirect (digit?.getD 1) direction)
        let input (length : Nat) (direction : Direction) : Reader Token :=
          take (start + length) (.redirect (digit?.getD 0) direction)
        match arrows with
        | '>' :: '>' :: _ | '>' :: '|' :: _ => output 2 (.file .write)
        | '>' :: '&' :: _ => output 2 .duplicate
        | '>' :: _ => output 1 (.file .write)
        | '<' :: '<' :: '-' :: _ => input 3 (.document true)
        | '<' :: '<' :: _ => input 2 (.document false)
        | '<' :: '&' :: _ => input 2 .duplicate
        | '<' :: '>' :: _ => input 2 (.file .read)
        | '<' :: _ => input 1 (.file .read)
        | _ => return .word (← readParts fuel .bare)

/-- The next token; `words` looks for keywords, and `lines` moves over line ends. -/
def readToken : Nat → Bool → Bool → Reader Token
  | 0, _, _ => fail "too long"
  | fuel + 1, words, lines => do
    let token ← readRaw fuel
    match token, lines with
    | .newline, true =>
      readDocuments fuel
      readToken fuel words lines
    | token, _ => return if words then token.asKeyword else token

def readDocuments : Nat → Reader Unit
  | 0 => fail "too long"
  | fuel + 1 => do
    match (← get).pending with
    | [] => return
    | next :: others =>
      let cursor ← get
      let (text, length) := documentLines next (cursor.rest.length + 1) cursor.rest
      let parts ←
        if next.verbatim then pure [Part.literal text true]
        else match readParts fuel .document (cursor.within text) with
          | .error fault => throw fault
          | .ok (parts, inner) =>
            modify fun cursor => { cursor with
              documents := inner.documents ++ cursor.documents
              count := inner.count }
            pure parts
      modify fun cursor => { cursor with
        pending := others
        documents := (next.number, parts) :: cursor.documents }
      skip length
      readDocuments fuel

/-- Reads commands that follow `done`. At the `top` of a script a line end stops the reading, elsewhere
a token that ends lists, which may come at once if `mayEnd` says so. -/
def readList : Nat → Bool → Bool → Command → Reader Command
  | 0, _, _, _ => fail "too long"
  | fuel + 1, top, mayEnd, done => do
    let token ← readToken fuel true (!top)
    match token with
    | .newline =>
      readDocuments fuel
      return done
    | .finish =>
      readDocuments fuel
      push token
      return done
    | token =>
      push token
      if mayEnd && token.endsList then return done
      let command ← readDependent fuel
      let token ← readToken fuel false false
      let command := if token.isSign "&" then .background command else command
      let done := done.andThen command
      match token with
      | .finish =>
        readDocuments fuel
        push token
        return done
      | .newline =>
        push token
        readList fuel top (!top) done
      | token =>
        if token.isSign "&" || token.isSign ";" then readList fuel top (!top) done
        else if top then unexpected token
        else
          push token
          return done

def readDependent : Nat → Reader Command
  | 0 => fail "too long"
  | fuel + 1 => do
    let first ← readPipeline fuel false
    readDependents fuel first

def readDependents : Nat → Command → Reader Command
  | 0, _ => fail "too long"
  | fuel + 1, first => do
    let token ← readToken fuel false false
    if token.isSign "&&" || token.isSign "||" then
      let second ← readPipeline fuel true
      readDependents fuel (.dependent (token.isSign "||") first second)
    else
      push token
      return first

def readPipeline : Nat → Bool → Reader Command
  | 0, _ => fail "too long"
  | fuel + 1, fresh => do
    let token ← readToken fuel fresh fresh
    let negated := token.isKeyword "!"
    if negated then push (← readToken fuel true false) else push token
    let first ← readCommand fuel
    let stages ← readStages fuel
    return if negated || !stages.isEmpty then .pipeline negated (first :: stages) else first

def readStages : Nat → Reader (List Command)
  | 0 => fail "too long"
  | fuel + 1 => do
    let token ← readToken fuel false false
    if token.isSign "|" then
      push (← readToken fuel true true)
      let stage ← readCommand fuel
      return stage :: (← readStages fuel)
    else
      push token
      return []

def readUntil : Nat → String → Reader Command
  | 0, _ => fail "too long"
  | fuel + 1, name => do
    let command ← readList fuel false false .empty
    let token ← readToken fuel false false
    if token.isKeyword name then return command else unexpected token (some (.keyword name))

def readCommand : Nat → Reader Command
  | 0 => fail "too long"
  | fuel + 1 => do
    let line := (← get).line
    let token ← readToken fuel false false
    match token with
    | .word _ | .redirect _ _ =>
      push token
      readSimple fuel line true [] [] []
    | .sign "(" =>
      let body ← readList fuel false false .empty
      let token ← readToken fuel false false
      if !token.isSign ")" then unexpected token (some (.sign ")"))
      readTrailing fuel line (.apart line body)
    | .keyword "\x7b" =>
      let body ← readUntil fuel "\x7d"
      readTrailing fuel line body
    | .keyword "if" =>
      let command ← readBranch fuel
      readTrailing fuel line command
    | .keyword "while" => readLoop fuel line false
    | .keyword "until" => readLoop fuel line true
    | .keyword "for" => readEach fuel line
    | .keyword "case" =>
      match ← readToken fuel false false with
      | .word word =>
        let token ← readToken fuel true true
        if !token.isKeyword "in" then unexpected token (some (.keyword "in"))
        let cases ← readCases fuel
        readTrailing fuel line (.choice line word cases)
      | token => unexpected token (some (.word []))
    | token => unexpected token

def readBranch : Nat → Reader Command
  | 0 => fail "too long"
  | fuel + 1 => do
    let condition ← readUntil fuel "then"
    let yes ← readList fuel false false .empty
    let token ← readToken fuel false false
    if token.isKeyword "elif" then
      let no ← readBranch fuel
      return .branch condition yes no
    else if token.isKeyword "else" then
      let no ← readUntil fuel "fi"
      return .branch condition yes no
    else if token.isKeyword "fi" then return .branch condition yes .empty
    else unexpected token (some (.keyword "fi"))

def readLoop : Nat → Nat → Bool → Reader Command
  | 0, _, _ => fail "too long"
  | fuel + 1, line, awaits => do
    let condition ← readUntil fuel "do"
    let body ← readUntil fuel "done"
    readTrailing fuel line (.loop awaits condition body)

def readEach : Nat → Nat → Reader Command
  | 0, _ => fail "too long"
  | fuel + 1, line => do
    let name := match ← readToken fuel false false with
      | .word parts => (bareText? parts).getD []
      | _ => []
    if !isName name then fail "Bad for loop variable"
    let token ← readToken fuel true true
    let words ← do
      if token.isKeyword "in" then
        let words ← readItems fuel
        let token ← readToken fuel false false
        match token with
        | .newline => pure (some words)
        | token => if token.isSign ";" then pure (some words) else unexpected token
      else
        if !token.isSign ";" then push token
        pure none
    let token ← readToken fuel true true
    if !token.isKeyword "do" then unexpected token (some (.keyword "do"))
    let body ← readUntil fuel "done"
    readTrailing fuel line (.each line name words body)

def readItems : Nat → Reader (List (List Part))
  | 0 => fail "too long"
  | fuel + 1 => do
    match ← readToken fuel false false with
    | .word parts => return parts :: (← readItems fuel)
    | token =>
      push token
      return []

def readCases : Nat → Reader (List (List (List Part) × Command))
  | 0 => fail "too long"
  | fuel + 1 => do
    let token ← readToken fuel true true
    if token.isKeyword "esac" then return []
    else
      let token ← if token.isSign "(" then readToken fuel false false else pure token
      let patterns ← readPatterns fuel token
      let body ← readList fuel false true .empty
      let token ← readToken fuel true true
      if token.isKeyword "esac" then return [(patterns, body)]
      else if token.isSign ";;" then return (patterns, body) :: (← readCases fuel)
      else unexpected token (some (.sign ";;"))

/-- The patterns of a case, of which the first token has been read. -/
def readPatterns : Nat → Token → Reader (List (List Part))
  | 0, _ => fail "too long"
  | fuel + 1, token => do
    let pattern := match token with
      | .word parts => parts
      | .keyword text => [.literal text.toList false]
      | _ => []
    let next ← readToken fuel false false
    if next.isSign "|" then
      let token ← readToken fuel false false
      return pattern :: (← readPatterns fuel token)
    else if next.isSign ")" then return [pattern]
    else unexpected next (some (.sign ")"))

def readTrailing : Nat → Nat → Command → Reader Command
  | 0, _, _ => fail "too long"
  | fuel + 1, line, command => do
    let redirects ← readRedirects fuel
    return if redirects.isEmpty then command else .redirected line command redirects

def readRedirects : Nat → Reader (List Redirect)
  | 0 => fail "too long"
  | fuel + 1 => do
    match ← readToken fuel true false with
    | .redirect fd direction =>
      let redirect ← readTarget fuel fd direction
      return redirect :: (← readRedirects fuel)
    | token =>
      push token
      return []

def readTarget : Nat → Nat → Direction → Reader Redirect
  | 0, _, _ => fail "too long"
  | fuel + 1, fd, direction => do
    match ← readToken fuel false false with
    | .word word =>
      match direction with
      | .file access => return .file fd access word
      | .duplicate => return .duplicate fd word
      | .document stripTabs =>
        let number := (← get).count
        modify fun cursor => { cursor with
          count := number + 1
          pending := cursor.pending ++
            [⟨number, literalText word, stripTabs, (bareText? word).isNone⟩] }
        return .document fd number
    | token => unexpected token

/-- A command of words, assignments and redirections, in reverse as far as they have been read. -/
def readSimple : Nat → Nat → Bool → List (Octets × List Part) → List (List Part) → List Redirect →
    Reader Command
  | 0, _, _, _, _, _ => fail "too long"
  | fuel + 1, line, leading, assignments, words, redirects => do
    match ← readToken fuel false false with
    | .word parts =>
      match leading, assignment? parts with
      | true, some assignment => readSimple fuel line true (assignment :: assignments) words redirects
      | _, _ => readSimple fuel line false assignments (parts :: words) redirects
    | .redirect fd direction =>
      let redirect ← readTarget fuel fd direction
      readSimple fuel line leading assignments words (redirect :: redirects)
    | token =>
      match token.isSign "(", words with
      | true, [name] =>
        if assignments.isEmpty && redirects.isEmpty then
          let token ← readToken fuel false false
          if !token.isSign ")" then unexpected token (some (.sign ")"))
          let name := (bareText? name).getD []
          if !isName name || specialNames.any (·.toList == name) then fail "Bad function name"
          push (← readToken fuel true true)
          let body ← readCommand fuel
          return .define line name body
        else
          push token
          return .simple line assignments.reverse words.reverse redirects.reverse
      | _, _ =>
        push token
        return .simple line assignments.reverse words.reverse redirects.reverse

end

/-- Reads the next line of a script, with all that it starts. There is none at the end. -/
def readLine : Reader (Option Command) := do
  let fuel := 16 * (← rest).length + 64
  let command ← readList fuel true false .empty
  match command, (← get).pushed with
  | .empty, some .finish => return none
  | command, _ =>
    return some command

end Dialect.Shell
