import Dialect.Host.Command

/-! The command line: two subcommands, and options for the two host tools that may stand before or
after the subcommand. -/
namespace Dialect.Cli

inductive Subcommand where
  | check (external : Bool)
  | format (write : Bool)
  deriving Repr, DecidableEq

structure Invocation where
  subcommand : Subcommand
  files : List String
  formatter : Option Command
  parser : Option Command
  deriving Repr, DecidableEq

inductive Request where
  | run (invocation : Invocation)
  | version
  | help
  | misuse
  deriving Repr, DecidableEq

structure ToolOptions where
  formatter : Option Command := none
  parser : Option Command := none
  deriving Repr, DecidableEq

inductive Shape where
  | rest
  | long (name : String) (value : Option String)
  | short (letters : List Char)
  | operand
  deriving Repr, DecidableEq

def shapeOf (argument : String) : Shape :=
  match argument.toList with
  | ['-', '-'] => .rest
  | '-' :: '-' :: name =>
    let word := name.takeWhile (· ≠ '=')
    match name.drop word.length with
    | [] => .long (String.ofList word) none
    | _ :: value => .long (String.ofList word) (some (String.ofList value))
  | '-' :: c :: letters => .short (c :: letters)
  | _ => .operand

/-- Whether an argument can be the value of the option before it. -/
def isValue (argument : String) : Bool := shapeOf argument == .operand

def ToolOptions.set? (options : ToolOptions) (name value : String) : Option ToolOptions :=
  match name, Command.ofText? value.toList with
  | "formatter", some command =>
    if options.formatter.isSome then none else some { options with formatter := some command }
  | "parser", some command =>
    if options.parser.isSome then none else some { options with parser := some command }
  | _, _ => none

def isToolOption (name : String) : Bool := name == "formatter" || name == "parser"

structure Reading where
  subcommand : Subcommand
  flagged : Bool := false
  tools : ToolOptions := {}
  files : List String := []
  deriving Repr, DecidableEq

namespace Reading

def flag? (reading : Reading) : Option Reading :=
  if reading.flagged then none
  else some { reading with
    flagged := true
    subcommand := match reading.subcommand with
      | .check _ => .check true
      | .format _ => .format true }

def flagName (reading : Reading) : String :=
  match reading.subcommand with
  | .check _ => "external"
  | .format _ => "write"

def shorts? (reading : Reading) : List Char → Option Reading
  | [] => some reading
  | 'w' :: rest =>
    match reading.subcommand with
    | .format _ => reading.flag?.bind (·.shorts? rest)
    | .check _ => none
  | _ => none

def addFile? (reading : Reading) (file : String) : Option Reading :=
  if file.isEmpty then none else some { reading with files := reading.files ++ [file] }

/-- The invocation; commands given after the subcommand win over those before it. -/
def request (before : ToolOptions) (reading : Reading) : Request :=
  if reading.files.isEmpty then .misuse
  else .run ⟨reading.subcommand, reading.files, reading.tools.formatter.or before.formatter,
    reading.tools.parser.or before.parser⟩

end Reading

def readOperands (before : ToolOptions) (reading : Reading) : List String → Request
  | [] => reading.request before
  | file :: rest =>
    match reading.addFile? file with
    | some reading => readOperands before reading rest
    | none => .misuse

/-- Reads the arguments of a subcommand. `value` names a tool option that waits for its value. -/
def readSubcommand (before : ToolOptions) (value : Option String) (reading : Reading) :
    List String → Request
  | [] => if value.isSome then .misuse else reading.request before
  | argument :: rest =>
    match value with
    | some name =>
      if isValue argument then
        match reading.tools.set? name argument with
        | some tools => readSubcommand before none { reading with tools := tools } rest
        | none => .misuse
      else .misuse
    | none =>
      match shapeOf argument with
      | .rest => readOperands before reading rest
      | .operand =>
        match reading.addFile? argument with
        | some reading => readSubcommand before none reading rest
        | none => .misuse
      | .short ('h' :: _) => .help
      | .short letters =>
        match reading.shorts? letters with
        | some reading => readSubcommand before none reading rest
        | none => .misuse
      | .long "help" none => .help
      | .long name none =>
        if isToolOption name then readSubcommand before (some name) reading rest
        else if name = reading.flagName then
          match reading.flag? with
          | some reading => readSubcommand before none reading rest
          | none => .misuse
        else .misuse
      | .long name (some text) =>
        match reading.tools.set? name text with
        | some tools => readSubcommand before none { reading with tools := tools } rest
        | none => .misuse

def readHelp : List String → Request
  | [] => .help
  | [topic] => if ["check", "fmt", "help"].contains topic then .help else .misuse
  | _ => .misuse

def readRoot (tools : ToolOptions) (value : Option String) : List String → Request
  | [] => .misuse
  | argument :: rest =>
    match value with
    | some name =>
      if isValue argument then
        match tools.set? name argument with
        | some tools => readRoot tools none rest
        | none => .misuse
      else .misuse
    | none =>
      match shapeOf argument with
      | .operand =>
        match argument with
        | "check" => readSubcommand tools none { subcommand := .check false } rest
        | "fmt" => readSubcommand tools none { subcommand := .format false } rest
        | "help" => readHelp rest
        | _ => .misuse
      | .short ('V' :: _) => .version
      | .short ('h' :: _) => .help
      | .long "version" none => .version
      | .long "help" none => .help
      | .long name none => if isToolOption name then readRoot tools (some name) rest else .misuse
      | .long name (some text) =>
        match tools.set? name text with
        | some tools => readRoot tools none rest
        | none => .misuse
      | _ => .misuse

def readArgs (arguments : List String) : Request := readRoot {} none arguments

end Dialect.Cli
