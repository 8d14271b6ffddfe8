import Dialect.Analysis
import Dialect.Cli.Args
import Dialect.Cli.FileSystem
import Dialect.Cli.Report
import Dialect.Host.Check
import Dialect.Host.Format
import Dialect.Host.Settings

/-! Running a command line on files. -/
namespace Dialect.Cli

open FileSystem (readText writePath)

inductive Notice where
  | finding (path : String) (report : Report)
  | line (text : String)
  deriving Repr, DecidableEq

structure Console (State : Type) where
  files : State
  stdout : List Char := []
  notices : List Notice := []
  deriving Repr

inductive Verdict where
  | clean
  | unclean
  | aborted
  | misused
  deriving Repr, DecidableEq

def Verdict.code : Verdict → Nat
  | .clean => 0
  | .unclean | .aborted => 1
  | .misused => 2

namespace Console

variable {State : Type}

def note (console : Console State) (text : String) : Console State :=
  { console with notices := console.notices ++ [.line text] }

/-- Says what was being done to a file and why it stopped the run. -/
def abort (console : Console State) (action path reason : String) : Console State :=
  console.note s!"Error: {action} {path}\n\nCaused by:\n    {reason}"

end Console

def findings (launch : Launcher) (parser : Option Command) (source : List Char) : List Finding :=
  analyze source ++ (parser.bind fun parser => hostFinding? launch parser source).toList

section Run

variable {State File : Type} [FileSystem State File]

/-- Checks files from the first on. The result holds the number of problems, or nothing when a file
could not be read. -/
def checkFiles (launch : Launcher) (parser : Option Command) (problems : Nat) (console : Console State) :
    List String → Console State × Option Nat
  | [] => (console, some problems)
  | path :: rest =>
    match readText console.files path with
    | .error reason => (console.abort "reading" path reason, none)
    | .ok source =>
      let found := findings launch parser source
      let shown := found.map fun f => Notice.finding path (.of source f.diagnostic)
      checkFiles launch parser (problems + found.length)
        { console with notices := console.notices ++ shown } rest

def check (launch : Launcher) (parser : Option Command) (paths : List String) (files : State) :
    Console State × Verdict :=
  match checkFiles launch parser 0 { files := files } paths with
  | (console, none) => (console, .aborted)
  | (console, some 0) => (console, .clean)
  | (console, some problems) =>
    (console.note s!"{problems} problem(s) found in {paths.length} file(s)", .unclean)

/-- Shows the result for a file: prints it, or writes it if it differs. -/
def deliver (write : Bool) (path : String) (source formatted : List Char) (console : Console State) :
    Except String (Console State) :=
  if write then
    if formatted = source then .ok console
    else do
      let files ← writePath console.files path (Utf8.encode formatted)
      return { console with files := files }.note s!"formatted {path}"
  else .ok { console with stdout := console.stdout ++ formatted }

/-- Formats files from the first on. A file that cannot be formatted is counted and passed over, one that cannot be
read or written ends the run. -/
def formatFiles (launch : Launcher) (formatter : Command) (write : Bool) (failed : Nat) (console : Console State) :
    List String → Console State × Verdict
  | [] => (console, if failed = 0 then .clean else .unclean)
  | path :: rest =>
    match readText console.files path with
    | .error reason => (console.abort "reading" path reason, .aborted)
    | .ok source =>
      match formatText launch formatter source with
      | .error failure =>
        formatFiles launch formatter write (failed + 1) (console.note s!"{path}: {failure.message}") rest
      | .ok formatted =>
        match deliver write path source formatted console with
        | .error reason => (console.abort "writing" path reason, .aborted)
        | .ok console => formatFiles launch formatter write failed console rest

def versionLine : String := "znix-cli 0.1.0\n"

def run (launch : Launcher) (files : State) : Request → Console State × Verdict
  | .misuse => ({ files := files }, .misused)
  | .help => ({ files := files }, .clean)
  | .version => ({ files := files, stdout := versionLine.toList }, .clean)
  | .run invocation =>
    match invocation.subcommand with
    | .check external =>
      let parser := invocation.parser.getD .defaultParser
      check launch (if external then some parser else none) invocation.files files
    | .format write =>
      formatFiles launch (invocation.formatter.getD .defaultFormatter) write 0
        { files := files } invocation.files

end Run

end Dialect.Cli
