import StageParity.CommandLine.Arguments
import StageParity.CommandLine.LogLevel
import StageParity.CommandLine.Usage
import StageParity.Pipeline

/-!
# The program

A run of the program on a command line: read the words, choose the level of the log, and
verify the project.
-/

namespace StageParity

/-- How a run of the program ended. -/
structure Exit where
  code : Except Fault Nat
  stdout : Text
  stderr : Text
  logLevel : Option Nat
  session : Session

namespace Program

def standardColumns : Nat := 80

def columnsName : Text := "COLUMNS"

def number? (t : Text) : Option Nat :=
  if Word.areDigits t then
    some ((t.filterMap Glyph.char?).foldl (fun n c => 10 * n + (c.toNat - 48)) 0)
  else none

def columns (bindings : List (Text × Text)) : Nat :=
  match (bindings.lookup columnsName).bind number? with
  | some (n + 1) => n + 1
  | _ => standardColumns

/-- The exit code after a refused command line. -/
def usageCode : Nat := 2

/-- What is printed when reading the command line ends early: standard output, standard
error and the exit code. -/
def farewell (columns : Nat) : EarlyEnd → Text × Text × Nat
  | .help => (Usage.help columns, [], 0)
  | .version => (Usage.version columns, [], 0)
  | .refused error =>
    ([], Usage.usage columns ++ Text.ofString Switch.program ++ ": error: " ++ error.message ++ "\n",
      usageCode)

def options (host : Host) (args : Arguments) : RunOptions where
  root := args.workdir.getD ⟨.root, host.cwd⟩
  verbose := args.verbose
  reportFile := args.report
  tempBase := none
  handlesSignals := true

def verify (host : Host) (args : Arguments) : Run Nat := do
  let options := options host args
  let root ← Run.ask fun disk => disk.resolve host.cwd options.root
  Run.log .info ("Project root: " ++ root.text)
  Run.verify host options

/-- Run the program on words. The level of the log is chosen only on demand. -/
def run (host : Host) (words : List Text) (setsLevel : Bool) (start : Session) : Exit :=
  match Arguments.ofTexts words with
  | .error ending =>
    let (stdout, stderr, code) := farewell (columns host.bindings) ending
    ⟨.ok code, stdout, stderr, none, start⟩
  | .ok args =>
    match LogLevel.choose args.verbose (host.bindings.lookup LogLevel.variableName) with
    | .error format =>
      if setsLevel then ⟨.error (.unknownLevel format), [], [], some LogLevel.standard, start⟩
      else finish args none
    | .ok level => finish args (if setsLevel then some level else none)
where
  /-- Verify the project and give what was printed. -/
  finish (args : Arguments) (level : Option Nat) : Exit :=
    let (code, s) := (verify host args).from_ start
    ⟨code, s.console, [], level, s⟩

end Program

end StageParity
