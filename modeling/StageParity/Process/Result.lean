import StageParity.Decimal.Shortest
import StageParity.Process.Policy
import StageParity.Text.Blank

/-!
# Results of commands

What is known of a command after it ended, could not be started, or ran out of
time, and the texts a build records about it.
-/

namespace StageParity

inductive LaunchErrorKind where
  | notFound
  | notExecutable
  | osError
deriving DecidableEq

def LaunchErrorKind.key : LaunchErrorKind → String
  | .notFound => "not_found"
  | .notExecutable => "not_executable"
  | .osError => "os_error"

structure LaunchError where
  kind : LaunchErrorKind
  message : Text

/-- The signals sent to a command that ran out of time. -/
inductive StopSignal where
  | term
  | kill
deriving DecidableEq

def StopSignal.name : StopSignal → String
  | .term => "SIGTERM"
  | .kill => "SIGKILL"

structure CommandResult where
  domain : Domain
  command : Text
  limit : Float
  duration : Float
  timedOut : Bool
  exitCode : Option Int
  stdout : Text
  stderr : Text
  launchError : Option LaunchError
  signals : List StopSignal

namespace CommandResult

def launched (r : CommandResult) : Bool := r.launchError.isNone

/-- The exit code, or a stand-in for a command that has none. -/
def effectiveExitCode (r : CommandResult) : Int :=
  match r.exitCode with
  | some code => code
  | none => if r.timedOut then 124 else 1

def trimNewlines (t : Text) : Text := t.dropEnd (· == .char '\n')

/-- How the command ended, as the last entry of a build log says it. -/
def ending (r : CommandResult) : Text :=
  match r.launchError with
  | some e => "error: " ++ e.message
  | none =>
    if r.timedOut then "error: timed out after " ++ Text.ofFloatFixed 1 r.limit ++ "s"
    else "exit status: " ++ Text.ofInt r.effectiveExitCode

def logEntries (r : CommandResult) : List Text :=
  ["$ " ++ r.command] ++ (if r.stdout.isEmpty then [] else [trimNewlines r.stdout]) ++
    (if r.stderr.isEmpty then [] else [trimNewlines r.stderr]) ++ [r.ending]

def buildLog (r : CommandResult) : Text := Text.join "\n" r.logEntries ++ "\n"

def failureReason (r : CommandResult) : Option Text :=
  match r.launchError with
  | some e => some ("could not run build command: " ++ e.message)
  | none =>
    if r.timedOut then some ("build timed out after " ++ Text.ofFloatFixed 1 r.limit ++ "s")
    else if r.effectiveExitCode ≠ 0 then
      some ("build exited with status " ++ Text.ofInt r.effectiveExitCode)
    else none

end CommandResult

end StageParity
