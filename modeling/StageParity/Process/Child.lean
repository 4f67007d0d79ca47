import StageParity.Process.Result

/-!
# Children

How a started command behaves: what it writes, when it ends by itself, how it takes
the signals that ask it to stop, and whether the wait for it is cut short.
-/

namespace StageParity

/-- The signals that ask a run to stop. -/
inductive Signal where
  | int
  | term
deriving DecidableEq

namespace Signal

def all : List Signal := [.int, .term]

def number : Signal → Nat
  | .int => 2
  | .term => 15

def name : Signal → String
  | .int => "SIGINT"
  | .term => "SIGTERM"

end Signal

inductive Response where
  | exit
  | ignore
  /-- It cannot be found. -/
  | gone
  /-- The signal may not be sent to it. -/
  | denied
deriving DecidableEq

/-- Whether a signal reaches a child that takes it in this way. -/
def Response.delivers : Response → Bool
  | .exit | .ignore => true
  | .gone | .denied => false

/-- The waits for a child, in order: up to its limit, up to the grace after it was asked
to stop, and without limit. -/
inductive Wait where
  | first
  | grace
  | last
deriving DecidableEq

/-- What cuts a wait short. -/
inductive Cut where
  /-- A request to stop. The child may have ended just before. -/
  | stop (label : Text) (exited : Bool)
  /-- A signal to the run itself. -/
  | signal (signal : Signal)
deriving DecidableEq

/-- Whether the child had ended when a wait was cut short. -/
def Cut.exited : Cut → Bool
  | .stop _ exited => exited
  | .signal _ => false

/-- The behaviour of a child. Times are in seconds. -/
structure Child where
  stdout : List UInt8
  stderr : List UInt8
  exitCode : Int
  runtime : Float
  onTerm : Response
  /-- How long it takes to end after it was asked to. -/
  termDelay : Float
  onKill : Response
  /-- What it writes when it ends on request. -/
  termStdout : List UInt8
  termStderr : List UInt8
  /-- Whether it ends by itself just when its limit is reached. -/
  exitsAtLimit : Bool
  cut : Wait → Option Cut

namespace Child

def quick : Child :=
  ⟨[], [], 0, 0, .exit, 0, .exit, [], [], false, fun _ => none⟩

def response (child : Child) : StopSignal → Response
  | .term => child.onTerm
  | .kill => child.onKill

end Child

end StageParity
