import StageParity.Process.Supervision
import StageParity.Report.Basic

/-!
# Sessions

The state of a run and the steps that change it. What the run does not decide itself,
above all how the commands it starts behave, comes from a host, which can be any.
-/

namespace StageParity

/-- The weight of a log record. -/
inductive Level where
  | info
  | warning
  | error
deriving DecidableEq

def Level.name : Level → String
  | .info => "INFO"
  | .warning => "WARNING"
  | .error => "ERROR"

structure Record where
  level : Level
  message : Text
deriving DecidableEq

/-- A command to be started. -/
structure Invocation where
  argv : List Text
  cwd : Option Path
  bindings : Option (List (Text × Text))
  /-- Whether it gets a process group of its own. -/
  ownGroup : Bool
  /-- How long it may run before it is asked to stop. -/
  limit : Float
  /-- How long it then has before it is made to. -/
  grace : Float

/-- A command that was started, or could not be. -/
structure Launch where
  invocation : Invocation
  /-- The disk as the command found it. -/
  disk : Disk
  sent : List StopSignal

/-- What happens while something is being removed. -/
structure Interference where
  /-- Signals that arrive just before. -/
  signals : List Signal
  /-- Why the removal is refused, if it is. -/
  refusal : Option Errno

/-- What a run does not decide itself. -/
structure Host where
  cwd : Location
  bindings : List (Text × Text)
  /-- Whether commands can have process groups of their own. -/
  processGroups : Bool
  /-- Where temporary directories go unless said otherwise. -/
  tempDir : Path
  /-- The ends of the names tried for a temporary directory. -/
  suffix : Nat → Text
  timeOfDay : Text
  /-- What the clock shows after a command took some seconds. -/
  measured : Float → Float
  /-- How the command that is started as the nth one behaves, and what it does to the
  disk. -/
  react : Nat → Invocation → Disk → Except StartFault Child × Disk
  /-- What happens during the nth removal of a tree, or of a single file. -/
  removal : (tree : Bool) → Nat → Interference

/-- Who handles a signal. -/
inductive Handler where
  /-- The handler that was there before the run. -/
  | outer
  /-- The scratch space of the run. -/
  | scratch
deriving DecidableEq

/-- The temporary files of a run. -/
structure Scratch where
  base : Option Path
  /-- How the name of the working directory begins. -/
  stem : Text
  handlesSignals : Bool
  /-- Whether the run may set signal handlers. -/
  mainThread : Bool
  workdir : Option Path
  /-- The paths to be removed, in the order in which they were handed out. -/
  tracked : List Path
  tornDown : Bool
  /-- The handlers to be put back. -/
  saved : List (Signal × Handler)
  failures : List Text
  received : Option Signal

def Scratch.fresh (base : Option Path) (handlesSignals : Bool) : Scratch :=
  ⟨base, "bootverify-", handlesSignals, true, none, [], false, [], [], none⟩

structure CommandEvent where
  kind : EventKind
  domain : Domain
  command : Text
  limit : Float

def CommandEvent.detail (e : CommandEvent) : Text := e.kind.detail e.limit

/-- An event about a check: its start, or its result. -/
structure CheckEvent where
  kind : CheckKind
  result : Option CheckResult

/-- The state of a run. -/
structure Session where
  disk : Disk
  launches : List Launch
  log : List Record
  console : Text
  commandEvents : List CommandEvent
  checkEvents : List CheckEvent
  handler : Signal → Handler
  scratch : Scratch
  treeRemovals : Nat
  fileRemovals : Nat
  /-- The directory of the checks, once it is made. -/
  testDir : Option Path
  samples : Both (Option Path)
  report : Report

def Session.start (disk : Disk) (scratch : Scratch) : Session :=
  ⟨disk, [], [], [], [], [], fun _ => .outer, scratch, 0, 0, none, ⟨none, none⟩, Report.start [] []⟩

/-- A step of a run. The state survives a fault. -/
abbrev Run := ExceptT Fault (StateM Session)

namespace Run

variable {α : Type}

def from_ (step : Run α) (s : Session) : Except Fault α × Session := StateT.run (ExceptT.run step) s

/-- The result of a step, whether it ended well or not. -/
def attempt (step : Run α) : Run (Except Fault α) :=
  ExceptT.mk do
    let result ← ExceptT.run step
    return .ok result

/-- Take a step and then a last one, whether the first ended well or not. A fault of the
last one counts. -/
def thenAlways (step : Run α) (last : Run Unit) : Run α := do
  let result ← attempt step
  last
  liftExcept result
where
  liftExcept : Except Fault α → Run α
    | .ok a => pure a
    | .error fault => throw fault

def log (level : Level) (message : Text) : Run Unit :=
  modify fun s => { s with log := s.log ++ [⟨level, message⟩] }

def ask (question : Disk → Except FileFault α) : Run α := do
  match question (← get).disk with
  | .ok answer => return answer
  | .error fault => throw (.file fault)

def change (step : Disk → Except FileFault Disk) : Run Unit := do
  let disk ← ask step
  modify fun s => { s with disk }

/-- Change the disk by a step that may fail halfway. -/
def changePartly (step : Disk → Disk × Option FileFault) : Run Unit := do
  let (disk, fault) := step (← get).disk
  modify fun s => { s with disk }
  match fault with
  | none => return
  | some fault => throw (.file fault)

def onReport (step : Report → Except Fault Report) : Run Unit := do
  match step (← get).report with
  | .ok report => modify fun s => { s with report }
  | .error fault => throw fault

def onScratch (step : Scratch → Scratch) : Run Unit :=
  modify fun s => { s with scratch := step s.scratch }

end Run

end StageParity
