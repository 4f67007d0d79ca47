import StageParity.Script.Arithmetic
import StageParity.Script.Reach
import StageParity.Script.Syntax

/-!
# Machines that run scripts

The state of a machine on which processes run one after another: the disk, the clock,
what was written, and the process that runs now. Signals come at times known beforehand,
so a process that sleeps through such a time learns of it when it wakes.
-/

namespace StageParity.Script

def forever : Float := 1.0 / 0.0

inductive Sink where
  | stdout
  | stderr
  | pipe (index : Nat)
  | file (place : Location)
  | nowhere
  /-- A device that takes nothing. -/
  | full
deriving DecidableEq

structure Piece where
  time : Float
  data : List UInt8

namespace Piece

def bytes : List Piece → List UInt8
  | [] => []
  | [piece] => piece.data
  | piece :: rest => piece.data ++ bytes rest

def comesAt : List Piece → Nat → Float
  | _, 0 => 0
  | [], _ + 1 => 0
  | piece :: rest, n + 1 =>
    if n < piece.data.length then piece.time else comesAt rest (n + 1 - piece.data.length)

def without : List Piece → Nat → List Piece
  | [], _ => []
  | piece :: rest, n =>
    if n < piece.data.length then ⟨piece.time, piece.data.drop n⟩ :: rest
    else without rest (n - piece.data.length)

end Piece

/-- Bytes that can be read. Processes that share an input go through it together. -/
structure Input where
  pieces : List Piece
  /-- Whether it is a file, in which a reader can go back. -/
  isFile : Bool
  endsAt : Float
  drained : Bool
  fault : Option Errno

namespace Input

def ready (data : List UInt8) (isFile : Bool) : Input := ⟨[⟨0, data⟩], isFile, 0, false, none⟩

def rest (input : Input) : List UInt8 := Piece.bytes input.pieces

end Input

structure Pipe where
  /-- What was written to it, the last piece first and the last byte of each first. -/
  pieces : List Piece
  /-- When its reader went away, if it did. -/
  brokenAt : Option Float

namespace Pipe

def written (pipe : Pipe) : List Piece :=
  pipe.pieces.reverse.map fun piece => ⟨piece.time, piece.data.reverse⟩

def put (pipe : Pipe) (time : Float) (data : List UInt8) : Pipe :=
  match pipe.pieces with
  | last :: before =>
    if last.time = time then { pipe with pieces := ⟨time, data.reverse ++ last.data⟩ :: before }
    else { pipe with pieces := ⟨time, data.reverse⟩ :: last :: before }
  | [] => { pipe with pieces := [⟨time, data.reverse⟩] }

end Pipe

/-- What a descriptor leads to: an input of the machine, a sink, or both. -/
structure Channel where
  reads : Option Nat
  writes : Option Sink

/-- What a process does when a signal comes. -/
inductive Disposition where
  | standard
  | ignored
  | action (script : Text)
deriving DecidableEq

def termNumber : Nat := 15

/-- The number of the signal that no process survives. -/
def killNumber : Nat := 9

/-- The number of the signal that makes a process stand still. -/
def stopNumber : Nat := 19

/-- The number of the signal that comes to those who write for nobody. -/
def pipeNumber : Nat := 13

/-- The signals about which a process has no say. -/
def unstoppable : List Nat := [killNumber, stopNumber]

/-- The signals that a process with no say of its own passes over. -/
def harmless : List Nat := [17, 18, 20, 21, 22, 23, 28]

structure Ending where
  status : Nat
  signal : Option Nat

/-- A command that runs in the background. -/
structure Job where
  id : Nat
  endsAt : Float
  status : Nat
  signal : Option Nat
  reaped : Bool
  /-- Whether its status was asked for, after which it can be forgotten. -/
  asked : Bool

/-- A function of a script, with the line on which it is defined. -/
structure Routine where
  line : Nat
  body : Command

/-- A process. -/
structure Frame where
  cwd : Location
  way : Text
  bindings : List (Text × Text)
  exported : List Text
  readOnly : List Text
  name : Text
  /-- The built-in command that runs now, for complaints. -/
  label : Text
  arguments : List Text
  status : Nat
  /-- The scripts that it runs on signals, and on its exit, which has the number 0. An
  empty script makes it ignore the signal. -/
  traps : List (Nat × Text)
  functions : List (Text × Routine)
  aliases : List (Text × Text)
  /-- The programs that were looked for, with their paths. -/
  hashed : List (Text × Text)
  descriptors : List (Nat × Channel)
  umask : Nat
  options : List Char
  jobs : List Job
  lastJob : Option Nat
  tests : Bool
  inTail : Bool
  /-- The number of loops around the command that runs now. -/
  loops : Nat
  /-- The variables of the function that runs now, with their values outside of it; nothing
  outside of functions. -/
  locals : Option (List (Text × Option Text))
  optionIndex : Nat
  /-- Where the reading of options stands within the word before it; 0 if it is done. -/
  letterIndex : Nat
  /-- The exit status of the last command whose output stands in a word. -/
  outputStatus : Nat
  lost : Option Errno
  /-- Whether it reads something that never ends. -/
  engaged : Bool
  /-- Whether the signals of the machine reach it. -/
  signalled : Bool
  /-- Whether it has dealt with the request to end. -/
  asked : Bool
  number : Nat
  isShell : Bool
  job : Nat
  line : Nat
  /-- The lines before the function that runs now. -/
  lineBase : Nat

namespace Frame

def disposition (f : Frame) (signal : Nat) : Disposition :=
  match if unstoppable.contains signal then none else f.traps.lookup signal with
  | none => .standard
  | some [] => .ignored
  | some script => .action script

/-- The process without the scripts that it runs on signals. Ignored signals stay
ignored. -/
def withoutActions (f : Frame) : Frame := { f with traps := f.traps.filter fun trap => trap.2.isEmpty }

/-- Whether a process runs scripts on signals. -/
def hasActions (f : Frame) : Bool := f.traps.any fun trap => !trap.2.isEmpty

def has (f : Frame) (letter : Char) : Bool := f.options.contains letter

def shownLine (f : Frame) : Nat := f.line - f.lineBase

/-- Whether a process can write to a standard stream of the machine. -/
def holdsStreams (f : Frame) : Bool :=
  f.descriptors.any fun item => item.2.writes = some .stdout || item.2.writes = some .stderr

end Frame

/-- Bytes written to a standard stream. -/
structure Chunk where
  time : Float
  job : Nat
  toError : Bool
  data : List UInt8

/-- A signal that one process sends to a shell. -/
structure Message where
  shell : Nat
  signal : Nat
  time : Float

structure Machine where
  disk : Disk
  clock : Float
  /-- When processes are asked to end, and when they are made to. -/
  termAt : Option Float
  killAt : Option Float
  /-- Whether signals reach all processes, not only the first. -/
  wholeGroup : Bool
  /-- What was written, the last first. -/
  chunks : List Chunk
  pipes : List Pipe
  inputs : Array Input
  nextJob : Nat
  /-- Until when a process was asleep that could still write to a standard stream. -/
  heldUntil : Float
  nextNumber : Nat
  /-- The signals that shells have not dealt with. -/
  messages : List Message
  frame : Frame

/-- Why a process does not go on with the next command. -/
inductive Stop where
  | exit (status : Nat)
  | killed (signal : Nat) (time : Float)
  | leave (levels : Nat)
  | again (levels : Nat)
  | back (status : Nat)
  /-- It met an error that only some commands survive. -/
  | failed
  /-- It runs on beyond all that is looked at. -/
  | over

abbrev Step := ExceptT Stop (StateM Machine)

/-- The error of a device that takes nothing. -/
def noSpace : Errno := ⟨28⟩

/-- The error of a pipe that nobody reads. -/
def brokenPipe : Errno := ⟨32⟩

namespace Step

variable {α : Type}

def onFrame (f : Frame → Frame) : Step Unit := modify fun m => { m with frame := f m.frame }

def frame : Step Frame := return (← get).frame

def setStatus (status : Nat) : Step Unit := onFrame fun f => { f with status }

def attempt (step : Step α) : Step (Except Stop α) :=
  ExceptT.mk do
    let result ← ExceptT.run step
    return .ok result

def appendTo (disk : Disk) (place : Location) (data : List UInt8) : Disk :=
  match disk.get? place with
  | some (.file mode old) => disk.put place (.file mode (old ++ data))
  | _ => disk

def lose (errno : Errno) : Step Unit := onFrame fun f => { f with lost := some errno }

def writeTo (sink : Sink) (data : List UInt8) : Step Unit := do
  if !data.isEmpty then
    match sink with
    | .stdout => modify fun m => { m with chunks := ⟨m.clock, m.frame.job, false, data⟩ :: m.chunks }
    | .stderr => modify fun m => { m with chunks := ⟨m.clock, m.frame.job, true, data⟩ :: m.chunks }
    | .pipe index =>
      let m ← get
      if (m.pipes[index]?).any fun pipe => pipe.brokenAt.any (· < m.clock) then
        if m.frame.disposition pipeNumber = .standard then throw (.killed pipeNumber m.clock)
        else lose brokenPipe
      else set { m with pipes := m.pipes.modify index fun pipe => pipe.put m.clock data }
    | .file place => modify fun m => { m with disk := appendTo m.disk place data }
    | .nowhere => return
    | .full => lose noSpace

def channel? (descriptor : Nat) : Step (Option Channel) := return (← frame).descriptors.lookup descriptor

def sink? (descriptor : Nat) : Step (Option Sink) := return (← channel? descriptor).bind Channel.writes

def writeOn (descriptor : Nat) (data : List UInt8) : Step Unit := do
  match ← sink? descriptor with
  | some sink => writeTo sink data
  | none => if !data.isEmpty then lose .badDescriptor

def write (data : List UInt8) : Step Unit := writeOn 1 data

def writeLine (t : Text) : Step Unit := write (t.encode ++ [10])

def complain (t : Text) : Step Unit := do
  if let some sink ← sink? 2 then writeTo sink (t.encode ++ [10])

def shellComplains (t : Text) : Step Unit := do
  let f ← frame
  let label : Text := if f.label.isEmpty then [] else f.label ++ ": "
  complain (f.name ++ ": " ++ Text.ofNat f.shownLine ++ ": " ++ label ++ t)

def shellFails (t : Text) : Step α := do
  shellComplains t
  throw .failed

def connect (descriptor : Nat) (channel : Option Channel) : Step Unit :=
  onFrame fun f =>
    let others := f.descriptors.filter fun item => item.1 ≠ descriptor
    { f with descriptors := (channel.toList.map fun c => (descriptor, c)) ++ others }

def newInput (input : Input) : Step Nat := do
  let m ← get
  set { m with inputs := m.inputs.push input }
  return m.inputs.size

def feed (descriptor : Nat) (data : List UInt8) (isFile : Bool) : Step Unit := do
  let index ← newInput (.ready data isFile)
  connect descriptor (some ⟨some index, none⟩)

def input? (descriptor : Nat) : Step (Option (Nat × Input)) := do
  match (← channel? descriptor).bind Channel.reads with
  | some index => return (← get).inputs[index]?.map fun input => (index, input)
  | none => return none

def setInput (index : Nat) (input : Input) : Step Unit :=
  modify fun m => { m with inputs := m.inputs.modify index fun _ => input }

def lookup (name : Text) : Step (Option Text) := return (← frame).bindings.lookup name

def assign (name value : Text) : Step Unit :=
  onFrame fun f =>
    let f := if f.has 'a' && !f.exported.contains name then { f with exported := f.exported ++ [name] } else f
    if (f.bindings.lookup name).isSome then
      { f with bindings := f.bindings.map fun v => if v.1 = name then (name, value) else v }
    else { f with bindings := f.bindings ++ [(name, value)] }

def setVariable (name value : Text) : Step Unit := do
  if (← frame).readOnly.contains name then shellFails (name ++ ": is read only")
  if name = Text.ofString "OPTIND" then
    match Arithmetic.wholeNumber? true value with
    | some n => onFrame fun f => { f with optionIndex := max 1 n.toNat, letterIndex := 0 }
    | none => shellFails ("Illegal number: " ++ value)
  if name = Text.ofString "PATH" then onFrame fun f => { f with hashed := [] }
  assign name value

def removeVariable (name : Text) : Step Unit :=
  onFrame fun f => { f with
    bindings := f.bindings.filter fun v => v.1 ≠ name,
    exported := f.exported.filter (· ≠ name) }

def environment : Step (List (Text × Text)) := do
  let f ← frame
  return f.bindings.filter fun v => f.exported.contains v.1

def ask (question : Disk → Location → α) : Step α := do
  let m ← get
  return question m.disk m.frame.cwd

def change (step : Disk → Location → Except Errno Disk) : Step (Except Errno Unit) := do
  let m ← get
  match step m.disk m.frame.cwd with
  | .ok disk =>
    set { m with disk }
    return .ok ()
  | .error errno => return .error errno

/-- The time of a signal, if it reaches the running process. -/
def timeOf (signal : Machine → Option Float) : Step (Option Float) := do
  let m ← get
  return if m.frame.signalled then signal m else none

def hasCome (clock : Float) : Option Float → Bool
  | some t => t ≤ clock
  | none => false

/-- The signals that end the running process, with their times. A script on the request
to end does not help one that is asleep. -/
def fatal (asleep : Bool) : Step (List (Nat × Float)) := do
  let m ← get
  let f := m.frame
  let ends := fun (signal : Nat) => f.disposition signal = .standard && !harmless.contains signal
  let sent := (m.messages.filter fun message =>
    f.isShell && f.number = message.shell && message.signal ≠ stopNumber && ends message.signal).map
      fun message => (message.signal, message.time)
  let asksInVain := f.asked || !(ends termNumber || (asleep && f.disposition termNumber ≠ .ignored))
  let term ← timeOf fun m => if asksInVain then none else m.termAt
  let kill ← timeOf Machine.killAt
  return sent ++ term.toList.map (termNumber, ·) ++ kill.toList.map (killNumber, ·)

def earliest? (signals : List (Nat × Float)) : Option (Nat × Float) :=
  signals.foldl (fun best signal => match best with
    | some first => if signal.2 < first.2 then some signal else best
    | none => some signal) none

/-- End the running process if it does not survive a signal of a time that it waits
through, as `isDue` tells. -/
def wakeBy (asleep : Bool) (isDue : Float → Bool) : Step Unit := do
  if let some (signal, time) := earliest? ((← fatal asleep).filter fun signal => isDue signal.2) then
    let m ← get
    let t := if time < m.clock then m.clock else time
    set { m with clock := t }
    throw (.killed signal t)

def advance (time : Float) : Step Unit :=
  modify fun m =>
    let m := if m.clock < time then { m with clock := time } else m
    if m.frame.holdsStreams && m.heldUntil < m.clock then { m with heldUntil := m.clock } else m

/-- Let a time come at which the running process sleeps. It wakes earlier when a signal
ends it. -/
def sleepUntil (time : Float) : Step Unit := do
  wakeBy true (· < time)
  advance time

/-- Let a time come at which something happens to another process. A signal that ends both
leaves the running process no time to learn of the other. -/
def awaitUntil (asleep : Bool) (time : Float) : Step Unit := do
  let clock := (← get).clock
  wakeBy asleep fun t => t < time || (clock < time && t ≤ time)
  advance time

/-- Read all that is left of the input of a descriptor. -/
def drain (descriptor : Nat) : Step (Except Errno (List UInt8)) := do
  match ← input? descriptor with
  | some (index, input) =>
    match input.fault with
    | some errno => return .error errno
    | none =>
      awaitUntil true input.endsAt
      setInput index { input with pieces := [], drained := true }
      return .ok input.rest
  | none => return .error .badDescriptor

/-- Take bytes off an input as soon as they have come. -/
def takeFrom (index : Nat) (input : Input) (count : Nat) : Step Unit := do
  awaitUntil true (Piece.comesAt input.pieces count)
  setInput index { input with pieces := Piece.without input.pieces count }

/-- Read the input of a descriptor for a tool that writes as it reads. Of an input that
never ends the tool gets what there is, and waits for more when it has dealt with that. -/
def stream (descriptor : Nat) : Step (Except Errno (List UInt8)) := do
  match ← input? descriptor with
  | some (index, input) =>
    if input.fault.isNone && input.endsAt = forever then
      let data := input.rest
      takeFrom index input data.length
      onFrame fun f => { f with engaged := true }
      return .ok data
    else drain descriptor
  | none => drain descriptor

/-- Hand on the pieces of an input as they come, and then what is left at its end. -/
def passPieces (index : Nat) (input : Input) (act : List UInt8 → Step Unit) : List Piece → Step Unit
  | [] => do
    awaitUntil true input.endsAt
    setInput index { input with pieces := [], drained := true }
  | piece :: rest => do
    awaitUntil true piece.time
    setInput index { input with pieces := rest }
    act piece.data
    passPieces index input act rest

/-- Hand on what is left of the input of a descriptor, as it comes. -/
def passOn (descriptor : Nat) (act : List UInt8 → Step Unit) : Step (Except Errno Unit) := do
  match ← input? descriptor with
  | some (index, input) =>
    match input.fault with
    | some errno => return .error errno
    | none => return .ok (← passPieces index input act input.pieces)
  | none => return .error .badDescriptor

/-- Run a step as a process of its own, and tell how it ended. The process starts with
the traps of its parent only if they ignore a signal, and misses signals that came
before. -/
def forked (step : Step Unit) : Step Ending := do
  let m ← get
  let parent := m.frame
  onFrame fun f => { f.withoutActions with
    jobs := [], isShell := false, asked := hasCome m.clock m.termAt, inTail := true,
    lost := none, engaged := false, signalled := f.signalled && m.wholeGroup }
  let result ← attempt step
  let status := (← frame).status
  onFrame fun _ => parent
  match result with
  | .ok () => return ⟨status, none⟩
  | .error (.exit status) => return ⟨status, none⟩
  | .error (.back status) => return ⟨status, none⟩
  | .error .failed => return ⟨2, none⟩
  | .error (.killed signal _) => return ⟨128 + signal, some signal⟩
  | .error (.leave _) | .error (.again _) => return ⟨status, none⟩
  | .error .over => throw .over

/-- What a shell says of a process that a signal ended. -/
def signalText? : Nat → Option String
  | 1 => some "Hangup"
  | 3 => some "Quit"
  | 4 => some "Illegal instruction"
  | 5 => some "Trace/breakpoint trap"
  | 6 => some "Aborted"
  | 7 => some "Bus error"
  | 8 => some "Floating point exception"
  | 9 => some "Killed"
  | 10 => some "User defined signal 1"
  | 11 => some "Segmentation fault"
  | 12 => some "User defined signal 2"
  | 14 => some "Alarm clock"
  | 15 => some "Terminated"
  | _ => none

/-- End the process if a signal has come that it does not survive. -/
def endIfDue : Step Unit := do
  let clock := (← get).clock
  if let some (signal, time) := earliest? ((← fatal false).filter fun signal => signal.2 ≤ clock) then
    modify fun m => { m with clock := time }
    throw (.killed signal time)

/-- Wait for a process, and set the status to its own. A signal that ended it is told. -/
def awaited (step : Step Unit) : Step Unit := do
  let ending ← forked step
  endIfDue
  if let some text := ending.signal.bind signalText? then complain text
  setStatus ending.status

/-- Run a step and put the process back in part, however the step ends. -/
def restoring (restore : Frame → Frame → Frame) (step : Step α) : Step α := do
  let before ← frame
  let result ← attempt step
  onFrame (restore before)
  match result with
  | .ok a => return a
  | .error stop => throw stop

def notLast (step : Step α) : Step α :=
  restoring (fun before after => { after with inTail := before.inTail }) do
    onFrame fun f => { f with inTail := false }
    step

/-- Run a step and give what it writes to standard output, up to a time at which nobody
reads it any more. -/
def captured (brokenAt : Option Float) (step : Step α) : Step (α × List Piece) := do
  let m ← get
  let index := m.pipes.length
  set { m with pipes := m.pipes ++ [Pipe.mk [] brokenAt] }
  let result ← attempt <| restoring
    (fun before after => { after with descriptors := before.descriptors }) do
      connect 1 (some ⟨none, some (.pipe index)⟩)
      step
  let written := (((← get).pipes[index]?).map Pipe.written).getD []
  modify fun m => { m with pipes := m.pipes.take index }
  match result with
  | .ok a => return (a, written)
  | .error stop => throw stop

end Step

end StageParity.Script
