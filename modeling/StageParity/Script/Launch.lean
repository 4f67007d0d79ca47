import StageParity.Script.Interpreter

/-!
# Launching programs

How a command behaves that is started on a machine with the tools. The machine runs
twice if the command does not end within its limit: first without signals, and then with
those that the limit brings.
-/

namespace StageParity.Script

/-- What came of a program that ran on a machine. -/
structure Trace where
  endsAt : Option Float
  exitCode : Int
  /-- Until when its standard streams were open. -/
  heldUntil : Float
  chunks : List Chunk
  /-- The signals that it sent to the process that started it. -/
  toParent : List Message
  disk : Disk

namespace Trace

/-- What was written to a stream in a span of time. -/
def written (trace : Trace) (toError : Bool) (within : Float → Bool) : List UInt8 :=
  let found := trace.chunks.reverse.filter fun chunk => chunk.toError == toError && within chunk.time
  (found.mergeSort fun a b => a.time ≤ b.time).flatMap Chunk.data

/-- When the program had ended and its streams were closed. -/
def closedAt (trace : Trace) : Option Float :=
  trace.endsAt.map fun t => if t < trace.heldUntil then trace.heldUntil else t

def by_ (deadline : Float) : Option Float → Bool
  | some t => t ≤ deadline
  | none => false

def waitEnd (trace : Trace) (deadline : Float) : Float :=
  if by_ deadline trace.closedAt then trace.closedAt.getD deadline else deadline

/-- What first cuts short a wait from one time up to another, and when: a request to stop, or
a signal that the program sends to the process that started it. -/
def cut? (trace : Trace) (interrupt : Option (Float × Text)) (earliest latest : Float) :
    Option (Float × Cut) :=
  let asked := interrupt.toList.map fun (time, label) => (time, Cut.stop label false)
  let told := trace.toParent.filterMap fun message =>
    (Signal.all.find? fun signal => signal.number = message.signal).map fun signal =>
      (message.time, Cut.signal signal)
  let due := (asked ++ told).filter fun (time, _) => earliest ≤ time && time < latest
  (due.mergeSort fun a b => a.1 ≤ b.1).head?

end Trace

/-- How deep commands may stand in one another. -/
def maxDepth : Nat := 300

def trace (disk : Disk) (cwd : Location) (bindings : List (Text × Text)) (loaded : Image.Loaded)
    (wholeGroup : Bool) (termAt killAt : Option Float) : Trace :=
  let frame : Frame :=
    { cwd, way := locationText cwd, bindings, exported := bindings.map Prod.fst, readOnly := [],
      name := loaded.words.headD [], label := [], arguments := [], status := 0, traps := [], functions := [],
      aliases := [], hashed := [],
      descriptors := [(0, ⟨some 0, none⟩), (1, ⟨none, some .stdout⟩), (2, ⟨none, some .stderr⟩)],
      umask := 0o022, options := [], jobs := [], lastJob := none, tests := false, inTail := false, loops := 0,
      locals := none, optionIndex := 1, letterIndex := 0, outputStatus := 0, lost := none, engaged := false, signalled := true,
      asked := false, number := firstNumber, isShell := true, job := 0, line := 0, lineBase := 0 }
  let machine : Machine :=
    { disk, clock := 0, termAt, killAt, wholeGroup, chunks := [], pipes := [],
      inputs := #[.ready [] false], nextJob := 1, heldUntil := 0, nextNumber := firstNumber + 1,
      messages := [], frame }
  let (result, m) := StateT.run (ExceptT.run ((inner maxDepth).become loaded)) machine
  let (endsAt, exitCode) : Option Float × Int := match result with
    | .ok () => (some m.clock, (m.frame.status : Int))
    | .error (.exit status) => (some m.clock, (status : Int))
    | .error (.killed signal time) => (some time, -(signal : Int))
    | .error .failed => (some m.clock, 2)
    | .error (.leave _) | .error (.again _) | .error (.back _) => (some m.clock, 0)
    | .error .over => (none, 0)
  let toParent := m.messages.filter fun message => message.shell = parentNumber
  ⟨endsAt, exitCode, m.heldUntil, m.chunks, toParent, m.disk⟩

/-- The longest word that a program can be given, in bytes. -/
def maxWord : Nat := 131071

/-- How long a wait that is cut short still waits for its child, in seconds. -/
def lastLook : Float := 0.25

/-- A child that behaves like a program, and the disk after it. `interrupt` is when the
wait for it is cut short, if it is. A program is made to end when the first wait for it is cut
short, and runs on when a later one is. -/
def launched (disk : Disk) (cwd : Location) (bindings : List (Text × Text)) (loaded : Image.Loaded)
    (call : Invocation) (interrupt : Option (Float × Text)) : Child × Disk :=
  let run := trace disk cwd bindings loaded call.ownGroup
  let free := run none none
  let forced := call.limit + call.grace
  let cutIn := fun (wait : Wait) (reason : Cut) =>
    { Child.quick with
      runtime := forced + 1, onTerm := .ignore,
      cut := fun which => if which = wait then some reason else none }
  match free.cut? interrupt 0 (free.waitEnd call.limit) with
  | some (time, reason) =>
    let killAt := if time + lastLook < call.limit then time + lastLook else call.limit
    (cutIn .first reason, (run none (some killAt)).disk)
  | none =>
    if Trace.by_ call.limit free.closedAt then
      ({ Child.quick with
          stdout := free.written false fun _ => true, stderr := free.written true fun _ => true,
          exitCode := free.exitCode, runtime := free.closedAt.getD 0 }, free.disk)
    else if Trace.by_ call.limit free.endsAt then
      let cut := fun which =>
        if which = .grace then (free.cut? interrupt call.limit (free.waitEnd forced)).map Prod.snd else none
      ({ Child.quick with
          stdout := free.written false fun _ => true, stderr := free.written true fun _ => true,
          exitCode := free.exitCode, runtime := forced + 1, exitsAtLimit := true, cut }, free.disk)
    else
      let asked := run (some call.limit) (some forced)
      match asked.cut? interrupt call.limit (asked.waitEnd forced) with
      | some (_, reason) => (cutIn .grace reason, (run (some call.limit) none).disk)
      | none =>
        let early := fun (t : Float) => t ≤ call.limit
        if Trace.by_ forced asked.endsAt && asked.exitCode ≠ -(killNumber : Int) then
          ({ Child.quick with
              stdout := asked.written false early, stderr := asked.written true early,
              termStdout := asked.written false fun t => !early t,
              termStderr := asked.written true fun t => !early t,
              exitCode := asked.exitCode, runtime := forced + 1,
              termDelay := asked.endsAt.getD 0 - call.limit }, asked.disk)
        else
          ({ Child.quick with
              stdout := asked.written false fun _ => true, stderr := asked.written true fun _ => true,
              exitCode := asked.exitCode, runtime := forced + 1, onTerm := .ignore }, asked.disk)

def directoryAt (disk : Disk) (cwd : Location) (path : Path) : Except OsError Location :=
  match disk.locate cwd .target path with
  | .ok (.found place (.directory _)) => .ok place
  | .ok (.found _ _) => .error (.onPath .notDirectory path.text)
  | .ok (.vacant _ _) => .error (.onPath .notFound path.text)
  | .error fault => .error (.onPath (errnoOf fault) path.text)

/-- Start a command: find its program and run it. -/
def launch (cwd : Location) (bindings : List (Text × Text)) (interrupt : Option (Float × Text))
    (call : Invocation) (disk : Disk) : Except StartFault Child × Disk :=
  let bindings := call.bindings.getD bindings
  let name := call.argv.headD []
  let ready : Except StartFault (Location × Image.Loaded) := do
    if let some fault := StartFault.ofCommand? call.argv call.bindings then throw fault
    let place ← match call.cwd with
      | some path => (directoryAt disk cwd path).mapError .os
      | none => pure cwd
    if call.argv.any fun word => maxWord < word.encode.length then throw (.os (.onPath ⟨7⟩ name))
    match Image.find disk place (spelled (Toolchain.searchPath bindings)) (call.argv.map spelled) with
    | .error errno => throw (.os (.onPath errno name))
    | .ok loaded => return (place, loaded)
  match ready with
  | .error fault => (.error fault, disk)
  | .ok (place, loaded) =>
    let bindings := bindings.map fun v => (spelled v.1, spelled v.2)
    let (child, disk) := launched disk place bindings loaded call interrupt
    (.ok child, disk)

end StageParity.Script
