import StageParity.Script.Builtin.Basic

/-!
# Signals and background commands

The commands that send signals, say what is done when they come, and wait.
-/

namespace StageParity.Script

namespace Evaluate

open Step

def signalNames : List String :=
  ["EXIT", "HUP", "INT", "QUIT", "ILL", "TRAP", "ABRT", "BUS", "FPE", "KILL", "USR1", "SEGV", "USR2",
   "PIPE", "ALRM", "TERM", "STKFLT", "CHLD", "CONT", "STOP", "TSTP", "TTIN", "TTOU", "URG", "XCPU",
   "XFSZ", "VTALRM", "PROF", "WINCH", "IO", "PWR", "SYS"]

def signalCount : Nat := 65

def signalName (n : Nat) : Text :=
  match signalNames[n]? with
  | some name => name
  | none =>
    if n = 34 then "RTMIN" else if n = 64 then "RTMAX"
    else if 34 < n && n ≤ 49 then "RTMIN+" ++ Text.ofNat (n - 34)
    else if 49 < n && n < 64 then "RTMAX-" ++ Text.ofNat (64 - n)
    else Text.ofNat n

def signalNumber? (t : Text) : Option Nat :=
  match digits? t with
  | some n => if n < signalCount then some n else none
  | none =>
    let name := (Condition.stringOf t).toUpper
    if t.all Glyph.isChar then (List.range signalCount).find? fun n => Condition.stringOf (signalName n) = name
    else none

/-- The process that a target stands for: a job or another process. -/
def jobOf? (target : Text) : Step (Option Job) := do
  let f ← frame
  match target with
  | .char '%' :: rest =>
    match rest with
    | [] | [.char '%'] | [.char '+'] => return f.jobs.getLast?
    | _ => return (digits? rest).bind fun n => f.jobs[n - 1]?
  | _ => return f.jobs.find? fun job => Text.ofNat (jobNumber job.id) = target

/-- The signals that background commands ignore, and those that do not end a process. -/
def shielded : List Nat := [2, 3, 17, 18, 19, 20, 21, 22, 23, 28]

def kill (i : Inner) (signal : Nat) (target : Text) : Step Nat := do
  let f ← frame
  let m ← get
  let number := if target = Text.ofString "0" then some f.number
    else (digits? target).bind fun n => if parentNumber ≤ n && n < m.nextNumber then some n else none
  if let some number := number then
    if signal ≠ 0 then
      set { m with messages := m.messages ++ [Message.mk number signal m.clock] }
      signals i
    return 0
  else
    match ← jobOf? target with
    | some job =>
      if job.reaped || target.head? = some (.char '%') then noProcess
      else
        if signal ≠ 0 && !shielded.contains signal && m.clock < job.endsAt then
          set { m with
            heldUntil := m.clock,
            chunks := m.chunks.filter fun chunk => chunk.job ≠ job.id || chunk.time ≤ m.clock }
          onFrame fun f => { f with
            jobs := f.jobs.map fun other =>
              if other.id = job.id then { job with endsAt := m.clock, status := 128 + signal, signal := some signal }
              else other }
        return 0
    | none =>
      if target.head? = some (.char '%') then shellFails ("No such job: " ++ target)
      let body := if target.head? = some (.char '-') then target.drop 1 else target
      if (digits? body).isNone then shellFails ("Illegal number: " ++ target)
      noProcess
where
  noProcess : Step Nat := do
    shellComplains "No such process\n"
    return 1

def killUsage : Text :=
  "Usage: kill [-s sigspec | -signum | -sigspec] [pid | job]... or\nkill -l [exitstatus]"

/-- The signal that a command line asks for, whether it asks for names, and the targets. -/
def killCall (arguments : List Text) : Step (Nat × Bool × List Text) := do
  match arguments with
  | [] => shellFails killUsage
  | first :: rest =>
    match first with
    | .char '-' :: g :: more =>
      if let some signal := signalNumber? (g :: more) then return (signal, false, rest)
      let given ← optionsOf "ls:" arguments
      match given.value? 's' with
      | some name =>
        match signalNumber? name with
        | some signal => return (signal, given.has 'l', given.operands)
        | none => shellFails ("invalid signal number or name: " ++ name)
      | none => return (termNumber, given.has 'l', given.operands)
    | _ => return (termNumber, false, arguments)

def killCommand (i : Inner) (arguments : List Text) : Step Nat := do
  let (signal, lists, targets) ← killCall arguments
  if lists then
    match targets with
    | [] =>
      (List.range signalCount).forM fun n => writeLine (if n = 0 then Text.ofString "0" else signalName n)
      return 0
    | target :: _ =>
      let n ← numberOf target
      let n := if 128 < n then n - 128 else n
      if 0 < n && n < signalCount then
        writeLine (signalName n)
        return 0
      else shellFails ("invalid signal number or exit status: " ++ target)
  else if targets.isEmpty then shellFails killUsage
  else
    let results ← targets.mapM (kill i signal)
    return if results.all (· = 0) then 0 else 1

def trap (arguments : List Text) : Step Nat := do
  let given ← optionsOf "" arguments
  match given.operands with
  | [] =>
    let traps := (← frame).traps.mergeSort fun a b => a.1 ≤ b.1
    traps.forM fun (signal, script) =>
      writeLine ("trap -- " ++ singleQuoted script ++ " " ++ signalName signal)
    return 0
  | first :: rest =>
    let resets := rest.isEmpty || ((digits? first).bind fun _ => signalNumber? first).isSome
    let (action, names) : Option Text × List Text :=
      if resets then (none, first :: rest)
      else (if first = Text.ofString "-" then none else some first, rest)
    setTraps action names
where
  /-- Set what is done on some signals, up to the first that is unknown. -/
  setTraps (action : Option Text) : List Text → Step Nat
    | [] => return 0
    | name :: rest => do
      match signalNumber? name with
      | some signal =>
        onFrame fun f =>
          let others := f.traps.filter fun trap => trap.1 ≠ signal
          { f with traps := (action.toList.map fun script => (signal, script)) ++ others }
        setTraps action rest
      | none =>
        complain ("trap: " ++ name ++ ": bad trap")
        return 1

/-- Wait for background commands. A request to end that starts a script cuts the wait
short. -/
def wait (i : Inner) (arguments : List Text) : Step Nat := do
  let given ← optionsOf "" arguments
  let f ← frame
  let wanted : List (Option Job) ← given.operands.mapM fun target => do
    match ← jobOf? target with
    | some job => return some job
    | none =>
      if target.head? = some (.char '%') then shellFails ("No such job: " ++ target)
      let _ ← numberOf target
      return none
  let awaitedJobs := if given.operands.isEmpty then f.jobs else wanted.filterMap id
  let goal := awaitedJobs.foldl (fun t job => if t < job.endsAt then job.endsAt else t) (← get).clock
  let acts := fun (signal : Nat) => match f.disposition signal with
    | .action _ => true
    | _ => false
  let term ← timeOf fun m => if f.asked then none else m.termAt
  let sent := ((← get).messages.filter (isFor f)).map fun message => (message.signal, message.time)
  let cuts := (sent ++ term.toList.map (termNumber, ·)).filter fun signal => acts signal.1 && signal.2 ≤ goal
  if let some (signal, time) := earliest? cuts then
    awaitUntil false time
    setStatus (128 + signal)
    signals i
    return 128 + signal
  awaitUntil false goal
  (wanted.filterMap id).forM fun job => do
    if let some text := job.signal.bind signalText? then complain text
  let ids := awaitedJobs.map Job.id
  let named := (wanted.filterMap id).map Job.id
  onFrame fun f => { f with
    jobs := f.jobs.map fun job => { job with
      reaped := job.reaped || ids.contains job.id, asked := job.asked || named.contains job.id } }
  return match wanted.getLast? with
    | some (some job) => job.status
    | some none => 127
    | none => 0

def jobState (clock : Float) (job : Job) : Text :=
  if clock < job.endsAt then "Running"
  else
    match job.signal.bind signalText? with
    | some text => text
    | none => if job.status = 0 then "Done" else "Done(" ++ Text.ofNat job.status ++ ")"

def jobsCommand (arguments : List Text) : Step Nat := do
  let _ ← optionsOf "lp" arguments
  let m ← get
  let shown := m.frame.jobs.zipIdx.reverse
  let _ ← shown.foldlM (fun (before : Nat) (job, i) => do
    let mark : Text := if before = 0 then "+" else if before = 1 then "-" else " "
    let line := "[" ++ Text.ofNat (i + 1) ++ "] " ++ mark ++ " " ++ jobState m.clock job
    writeLine (line ++ List.replicate (33 - line.length) (.char ' '))
    return if m.clock < job.endsAt then before + 1 else before) 0
  onFrame fun f => { f with jobs := f.jobs.filter fun job => m.clock < job.endsAt }
  return 0

end Evaluate

end StageParity.Script
