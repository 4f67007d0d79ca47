import StageParity.Process.Command

/-!
# Scratch space

The temporary files of a run. The working directory is made when it is first needed;
every path handed out is tracked, and all tracked paths are removed once, in reverse
order, however the run ends. A removal that is refused is noted and does not stop the
others.
-/

namespace StageParity

namespace Scratch

def acquired (s : Scratch) : Bool := !s.tracked.isEmpty

def add (s : Scratch) (path : Path) : Scratch :=
  if s.tracked.contains path then s else { s with tracked := s.tracked ++ [path] }

end Scratch

namespace Run

/-- Refuse to go on once the temporary files are gone. -/
def ensureLive : Run Unit := do
  if (← get).scratch.tornDown then throw .released

def track (path : Path) : Run Unit := do
  ensureLive
  onScratch fun s => s.add path

/-- How many names are tried for the working directory. -/
def nameAttempts : Nat := 10000

def workdirMode : Nat := 0o700

def tempName (base : Path) (stem suffix : Text) : Text :=
  let name := stem ++ suffix
  if name.head? = some Path.slash then name
  else if base.text.getLast? = some Path.slash then base.text ++ name
  else base.text ++ [Path.slash] ++ name

/-- Make a directory under the first free name from the nth one on. -/
def makeTemp (host : Host) (base : Path) (stem : Text) : (left : Nat) → (nth : Nat) → Run Path
  | 0, _ =>
    throw (.file (.os (.described .exists_ "No usable temporary directory name found")))
  | left + 1, nth => do
    let name := tempName base stem (host.suffix nth)
    let path := Path.ofText name
    match (← get).disk.makeDirectory host.cwd path workdirMode with
    | .ok disk =>
      modify fun s => { s with disk }
      return path
    | .error (.os error) =>
      match error.errno? with
      | some errno =>
        if errno = .exists_ then makeTemp host base stem left (nth + 1)
        else throw (.file (.os (.onPath errno name)))
      | none => throw (.file (.os error))
    | .error fault => throw (.file fault)

/-- The working directory, made when it is first asked for. -/
def workdir (host : Host) : Run Path := do
  ensureLive
  let s := (← get).scratch
  match s.workdir with
  | some path => return path
  | none =>
    let path ← makeTemp host (s.base.getD host.tempDir) s.stem nameAttempts 0
    onScratch fun s => { s with workdir := some path }
    track path
    log .info ("Created working directory " ++ path.text)
    return path

def scratchPath (host : Host) (name : Text) : Run Path := do
  let path := (← workdir host).child name
  track path
  return path

def scratchDirectory (host : Host) (name : Text) : Run Path := do
  let path ← scratchPath host name
  changePartly fun disk => disk.makeDirectories host.cwd path.names.length path
  return path

def receiveAll (signals : List Signal) : Run Unit := signals.forM receive

def removeTree (host : Host) (path : Path) : Run Unit := do
  let nth := (← get).treeRemovals
  modify fun s => { s with treeRemovals := nth + 1 }
  let interference := host.removal true nth
  receiveAll interference.signals
  match interference.refusal with
  | some errno => throw (.file (.os (.onPath errno path.text)))
  | none => changePartly fun disk => disk.removeTree host.cwd path

/-- Remove a file or a link, if it is there. A path that cannot be looked for is refused
before anything else can be. -/
def removeFile (host : Host) (path : Path) : Run Unit := do
  let nth := (← get).fileRemovals
  modify fun s => { s with fileRemovals := nth + 1 }
  let interference := host.removal false nth
  receiveAll interference.signals
  match Disk.misnamed? path, interference.refusal with
  | some fault, _ => throw (.file fault)
  | none, some errno => throw (.file (.os (.onPath errno path.text)))
  | none, none =>
    match (← get).disk.unlink host.cwd path with
    | .ok disk => modify fun s => { s with disk }
    | .error fault => if Disk.isMissing fault then return else throw (.file fault)

/-- Remove what a tracked path leads to. A link is removed itself, not its target. -/
def remove (host : Host) (path : Path) : Run Unit := do
  let isTree ← ask fun disk => disk.isDirectory host.cwd path
  if isTree then
    if ← ask fun disk => disk.isLink host.cwd path then removeFile host path
    else removeTree host path
  else removeFile host path

/-- Remove a tracked path; a refusal by the operating system is noted. -/
def removeNoting (host : Host) (path : Path) : Run Unit := do
  match ← attempt (remove host path) with
  | .ok () => return
  | .error (.file (.os error)) =>
    let message := "Failed to remove " ++ path.text ++ ": " ++ error.message
    log .warning message
    onScratch fun s => { s with failures := s.failures ++ [message] }
  | .error fault => throw fault

/-- Remove every tracked path, the last one first. Later calls do nothing. -/
def teardown (host : Host) : Run (List Text) := do
  let s := (← get).scratch
  if s.tornDown then return s.failures
  onScratch fun s => { s with tornDown := true }
  s.tracked.reverse.forM (removeNoting host)
  let s := (← get).scratch
  if s.acquired then
    log .info ("Removed " ++ Text.ofNat s.tracked.length ++ " temporary path(s)")
  return s.failures

def takeSignals : Run Unit := do
  let s := (← get).scratch
  if s.handlesSignals && s.mainThread then
    let before := (← get).handler
    modify fun s =>
      { s with
        handler := fun _ => .scratch
        scratch := { s.scratch with saved := Signal.all.map fun signal => (signal, before signal) } }

def giveBackSignals : Run Unit :=
  modify fun s =>
    { s with
      handler := fun signal => (s.scratch.saved.lookup signal).getD (s.handler signal)
      scratch := { s.scratch with saved := [] } }

/-- The end of the scratch space: the tracked paths are removed and the signals given
back. -/
def leave (host : Host) : Run Unit :=
  thenAlways (do let _ ← teardown host) giveBackSignals

/-- A part of a run that ends with the scratch space. -/
def withScratch {α : Type} (host : Host) (body : Run α) : Run α := do
  takeSignals
  thenAlways body (leave host)

end Run

end StageParity
