import StageParity.Session

/-!
# Commands

Starting a command, watching over it within its limit, and the result.
-/

namespace StageParity

structure Request where
  argv : List Text
  domain : Domain
  policy : Policy
  cwd : Option Path
  bindings : Option (List (Text × Text))
  requested : Option Float

def Request.invocation (request : Request) (host : Host) (cwd : Option Path) : Invocation where
  argv := request.argv
  cwd := cwd
  bindings := request.bindings
  ownGroup := request.policy.processGroup && host.processGroups
  limit := request.policy.limit request.requested
  grace := request.policy.grace

def LaunchErrorKind.ofError (error : OsError) : LaunchErrorKind :=
  match error.errno? with
  | some errno =>
    if errno = .notFound then .notFound
    else if errno = .denied || errno = .notPermitted then .notExecutable
    else .osError
  | none => .osError

namespace Run

/-- A signal reaches the run. Before the removal of the temporary files it stops the
run; from then on it is only noted. -/
def receive (signal : Signal) : Run Unit := do
  match (← get).handler signal with
  | .outer => throw (.interrupted ("baseline " ++ signal.name))
  | .scratch =>
    onScratch fun s => { s with received := some signal }
    if (← get).scratch.tornDown then
      log .warning ("Received " ++ signal.name ++ " during teardown; finishing cleanup")
    else
      log .warning ("Received " ++ signal.name ++ ", aborting run")
      throw (.interrupted signal.name)

def launchFailure (request : Request) (limit elapsed : Float) (error : OsError) : CommandResult where
  domain := request.domain
  command := Shell.joinWords request.argv
  limit := limit
  duration := elapsed
  timedOut := false
  exitCode := none
  stdout := []
  stderr := []
  launchError := some ⟨.ofError error, error.message⟩
  signals := []

def watchedResult (request : Request) (limit elapsed : Float) (child : Child) (watch : Watch) :
    CommandResult where
  domain := request.domain
  command := Shell.joinWords request.argv
  limit := limit
  duration := elapsed
  timedOut := watch.timedOut
  exitCode := if watch.timedOut then none else some child.exitCode
  stdout := Text.decode (watch.stdout child)
  stderr := Text.decode (watch.stderr child)
  launchError := none
  signals := watch.delivered

def noteLaunch (invocation : Invocation) (disk : Disk) (sent : List StopSignal) : Run Unit :=
  modify fun s => { s with launches := s.launches ++ [⟨invocation, disk, sent⟩] }

def tell (request : Request) (limit : Float) (watch : Watch) (listen : CommandEvent → Run Unit) :
    Run Unit :=
  watch.events.forM fun kind =>
    listen ⟨kind, request.domain, Shell.joinWords request.argv, limit⟩

def note (event : CommandEvent) : Run Unit :=
  modify fun s => { s with commandEvents := s.commandEvents ++ [event] }

def interrupt (cut : Cut) : Run Unit :=
  match cut with
  | .stop label _ => throw (.interrupted label)
  | .signal signal => receive signal

/-- Run a command and give its result. Events are told to `listen` as they happen. -/
def command (host : Host) (request : Request) (listen : CommandEvent → Run Unit) :
    Run CommandResult := do
  let cwd ← request.cwd.mapM fun path => ask fun disk => disk.resolve host.cwd path
  let invocation := request.invocation host cwd
  let s ← get
  let (reaction, disk) := host.react s.launches.length invocation s.disk
  modify fun s => { s with disk }
  match reaction with
  | .error fault =>
    noteLaunch invocation s.disk []
    match fault with
    | .os error => return launchFailure request invocation.limit (host.measured 0) error
    | fault => throw (.start fault)
  | .ok child =>
    let watch := Watch.run child invocation.limit invocation.grace
    noteLaunch invocation s.disk watch.sent
    tell request invocation.limit watch listen
    watch.cutBy.forM interrupt
    return watchedResult request invocation.limit (host.measured watch.clock) child watch

end Run

end StageParity
