import StageParity.Build

/-!
# Checks

The four checks that compare the compilers of both stages. Each runs a command for stage
zero and one for stage one, keeps what they wrote, and compares it.
-/

namespace StageParity

/-- The note on a result of a stage one that hands its calls on. -/
def delegationNote : Text :=
  "Stage 1 is a delegation artifact; identical output cannot prove self-hosting equivalence"

def runtimeNote : Text := "runtime outputs differ (expected during development)"

def ownerRuns : Nat := 0o100

def CheckKind.logName (kind : CheckKind) (stage : Stage) : Text :=
  kind.key ++ "_stage" ++ Text.ofNat stage.number ++ ".log"

def sampleName (stage : Stage) : Text := "sample_stage" ++ Text.ofNat stage.number

def Captured.record (c : Captured) : Text :=
  "exit status: " ++ Text.ofInt c.exitStatus ++ "\n--- stdout ---\n" ++ c.stdout.printable ++
    "--- stderr ---\n" ++ c.stderr.printable

/-- The result with the note on a stage one that hands its calls on, if it was run. -/
def CheckResult.noteDelegation (delegated : Bool) (r : CheckResult) : CheckResult :=
  if delegated && r.outputs.one.isSome then
    { r with note := joinNotes [r.note, delegationNote] }
  else r

def CheckResult.noteRuntime (r : CheckResult) : CheckResult :=
  { r with note := joinNotes [if r.diff.isEmpty then r.note else runtimeNote, r.slowdownNote] }

namespace Run

/-- The directory of the checks, made when it is first needed. -/
def testDir (host : Host) (project : Project) : Run Path := do
  match (← get).testDir with
  | some path => return path
  | none =>
    let path ← scratchDirectory host project.layout.testDirName
    modify fun s => { s with testDir := some path }
    return path

def invoke (host : Host) (project : Project) (program : Path) (arguments : List Text) :
    Run Outcome := do
  let result ← command host
    { argv := program.text :: arguments
      domain := .artifactInvocation
      policy := Policy.standard .artifactInvocation
      cwd := some project.root
      bindings := none
      requested := project.layout.invocationLimit }
    fun _ => pure ()
  let outcome := Outcome.ofResult result
  match outcome.failure with
  | some failure =>
    log .warning ("Invocation failed (" ++ failure.kind.key ++ "): " ++ result.command)
  | none => pure ()
  return outcome

def keepOutcome (host : Host) (project : Project) (kind : CheckKind) (stage : Stage)
    (outcome : Outcome) : Run Unit := do
  let path := (← testDir host project).child (kind.logName stage)
  change fun disk => disk.writeFile host.cwd path outcome.captured.record.encode

def keepOutcomes (host : Host) (project : Project) (kind : CheckKind) (zero one : Outcome) :
    Run Unit := do
  keepOutcome host project kind .zero zero
  keepOutcome host project kind .one one

def compareOutcomes (kind : CheckKind) (zero one : Outcome) : Run CheckResult := do
  let result := Comparison.check kind zero one []
  log .info (Comparison.checkMessage result)
  return result

def skipCheck (kind : CheckKind) (reason : Text) : Run CheckResult := do
  log .info (Comparison.skipMessage kind reason)
  return Comparison.skip kind reason

def checkCompilers (host : Host) (project : Project) (kind : CheckKind) (compilers : Both Artifact)
    (arguments : List Text) : Run CheckResult := do
  let zero ← invoke host project compilers.zero.path arguments
  let one ← invoke host project compilers.one.path arguments
  keepOutcomes host project kind zero one
  compareOutcomes kind zero one

/-- Let the owner run a file. A refusal gives a warning. -/
def makeOwnerRunnable (host : Host) (path : Path) : Run Unit := do
  match ← attempt (change fun disk => disk.addMode host.cwd path ownerRuns) with
  | .ok () => return
  | .error (.file (.os error)) =>
    log .warning ("Could not mark " ++ path.text ++ " executable: " ++ error.message)
  | .error fault => throw fault

def noteSample (host : Host) (stage : Stage) (path : Path) : Run Unit := do
  if ← ask fun disk => disk.isFile host.cwd path then
    makeOwnerRunnable host path
    modify fun s => { s with samples := s.samples.set stage (some path) }
  else
    log .info (stage.label ++ " compilation produced no binary")

def checkCompilation (host : Host) (project : Project) (compilers : Both Artifact) :
    Run CheckResult := do
  let sample := project.sample
  if !(← ask fun disk => disk.isFile host.cwd sample) then
    skipCheck .compilation ("sample program not found: " ++ sample.text)
  else
    let outputs : Both Path :=
      ⟨(← testDir host project).child (sampleName .zero),
        (← testDir host project).child (sampleName .one)⟩
    let compile := fun (stage : Stage) =>
      invoke host project (compilers.get stage).path
        [sample.text, Text.ofString "-o", (outputs.get stage).text]
    let zero ← compile .zero
    let one ← compile .one
    keepOutcomes host project .compilation zero one
    noteSample host .zero outputs.zero
    noteSample host .one outputs.one
    compareOutcomes .compilation zero one

def checkRuntime (host : Host) (project : Project) : Run CheckResult := do
  let samples := (← get).samples
  match samples.zero, samples.one with
  | some zero, some one =>
    let zero ← invoke host project zero []
    let one ← invoke host project one []
    keepOutcomes host project .runtime zero one
    return (← compareOutcomes .runtime zero one).noteRuntime
  | _, _ =>
    let missing := Stage.all.filter fun stage => (samples.get stage).isNone
    skipCheck .runtime ("no compiled sample binary for " ++ Text.join ", " (missing.map Stage.label))

def check (host : Host) (project : Project) (compilers : Both Artifact) :
    CheckKind → Run CheckResult
  | .version => checkCompilers host project .version compilers [Text.ofString "--version"]
  | .compilation => checkCompilation host project compilers
  | .runtime => checkRuntime host project
  | .selfDiagnostics =>
    checkCompilers host project .selfDiagnostics compilers [Text.ofString "--self-check"]

def noteCheck (event : CheckEvent) : Run Unit :=
  modify fun s => { s with checkEvents := s.checkEvents ++ [event] }

def checkRecorded (host : Host) (project : Project) (compilers : Both Artifact)
    (listen : CheckEvent → Run Unit) (kind : CheckKind) : Run CheckResult := do
  listen ⟨kind, none⟩
  let result := (← check host project compilers kind).noteDelegation compilers.one.delegated
  onReport fun report => report.addResult result
  listen ⟨kind, some result⟩
  return result

def recordNeverRan (results : List CheckResult) (stage : Stage) : Run Unit := do
  if !CheckResult.everRan results stage then
    let message := stage.label ++ " compiler could not be invoked in any check"
    log .error message
    onReport fun report => report.recordFatal message

def ensureBuilt (artifact : Artifact) : Run Unit :=
  if artifact.built then pure () else throw (.notBuilt artifact.stage)

def checkAll (host : Host) (project : Project) (compilers : Both Artifact)
    (listen : CheckEvent → Run Unit) : Run (List CheckResult) := do
  ensureBuilt compilers.zero
  ensureBuilt compilers.one
  let results ← CheckKind.order.mapM (checkRecorded host project compilers listen)
  Stage.all.forM (recordNeverRan results)
  return results

end Run

end StageParity
