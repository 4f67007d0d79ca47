import StageParity.Checks
import StageParity.Console
import StageParity.Layout.Load
import StageParity.Report.Document
import StageParity.Toolchain

/-!
# Pipeline

A whole run: find the toolchain, build both compilers, do the checks, remove the
temporary files however the run ended, and print the report.
-/

namespace StageParity

/-- What is asked of a run. -/
structure RunOptions where
  root : Path
  verbose : Bool
  reportFile : Option Path
  tempBase : Option Path
  handlesSignals : Bool

/-- The exit code of a run that was stopped without a signal. -/
def interruptedCode : Nat := 130

/-- What the exit code of a run stopped by a signal adds to its number. -/
def signalBase : Nat := 128

def stoppedCode : Option Signal → Nat
  | some signal => signalBase + signal.number
  | none => interruptedCode

namespace Run

def stageZero (host : Host) (project : Project) : Run Artifact := do
  printStep 1 "Building Stage 0 Compiler (trusted toolchain)"
  let _ ← probe host project.layout.toolchain project.layout.installHint
  let zero ← buildZero host project printCommandEvent
  onReport fun report => report.setArtifact zero
  printOk "Stage 0 compiler ready"
  return zero

def stageOne (host : Host) (project : Project) (zero : Artifact) : Run Artifact := do
  printStep 2 "Building Stage 1 Compiler (self-hosted)"
  let one ← buildOne host project printCommandEvent zero
  onReport fun report => report.setArtifact one
  if one.delegated then
    printWarning "Self-hosted compiler source not available; Stage 1 delegates to Stage 0"
  printOk "Stage 1 compiler ready"
  return one

def stages (host : Host) (project : Project) (verbose : Bool) : Run Unit := do
  let zero ← stageZero host project
  let one ← stageOne host project zero
  let _ ← checkAll host project ⟨zero, one⟩ (printCheckEvent verbose)

/-- Take the stages and fix the status. A fatal fault fails the run; any other one goes
on. -/
def stagesReported (host : Host) (project : Project) (verbose : Bool) : Run Unit := do
  match ← attempt (stages host project verbose) with
  | .ok () => pure ()
  | .error fault =>
    if fault.isFatal then
      log .error ("Fatal: " ++ fault.message)
      printError fault.message
      onReport fun report => report.recordFatal fault.entry
    else throw fault
  onReport fun report => report.finalize host.timeOfDay

def closeInterrupted (host : Host) : Run Unit := do
  log .warning "Run interrupted"
  printError "Interrupted; temporary files removed"
  if !(← get).report.finalized then
    onReport fun report => report.recordFatal "Run interrupted before completion"
    onReport fun report => report.finalize host.timeOfDay

/-- Take the stages within the scratch space. The answer tells whether the run was
stopped. -/
def stagesScoped (host : Host) (project : Project) (verbose : Bool) : Run Bool := do
  match ← attempt (withScratch host (stagesReported host project verbose)) with
  | .ok () => return false
  | .error (.interrupted _) =>
    closeInterrupted host
    return true
  | .error fault => throw fault

def recordCleanups : Run Unit :=
  modify fun s =>
    { s with report := s.scratch.failures.foldl (fun r message => r.recordCleanup message) s.report }

def saveReport (host : Host) (path : Path) : Run Unit := do
  let text := String.ofList (← get).report.document.print
  changePartly fun disk => disk.makeDirectories host.cwd path.names.length path.parent
  change fun disk => disk.writeFile host.cwd path (Text.ofString text).encode
  log .info ("Report saved to " ++ path.text)

def exitCode (stopped : Bool) : Run Nat := do
  let s ← get
  if stopped then return stoppedCode s.scratch.received
  match s.report.exitCode with
  | .ok code => return code
  | .error fault => throw fault

/-- Find the project and its layout, and begin its report. The answer is empty when there
is no such directory. -/
def openProject (host : Host) (options : RunOptions) : Run (Option Project) := do
  let root ← ask fun disk => disk.resolve host.cwd options.root
  if ← ask fun disk => disk.isDirectory host.cwd root then
    let layout ← loadLayout host root
    modify fun s =>
      { s with
        report := Report.start root.text host.timeOfDay
        scratch := Scratch.fresh options.tempBase options.handlesSignals }
    print "BOOTSTRAP VERIFICATION"
    log .info ("Verifying bootstrap of " ++ layout.compiler ++ " in " ++ root.text)
    return some ⟨root, layout⟩
  else
    printError ("Project directory not found: " ++ root.text)
    return none

def verifyProject (host : Host) (options : RunOptions) (project : Project) : Run Nat := do
  let stopped ← stagesScoped host project options.verbose
  recordCleanups
  print []
  printReport
  options.reportFile.forM (saveReport host)
  exitCode stopped

def verify (host : Host) (options : RunOptions) : Run Nat := do
  match ← openProject host options with
  | some project => verifyProject host options project
  | none => return Report.failCode

end Run

end StageParity
