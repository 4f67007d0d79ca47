import StageParity.Project
import StageParity.Scratch

/-!
# Builds

Making the two compilers. Stage zero is built by the toolchain of the project and copied
into the working directory. Stage one is built by stage zero from the compiler's own
source; without that source it is a script that hands every call on to stage zero.
-/

namespace StageParity

def everyoneRuns : Nat := 0o111

def delegationHead : Text :=
  "#!/bin/sh\n# Delegation artifact: self-hosted source not available.\n" ++
    "# Forwards arguments, input, output and exit status to Stage 0 unchanged.\n"

/-- The script that hands every call on to the program at a path. -/
def delegationScript (path : Text) : Text :=
  delegationHead ++ "exec " ++ Shell.quoteWord path ++ " \"$@\"\n"

def buildLogName (stage : Stage) : Text := "build_stage" ++ Text.ofNat stage.number ++ ".log"

namespace Run

def buildCommand (host : Host) (project : Project) (argv : List Text)
    (listen : CommandEvent → Run Unit) : Run CommandResult :=
  command host
    { argv
      domain := .stageBuild
      policy := Policy.standard .stageBuild
      cwd := some project.root
      bindings := none
      requested := project.layout.buildLimit }
    listen

def keepBuildLog (host : Host) (stage : Stage) (text : Text) : Run Unit := do
  let path ← scratchPath host (buildLogName stage)
  changePartly fun disk => disk.writeStream host.cwd path text

def failBuild {α : Type} (stage : Stage) (reason text : Text) : Run α :=
  throw (.buildFailed stage.number reason text)

/-- A part of the build of a stage. An error of the operating system fails the build. -/
def buildPart {α : Type} (stage : Stage) (what text : Text) (part : Run α) : Run α := do
  match ← attempt part with
  | .ok a => return a
  | .error (.file (.os error)) => failBuild stage (what ++ ": " ++ error.message) text
  | .error fault => throw fault

def makeRunnable (host : Host) (path : Path) : Run Unit :=
  change fun disk => disk.addMode host.cwd path everyoneRuns

/-- Run a build command, keep its log, and fail the build if the command failed. -/
def buildLogged (host : Host) (project : Project) (stage : Stage) (argv : List Text)
    (listen : CommandEvent → Run Unit) : Run Text := do
  let result ← buildCommand host project argv listen
  let text := result.buildLog
  keepBuildLog host stage text
  match result.failureReason with
  | some reason => failBuild stage reason text
  | none => return text

def buildZero (host : Host) (project : Project) (listen : CommandEvent → Run Unit) :
    Run Artifact := do
  let argv := project.layout.buildCommand
  log .info ("Building Stage 0 with: " ++ Text.join " " argv)
  let text ← buildLogged host project .zero argv listen
  let binary := project.binary
  if !(← ask fun disk => disk.isFile host.cwd binary) then
    failBuild .zero ("built binary not found: " ++ binary.text) text
  let target ← scratchPath host (project.layout.stageName .zero)
  buildPart .zero ("could not copy " ++ binary.text) text do
    change fun disk => disk.copyFile host.cwd binary target
    makeRunnable host target
  log .info ("Stage 0 compiler ready: " ++ target.text)
  return ⟨.zero, target, true, text, false⟩

def hasSource (host : Host) (project : Project) : Run Bool :=
  ask fun disk => disk.isFile host.cwd project.source

/-- Let a script stand in for stage one. -/
def delegate (host : Host) (project : Project) (zero : Artifact) (target : Path) : Run Artifact := do
  let source := project.source.text
  log .warning ("Self-hosted source not found at " ++ source ++ "; creating delegation artifact")
  let path := (Path.absolute ⟨.root, host.cwd⟩ zero.path).text
  let text := "self-hosted source not found: " ++ source ++ "\ndelegating to " ++ path ++ "\n"
  buildPart .one "could not write delegation artifact" text do
    changePartly fun disk => disk.writeText host.cwd target (delegationScript path)
    makeRunnable host target
  keepBuildLog host .one text
  return ⟨.one, target, true, text, true⟩

def buildOne (host : Host) (project : Project) (listen : CommandEvent → Run Unit)
    (zero : Artifact) : Run Artifact := do
  if !zero.built then throw .stageZeroNotBuilt
  let target ← scratchPath host (project.layout.stageName .one)
  if !(← hasSource host project) then delegate host project zero target
  else
    let source := project.source
    log .info ("Building Stage 1 from " ++ source.text)
    let argv := [zero.path.text, Text.ofString "build", source.text, Text.ofString "-o", target.text]
    let text ← buildLogged host project .one argv listen
    if !(← ask fun disk => disk.isFile host.cwd target) then
      failBuild .one ("Stage 0 produced no binary at " ++ target.text) text
    makeRunnable host target
    log .info ("Stage 1 compiler ready: " ++ target.text)
    return ⟨.one, target, true, text, false⟩

end Run

end StageParity
