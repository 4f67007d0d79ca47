import StageParity.Proofs.Course
import StageParity.Proofs.LegibleReports

/-!
# Legible runs

A run keeps its report legible whatever its commands write, provided that the project, the names of
the temporary files and the refusals of the system are. `Run.Yields` says so of a step: it keeps the
state legible, it stops with a legible fault if it stops, and its answer is as it should be.
-/

namespace StageParity

/-- The texts of a project that a report may show as they are hold characters only. -/
structure Project.Legible (project : Project) : Prop where
  root : project.root.text.Clean
  compiler : project.layout.compiler.Clean
  toolchain : project.layout.toolchain.Clean
  hint : project.layout.installHint.Clean
  binary : project.layout.builtBinary.Clean
  sample : project.layout.sampleProgram.Clean
  testDir : project.layout.testDirName.Clean

/-- What a host says of its own accord holds characters only: the ends of temporary names, and why
the system does not start a command. -/
structure Host.Legible (host : Host) : Prop where
  suffix : ∀ n, (host.suffix n).Clean
  refusal : ∀ nth invocation disk error,
    (host.react nth invocation disk).1 = .error (.os error) → error.message.Clean

theorem Host.legible_always (child : Child) : (Host.always child).Legible where
  suffix _ := Text.clean_ofString "0"
  refusal _ _ _ _ refused := nomatch refused

/-- The paths of a scratch space, and what it says of them, hold characters only. -/
structure Scratch.Legible (host : Host) (scratch : Scratch) : Prop where
  base : (scratch.base.getD host.tempDir).text.Clean
  stem : scratch.stem.Clean
  workdir : ∀ path ∈ scratch.workdir, path.text.Clean
  tracked : ∀ path ∈ scratch.tracked, path.text.Clean
  failures : ∀ message ∈ scratch.failures, message.Clean

theorem Scratch.Legible.add {host : Host} {scratch : Scratch} (legible : scratch.Legible host)
    {path : Path} (clean : path.text.Clean) : (scratch.add path).Legible host := by
  unfold Scratch.add
  split
  · exact legible
  · exact { legible with
      tracked := List.forall_mem_append.mpr ⟨legible.tracked, List.forall_mem_singleton.mpr clean⟩ }

structure Session.Legible (host : Host) (s : Session) : Prop where
  report : s.report.Legible
  scratch : s.scratch.Legible host

namespace Run

variable {α β : Type} {host : Host} {project : Project} {good : α → Prop}

/-- A step that keeps sessions legible and has a good answer, or a legible fault. -/
def Yields (host : Host) (good : α → Prop) (step : Run α) : Prop :=
  ∀ s, s.Legible host → (from_ step s).2.Legible host ∧ Clear good (from_ step s).1

/-- A step that keeps sessions legible, with any answer. -/
abbrev Stays (host : Host) (step : Run α) : Prop := Yields host (fun _ => True) step

namespace Yields

theorem pure {a : α} (holds : good a) : Yields host good (pure a) :=
  fun _ legible => ⟨legible, holds⟩

/-- Nothing follows a fault. -/
theorem throw_bind {f : β → Run α} {fault : Fault} (legible : fault.Legible) :
    Yields host good (throw fault >>= f) :=
  fun _ before => ⟨before, legible⟩

theorem throw {fault : Fault} (legible : fault.Legible) : Yields host good (throw fault : Run α) :=
  fun _ before => ⟨before, legible⟩

theorem bind {x : Run α} {f : α → Run β} {best : β → Prop} (first : Yields host good x)
    (second : ∀ a, good a → Yields host best (f a)) : Yields host best (x >>= f) := by
  intro s legible
  obtain ⟨after, clear⟩ := first s legible
  rw [from_bind]
  rcases ended : from_ x s with ⟨fault | a, t⟩
  · rw [ended] at after clear
    exact ⟨after, clear⟩
  · rw [ended] at after clear
    exact second a clear t after

theorem seq {x : Run Unit} {f : Unit → Run α} (first : Stays host x)
    (second : Yields host good (f ())) : Yields host good (x >>= f) :=
  first.bind fun _ _ => second

theorem get_bind {f : Session → Run α} (second : ∀ s, s.Legible host → Yields host good (f s)) :
    Yields host good (get >>= f) :=
  fun s legible => second s legible s legible

/-- Only the report and the scratch space count. -/
theorem aside {f : Session → Session}
    (same : ∀ s, (f s).report = s.report ∧ (f s).scratch = s.scratch) :
    Stays host (modify f : Run Unit) := by
  refine fun s legible => ⟨⟨?_, ?_⟩, trivial⟩
  · exact (same s).1 ▸ legible.report
  · exact (same s).2 ▸ legible.scratch

theorem onScratch {f : Scratch → Scratch}
    (legible : ∀ scratch : Scratch, scratch.Legible host → (f scratch).Legible host) :
    Stays host (onScratch f) :=
  fun s before => ⟨⟨before.report, legible s.scratch before.scratch⟩, trivial⟩

theorem talks {step : Run Unit} (talks : Talks step) : Stays host step := by
  intro s legible
  obtain ⟨log, console, commandEvents, checkEvents, said⟩ := talks s
  rw [said]
  exact ⟨⟨legible.report, legible.scratch⟩, trivial⟩

theorem attempt {step : Run α} (yields : Yields host good step) :
    Yields host (Clear good) (attempt step) := yields

theorem thenAlways {step : Run α} {last : Run Unit} (yields : Yields host good step)
    (stays : Stays host last) : Yields host good (thenAlways step last) := by
  refine yields.attempt.bind fun result clear => stays.seq ?_
  cases result with
  | ok a => exact pure clear
  | error fault => exact throw clear

theorem forM {xs : List α} {f : α → Run Unit} (each : ∀ x ∈ xs, Stays host (f x)) :
    Stays host (xs.forM f) := by
  induction xs with
  | nil => exact pure trivial
  | cons x xs ih =>
      obtain ⟨first, others⟩ := List.forall_mem_cons.mp each
      exact first.seq (ih others)

theorem mapM {xs : List α} {f : α → Run β} (each : ∀ a, Stays host (f a)) :
    Stays host (xs.mapM f) := by
  induction xs with
  | nil =>
      rw [List.mapM_nil]
      exact pure trivial
  | cons x xs ih =>
      rw [List.mapM_cons]
      exact (each x).bind fun _ _ => ih.bind fun _ _ => pure trivial

theorem ask {question : Disk → Except FileFault α} (worded : ∀ d, Disk.Worded (question d)) :
    Stays host (ask question) := by
  refine get_bind fun s _ => ?_
  split
  · exact pure trivial
  · rename_i failed
    exact throw (worded s.disk _ failed)

theorem change {step : Disk → Except FileFault Disk} (worded : ∀ d, Disk.Worded (step d)) :
    Stays host (change step) :=
  (ask worded).bind fun _ _ => aside fun _ => ⟨rfl, rfl⟩

theorem changePartly {step : Disk → Disk × Option FileFault}
    (worded : ∀ d, Disk.WordedPartly (step d)) : Stays host (changePartly step) := by
  refine get_bind fun s _ => seq (aside fun _ => ⟨rfl, rfl⟩) ?_
  split
  · exact pure trivial
  · rename_i failed
    exact throw (worded s.disk _ failed)

theorem onReport {step : Report → Except Fault Report}
    (legible : ∀ r : Report, r.Legible → Clear Report.Legible (step r)) :
    Stays host (onReport step) := by
  intro s before
  have clear := legible s.report before.report
  rw [from_onReport]
  cases stepped : step s.report with
  | ok report =>
      rw [stepped] at clear
      exact ⟨⟨clear, before.scratch⟩, trivial⟩
  | error fault =>
      rw [stepped] at clear
      exact ⟨before, clear⟩

end Yields

/-! ## The scratch space -/

theorem stays_ensureLive : Stays host ensureLive := by
  refine .get_bind fun s _ => ?_
  split
  · exact .throw trivial
  · exact .pure trivial

theorem stays_track {path : Path} (clean : path.text.Clean) : Stays host (track path) :=
  stays_ensureLive.seq (.onScratch fun _ legible => legible.add clean)

section

variable (legible : host.Legible)

include legible

theorem yields_makeTemp {base : Path} {stem : Text} (base_ : base.text.Clean) (stem_ : stem.Clean)
    (left nth : Nat) :
    Yields host (fun path => path.text.Clean) (makeTemp host base stem left nth) := by
  induction left generalizing nth with
  | zero => exact .throw (by simp [Fault.Legible, FileFault.message, OsError.message])
  | succ left ih =>
      have named : (tempName base stem (host.suffix nth)).Clean := by
        unfold tempName
        dsimp only
        split
        · simp [stem_, legible.suffix]
        · split <;> simp [Path.slash, base_, stem_, legible.suffix]
      refine .get_bind fun s _ => ?_
      split
      · exact .seq (.aside fun _ => ⟨rfl, rfl⟩) (.pure (Path.clean_ofText named))
      · rename_i failed
        split
        · split
          · exact ih _
          · exact .throw (OsError.clean_onPath _ _)
        · exact .throw (Disk.worded_makeDirectory _ _ failed)
      · rename_i failed
        exact .throw (Disk.worded_makeDirectory _ _ failed)

theorem yields_workdir : Yields host (fun path => path.text.Clean) (workdir host) := by
  refine stays_ensureLive.seq (.get_bind fun s before => ?_)
  dsimp only
  split
  · rename_i path known
    exact .pure (before.scratch.workdir path known)
  · refine (yields_makeTemp legible before.scratch.base before.scratch.stem _ _).bind
      fun path clean => ?_
    refine .seq (.onScratch fun _ legible => { legible with workdir := ?_ }) ?_
    · rintro _ ⟨⟩
      exact clean
    · exact (stays_track clean).seq (.seq (.talks (talks_log _ _)) (.pure clean))

theorem yields_scratchPath {name : Text} (clean : name.Clean) :
    Yields host (fun path => path.text.Clean) (scratchPath host name) := by
  refine (yields_workdir legible).bind fun path known => ?_
  have child := Path.clean_child known clean
  exact (stays_track child).seq (.pure child)

end

/-! ## Commands -/

theorem stays_receive (signal : Signal) : Stays host (receive signal) := by
  refine .get_bind fun s _ => ?_
  split
  · exact .throw trivial
  · refine .seq (.onScratch fun _ legible => { legible with }) (.get_bind fun s _ => ?_)
    split
    · exact .talks (talks_log _ _)
    · exact .seq (.talks (talks_log _ _)) (.throw trivial)

theorem yields_command (legible : host.Legible) (request : Request)
    {listen : CommandEvent → Run Unit} (talks : ∀ event, Talks (listen event)) :
    Yields host CommandResult.Legible (command host request listen) := by
  have resolved : Stays host
      (request.cwd.mapM fun path => ask fun disk => disk.resolve host.cwd path) := by
    cases request.cwd with
    | none => exact .pure trivial
    | some path => exact .bind (.ask fun _ => Disk.worded_resolve) fun _ _ => .pure trivial
  have cut (cut : Option Cut) : Stays host (cut.forM interrupt) := by
    rcases cut with _ | (_ | signal)
    · exact .pure trivial
    · exact .throw trivial
    · exact stays_receive signal
  refine resolved.bind fun cwd _ => .get_bind fun s _ => ?_
  dsimp only
  refine .seq (.aside fun _ => ⟨rfl, rfl⟩) ?_
  split
  · rename_i fault failed
    refine .seq (.aside fun _ => ⟨rfl, rfl⟩) ?_
    split
    · rename_i error
      refine .pure ?_
      rintro _ ⟨⟩
      exact legible.refusal _ _ _ error failed
    · exact .throw trivial
  · refine .seq (.aside fun _ => ⟨rfl, rfl⟩) (.seq (.forM fun _ _ => .talks (talks _)) ?_)
    refine (cut _).seq (.pure ?_)
    intro _ none
    cases none

/-! ## Builds -/

theorem Yields.buildPart {part : Run α} (yields : Yields host good part) (stage : Stage)
    {what : Text} (clean : what.Clean) (text : Text) :
    Yields host good (buildPart stage what text part) := by
  refine yields.attempt.bind fun result clear => ?_
  split
  · exact .pure clear
  · rename_i error
    have message : error.message.Clean := clear
    exact .throw (by simp [Fault.Legible, clean, message])
  · exact .throw clear

section

variable (legible : host.Legible)

include legible

theorem stays_keepBuildLog (stage : Stage) (text : Text) : Stays host (keepBuildLog host stage text) :=
  .bind (yields_scratchPath legible (by simp [buildLogName])) fun _ _ =>
    .changePartly fun _ => Disk.worded_writeStream _

theorem stays_buildLogged (stage : Stage) (argv : List Text) :
    Stays host (buildLogged host project stage argv printCommandEvent) := by
  refine (yields_command legible _ talks_printCommandEvent).bind fun result told => ?_
  refine (stays_keepBuildLog legible stage _).seq ?_
  split
  · rename_i reason failed
    exact .throw (told.clean_reason reason failed)
  · exact .pure trivial

variable (texts : project.Legible)

include texts

theorem yields_buildZero :
    Yields host (fun zero => zero.path.text.Clean) (buildZero host project printCommandEvent) := by
  have binary : project.binary.text.Clean := Path.clean_child texts.root texts.binary
  have name : (project.layout.stageName .zero).Clean := by simp [Layout.stageName, texts.compiler]
  refine .seq (.talks (talks_log _ _)) ((stays_buildLogged legible .zero _).bind fun text _ => ?_)
  refine .bind (.ask fun _ => Disk.worded_testAt _) fun present _ => ?_
  cases present with
  | false => exact .throw_bind (by simp [Fault.Legible, binary])
  | true =>
      refine (yields_scratchPath legible name).bind fun target clean => ?_
      refine .seq (.buildPart (.seq (.change fun _ => Disk.worded_copyFile _)
        (.change fun _ => Disk.worded_addMode _)) .zero (by simp [binary]) text) ?_
      exact .seq (.talks (talks_log _ _)) (.pure clean)

theorem yields_buildOne (zero : Artifact) :
    Yields host (fun one => one.path.text.Clean)
      (buildOne host project printCommandEvent zero) := by
  have name : (project.layout.stageName .one).Clean := by simp [Layout.stageName, texts.compiler]
  unfold buildOne
  cases zero.built with
  | false => exact .throw_bind trivial
  | true =>
      refine (yields_scratchPath legible name).bind fun target clean => ?_
      refine .bind (.ask fun _ => Disk.worded_testAt _) fun present _ => ?_
      cases present with
      | false =>
          refine .seq (.talks (talks_log _ _)) ?_
          refine .seq (.buildPart (.seq (.changePartly fun _ => Disk.worded_writeText _)
            (.change fun _ => Disk.worded_addMode _)) .one (by simp) _) ?_
          exact (stays_keepBuildLog legible .one _).seq (.pure clean)
      | true =>
          refine .seq (.talks (talks_log _ _)) ?_
          refine (stays_buildLogged legible .one _).bind fun text _ => ?_
          refine .bind (.ask fun _ => Disk.worded_testAt _) fun made _ => ?_
          cases made with
          | false => exact .throw_bind (by simp [Fault.Legible, clean])
          | true =>
              refine .seq (.change fun _ => Disk.worded_addMode _) ?_
              exact .seq (.talks (talks_log _ _)) (.pure clean)

theorem stays_stageZero : Stays host (stageZero host project) := by
  have found : Stays host (probe host project.layout.toolchain project.layout.installHint) := by
    refine .get_bind fun s _ => ?_
    split
    · exact .seq (.talks (talks_log _ _)) (.pure trivial)
    · exact .seq (.talks (talks_log _ _)) (.throw ⟨texts.toolchain, texts.hint⟩)
  refine .seq (.talks (talks_printStep _ _)) (found.bind fun _ _ => ?_)
  refine (yields_buildZero legible texts).bind fun zero clean => ?_
  refine .seq (.onReport fun _ legible => legible.setArtifact clean) ?_
  exact .seq (.talks (talks_print _)) (.pure trivial)

theorem stays_stageOne (zero : Artifact) : Stays host (stageOne host project zero) := by
  refine .seq (.talks (talks_printStep _ _)) ?_
  refine (yields_buildOne legible texts zero).bind fun one clean => ?_
  refine .seq (.onReport fun _ legible => legible.setArtifact clean) ?_
  have last : Stays host (do printOk "Stage 1 compiler ready"; return one) :=
    .seq (.talks (talks_print _)) (.pure trivial)
  cases one.delegated with
  | true => exact .seq (.talks (talks_print _)) last
  | false => exact last

/-! ## Checks -/

omit texts in
theorem yields_invoke (program : Path) (arguments : List Text) :
    Yields host Outcome.Legible (invoke host project program arguments) := by
  refine (yields_command legible _ fun _ => .pure).bind fun result told => ?_
  have told := Outcome.legible_ofResult told
  dsimp only
  split
  · exact .seq (.talks (talks_log _ _)) (.pure told)
  · exact .pure told

omit texts in
/-- Two invocations and then a comparison of them. -/
theorem yields_both (programs : Both Path) (arguments : Both (List Text))
    {last : Outcome → Outcome → Run CheckResult}
    (yields : ∀ zero one : Outcome, zero.Legible → one.Legible →
      Yields host CheckResult.Legible (last zero one)) :
    Yields host CheckResult.Legible (do
      let zero ← invoke host project programs.zero arguments.zero
      let one ← invoke host project programs.one arguments.one
      last zero one) :=
  (yields_invoke legible _ _).bind fun zero zero_ =>
    (yields_invoke legible _ _).bind fun one one_ => yields zero one zero_ one_

theorem stays_testDir : Stays host (testDir host project) := by
  refine .get_bind fun s _ => ?_
  split
  · exact .pure trivial
  · have made : Stays host (scratchDirectory host project.layout.testDirName) :=
      (yields_scratchPath legible texts.testDir).bind fun _ _ =>
        .seq (.changePartly fun _ => Disk.worded_makeDirectories _) (.pure trivial)
    exact made.bind fun path _ => .seq (.aside fun _ => ⟨rfl, rfl⟩) (.pure trivial)

theorem stays_keepOutcomes (kind : CheckKind) (zero one : Outcome) :
    Stays host (keepOutcomes host project kind zero one) := by
  have kept (stage : Stage) (outcome : Outcome) :
      Stays host (keepOutcome host project kind stage outcome) :=
    (stays_testDir legible texts).bind fun _ _ => .change fun _ => Disk.worded_writeFile _
  exact (kept .zero zero).seq (kept .one one)

omit legible texts in
theorem yields_compareOutcomes (kind : CheckKind) {zero one : Outcome} (zero_ : zero.Legible)
    (one_ : one.Legible) : Yields host CheckResult.Legible (compareOutcomes kind zero one) :=
  .seq (.talks (talks_log _ _)) (.pure (.check kind zero_ one_))

omit legible texts in
theorem yields_skipCheck (kind : CheckKind) {reason : Text} (clean : reason.Clean) :
    Yields host CheckResult.Legible (skipCheck kind reason) :=
  .seq (.talks (talks_log _ _)) (.pure (.skip kind clean))

omit legible texts in
theorem stays_noteSample (stage : Stage) (path : Path) : Stays host (noteSample host stage path) := by
  have marked : Stays host (makeOwnerRunnable host path) := by
    refine .bind (Yields.change fun _ => Disk.worded_addMode _).attempt fun result clear => ?_
    split
    · exact .pure trivial
    · exact .talks (talks_log _ _)
    · exact .throw clear
  refine .bind (.ask fun _ => Disk.worded_testAt _) fun present _ => ?_
  cases present with
  | false => exact .talks (talks_log _ _)
  | true => exact marked.seq (.aside fun _ => ⟨rfl, rfl⟩)

theorem yields_check (compilers : Both Artifact) (kind : CheckKind) :
    Yields host CheckResult.Legible (check host project compilers kind) := by
  have compare (kind : CheckKind) (arguments : List Text) :
      Yields host CheckResult.Legible (checkCompilers host project kind compilers arguments) :=
    yields_both legible (compilers.map Artifact.path) ⟨arguments, arguments⟩ fun _ _ zero_ one_ =>
      (stays_keepOutcomes legible texts _ _ _).seq (yields_compareOutcomes kind zero_ one_)
  cases kind with
  | version => exact compare _ _
  | selfDiagnostics => exact compare _ _
  | compilation =>
      have sample : project.sample.text.Clean := Path.clean_child texts.root texts.sample
      refine .bind (.ask fun _ => Disk.worded_testAt _) fun present _ => ?_
      cases present with
      | false => exact yields_skipCheck _ (by simp [sample])
      | true =>
          refine (stays_testDir legible texts).bind fun first _ => ?_
          refine (stays_testDir legible texts).bind fun second _ => ?_
          refine yields_both legible (compilers.map Artifact.path) ⟨_, _⟩ fun zero one zero_ one_ => ?_
          refine (stays_keepOutcomes legible texts _ _ _).seq ?_
          refine (stays_noteSample _ _).seq ((stays_noteSample _ _).seq ?_)
          exact yields_compareOutcomes _ zero_ one_
  | runtime =>
      refine .get_bind fun s _ => ?_
      dsimp only
      split
      · rename_i first second _ _
        refine yields_both legible ⟨first, second⟩ ⟨[], []⟩ fun zero one zero_ one_ => ?_
        refine (stays_keepOutcomes legible texts _ _ _).seq ?_
        exact (yields_compareOutcomes _ zero_ one_).bind fun _ shown => .pure shown.noteRuntime
      · refine yields_skipCheck _ ?_
        have labels : ∀ label ∈ (Stage.all.filter fun stage =>
            (s.samples.get stage).isNone).map Stage.label, label.Clean := by
          intro label known
          obtain ⟨stage, -, rfl⟩ := List.mem_map.mp known
          exact Report.clean_label stage
        simp [Text.clean_join (Text.clean_ofString _) labels]

theorem stays_checkAll (compilers : Both Artifact) (verbose : Bool) :
    Stays host (checkAll host project compilers (printCheckEvent verbose)) := by
  have built (artifact : Artifact) : Stays host (ensureBuilt artifact) := by
    unfold ensureBuilt
    split
    · exact .pure trivial
    · exact .throw trivial
  refine (built _).seq ((built _).seq (.bind (.mapM fun kind => ?_) fun results _ => ?_))
  · refine .seq (.talks (talks_printCheckEvent verbose _)) ?_
    refine (yields_check legible texts compilers kind).bind fun result shown => ?_
    refine .seq (.onReport fun _ legible => legible.addResult (shown.noteDelegation _)) ?_
    exact .seq (.talks (talks_printCheckEvent verbose _)) (.pure trivial)
  · refine .seq (.forM fun stage _ => ?_) (.pure trivial)
    unfold recordNeverRan
    split
    · refine .seq (.talks (talks_log _ _)) (.onReport fun _ legible => legible.recordFatal ?_)
      exact Text.clean_splitFirst (by simp)
    · exact .pure trivial

theorem stays_stagesReported (verbose : Bool) :
    Stays host (stagesReported host project verbose) := by
  have stages : Stays host (stages host project verbose) :=
    (stays_stageZero legible texts).bind fun zero _ =>
      (stays_stageOne legible texts zero).bind fun _ _ =>
        (stays_checkAll legible texts _ verbose).bind fun _ _ => .pure trivial
  have last : Stays host (onReport fun report => report.finalize host.timeOfDay) :=
    .onReport fun _ legible => legible.finalize _
  refine stages.attempt.bind fun result clear => ?_
  split
  · exact last
  · split
    · rename_i fatal
      refine .seq (.talks (talks_log _ _)) (.seq (.talks (talks_print _)) ?_)
      exact .seq (.onReport fun _ legible => legible.recordFatal (clear.clean_entry fatal)) last
    · exact .throw_bind clear

end

/-! ## Removal -/

theorem stays_removeTree (path : Path) : Stays host (removeTree host path) := by
  refine .get_bind fun s _ => .seq (.aside fun _ => ⟨rfl, rfl⟩) ?_
  refine .seq (.forM fun signal _ => stays_receive signal) ?_
  split
  · exact .throw (OsError.clean_onPath _ _)
  · exact .changePartly fun _ => Disk.worded_removeTree

theorem stays_removeFile (path : Path) : Stays host (removeFile host path) := by
  refine .get_bind fun s _ => .seq (.aside fun _ => ⟨rfl, rfl⟩) ?_
  refine .seq (.forM fun signal _ => stays_receive signal) ?_
  split
  · rename_i named
    exact .throw (Disk.clean_of_misnamed named)
  · exact .throw (OsError.clean_onPath _ _)
  · refine .get_bind fun t _ => ?_
    split
    · exact .aside fun _ => ⟨rfl, rfl⟩
    · rename_i failed
      split
      · exact .pure trivial
      · exact .throw (Disk.worded_unlink _ failed)

theorem stays_remove (path : Path) : Stays host (remove host path) := by
  refine .bind (.ask fun _ => Disk.worded_testAt _) fun isTree _ => ?_
  cases isTree with
  | false => exact stays_removeFile path
  | true =>
      refine .bind (.ask fun _ => Disk.worded_testAt _) fun isLink _ => ?_
      cases isLink with
      | true => exact stays_removeFile path
      | false => exact stays_removeTree path

theorem stays_removeNoting {path : Path} (clean : path.text.Clean) :
    Stays host (removeNoting host path) := by
  refine (stays_remove path).attempt.bind fun result clear => ?_
  split
  · exact .pure trivial
  · rename_i error
    have message : error.message.Clean := clear
    refine .seq (.talks (talks_log _ _)) (.onScratch fun _ legible => { legible with failures := ?_ })
    exact List.forall_mem_append.mpr ⟨legible.failures, by simp [clean, message]⟩
  · exact .throw clear

theorem stays_teardown : Stays host (teardown host) := by
  refine .get_bind fun s before => ?_
  dsimp only
  split
  · exact .pure trivial
  · refine .seq (.onScratch fun _ legible => { legible with }) ?_
    refine .seq (.forM fun path known =>
      stays_removeNoting (before.scratch.tracked path (List.mem_reverse.mp known))) ?_
    refine .get_bind fun t _ => ?_
    split
    · exact .seq (.talks (talks_log _ _)) (.pure trivial)
    · exact .pure trivial

theorem Yields.withScratch {body : Run α} (yields : Yields host good body) :
    Yields host good (withScratch host body) := by
  have taken : Stays host takeSignals := by
    intro s legible
    rw [from_takeSignals]
    refine ⟨?_, trivial⟩
    unfold Run.taken
    split
    · exact ⟨legible.report, { legible.scratch with }⟩
    · exact legible
  refine taken.seq (yields.thenAlways (.thenAlways ?_ ?_))
  · exact stays_teardown.bind fun _ _ => .pure trivial
  · exact fun s legible => ⟨⟨legible.report, { legible.scratch with }⟩, trivial⟩

/-! ## Whole runs -/

theorem stays_stagesScoped (legible : host.Legible) (texts : project.Legible) (verbose : Bool) :
    Stays host (stagesScoped host project verbose) := by
  refine (stays_stagesReported legible texts verbose).withScratch.attempt.bind fun result clear => ?_
  split
  · exact .pure trivial
  · refine .seq (.seq (.talks (talks_log _ _)) (.seq (.talks (talks_print _)) ?_)) (.pure trivial)
    refine .get_bind fun s _ => ?_
    split
    · refine .seq (.onReport fun _ legible => legible.recordFatal ?_)
        (.onReport fun _ legible => legible.finalize _)
      exact Text.clean_splitFirst (Text.clean_ofString _)
    · exact .pure trivial
  · exact .throw clear

theorem stays_verifyProject (legible : host.Legible) (texts : project.Legible)
    (options : RunOptions) : Stays host (verifyProject host options project) := by
  refine (stays_stagesScoped legible texts options.verbose).bind fun stopped _ => ?_
  have recorded : Stays host recordCleanups := by
    refine fun s legible => ⟨⟨?_, legible.scratch⟩, trivial⟩
    change (completed s).Legible
    rw [completed_eq]
    exact { legible.report with
      cleanups := List.forall_mem_append.mpr ⟨legible.report.cleanups, legible.scratch.failures⟩ }
  have printed : Stays host printReport := by
    refine .get_bind fun s _ => ?_
    dsimp only
    split
    · exact .talks (talks_write _)
    · rename_i found
      obtain ⟨message, -, fault⟩ := List.exists_of_findSome?_eq_some found
      obtain ⟨rest, -, halves⟩ := Option.bind_eq_some_iff.mp fault
      exact .throw (Disk.clean_of_unnameable halves)
  have saved (path : Path) : Stays host (saveReport host path) := by
    refine .get_bind fun s _ => .seq (.changePartly fun _ => Disk.worded_makeDirectories _) ?_
    exact .seq (.change fun _ => Disk.worded_writeFile _) (.talks (talks_log _ _))
  have code : Stays host (exitCode stopped) := by
    intro s legible
    rw [from_exitCode]
    refine ⟨legible, ?_⟩
    split
    · trivial
    · unfold Report.exitCode
      split <;> trivial
  refine recorded.seq (.seq (.talks (talks_print _)) (printed.seq ?_))
  cases options.reportFile with
  | none => exact code
  | some path => exact (saved path).seq code

/-- **A report can always be printed.** Whatever bytes the commands of a run write, and however the
run ends, the text of its report consists of characters: no byte that does not decode gets into it,
and it is read back from its encoding. The texts of the project, the paths for temporary files and
the errors of the system are taken to consist of characters. -/
theorem report_text_clean (host : Host) (options : RunOptions) (disk : Disk) (scratch : Scratch)
    (legible : host.Legible) (base : (options.tempBase.getD host.tempDir).text.Clean)
    (texts : ∀ project opened,
      from_ (openProject host options) (Session.start disk scratch) = (.ok (some project), opened) →
        project.Legible) :
    let report := (from_ (verify host options) (Session.start disk scratch)).2.report
    report.plainText.Clean ∧ Text.decode report.plainText.encode = report.plainText := by
  intro report
  have clean : report.plainText.Clean := by
    refine Report.clean_plainText ?_
    rcases verify_opened host options disk scratch with ⟨log, console, same, -⟩ |
      ⟨project, t, opening, opened, same⟩
    · have same : report = Report.start [] [] := congrArg Session.report same
      rw [same]
      exact .start Text.clean_nil _
    · have known := texts project t opening
      have before : t.Legible host := by
        refine ⟨?_, ?_⟩
        · rw [opened.report]
          exact .start known.root _
        · rw [opened.scratch]
          exact ⟨base, Text.clean_ofString _, by simp [Scratch.fresh], by simp [Scratch.fresh],
            by simp [Scratch.fresh]⟩
      have after := (stays_verifyProject legible known options t before).1.report
      rwa [← same] at after
  have read := clean.decode_encode_append []
  rw [List.append_nil] at read
  exact ⟨clean, read.trans (List.append_nil _)⟩

/-- A project without settings, and a toolchain for it. -/
def toolDisk : Disk :=
  ⟨[(["p"], .directory 0o755), (["tmp"], .directory 0o755), (["bin"], .directory 0o755),
    (["bin", "cargo"], .file 0o755 [])]⟩

def plainOptions : RunOptions := ⟨Path.ofText "/p", false, none, none, true⟩

/-- A build that writes bytes which do not decode leaves them in the report, and no trace of them in
its text. -/
theorem report_text_clean_garbled :
    let host := Host.always garbled
    let start := Session.start toolDisk (Scratch.fresh none true)
    let report := (from_ (verify host plainOptions) start).2.report
    host.Legible ∧ (∃ message ∈ report.fatalErrors, ¬ message.Clean) ∧ report.plainText.Clean := by
  have opens : ∃ t, from_ (openProject (.always garbled) plainOptions)
      (Session.start toolDisk (Scratch.fresh none true)) =
        (.ok (some ⟨Path.ofText "/p", .standard⟩), t) := ⟨_, rfl⟩
  have texts : ∀ project opened, from_ (openProject (.always garbled) plainOptions)
      (Session.start toolDisk (Scratch.fresh none true)) = (.ok (some project), opened) →
        project.Legible := by
    intro project opened opening
    obtain ⟨t, opens⟩ := opens
    have same := Except.ok.inj (Prod.mk.inj (opens.symm.trans opening)).1
    rw [← Option.some.inj same]
    exact ⟨by decide, by decide, by decide, Text.clean_ofString _, by decide, by decide, by decide⟩
  have legible := Host.legible_always garbled
  refine ⟨legible, by decide +kernel, ?_⟩
  exact (report_text_clean _ plainOptions toolDisk _ legible (by decide) texts).1

end Run

end StageParity
