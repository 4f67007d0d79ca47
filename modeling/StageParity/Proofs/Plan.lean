import StageParity.Proofs.StageAnswers

/-!
# The plan of a run

The errands of a run, and the plan that puts them in order. The plan depends only on the
files that the run finds on its way; the builds and the checks start its commands one after
the other (`Run.starts_upTo`).
-/

namespace StageParity

open Relation (ReflTransGen)

/-- What a run has a command for: to build the compiler of a stage, or to do a stage's part of
a check. -/
inductive Errand where
  | build (stage : Stage)
  | check (kind : CheckKind) (stage : Stage)

/-- The command for an errand of a run with its working directory. -/
def Errand.argv (project : Project) (w : Path) : Errand → List Text
  | .build .zero => project.layout.buildCommand
  | .build .one =>
    [(project.compiler w .zero).text, Text.ofString "build", project.source.text,
      Text.ofString "-o", (project.compiler w .one).text]
  | .check .version stage => [(project.compiler w stage).text, Text.ofString "--version"]
  | .check .compilation stage =>
    [(project.compiler w stage).text, project.sample.text, Text.ofString "-o",
      (project.compiledSample w stage).text]
  | .check .runtime stage => [(project.compiledSample w stage).text]
  | .check .selfDiagnostics stage => [(project.compiler w stage).text, Text.ofString "--self-check"]

/-- What a run finds out on its way about the files that it depends on. -/
structure Findings where
  /-- The compiler's own source is a regular file once stage zero is built. -/
  source : Bool
  /-- The sample is a regular file when it is to be compiled. -/
  sample : Bool
  /-- Both compiled samples are regular files when they are to be run. -/
  outputs : Bool

namespace Findings

/-- Whether a check is attempted. -/
def attempts (found : Findings) : CheckKind → Bool
  | .version | .selfDiagnostics => true
  | .compilation => found.sample
  | .runtime => found.sample && found.outputs

/-- The errands of a check. -/
def errands (found : Findings) (kind : CheckKind) : List Errand :=
  if found.attempts kind then Stage.all.map (.check kind) else []

/-- The errands of the builds. -/
def builds (found : Findings) : List Errand :=
  .build .zero :: if found.source then [.build .one] else []

/-- The errands of a whole run, in order. -/
def plan (found : Findings) : List Errand :=
  found.builds ++ CheckKind.order.flatMap found.errands

end Findings

namespace Run

variable {α β κ : Type} {host : Host} {project : Project} {verbose : Bool} {w : Path} {s t : Session}

/-- Whether something holds once a part of a run has ended well. -/
def after (part : Run α) (s : Session) (holds : Session → Bool) : Bool :=
  match from_ part s with
  | (.ok _, t) => holds t
  | (.error _, _) => false

theorem after_ok {part : Run α} {a : α} (ended : from_ part s = (.ok a, t))
    (holds : Session → Bool) : after part s holds = holds t := by
  unfold after
  rw [ended]

/-- The part of a run that builds both compilers and does the given checks. -/
def upTo (host : Host) (project : Project) (verbose : Bool) (kinds : List CheckKind) :
    Run (List CheckResult) := do
  let zero ← stageZero host project
  let one ← stageOne host project zero
  ensureBuilt zero
  ensureBuilt one
  kinds.mapM (checkRecorded host project ⟨zero, one⟩ (printCheckEvent verbose))

/-- What a run finds out that takes its stages from a state. -/
def findings (host : Host) (project : Project) (verbose : Bool) (s : Session) : Findings where
  source := after (stageZero host project) s fun t => t.disk.hasFile host.cwd project.source
  sample :=
    after (upTo host project verbose [.version]) s fun t => t.disk.hasFile host.cwd project.sample
  outputs :=
    after (upTo host project verbose [.version, .compilation]) s fun t =>
      t.scratch.workdir.any fun w =>
        Stage.all.all fun stage => t.disk.hasFile host.cwd (project.compiledSample w stage)

/-- The stages are the builds and all checks, and then a look at the results. -/
theorem stages_eq (host : Host) (project : Project) (verbose : Bool) :
    stages host project verbose = (do
      let results ← upTo host project verbose CheckKind.order
      Stage.all.forM (recordNeverRan results)) := by
  simp [stages, upTo, checkAll]

/-! ## The builds -/

theorem starts_buildZero {listen : CommandEvent → Run Unit}
    (talks : ∀ event, Talks (listen event)) :
    Starts host s (buildZero host project listen) [project.layout.buildCommand] fun _ endings =>
      endings = [.exited 0] :=
  Starts.talks_bind (talks_log _ _) fun _ _ _ _ =>
    Starts.bind_quiet (starts_buildLogged talks .zero _)
      (fun text _ _ => Starts.alone project (alone_takeBinary text)) fun _ _ _ _ _ _ _ => id

theorem starts_stageZero :
    Starts host s (stageZero host project) [project.layout.buildCommand] fun _ endings =>
      endings = [.exited 0] := by
  refine Starts.talks_bind (talks_printStep _ _) fun _ _ _ _ => ?_
  refine Starts.alone_bind (alone_probe _ _ : Alone host project _ _) fun _ _ _ => ?_
  refine Starts.bind_quiet (starts_buildZero talks_printCommandEvent) (fun zero _ _ => ?_)
    fun _ _ _ _ _ _ _ => id
  refine Starts.quiet_bind (starts_onReport fun _ => Report.setArtifact_calm) fun _ _ _ => ?_
  exact Starts.talks_bind (talks_print _) fun _ _ _ _ => Starts.pure rfl

/-- Stage one is built by stage zero if its source is there, and without a command if not. -/
theorem starts_buildOne {listen : CommandEvent → Run Unit} {zero : Artifact}
    (talks : ∀ event, Talks (listen event)) (built : zero.built = true)
    (path : zero.path = project.compiler w .zero) (present : s.scratch.workdir = some w) :
    Starts host s (buildOne host project listen zero)
      (if s.disk.hasFile host.cwd project.source then [Errand.argv project w (.build .one)] else [])
      fun _ endings => ∀ ending ∈ endings, ending = .exited 0 := by
  refine Starts.of_live fun live => ?_
  unfold buildOne
  rw [built]
  refine Starts.alone_bind (alone_scratchPath (stageName_mem project .one)) fun target u handed => ?_
  have held : u.Holds target := holds_of_scratchPath handed
  cases (from_scratchPath live present _).symm.trans handed
  refine Starts.alone_bind (alone_ask _ : Alone host project _ (hasSource host project))
    fun source v asked => ?_
  obtain ⟨answer, rfl⟩ := ask_eq_ok asked
  rw [Disk.hasFile_of_ok answer]
  cases source with
  | false =>
      refine (Starts.alone project (alone_delegate held)).mono fun _ _ _ _ _ none => ?_
      rw [none]
      exact nofun
  | true =>
      refine Starts.talks_bind (talks_log _ _) fun _ _ _ _ => ?_
      rw [path, if_pos rfl]
      refine Starts.bind_quiet (starts_buildLogged talks .one _)
        (fun text u logged => Starts.alone project (alone_keepBinary ?_ text)) ?_
      · exact Deed.holds_of_deeds ((working_buildLogged talks .one _).doing.deeds logged) held
      · rintro _ _ _ _ _ _ _ rfl
        simp

theorem starts_stageOne {zero : Artifact} (built : zero.built = true)
    (path : zero.path = project.compiler w .zero) (present : s.scratch.workdir = some w) :
    Starts host s (stageOne host project zero)
      (if s.disk.hasFile host.cwd project.source then [Errand.argv project w (.build .one)] else [])
      fun _ endings => ∀ ending ∈ endings, ending = .exited 0 := by
  refine Starts.talks_bind (talks_printStep _ _) fun _ _ _ _ => ?_
  refine Starts.bind_quiet (starts_buildOne talks_printCommandEvent built path (by exact present))
    (fun one _ _ => ?_) fun _ _ _ _ _ _ _ => id
  refine Starts.quiet_bind (starts_onReport fun _ => Report.setArtifact_calm) fun _ _ _ => ?_
  have last : ∀ t, Starts host t (do printOk "Stage 1 compiler ready"; return one) [] Quiet :=
    fun _ => Starts.talks_bind (talks_print _) fun _ _ _ _ => Starts.pure rfl
  cases one.delegated with
  | true => exact Starts.talks_bind (talks_print _) fun _ _ _ _ => last _
  | false => exact last _

end Run

/-! ## The checks -/

/-- A result tells how the commands of its check ended: those of both stages, or none of a
check that was left out. -/
structure CheckResult.Tells (kind : CheckKind) (result : CheckResult) (endings : List Ending) :
    Prop where
  kind : result.kind = kind
  fatal : result.fatal = false
  told : (endings = [] ∧ result.outputs.zero = none) ∨
    ∃ ends : Both Ending, endings = Stage.all.map ends.get ∧ result.outputs.zero.isSome = true ∧
      ∀ stage, (result.failures.get stage).isNone = (ends.get stage).normal

theorem Comparison.tells_check {zero one : Outcome} {first second : Ending} (kind : CheckKind)
    (begins : zero.ok = first.normal) (follows : one.ok = second.normal) :
    (check kind zero one []).Tells kind [first, second] := by
  refine ⟨rfl, rfl, .inr ⟨⟨first, second⟩, rfl, rfl, fun stage => ?_⟩⟩
  cases stage with
  | zero => exact begins
  | one => exact follows

theorem Comparison.tells_skip (kind : CheckKind) (reason : Text) :
    (skip kind reason).Tells kind [] :=
  ⟨rfl, rfl, .inl ⟨rfl, rfl⟩⟩

theorem CheckResult.Tells.noteDelegation {kind : CheckKind} {result : CheckResult}
    {endings : List Ending} (tells : result.Tells kind endings) (delegated : Bool) :
    (result.noteDelegation delegated).Tells kind endings := by
  unfold CheckResult.noteDelegation
  split
  · exact ⟨tells.kind, tells.fatal, tells.told⟩
  · exact tells

namespace Run

variable {α β κ : Type} {host : Host} {project : Project} {verbose : Bool} {w : Path} {s t : Session}

theorem starts_ask (question : Disk → Except FileFault α) :
    Starts host s (ask question) [] Quiet := by
  refine Starts.of_launches_eq (by rw [from_ask]) (by rw [from_ask]) fun fault stopped => ?_
  rw [from_ask] at stopped
  cases answer : question s.disk with
  | ok a => rw [answer] at stopped; cases stopped
  | error other => rw [answer] at stopped; cases stopped; exact id

theorem starts_noteSample (stage : Stage) (path : Path) :
    Starts host s (noteSample host stage path) [] Quiet := by
  refine Starts.quiet_bind (starts_ask _) fun present t _ => ?_
  cases present with
  | false => exact Starts.of_launches_eq rfl rfl nofun
  | true =>
      obtain ⟨result, disk, log, ended, -, calm⟩ := from_makeOwnerRunnable host path t
      refine Starts.quiet_bind ?_ fun _ _ _ => Starts.of_launches_eq rfl rfl nofun
      refine Starts.of_launches_eq (by rw [ended]) (by rw [ended]) fun fault stopped => ?_
      rw [ended] at stopped
      exact calm fault stopped

/-- Two invocations in a row, one for each stage, whose outcomes make up a result. -/
theorem starts_both {kind : CheckKind} (programs : Both Path) (arguments : Both (List Text))
    {last : Outcome → Outcome → Run CheckResult}
    (quiet : ∀ zero one t, Starts host t (last zero one) [] Quiet)
    (tells : ∀ zero one t result u, from_ (last zero one) t = (.ok result, u) →
      ∀ first second : Ending, zero.ok = first.normal → one.ok = second.normal →
        result.Tells kind [first, second]) :
    Starts host s (do
        let zero ← invoke host project programs.zero arguments.zero
        let one ← invoke host project programs.one arguments.one
        last zero one)
      (Stage.all.map fun stage => (programs.get stage).text :: arguments.get stage)
      fun result endings => result.Tells kind endings := by
  have commands : (Stage.all.map fun stage => (programs.get stage).text :: arguments.get stage) =
      [programs.zero.text :: arguments.zero] ++ [programs.one.text :: arguments.one] := rfl
  rw [commands]
  refine Starts.bind (starts_invoke _ _) fun zero t _ _ ⟨first, same, begins⟩ => ?_
  subst same
  refine Starts.bind_quiet (starts_invoke _ _) (fun one u _ => quiet zero one u) ?_
  rintro one u result v _ - done ⟨second, rfl, follows⟩
  exact tells zero one u result v done first second begins follows

theorem compareOutcomes_ok {kind : CheckKind} {zero one : Outcome} {result : CheckResult}
    (ended : from_ (compareOutcomes kind zero one) s = (.ok result, t)) :
    result = Comparison.check kind zero one [] := by
  cases ended
  rfl

theorem starts_checkCompilers (kind : CheckKind) (compilers : Both Artifact) (arguments : List Text) :
    Starts host s (checkCompilers host project kind compilers arguments)
      (Stage.all.map fun stage => (compilers.get stage).path.text :: arguments)
      fun result endings => result.Tells kind endings := by
  refine starts_both (compilers.map Artifact.path) ⟨arguments, arguments⟩
    (fun zero one t => Starts.alone project ?_) ?_
  · exact Alone.bind (alone_keepOutcomes kind zero one) fun _ _ _ _ =>
      alone_compareOutcomes kind zero one
  · intro zero one t result u ended first second
    obtain ⟨_, v, -, ended⟩ := from_bind_eq_ok ended
    rw [compareOutcomes_ok ended]
    exact Comparison.tells_check kind

/-- The sample is compiled by both stages if it is there. -/
theorem starts_checkCompilation {compilers : Both Artifact} (based : s.Based project w)
    (paths : ∀ stage, (compilers.get stage).path = project.compiler w stage) :
    Starts host s (checkCompilation host project compilers)
      (if s.disk.hasFile host.cwd project.sample then
        Stage.all.map fun stage => Errand.argv project w (.check .compilation stage)
      else [])
      fun result endings => result.Tells .compilation endings := by
  refine Starts.quiet_bind (starts_ask _) fun present t asked => ?_
  obtain ⟨answer, rfl⟩ := ask_eq_ok asked
  rw [Disk.hasFile_of_ok answer]
  cases present with
  | false =>
      refine (Starts.alone project (alone_skipCheck _ _)).mono fun result t endings ended _ none => ?_
      cases ended
      rw [none]
      exact Comparison.tells_skip _ _
  | true =>
      refine Starts.alone_bind alone_testDir fun first u made => ?_
      obtain rfl := testDir_of_based based made
      refine Starts.alone_bind alone_testDir fun second v again => ?_
      cases (from_testDir_of_some (testDir_ok made)).symm.trans again
      let arguments : Both (List Text) :=
        ⟨[project.sample.text, Text.ofString "-o", (project.compiledSample w .zero).text],
          [project.sample.text, Text.ofString "-o", (project.compiledSample w .one).text]⟩
      have commands : (Stage.all.map fun stage => Errand.argv project w (.check .compilation stage)) =
          Stage.all.map fun stage =>
            ((compilers.map Artifact.path).get stage).text :: arguments.get stage := by
        refine List.map_congr_left fun stage _ => ?_
        cases stage with
        | zero => exact congrArg (fun path : Path => path.text :: arguments.zero) (paths .zero).symm
        | one => exact congrArg (fun path : Path => path.text :: arguments.one) (paths .one).symm
      rw [if_pos rfl, commands]
      refine starts_both (compilers.map Artifact.path) arguments (fun zero one t => ?_) ?_
      · refine Starts.alone_bind (alone_keepOutcomes _ zero one) fun _ _ _ => ?_
        refine Starts.quiet_bind (starts_noteSample _ _) fun _ _ _ => ?_
        refine Starts.quiet_bind (starts_noteSample _ _) fun _ _ _ => ?_
        exact Starts.alone project (alone_compareOutcomes _ zero one)
      · intro zero one t result u ended first second
        obtain ⟨_, _, -, ended⟩ := from_bind_eq_ok ended
        obtain ⟨_, _, -, ended⟩ := from_bind_eq_ok ended
        obtain ⟨_, _, -, ended⟩ := from_bind_eq_ok ended
        rw [compareOutcomes_ok ended]
        exact Comparison.tells_check _

/-- Whether both compiled samples were kept. -/
def hasSamples (s : Session) : Bool := Stage.all.all fun stage => (s.samples.get stage).isSome

/-- The compiled samples are run if both were kept. -/
theorem starts_checkRuntime
    (known : ∀ stage path, s.samples.get stage = some path → path = project.compiledSample w stage) :
    Starts host s (checkRuntime host project)
      (if hasSamples s then Stage.all.map fun stage => Errand.argv project w (.check .runtime stage)
      else [])
      fun result endings => result.Tells .runtime endings := by
  have skips : ∀ reason, Starts host s (skipCheck .runtime reason) []
      fun result endings => result.Tells .runtime endings := fun reason =>
    (Starts.alone project (alone_skipCheck _ _)).mono fun result t endings ended _ none => by
      cases ended
      rw [none]
      exact Comparison.tells_skip _ _
  refine Starts.get_bind ?_
  dsimp only
  cases first : s.samples.zero with
  | none =>
      have missing : hasSamples s = false := by simp [hasSamples, Stage.all, Both.get, first]
      rw [missing]
      exact skips _
  | some zero =>
      cases second : s.samples.one with
      | none =>
          have missing : hasSamples s = false := by simp [hasSamples, Stage.all, Both.get, second]
          rw [missing]
          exact skips _
      | some one =>
          have both : hasSamples s = true := by
            simp [hasSamples, Stage.all, Both.get, first, second]
          obtain rfl := known .zero zero first
          obtain rfl := known .one one second
          rw [both, if_pos rfl]
          refine starts_both ⟨project.compiledSample w .zero, project.compiledSample w .one⟩ ⟨[], []⟩
            (fun zero one t => ?_) ?_
          · refine Starts.alone_bind (alone_keepOutcomes _ zero one) fun _ u _ => ?_
            exact Starts.alone_bind (alone_compareOutcomes _ zero one : Alone host project u _)
              fun _ _ _ => Starts.pure rfl
          · intro zero one t result u ended first second begins follows
            obtain ⟨_, _, -, ended⟩ := from_bind_eq_ok ended
            obtain ⟨compared, _, judged, ended⟩ := from_bind_eq_ok ended
            cases ended
            rw [compareOutcomes_ok judged]
            have tells := Comparison.tells_check .runtime begins follows
            exact ⟨tells.kind, tells.fatal, tells.told⟩

/-- Whether a check is attempted that starts from a state. -/
def attempts (host : Host) (project : Project) (s : Session) : CheckKind → Bool
  | .version | .selfDiagnostics => true
  | .compilation => s.disk.hasFile host.cwd project.sample
  | .runtime => hasSamples s

/-- A check that is attempted starts one command for each stage. -/
theorem starts_check {compilers : Both Artifact} {kind : CheckKind} (based : s.Based project w)
    (paths : ∀ stage, (compilers.get stage).path = project.compiler w stage)
    (known : kind = .runtime →
      ∀ stage path, s.samples.get stage = some path → path = project.compiledSample w stage) :
    Starts host s (check host project compilers kind)
      (if attempts host project s kind then
        Stage.all.map fun stage => Errand.argv project w (.check kind stage)
      else [])
      fun result endings => result.Tells kind endings := by
  cases kind with
  | version =>
      have commands : (Stage.all.map fun stage => Errand.argv project w (.check .version stage)) =
          Stage.all.map fun stage => (compilers.get stage).path.text :: [Text.ofString "--version"] :=
        List.map_congr_left fun stage _ => by rw [paths stage]; rfl
      rw [attempts, if_pos rfl, commands]
      exact starts_checkCompilers _ _ _
  | compilation => exact starts_checkCompilation based paths
  | runtime => exact starts_checkRuntime (known rfl)
  | selfDiagnostics =>
      have commands :
          (Stage.all.map fun stage => Errand.argv project w (.check .selfDiagnostics stage)) =
          Stage.all.map fun stage => (compilers.get stage).path.text :: [Text.ofString "--self-check"] :=
        List.map_congr_left fun stage _ => by rw [paths stage]; rfl
      rw [attempts, if_pos rfl, commands]
      exact starts_checkCompilers _ _ _

theorem starts_checkRecorded {listen : CheckEvent → Run Unit} {compilers : Both Artifact}
    {kind : CheckKind} (talks : ∀ event, Talks (listen event)) (based : s.Based project w)
    (paths : ∀ stage, (compilers.get stage).path = project.compiler w stage)
    (known : kind = .runtime →
      ∀ stage path, s.samples.get stage = some path → path = project.compiledSample w stage) :
    Starts host s (checkRecorded host project compilers listen kind)
      (if attempts host project s kind then
        Stage.all.map fun stage => Errand.argv project w (.check kind stage)
      else [])
      fun result endings => result.Tells kind endings := by
  refine Starts.talks_bind (talks _) fun log console commandEvents checkEvents => ?_
  have same : attempts host project { s with log, console, commandEvents, checkEvents } kind =
      attempts host project s kind := by cases kind <;> rfl
  rw [← same]
  refine Starts.bind_quiet (starts_check ⟨based.workdir, based.inside⟩ paths known)
    (fun result t _ => ?_) ?_
  · refine Starts.quiet_bind (starts_onReport fun _ => Report.addResult_calm) fun _ _ _ => ?_
    exact Starts.talks_bind (talks _) fun _ _ _ _ => Starts.pure rfl
  · rintro result t noted u endings - done tells
    obtain ⟨_, v, -, done⟩ := from_bind_eq_ok done
    obtain ⟨_, _, -, done⟩ := from_bind_eq_ok done
    cases done
    exact tells.noteDelegation _

/-- What answers tell one after the other of how commands ended. -/
inductive Told (tells : κ → β → List Ending → Prop) : List κ → List β → List Ending → Prop where
  | nil : Told tells [] [] []
  | cons {k : κ} {ks : List κ} {b : β} {bs : List β} {first rest : List Ending} :
      tells k b first → Told tells ks bs rest → Told tells (k :: ks) (b :: bs) (first ++ rest)

/-- Steps that are taken for the members of a list start their commands in order. -/
theorem Starts.mapM {f : κ → Run β} {ks : List κ} {commands : κ → List (List Text)}
    {tells : κ → β → List Ending → Prop}
    (each : ∀ done k rest answers t, ks = done ++ k :: rest →
      from_ (done.mapM f) s = (.ok answers, t) → Starts host t (f k) (commands k) (tells k)) :
    Starts host s (ks.mapM f) (ks.flatMap commands) (Told tells ks) := by
  induction ks generalizing s with
  | nil =>
      rw [List.mapM_nil]
      exact Starts.pure .nil
  | cons k ks ih =>
      rw [List.mapM_cons, List.flatMap_cons]
      refine Starts.bind (each [] k ks [] s rfl rfl) fun b t first ended told => ?_
      refine Starts.bind_quiet (ih fun done other rest answers u split reached => ?_)
        (fun _ _ _ => Starts.pure rfl) ?_
      · refine each (k :: done) other rest (b :: answers) u (by rw [split]; rfl) ?_
        rw [List.mapM_cons, from_bind_ok ended, from_bind_ok reached]
        rfl
      · rintro bs u _ _ rest - ⟨⟩ others
        exact .cons told others

/-! ## The stages -/

/-- The checks before one of them are as many as its place says. -/
theorem order_split {done rest : List CheckKind} {kind : CheckKind}
    (split : CheckKind.order = done ++ kind :: rest) : done = CheckKind.order.take kind.index := by
  unfold CheckKind.order at split
  rcases done with _ | ⟨a, _ | ⟨b, _ | ⟨c, _ | ⟨d, more⟩⟩⟩⟩
  · cases split
    rfl
  · cases split
    rfl
  · cases split
    rfl
  · cases split
    rfl
  · simp at split

theorem from_ensureBuilt {artifact : Artifact} (built : artifact.built = true) (s : Session) :
    from_ (ensureBuilt artifact) s = (.ok (), s) := by
  unfold ensureBuilt
  rw [built]
  rfl

section Checks

variable {compilers : Both Artifact} {listen : CheckEvent → Run Unit}

theorem based_of_checks {kinds : List CheckKind} {results : List CheckResult}
    (talks : ∀ event, Talks (listen event)) (based : s.Based project w)
    (ended : from_ (kinds.mapM (checkRecorded host project compilers listen)) s = (.ok results, t)) :
    t.Based project w :=
  Deed.based ((Doing.mapM fun kind _ => doing_checkRecorded talks compilers kind).deeds ended) based

/-- Comparing versions keeps no samples. -/
theorem samples_of_version {results : List CheckResult} (talks : ∀ event, Talks (listen event))
    (ended : from_ ([.version].mapM (checkRecorded host project compilers listen)) s =
      (.ok results, t)) : t.samples = s.samples := by
  rw [List.mapM_cons, List.mapM_nil] at ended
  obtain ⟨result, u, checked, ended⟩ := from_bind_eq_ok ended
  cases ended
  obtain ⟨log, console, commandEvents, checkEvents, found, v, compared, -, -, samples⟩ :=
    checkRecorded_ok talks checked
  have kept := (working_checkCompilers .version compilers _).keeps_samples.of_eq compared
  exact samples.trans kept

/-- When the samples are to be run, those are kept that are regular files, if they were to be
compiled. -/
theorem samples_of_compilation {results : List CheckResult} (talks : ∀ event, Talks (listen event))
    (based : s.Based project w) (fresh : s.samples = ⟨none, none⟩)
    (ended : from_ ([.version, .compilation].mapM (checkRecorded host project compilers listen)) s =
      (.ok results, t)) :
    ∃ earlier u, from_ ([.version].mapM (checkRecorded host project compilers listen)) s =
        (.ok earlier, u) ∧
      ∀ stage, t.samples.get stage =
        if u.disk.hasFile host.cwd project.sample &&
            t.disk.hasFile host.cwd (project.compiledSample w stage) then
          some (project.compiledSample w stage)
        else none := by
  rw [List.mapM_cons] at ended
  obtain ⟨first, u, checked, ended⟩ := from_bind_eq_ok ended
  obtain ⟨others, v, compiled, ended⟩ := from_bind_eq_ok ended
  cases ended
  rw [List.mapM_cons, List.mapM_nil] at compiled
  obtain ⟨second, v', recorded, compiled⟩ := from_bind_eq_ok compiled
  cases compiled
  have earlier : from_ ([.version].mapM (checkRecorded host project compilers listen)) s =
      (.ok [first], u) := by
    rw [List.mapM_cons, List.mapM_nil, from_bind_ok checked]
    rfl
  refine ⟨[first], u, earlier, fun stage => ?_⟩
  have basedThen := based_of_checks talks based earlier
  have freshThen := (samples_of_version talks earlier).trans fresh
  obtain ⟨log, console, commandEvents, checkEvents, found, v, ended, -, disk, samples⟩ :=
    checkRecorded_ok talks recorded
  rw [samples, disk]
  exact checkCompilation_ok ⟨by exact basedThen.workdir, by exact basedThen.inside⟩
    (by exact freshThen) ended stage

end Checks

/-- Once both compilers are built, the checks are done from there. -/
theorem from_upTo {zero one : Artifact} {u : Session}
    (builtZero : from_ (stageZero host project) s = (.ok zero, t))
    (builtOne : from_ (stageOne host project zero) t = (.ok one, u)) (zeroBuilt : zero.built = true)
    (oneBuilt : one.built = true) (kinds : List CheckKind) :
    from_ (upTo host project verbose kinds) s =
      from_ (kinds.mapM (checkRecorded host project ⟨zero, one⟩ (printCheckEvent verbose))) u := by
  unfold upTo
  rw [from_bind_ok builtZero, from_bind_ok builtOne, from_bind_ok (from_ensureBuilt zeroBuilt u),
    from_bind_ok (from_ensureBuilt oneBuilt u)]

/-- What was found on the way is what the checks go by. -/
theorem attempts_eq {zero one : Artifact} {kind : CheckKind} {done rest : List CheckKind}
    {results : List CheckResult} {u v : Session}
    (builtZero : from_ (stageZero host project) s = (.ok zero, t))
    (builtOne : from_ (stageOne host project zero) t = (.ok one, u))
    (built : ∀ stage, (Both.get ⟨zero, one⟩ stage).built = true) (based : u.Based project w)
    (fresh : u.samples = ⟨none, none⟩) (split : CheckKind.order = done ++ kind :: rest)
    (reached : from_ (done.mapM
      (checkRecorded host project ⟨zero, one⟩ (printCheckEvent verbose))) u = (.ok results, v)) :
    (findings host project verbose s).attempts kind = attempts host project v kind := by
  have moment : ∀ kinds, from_ (upTo host project verbose kinds) s = _ :=
    from_upTo builtZero builtOne (built .zero) (built .one)
  obtain rfl := order_split split
  cases kind with
  | version => rfl
  | compilation => exact after_ok ((moment _).trans reached) _
  | runtime =>
      have later := based_of_checks (talks_printCheckEvent verbose) based reached
      obtain ⟨earlier, m, before, samples⟩ :=
        samples_of_compilation (talks_printCheckEvent verbose) based fresh reached
      have sample : (findings host project verbose s).sample =
          m.disk.hasFile host.cwd project.sample := after_ok ((moment _).trans before) _
      have outputs : (findings host project verbose s).outputs =
          Stage.all.all fun stage => v.disk.hasFile host.cwd (project.compiledSample w stage) := by
        refine (after_ok ((moment _).trans reached) _).trans ?_
        rw [later.workdir]
        rfl
      have kept : ∀ stage, (v.samples.get stage).isSome = (m.disk.hasFile host.cwd project.sample &&
          v.disk.hasFile host.cwd (project.compiledSample w stage)) := by
        intro stage
        rw [samples stage]
        split
        · rename_i there
          exact there.symm
        · rename_i missing
          exact (Bool.eq_false_iff.mpr missing).symm
      rw [Findings.attempts, attempts, hasSamples, sample, outputs]
      simp only [Stage.all, List.all_cons, List.all_nil, kept]
      cases m.disk.hasFile host.cwd project.sample <;> simp
  | selfDiagnostics => rfl

theorem known_of_reached {compilers : Both Artifact} {done rest : List CheckKind}
    {results : List CheckResult} (based : s.Based project w) (fresh : s.samples = ⟨none, none⟩)
    (split : CheckKind.order = done ++ .runtime :: rest)
    (reached : from_ (done.mapM (checkRecorded host project compilers (printCheckEvent verbose))) s =
      (.ok results, t)) (stage : Stage) (path : Path) (kept : t.samples.get stage = some path) :
    path = project.compiledSample w stage := by
  obtain rfl := order_split split
  obtain ⟨_, _, _, samples⟩ :=
    samples_of_compilation (talks_printCheckEvent verbose) based fresh reached
  rw [samples stage] at kept
  split at kept
  · exact (Option.some.inj kept).symm
  · cases kept

/-- The commands of the plan of a run. -/
theorem plan_argv (found : Findings) (project : Project) (w : Path) :
    found.plan.map (Errand.argv project w) =
      [project.layout.buildCommand] ++
        ((if found.source then [Errand.argv project w (.build .one)] else []) ++
          CheckKind.order.flatMap fun kind =>
            if found.attempts kind then
              Stage.all.map fun stage => Errand.argv project w (.check kind stage)
            else []) := by
  have checks : (CheckKind.order.flatMap found.errands).map (Errand.argv project w) =
      CheckKind.order.flatMap fun kind =>
        if found.attempts kind then
          Stage.all.map fun stage => Errand.argv project w (.check kind stage)
        else [] := by
    rw [List.map_flatMap]
    congr 1
    funext kind
    unfold Findings.errands
    split <;> rfl
  rw [Findings.plan, List.map_append, checks, Findings.builds]
  cases found.source <;> rfl

end Run

/-- A result tells how the commands of its check ended, as many as were planned. -/
def Findings.Answers (found : Findings) (kind : CheckKind) (result : CheckResult)
    (endings : List Ending) : Prop :=
  result.Tells kind endings ∧ endings.length = (found.errands kind).length

/-- What the results of all checks tell of the endings of a whole run: all builds exited with
zero, and each check came out as its commands did. -/
def Findings.Accounts (found : Findings) (results : List CheckResult) (endings : List Ending) :
    Prop :=
  ∃ builds checks, endings = builds ++ checks ∧ builds.length = found.builds.length ∧
    (∀ ending ∈ builds, ending = .exited 0) ∧
    Run.Told found.Answers CheckKind.order results checks

namespace Run

variable {host : Host} {project : Project} {verbose : Bool} {w : Path} {s : Session}

/-- Up to the last check the commands of the plan are started in order, and the results account
for them. -/
theorem starts_upTo (noDirectory : s.testDir = none) (fresh : s.samples = ⟨none, none⟩)
    (known : ∀ zero t v, from_ (stageZero host project) s = (.ok zero, t) →
      t.scratch.workdir = some v → v = w) :
    Starts host s (upTo host project verbose CheckKind.order)
      ((findings host project verbose s).plan.map (Errand.argv project w))
      (findings host project verbose s).Accounts := by
  rw [plan_argv]
  refine Starts.bind starts_stageZero fun zero t builds builtZero exited => ?_
  obtain ⟨-, zeroBuilt, v, workdir, zeroPath⟩ := stageZero_ok builtZero
  obtain rfl := known zero t v builtZero workdir
  have based : t.Based project v :=
    ⟨workdir, Deed.testDirInside (doing_stageZero.deeds builtZero) fun directory present => by
      rw [noDirectory] at present
      cases present⟩
  have found : (findings host project verbose s).source = t.disk.hasFile host.cwd project.source :=
    after_ok builtZero _
  refine Starts.of_live fun live => ?_
  rw [found]
  refine Starts.bind (starts_stageOne zeroBuilt zeroPath workdir).counted
    fun one u more builtOne ⟨count, exitedToo⟩ => ?_
  obtain ⟨-, oneBuilt, onePath⟩ := stageOne_ok zeroBuilt live workdir builtOne
  have basedThen : u.Based project v := Deed.based (doing_stageOne.deeds builtOne) based
  have freshThen : u.samples = ⟨none, none⟩ := by
    rw [(keeps_samples_stageOne zero).of_eq builtOne, keeps_samples_stageZero.of_eq builtZero, fresh]
  have built : ∀ stage, (Both.get ⟨zero, one⟩ stage).built = true := fun stage => by
    cases stage with
    | zero => exact zeroBuilt
    | one => exact oneBuilt
  have paths : ∀ stage, (Both.get ⟨zero, one⟩ stage).path = project.compiler v stage := fun stage => by
    cases stage with
    | zero => exact zeroPath
    | one => exact onePath
  refine Starts.alone_bind (alone_ensureBuilt zero : Alone host project u _) fun _ u' ended => ?_
  cases (from_ensureBuilt zeroBuilt u).symm.trans ended
  refine Starts.alone_bind (alone_ensureBuilt one : Alone host project u _) fun _ u' ended => ?_
  cases (from_ensureBuilt oneBuilt u).symm.trans ended
  refine (Starts.mapM ?_ : Starts host u _ _
    (Told (findings host project verbose s).Answers CheckKind.order)).mono ?_
  · intro done kind rest results m split reached
    have known : kind = .runtime → ∀ stage path, m.samples.get stage = some path →
        path = project.compiledSample v stage := by
      rintro rfl
      exact known_of_reached basedThen freshThen split reached
    rw [attempts_eq builtZero builtOne built basedThen freshThen split reached]
    refine (starts_checkRecorded (talks_printCheckEvent verbose)
      (based_of_checks (talks_printCheckEvent verbose) basedThen reached) paths known).mono
      fun result _ endings _ count tells => ⟨tells, ?_⟩
    rw [← attempts_eq builtZero builtOne built basedThen freshThen split reached] at count
    rw [count]
    unfold Findings.errands
    split <;> rfl
  · intro results m checks _ _ told
    refine ⟨builds ++ more, checks, (List.append_assoc _ _ _).symm, ?_, fun ending member => ?_,
      told⟩
    · rw [List.length_append, exited, count, Findings.builds, found]
      split <;> rfl
    rcases List.mem_append.mp member with first | second
    · rw [exited] at first
      exact List.mem_singleton.mp first
    · exact exitedToo ending second

end Run

end StageParity
