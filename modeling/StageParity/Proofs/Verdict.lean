import StageParity.Proofs.Banner
import StageParity.Proofs.Snags

/-!
# The verdict of a run

The exit code of a run that comes to its end is zero just when the run was not asked to stop,
the toolchain was found, both compilers were built, and each of them was invoked at least once
by a check so that it ended by itself. What the compilers wrote does not count.
-/

namespace StageParity

open Relation (ReflTransGen)

/-- The value of a member of an object. -/
def Document.member? (key : String) : Document → Option Document
  | .object members => members.lookup key
  | _ => none

theorem CheckKind.runsCompilers_iff (kind : CheckKind) :
    kind.runsCompilers = true ↔ kind ≠ .runtime := by
  cases kind <;> simp [runsCompilers]

/-- Whether a result tells that the compiler of a stage ended by itself. -/
def CheckResult.ran (stage : Stage) (result : CheckResult) : Bool :=
  result.kind.runsCompilers && result.outputs.zero.isSome && (result.failures.get stage).isNone

/-- When some check was done that invokes the compilers, a compiler ever ran if it did in one of
the results. -/
theorem CheckResult.everRan_iff {results : List CheckResult} (stage : Stage)
    (attempted : ∃ result ∈ results, result.kind.runsCompilers = true ∧
      result.outputs.zero.isSome = true) :
    everRan results stage = true ↔ ∃ result ∈ results, result.ran stage = true := by
  obtain ⟨first, member, runs, some_⟩ := attempted
  have some' : (results.filter fun r => r.kind.runsCompilers && r.outputs.zero.isSome) ≠ [] :=
    List.ne_nil_of_mem (List.mem_filter.mpr ⟨member, by rw [runs, some_]; rfl⟩)
  simp [everRan, ran, some', and_assoc]

/-- Whether an invocation of the compiler of a stage ended by itself, by the endings of the
errands of a run. -/
def Answered (account : List (Errand × Ending)) (stage : Stage) : Prop :=
  ∃ kind ending, (.check kind stage, ending) ∈ account ∧ kind ≠ .runtime ∧ ending.normal = true

theorem answered_append {first second : List (Errand × Ending)} {stage : Stage} :
    Answered (first ++ second) stage ↔ Answered first stage ∨ Answered second stage := by
  unfold Answered
  simp only [List.mem_append, or_and_right, exists_or]

namespace Findings

variable {found : Findings} {kind : CheckKind} {result : CheckResult} {endings : List Ending}

/-- Builds invoke no compiler in a check. -/
theorem not_answered_builds (found : Findings) (endings : List Ending) (stage : Stage) :
    ¬ Answered (found.builds.zip endings) stage := by
  rintro ⟨kind, ending, member, -⟩
  have build := (List.of_mem_zip member).1
  unfold builds at build
  split at build <;> simp at build

theorem answers_iff (answers : found.Answers kind result endings) (stage : Stage) :
    Answered ((found.errands kind).zip endings) stage ↔ result.ran stage = true := by
  obtain ⟨⟨same, -, told⟩, count⟩ := answers
  unfold CheckResult.ran
  rcases told with ⟨rfl, none⟩ | ⟨ends, rfl, some_, told⟩
  · rw [List.zip_nil_right, none]
    simp [Answered]
  · have errands : found.errands kind = Stage.all.map (.check kind) := by
      unfold Findings.errands at count ⊢
      split
      · rfl
      · rw [if_neg ‹_›] at count
        cases count
    have member : ∀ other ending, (Errand.check other stage, ending) ∈
        (Stage.all.map (.check kind)).zip (Stage.all.map ends.get) ↔
          other = kind ∧ ending = ends.get stage := by
      intro other ending
      cases stage <;> simp [Stage.all]
    rw [errands, same, some_, told, Bool.and_true, Bool.and_eq_true, CheckKind.runsCompilers_iff]
    constructor
    · rintro ⟨other, ending, inside, runs, normal⟩
      obtain ⟨rfl, rfl⟩ := (member other ending).mp inside
      exact ⟨runs, normal⟩
    · rintro ⟨runs, normal⟩
      exact ⟨kind, _, (member kind _).mpr ⟨rfl, rfl⟩, runs, normal⟩

/-- By the results of checks, a compiler ran just when an errand of the checks was answered. -/
theorem answered_iff_ran {kinds : List CheckKind} {results : List CheckResult}
    (told : Run.Told found.Answers kinds results endings) (stage : Stage) :
    Answered ((kinds.flatMap found.errands).zip endings) stage ↔
      ∃ result ∈ results, result.ran stage = true := by
  induction told with
  | nil => simp [Answered]
  | cons answers _ ih =>
      rw [List.flatMap_cons, List.zip_append answers.2.symm, answered_append, answers_iff answers,
        ih]
      simp only [List.mem_cons, exists_eq_or_imp]

/-- The check of the versions is always done. -/
theorem Accounts.attempted {results : List CheckResult} (accounts : found.Accounts results endings) :
    ∃ result ∈ results, result.kind.runsCompilers = true ∧ result.outputs.zero.isSome = true := by
  obtain ⟨builds, checks, -, -, -, told⟩ := accounts
  cases told with
  | @cons _ _ result _ _ _ answers _ =>
      obtain ⟨⟨kind, -, told⟩, count⟩ := answers
      refine ⟨result, List.mem_cons_self, by rw [kind]; rfl, ?_⟩
      rcases told with ⟨none, -⟩ | ⟨ends, -, some_, -⟩
      · rw [none] at count
        cases count
      · exact some_

/-- A compiler ever ran just when an errand of the plan was answered. -/
theorem Accounts.everRan_iff {results : List CheckResult} (accounts : found.Accounts results endings)
    (stage : Stage) :
    CheckResult.everRan results stage = true ↔ Answered (found.plan.zip endings) stage := by
  rw [CheckResult.everRan_iff stage accounts.attempted]
  obtain ⟨builds, checks, rfl, count, -, told⟩ := accounts
  rw [plan, List.zip_append count.symm, answered_append, answered_iff_ran told,
    or_iff_right (not_answered_builds found builds stage)]

theorem Accounts.fatal {results : List CheckResult} (accounts : found.Accounts results endings) :
    results.any CheckResult.fatal = false := by
  obtain ⟨builds, checks, -, -, -, told⟩ := accounts
  generalize CheckKind.order = kinds at told
  induction told with
  | nil => rfl
  | cons answers _ ih => rw [List.any_cons, answers.1.fatal, ih]; rfl

end Findings

namespace Report

theorem hasFatal_blaming (r : Report) (messages : List Text) :
    (r.blaming messages).hasFatal = (!messages.isEmpty || r.hasFatal) := by
  unfold hasFatal blaming
  cases messages with
  | nil => simp
  | cons message messages => simp

theorem closing_blaming (r : Report) (messages : List Text) (now : Text) (some_ : messages ≠ []) :
    ((r.blaming messages).closing now).status = some .fail := by
  have fatal : (r.blaming messages).hasFatal = true := by
    rw [hasFatal_blaming, List.isEmpty_eq_false_iff.mpr some_]
    rfl
  unfold closing
  rw [fatal]
  rfl

end Report

namespace Run

variable {host : Host} {options : RunOptions} {project : Project} {verbose : Bool} {s t : Session}

/-- What it takes for a run to pass that takes its stages from the first state and ends in the
second one. -/
structure Passes (host : Host) (project : Project) (verbose : Bool) (s t : Session) : Prop where
  /-- The run was not asked to stop. -/
  uncut : ¬ t.WasCut host
  /-- The toolchain is there. -/
  found : (Toolchain.find? s.disk host.cwd (Toolchain.searchPath host.bindings)
    project.layout.toolchain).isSome = true
  /-- Both compilers were built. -/
  built : ∀ stage, ∃ artifact, t.report.artifacts.get stage = some artifact ∧ artifact.built = true
  /-- An invocation of each compiler ended by itself. -/
  answered : ∀ stage,
    Answered ((findings host project verbose s).plan.zip (t.endings host)) stage

theorem Passes.congr {u : Session} (passes : Passes host project verbose s t)
    (launches : u.launches = t.launches)
    (artifacts : u.report.artifacts = t.report.artifacts) : Passes host project verbose s u := by
  refine ⟨fun cut => passes.uncut ((Session.wasCut_congr launches).mp cut), passes.found, ?_, ?_⟩
  · rw [artifacts]
    exact passes.built
  · rw [Session.endings_congr host launches]
    exact passes.answered

theorem neverRan_eq_nil_iff (results : List CheckResult) :
    neverRan results Stage.all = [] ↔ ∀ stage, CheckResult.everRan results stage = true := by
  unfold neverRan
  rw [List.map_eq_nil_iff, List.filter_eq_nil_iff]
  refine ⟨fun none stage => ?_, fun all stage _ => by simp [all stage]⟩
  have member : stage ∈ Stage.all := by cases stage <;> simp [Stage.all]
  simpa using none stage member

/-! ## The stages -/

theorem found_of_stageZero {zero : Artifact} {m : Session}
    (built : from_ (stageZero host project) s = (.ok zero, m)) :
    (Toolchain.find? s.disk host.cwd (Toolchain.searchPath host.bindings)
      project.layout.toolchain).isSome = true := by
  refine Option.isSome_iff_ne_none.mpr fun missing => ?_
  obtain ⟨fault, t, failed, -⟩ := stageZero_of_toolless missing
  cases built.symm.trans failed

/-- Stages that fail with a fatal fault leave a compiler that was not built. -/
theorem unbuilt_of_fatal {fault : Fault} (ready : Ready s) (calm : s.Calm host project)
    (ends : StagesEnd host project verbose s (.error fault) t) (fatal : fault.isFatal = true) :
    ∃ stage, t.report.artifacts.get stage = none := by
  obtain ⟨root, now, start⟩ := ready.report
  cases ends with
  | zeroFails _ report =>
      refine ⟨.zero, ?_⟩
      rw [report, start]
      rfl
  | oneFails _ _ report =>
      refine ⟨.one, ?_⟩
      rw [report, start]
      rfl
  | checkFails builtZero builtOne reached _ _ _ =>
      have built := built_of_stages ready.live builtZero builtOne
      rw [from_upTo builtZero builtOne built.zeroBuilt built.oneBuilt] at reached
      have calmThen := calm_of_builds ready calm builtZero builtOne
      have mild : fault.isFatal = false :=
        mild_of_checks calmThen (by rw [built.report]; exact ready.open_)
          (by rw [built.report, start]; rfl) reached
      cases fatal.symm.trans mild

/-- Once all checks are done, the run passes just when each compiler ever ran. -/
theorem passes_iff_of_accounts {zero one : Artifact} {m u : Session} {results : List CheckResult}
    (ready : Ready s) (builtZero : from_ (stageZero host project) s = (.ok zero, m))
    (builtOne : from_ (stageOne host project zero) m = (.ok one, u)) (uncut : ¬ t.WasCut host)
    (artifacts : t.report.artifacts = ⟨some zero, some one⟩)
    (accounts : (findings host project verbose s).Accounts results (t.endings host)) :
    Passes host project verbose s t ↔ ∀ stage, CheckResult.everRan results stage = true := by
  have built := built_of_stages ready.live builtZero builtOne
  constructor
  · exact fun passes stage => (accounts.everRan_iff stage).mpr (passes.answered stage)
  · refine fun ran => ⟨uncut, found_of_stageZero builtZero, fun stage => ?_,
      fun stage => (accounts.everRan_iff stage).mp (ran stage)⟩
    rw [artifacts]
    cases stage with
    | zero => exact ⟨zero, rfl, built.zeroBuilt⟩
    | one => exact ⟨one, rfl, built.oneBuilt⟩

/-- The stages fix the status, unless they are stopped by a fault that is not fatal. The status
is a pass just when the run passes. -/
theorem stagesReported_cases (host : Host) (project : Project) (verbose : Bool) (ready : Ready s)
    (calm : s.Calm host project) :
    let ended := from_ (stagesReported host project verbose) s
    (ended.1 = .ok () ∧ ¬ ended.2.WasCut host ∧
        ∃ status, ended.2.report.status = some status ∧
          (status = .pass ↔ Passes host project verbose s ended.2)) ∨
      ∃ fault, ended.1 = .error fault ∧ fault.isFatal = false ∧
        (fault.Interrupts ↔ ended.2.WasCut host) ∧ ended.2.report.status = none ∧
        ended.2.report.fatalErrors = [] := by
  have ends : StagesEnd host project verbose s _ _ := stages_end ready.live ready.open_
  obtain ⟨log, console, reported⟩ := from_stagesReported host project verbose ready.live ready.open_
  obtain ⟨w, -, starts⟩ := starts_plan host project verbose ready
  have begun := starts (ready.going host)
  dsimp only
  rw [reported]
  generalize from_ (stages host project verbose) s = ended at ends ⊢
  obtain ⟨fault | done, t⟩ := ended
  · rw [ends.upTo_eq] at begun
    dsimp only
    cases fatal : fault.isFatal with
    | false =>
        have none : s.report.fatalErrors = [] := by
          obtain ⟨root, now, start⟩ := ready.report
          rw [start]
          rfl
        exact .inr ⟨fault, rfl, fatal, begun.2, ends.status_eq.trans ready.open_,
          ends.fatalErrors_eq.trans none⟩
    | true =>
        have uncut : ¬ t.WasCut host := fun cut => by
          have asked := begun.2.mpr cut
          cases fault with
          | interrupted label => cases fatal
          | _ => exact asked
        refine .inl ⟨rfl, uncut, .fail, ?_, nofun, fun passes => ?_⟩
        · exact Report.closing_blaming _ [fault.entry] host.timeOfDay nofun
        · obtain ⟨stage, missing⟩ := unbuilt_of_fatal ready calm ends fatal
          obtain ⟨artifact, present, -⟩ := passes.built stage
          cases missing.symm.trans present
  · cases ends with
    | @checked zero one m u t results log builtZero builtOne reached _ _ report =>
        rw [reached, ready.endings] at begun
        obtain ⟨going, -, _, same, -, accounts⟩ := begun
        rw [List.nil_append] at same
        subst same
        obtain ⟨root, now, start⟩ := ready.report
        have harmless : t.report.hasFatal = false := by
          rw [report, start]
          exact accounts.fatal
        have passes := passes_iff_of_accounts ready builtZero builtOne going.uncut
          (by rw [report]; rfl) accounts
        refine .inl ⟨rfl, going.uncut, _, rfl, Iff.trans ?_ (passes.symm.trans
          ⟨fun passes => passes.congr rfl rfl, fun passes => passes.congr rfl rfl⟩)⟩
        rw [Report.hasFatal_blaming, harmless, Bool.or_false, ← neverRan_eq_nil_iff]
        cases neverRan results Stage.all <;> simp

/-! ## The whole run -/

/-- A run announces a status in its report, in the document and at the end of what it prints. -/
structure Announces (t : Session) (status : Status) : Prop where
  fixed : t.report.status = some status
  document : t.report.document.member? "overall_status" = some (.text status.key)
  banner : ∃ before : Text, t.console = before ++ .char '\n' :: Report.banner status

/-- What the exit code of a run says that takes its stages from the first state and ends in the
second one. -/
structure Verdict (host : Host) (project : Project) (verbose : Bool) (s t : Session) (code : Nat) :
    Prop where
  zero : code = 0 ↔ Passes host project verbose s t
  /-- A run that was not asked to stop has no other code than one for a failure. -/
  one : ¬ t.WasCut host → code ≠ 0 → code = 1
  announced : ∃ status, Announces t status ∧ (code = 0 ↔ status = .pass) ∧
    (t.WasCut host → status = .fail)

theorem announces_of_printed {status : Status} {before : Text} (fixed : t.report.status = some status)
    (printed : t.console = before ++ t.report.plainText.onConsole) : Announces t status := by
  refine ⟨fixed, ?_, ?_⟩
  · have named : t.report.document.member? "overall_status" =
        some (.ofOption (fun (status : Status) => .text status.key) t.report.status) := rfl
    rw [named, fixed]
    rfl
  · obtain ⟨first, shown⟩ := Report.onConsole_plainText t.report
    have status_ : t.report.shownStatus = status := by rw [Report.shownStatus, fixed]; rfl
    rw [printed, shown, status_, ← List.append_assoc]
    exact ⟨_, rfl⟩

theorem closed_status (host : Host) {report : Report} (open_ : report.status = none) :
    (closed host report).status = some .fail := by
  have unfinished : report.finalized = false := by rw [Report.finalized, open_]; rfl
  unfold closed
  rw [unfinished]
  rfl

theorem stoppedCode_ne_zero (received : Option Signal) : stoppedCode received ≠ 0 := by
  rcases received with _ | _ | _ <;> decide

theorem Opened.unmade {disk : Disk} (opened : Opened host options disk project s) :
    (taken s).scratch.workdir = none := by
  unfold taken
  split <;> rw [opened.scratch] <;> rfl

/-- A run starts out calm. -/
theorem Opened.calm {disk : Disk} (opened : Opened host options disk project s) :
    (taken s).Calm host project := by
  have ready := opened.ready
  refine ⟨ready.live, (ready.going host).uncut, fun w present => ?_, fun directory present => ?_⟩
  · cases opened.unmade.symm.trans present
  · cases ready.testDir.symm.trans present

/-- After the scratch space the status is fixed, unless the run ends with a fault that is neither
a request to stop nor fatal. The answer tells whether the run was asked to stop. -/
theorem stagesScoped_cases {disk : Disk} (opened : Opened host options disk project s)
    (handles : options.handlesSignals = true) :
    match from_ (stagesScoped host project options.verbose) s with
    | (.ok stopped, t) =>
      (stopped = true ↔ t.WasCut host) ∧
        ∃ status, t.report.status = some status ∧ (stopped = true → status = .fail) ∧
          (status = .pass ↔ Passes host project options.verbose (taken s) t)
    | (.error fault, _) => ¬ fault.Interrupts ∧ fault.isFatal = false := by
  have live := opened.live
  have settled : (torn (staged host options project s)).Settled := ⟨opened.handled handles, rfl⟩
  obtain ⟨-, -, launches, recorded⟩ := pass_frame host (staged host options project s)
  have faults : ∀ fault, (pass host (staged host options project s)).1 = .error fault →
      ∃ other, fault = .file other := fun _ => file_of_pass settled
  obtain ⟨log, within⟩ := from_stages_within host options project live
  obtain ⟨result, log', console, report, ended, fine, asked, stops⟩ :=
    from_stagesScoped host project options.verbose s
  have cases := stagesReported_cases host project options.verbose opened.ready opened.calm
  rw [within] at ended fine asked stops
  rw [ended]
  dsimp only at cases fine asked stops
  unfold staged at launches recorded faults fine asked stops ⊢
  generalize from_ (stagesReported host project options.verbose) (taken s) = reported at *
  generalize pass host reported.2 = passed at *
  rcases passed with ⟨fault | done, u⟩
  · obtain ⟨other, rfl⟩ := faults fault rfl
    obtain ⟨rfl, -⟩ := stops _ rfl id
    exact ⟨id, rfl⟩
  · rcases cases with ⟨well, uncut, status, fixed, passes⟩ | ⟨fault, stopped, mild, cut, open_, -⟩
    · obtain ⟨rfl, rfl⟩ := fine well
      refine ⟨⟨nofun, fun cut => ?_⟩, status, ?_, nofun, passes.trans ?_⟩
      · exact absurd ((Session.wasCut_congr launches).mp cut) uncut
      · exact (congrArg Report.status recorded).trans fixed
      · have artifacts := congrArg Report.artifacts recorded
        exact ⟨fun passes => passes.congr launches artifacts,
          fun passes => passes.congr launches.symm artifacts.symm⟩
    · by_cases interrupts : fault.Interrupts
      · obtain ⟨rfl, rfl⟩ := asked fault stopped interrupts
        have wasCut := (Session.wasCut_congr launches).mpr (cut.mp interrupts)
        refine ⟨⟨fun _ => wasCut, fun _ => rfl⟩, .fail, ?_, fun _ => rfl, nofun,
          fun passes => absurd wasCut passes.uncut⟩
        exact closed_status host ((congrArg Report.status recorded).trans open_)
      · obtain ⟨rfl, -⟩ := stops fault stopped interrupts
        exact ⟨interrupts, mild⟩

theorem exitCode_of_status {report : Report} {status : Status} (fixed : report.status = some status) :
    report.exitCode = .ok (if status = .pass then 0 else 1) := by
  unfold Report.exitCode
  rw [fixed]
  cases status <;> rfl

/-- The rest of a run whose stages ended with a status: it is announced and gives the exit code,
unless the report cannot be printed or saved. -/
theorem verifyProject_of_status {stopped : Bool} {status : Status}
    (ended : from_ (stagesScoped host project options.verbose) s = (.ok stopped, t))
    (fixed : t.report.status = some status) :
    match from_ (verifyProject host options project) s with
    | (.ok code, u) =>
      Announces u status ∧ u.launches = t.launches ∧ u.scratch = t.scratch ∧
        u.report.artifacts = t.report.artifacts ∧
        code = if stopped then stoppedCode t.scratch.received else if status = .pass then 0 else 1
    | (.error fault, _) => ∃ inner, fault = .file inner ∧
      (t.report.unprintable? = some inner ∨
        ∃ path, options.reportFile = some path ∧ t.disk.Unsaved host.cwd path inner) := by
  have rest := from_verifyProject host options project s
  rw [ended] at rest
  obtain ⟨result, disk, log, console, reached, -, outcome⟩ := rest
  have same : (completed t).status = some status := by rw [completed_eq]; exact fixed
  rw [reached]
  split at outcome
  · rename_i fault unprintable
    subst outcome
    exact ⟨fault, rfl, .inl unprintable⟩
  · obtain ⟨rfl, ⟨path, fault, file, unsaved, rfl⟩ | rfl⟩ := outcome
    · exact ⟨fault, rfl, .inr ⟨path, file, unsaved⟩⟩
    · rw [exitCode_of_status same]
      have artifacts : (completed t).artifacts = t.report.artifacts := by rw [completed_eq]
      cases stopped with
      | true => exact ⟨announces_of_printed same rfl, rfl, rfl, artifacts, rfl⟩
      | false => exact ⟨announces_of_printed same rfl, rfl, rfl, artifacts, rfl⟩

/-- A run of a project that was opened ends with its verdict. Requests to stop and fatal faults do
not come out of it. -/
theorem verifyProject_verdict {disk : Disk} (opened : Opened host options disk project s)
    (handles : options.handlesSignals = true) :
    match from_ (verifyProject host options project) s with
    | (.ok code, t) => Verdict host project options.verbose (taken s) t code
    | (.error fault, _) => ¬ fault.Interrupts ∧ fault.isFatal = false := by
  have cases := stagesScoped_cases opened handles
  rcases reached : from_ (stagesScoped host project options.verbose) s with ⟨fault | stopped, t⟩
  · have rest := from_verifyProject host options project s
    rw [reached] at cases rest
    dsimp only at rest
    rw [rest]
    exact cases
  · rw [reached] at cases
    obtain ⟨cut, status, fixed, failed, passes⟩ := cases
    have rest := verifyProject_of_status reached fixed
    generalize from_ (verifyProject host options project) s = ended at rest ⊢
    rcases ended with ⟨fault | code, u⟩
    · obtain ⟨inner, rfl, -⟩ := rest
      exact ⟨id, rfl⟩
    · obtain ⟨announces, launches, -, artifacts, rfl⟩ := rest
      rw [← Session.wasCut_congr launches] at cut
      have passesThen : status = .pass ↔ Passes host project options.verbose (taken s) u :=
        passes.trans ⟨fun passes => passes.congr launches artifacts,
          fun passes => passes.congr launches.symm artifacts.symm⟩
      cases stopped with
      | true =>
          obtain rfl := failed rfl
          have zero : stoppedCode t.scratch.received = 0 ↔ Status.fail = .pass :=
            iff_of_false (stoppedCode_ne_zero _) nofun
          exact ⟨zero.trans passesThen, fun uncut => absurd (cut.mp rfl) uncut, .fail, announces,
            zero, fun _ => rfl⟩
      | false =>
          have zero : (if status = .pass then 0 else 1) = 0 ↔ status = .pass := by
            cases status <;> simp
          exact ⟨zero.trans passesThen, fun _ => by cases status <;> simp, status, announces, zero,
            fun wasCut => nomatch cut.mpr wasCut⟩

/-- Whatever the project, its layout and the commands do, the exit code of a run that takes over
the signals says whether it passed, and so does all that it announces. -/
theorem verify_verdict (host : Host) (options : RunOptions) (disk : Disk) (base : Option Path)
    (handles : Bool) :
    let signalling := { options with handlesSignals := true }
    let start := Session.start disk (Scratch.fresh base handles)
    let ended := from_ (verify host signalling) start
    match from_ (openProject host signalling) start with
    | (.ok (some project), opened) =>
      match ended with
      | (.ok code, t) => Verdict host project options.verbose (taken opened) t code
      | (.error fault, _) => ¬ fault.Interrupts ∧ fault.isFatal = false
    | (.ok none, _) => ended.1 = .ok 1
    | (.error fault, _) => ended.1 = .error fault := by
  intro signalling start ended
  rcases verify_opened host signalling disk (Scratch.fresh base handles) with
    ⟨log, console, -, missing⟩ | ⟨project, t, opening, opened, same⟩
  · rcases opening : from_ (openProject host signalling) start with ⟨fault | found, t⟩
    · exact congrArg Prod.fst (from_bind_error opening _)
    · cases found with
      | some project => exact absurd opening (missing project t)
      | none => exact congrArg Prod.fst (from_bind_ok opening _)
  · have verdict := verifyProject_verdict opened rfl
    rw [← same] at verdict
    rw [opening]
    exact verdict

end Run

end StageParity
