import StageParity.Proofs.StageReports

/-!
# The order of the commands

The commands of a run are the first ones of its plan. Each of them is started once, in the
directory of the project; a build that fails is the last one, and the results of the checks
are recorded in the order of the checks.
-/

namespace StageParity

open Relation (ReflTransGen)

/-- Every command is started in the directory of the project as it then is. -/
theorem Deed.place {host : Host} {project : Project} {s t : Session}
    (deeds : ReflTransGen (Deed host project) s t) (none : s.launches = []) (launch : Launch)
    (member : launch ∈ t.launches) :
    ∃ cwd, launch.disk.resolve host.cwd project.root = .ok cwd ∧
      launch.invocation.cwd = some cwd := by
  induction deeds with
  | refl =>
      rw [none] at member
      cases member
  | tail _ deed ih =>
      rcases deed with (deed | @⟨invocation, cwd, sent, resolved, place⟩ | _) | _ | _
      · cases deed <;> exact ih member
      · rcases List.mem_append.mp member with before | new
        · exact ih before
        · rw [List.mem_singleton.mp new]
          exact ⟨cwd, resolved, place⟩
      all_goals exact ih member

namespace Session

variable {host : Host} {s t : Session}

theorem length_commands (s : Session) : s.commands.length = s.launches.length :=
  List.length_map _

theorem length_endings (host : Host) (s : Session) :
    (s.endings host).length = s.launches.length :=
  List.length_mapIdx

theorem endings_prefix (host : Host) (grown : s.launches <+: t.launches) :
    s.endings host <+: t.endings host := by
  obtain ⟨more, same⟩ := grown
  unfold endings
  rw [← same, List.mapIdx_append]
  exact List.prefix_append _ _

end Session

namespace Findings

theorem build_lt {found : Findings} {nth : Nat} {stage : Stage}
    (planned : found.plan[nth]? = some (.build stage)) : nth < found.builds.length := by
  rcases Nat.lt_or_ge nth found.builds.length with near | far
  · exact near
  · rw [plan, List.getElem?_append_right far] at planned
    obtain ⟨kind, -, errand⟩ := List.mem_flatMap.mp (List.mem_of_getElem? planned)
    unfold errands at errand
    split at errand
    · obtain ⟨_, -, other⟩ := List.mem_map.mp errand
      cases other
    · cases errand

theorem length_builds_le (found : Findings) : found.builds.length ≤ 2 := by
  unfold builds
  split <;> simp

end Findings

namespace Run

variable {host : Host} {options : RunOptions} {project : Project} {verbose : Bool} {s t : Session}

/-- A state from which the stages can be taken. -/
structure Ready (s : Session) : Prop where
  live : s.scratch.tornDown = false
  launches : s.launches = []
  testDir : s.testDir = none
  samples : s.samples = ⟨none, none⟩
  report : ∃ root now, s.report = Report.start root now

theorem Ready.going (ready : Ready s) (host : Host) : s.Going host := by
  refine ⟨ready.live, ?_⟩
  rintro ⟨reason, member⟩
  rw [Session.endings, ready.launches] at member
  cases member

theorem Ready.commands (ready : Ready s) : s.commands = [] := by
  rw [Session.commands, ready.launches]
  rfl

theorem Ready.endings (ready : Ready s) (host : Host) : s.endings host = [] := by
  rw [Session.endings, ready.launches]
  rfl

theorem Ready.open_ (ready : Ready s) : s.report.status = none := by
  obtain ⟨root, now, report⟩ := ready.report
  rw [report]
  rfl

/-- How a run keeps to its plan that takes its stages from the first state and ends in the
second one. -/
structure Follows (host : Host) (project : Project) (verbose : Bool) (s t : Session) : Prop where
  /-- The commands are the first ones of the plan. -/
  order : ∃ w, (∀ v, t.scratch.workdir = some v → v = w) ∧
    t.commands <+: (findings host project verbose s).plan.map (Errand.argv project w)
  /-- Each command is started in the directory of the project. -/
  place : ∀ launch ∈ t.launches, ∃ cwd, launch.disk.resolve host.cwd project.root = .ok cwd ∧
    launch.invocation.cwd = some cwd
  /-- Without a toolchain nothing is started. -/
  toolless : Toolchain.find? s.disk host.cwd (Toolchain.searchPath host.bindings)
    project.layout.toolchain = none → t.launches = []
  /-- A build that another command comes after exited with zero. -/
  exited : ∀ nth stage, (findings host project verbose s).plan[nth]? = some (.build stage) →
    nth + 1 < t.launches.length → (t.endings host)[nth]? = some (.exited 0)
  /-- Nothing is started after the build of stage zero unless that compiler was recorded. -/
  zeroMissing : t.report.artifacts.zero = none → t.launches.length ≤ 1
  /-- Nothing is started after the builds unless stage one was recorded. -/
  oneMissing : t.report.artifacts.one = none →
    t.launches.length ≤ (findings host project verbose s).builds.length
  /-- The results come in the order of the checks. -/
  checks : t.report.results.map CheckResult.kind <+: CheckKind.order
  /-- Stages that end well have started the whole plan and recorded all results. -/
  complete : (from_ (stages host project verbose) s).1 = .ok () →
    t.launches.length = (findings host project verbose s).plan.length ∧
      t.report.results.map CheckResult.kind = CheckKind.order

/-- The working directory that stage zero was built in stays the one. -/
theorem workdir_of_stageZero {zero : Artifact} {m : Session} {w : Path}
    (built : from_ (stageZero host project) s = (.ok zero, m)) (present : m.scratch.workdir = some w) :
    (from_ (stages host project verbose) s).2.scratch.workdir = some w := by
  have rest : Doing host project m (do
      let one ← stageOne host project zero
      let _ ← checkAll host project ⟨zero, one⟩ (printCheckEvent verbose)) :=
    Doing.bind doing_stageOne fun _ _ _ _ =>
      Doing.bind (doing_checkAll (talks_printCheckEvent verbose) _) fun _ _ _ _ => Abides.pure _
  have reached : from_ (stages host project verbose) s = _ := from_bind_ok built _
  rw [reached]
  exact (Deed.extends_of_deeds rest.1).2 w present

/-- The stages start the commands of the plan one after the other, with the working directory of
the run if it has one. -/
theorem starts_plan (host : Host) (project : Project) (verbose : Bool) (ready : Ready s) :
    ∃ w, (∀ v, (from_ (stages host project verbose) s).2.scratch.workdir = some v → v = w) ∧
      Starts host s (upTo host project verbose CheckKind.order)
        ((findings host project verbose s).plan.map (Errand.argv project w))
        (findings host project verbose s).Accounts := by
  refine ⟨(from_ (stages host project verbose) s).2.scratch.workdir.getD project.root,
    fun v present => by rw [present]; rfl, starts_upTo ready.testDir ready.samples ?_⟩
  intro zero m v built present
  rw [workdir_of_stageZero built present]
  rfl

theorem commands_stages {result : Except Fault Unit} (ready : Ready s)
    (ended : from_ (stages host project verbose) s = (result, t)) :
    ∃ w, (∀ v, t.scratch.workdir = some v → v = w) ∧
      t.commands <+: (findings host project verbose s).plan.map (Errand.argv project w) ∧
      (result = .ok () → t.launches.length = (findings host project verbose s).plan.length) := by
  have ends : StagesEnd host project verbose s _ _ := stages_end ready.live ready.open_
  obtain ⟨w, workdir, starts⟩ := starts_plan host project verbose ready
  rw [ended] at ends workdir
  refine ⟨w, workdir, ?_⟩
  have begun := starts (ready.going host)
  rw [ready.commands] at begun
  cases result with
  | error fault =>
      rw [ends.upTo_eq] at begun
      obtain ⟨⟨first, before, commands⟩, -⟩ := begun
      exact ⟨commands ▸ before, nofun⟩
  | ok done =>
      cases ends with
      | checked _ _ reached _ _ _ =>
          rw [reached] at begun
          obtain ⟨-, commands, -⟩ := begun
          refine ⟨⟨[], (List.append_nil _).trans commands⟩, fun _ => ?_⟩
          have count := congrArg List.length commands
          rw [Session.length_commands, List.nil_append, List.length_map] at count
          exact count

/-- Without a toolchain stage zero is not built, and nothing is started. -/
theorem stageZero_of_toolless (missing : Toolchain.find? s.disk host.cwd
      (Toolchain.searchPath host.bindings) project.layout.toolchain = none) :
    ∃ fault t, from_ (stageZero host project) s = (.error fault, t) ∧ t.launches = s.launches := by
  obtain ⟨log, console, commandEvents, checkEvents, said⟩ :=
    talks_printStep 1 "Building Stage 0 Compiler (trusted toolchain)" s
  have failed : ∃ fault log', from_ (probe host project.layout.toolchain project.layout.installHint)
      { s with log, console, commandEvents, checkEvents } =
        (.error fault, { s with log := log', console, commandEvents, checkEvents }) := by
    unfold probe
    rw [from_get_bind]
    dsimp only
    rw [missing]
    exact ⟨_, _, rfl⟩
  obtain ⟨fault, log', failed⟩ := failed
  exact ⟨fault, _, (from_bind_ok said _).trans (from_bind_error failed _), rfl⟩

/-- Once stage zero is built its command has exited with zero. -/
theorem account_of_stageZero {zero : Artifact} {m : Session} (ready : Ready s)
    (built : from_ (stageZero host project) s = (.ok zero, m)) :
    m.Going host ∧ m.endings host = [.exited 0] := by
  have begun : Starts host s (stageZero host project) _ _ := starts_stageZero
  have account := begun (ready.going host)
  rw [built, ready.endings] at account
  obtain ⟨going, -, endings, same, -, exited⟩ := account
  exact ⟨going, same.trans exited⟩

/-- The part of the plan that builds stage one. -/
theorem starts_one (verbose : Bool) {zero : Artifact} {m : Session}
    (built : from_ (stageZero host project) s = (.ok zero, m)) :
    ∃ commands : List (List Text),
      1 + commands.length = (findings host project verbose s).builds.length ∧
      Starts host m (stageOne host project zero) commands fun _ endings =>
        ∀ ending ∈ endings, ending = .exited 0 := by
  obtain ⟨-, zeroBuilt, w, workdir, path⟩ := stageZero_ok built
  refine ⟨_, ?_, starts_stageOne zeroBuilt path workdir⟩
  have found : (findings host project verbose s).source = m.disk.hasFile host.cwd project.source :=
    after_ok built _
  rw [Findings.builds, found]
  split <;> rfl

/-- Once both compilers are built, all builds have exited with zero. -/
theorem account_of_builds (verbose : Bool) {zero one : Artifact} {m u : Session} (ready : Ready s)
    (builtZero : from_ (stageZero host project) s = (.ok zero, m))
    (builtOne : from_ (stageOne host project zero) m = (.ok one, u)) :
    (u.endings host).length = (findings host project verbose s).builds.length ∧
      ∀ ending ∈ u.endings host, ending = .exited 0 := by
  obtain ⟨going, first⟩ := account_of_stageZero ready builtZero
  obtain ⟨commands, count, begun⟩ := starts_one verbose builtZero
  have account := begun going
  rw [builtOne, first] at account
  obtain ⟨-, -, endings, same, number, exited⟩ := account
  rw [same]
  refine ⟨by rw [List.length_append, number, ← count]; rfl, fun ending member => ?_⟩
  rcases List.mem_append.mp member with old | new
  · exact List.mem_singleton.mp old
  · exact exited ending new

theorem launches_of_zeroFails {fault : Fault} (ready : Ready s)
    (failed : from_ (stageZero host project) s = (.error fault, t)) : t.launches.length ≤ 1 := by
  have begun : Starts host s (stageZero host project) _ _ := starts_stageZero
  have account := begun (ready.going host)
  rw [failed, ready.commands] at account
  obtain ⟨⟨first, before, same⟩, -⟩ := account
  rw [← Session.length_commands, same]
  exact before.length_le

theorem launches_of_oneFails (verbose : Bool) {fault : Fault} {zero : Artifact} {m : Session}
    (ready : Ready s)
    (built : from_ (stageZero host project) s = (.ok zero, m))
    (failed : from_ (stageOne host project zero) m = (.error fault, t)) :
    t.launches.length ≤ (findings host project verbose s).builds.length ∧
      (t.endings host)[0]? = some (.exited 0) := by
  obtain ⟨going, first⟩ := account_of_stageZero ready built
  obtain ⟨commands, count, begun⟩ := starts_one verbose built
  have account := begun going
  rw [failed] at account
  obtain ⟨⟨some, before, same⟩, -⟩ := account
  have one : m.launches.length = 1 := by rw [← Session.length_endings host, first]; rfl
  constructor
  · rw [← Session.length_commands, same, List.length_append, Session.length_commands, one, ← count]
    exact Nat.add_le_add_left before.length_le 1
  · obtain ⟨rest, grown⟩ := Session.endings_prefix host
      (Deed.extends_of_deeds (doing_stageOne.deeds failed)).1
    rw [← grown, first]
    rfl

/-- Every build that another command comes after exited with zero. -/
theorem exited_of_end {result : Except Fault Unit} {nth : Nat} {stage : Stage} (ready : Ready s)
    (ends : StagesEnd host project verbose s result t)
    (planned : (findings host project verbose s).plan[nth]? = some (.build stage))
    (followed : nth + 1 < t.launches.length) : (t.endings host)[nth]? = some (.exited 0) := by
  have near := Findings.build_lt planned
  have all : ∀ {zero one : Artifact} {m u : Session},
      from_ (stageZero host project) s = (.ok zero, m) →
      from_ (stageOne host project zero) m = (.ok one, u) → u.launches <+: t.launches →
      (t.endings host)[nth]? = some (.exited 0) := by
    intro zero one m u builtZero builtOne grown
    obtain ⟨count, exited⟩ := account_of_builds verbose ready builtZero builtOne
    obtain ⟨rest, same⟩ := Session.endings_prefix host grown
    have early : nth < (u.endings host).length := count ▸ near
    rw [← same, List.getElem?_append_left early, List.getElem?_eq_getElem early,
      exited _ (List.getElem_mem early)]
  cases ends with
  | zeroFails failed _ =>
      have few := launches_of_zeroFails ready failed
      omega
  | oneFails built failed _ =>
      obtain ⟨few, first⟩ := launches_of_oneFails verbose ready built failed
      have two := (findings host project verbose s).length_builds_le
      obtain rfl : nth = 0 := by omega
      exact first
  | checkFails builtZero builtOne _ deeds _ _ =>
      exact all builtZero builtOne (Deed.extends_of_deeds deeds).1
  | checked builtZero builtOne _ deeds _ _ =>
      exact all builtZero builtOne (Deed.extends_of_deeds deeds).1

/-- Stages keep to the plan. -/
theorem follows_stages {result : Except Fault Unit} (ready : Ready s)
    (ended : from_ (stages host project verbose) s = (result, t)) :
    Follows host project verbose s t := by
  have ends : StagesEnd host project verbose s _ _ := stages_end ready.live ready.open_
  have deeds := (doing_stages verbose : Doing host project s _).deeds ended
  have toolless : Toolchain.find? s.disk host.cwd (Toolchain.searchPath host.bindings)
      project.layout.toolchain = none → t.launches = [] := fun missing => by
    obtain ⟨fault, u, failed, same⟩ := stageZero_of_toolless missing
    have reached : from_ (stages host project verbose) s = (.error fault, u) := from_bind_error failed _
    cases ended.symm.trans reached
    exact same.trans ready.launches
  obtain ⟨w, workdir, order, whole⟩ := commands_stages ready ended
  obtain ⟨root, now, start⟩ := ready.report
  rw [ended] at ends
  refine ⟨⟨w, workdir, order⟩, Deed.place deeds ready.launches, toolless,
    fun _ _ => exited_of_end ready ends, ?_, ?_, ?_, ?_⟩
  · intro missing
    cases ends with
    | zeroFails failed _ => exact launches_of_zeroFails ready failed
    | oneFails _ _ report => rw [report] at missing; cases missing
    | checkFails _ _ _ _ _ report => rw [report] at missing; cases missing
    | checked _ _ _ _ _ report => dsimp only at missing; rw [report] at missing; cases missing
  · intro missing
    cases ends with
    | zeroFails failed _ =>
        exact Nat.le_trans (launches_of_zeroFails ready failed) (Nat.le_add_left 1 _)
    | oneFails built failed _ => exact (launches_of_oneFails verbose ready built failed).1
    | checkFails _ _ _ _ _ report => rw [report] at missing; cases missing
    | checked _ _ _ _ _ report => dsimp only at missing; rw [report] at missing; cases missing
  · cases ends with
    | zeroFails _ report => rw [report, start]; exact List.nil_prefix
    | oneFails _ _ report => rw [report, start]; exact List.nil_prefix
    | checkFails _ _ _ _ first report => rw [report, start]; exact first
    | checked _ _ _ _ all report =>
        dsimp only
        rw [report, start]
        exact ⟨[], (List.append_nil _).trans all⟩
  · intro fine
    rw [ended] at fine
    refine ⟨whole fine, ?_⟩
    cases fine
    cases ends with
    | checked _ _ _ _ all report => dsimp only; rw [report, start]; exact all

theorem Follows.congr {u : Session} (follows : Follows host project verbose s t)
    (workdir : u.scratch.workdir = t.scratch.workdir) (launches : u.launches = t.launches)
    (artifacts : u.report.artifacts = t.report.artifacts)
    (results : u.report.results = t.report.results) : Follows host project verbose s u := by
  have commands : u.commands = t.commands := by unfold Session.commands; rw [launches]
  have endings : u.endings host = t.endings host := Session.endings_congr host launches
  obtain ⟨order, place, toolless, exited, zeroMissing, oneMissing, checks, complete⟩ := follows
  constructor
  · rwa [workdir, commands]
  · rwa [launches]
  · rwa [launches]
  · rwa [launches, endings]
  · rwa [launches, artifacts]
  · rwa [launches, artifacts]
  · rwa [results]
  · rwa [launches, results]

/-- A project that has just been opened is ready for its stages. -/
theorem Opened.ready {disk : Disk} (opened : Opened host options disk project s) :
    Ready (taken s) := by
  have live : (taken s).scratch.tornDown = false := by
    rw [taken_scratch_tornDown, opened.scratch]
    rfl
  refine ⟨live, ?_, ?_, ?_, project.root.text, host.timeOfDay, ?_⟩
  · unfold taken
    split <;> exact opened.launches
  · unfold taken
    split <;> exact opened.testDir
  · unfold taken
    split <;> exact opened.samples
  · unfold taken
    split <;> exact opened.report

/-- Closing the report leaves alone what was started and recorded. -/
theorem staged_frame (host : Host) (options : RunOptions) (project : Project)
    (ready : Ready (taken s)) :
    let ended := from_ (stages host project options.verbose) (taken s)
    (staged host options project s).scratch = ended.2.scratch ∧
      (staged host options project s).launches = ended.2.launches ∧
      (staged host options project s).report.artifacts = ended.2.report.artifacts ∧
      (staged host options project s).report.results = ended.2.report.results := by
  obtain ⟨log, console, reported⟩ :=
    from_stagesReported host project options.verbose ready.live ready.open_
  unfold staged
  rw [reported]
  dsimp only
  rcases from_ (stages host project options.verbose) (taken s) with ⟨fault | done, t⟩
  · dsimp only
    split <;> exact ⟨rfl, rfl, rfl, rfl⟩
  · exact ⟨rfl, rfl, rfl, rfl⟩

/-- Whatever the project, its layout and the commands do, a run keeps to its plan; without a
project nothing is started. -/
theorem verify_follows_plan (host : Host) (options : RunOptions) (disk : Disk) (base : Option Path)
    (handles : Bool) :
    let start := Session.start disk (Scratch.fresh base handles)
    let ended := from_ (verify host options) start
    match from_ (openProject host options) start with
    | (.ok (some project), opened) => Follows host project options.verbose (taken opened) ended.2
    | _ => ended.2.launches = [] := by
  intro start ended
  rcases verify_opened host options disk (Scratch.fresh base handles) with
    ⟨log, console, same, missing⟩ | ⟨project, t, opening, opened, same⟩
  · have reached : ended.2 = { start with log, console } := same
    split
    · rename_i project opened opening
      exact absurd opening (missing project opened)
    · rw [reached]
      rfl
  · have ready := opened.ready
    have reached : ended = from_ (verifyProject host options project) t := same
    have live := opened.live
    rw [opening]
    dsimp only
    rw [reached]
    obtain ⟨scratch, launches, -, ⟨artifacts, results⟩, -⟩ :=
      verifyProject_course host options project live
    obtain ⟨-, workdir, passed, report⟩ := pass_frame host (staged host options project t)
    obtain ⟨kept, launched, built, checked⟩ := staged_frame host options project ready
    refine (follows_stages ready rfl).congr ?_ ?_ ?_ ?_
    · rw [scratch]
      exact workdir.trans (congrArg Scratch.workdir kept)
    · exact launches.trans (passed.trans launched)
    · exact artifacts.trans ((congrArg Report.artifacts report).trans built)
    · exact results.trans ((congrArg Report.results report).trans checked)

end Run

end StageParity
