import StageParity.Proofs.Teardown

/-!
# The course of a run

A run of a project that is there takes over the signals, does its deeds, makes one pass over
the tracked paths, gives the signals back, and reports. This module says what each part
leaves as it was, and what a whole run leaves behind.
-/

namespace StageParity

/-- The second disk is the first one after the report was put there, as far as that went. -/
inductive Disk.Gets (cwd : Location) (file : Option Path) (d : Disk) : Disk → Prop where
  | nothing : Gets cwd file d d
  | directories {path : Path} :
      file = some path → Gets cwd file d (d.makeDirectories cwd path.names.length path.parent).1
  | written {path : Path} {data : List UInt8} {after : Disk} :
      file = some path →
      (d.makeDirectories cwd path.names.length path.parent).1.writeFile cwd path data = .ok after →
      Gets cwd file d after

/-- The fault for which a report cannot be put on a disk, at its directories or at itself. -/
def Disk.Unsaved (cwd : Location) (path : Path) (d : Disk) (fault : FileFault) : Prop :=
  let made := d.makeDirectories cwd path.names.length path.parent
  made.2 = some fault ∨ ∃ data, made.1.writeFile cwd path data = .error fault

open Relation (ReflTransGen)

/-- The paths that a scratch space tracks: none before there is a working directory, and then
that directory and paths that were handed out under the given names. -/
structure Scratch.Tracks (names : List Text) (s : Scratch) : Prop where
  before : s.workdir = none → s.tracked = []
  since : ∀ w, s.workdir = some w → w.Proper ∧ Disk.misnamed? w = none ∧
    ∃ rest, s.tracked = w :: rest ∧ ∀ path ∈ rest, ∃ name ∈ names, path = w.child name

namespace Deed

variable {host : Host} {project : Project} {s t : Session}

/-- Deeds leave the handlers, the failures and the state of the scratch space alone. -/
theorem frame (deeds : ReflTransGen (Deed host project) s t) :
    t.handler = s.handler ∧ t.scratch.tornDown = s.scratch.tornDown ∧
      t.scratch.failures = s.scratch.failures := by
  induction deeds with
  | refl => exact ⟨rfl, rfl, rfl⟩
  | tail _ deed ih =>
      rcases deed with (deed | ⟨resolved, place⟩ | _) | _ | _
      · cases deed with
        | makeWorkdir live none proper made => simpa using ih
        | handOut live some known => simpa using ih
        | _ => exact ih
      all_goals exact ih

/-- Paths stay tracked, commands stay started, and a working directory stays the one. -/
theorem extends_ (deed : Deed host project s t) :
    (∀ path ∈ s.scratch.tracked, path ∈ t.scratch.tracked) ∧ s.launches <+: t.launches ∧
      ∀ w, s.scratch.workdir = some w → t.scratch.workdir = some w := by
  rcases deed with (deed | ⟨resolved, place⟩ | _) | _ | _
  · cases deed with
    | makeWorkdir live absent proper made =>
        refine ⟨fun path member => (Scratch.mem_add _ _ _).mpr (.inl member),
          List.prefix_refl _, fun w some => ?_⟩
        rw [absent] at some
        cases some
    | handOut live some known =>
        refine ⟨fun path member => (Scratch.mem_add _ _ _).mpr (.inl member),
          List.prefix_refl _, fun w same => ?_⟩
        rw [Scratch.add_workdir]
        exact same
    | _ => exact ⟨fun _ => id, List.prefix_refl _, fun _ => id⟩
  · exact ⟨fun _ => id, List.prefix_append _ _, fun _ => id⟩
  all_goals exact ⟨fun _ => id, List.prefix_refl _, fun _ => id⟩

theorem extends_of_deeds (deeds : ReflTransGen (Deed host project) s t) :
    s.launches <+: t.launches ∧ ∀ w, s.scratch.workdir = some w → t.scratch.workdir = some w := by
  induction deeds with
  | refl => exact ⟨List.prefix_refl _, fun _ => id⟩
  | tail _ deed ih =>
      obtain ⟨-, launches, workdir⟩ := deed.extends_
      exact ⟨ih.1.trans launches, fun w present => workdir w (ih.2 w present)⟩

theorem tracks_step (deed : Deed host project s t)
    (tracks : s.scratch.Tracks project.scratchNames) : t.scratch.Tracks project.scratchNames := by
  rcases deed with (deed | ⟨resolved, place⟩ | _) | _ | _
  · cases deed with
    | @makeWorkdir w disk live absent proper made =>
        refine ⟨fun none => ?_, fun other some => ?_⟩
        · rw [Scratch.add_workdir] at none
          cases none
        · rw [Scratch.add_workdir] at some
          cases some
          refine ⟨proper, ?_, [], ?_, nofun⟩
          · obtain ⟨directory, name, free, -⟩ := Disk.makeDirectory_eq_ok made
            exact (Disk.locate_eq_ok_iff.mp free).1.named
          · simp [Scratch.add, tracks.before absent]
    | @handOut w name live some known =>
        obtain ⟨proper, named, rest, all, children⟩ := tracks.since w some
        refine ⟨fun none => ?_, fun other same => ?_⟩
        · rw [Scratch.add_workdir, some] at none
          cases none
        · rw [Scratch.add_workdir, some] at same
          cases same
          unfold Scratch.add
          split
          · exact ⟨proper, named, rest, all, children⟩
          · refine ⟨proper, named, rest ++ [w.child name], by rw [all]; rfl, fun path member => ?_⟩
            rcases List.mem_append.mp member with old | new
            · exact children path old
            · exact ⟨name, known, List.mem_singleton.mp new⟩
    | _ => exact tracks
  · exact tracks
  · exact ⟨tracks.before, tracks.since⟩
  all_goals exact tracks

theorem tracks (deeds : ReflTransGen (Deed host project) s t)
    (tracks : s.scratch.Tracks project.scratchNames) : t.scratch.Tracks project.scratchNames := by
  induction deeds with
  | refl => exact tracks
  | tail _ deed ih => exact deed.tracks_step ih

end Deed

namespace Run

variable {host : Host} {options : RunOptions} {project : Project} {s t : Session}

/-! ## Opening the project -/

theorem from_warnUnknown (layout : Layout) (s : Session) :
    ∃ log, from_ (warnUnknown layout) s = (.ok (), { s with log }) := by
  unfold warnUnknown
  cases layout.unknownKeys? with
  | none => exact ⟨s.log, rfl⟩
  | some message => exact ⟨_, rfl⟩

theorem from_loadLayout (host : Host) (root : Path) (s : Session) :
    ∃ result log, from_ (loadLayout host root) s = (result, { s with log }) := by
  unfold loadLayout
  dsimp only
  cases present : s.disk.isPresent host.cwd (root.child Layout.fileName) with
  | error fault => exact ⟨_, s.log, from_bind_error (from_ask_error present) _⟩
  | ok found =>
      rw [from_bind_ok (from_ask_ok present)]
      cases found with
      | false => exact ⟨_, s.log, rfl⟩
      | true =>
          simp only [Bool.not_true, Bool.false_eq_true, if_false]
          rw [from_get_bind]
          rcases Layout.readFrom s.disk host.cwd (root.child Layout.fileName) with
            fault | (_ | layout)
          · dsimp only
            split
            · exact ⟨_, _, rfl⟩
            · exact ⟨_, s.log, rfl⟩
          · exact ⟨_, s.log, rfl⟩
          · obtain ⟨log, warned⟩ := from_warnUnknown layout s
            exact ⟨_, _, (from_bind_ok warned _).trans rfl⟩

/-- A project that is there is opened with a new report and an unused scratch space;
otherwise nothing changes but what was said. -/
theorem from_openProject (host : Host) (options : RunOptions) (s : Session) :
    (∃ result log console, (∀ project, result ≠ .ok (some project)) ∧
        from_ (openProject host options) s = (result, { s with log, console })) ∨
      ∃ project log console, s.disk.resolve host.cwd options.root = .ok project.root ∧
        from_ (openProject host options) s =
          (.ok (some project),
            { s with
              log, console
              report := Report.start project.root.text host.timeOfDay
              scratch := Scratch.fresh options.tempBase options.handlesSignals }) := by
  unfold openProject
  cases resolved : s.disk.resolve host.cwd options.root with
  | error fault =>
      exact .inl ⟨.error (.file fault), s.log, s.console, nofun,
        from_bind_error (from_ask_error resolved) _⟩
  | ok root =>
      rw [from_bind_ok (from_ask_ok resolved)]
      cases there : s.disk.isDirectory host.cwd root with
      | error fault =>
          exact .inl ⟨.error (.file fault), s.log, s.console, nofun,
            from_bind_error (from_ask_error there) _⟩
      | ok found =>
          rw [from_bind_ok (from_ask_ok there)]
          cases found with
          | false => exact .inl ⟨.ok none, s.log, _, nofun, rfl⟩
          | true =>
              rw [if_pos rfl]
              obtain ⟨result, log, loaded⟩ := from_loadLayout host root s
              cases result with
              | error fault =>
                  exact .inl ⟨.error fault, log, s.console, nofun, from_bind_error loaded _⟩
              | ok layout =>
                  rw [from_bind_ok loaded]
                  exact .inr ⟨⟨root, layout⟩, _, _, rfl, rfl⟩

/-! ## The scratch space -/

/-- The state with the signals taken over, if the run is to handle them. -/
def taken (s : Session) : Session :=
  if s.scratch.handlesSignals && s.scratch.mainThread then
    { s with
      handler := fun _ => .scratch
      scratch := { s.scratch with saved := Signal.all.map fun signal => (signal, s.handler signal) } }
  else s

theorem from_takeSignals (s : Session) : from_ takeSignals s = (.ok (), taken s) := by
  unfold takeSignals taken
  rw [from_get_bind]
  dsimp only
  split <;> rfl

theorem from_withScratch {α : Type} (host : Host) (body : Run α) (s : Session) :
    from_ (withScratch host body) s =
      match from_ (leave host) (from_ body (taken s)).2 with
      | (.ok (), t) => ((from_ body (taken s)).1, t)
      | (.error fault, t) => (.error fault, t) := by
  unfold withScratch
  refine (from_bind_ok (from_takeSignals s) _).trans ((from_thenAlways _ _ _).trans ?_)
  rcases from_ (leave host) (from_ body (taken s)).2 with ⟨_ | _, _⟩ <;> rfl

/-! ## The report -/

/-- The report of a run that was stopped: it fails, unless its status was fixed already. -/
def closed (host : Host) (report : Report) : Report :=
  if report.finalized then report
  else
    { report with
      fatalErrors := report.fatalErrors ++ [Text.ofString "Run interrupted before completion"]
      completedAt := some host.timeOfDay
      status := some .fail }

theorem closed_records (host : Host) (report : Report) :
    (closed host report).artifacts = report.artifacts ∧
      (closed host report).results = report.results := by
  unfold closed
  split <;> exact ⟨rfl, rfl⟩

/-- The error that is added when a run was stopped is one line, which can be printed. -/
theorem unprintable_closed (host : Host) (report : Report) :
    (closed host report).unprintable? = report.unprintable? := by
  have whole : ((Text.ofString "Run interrupted before completion").splitFirst (.char '\n')).2 =
      none := by decide
  unfold closed
  split
  · rfl
  · simp [Report.unprintable?, List.findSome?_append, whole]

theorem from_printError (message : Text) (s : Session) :
    ∃ console, from_ (printError message) s = (.ok (), { s with console }) := ⟨_, rfl⟩

theorem from_closeInterrupted (host : Host) (s : Session) :
    ∃ log console, from_ (closeInterrupted host) s =
      (.ok (), { s with log, console, report := closed host s.report }) := by
  obtain ⟨console, said⟩ := from_printError "Interrupted; temporary files removed"
    { s with log := s.log ++ [⟨.warning, "Run interrupted"⟩] }
  refine ⟨s.log ++ [⟨.warning, "Run interrupted"⟩], console, ?_⟩
  unfold closeInterrupted closed
  rw [from_bind_ok (from_log _ _ s), from_bind_ok said, from_get_bind]
  dsimp only
  cases done : s.report.finalized with
  | true => rfl
  | false =>
      let failed : Report :=
        { s.report with
          fatalErrors := s.report.fatalErrors ++ [Text.ofString "Run interrupted before completion"] }
      have recorded : s.report.recordFatal "Run interrupted before completion" = .ok failed := by
        rw [Report.recordFatal_eq, done]
        rfl
      have finalized : failed.finalize host.timeOfDay =
          .ok { failed with completedAt := some host.timeOfDay, status := some .fail } := by
        have fatal : failed.hasFatal = true := by simp [failed, Report.hasFatal]
        have open_ : failed.finalized = false := done
        rw [Report.finalize_eq, open_, fatal]
        rfl
      let u : Session := { s with log := s.log ++ [⟨.warning, "Run interrupted"⟩], console }
      have first : from_ (onReport fun report =>
          report.recordFatal "Run interrupted before completion") u =
          (.ok (), { u with report := failed }) := from_onReport_ok recorded
      have second : from_ (onReport fun report => report.finalize host.timeOfDay)
          { u with report := failed } = _ := from_onReport_ok finalized
      exact (from_bind_ok first _).trans second

theorem from_saveReport (host : Host) (path : Path) (s : Session) :
    ∃ result disk log, from_ (saveReport host path) s = (result, { s with disk, log }) ∧
      s.disk.Gets host.cwd (some path) disk ∧
      (∀ fault, result = .error fault →
        ∃ inner, fault = .file inner ∧ s.disk.Unsaved host.cwd path inner) := by
  unfold saveReport
  rw [from_get_bind]
  dsimp only
  generalize (Text.ofString (String.ofList s.report.document.print)).encode = data
  have made := from_changePartly
    (fun disk => disk.makeDirectories host.cwd path.names.length path.parent) s
  cases refused : (s.disk.makeDirectories host.cwd path.names.length path.parent).2 with
  | some fault =>
      rw [refused] at made
      refine ⟨_, _, s.log, from_bind_error made _, .directories rfl, ?_⟩
      rintro _ ⟨⟩
      exact ⟨fault, rfl, .inl refused⟩
  | none =>
      rw [refused] at made
      rw [from_bind_ok made]
      cases written : (s.disk.makeDirectories host.cwd path.names.length path.parent).1.writeFile
          host.cwd path data with
      | error fault =>
          refine ⟨_, _, s.log, from_bind_error (from_change_error written) _, .directories rfl, ?_⟩
          rintro _ ⟨⟩
          exact ⟨fault, rfl, .inr ⟨data, written⟩⟩
      | ok disk =>
          refine ⟨_, disk, _, from_bind_ok (from_change_ok written) _, .written rfl written, ?_⟩
          rintro _ ⟨⟩

theorem from_exitCode (stopped : Bool) (s : Session) :
    from_ (exitCode stopped) s =
      (if stopped then .ok (stoppedCode s.scratch.received) else s.report.exitCode, s) := by
  unfold exitCode
  rw [from_get_bind]
  cases stopped with
  | true => rfl
  | false => cases s.report.exitCode <;> rfl

/-! ## The whole run -/

/-- The stages end well, or are stopped, or end with the fault that came out of them. -/
theorem from_stagesScoped (host : Host) (project : Project) (verbose : Bool) (s : Session) :
    let within := from_ (withScratch host (stagesReported host project verbose)) s
    ∃ result log console report,
      from_ (stagesScoped host project verbose) s =
          (result, { within.2 with log, console, report }) ∧
        (within.1 = .ok () → result = .ok false ∧ report = within.2.report) ∧
        (∀ fault, within.1 = .error fault → fault.Interrupts →
          result = .ok true ∧ report = closed host within.2.report) ∧
        ∀ fault, within.1 = .error fault → ¬ fault.Interrupts →
          result = .error fault ∧ report = within.2.report := by
  unfold stagesScoped
  rw [from_bind_ok (from_attempt _ s)]
  dsimp only
  generalize from_ (withScratch host (stagesReported host project verbose)) s = within
  obtain ⟨fault | done, t⟩ := within
  · cases fault with
    | interrupted label =>
        obtain ⟨log, console, ended⟩ := from_closeInterrupted host t
        refine ⟨_, log, console, _, from_bind_ok ended _, nofun, fun _ _ _ => ⟨rfl, rfl⟩, ?_⟩
        rintro _ ⟨⟩ calm
        exact absurd trivial calm
    | _ =>
        refine ⟨_, t.log, t.console, t.report, rfl, nofun, ?_, ?_⟩
        · rintro _ ⟨⟩ ⟨⟩
        · rintro _ ⟨⟩ _
          exact ⟨rfl, rfl⟩
  · exact ⟨_, t.log, t.console, t.report, rfl, fun _ => ⟨rfl, rfl⟩, nofun, nofun⟩

/-- The report at the end of a run, with the failures of the cleanup. -/
def completed (s : Session) : Report :=
  s.scratch.failures.foldl (fun report message => report.recordCleanup message) s.report

theorem completed_eq (s : Session) :
    completed s =
      { s.report with cleanupFailures := s.report.cleanupFailures ++ s.scratch.failures } := by
  unfold completed
  generalize s.scratch.failures = failures
  generalize s.report = report
  induction failures generalizing report with
  | nil =>
      rw [List.append_nil]
      rfl
  | cons message failures ih =>
      rw [List.foldl_cons, ih]
      simp [Report.recordCleanup]

theorem from_printReport (s : Session) :
    from_ printReport s =
      match s.report.unprintable? with
      | none => (.ok (), { s with console := s.console ++ s.report.plainText.onConsole })
      | some fault => (.error (.file fault), s) := by
  unfold printReport
  rw [from_get_bind]
  dsimp only
  cases s.report.unprintable? <;> rfl

/-- What is left to do once the scratch space has ended: the report is completed, printed if it can
be, and perhaps saved. Only what was said and the report change, and on the disk the report is all
that is new. -/
theorem from_verifyProject (host : Host) (options : RunOptions) (project : Project) (s : Session) :
    match from_ (stagesScoped host project options.verbose) s with
    | (.error fault, t) => from_ (verifyProject host options project) s = (.error fault, t)
    | (.ok stopped, t) =>
      ∃ result disk log console,
        from_ (verifyProject host options project) s =
            (result, { t with disk, log, console, report := completed t }) ∧
          t.disk.Gets host.cwd options.reportFile disk ∧
          match t.report.unprintable? with
          | some fault => result = .error (.file fault)
          | none =>
            console =
                t.console ++ Text.onConsole [.char '\n'] ++ (completed t).plainText.onConsole ∧
              ((∃ path fault, options.reportFile = some path ∧ t.disk.Unsaved host.cwd path fault ∧
                  result = .error (.file fault)) ∨
                result =
                  if stopped then .ok (stoppedCode t.scratch.received)
                  else (completed t).exitCode) := by
  unfold verifyProject
  rcases ended : from_ (stagesScoped host project options.verbose) s with ⟨fault | stopped, t⟩
  · exact from_bind_error ended _
  · dsimp only
    rw [from_bind_ok ended]
    have begun : from_ (do
        recordCleanups
        print []
        printReport
        options.reportFile.forM (saveReport host)
        exitCode stopped) t =
        from_ (printReport >>= fun _ => options.reportFile.forM (saveReport host) >>= fun _ =>
          exitCode stopped)
          { t with console := t.console ++ Text.onConsole [.char '\n'], report := completed t } := rfl
    have same : (completed t).unprintable? = t.report.unprintable? := by rw [completed_eq]; rfl
    have shown := from_printReport
      { t with console := t.console ++ Text.onConsole [.char '\n'], report := completed t }
    rw [begun]
    dsimp only at shown
    rw [same] at shown
    cases halves : t.report.unprintable? with
    | some fault =>
        rw [halves] at shown
        exact ⟨_, t.disk, t.log, _, from_bind_error shown _, .nothing, rfl⟩
    | none =>
        rw [halves] at shown
        rw [from_bind_ok shown]
        generalize completed t = report
        generalize t.console ++ Text.onConsole [.char '\n'] ++ report.plainText.onConsole = console
        cases options.reportFile with
        | none =>
            exact ⟨_, t.disk, t.log, console, from_exitCode stopped _, .nothing, rfl, .inr rfl⟩
        | some path =>
            obtain ⟨result, disk, log, saved, gets, faults⟩ :=
              from_saveReport host path { t with console, report }
            cases result with
            | error fault =>
                obtain ⟨inner, rfl, unsaved⟩ := faults fault rfl
                exact ⟨_, disk, log, console, from_bind_error saved _, gets, rfl,
                  .inl ⟨path, inner, rfl, unsaved, rfl⟩⟩
            | ok done =>
                exact ⟨_, disk, log, console,
                  (from_bind_ok saved _).trans (from_exitCode stopped _), gets, rfl, .inr rfl⟩

/-- The state at the end of the stages. -/
def staged (host : Host) (options : RunOptions) (project : Project) (s : Session) : Session :=
  (from_ (stagesReported host project options.verbose) (taken s)).2

theorem deeds_staged (host : Host) (options : RunOptions) (project : Project) (s : Session) :
    ReflTransGen (Deed host project) (taken s) (staged host options project s) :=
  (doing_stagesReported options.verbose).1

@[simp] theorem taken_scratch_tornDown (s : Session) :
    (taken s).scratch.tornDown = s.scratch.tornDown := by
  unfold taken
  split <;> rfl

theorem tornDown_staged (host : Host) (options : RunOptions) (project : Project)
    (live : s.scratch.tornDown = false) :
    (staged host options project s).scratch.tornDown = false := by
  obtain ⟨-, torn, -⟩ := Deed.frame (deeds_staged host options project s)
  rw [torn, taken_scratch_tornDown, live]

/-- The pass over the tracked paths leaves alone what is tracked, started and reported. -/
theorem pass_frame (host : Host) (s : Session) :
    (pass host s).2.scratch.tracked = s.scratch.tracked ∧
      (pass host s).2.scratch.workdir = s.scratch.workdir ∧
      (pass host s).2.launches = s.launches ∧ (pass host s).2.report = s.report := by
  have steps := removing_pass host s.scratch.tracked.reverse (torn s)
  unfold pass
  rw [Removing.frame steps]
  exact ⟨rfl, rfl, rfl, rfl⟩

/-- The stages within the scratch space end as the stages did, unless the pass over the tracked
paths was stopped. -/
theorem from_stages_within (host : Host) (options : RunOptions) (project : Project)
    (live : s.scratch.tornDown = false) :
    ∃ log, from_ (withScratch host (stagesReported host project options.verbose)) s =
      (match (pass host (staged host options project s)).1 with
        | .ok () => (from_ (stagesReported host project options.verbose) (taken s)).1
        | .error fault => .error fault,
        givenBack { (pass host (staged host options project s)).2 with log }) := by
  obtain ⟨log, left⟩ := from_leave host (tornDown_staged host options project live)
  refine ⟨log, ?_⟩
  have same : (from_ (stagesReported host project options.verbose) (taken s)).2 =
      staged host options project s := rfl
  rw [from_withScratch, same, left]
  cases (pass host (staged host options project s)).1 <;> rfl

theorem stagesScoped_course (host : Host) (options : RunOptions) (project : Project)
    (live : s.scratch.tornDown = false) :
    let passed := pass host (staged host options project s)
    ∃ result t, from_ (stagesScoped host project options.verbose) s = (result, t) ∧
      t.scratch = { passed.2.scratch with saved := [] } ∧ t.launches = passed.2.launches ∧
      t.disk = passed.2.disk ∧
      (t.report = passed.2.report ∨ t.report = closed host passed.2.report) ∧
      ∀ fault, passed.1 = .error fault → ¬ fault.Interrupts → result = .error fault := by
  obtain ⟨log, within⟩ := from_stages_within host options project live
  obtain ⟨result, log', console, report, ended, fine, asked, stops⟩ :=
    from_stagesScoped host project options.verbose s
  rw [within] at ended fine asked stops
  generalize pass host (staged host options project s) = passed at ended fine asked stops ⊢
  refine ⟨result, _, ended, rfl, rfl, rfl, ?_, fun fault stopped calm => ?_⟩
  · generalize (match passed.1 with
      | .ok () => (from_ (stagesReported host project options.verbose) (taken s)).1
      | .error fault => .error fault) = outcome at fine asked stops
    rcases outcome with fault | done
    · by_cases interrupts : fault.Interrupts
      · exact .inr (asked fault rfl interrupts).2
      · exact .inl (stops fault rfl interrupts).2
    · exact .inl (fine rfl).2
  · dsimp only at stops
    rw [stopped] at stops
    exact (stops fault rfl calm).1

/-- What a run of a project leaves: the scratch space, the commands and what was recorded as the
pass over the tracked paths left them, and the disk too but for the report. A pass that is stopped stops the
run. -/
theorem verifyProject_course (host : Host) (options : RunOptions) (project : Project)
    (live : s.scratch.tornDown = false) :
    let passed := pass host (staged host options project s)
    let ended := from_ (verifyProject host options project) s
    ended.2.scratch = { passed.2.scratch with saved := [] } ∧
      ended.2.launches = passed.2.launches ∧
      passed.2.disk.Gets host.cwd options.reportFile ended.2.disk ∧
      (ended.2.report.artifacts = passed.2.report.artifacts ∧
        ended.2.report.results = passed.2.report.results) ∧
      ∀ fault, passed.1 = .error fault → ¬ fault.Interrupts → ended.1 = .error fault := by
  have course := stagesScoped_course host options project live
  have rest := from_verifyProject host options project s
  dsimp only at course ⊢
  generalize pass host (staged host options project s) = passed at course ⊢
  obtain ⟨result, t, ending, scratch, launches, disk, report, stops⟩ := course
  have recorded : t.report.artifacts = passed.2.report.artifacts ∧
      t.report.results = passed.2.report.results := by
    rcases report with same | same
    · rw [same]
      exact ⟨rfl, rfl⟩
    · rw [same]
      exact closed_records host passed.2.report
  rw [ending] at rest
  cases result with
  | error fault =>
      dsimp only at rest
      rw [rest]
      refine ⟨scratch, launches, disk ▸ .nothing, recorded, fun other stop calm => ?_⟩
      cases stops other stop calm
      rfl
  | ok stopped =>
      obtain ⟨result, disk', log, console, same, gets, -⟩ := rest
      rw [same, completed_eq]
      exact ⟨scratch, launches, disk ▸ gets, recorded,
        fun fault stop calm => nomatch stops fault stop calm⟩

/-- The state of a run whose project has just been opened. -/
structure Opened (host : Host) (options : RunOptions) (disk : Disk) (project : Project)
    (s : Session) : Prop where
  disk : s.disk = disk
  launches : s.launches = []
  handler : s.handler = fun _ => .outer
  scratch : s.scratch = Scratch.fresh options.tempBase options.handlesSignals
  testDir : s.testDir = none
  samples : s.samples = ⟨none, none⟩
  report : s.report = Report.start project.root.text host.timeOfDay

theorem Opened.live {disk : Disk} (opened : Opened host options disk project s) :
    s.scratch.tornDown = false := by
  rw [opened.scratch]
  rfl

/-- A run that is to handle the signals does so until its stages have ended. -/
theorem Opened.handled {disk : Disk} (opened : Opened host options disk project s)
    (handles : options.handlesSignals = true) (signal : Signal) :
    (staged host options project s).handler signal = .scratch := by
  have asked : (s.scratch.handlesSignals && s.scratch.mainThread) = true := by
    rw [opened.scratch]
    exact (Bool.and_true _).trans handles
  rw [(Deed.frame (deeds_staged host options project s)).1, taken, if_pos asked]

/-- A run verifies the project that it opened. Without one nothing happens but talk. -/
theorem verify_opened (host : Host) (options : RunOptions) (disk : Disk) (scratch : Scratch) :
    let s := Session.start disk scratch
    (∃ log console, (from_ (verify host options) s).2 = { s with log, console } ∧
        ∀ project t, from_ (openProject host options) s ≠ (.ok (some project), t)) ∨
      ∃ project t, from_ (openProject host options) s = (.ok (some project), t) ∧
        Opened host options disk project t ∧
        from_ (verify host options) s = from_ (verifyProject host options project) t := by
  intro s
  unfold verify
  rcases from_openProject host options s with ⟨result, log, console, missing, ended⟩ |
    ⟨project, log, console, -, ended⟩
  · refine .inl ⟨log, console, ?_, fun project t other => ?_⟩
    · cases result with
      | error fault => rw [from_bind_error ended]
      | ok found =>
          cases found with
          | some project => exact absurd rfl (missing project)
          | none =>
              rw [from_bind_ok ended]
              rfl
    · rw [ended] at other
      exact missing project (Prod.mk.inj other).1
  · refine .inr ⟨project, _, ended, ⟨rfl, rfl, rfl, rfl, rfl, rfl, rfl⟩, ?_⟩
    rw [from_bind_ok ended]

end Run

end StageParity
