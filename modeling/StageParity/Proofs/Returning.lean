import StageParity.Proofs.Interruption
import StageParity.Proofs.WorkingDirectory

/-!
# Runs that return

A run of a project that is there returns an exit code and announces a status, or a fault comes out
of it. Faults come out at the operations that a run does not guard (`Snag`), for a path to remove
that cannot be named, and for a report that cannot be printed or saved. With names of the layout
that keep apart, and with commands that spare the working directory, that directory is never to
blame.
-/

namespace StageParity

open Relation (ReflTransGen)

namespace Run

variable {host : Host} {options : RunOptions} {project : Project} {disk : Disk} {s t : Session}

/-- What a run that returns leaves: one of the exit codes, and a status that it announces. -/
structure Returned (t : Session) (code : Nat) : Prop where
  code : code = 0 ∨ code = 1 ∨ code = 130 ∨
    ∃ signal, t.scratch.received = some signal ∧ code = 128 + signal.number
  announced : ∃ status, Announces t status

/-- Why a fault comes out of a run whose project was opened in the given state. -/
inductive Escapes (host : Host) (options : RunOptions) (project : Project) (s : Session) :
    Fault → Prop where
  | snag {fault : Fault} :
      Snag host project (taken s) (staged host options project s) fault →
      Escapes host options project s fault
  /-- A path to remove cannot be named. -/
  | unnamed {path : Path} {fault : FileFault} :
      path ∈ (staged host options project s).scratch.tracked → Disk.misnamed? path = some fault →
      Escapes host options project s (.file fault)
  /-- A fatal error goes on after its first line with half of a surrogate pair. -/
  | unprinted {fault : FileFault} :
      (staged host options project s).report.unprintable? = some fault →
      Escapes host options project s (.file fault)
  /-- The report cannot be saved. -/
  | unsaved {path : Path} {fault : FileFault} :
      options.reportFile = some path →
      (pass host (staged host options project s)).2.disk.Unsaved host.cwd path fault →
      Escapes host options project s (.file fault)

/-- What keeps the working directory of a run in order whose stages end in the given state. -/
structure Tidy (host : Host) (project : Project) (disk : Disk) (t : Session) : Prop where
  apart : project.layout.Apart
  rooted : disk.Rooted
  fits : ∀ w, t.scratch.workdir = some w → project.Fits host w
  spared : ∀ w, t.scratch.workdir = some w → t.Spared host project w

/-! ## What comes out -/

theorem status_of_closed (host : Host) (report : Report) :
    ∃ status, (closed host report).status = some status := by
  unfold closed
  split
  · rename_i done
    exact Option.isSome_iff_exists.mp done
  · exact ⟨.fail, rfl⟩

theorem returned_of_stopped (announces : ∃ status, Announces t status) :
    Returned t (stoppedCode t.scratch.received) := by
  refine ⟨?_, announces⟩
  cases t.scratch.received with
  | none => exact .inr (.inr (.inl rfl))
  | some signal => exact .inr (.inr (.inr ⟨signal, rfl, rfl⟩))

/-- The stages within the scratch space fix the status, or they are stopped by a request, at a snag,
or by a path that cannot be named. -/
theorem within_escapes (opened : Opened host options disk project s) :
    let within := from_ (withScratch host (stagesReported host project options.verbose)) s
    within.2.disk = (pass host (staged host options project s)).2.disk ∧
      within.2.report = (staged host options project s).report ∧
      ((within.1 = .ok () ∧ ∃ status, within.2.report.status = some status) ∨
        ∃ fault, within.1 = .error fault ∧
          (fault.Interrupts ∨ Escapes host options project s fault)) := by
  have live := opened.live
  obtain ⟨log, ended⟩ := from_stages_within host options project live
  obtain ⟨-, -, -, recorded⟩ := pass_frame host (staged host options project s)
  dsimp only
  rw [ended]
  refine ⟨rfl, recorded, ?_⟩
  dsimp only
  cases passed : (pass host (staged host options project s)).1 with
  | error fault =>
      refine .inr ⟨fault, rfl, ?_⟩
      rcases fault_of_pass passed with ⟨-, interrupts⟩ | ⟨path, member, other, unnamed, rfl⟩
      · exact .inl interrupts
      · exact .inr (.unnamed (List.mem_reverse.mp member) unnamed)
  | ok done =>
      rcases stagesReported_cases host project options.verbose opened.ready opened.calm with
        ⟨well, -, status, fixed, -⟩ | ⟨fault, stopped, -⟩
      · exact .inl ⟨well, status, (congrArg Report.status recorded).trans fixed⟩
      · refine .inr ⟨fault, stopped, ?_⟩
        exact (stop_of_stagesReported opened.ready opened.calm (Prod.ext stopped rfl)).imp
          And.left .snag

/-- After the scratch space the status is fixed, unless a fault comes out. -/
theorem stagesScoped_escapes (opened : Opened host options disk project s) :
    match from_ (stagesScoped host project options.verbose) s with
    | (.ok _, t) => t.disk = (pass host (staged host options project s)).2.disk ∧
      t.report.unprintable? = (staged host options project s).report.unprintable? ∧
      ∃ status, t.report.status = some status
    | (.error fault, _) => Escapes host options project s fault := by
  obtain ⟨result, log, console, report, ended, fine, asked, stops⟩ :=
    from_stagesScoped host project options.verbose s
  have cases := within_escapes opened
  rw [ended]
  generalize from_ (withScratch host (stagesReported host project options.verbose)) s = within
    at cases fine asked stops ⊢
  obtain ⟨same, recorded, ⟨well, status, fixed⟩ | ⟨fault, stopped, escapes⟩⟩ := cases
  · obtain ⟨rfl, rfl⟩ := fine well
    exact ⟨same, congrArg Report.unprintable? recorded, status, fixed⟩
  · by_cases interrupts : fault.Interrupts
    · obtain ⟨rfl, rfl⟩ := asked fault stopped interrupts
      refine ⟨same, (unprintable_closed host _).trans ?_, status_of_closed host _⟩
      exact congrArg Report.unprintable? recorded
    · obtain ⟨rfl, -⟩ := stops fault stopped interrupts
      exact escapes.resolve_left interrupts

/-- A run of a project that was opened returns, unless a fault comes out. -/
theorem verifyProject_escapes (opened : Opened host options disk project s) :
    match from_ (verifyProject host options project) s with
    | (.ok code, t) => Returned t code
    | (.error fault, _) => Escapes host options project s fault := by
  have cases := stagesScoped_escapes opened
  rcases reached : from_ (stagesScoped host project options.verbose) s with ⟨fault | stopped, t⟩
  · have rest := from_verifyProject host options project s
    rw [reached] at cases rest
    dsimp only at rest
    rw [rest]
    exact cases
  · rw [reached] at cases
    obtain ⟨disk, printed, status, fixed⟩ := cases
    have rest := verifyProject_of_status reached fixed
    generalize from_ (verifyProject host options project) s = ended at rest ⊢
    rcases ended with ⟨fault | code, u⟩
    · obtain ⟨inner, rfl, unprintable | ⟨path, file, unsaved⟩⟩ := rest
      · exact .unprinted (printed.symm.trans unprintable)
      · exact .unsaved file (disk ▸ unsaved)
    · obtain ⟨announces, -, scratch, -, rfl⟩ := rest
      rw [← scratch]
      cases stopped with
      | true => exact returned_of_stopped ⟨status, announces⟩
      | false =>
          refine ⟨?_, status, announces⟩
          cases status with
          | pass => exact .inl rfl
          | fail => exact .inr (.inl rfl)

/-! ## What does not -/

theorem usable_scratchNames (apart : project.layout.Apart) :
    ∀ name ∈ project.scratchNames, ∀ g ∈ name, Disk.NameGlyph g := by
  refine Project.nameGlyph_of_scratchNames fun g inside => ?_
  rcases List.mem_append.mp inside with compiler | checks
  · refine (apart.compilers .zero).usable g ?_
    exact List.mem_append_left _ (List.mem_append_left _ compiler)
  · exact apart.checks.usable g checks

theorem Opened.inOrder (opened : Opened host options disk project s) (rooted : disk.Rooted)
    (w : Path) : (taken s).InOrder host project w := by
  have same : (taken s).disk = disk := by
    unfold taken
    split <;> exact opened.disk
  refine ⟨fun _ => ⟨same ▸ rooted, opened.ready.testDir⟩, fun present => ?_⟩
  cases opened.unmade.symm.trans present

/-- The working directory of a tidy run is not to blame for a fault that comes out. -/
theorem Tidy.escapes {fault : Fault} (opened : Opened host options disk project s)
    (tidy : Tidy host project disk (staged host options project s))
    (escapes : Escapes host options project s fault) :
    OuterSnag host project (staged host options project s) fault ∨
      (∃ inner, (staged host options project s).report.unprintable? = some inner) ∨
      ∃ path inner, options.reportFile = some path ∧ fault = .file inner ∧
        (pass host (staged host options project s)).2.disk.Unsaved host.cwd path inner := by
  cases escapes with
  | snag snag =>
      cases snag with
      | outer snag => exact .inl snag
      | @inner u w advances precedes present snag =>
          have made := precedes.workdir w present
          have fits := tidy.fits w made
          have spared := (tidy.spared w made).of_precedes precedes
          have inOrder := Advance.inOrder advances tidy.apart fits spared
            (opened.inOrder tidy.rooted w)
          exact absurd snag (inOrder.not_snag tidy.apart fits present)
  | unnamed member unnamed =>
      have named := (tracks_staged opened).named (usable_scratchNames tidy.apart) member
      cases named.symm.trans unnamed
  | unprinted unprintable => exact .inr (.inl ⟨_, unprintable⟩)
  | unsaved file unsaved => exact .inr (.inr ⟨_, _, file, rfl, unsaved⟩)

/-- A run of a project that is there returns an exit code and announces a status, unless a fault
comes out for one of the reasons of `Escapes`. It returns if its working directory stays in order,
nothing outside of that directory is refused, and the report can be printed and saved. -/
theorem verify_returns (host : Host) (options : RunOptions) (disk : Disk) (base : Option Path)
    (handles : Bool) :
    let start := Session.start disk (Scratch.fresh base handles)
    let ended := from_ (verify host options) start
    match from_ (openProject host options) start with
    | (.ok (some project), opened) =>
      let stopping := staged host options project opened
      (match ended with
        | (.ok code, t) => Returned t code
        | (.error fault, _) => Escapes host options project opened fault) ∧
      (Tidy host project disk stopping → (∀ fault, ¬ OuterSnag host project stopping fault) →
        stopping.report.unprintable? = none →
        (∀ path fault, options.reportFile = some path →
          ¬ (pass host stopping).2.disk.Unsaved host.cwd path fault) →
        ∃ code, ended.1 = .ok code ∧ Returned ended.2 code)
    | (.ok none, _) => ended.1 = .ok 1
    | (.error fault, _) => ended.1 = .error fault := by
  intro start ended
  rcases verify_opened host options disk (Scratch.fresh base handles) with
    ⟨log, console, -, missing⟩ | ⟨project, t, opening, opened, same⟩
  · rcases opening : from_ (openProject host options) start with ⟨fault | found, t⟩
    · exact congrArg Prod.fst (from_bind_error opening _)
    · cases found with
      | some project => exact absurd opening (missing project t)
      | none => exact congrArg Prod.fst (from_bind_ok opening _)
  · have cases := verifyProject_escapes opened
    rw [← same] at cases
    rw [opening]
    refine ⟨cases, fun tidy served printable saved => ?_⟩
    change match ended with
      | (.ok code, t) => Returned t code
      | (.error fault, _) => Escapes host options project _ fault at cases
    obtain ⟨fault | code, u⟩ := ended
    · rcases tidy.escapes opened cases with
        snag | ⟨inner, unprintable⟩ | ⟨path, inner, file, -, unsaved⟩
      · exact absurd snag (served fault)
      · cases printable.symm.trans unprintable
      · exact absurd unsaved (saved path inner file)
    · exact ⟨code, rfl, cases⟩

end Run

end StageParity
