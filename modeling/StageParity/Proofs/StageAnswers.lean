import StageParity.Proofs.Starting

/-!
# What the stages answer

The paths that the builds answer, the samples that the checks keep, and what each stage
records in the report. A stage that is stopped records nothing.
-/

namespace StageParity

open Relation (ReflTransGen)

/-! ## Regular files -/

namespace Disk

/-- Whether a path is known to lead to a regular file. -/
def hasFile (d : Disk) (cwd : Location) (p : Path) : Bool :=
  match d.isFile cwd p with
  | .ok answer => answer
  | .error _ => false

theorem hasFile_of_ok {d : Disk} {cwd : Location} {p : Path} {answer : Bool}
    (asked : d.isFile cwd p = .ok answer) : d.hasFile cwd p = answer := by
  unfold hasFile
  rw [asked]

theorem hasFile_iff {d : Disk} {cwd : Location} {p : Path} :
    d.hasFile cwd p = true ↔
      ∃ place mode data, d.locate cwd .target p = .ok (.found place (.file mode data)) := by
  unfold hasFile isFile testAt entryAt
  rcases d.locate cwd .target p with fault | (⟨place, entry⟩ | ⟨directory, name⟩)
  · cases absent : meansAbsent fault <;> simp [absent]
  · cases entry <;> simp [Entry.isFile]
  · cases absent : meansAbsent (.os (.onPath .notFound p.text)) <;> simp [absent]

theorem Grows.hasFile {d after : Disk} (grows : d.Grows after) {cwd : Location} {p : Path}
    (there : d.hasFile cwd p = true) : after.hasFile cwd p = true := by
  obtain ⟨place, mode, data, found⟩ := hasFile_iff.mp there
  obtain ⟨nameable, leads⟩ := locate_eq_ok_iff.mp found
  obtain ⟨more, grown, still⟩ := leads.of_grows grows
  cases more with
  | file mode' data' => exact hasFile_iff.mpr ⟨place, mode', data', locate_eq_ok_iff.mpr ⟨nameable, still⟩⟩
  | directory mode' => cases grown
  | link target => cases grown

/-- New permission bits of a regular file leave all regular files where they were. -/
theorem hasFile_addMode {d after : Disk} {cwd : Location} {p : Path} {bits : Nat}
    (there : d.hasFile cwd p = true) (marked : d.addMode cwd p bits = .ok after) (q : Path) :
    after.hasFile cwd q = d.hasFile cwd q := by
  obtain ⟨place, mode, data, found⟩ := hasFile_iff.mp there
  have put : after = d.put place (.file (mode ||| bits) data) := by
    unfold addMode at marked
    rw [found] at marked
    cases marked
    rfl
  have held : d.get? place = some (.file mode data) := (locate_eq_ok_iff.mp found).2.get?_of_found
  have forth : d.Grows after := put ▸ grows_put_of_grown held trivial
  have back : after.Grows d := by
    intro spot entry present
    rw [put, get?_put] at present
    split at present
    · rename_i same
      cases present
      exact ⟨.file mode data, same.1 ▸ held, trivial⟩
    · exact ⟨entry, present, Grown.refl entry⟩
  rw [Bool.eq_iff_iff]
  exact ⟨back.hasFile, forth.hasFile⟩

end Disk

/-! ## Paths of a run -/

/-- The compiler of a stage in a working directory. -/
def Project.compiler (project : Project) (w : Path) (stage : Stage) : Path :=
  w.child (project.layout.stageName stage)

/-- The sample that a stage compiles, in a working directory. -/
def Project.compiledSample (project : Project) (w : Path) (stage : Stage) : Path :=
  (w.child project.layout.testDirName).child (sampleName stage)

/-- The directory of the checks is in the working directory, if it was made. -/
def Session.TestDirInside (project : Project) (s : Session) : Prop :=
  ∀ directory, s.testDir = some directory →
    ∃ w, s.scratch.workdir = some w ∧ directory = w.child project.layout.testDirName

theorem Deed.testDirInside_step {host : Host} {project : Project} {s t : Session}
    (deed : Deed host project s t) (inside : s.TestDirInside project) : t.TestDirInside project := by
  have kept : t.testDir = s.testDir → t.TestDirInside project := by
    intro same directory present
    rw [same] at present
    obtain ⟨w, workdir, child⟩ := inside directory present
    exact ⟨w, deed.extends_.2.2 w workdir, child⟩
  rcases deed with (deed | ⟨resolved, place⟩ | _) | _ | _
  · cases deed with
    | @keepTestDir w present member absent =>
        intro directory same
        exact ⟨w, present, (Option.some.inj same).symm⟩
    | _ => exact kept rfl
  all_goals exact kept rfl

theorem Deed.testDirInside {host : Host} {project : Project} {s t : Session}
    (deeds : ReflTransGen (Deed host project) s t) (inside : s.TestDirInside project) :
    t.TestDirInside project := by
  induction deeds with
  | refl => exact inside
  | tail _ deed ih => exact deed.testDirInside_step ih

/-- A run has this working directory, and makes the directory of the checks in it. -/
structure Session.Based (project : Project) (w : Path) (s : Session) : Prop where
  workdir : s.scratch.workdir = some w
  inside : s.TestDirInside project

theorem Deed.based {host : Host} {project : Project} {w : Path} {s t : Session}
    (deeds : ReflTransGen (Deed host project) s t) (based : s.Based project w) :
    t.Based project w :=
  ⟨(extends_of_deeds deeds).2 w based.workdir, testDirInside deeds based.inside⟩

@[simp] theorem Both.get_set {α : Type} (pair : Both α) (stage other : Stage) (a : α) :
    (pair.set stage a).get other = if other = stage then a else pair.get other := by
  cases stage <;> cases other <;> rfl

namespace Run

variable {α β γ : Type} {host : Host} {project : Project} {w : Path} {s t : Session}

/-! ## What a step keeps -/

/-- A step keeps a part of the state, however it ends. -/
def Keeps (view : Session → γ) (s : Session) (step : Run α) : Prop := view (from_ step s).2 = view s

namespace Keeps

variable {view : Session → γ} {x : Run α} {f : α → Run β}

theorem of_eq {result : Except Fault α} (keeps : Keeps view s x)
    (ended : from_ x s = (result, t)) : view t = view s := by
  unfold Keeps at keeps
  rwa [ended] at keeps

theorem bind (first : Keeps view s x)
    (second : ∀ a t, from_ x s = (.ok a, t) → Keeps view t (f a)) : Keeps view s (x >>= f) := by
  unfold Keeps
  rw [from_bind]
  rcases ended : from_ x s with ⟨fault | a, t⟩
  · exact first.of_eq ended
  · exact (second a t ended).trans (first.of_eq ended)

end Keeps

theorem Working.keeps_samples {x : Run α} (working : Working host project s x) :
    Keeps Session.samples s x := (Work.frame working.1).1

theorem Working.keeps_report {x : Run α} (working : Working host project s x) :
    Keeps Session.report s x := (Work.frame working.1).2

theorem Talks.keeps_report {step : Run Unit} (talks : Talks step) : Keeps Session.report s step := by
  obtain ⟨log, console, commandEvents, checkEvents, ended⟩ := talks s
  unfold Keeps
  rw [ended]

theorem Talks.keeps_samples {step : Run Unit} (talks : Talks step) :
    Keeps Session.samples s step := by
  obtain ⟨log, console, commandEvents, checkEvents, ended⟩ := talks s
  unfold Keeps
  rw [ended]

theorem keeps_ask {view : Session → γ} (question : Disk → Except FileFault α) :
    Keeps view s (ask question) := by
  unfold Keeps
  rw [from_ask]

theorem keeps_samples_onReport (step : Report → Except Fault Report) :
    Keeps Session.samples s (onReport step) := by
  unfold Keeps
  rw [from_onReport]
  cases step s.report <;> rfl

theorem keeps_scratch_change (step : Disk → Except FileFault Disk) :
    Keeps Session.scratch s (change step) := by
  unfold Keeps
  cases answer : step s.disk with
  | ok disk => rw [from_change_ok answer]
  | error fault => rw [from_change_error answer]

theorem keeps_buildPart {view : Session → γ} {part : Run α} (stage : Stage) (what text : Text)
    (keeps : Keeps view s part) : Keeps view s (buildPart stage what text part) := by
  unfold Keeps at keeps ⊢
  rw [from_buildPart]
  generalize from_ part s = outcome at keeps ⊢
  rcases outcome with ⟨fault | a, t⟩
  · split <;> rename_i ended <;> cases ended <;> exact keeps
  · exact keeps

/-! ## The builds -/

/-- Stage zero is put in the working directory. -/
theorem buildZero_ok {listen : CommandEvent → Run Unit} {zero : Artifact}
    (ended : from_ (buildZero host project listen) s = (.ok zero, t)) :
    zero.stage = .zero ∧ zero.built = true ∧
      ∃ w, t.scratch.workdir = some w ∧ zero.path = project.compiler w .zero := by
  obtain ⟨_, _, -, ended⟩ := from_bind_eq_ok ended
  obtain ⟨text, _, -, ended⟩ := from_bind_eq_ok ended
  obtain ⟨present, u, -, ended⟩ := from_bind_eq_ok ended
  cases present with
  | false => cases ended
  | true =>
      obtain ⟨target, v, handed, ended⟩ := from_bind_eq_ok ended
      obtain ⟨-, w, workdir, inside, -⟩ := scratchPath_ok handed
      obtain ⟨_, v', copied, ended⟩ := from_bind_eq_ok ended
      have kept : v'.scratch = v.scratch :=
        (keeps_buildPart .zero _ text (Keeps.bind (keeps_scratch_change _) fun _ _ _ =>
          keeps_scratch_change _)).of_eq copied
      cases ended
      exact ⟨rfl, rfl, w, (congrArg Scratch.workdir kept).trans workdir, inside⟩

theorem delegate_ok {zero one : Artifact} {target : Path}
    (ended : from_ (delegate host project zero target) s = (.ok one, t)) :
    one.stage = .one ∧ one.built = true ∧ one.path = target := by
  obtain ⟨_, _, -, ended⟩ := from_bind_eq_ok ended
  obtain ⟨_, _, -, ended⟩ := from_bind_eq_ok ended
  obtain ⟨_, _, -, ended⟩ := from_bind_eq_ok ended
  cases ended
  exact ⟨rfl, rfl, rfl⟩

/-- In a working directory that is there the next path is handed out at once. -/
theorem from_scratchPath (live : s.scratch.tornDown = false) (present : s.scratch.workdir = some w)
    (name : Text) :
    from_ (scratchPath host name) s =
      (.ok (w.child name), { s with scratch := s.scratch.add (w.child name) }) := by
  have found : from_ (workdir host) s = (.ok w, s) := by
    rcases from_workdir host s with ⟨torn, -⟩ | ⟨-, v, same, ended⟩ | ⟨-, absent, -⟩ | ⟨-, absent, -⟩
    · rw [live] at torn
      cases torn
    · cases present.symm.trans same
      exact ended
    · rw [present] at absent
      cases absent
    · rw [present] at absent
      cases absent
  unfold scratchPath
  rw [from_bind_ok found]
  exact from_bind_ok (from_track live _) _

/-- Stage one is put beside stage zero. -/
theorem buildOne_ok {listen : CommandEvent → Run Unit} {zero one : Artifact}
    (built : zero.built = true) (live : s.scratch.tornDown = false)
    (present : s.scratch.workdir = some w)
    (ended : from_ (buildOne host project listen zero) s = (.ok one, t)) :
    one.stage = .one ∧ one.built = true ∧ one.path = project.compiler w .one := by
  unfold buildOne at ended
  rw [built] at ended
  obtain ⟨target, u, handed, ended⟩ := from_bind_eq_ok ended
  cases (from_scratchPath live present _).symm.trans handed
  obtain ⟨source, v, -, ended⟩ := from_bind_eq_ok ended
  cases source with
  | false => exact delegate_ok ended
  | true =>
      obtain ⟨_, _, -, ended⟩ := from_bind_eq_ok ended
      obtain ⟨text, _, -, ended⟩ := from_bind_eq_ok ended
      obtain ⟨isFile, _, -, ended⟩ := from_bind_eq_ok ended
      cases isFile with
      | false => cases ended
      | true =>
          obtain ⟨_, _, -, ended⟩ := from_bind_eq_ok ended
          obtain ⟨_, _, -, ended⟩ := from_bind_eq_ok ended
          cases ended
          exact ⟨rfl, rfl, rfl⟩

/-! ## The samples -/

/-- Letting the owner run a file marks it or changes nothing but the log. -/
theorem from_makeOwnerRunnable (host : Host) (path : Path) (s : Session) :
    ∃ result disk log, from_ (makeOwnerRunnable host path) s = (result, { s with disk, log }) ∧
      (disk = s.disk ∨ s.disk.addMode host.cwd path ownerRuns = .ok disk) ∧
      ∀ fault, result = .error fault → ¬ fault.Interrupts := by
  unfold makeOwnerRunnable
  rw [from_bind_ok (from_attempt _ s)]
  cases answer : s.disk.addMode host.cwd path ownerRuns with
  | ok disk =>
      rw [from_change_ok answer]
      exact ⟨_, disk, s.log, rfl, .inr rfl, nofun⟩
  | error fault =>
      rw [from_change_error answer]
      cases fault with
      | os error => exact ⟨_, s.disk, _, rfl, .inl rfl, nofun⟩
      | _ =>
          refine ⟨_, s.disk, s.log, rfl, .inl rfl, ?_⟩
          rintro _ ⟨⟩
          exact id

theorem keeps_report_noteSample (stage : Stage) (path : Path) :
    Keeps Session.report s (noteSample host stage path) := by
  refine Keeps.bind (keeps_ask _) fun present t _ => ?_
  cases present with
  | false => rfl
  | true =>
      refine Keeps.bind ?_ fun _ _ _ => rfl
      obtain ⟨result, disk, log, ended, -⟩ := from_makeOwnerRunnable host path t
      unfold Keeps
      rw [ended]

/-- A compiled sample is kept just if it is a regular file. Files stay files. -/
theorem noteSample_ok {stage : Stage} {path : Path}
    (ended : from_ (noteSample host stage path) s = (.ok (), t)) :
    (∀ q, t.disk.hasFile host.cwd q = s.disk.hasFile host.cwd q) ∧
      t.samples =
        if s.disk.hasFile host.cwd path then s.samples.set stage (some path) else s.samples := by
  obtain ⟨present, u, asked, ended⟩ := from_bind_eq_ok ended
  obtain ⟨answer, rfl⟩ := ask_eq_ok asked
  rw [Disk.hasFile_of_ok answer]
  cases present with
  | false =>
      cases ended
      exact ⟨fun _ => rfl, rfl⟩
  | true =>
      obtain ⟨result, disk, log, marked, change, -⟩ := from_makeOwnerRunnable host path u
      obtain ⟨_, v, first, ended⟩ := from_bind_eq_ok ended
      cases marked.symm.trans first
      cases ended
      refine ⟨fun q => ?_, rfl⟩
      rcases change with same | marked
      · exact congrArg (fun d : Disk => d.hasFile host.cwd q) same
      · exact Disk.hasFile_addMode (Disk.hasFile_of_ok answer) marked q

theorem testDir_of_based {directory : Path} (based : s.Based project w)
    (ended : from_ (testDir host project) s = (.ok directory, t)) :
    directory = w.child project.layout.testDirName := by
  have later := Deed.based (alone_testDir.doing.deeds ended) based
  obtain ⟨v, present, child⟩ := later.inside directory (testDir_ok ended)
  cases later.workdir.symm.trans present
  exact child

/-- After the sample was to be compiled, the samples are the regular files among what the
compilers were to write. -/
theorem checkCompilation_ok {compilers : Both Artifact} {result : CheckResult}
    (based : s.Based project w) (fresh : s.samples = ⟨none, none⟩)
    (ended : from_ (checkCompilation host project compilers) s = (.ok result, t)) (stage : Stage) :
    t.samples.get stage =
      if s.disk.hasFile host.cwd project.sample &&
          t.disk.hasFile host.cwd (project.compiledSample w stage) then
        some (project.compiledSample w stage)
      else none := by
  obtain ⟨present, u, asked, ended⟩ := from_bind_eq_ok ended
  obtain ⟨answer, rfl⟩ := ask_eq_ok asked
  rw [Disk.hasFile_of_ok answer]
  cases present with
  | false =>
      obtain ⟨_, _, logged, ended⟩ := from_bind_eq_ok ended
      cases logged
      cases ended
      dsimp only
      rw [fresh]
      cases stage <;> rfl
  | true =>
      obtain ⟨first, v, made, ended⟩ := from_bind_eq_ok ended
      obtain rfl := testDir_of_based based made
      obtain ⟨second, v', again, ended⟩ := from_bind_eq_ok ended
      cases (from_testDir_of_some (testDir_ok made)).symm.trans again
      obtain ⟨zero, v0, compiledZero, ended⟩ := from_bind_eq_ok ended
      obtain ⟨one, v1, compiledOne, ended⟩ := from_bind_eq_ok ended
      obtain ⟨_, v2, kept, ended⟩ := from_bind_eq_ok ended
      obtain ⟨_, v3, notedZero, ended⟩ := from_bind_eq_ok ended
      obtain ⟨_, v4, notedOne, ended⟩ := from_bind_eq_ok ended
      obtain ⟨_, _, logged, ended⟩ := from_bind_eq_ok ended
      cases logged
      cases ended
      have before : v2.samples = ⟨none, none⟩ := by
        rw [(alone_keepOutcomes .compilation zero one).working.keeps_samples.of_eq kept,
          (working_invoke _ _).keeps_samples.of_eq compiledOne,
          (working_invoke _ _).keeps_samples.of_eq compiledZero,
          alone_testDir.working.keeps_samples.of_eq made, fresh]
      obtain ⟨filesZero, samplesZero⟩ := noteSample_ok notedZero
      obtain ⟨filesOne, samplesOne⟩ := noteSample_ok notedOne
      rw [samplesZero, before, filesZero] at samplesOne
      change v4.samples.get stage =
        if true && v4.disk.hasFile host.cwd (project.compiledSample w stage) then _ else none
      rw [samplesOne, filesOne, filesZero, Bool.true_and]
      unfold Project.compiledSample
      dsimp only
      cases stage with
      | zero => split <;> split <;> rfl
      | one => split <;> split <;> rfl

theorem keeps_report_checkCompilation (compilers : Both Artifact) :
    Keeps Session.report s (checkCompilation host project compilers) := by
  refine Keeps.bind (keeps_ask _) fun present t _ => ?_
  cases present with
  | false => exact (alone_skipCheck _ _ : Alone host project t _).working.keeps_report
  | true =>
      refine Keeps.bind alone_testDir.working.keeps_report fun _ _ _ => ?_
      refine Keeps.bind alone_testDir.working.keeps_report fun _ _ _ => ?_
      refine Keeps.bind (working_invoke _ _).keeps_report fun zero _ _ => ?_
      refine Keeps.bind (working_invoke _ _).keeps_report fun one _ _ => ?_
      refine Keeps.bind (alone_keepOutcomes _ zero one).working.keeps_report fun _ _ _ => ?_
      refine Keeps.bind (keeps_report_noteSample _ _) fun _ _ _ => ?_
      refine Keeps.bind (keeps_report_noteSample _ _) fun _ u _ => ?_
      exact (alone_compareOutcomes _ _ _ : Alone host project u _).working.keeps_report

theorem keeps_report_check (compilers : Both Artifact) (kind : CheckKind) :
    Keeps Session.report s (check host project compilers kind) := by
  cases kind with
  | version => exact (working_checkCompilers _ _ _).keeps_report
  | compilation => exact keeps_report_checkCompilation compilers
  | runtime => exact working_checkRuntime.keeps_report
  | selfDiagnostics => exact (working_checkCompilers _ _ _).keeps_report

/-! ## The report -/

/-- A step that ends well records one thing in the report, and any other nothing. -/
def Records (step : α → Report → Except Fault Report) (s : Session) (x : Run α) : Prop :=
  match from_ x s with
  | (.ok a, t) => step a s.report = .ok t.report
  | (.error _, t) => t.report = s.report

namespace Records

variable {step : β → Report → Except Fault Report} {x : Run α} {f : α → Run β}

theorem keeps_bind (first : Keeps Session.report s x)
    (second : ∀ a t, from_ x s = (.ok a, t) → Records step t (f a)) :
    Records step s (x >>= f) := by
  unfold Records
  rw [from_bind]
  rcases ended : from_ x s with ⟨fault | a, t⟩
  · exact first.of_eq ended
  · have rest := second a t ended
    rw [Records, first.of_eq ended] at rest
    exact rest

/-- The recording itself, when only talk comes after it. -/
theorem record {b : β} {last : Run β}
    (talks : ∀ t, ∃ log console commandEvents checkEvents,
      from_ last t = (.ok b, { t with log, console, commandEvents, checkEvents })) :
    Records step s (onReport (step b) >>= fun _ => last) := by
  unfold Records
  rw [from_bind, from_onReport]
  cases stepped : step b s.report with
  | error fault => rfl
  | ok report =>
      obtain ⟨log, console, commandEvents, checkEvents, ended⟩ := talks { s with report }
      dsimp only
      rw [ended]
      exact stepped

end Records

theorem from_talks_return {step : Run Unit} (talks : Talks step) (a : α) (s : Session) :
    ∃ log console commandEvents checkEvents, from_ (step >>= fun _ => pure a) s =
      (.ok a, { s with log, console, commandEvents, checkEvents }) := by
  obtain ⟨log, console, commandEvents, checkEvents, ended⟩ := talks s
  exact ⟨log, console, commandEvents, checkEvents, from_bind_ok ended _⟩

theorem records_stageZero : Records Report.setArtifact s (stageZero host project) := by
  refine Records.keeps_bind (talks_printStep _ _).keeps_report fun _ t _ => ?_
  refine Records.keeps_bind (alone_probe _ _ : Alone host project t _).working.keeps_report
    fun _ _ _ => ?_
  refine Records.keeps_bind (working_buildZero talks_printCommandEvent).keeps_report fun _ _ _ => ?_
  exact Records.record (from_talks_return (talks_print _) _)

theorem records_stageOne (zero : Artifact) :
    Records Report.setArtifact s (stageOne host project zero) := by
  refine Records.keeps_bind (talks_printStep _ _).keeps_report fun _ _ _ => ?_
  refine Records.keeps_bind (working_buildOne talks_printCommandEvent).keeps_report fun one _ _ => ?_
  refine Records.record fun t => ?_
  cases one.delegated with
  | true =>
      obtain ⟨log, console, commandEvents, checkEvents, warned⟩ := talks_print _ t
      obtain ⟨log', console', commandEvents', checkEvents', ended⟩ :=
        from_talks_return (talks_print _) one { t with log, console, commandEvents, checkEvents }
      exact ⟨log', console', commandEvents', checkEvents', (from_bind_ok warned _).trans ended⟩
  | false => exact from_talks_return (talks_print _) one t

theorem records_checkRecorded {listen : CheckEvent → Run Unit}
    (talks : ∀ event, Talks (listen event)) (compilers : Both Artifact) (kind : CheckKind) :
    Records Report.addResult s (checkRecorded host project compilers listen kind) := by
  refine Records.keeps_bind (talks _).keeps_report fun _ _ _ => ?_
  refine Records.keeps_bind (keeps_report_check compilers kind) fun result _ _ => ?_
  exact Records.record (from_talks_return (talks _) _)

/-! ## The stages -/

theorem keeps_samples_stageZero : Keeps Session.samples s (stageZero host project) := by
  refine Keeps.bind (talks_printStep _ _).keeps_samples fun _ t _ => ?_
  refine Keeps.bind (alone_probe _ _ : Alone host project t _).working.keeps_samples fun _ _ _ => ?_
  refine Keeps.bind (working_buildZero talks_printCommandEvent).keeps_samples fun _ _ _ => ?_
  refine Keeps.bind (keeps_samples_onReport _) fun _ _ _ => ?_
  exact Keeps.bind (talks_print _).keeps_samples fun _ _ _ => rfl

theorem keeps_samples_stageOne (zero : Artifact) :
    Keeps Session.samples s (stageOne host project zero) := by
  refine Keeps.bind (talks_printStep _ _).keeps_samples fun _ t _ => ?_
  refine Keeps.bind (working_buildOne talks_printCommandEvent).keeps_samples fun one _ _ => ?_
  refine Keeps.bind (keeps_samples_onReport _) fun _ _ _ => ?_
  cases one.delegated with
  | true =>
      exact Keeps.bind (talks_print _).keeps_samples fun _ _ _ =>
        Keeps.bind (talks_print _).keeps_samples fun _ _ _ => rfl
  | false => exact Keeps.bind (talks_print _).keeps_samples fun _ _ _ => rfl

theorem stageZero_ok {zero : Artifact} (ended : from_ (stageZero host project) s = (.ok zero, t)) :
    zero.stage = .zero ∧ zero.built = true ∧
      ∃ w, t.scratch.workdir = some w ∧ zero.path = project.compiler w .zero := by
  obtain ⟨_, _, -, ended⟩ := from_bind_eq_ok ended
  obtain ⟨_, _, -, ended⟩ := from_bind_eq_ok ended
  obtain ⟨zero', u, built, ended⟩ := from_bind_eq_ok ended
  obtain ⟨_, v, recorded, ended⟩ := from_bind_eq_ok ended
  have kept : v.scratch = u.scratch := by
    rw [from_onReport] at recorded
    split at recorded <;> cases recorded
    rfl
  cases ended
  obtain ⟨stage, isBuilt, w, workdir, path⟩ := buildZero_ok built
  exact ⟨stage, isBuilt, w, (congrArg Scratch.workdir kept).trans workdir, path⟩

theorem stageOne_ok {zero one : Artifact} (built : zero.built = true)
    (live : s.scratch.tornDown = false) (present : s.scratch.workdir = some w)
    (ended : from_ (stageOne host project zero) s = (.ok one, t)) :
    one.stage = .one ∧ one.built = true ∧ one.path = project.compiler w .one := by
  obtain ⟨_, u, said, ended⟩ := from_bind_eq_ok ended
  obtain ⟨log, console, commandEvents, checkEvents, talk⟩ := talks_printStep 2
    "Building Stage 1 Compiler (self-hosted)" s
  cases talk.symm.trans said
  obtain ⟨one', v, builds, ended⟩ := from_bind_eq_ok ended
  obtain ⟨_, v', -, ended⟩ := from_bind_eq_ok ended
  have same : one = one' := by
    cases delegated : one'.delegated with
    | true => rw [delegated] at ended; cases ended; rfl
    | false => rw [delegated] at ended; cases ended; rfl
  rw [same]
  exact buildOne_ok built (by exact live) (by exact present) builds

/-- A check that is recorded is the check itself, between some talk. -/
theorem checkRecorded_ok {listen : CheckEvent → Run Unit} {compilers : Both Artifact}
    {kind : CheckKind} {result : CheckResult} (talks : ∀ event, Talks (listen event))
    (ended : from_ (checkRecorded host project compilers listen kind) s = (.ok result, t)) :
    ∃ log console commandEvents checkEvents found v,
      from_ (check host project compilers kind)
          { s with log, console, commandEvents, checkEvents } = (.ok found, v) ∧
        result = found.noteDelegation compilers.one.delegated ∧ t.disk = v.disk ∧
        t.samples = v.samples := by
  obtain ⟨log, console, commandEvents, checkEvents, talk⟩ := talks ⟨kind, none⟩ s
  obtain ⟨_, u, said, ended⟩ := from_bind_eq_ok ended
  cases talk.symm.trans said
  obtain ⟨found, v, checked, ended⟩ := from_bind_eq_ok ended
  obtain ⟨_, v', recorded, ended⟩ := from_bind_eq_ok ended
  obtain ⟨log', console', commandEvents', checkEvents', last⟩ := from_talks_return
    (talks ⟨kind, some (found.noteDelegation compilers.one.delegated)⟩)
    (found.noteDelegation compilers.one.delegated) v'
  cases last.symm.trans ended
  rw [from_onReport] at recorded
  split at recorded <;> cases recorded
  exact ⟨log, console, commandEvents, checkEvents, found, v, checked, rfl, rfl, rfl⟩

end Run

end StageParity
