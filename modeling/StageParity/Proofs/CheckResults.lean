import StageParity.Proofs.Escalation
import StageParity.Proofs.StageReports

/-!
# The results of checks

What the fields of a recorded result say of one another, and when a check is left out. A result is
made by a comparison or by leaving the check out, and only its note is changed afterwards, so the
fields agree however the commands went. Whether the compiled samples are run depends on the samples
that are known when that check begins. A run never forgets them: where the sample is not there to be
compiled, samples from before the run are still run.
-/

namespace StageParity

/-! ## Comparisons -/

theorem Sha256.hex_ne_nil (bytes : List UInt8) : hex bytes ≠ [] := by
  unfold hex digest
  dsimp only
  generalize State.absorbAll _ State.initial _ = state
  simp [State.words, Text.ofChars, hexDigits]

theorem Text.join_ne_nil {separator first : Text} (filled : first ≠ []) (rest : List Text) :
    Text.join separator (first :: rest) ≠ [] := by
  cases rest with
  | nil => simpa [join] using filled
  | cons second rest => simp [join, List.intercalate_cons_cons, filled]

namespace Comparison

theorem cut_cons (line : Text) (lines : List Text) :
    ∃ rest, cut (line :: lines) = line :: rest := by
  unfold cut
  split
  · exact ⟨_, rfl⟩
  · exact ⟨_, rfl⟩

/-- A difference is never empty: it begins with a head, or with a name before a quoted view. -/
theorem diff_ne_nil (kind : CheckKind) (a b : Captured) : diff kind a b ≠ [] := by
  unfold diff lineDiff LineDiff.unified
  split
  · exact Text.join_ne_nil (by simp [Text.ofString]) _
  · obtain ⟨rest, shown⟩ := cut_cons ("--- " ++ ("stage0" : Text)) (("+++ " ++ ("stage1" : Text)) ::
      (LineDiff.hunks (Text.printable (a.view kind)).lines
        (Text.printable (b.view kind)).lines).flatMap LineDiff.Hunk.text)
    rw [shown]
    exact Text.join_ne_nil (by simp [Text.ofString]) _

/-- Two outcomes are identical and nothing is shown, or they differ and something is. -/
theorem judge_cases (kind : CheckKind) (zero one : Outcome) :
    judge kind zero one = (.identical, []) ∨
      ∃ shown, shown ≠ [] ∧ judge kind zero one = (.differs, shown) := by
  by_cases agree : failureKind zero = failureKind one
  · by_cases same : zero.captured.view kind = one.captured.view kind
    · exact .inl (by simp [judge, verdict, agree, same])
    · refine .inr ⟨_, diff_ne_nil kind zero.captured one.captured, ?_⟩
      simp [judge, verdict, agree, same]
  · refine .inr ⟨_, fun empty => ?_, if_neg agree⟩
    -- Both forms begin with the name of stage zero.
    have named : ("stage0: " : Text) ≠ [] := by decide
    generalize (if verdict kind zero.captured one.captured = .differs then
      diff kind zero.captured one.captured else []) = shown at empty
    split at empty
    · simp only [List.append_eq_nil_iff] at empty
      exact named empty.1.1.1.1
    · simp only [List.append_eq_nil_iff] at empty
      exact named empty.1.1.1.1.1.1

theorem judge_ne_skipped (kind : CheckKind) (zero one : Outcome) :
    (judge kind zero one).1 ≠ .skipped := by
  rcases judge_cases kind zero one with same | ⟨shown, -, differ⟩
  · rw [same]
    simp
  · rw [differ]
    simp

theorem judge_differs_iff (kind : CheckKind) (zero one : Outcome) :
    (judge kind zero one).1 = .differs ↔ (judge kind zero one).2 ≠ [] := by
  rcases judge_cases kind zero one with same | ⟨shown, filled, differ⟩
  · rw [same]
    simp
  · rw [differ]
    exact iff_of_true rfl filled

end Comparison

namespace CheckResult

/-- The fields of a result agree. -/
structure WellFormed (r : CheckResult) : Prop where
  fatal : r.fatal = false
  outputs : r.verdict = .skipped ↔ ∀ stage, r.outputs.get stage = none
  hashes : r.verdict = .skipped ↔ ∀ stage, r.hashes.get stage = []
  absent : r.verdict = .skipped → (∀ stage, r.failures.get stage = none) ∧ r.diff = []
  present : r.verdict ≠ .skipped →
    (∀ stage, (r.outputs.get stage).isSome = true) ∧ (r.verdict = .differs ↔ r.diff ≠ [])

theorem WellFormed.withNote {r : CheckResult} (wellFormed : r.WellFormed) (note : Text) :
    { r with note }.WellFormed :=
  ⟨wellFormed.fatal, wellFormed.outputs, wellFormed.hashes, wellFormed.absent, wellFormed.present⟩

theorem noteOwn_eq (r : CheckResult) : ∃ note, r.noteOwn = { r with note } := by
  unfold noteOwn
  split
  · exact ⟨_, rfl⟩
  · exact ⟨r.note, rfl⟩

theorem noteDelegation_eq (r : CheckResult) (delegated : Bool) :
    ∃ note, r.noteDelegation delegated = { r with note } := by
  unfold noteDelegation
  split
  · exact ⟨_, rfl⟩
  · exact ⟨r.note, rfl⟩

theorem wellFormed_check (kind : CheckKind) (zero one : Outcome) (note : Text) :
    (Comparison.check kind zero one note).WellFormed where
  fatal := rfl
  outputs := by
    refine iff_of_false (Comparison.judge_ne_skipped kind zero one) fun none_ => ?_
    exact absurd (none_ .zero) (by simp [Comparison.check, Both.get])
  hashes := by
    refine iff_of_false (Comparison.judge_ne_skipped kind zero one) fun empty => ?_
    exact Sha256.hex_ne_nil _ (empty .zero)
  absent := fun skipped => absurd skipped (Comparison.judge_ne_skipped kind zero one)
  present := fun _ =>
    ⟨fun stage => by cases stage <;> rfl, Comparison.judge_differs_iff kind zero one⟩

theorem wellFormed_skip (kind : CheckKind) (reason : Text) :
    (Comparison.skip kind reason).WellFormed where
  fatal := rfl
  outputs := iff_of_true rfl fun stage => by cases stage <;> rfl
  hashes := iff_of_true rfl fun stage => by cases stage <;> rfl
  absent := fun _ => ⟨fun stage => by cases stage <;> rfl, rfl⟩
  present := fun attempted => absurd rfl attempted

/-- The note that a check puts on a comparison. -/
def ownNote (r : CheckResult) : Text :=
  if r.kind = .runtime then
    joinNotes [if r.diff.isEmpty then [] else runtimeNote, r.slowdownNote]
  else []

theorem noteOwn_note (kind : CheckKind) (zero one : Outcome) :
    (Comparison.check kind zero one []).noteOwn.note =
      (Comparison.check kind zero one []).noteOwn.ownNote := by
  cases kind <;> rfl

end CheckResult

namespace Run

variable {host : Host} {project : Project} {compilers : Both Artifact} {listen : CheckEvent → Run Unit}
  {s t : Session}

/-! ## One check -/

/-- What holds of a result that is recorded for a check that began in a state. -/
structure Recorded (host : Host) (project : Project) (delegated : Bool) (s : Session)
    (result : CheckResult) : Prop where
  wellFormed : result.WellFormed
  always : result.kind = .version ∨ result.kind = .selfDiagnostics → result.verdict ≠ .skipped
  compilation : result.kind = .compilation →
    (result.verdict = .skipped ↔ s.disk.hasFile host.cwd project.sample = false)
  runtime : result.kind = .runtime → (result.verdict = .skipped ↔ hasSamples s = false)
  note : result.note =
    if result.verdict = .skipped then skipReason project s result.kind
    else if delegated then CheckResult.joinNotes [result.ownNote, delegationNote]
    else result.ownNote

theorem recorded_check {kind : CheckKind} (attempted : attempts host project s kind = true)
    (delegated : Bool) (zero one : Outcome) :
    Recorded host project delegated s
      ((Comparison.check kind zero one []).noteOwn.noteDelegation delegated) := by
  obtain ⟨own, noteOwn⟩ := (Comparison.check kind zero one []).noteOwn_eq
  obtain ⟨last, noteLast⟩ :=
    (Comparison.check kind zero one []).noteOwn.noteDelegation_eq delegated
  have before := CheckResult.noteOwn_note kind zero one
  have judged := Comparison.judge_ne_skipped kind zero one
  have note : ((Comparison.check kind zero one []).noteOwn.noteDelegation delegated).note =
      if delegated then CheckResult.joinNotes
        [(Comparison.check kind zero one []).noteOwn.ownNote, delegationNote]
      else (Comparison.check kind zero one []).noteOwn.ownNote := by
    have ran : (Comparison.check kind zero one []).noteOwn.outputs.one.isSome = true := by
      rw [noteOwn]
      rfl
    rw [← before, CheckResult.noteDelegation, ran, Bool.and_true]
    split <;> rfl
  rw [noteLast, noteOwn] at note ⊢
  refine ⟨?_, fun _ => judged, fun same => ?_, fun same => ?_, note.trans (if_neg judged).symm⟩
  · exact ((CheckResult.wellFormed_check kind zero one []).withNote own).withNote last
  · cases same
    exact iff_of_false judged (by rw [show s.disk.hasFile _ _ = true from attempted]; decide)
  · cases same
    exact iff_of_false judged (by rw [show hasSamples s = true from attempted]; decide)

theorem recorded_skip {kind : CheckKind} (left : attempts host project s kind = false)
    (delegated : Bool) :
    Recorded host project delegated s
      ((Comparison.skip kind (skipReason project s kind)).noteDelegation delegated) := by
  have same : (Comparison.skip kind (skipReason project s kind)).noteDelegation delegated =
      Comparison.skip kind (skipReason project s kind) := by
    simp [CheckResult.noteDelegation, Comparison.skip]
  rw [same]
  refine ⟨CheckResult.wellFormed_skip _ _, fun always => ?_, fun same => ?_, fun same => ?_, rfl⟩
  · rcases always with same | same <;> cases same <;> cases left
  · cases same
    exact iff_of_true rfl left
  · cases same
    exact iff_of_true rfl left

theorem Finds.recorded {result : CheckResult} (finds : Finds host project compilers s result) :
    Recorded host project compilers.one.delegated s result := by
  obtain ⟨found, t, ended, noted⟩ := finds
  have shape := check_found ended
  rw [noted]
  split at shape
  · rename_i attempted
    obtain ⟨zero, one, rfl⟩ := shape
    exact recorded_check attempted _ zero one
  · rename_i left
    rw [shape]
    exact recorded_skip (Bool.eq_false_iff.mpr left) _

/-! ## The samples -/

theorem keeps_samples_check (compilers : Both Artifact) {kind : CheckKind}
    (spares : kind = .compilation → s.disk.hasFile host.cwd project.sample = false) :
    Keeps Session.samples s (check host project compilers kind) := by
  cases kind with
  | version | selfDiagnostics => exact (working_checkCompilers _ _ _).keeps_samples
  | runtime => exact working_checkRuntime.keeps_samples
  | compilation =>
      refine Keeps.bind (keeps_ask _) fun present t asked => ?_
      obtain ⟨answer, rfl⟩ := ask_eq_ok asked
      have missing := spares rfl
      rw [Disk.hasFile_of_ok answer] at missing
      rw [missing]
      exact (alone_skipCheck _ _ : Alone host project t _).working.keeps_samples

theorem keeps_samples_checkRecorded (compilers : Both Artifact) (discreet : Discreet listen)
    {kind : CheckKind}
    (spares : kind = .compilation →
      (from_ (listen ⟨kind, none⟩) s).2.disk.hasFile host.cwd project.sample = false) :
    Keeps Session.samples s (checkRecorded host project compilers listen kind) := by
  refine Keeps.bind (discreet _ s).2 fun _ t begun => ?_
  rw [begun] at spares
  refine Keeps.bind (keeps_samples_check compilers spares) fun found _ _ => ?_
  refine Keeps.bind (keeps_samples_onReport _) fun _ _ _ => ?_
  exact Keeps.bind (discreet _ _).2 fun _ _ _ => rfl

/-- Where the sample is not there to be compiled, the samples from before are the ones to run. -/
theorem samples_at_runtime (discreet : Discreet listen)
    (missing : (beginning host project compilers listen [.version] .compilation s).disk.hasFile
      host.cwd project.sample = false) :
    (beginning host project compilers listen [.version, .compilation] .runtime s).samples =
      s.samples := by
  have checks : Keeps Session.samples s
      ([.version, .compilation].mapM (checkRecorded host project compilers listen)) := by
    rw [List.mapM_cons]
    refine Keeps.bind (keeps_samples_checkRecorded compilers discreet fun same => by cases same) fun _ t first => ?_
    have later : beginning host project compilers listen [.version] .compilation s =
        (from_ (listen ⟨.compilation, none⟩) t).2 := beginning_cons first
    rw [later] at missing
    refine Keeps.bind ?_ fun _ _ _ => rfl
    rw [List.mapM_cons]
    refine Keeps.bind (keeps_samples_checkRecorded compilers discreet fun _ => missing) fun _ _ _ => ?_
    exact Keeps.bind rfl fun _ _ _ => rfl
  exact (discreet _ _).2.trans checks

/-! ## All checks -/

theorem keeps_results_recordNeverRan (results : List CheckResult) (stage : Stage) :
    Keeps (fun t => t.report.results) s (recordNeverRan results stage) := by
  unfold recordNeverRan
  split
  · refine Keeps.bind rfl fun _ t _ => ?_
    unfold Keeps
    rw [from_onReport, Report.recordFatal_eq]
    split <;> rename_i recorded <;> split at recorded <;> cases recorded <;> rfl
  · rfl

theorem keeps_results_neverRan (results : List CheckResult) (stages : List Stage) :
    Keeps (fun t => t.report.results) s (stages.forM (recordNeverRan results)) := by
  induction stages generalizing s with
  | nil => rfl
  | cons stage stages ih =>
      exact Keeps.bind (keeps_results_recordNeverRan results stage) fun _ _ _ => ih

/-- The state in which a check of a run begins. -/
def begun (host : Host) (project : Project) (compilers : Both Artifact)
    (listen : CheckEvent → Run Unit) (s : Session) (kind : CheckKind) : Session :=
  beginning host project compilers listen (CheckKind.order.take kind.index) kind s

theorem hasSamples_congr (same : t.samples = s.samples) : hasSamples t = hasSamples s := by
  unfold hasSamples
  rw [same]

theorem from_ensureBuilt_not {artifact : Artifact} (unbuilt : artifact.built = false) (s : Session) :
    from_ (ensureBuilt artifact) s = (.error (.notBuilt artifact.stage), s) := by
  unfold ensureBuilt
  rw [unbuilt]
  rfl

/-- A run of the checks is refused, or does all checks and then looks at the results. -/
theorem from_checkAll (host : Host) (project : Project) (compilers : Both Artifact)
    (listen : CheckEvent → Run Unit) (s : Session) :
    (∃ fault, from_ (checkAll host project compilers listen) s = (.error fault, s)) ∨
      from_ (checkAll host project compilers listen) s =
        from_ (do
          let results ← CheckKind.order.mapM (checkRecorded host project compilers listen)
          Stage.all.forM (recordNeverRan results)
          return results) s := by
  cases zero : compilers.zero.built with
  | false => exact .inl ⟨_, from_bind_error (from_ensureBuilt_not zero s) _⟩
  | true =>
      have first : from_ (checkAll host project compilers listen) s = _ :=
        from_bind_ok (from_ensureBuilt zero s) _
      cases one : compilers.one.built with
      | false => exact .inl ⟨_, first.trans (from_bind_error (from_ensureBuilt_not one s) _)⟩
      | true => exact .inr (first.trans (from_bind_ok (from_ensureBuilt one s) _))

theorem results_of_checkAll (host : Host) (project : Project) (compilers : Both Artifact)
    (discreet : Discreet listen) (s : Session) :
    let ended := from_ (checkAll host project compilers listen) s
    ∃ results, ended.2.report.results = s.report.results ++ results ∧
      results.map CheckResult.kind <+: CheckKind.order ∧
      (∀ answers, ended.1 = .ok answers →
        answers = results ∧ results.map CheckResult.kind = CheckKind.order) ∧
      ∀ before result after, results = before ++ result :: after →
        Finds host project compilers (beginning host project compilers listen
          (before.map CheckResult.kind) result.kind s) result := by
  intro ended
  rcases from_checkAll host project compilers listen s with ⟨fault, refused⟩ | whole
  · have same : ended = (.error fault, s) := refused
    rw [same]
    refine ⟨[], (List.append_nil _).symm, List.nil_prefix, ?_, ?_⟩
    · rintro _ ⟨⟩
    · intro before result after split
      simp at split
  · obtain ⟨results, report, order, answers, finds⟩ :=
      results_of_checks host project compilers discreet CheckKind.order s
    refine ⟨results, ?_, order, ?_, finds⟩
    · have kept : ended.2.report.results = (from_ (CheckKind.order.mapM
          (checkRecorded host project compilers listen)) s).2.report.results := by
        have same : ended = _ := whole
        rw [same, from_bind]
        rcases from_ (CheckKind.order.mapM (checkRecorded host project compilers listen)) s with
          ⟨fault | found, t⟩
        · rfl
        · exact Keeps.bind (keeps_results_neverRan found Stage.all) fun _ _ _ => rfl
      rw [kept, report]
      rfl
    · intro all done
      have same : from_ (checkAll host project compilers listen) s = (.ok all, ended.2) :=
        Prod.ext done rfl
      obtain ⟨found, t, checked, rest⟩ := from_bind_eq_ok (whole.symm.trans same)
      obtain ⟨_, u, -, returned⟩ := from_bind_eq_ok rest
      cases returned
      exact answers all (by rw [checked])

/-- What all checks of a run record, however far they come. -/
theorem recorded_of_checks (discreet : Discreet listen) (s : Session) {results : List CheckResult}
    (order : results.map CheckResult.kind <+: CheckKind.order)
    (finds : ∀ before result after, results = before ++ result :: after →
      Finds host project compilers (beginning host project compilers listen
        (before.map CheckResult.kind) result.kind s) result) :
    (∀ result ∈ results, Recorded host project compilers.one.delegated
        (begun host project compilers listen s result.kind) result) ∧
      ∀ compiled ∈ results, ∀ ran ∈ results, compiled.kind = .compilation → ran.kind = .runtime →
        compiled.verdict = .skipped → (ran.verdict = .skipped ↔ hasSamples s = false) := by
  have recorded : ∀ result ∈ results, Recorded host project compilers.one.delegated
      (begun host project compilers listen s result.kind) result := by
    intro result member
    obtain ⟨before, after, split⟩ := List.append_of_mem member
    obtain ⟨more, whole⟩ := order
    have place : CheckKind.order = before.map CheckResult.kind ++
        result.kind :: (after.map CheckResult.kind ++ more) := by
      rw [← whole, split]
      simp
    have found := (finds before result after split).recorded
    rwa [order_split place] at found
  refine ⟨recorded, fun compiled compiledIn ran ranIn isCompilation isRuntime skipped => ?_⟩
  have missing := ((recorded compiled compiledIn).compilation isCompilation).mp skipped
  have later := (recorded ran ranIn).runtime isRuntime
  rw [isCompilation] at missing
  rw [isRuntime] at later
  rw [later]
  have known : (begun host project compilers listen s .runtime).samples = s.samples :=
    samples_at_runtime discreet missing
  rw [hasSamples_congr known]

/-- **The results of a run are well formed.** However the checks end, each recorded result has
fields that agree; it is left out just if its check could not be attempted when it began; and its
note is the one of its check, with the note on a stage one that hands its calls on just if the
check was attempted. Where the compilation is left out the run of the samples is too, unless both
samples were known before. -/
theorem checkAll_results_wellFormed (host : Host) (project : Project) (compilers : Both Artifact)
    (discreet : Discreet listen) (s : Session) :
    let ended := from_ (checkAll host project compilers listen) s
    ∃ results, ended.2.report.results = s.report.results ++ results ∧
      results.map CheckResult.kind <+: CheckKind.order ∧
      (∀ answers, ended.1 = .ok answers →
        answers = results ∧ results.map CheckResult.kind = CheckKind.order) ∧
      (∀ result ∈ results, Recorded host project compilers.one.delegated
        (begun host project compilers listen s result.kind) result) ∧
      ∀ compiled ∈ results, ∀ ran ∈ results, compiled.kind = .compilation → ran.kind = .runtime →
        compiled.verdict = .skipped → (ran.verdict = .skipped ↔ hasSamples s = false) := by
  intro ended
  obtain ⟨results, report, order, answers, finds⟩ :=
    results_of_checkAll host project compilers discreet s
  obtain ⟨recorded, runs⟩ := recorded_of_checks discreet s order finds
  exact ⟨results, report, order, answers, recorded, runs⟩

/-- Samples from before a run are run although there is no sample to compile. -/
theorem checkAll_results_stale_samples :
    let project : Project := ⟨Path.ofText "/", .standard⟩
    let compilers : Both Artifact :=
      ⟨⟨.zero, Path.ofText "/cc0", true, [], false⟩, ⟨.one, Path.ofText "/cc1", true, [], true⟩⟩
    let disk : Disk := ⟨[([Text.ofString "tmp"], .directory 0o755)]⟩
    let s := { Session.start disk (Scratch.fresh none false) with
      samples := ⟨some (Path.ofText "/old0"), some (Path.ofText "/old1")⟩ }
    Discreet noteCheck ∧ hasSamples s = true ∧
      ∃ results, (from_ (checkAll (.always .quick) project compilers noteCheck) s).2.report.results = results ∧
        (results.map fun result => (result.kind, result.verdict)) =
          [(.version, .identical), (.compilation, .skipped), (.runtime, .identical),
            (.selfDiagnostics, .identical)] ∧
        ∀ result ∈ results, result.WellFormed ∧ (result.verdict ≠ .skipped →
          result.note = CheckResult.joinNotes [result.ownNote, delegationNote]) := by
  intro project compilers disk s
  have discreet : Discreet noteCheck := fun _ _ => ⟨rfl, rfl⟩
  have verdicts : ((from_ (checkAll (.always .quick) project compilers noteCheck) s).2.report.results.map
      fun result => (result.kind, result.verdict)) =
        [(.version, .identical), (.compilation, .skipped), (.runtime, .identical),
          (.selfDiagnostics, .identical)] := by
    decide +kernel
  obtain ⟨results, report, -, -, recorded, -⟩ :=
    checkAll_results_wellFormed (.always .quick) project compilers discreet s
  have same : (from_ (checkAll (.always .quick) project compilers noteCheck) s).2.report.results = results :=
    report
  rw [same] at verdicts
  refine ⟨discreet, rfl, results, same, verdicts, fun result member => ?_⟩
  refine ⟨(recorded result member).wellFormed, fun attempted => ?_⟩
  rw [(recorded result member).note, if_neg attempted]
  rfl

end Run

end StageParity
