import StageParity.Proofs.Plan

/-!
# How the stages end

The stages end in one of four ways: the build of a compiler does not come to its end, a check
does not, or all checks are done. Each of them leaves its own report, which is then closed.
-/

namespace StageParity

open Relation (ReflTransGen)

namespace Report

variable {r after : Report}

theorem setArtifact_ok {artifact : Artifact} (recorded : r.setArtifact artifact = .ok after) :
    after = { r with artifacts := r.artifacts.set artifact.stage (some artifact) } := by
  rw [setArtifact_eq] at recorded
  split at recorded <;> cases recorded
  rfl

/-- The report with more results. -/
def adding (r : Report) (results : List CheckResult) : Report :=
  { r with results := r.results ++ results }

@[simp] theorem adding_nil (r : Report) : r.adding [] = r := by
  unfold adding
  rw [List.append_nil]

@[simp] theorem adding_adding (r : Report) (first second : List CheckResult) :
    (r.adding first).adding second = r.adding (first ++ second) := by
  unfold adding
  rw [List.append_assoc]

/-- The report with more errors after which the run cannot pass. -/
def blaming (r : Report) (messages : List Text) : Report :=
  { r with fatalErrors := r.fatalErrors ++ messages }

@[simp] theorem blaming_nil (r : Report) : r.blaming [] = r := by
  unfold blaming
  rw [List.append_nil]

@[simp] theorem blaming_blaming (r : Report) (first second : List Text) :
    (r.blaming first).blaming second = r.blaming (first ++ second) := by
  unfold blaming
  rw [List.append_assoc]

theorem recordFatal_open (open_ : r.status = none) (message : Text) :
    r.recordFatal message = .ok (r.blaming [message]) := by
  have unfinished : r.finalized = false := by rw [finalized, open_]; rfl
  rw [recordFatal_eq, unfinished]
  rfl

/-- The report with its status fixed. -/
def closing (r : Report) (now : Text) : Report :=
  { r with completedAt := some now, status := some (if r.hasFatal then .fail else .pass) }

theorem finalize_open (open_ : r.status = none) (now : Text) :
    r.finalize now = .ok (r.closing now) := by
  have unfinished : r.finalized = false := by rw [finalized, open_]; rfl
  rw [finalize_eq, unfinished]
  rfl

theorem addResult_ok {result : CheckResult} (recorded : r.addResult result = .ok after) :
    after = r.adding [result] := by
  rw [addResult_eq] at recorded
  split at recorded
  · cases recorded
  · split at recorded
    · split at recorded <;> cases recorded
      rfl
    · cases recorded
      rfl

end Report

/-- The result with the notes that its own check puts on it. -/
def CheckResult.noteOwn (r : CheckResult) : CheckResult :=
  if r.kind = .runtime then r.noteRuntime else r

@[simp] theorem CheckResult.noteOwn_kind (r : CheckResult) : r.noteOwn.kind = r.kind := by
  unfold noteOwn
  split <;> rfl

@[simp] theorem CheckResult.noteDelegation_kind (result : CheckResult) (delegated : Bool) :
    (result.noteDelegation delegated).kind = result.kind := by
  unfold noteDelegation
  split <;> rfl

namespace Run

variable {host : Host} {project : Project} {verbose : Bool} {s t : Session}

/-! ## The checks -/

/-- Why a check that starts from a state is left out, if it is. -/
def skipReason (project : Project) (s : Session) : CheckKind → Text
  | .version | .selfDiagnostics => []
  | .compilation => "sample program not found: " ++ project.sample.text
  | .runtime =>
    "no compiled sample binary for " ++
      Text.join ", " ((Stage.all.filter fun stage => (s.samples.get stage).isNone).map Stage.label)

/-- A check that is attempted compares two outcomes, and any other one says why it is left out. -/
theorem check_found {compilers : Both Artifact} {kind : CheckKind} {found : CheckResult}
    (ended : from_ (check host project compilers kind) s = (.ok found, t)) :
    if attempts host project s kind then
      ∃ zero one, found = (Comparison.check kind zero one []).noteOwn
    else found = Comparison.skip kind (skipReason project s kind) := by
  cases kind with
  | version | selfDiagnostics =>
      obtain ⟨zero, _, -, ended⟩ := from_bind_eq_ok ended
      obtain ⟨one, _, -, ended⟩ := from_bind_eq_ok ended
      obtain ⟨_, _, -, ended⟩ := from_bind_eq_ok ended
      exact ⟨zero, one, compareOutcomes_ok ended⟩
  | compilation =>
      obtain ⟨present, _, asked, ended⟩ := from_bind_eq_ok ended
      obtain ⟨answer, rfl⟩ := ask_eq_ok asked
      rw [attempts, Disk.hasFile_of_ok answer]
      cases present with
      | false =>
          cases ended
          rfl
      | true =>
          obtain ⟨_, _, -, ended⟩ := from_bind_eq_ok ended
          obtain ⟨_, _, -, ended⟩ := from_bind_eq_ok ended
          obtain ⟨zero, _, -, ended⟩ := from_bind_eq_ok ended
          obtain ⟨one, _, -, ended⟩ := from_bind_eq_ok ended
          obtain ⟨_, _, -, ended⟩ := from_bind_eq_ok ended
          obtain ⟨_, _, -, ended⟩ := from_bind_eq_ok ended
          obtain ⟨_, _, -, ended⟩ := from_bind_eq_ok ended
          exact ⟨zero, one, compareOutcomes_ok ended⟩
  | runtime =>
      change from_ (checkRuntime host project) s = (.ok found, t) at ended
      unfold checkRuntime at ended
      rw [from_get_bind] at ended
      dsimp only at ended
      split at ended
      · rename_i first second
        have both : attempts host project s .runtime = true := by
          simp [attempts, hasSamples, Stage.all, Both.get, first, second]
        rw [both, if_pos rfl]
        obtain ⟨zero, _, -, ended⟩ := from_bind_eq_ok ended
        obtain ⟨one, _, -, ended⟩ := from_bind_eq_ok ended
        obtain ⟨_, _, -, ended⟩ := from_bind_eq_ok ended
        obtain ⟨compared, _, judged, ended⟩ := from_bind_eq_ok ended
        cases ended
        rw [compareOutcomes_ok judged]
        exact ⟨zero, one, rfl⟩
      · rename_i absent
        have missing : attempts host project s .runtime = false := by
          cases first : s.samples.zero with
          | none => simp [attempts, hasSamples, Stage.all, Both.get, first]
          | some zero =>
              cases second : s.samples.one with
              | none => simp [attempts, hasSamples, Stage.all, Both.get, second]
              | some one => exact absurd second (absent zero one first)
        rw [missing, if_neg Bool.false_ne_true]
        cases ended
        rfl

theorem check_kind {compilers : Both Artifact} {kind : CheckKind} {result : CheckResult}
    (ended : from_ (check host project compilers kind) s = (.ok result, t)) : result.kind = kind := by
  have found := check_found ended
  split at found
  · obtain ⟨zero, one, rfl⟩ := found
    rw [CheckResult.noteOwn_kind]
    rfl
  · rw [found]
    rfl

/-- Whoever is told of the checks leaves the report and the compiled samples as they are. -/
def Discreet (listen : CheckEvent → Run Unit) : Prop :=
  ∀ event t, Keeps Session.report t (listen event) ∧ Keeps Session.samples t (listen event)

theorem discreet_of_talks {listen : CheckEvent → Run Unit} (talks : ∀ event, Talks (listen event)) :
    Discreet listen := fun event _ => ⟨(talks event).keeps_report, (talks event).keeps_samples⟩

section Recording

variable {listen : CheckEvent → Run Unit} {compilers : Both Artifact}

/-- A result is what a check finds that begins in a state, with the note on a stage one that hands
its calls on. -/
def Finds (host : Host) (project : Project) (compilers : Both Artifact) (s : Session)
    (result : CheckResult) : Prop :=
  ∃ found t, from_ (check host project compilers result.kind) s = (.ok found, t) ∧
    result = found.noteDelegation compilers.one.delegated

/-- A check is stopped and records nothing, or its result is recorded. Even then it may be stopped,
while its end is told. -/
theorem checkRecorded_cases (host : Host) (project : Project) (compilers : Both Artifact)
    (discreet : Discreet listen) (kind : CheckKind) (s : Session) :
    let ended := from_ (checkRecorded host project compilers listen kind) s
    (ended.2.report = s.report ∧ ∃ fault, ended.1 = .error fault) ∨
      ∃ result, Finds host project compilers (from_ (listen ⟨kind, none⟩) s).2 result ∧
        result.kind = kind ∧ ended.2.report = s.report.adding [result] ∧
        ∀ answer, ended.1 = .ok answer → answer = result := by
  intro ended
  rcases begun : from_ (listen ⟨kind, none⟩) s with ⟨fault | _, u⟩
  · have stopped : ended = (.error fault, u) := from_bind_error begun _
    rw [stopped]
    exact .inl ⟨(discreet _ s).1.of_eq begun, fault, rfl⟩
  have goesOn : ended = _ := from_bind_ok begun _
  rcases checked : from_ (check host project compilers kind) u with ⟨fault | found, v⟩
  · have stopped : ended = (.error fault, v) := goesOn.trans (from_bind_error checked _)
    rw [stopped]
    exact .inl ⟨((keeps_report_check compilers kind).of_eq checked).trans
      ((discreet _ s).1.of_eq begun), fault, rfl⟩
  have kept : v.report = s.report := ((keeps_report_check compilers kind).of_eq checked).trans
    ((discreet _ s).1.of_eq begun)
  let result := found.noteDelegation compilers.one.delegated
  have recording := goesOn.trans (from_bind_ok checked _)
  have written := from_onReport (fun report => report.addResult result) v
  cases added : v.report.addResult result with
  | error fault =>
      rw [added] at written
      have stopped : ended = (.error fault, v) := recording.trans (from_bind_error written _)
      rw [stopped]
      exact .inl ⟨kept, fault, rfl⟩
  | ok report =>
      rw [added] at written
      have recorded : report = s.report.adding [result] := by rw [Report.addResult_ok added, kept]
      have telling := recording.trans (from_bind_ok written _)
      have named : result.kind = kind := by
        rw [CheckResult.noteDelegation_kind]
        exact check_kind checked
      refine .inr ⟨result, ⟨found, v, by rw [named]; exact checked, rfl⟩, named, ?_⟩
      rcases told : from_ (listen ⟨kind, some result⟩) { v with report } with ⟨fault | _, w⟩
      · have stopped : ended = (.error fault, w) := telling.trans (from_bind_error told _)
        rw [stopped]
        refine ⟨((discreet _ _).1.of_eq told).trans recorded, fun other ended => ?_⟩
        cases ended
      · have done : ended = (.ok result, w) := telling.trans (from_bind_ok told _)
        rw [done]
        refine ⟨((discreet _ _).1.of_eq told).trans recorded, fun other ended => ?_⟩
        cases ended
        rfl

/-- The state in which a check begins after others were recorded: its start was told. -/
def beginning (host : Host) (project : Project) (compilers : Both Artifact)
    (listen : CheckEvent → Run Unit) (earlier : List CheckKind) (kind : CheckKind) (s : Session) :
    Session :=
  let before := (from_ (earlier.mapM (checkRecorded host project compilers listen)) s).2
  (from_ (listen ⟨kind, none⟩) before).2

theorem beginning_cons {earlier : List CheckKind} {first kind : CheckKind} {result : CheckResult}
    (ended : from_ (checkRecorded host project compilers listen first) s = (.ok result, t)) :
    beginning host project compilers listen (first :: earlier) kind s =
      beginning host project compilers listen earlier kind t := by
  unfold beginning
  rw [List.mapM_cons, from_bind_ok ended, from_bind]
  rcases from_ (earlier.mapM (checkRecorded host project compilers listen)) t with ⟨_ | _, u⟩ <;> rfl

/-- The results of checks are recorded one after the other, as far as the checks come. -/
theorem results_of_checks (host : Host) (project : Project) (compilers : Both Artifact)
    (discreet : Discreet listen) (kinds : List CheckKind) (s : Session) :
    let ended := from_ (kinds.mapM (checkRecorded host project compilers listen)) s
    ∃ results, ended.2.report = s.report.adding results ∧
      results.map CheckResult.kind <+: kinds ∧
      (∀ answers, ended.1 = .ok answers →
        answers = results ∧ results.map CheckResult.kind = kinds) ∧
      ∀ before result after, results = before ++ result :: after →
        Finds host project compilers (beginning host project compilers listen
          (before.map CheckResult.kind) result.kind s) result := by
  induction kinds generalizing s with
  | nil =>
      refine ⟨[], (Report.adding_nil _).symm, List.nil_prefix, ?_, ?_⟩
      · rintro _ ⟨⟩
        exact ⟨rfl, rfl⟩
      · intro before result after split
        simp at split
  | cons kind kinds ih =>
      rw [List.mapM_cons]
      intro ended
      rcases checkRecorded_cases host project compilers discreet kind s with
        ⟨kept, fault, stopped⟩ | ⟨result, finds, rfl, recorded, answered⟩
      · have none_ : ended = (.error fault, _) := from_bind_error (Prod.ext stopped rfl) _
        rw [none_]
        refine ⟨[], kept.trans (Report.adding_nil _).symm, List.nil_prefix, ?_, ?_⟩
        · rintro _ ⟨⟩
        · intro before result after split
          simp at split
      · rcases first : from_ (checkRecorded host project compilers listen result.kind) s with
          ⟨fault | answer, t⟩
        · rw [first] at recorded
          have one : ended = (.error fault, t) := from_bind_error first _
          rw [one]
          refine ⟨[result], recorded, List.cons_prefix_cons.mpr ⟨rfl, List.nil_prefix⟩, ?_, ?_⟩
          · rintro _ ⟨⟩
          · intro before other after split
            cases before with
            | nil =>
                cases split
                exact finds
            | cons => simp at split
        · rw [first] at recorded answered
          cases answered answer rfl
          obtain ⟨results, report, order, answers, later⟩ := ih t
          have goesOn : ended = _ := from_bind_ok first _
          have all : ∀ before other after, result :: results = before ++ other :: after →
              Finds host project compilers (beginning host project compilers listen
                (before.map CheckResult.kind) other.kind s) other := by
            intro before other after split
            cases before with
            | nil =>
                cases split
                exact finds
            | cons head before =>
                cases split
                rw [List.map_cons, beginning_cons first]
                exact later before other after rfl
          have added : (t.report.adding results) = s.report.adding (result :: results) := by
            rw [recorded, Report.adding_adding]
            rfl
          have start : (result :: results).map CheckResult.kind <+: result.kind :: kinds :=
            List.cons_prefix_cons.mpr ⟨rfl, order⟩
          rcases rest : from_ (kinds.mapM (checkRecorded host project compilers listen)) t with
            ⟨fault | others, u⟩
          · rw [rest] at report
            have stopped : ended = (.error fault, u) := goesOn.trans (from_bind_error rest _)
            rw [stopped]
            refine ⟨result :: results, report.trans added, start, ?_, all⟩
            rintro _ ⟨⟩
          · rw [rest] at report answers
            obtain ⟨rfl, whole⟩ := answers others rfl
            have done : ended = (.ok (result :: others), u) := goesOn.trans (from_bind_ok rest _)
            rw [done]
            refine ⟨result :: others, report.trans added, start, ?_, all⟩
            rintro _ ⟨⟩
            exact ⟨rfl, by rw [List.map_cons, whole]⟩

theorem report_of_checks (host : Host) (project : Project) (talks : ∀ event, Talks (listen event))
    (compilers : Both Artifact) (kinds : List CheckKind) (s : Session) :
    match from_ (kinds.mapM (checkRecorded host project compilers listen)) s with
    | (.ok results, t) =>
      results.map CheckResult.kind = kinds ∧ t.report = s.report.adding results
    | (.error _, t) =>
      ∃ results, results.map CheckResult.kind <+: kinds ∧ t.report = s.report.adding results := by
  obtain ⟨results, report, first, answers, -⟩ :=
    results_of_checks host project compilers (discreet_of_talks talks) kinds s
  rcases ended : from_ (kinds.mapM (checkRecorded host project compilers listen)) s with
    ⟨fault | answer, t⟩
  · rw [ended] at report
    exact ⟨results, first, report⟩
  · rw [ended] at report answers
    obtain ⟨rfl, order⟩ := answers answer rfl
    exact ⟨order, report⟩

end Recording

/-- The errors that are recorded for compilers that never ran. -/
def neverRan (results : List CheckResult) (stages : List Stage) : List Text :=
  (stages.filter fun stage => !CheckResult.everRan results stage).map fun stage =>
    stage.label ++ " compiler could not be invoked in any check"

theorem from_recordNeverRan (open_ : s.report.status = none) (results : List CheckResult)
    (stages : List Stage) :
    ∃ log, from_ (stages.forM (recordNeverRan results)) s =
      (.ok (), { s with log, report := s.report.blaming (neverRan results stages) }) := by
  induction stages generalizing s with
  | nil =>
      refine ⟨s.log, ?_⟩
      rw [neverRan, List.filter_nil, List.map_nil, Report.blaming_nil]
      rfl
  | cons stage stages ih =>
      cases ran : CheckResult.everRan results stage with
      | true =>
          have first : from_ (recordNeverRan results stage) s = (.ok (), s) := by
            unfold recordNeverRan
            rw [ran]
            rfl
          have same : neverRan results (stage :: stages) = neverRan results stages := by
            simp [neverRan, ran]
          obtain ⟨log, rest⟩ := ih open_
          rw [same]
          exact ⟨log, (from_bind_ok first _).trans rest⟩
      | false =>
          let message : Text := stage.label ++ " compiler could not be invoked in any check"
          let u : Session := { s with log := s.log ++ [⟨.error, message⟩] }
          have first : from_ (recordNeverRan results stage) s =
              (.ok (), { u with report := s.report.blaming [message] }) := by
            unfold recordNeverRan
            rw [ran]
            have said : from_ (log .error message) s = (.ok (), u) := rfl
            exact (from_bind_ok said _).trans
              (from_onReport_ok (s := u) (Report.recordFatal_open open_ message))
          have more : s.report.blaming (neverRan results (stage :: stages)) =
              (s.report.blaming [message]).blaming (neverRan results stages) := by
            simp [neverRan, ran, message]
          obtain ⟨log, rest⟩ := ih (s := { u with report := s.report.blaming [message] }) open_
          rw [more]
          exact ⟨log, (from_bind_ok first _).trans rest⟩

/-! ## The stages -/

theorem report_of_stageZero {zero : Artifact} {m : Session}
    (built : from_ (stageZero host project) s = (.ok zero, m)) :
    m.report = { s.report with artifacts := s.report.artifacts.set .zero (some zero) } := by
  have records : Records Report.setArtifact s (stageZero host project) := records_stageZero
  rw [Records, built] at records
  rw [← (stageZero_ok built).1]
  exact Report.setArtifact_ok records

/-- What is known once both compilers are built. -/
structure Built (s : Session) (zero one : Artifact) (u : Session) : Prop where
  zeroBuilt : zero.built = true
  oneBuilt : one.built = true
  report : u.report = { s.report with artifacts := ⟨some zero, some one⟩ }

theorem built_of_stages {zero one : Artifact} {m u : Session} (live : s.scratch.tornDown = false)
    (builtZero : from_ (stageZero host project) s = (.ok zero, m))
    (builtOne : from_ (stageOne host project zero) m = (.ok one, u)) :
    Built s zero one u := by
  obtain ⟨-, zeroBuilt, w, workdir, -⟩ := stageZero_ok builtZero
  have liveThen : m.scratch.tornDown = false :=
    (Deed.frame (doing_stageZero.deeds builtZero)).2.1.trans live
  obtain ⟨stage, oneBuilt, -⟩ := stageOne_ok zeroBuilt liveThen workdir builtOne
  have records : Records Report.setArtifact m (stageOne host project zero) := records_stageOne zero
  rw [Records, builtOne] at records
  refine ⟨zeroBuilt, oneBuilt, ?_⟩
  rw [Report.setArtifact_ok records, stage, report_of_stageZero builtZero]
  rfl

/-- The ways in which stages end that are taken from a state, with what they leave in the
report. -/
inductive StagesEnd (host : Host) (project : Project) (verbose : Bool) (s : Session) :
    Except Fault Unit → Session → Prop where
  | zeroFails {fault : Fault} {t : Session} :
      from_ (stageZero host project) s = (.error fault, t) → t.report = s.report →
      StagesEnd host project verbose s (.error fault) t
  | oneFails {zero : Artifact} {m t : Session} {fault : Fault} :
      from_ (stageZero host project) s = (.ok zero, m) →
      from_ (stageOne host project zero) m = (.error fault, t) →
      t.report = { s.report with artifacts := s.report.artifacts.set .zero (some zero) } →
      StagesEnd host project verbose s (.error fault) t
  | checkFails {zero one : Artifact} {m u t : Session} {results : List CheckResult} {fault : Fault} :
      from_ (stageZero host project) s = (.ok zero, m) →
      from_ (stageOne host project zero) m = (.ok one, u) →
      from_ (upTo host project verbose CheckKind.order) s = (.error fault, t) →
      ReflTransGen (Deed host project) u t →
      results.map CheckResult.kind <+: CheckKind.order →
      t.report = Report.adding { s.report with artifacts := ⟨some zero, some one⟩ } results →
      StagesEnd host project verbose s (.error fault) t
  | checked {zero one : Artifact} {m u t : Session} {results : List CheckResult} {log : List Record} :
      from_ (stageZero host project) s = (.ok zero, m) →
      from_ (stageOne host project zero) m = (.ok one, u) →
      from_ (upTo host project verbose CheckKind.order) s = (.ok results, t) →
      ReflTransGen (Deed host project) u t →
      results.map CheckResult.kind = CheckKind.order →
      t.report = Report.adding { s.report with artifacts := ⟨some zero, some one⟩ } results →
      StagesEnd host project verbose s (.ok ())
        { t with log, report := t.report.blaming (neverRan results Stage.all) }

theorem stages_end (live : s.scratch.tornDown = false) (open_ : s.report.status = none) :
    StagesEnd host project verbose s (from_ (stages host project verbose) s).1
      (from_ (stages host project verbose) s).2 := by
  rw [stages_eq]
  have zeroRecords : Records Report.setArtifact s (stageZero host project) := records_stageZero
  rcases builtZero : from_ (stageZero host project) s with ⟨fault | zero, m⟩
  · have reached : from_ (upTo host project verbose CheckKind.order) s = (.error fault, m) :=
      from_bind_error builtZero _
    rw [Records, builtZero] at zeroRecords
    rw [from_bind_error reached]
    exact .zeroFails builtZero zeroRecords
  · have oneRecords : Records Report.setArtifact m (stageOne host project zero) :=
      records_stageOne zero
    rcases builtOne : from_ (stageOne host project zero) m with ⟨fault | one, u⟩
    · have reached : from_ (upTo host project verbose CheckKind.order) s = (.error fault, u) :=
        (from_bind_ok builtZero _).trans (from_bind_error builtOne _)
      rw [Records, builtOne] at oneRecords
      rw [from_bind_error reached]
      exact .oneFails builtZero builtOne (oneRecords.trans (report_of_stageZero builtZero))
    · have built := built_of_stages live builtZero builtOne
      have same : from_ (upTo host project verbose CheckKind.order) s = _ :=
        from_upTo builtZero builtOne built.zeroBuilt built.oneBuilt _
      have report := report_of_checks host project (talks_printCheckEvent verbose) ⟨zero, one⟩
        CheckKind.order u
      rw [← same, built.report] at report
      have doing : ∀ {result t}, from_ (upTo host project verbose CheckKind.order) s = (result, t) →
          ReflTransGen (Deed host project) u t := fun reached =>
        (Doing.mapM fun kind _ => doing_checkRecorded (talks_printCheckEvent verbose) _ kind).deeds
          (same.symm.trans reached)
      rcases reached : from_ (upTo host project verbose CheckKind.order) s with ⟨fault | results, t⟩
      · rw [reached] at report
        obtain ⟨results, first, report⟩ := report
        rw [from_bind_error reached]
        exact .checkFails builtZero builtOne reached (doing reached) first report
      · rw [reached] at report
        obtain ⟨order, report⟩ := report
        have stillOpen : t.report.status = none := by
          rw [report]
          exact open_
        obtain ⟨log, ended⟩ := from_recordNeverRan stillOpen results Stage.all
        rw [from_bind_ok reached, ended]
        exact .checked builtZero builtOne reached (doing reached) order report

/-- Stages that fail do so before the last check is done. -/
theorem StagesEnd.upTo_eq {fault : Fault} (ends : StagesEnd host project verbose s (.error fault) t) :
    from_ (upTo host project verbose CheckKind.order) s = (.error fault, t) := by
  cases ends with
  | zeroFails failed _ => exact from_bind_error failed _
  | oneFails built failed _ => exact (from_bind_ok built _).trans (from_bind_error failed _)
  | checkFails _ _ reached _ _ _ => exact reached

/-- The status stays open through the stages. -/
theorem StagesEnd.status_eq {result : Except Fault Unit}
    (ends : StagesEnd host project verbose s result t) : t.report.status = s.report.status := by
  cases ends with
  | zeroFails _ report => rw [report]
  | oneFails _ _ report => rw [report]
  | checkFails _ _ _ _ _ report => rw [report]; rfl
  | checked _ _ _ _ _ report => dsimp only; rw [report]; rfl

/-- Stages that fail name no fatal error of their own. -/
theorem StagesEnd.fatalErrors_eq {fault : Fault}
    (ends : StagesEnd host project verbose s (.error fault) t) :
    t.report.fatalErrors = s.report.fatalErrors := by
  cases ends with
  | zeroFails _ report => rw [report]
  | oneFails _ _ report => rw [report]
  | checkFails _ _ _ _ _ report => rw [report]; rfl

/-- The report is closed after stages that end well or with a fatal fault; any other fault goes
on. -/
theorem from_stagesReported (host : Host) (project : Project) (verbose : Bool)
    (live : s.scratch.tornDown = false) (open_ : s.report.status = none) :
    ∃ log console, from_ (stagesReported host project verbose) s =
      let ended := from_ (stages host project verbose) s
      match ended.1 with
      | .ok () => (.ok (), { ended.2 with report := ended.2.report.closing host.timeOfDay })
      | .error fault =>
        if fault.isFatal then
          (.ok (), { ended.2 with
            log, console
            report := (ended.2.report.blaming [fault.entry]).closing host.timeOfDay })
        else (.error fault, ended.2) := by
  have ends : StagesEnd host project verbose s _ _ := stages_end live open_
  have stillOpen := ends.status_eq.trans open_
  unfold stagesReported
  rw [from_bind_ok (from_attempt _ s)]
  generalize from_ (stages host project verbose) s = ended at stillOpen ⊢
  obtain ⟨fault | done, t⟩ := ended
  · dsimp only at stillOpen ⊢
    cases fatal : fault.isFatal with
    | false => exact ⟨t.log, t.console, rfl⟩
    | true =>
        let u : Session := { t with log := t.log ++ [⟨.error, "Fatal: " ++ fault.message⟩] }
        obtain ⟨console, printed⟩ := from_printError fault.message u
        refine ⟨u.log, console, ?_⟩
        have logged : from_ (log .error ("Fatal: " ++ fault.message)) t = (.ok (), u) := rfl
        have blamed : from_ (onReport fun report => report.recordFatal fault.entry)
            { u with console } = _ := from_onReport_ok (Report.recordFatal_open stillOpen fault.entry)
        have closed : from_ (onReport fun report => report.finalize host.timeOfDay)
            { u with console, report := t.report.blaming [fault.entry] } = _ :=
          from_onReport_ok (Report.finalize_open (by exact stillOpen) host.timeOfDay)
        exact (from_bind_ok logged _).trans ((from_bind_ok printed _).trans
          ((from_bind_ok blamed _).trans closed))
  · exact ⟨t.log, t.console, from_onReport_ok (Report.finalize_open stillOpen host.timeOfDay)⟩

end Run

end StageParity
