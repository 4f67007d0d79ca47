import Mathlib.Data.List.Sort
import StageParity.Proofs.Report
import StageParity.Proofs.Step

/-!
# The history of a report

A report is filled by calls, and some of them are refused. Whatever calls are made, the results
stay in the order of the checks, a refused call changes nothing, and from the first call that
fixes the status on only failures of the cleanup are taken.
-/

namespace StageParity

theorem CheckKind.mem_order (kind : CheckKind) : kind ∈ CheckKind.order := by
  cases kind <;> decide

namespace Report

/-- A call that can be made on a report. -/
inductive Call where
  | setArtifact (artifact : Artifact)
  | addResult (result : CheckResult)
  | recordFatal (message : Text)
  | recordCleanup (message : Text)
  | finalize (now : Text)

namespace Call

/-- What a call makes of a report. -/
def apply (r : Report) : Call → Except Fault Report
  | .setArtifact artifact => r.setArtifact artifact
  | .addResult result => r.addResult result
  | .recordFatal message => r.recordFatal message
  | .recordCleanup message => .ok (r.recordCleanup message)
  | .finalize now => r.finalize now

/-- A call on the report of a run. -/
def perform (call : Call) : Run Unit := Run.onReport call.apply

/-- The report with what an accepted call brings. -/
def recorded (r : Report) : Call → Report
  | .setArtifact artifact =>
    { r with artifacts := r.artifacts.set artifact.stage (some artifact) }
  | .addResult result => { r with results := r.results ++ [result] }
  | .recordFatal message => { r with fatalErrors := r.fatalErrors ++ [message] }
  | .recordCleanup message => { r with cleanupFailures := r.cleanupFailures ++ [message] }
  | .finalize now =>
    { r with completedAt := some now, status := some (if r.hasFatal then .fail else .pass) }

/-- Whether a call is taken even once the status is fixed. -/
def isCleanup : Call → Bool
  | .recordCleanup _ => true
  | _ => false

/-- Whether a call brings a result that comes no later than one that is there. -/
def Late (r : Report) (call : Call) : Prop :=
  ∃ result, call = .addResult result ∧
    ∃ earlier ∈ r.results, result.kind.index ≤ earlier.kind.index

end Call

/-- The state of a run after calls on its report, the refused ones among them. -/
def after (s : Session) (calls : List Call) : Session :=
  calls.foldl (fun s call => (Run.from_ call.perform s).2) s

/-- What holds of a report after any calls: its results come in the order of the checks, and its
status, once fixed, tells whether anything fatal was recorded. -/
structure Sound (r : Report) : Prop where
  increasing : (r.results.map fun result => result.kind.index).Pairwise (· < ·)
  judged : ∀ status, r.status = some status →
    (status = .fail ↔ r.fatalErrors ≠ [] ∨ ∃ result ∈ r.results, result.fatal = true)

variable {r : Report} {call : Call} {s t : Session}

theorem hasFatal_iff (r : Report) :
    r.hasFatal = true ↔ r.fatalErrors ≠ [] ∨ ∃ result ∈ r.results, result.fatal = true := by
  simp [hasFatal]

/-! ## Results in order -/

namespace Sound

/-- Only the last result has to be looked at to tell whether another one comes after all. -/
theorem below_iff (sound : r.Sound) {last : CheckResult} (ends : r.results.getLast? = some last)
    (kind : CheckKind) :
    (∀ earlier ∈ r.results, earlier.kind.index < kind.index) ↔ last.kind.index < kind.index := by
  obtain ⟨front, split⟩ := List.getLast?_eq_some_iff.mp ends
  have increasing := sound.increasing
  rw [split] at increasing ⊢
  rw [List.map_append, List.pairwise_append] at increasing
  constructor
  · intro all
    exact all last (by simp)
  · intro below earlier member
    rcases List.mem_append.mp member with before | same
    · have step : earlier.kind.index < last.kind.index :=
        increasing.2.2 _ (List.mem_map_of_mem before) _ (by simp)
      omega
    · rw [List.mem_singleton.mp same]
      exact below

theorem distinct (sound : r.Sound) : (r.results.map CheckResult.kind).Nodup := by
  have increasing := sound.increasing
  rw [List.pairwise_map] at increasing
  apply List.pairwise_map.mpr
  apply increasing.imp
  intro first second below same
  rw [same] at below
  exact Nat.lt_irrefl _ below

/-- The checks with results come among all checks in their order. -/
theorem sublist_order (sound : r.Sound) :
    (r.results.map CheckResult.kind).Sublist CheckKind.order := by
  have inside : r.results.map CheckResult.kind ⊆ CheckKind.order :=
    fun kind _ => kind.mem_order
  have : Std.Antisymm fun first second : CheckKind => first.index < second.index :=
    ⟨fun _ _ below above => absurd below (Nat.lt_asymm above)⟩
  have increasing : (r.results.map CheckResult.kind).Pairwise fun first second =>
      first.index < second.index :=
    List.pairwise_map.mpr (List.pairwise_map.mp sound.increasing)
  have fits := List.subperm_of_subset sound.distinct inside
  exact List.sublist_of_subperm_of_pairwise fits increasing (by decide)

/-- The result that is found for a check is the only one of its kind. -/
theorem resultFor_eq_some_iff (sound : r.Sound) (kind : CheckKind) (result : CheckResult) :
    r.resultFor kind = some result ↔ result ∈ r.results ∧ result.kind = kind := by
  have distinct := sound.distinct
  unfold resultFor
  generalize r.results = results at distinct
  induction results with
  | nil => simp
  | cons head rest ih =>
      rw [List.map_cons, List.nodup_cons] at distinct
      have ih := ih distinct.2
      by_cases same : head.kind = kind
      · rw [List.find?_cons_of_pos (by simpa using same)]
        constructor
        · intro found
          cases found
          exact ⟨List.mem_cons_self, same⟩
        · rintro ⟨member, named⟩
          rcases List.mem_cons.mp member with rfl | later
          · rfl
          · have again : head.kind ∈ rest.map CheckResult.kind :=
              List.mem_map.mpr ⟨result, later, named.trans same.symm⟩
            exact absurd again distinct.1
      · rw [List.find?_cons_of_neg (by simpa using same)]
        apply ih.trans
        constructor
        · rintro ⟨member, named⟩
          exact ⟨List.mem_cons_of_mem head member, named⟩
        · rintro ⟨member, named⟩
          rcases List.mem_cons.mp member with rfl | later
          · exact absurd named same
          · exact ⟨later, named⟩

end Sound

theorem sound_start (root started : Text) : (start root started).Sound :=
  ⟨List.Pairwise.nil, fun _ fixed => nomatch fixed⟩

/-! ## One call -/

/-- How a run answers a call on its report. A refusal leaves the state as it was. -/
inductive Answers (s : Session) (call : Call) : Except Fault Unit × Session → Prop where
  | closed : s.report.finalized = true → call.isCleanup = false →
      Answers s call (.error .finalized, s)
  | late {kind last : CheckKind} : s.report.finalized = false → call.Late s.report →
      Answers s call (.error (.outOfOrder kind last), s)
  | taken : (s.report.finalized = true → call.isCleanup = true) →
      (s.report.finalized = false → ¬ call.Late s.report) →
      Answers s call (.ok (), { s with report := call.recorded s.report })

/-- A result is refused just when it comes no later than one that is there. -/
theorem addResult_cases (sound : r.Sound) (open_ : r.finalized = false) (result : CheckResult) :
    (Call.Late r (.addResult result) ∧
        ∃ kind last, r.addResult result = .error (.outOfOrder kind last)) ∨
      ¬ Call.Late r (.addResult result) ∧
        r.addResult result = .ok (Call.recorded r (.addResult result)) := by
  have late_iff : Call.Late r (.addResult result) ↔
      ¬ ∀ earlier ∈ r.results, earlier.kind.index < result.kind.index := by
    simp [Call.Late]
  rw [addResult_eq, open_, late_iff]
  cases ends : r.results.getLast? with
  | none =>
      have empty := List.getLast?_eq_none_iff.mp ends
      right
      refine ⟨?_, rfl⟩
      simp [empty]
  | some last =>
      rw [sound.below_iff ends]
      by_cases late : result.kind.index ≤ last.kind.index
      · left
        refine ⟨by omega, result.kind, last.kind, ?_⟩
        simp [late]
      · right
        refine ⟨by omega, ?_⟩
        simp [late, Call.recorded]

theorem apply_closed (closed : r.finalized = true) (other : call.isCleanup = false) :
    call.apply r = .error .finalized := by
  cases call with
  | setArtifact artifact => simp [Call.apply, setArtifact_eq, closed]
  | addResult result => simp [Call.apply, addResult_eq, closed]
  | recordFatal message => simp [Call.apply, recordFatal_eq, closed]
  | recordCleanup message => cases other
  | finalize now => simp [Call.apply, finalize_eq, closed]

/-- An open report refuses results that come late and nothing else. -/
theorem apply_open (sound : r.Sound) (open_ : r.finalized = false) (call : Call) :
    (call.Late r ∧ ∃ kind last, call.apply r = .error (.outOfOrder kind last)) ∨
      ¬ call.Late r ∧ call.apply r = .ok (call.recorded r) := by
  cases call with
  | addResult result => exact addResult_cases sound open_ result
  | setArtifact artifact =>
      right
      refine ⟨by simp [Call.Late], ?_⟩
      simp [Call.apply, Call.recorded, setArtifact_eq, open_]
  | recordFatal message =>
      right
      refine ⟨by simp [Call.Late], ?_⟩
      simp [Call.apply, Call.recorded, recordFatal_eq, open_]
  | recordCleanup message =>
      right
      exact ⟨by simp [Call.Late], rfl⟩
  | finalize now =>
      right
      refine ⟨by simp [Call.Late], ?_⟩
      simp [Call.apply, Call.recorded, finalize_eq, open_]

theorem answers_perform (sound : s.report.Sound) (call : Call) :
    Answers s call (Run.from_ call.perform s) := by
  have answer := Run.from_onReport call.apply s
  change Answers s call (Run.from_ (Run.onReport call.apply) s)
  cases closed : s.report.finalized with
  | true =>
      cases cleanup : call.isCleanup with
      | true =>
          cases call with
          | recordCleanup message =>
              rw [answer]
              exact .taken (fun _ => rfl) (fun open_ => by rw [closed] at open_; cases open_)
          | _ => cases cleanup
      | false =>
          rw [answer, apply_closed closed cleanup]
          exact .closed closed cleanup
  | false =>
      rcases apply_open sound closed call with ⟨late, kind, last, refused⟩ | ⟨fine, taken⟩
      · rw [answer, refused]
        exact .late closed late
      · rw [answer, taken]
        exact .taken (fun fixed => by rw [closed] at fixed; cases fixed) (fun _ => fine)

theorem sound_recorded (sound : r.Sound) (allowed : r.finalized = true → call.isCleanup = true)
    (fine : r.finalized = false → ¬ call.Late r) : (call.recorded r).Sound := by
  have unfixed : call.isCleanup = false → r.status = none := by
    intro other
    cases closed : r.finalized with
    | true => rw [allowed closed] at other; cases other
    | false => simpa [finalized] using closed
  cases call with
  | setArtifact artifact => exact ⟨sound.increasing, sound.judged⟩
  | addResult result =>
      have fresh := unfixed rfl
      have below : ∀ earlier ∈ r.results, earlier.kind.index < result.kind.index := by
        have punctual := fine (by simp [finalized, fresh])
        simpa [Call.Late] using punctual
      refine ⟨?_, ?_⟩
      · simp only [Call.recorded, List.map_append, List.pairwise_append]
        refine ⟨sound.increasing, List.pairwise_singleton _ _, ?_⟩
        simpa using below
      · intro status fixed
        cases fresh.symm.trans fixed
  | recordFatal message =>
      refine ⟨sound.increasing, ?_⟩
      intro status fixed
      cases (unfixed rfl).symm.trans fixed
  | recordCleanup message => exact ⟨sound.increasing, sound.judged⟩
  | finalize now =>
      refine ⟨sound.increasing, ?_⟩
      intro status fixed
      cases fixed
      apply Iff.trans _ (hasFatal_iff r)
      cases r.hasFatal <;> simp

namespace Answers

variable {ended : Except Fault Unit × Session}

theorem sound (answers : Answers s call ended) (sound : s.report.Sound) :
    ended.2.report.Sound := by
  cases answers with
  | closed _ _ => exact sound
  | late _ _ => exact sound
  | taken allowed fine => exact sound_recorded sound allowed fine

/-- The status is fixed by a call that is to fix it, and by no other. -/
theorem finalized_iff (answers : Answers s call ended) :
    ended.2.report.finalized = true ↔ s.report.finalized = true ∨ ∃ now, call = .finalize now := by
  cases answers with
  | closed fixed _ => simp [fixed]
  | late open_ late =>
      obtain ⟨result, rfl, -⟩ := late
      simp
  | taken allowed fine =>
      cases call with
      | finalize now => simp [Call.recorded, finalized]
      | _ => simp [Call.recorded, finalized]

/-- Once the status is fixed, a call changes nothing but the failures of the cleanup. -/
theorem frozen (answers : Answers s call ended) (fixed : s.report.finalized = true) :
    ended.2.report =
      { s.report with cleanupFailures := ended.2.report.cleanupFailures } := by
  cases answers with
  | closed _ _ => rfl
  | late open_ _ => cases fixed.symm.trans open_
  | taken allowed fine =>
      have cleanup := allowed fixed
      cases call with
      | recordCleanup message => rfl
      | _ => cases cleanup

end Answers

/-! ## Histories -/

theorem sound_after (sound : s.report.Sound) (calls : List Call) :
    (after s calls).report.Sound := by
  induction calls generalizing s with
  | nil => exact sound
  | cons call calls ih => exact ih ((answers_perform sound call).sound sound)

theorem finalized_after_iff (sound : s.report.Sound) (calls : List Call) :
    (after s calls).report.finalized = true ↔
      s.report.finalized = true ∨ ∃ now, .finalize now ∈ calls := by
  induction calls generalizing s with
  | nil => simp [after]
  | cons call calls ih =>
      have answers := answers_perform sound call
      have rest := ih (answers.sound sound)
      rw [answers.finalized_iff, or_assoc] at rest
      apply rest.trans
      simp only [List.mem_cons, exists_or, eq_comm]

theorem frozen_after (sound : s.report.Sound) (fixed : s.report.finalized = true)
    (calls : List Call) :
    (after s calls).report =
      { s.report with cleanupFailures := (after s calls).report.cleanupFailures } := by
  induction calls generalizing s with
  | nil => rfl
  | cons call calls ih =>
      have answers := answers_perform sound call
      have rest := ih (answers.sound sound) (answers.finalized_iff.mpr (.inl fixed))
      rw [answers.frozen fixed] at rest
      exact rest

/-- What a report shows after any calls. -/
structure Orderly (r : Report) : Prop where
  inOrder : (r.results.map CheckResult.kind).Sublist CheckKind.order
  distinct : (r.results.map CheckResult.kind).Nodup
  few : r.results.length ≤ 4
  /-- The result of a check is the only one of its kind. -/
  lookup : ∀ kind result, r.resultFor kind = some result ↔ result ∈ r.results ∧ result.kind = kind
  judged : ∀ status, r.status = some status →
    (status = .fail ↔ r.fatalErrors ≠ [] ∨ ∃ result ∈ r.results, result.fatal = true)

theorem Sound.orderly (sound : r.Sound) : r.Orderly := by
  have few := sound.sublist_order.length_le
  rw [List.length_map] at few
  exact ⟨sound.sublist_order, sound.distinct, few, sound.resultFor_eq_some_iff, sound.judged⟩

/-- Whatever calls are made on a new report, it stays orderly, and a further call is answered as
`Answers` tells, so that a refusal changes nothing. Once a call was to fix the status, it is fixed:
from then on nothing changes but the failures of the cleanup, and all other calls are refused. -/
theorem orderly_after_calls (s : Session) (root started : Text) (calls : List Call) :
    let t := after { s with report := start root started } calls
    t.report.Orderly ∧
      (∀ call, Answers t call (Run.from_ call.perform t)) ∧
      (t.report.finalized = true ↔ ∃ now, .finalize now ∈ calls) ∧
      (t.report.finalized = true → ∀ later,
        let u := after t later
        u.report = { t.report with cleanupFailures := u.report.cleanupFailures } ∧
          ∀ call : Call, call.isCleanup = false →
            Run.from_ call.perform u = (.error .finalized, u)) := by
  intro t
  have begun := sound_start root started
  have sound : t.report.Sound := sound_after begun calls
  refine ⟨sound.orderly, answers_perform sound, ?_, ?_⟩
  · have open_ : ¬ (start root started).finalized = true := by simp [start, finalized]
    exact (finalized_after_iff (by exact begun) calls).trans (or_iff_right open_)
  · intro fixed later u
    have stays : u.report.finalized = true :=
      (finalized_after_iff sound later).mpr (.inl fixed)
    refine ⟨frozen_after sound fixed later, ?_⟩
    intro call other
    have refused := apply_closed stays other
    change Run.from_ (Run.onReport call.apply) u = _
    rw [Run.from_onReport, refused]

end Report

end StageParity
