import StageParity.Proofs.StoredStreams

/-!
# How invocations are classified

An invocation answers with what its command wrote, an exit status, and a failure or none. Nothing of
this is taken from the classifier: which failure it is depends on what the host answered to the
start and on whether the first wait was too long, and the bytes are those that the child had written
when it ended. A child that ends because it was asked to writes more before it goes, unless it is
made to end first (`Watch.EndsOnRequest`).
-/

namespace StageParity

namespace Watch

variable {child : Child} {limit grace : Float}

/-- The child took the request to stop, and it was not made to end after that. -/
def EndsOnRequest (child : Child) (w : Watch) : Prop :=
  (child.onTerm = .exit ∧ .term ∈ w.delivered) ∧ ¬ (child.onKill = .exit ∧ .kill ∈ w.delivered)

instance (child : Child) (w : Watch) : Decidable (w.EndsOnRequest child) := by
  unfold EndsOnRequest
  infer_instance

theorem delivered_send (w : Watch) (child : Child) (signal : StopSignal) :
    (w.send child signal).delivered =
      w.delivered ++ if !w.exited && (child.response signal).delivers then [signal] else [] := by
  unfold delivered
  rw [(goes_send w child signal).acts, List.filterMap_append]
  cases w.exited <;> cases (child.response signal).delivers <;> rfl

/-- A child that runs on keeps what it had in mind; one that takes a signal ends on request just if
it was asked. -/
theorem byRequest_send (w : Watch) (child : Child) (signal : StopSignal) :
    (w.send child signal).byRequest =
      if !w.exited && child.response signal = .exit then decide (signal = .term)
      else w.byRequest := by
  unfold send
  cases ended : w.exited with
  | true => simp [record, ended]
  | false =>
      cases taken : child.response signal <;> cases signal <;>
        simp [record, ended, taken, obey, Response.delivers]

theorem delivered_await (w : Watch) (which : Wait) (limit : Option Float) :
    (w.await which limit).delivered = w.delivered := by
  unfold delivered
  rw [(goes_await w which limit).acts, List.filterMap_append]
  exact List.append_nil _

theorem byRequest_await (w : Watch) (which : Wait) (limit : Option Float) :
    (w.await which limit).byRequest = w.byRequest := by
  unfold await
  dsimp only
  split
  · rfl
  · split <;> rfl

/-- Waiting delivers nothing and asks for nothing. -/
theorem awaitOrCut_frame (w : Watch) (child : Child) (which : Wait) (limit : Option Float) :
    (w.awaitOrCut child which limit).delivered = w.delivered ∧
      (w.awaitOrCut child which limit).byRequest = w.byRequest := by
  cases cut : child.cut which with
  | some reason =>
      rw [awaitOrCut_of_cut cut]
      refine ⟨?_, rfl⟩
      change (w.acts ++ [Act.cut which reason]).filterMap _ = _
      rw [List.filterMap_append]
      exact List.append_nil _
  | none =>
      rw [awaitOrCut_of_whole cut]
      exact ⟨delivered_await w which limit, byRequest_await w which limit⟩

theorem byRequest_stop {w : Watch} (silent : w.delivered = []) (alone : w.byRequest = false)
    (grace : Float) :
    (w.stop child grace).byRequest = true ↔ (w.stop child grace).EndsOnRequest child := by
  let asked := w.send child .term
  let waited := asked.awaitOrCut child .grace (some grace)
  obtain ⟨sameSignals, sameMind⟩ := awaitOrCut_frame asked child .grace (some grace)
  have signals : waited.delivered = _ := sameSignals.trans (delivered_send w child .term)
  have mind : waited.byRequest = _ := sameMind.trans (byRequest_send w child .term)
  have stopped : w.stop child grace =
      if waited.exited || waited.cutBy.isSome then waited
      else (waited.send child .kill).awaitOrCut child .last none := rfl
  rw [stopped, EndsOnRequest]
  by_cases done : (waited.exited || waited.cutBy.isSome) = true
  · rw [if_pos done, signals, mind, silent, alone]
    cases w.exited <;> cases taken : child.onTerm <;>
      simp [Child.response, taken, Response.delivers]
  · rw [if_neg done]
    obtain ⟨lastSignals, lastMind⟩ := awaitOrCut_frame (waited.send child .kill) child .last none
    rw [lastSignals, lastMind, delivered_send, byRequest_send, signals, mind, silent, alone]
    have running : waited.exited = false := by simp_all
    rw [running]
    cases w.exited <;> cases taken : child.onTerm <;> cases struck : child.onKill <;>
      simp [Child.response, taken, struck, Response.delivers]

/-- A child that is left behind is made to end; it is not asked. -/
theorem byRequest_abandon {w : Watch} (silent : w.delivered = []) (alone : w.byRequest = false) :
    (w.abandon child).byRequest = true ↔ (w.abandon child).EndsOnRequest child := by
  have unasked : .term ∉ (w.abandon child).delivered := by
    unfold delivered at silent ⊢
    rw [(goes_abandon w child).acts, List.filterMap_append, silent]
    cases w.exited <;> cases child.onKill.delivers <;> simp [madeToEnd]
  have still : (w.abandon child).byRequest = false := by
    unfold abandon
    cases ended : w.exited with
    | true => simp [record, ended, alone]
    | false =>
        cases struck : child.onKill <;>
          simp [record, ended, alone, Child.response, struck, Response.delivers, byRequest_await, obey]
  simp [EndsOnRequest, still, unasked]

/-- The watch when the child has reached its limit. -/
def overdue (w : Watch) (child : Child) : Watch :=
  let w := { w.record [.announce .timeout] with timedOut := true }
  if child.exitsAtLimit then { w with endsAt := w.clock, exited := true } else w

theorem run_eq (child : Child) (limit grace : Float) :
    run child limit grace =
      let w := (start child).awaitOrCut child .first (some limit)
      if w.cutBy.isSome then w.abandon child
      else if w.exited then w
      else (w.overdue child).stop child grace := rfl

theorem overdue_frame (w : Watch) (child : Child) :
    (w.overdue child).delivered = w.delivered ∧ (w.overdue child).byRequest = w.byRequest ∧
      (w.overdue child).timedOut = true := by
  have silent (w' : Watch) (more : w'.acts = w.acts ++ [.announce .timeout]) :
      w'.delivered = w.delivered := by
    unfold delivered
    rw [more, List.filterMap_append]
    exact List.append_nil _
  unfold overdue
  split <;> exact ⟨silent _ rfl, rfl, rfl⟩

/-- A child ends on request just if it took the one signal and not the other. -/
theorem byRequest_run (child : Child) (limit grace : Float) :
    (run child limit grace).byRequest = true ↔ (run child limit grace).EndsOnRequest child := by
  let waited := (start child).awaitOrCut child .first (some limit)
  obtain ⟨silent, alone⟩ : waited.delivered = [] ∧ waited.byRequest = false :=
    awaitOrCut_frame (start child) child .first (some limit)
  rw [run_eq]
  change (if waited.cutBy.isSome then waited.abandon child
    else if waited.exited then waited else (waited.overdue child).stop child grace).byRequest = true ↔
      EndsOnRequest child _
  by_cases cut : waited.cutBy.isSome = true
  · rw [if_pos cut]
    exact byRequest_abandon silent alone
  · rw [if_neg cut]
    by_cases ended : waited.exited = true
    · rw [if_pos ended]
      simp [EndsOnRequest, silent, alone]
    · obtain ⟨sameSignals, sameMind, -⟩ := overdue_frame waited child
      rw [if_neg ended]
      exact byRequest_stop (sameSignals.trans silent) (sameMind.trans alone) grace

/-- What the child wrote until it ended: what it writes in any case, and what it writes when it ends
on request. -/
def produced (child : Child) (w : Watch) : List UInt8 × List UInt8 :=
  if w.EndsOnRequest child then (child.stdout ++ child.termStdout, child.stderr ++ child.termStderr)
  else (child.stdout, child.stderr)

theorem produced_run (child : Child) (limit grace : Float) :
    let w := run child limit grace
    w.produced child = (w.stdout child, w.stderr child) := by
  intro w
  have same : w.byRequest = true ↔ w.EndsOnRequest child := byRequest_run child limit grace
  unfold produced stdout stderr
  by_cases request : w.EndsOnRequest child
  · rw [if_pos request, same.mpr request]
    rfl
  · have alone : w.byRequest = false := by simpa [request] using same
    rw [if_neg request, alone]
    rfl

theorem timedOut_awaitOrCut (w : Watch) (child : Child) (which : Wait) (limit : Option Float) :
    (w.awaitOrCut child which limit).timedOut = w.timedOut := by
  cases cut : child.cut which with
  | some reason => rw [awaitOrCut_of_cut cut]; rfl
  | none => rw [awaitOrCut_of_whole cut, (goes_await w which limit).timedOut]

theorem timedOut_stop (w : Watch) (child : Child) (grace : Float) :
    (w.stop child grace).timedOut = w.timedOut := by
  unfold stop
  dsimp only
  split <;> simp only [timedOut_awaitOrCut, (goes_send _ child _).timedOut]

/-- A child reaches its limit just if it runs longer, whatever it does afterwards. -/
theorem timedOut_run (uncut : child.cut .first = none) :
    (run child limit grace).timedOut = decide (0 + limit < child.runtime) := by
  have waits := goes_await (start child) .first (some limit)
  have lasts : (start child).outlasts (some limit) = decide (0 + limit < child.runtime) := rfl
  have whole : ((start child).await .first (some limit)).cutBy.isSome = false := by
    rw [waits.cutBy]
    rfl
  rw [run_eq, awaitOrCut_of_whole uncut]
  dsimp only
  rw [whole, waits.exited, lasts, if_neg Bool.false_ne_true]
  cases late : decide (0 + limit < child.runtime) with
  | false =>
      rw [Bool.not_false, if_pos rfl]
      exact waits.timedOut
  | true =>
      rw [Bool.not_true, if_neg Bool.false_ne_true, timedOut_stop, (overdue_frame _ child).2.2]

theorem cut_first_of_cutBy (uncut : (run child limit grace).cutBy = none) :
    child.cut .first = none := by
  cases cut : child.cut .first with
  | none => rfl
  | some reason =>
      unfold run at uncut
      rw [awaitOrCut_of_cut cut] at uncut
      cases (goes_abandon ((start child).severed .first reason) child).cutBy.symm.trans uncut

end Watch

/-! ## Outcomes -/

namespace Outcome

/-- The kind of the failure of an outcome, if it has one. -/
def kind? (outcome : Outcome) : Option FailureKind := outcome.failure.map Failure.kind

/-- The bytes of both streams after the host has reacted to the start of a command. -/
def bytes (reaction : Except StartFault Child) (limit grace : Float) : List UInt8 × List UInt8 :=
  match reaction with
  | .ok child => (Watch.run child limit grace).produced child
  | .error _ => ([], [])

/-- The outcome tells how a command went that the host reacted to in this way: why it did not start,
whether the first wait was too long, its own status, and all that it wrote. -/
structure Classified (reaction : Except StartFault Child) (limit grace : Float)
    (outcome : Outcome) : Prop where
  notFound : outcome.kind? = some .notFound ↔
    ∃ error, reaction = .error (.os error) ∧ error.errno? = some .notFound
  notExecutable : outcome.kind? = some .notExecutable ↔
    ∃ error, reaction = .error (.os error) ∧
      (error.errno? = some .denied ∨ error.errno? = some .notPermitted)
  osError : outcome.kind? = some .osError ↔
    ∃ error, reaction = .error (.os error) ∧ error.errno? ≠ some .notFound ∧
      error.errno? ≠ some .denied ∧ error.errno? ≠ some .notPermitted
  timedOut : outcome.kind? = some .timedOut ↔
    ∃ child, reaction = .ok child ∧
      .wait .first (some limit) false ∈ (Watch.run child limit grace).acts
  late : ∀ child, reaction = .ok child →
    (.wait .first (some limit) false ∈ (Watch.run child limit grace).acts ↔
      0 + limit < child.runtime)
  exits : outcome.failure = none →
    ∃ child, reaction = .ok child ∧ outcome.captured.exitStatus = child.exitCode
  fails : outcome.failure ≠ none → outcome.captured.exitStatus = -1
  stdout : outcome.captured.stdout = Text.decode (bytes reaction limit grace).1
  stderr : outcome.captured.stderr =
    Text.decode (bytes reaction limit grace).2 ++
      match outcome.failure with
      | some failure => failure.message ++ "\n"
      | none => []

end Outcome

/-- The kind of a launch error is a matter of its number. -/
theorem LaunchErrorKind.ofError_iff (error : OsError) :
    (ofError error = .notFound ↔ error.errno? = some .notFound) ∧
      (ofError error = .notExecutable ↔
        error.errno? = some .denied ∨ error.errno? = some .notPermitted) ∧
      (ofError error = .osError ↔ error.errno? ≠ some .notFound ∧
        error.errno? ≠ some .denied ∧ error.errno? ≠ some .notPermitted) := by
  unfold ofError
  cases error.errno? with
  | none => simp
  | some errno =>
      by_cases missing : errno = .notFound
      · subst missing
        decide
      · by_cases barred : errno = .denied
        · subst barred
          decide
        · by_cases refused : errno = .notPermitted
          · subst refused
            decide
          · simp [missing, barred, refused]

namespace Run

variable {host : Host} {project : Project} {s : Session}

theorem classified_launchFailure (request : Request) (limit grace elapsed : Float)
    (error : OsError) :
    (Outcome.ofResult (launchFailure request limit elapsed error)).Classified
      (.error (.os error)) limit grace := by
  have kind : ∀ k, (Outcome.ofResult (launchFailure request limit elapsed error)).kind? =
      some (Outcome.launchFailureKind k) ↔ LaunchErrorKind.ofError error = k := by
    intro k
    change some (Outcome.launchFailureKind (.ofError error)) = _ ↔ _
    cases LaunchErrorKind.ofError error <;> cases k <;> decide
  obtain ⟨missing, barred, otherwise⟩ := LaunchErrorKind.ofError_iff error
  refine ⟨(kind .notFound).trans (by simpa using missing),
    (kind .notExecutable).trans (by simpa using barred),
    (kind .osError).trans (by simpa using otherwise), ?_, ?_, ?_, fun _ => rfl, rfl, rfl⟩
  · change some (Outcome.launchFailureKind (.ofError error)) = _ ↔ _
    cases LaunchErrorKind.ofError error <;> simp [Outcome.launchFailureKind]
  · intro child started
    cases started
  · intro fine
    cases fine

theorem classified_watchedResult (request : Request) {limit grace : Float} (elapsed : Float)
    {child : Child} (uncut : (Watch.run child limit grace).cutBy = none) :
    (Outcome.ofResult (watchedResult request limit elapsed child (Watch.run child limit grace))
      ).Classified (.ok child) limit grace := by
  let watch := Watch.run child limit grace
  have course : Watch.Course limit grace watch.timedOut watch.acts := by
    rcases Watch.ends_run child limit grace with ⟨-, course⟩ | ⟨which, reason, -, cut, -⟩
    · exact course
    · cases uncut.symm.trans cut
  have long : watch.timedOut = decide (0 + limit < child.runtime) :=
    Watch.timedOut_run (Watch.cut_first_of_cutBy uncut)
  have wrote : watch.produced child = (watch.stdout child, watch.stderr child) :=
    Watch.produced_run child limit grace
  have out : Text.decode (watch.stdout child) = Text.decode (watch.produced child).1 := by rw [wrote]
  have err : Text.decode (watch.stderr child) = Text.decode (watch.produced child).2 := by rw [wrote]
  have late : ∀ other, (.ok child : Except StartFault Child) = .ok other →
      (Act.wait .first (some limit) false ∈ (Watch.run other limit grace).acts ↔
        0 + limit < other.runtime) := by
    rintro _ ⟨⟩
    rw [← decide_eq_true_iff (p := 0 + limit < child.runtime), ← long]
    exact course.timedOut_iff.symm
  rw [Run.ofResult_watchedResult]
  change Outcome.Classified _ _ _ (if watch.timedOut then _ else _)
  cases reached : watch.timedOut with
  | true =>
      have waited := course.timedOut_iff.mp reached
      refine ⟨by simp [Outcome.kind?, Outcome.failed], by simp [Outcome.kind?, Outcome.failed],
        by simp [Outcome.kind?, Outcome.failed], iff_of_true rfl ⟨child, rfl, waited⟩, late,
        fun fine => (by cases fine), fun _ => rfl, out, ?_⟩
      exact (List.append_assoc _ _ _).trans (congrArg (· ++ _) err)
  | false =>
      have inTime : Act.wait .first (some limit) false ∉ watch.acts := by
        rw [← course.timedOut_iff, reached]
        exact Bool.false_ne_true
      have code : (watchedResult request limit elapsed child watch).effectiveExitCode =
          child.exitCode := by
        simp [watchedResult, CommandResult.effectiveExitCode, reached]
      refine ⟨by simp [Outcome.kind?], by simp [Outcome.kind?], by simp [Outcome.kind?],
        iff_of_false (by simp [Outcome.kind?]) ?_, late, fun _ => ⟨child, rfl, code⟩,
        fun failed => absurd rfl failed, out, (List.append_nil _).symm.trans (congrArg (· ++ _) err)⟩
      rintro ⟨_, ⟨⟩, waited⟩
      exact inTime waited

/-- **Invocations are classified by what happened.** A project whose directory cannot be told, or a
command that cannot be asked for, stops an invocation. A start that the system refuses and a child
that nothing cuts short give an outcome: its failure is named after the error of the start, or it is
that the first wait was too long, and otherwise there is none; the status is the child's own without
a failure; and both streams are all that the child wrote, with the message of a failure after
standard error. -/
theorem invoke_classifies (host : Host) (project : Project) (program : Path)
    (arguments : List Text) (s : Session) :
    let ended := (from_ (invoke host project program arguments) s).1
    (∀ fault, s.disk.resolve host.cwd project.root = .error fault → ended = .error (.file fault)) ∧
    ∀ root, s.disk.resolve host.cwd project.root = .ok root →
      let invocation := (invocationRequest project program arguments).invocation host (some root)
      let reaction := (host.react s.launches.length invocation s.disk).1
      (∀ fault, reaction = .error fault → (∀ error, fault ≠ .os error) →
        ended = .error (.start fault)) ∧
      ((∀ error, reaction = .error error → ∃ own, error = .os own) →
        (∀ child, reaction = .ok child →
          (Watch.run child invocation.limit invocation.grace).cutBy = none) →
        ∃ outcome, ended = .ok outcome ∧
          outcome.Classified reaction invocation.limit invocation.grace) := by
  intro ended
  rcases @from_command host (invocationRequest project program arguments) (fun _ => pure ())
      project.root (fun _ => Talks.pure) rfl s with
    ⟨fault, unresolved, stopped⟩ |
    ⟨cwd, sent, log, console, commandEvents, checkEvents, resolved, starts⟩
  · refine ⟨fun other told => ?_, fun root told => ?_⟩
    · cases unresolved.symm.trans told
      exact congrArg Prod.fst (from_bind_error stopped _)
    · cases unresolved.symm.trans told
  · refine ⟨fun other told => (by cases resolved.symm.trans told), fun root told => ?_⟩
    cases resolved.symm.trans told
    intro invocation reaction
    dsimp only at starts
    rw [show (host.react s.launches.length ((invocationRequest project program
      arguments).invocation host (some cwd)) s.disk).1 = reaction from rfl] at starts
    cases reacts : reaction with
    | error fault =>
        rw [reacts] at starts
        refine ⟨?_, fun system _ => ?_⟩
        · rintro _ ⟨⟩ foreign
          cases fault with
          | os error => exact absurd rfl (foreign error)
          | _ => exact congrArg Prod.fst (from_bind_error starts _)
        · obtain ⟨error, rfl⟩ := system fault rfl
          obtain ⟨log, answered⟩ := from_invoke_of_command starts
          exact ⟨_, congrArg Prod.fst answered, classified_launchFailure _ _ _ _ error⟩
    | ok child =>
        rw [reacts] at starts
        refine ⟨fun _ other => (by cases other), fun _ whole => ?_⟩
        have uncut := whole child rfl
        have ran : from_ (command host (invocationRequest project program arguments)
            fun _ => pure ()) s = _ := starts
        change _ = from_ ((Watch.run child invocation.limit invocation.grace).cutBy.forM interrupt >>=
          fun _ => _) _ at ran
        rw [uncut] at ran
        obtain ⟨log, answered⟩ := from_invoke_of_command ran
        exact ⟨_, congrArg Prod.fst answered, classified_watchedResult _ _ uncut⟩

/-- A child that does not end by itself, and that says good-bye when it is asked to stop. -/
def dutiful : Child :=
  { Child.quick with
    stdout := [0x41], runtime := 1000, exitCode := 3, termDelay := 1, termStdout := [0x42]
    termStderr := [0xFF] }

theorem invoke_classifies_dutiful :
    let project : Project := ⟨Path.ofText "/", .standard⟩
    let s := Session.start ⟨[]⟩ (Scratch.fresh none false)
    ∃ outcome, (from_ (invoke (.always dutiful) project (Path.ofText "/cc") []) s).1 = .ok outcome ∧
      outcome.kind? = some .timedOut ∧ outcome.captured.exitStatus = -1 ∧
      outcome.captured.stdout = "AB" := by
  intro project s
  let host := Host.always dutiful
  let invocation := (invocationRequest project (Path.ofText "/cc") []).invocation host
    (some project.root)
  have resolved : s.disk.resolve host.cwd project.root = .ok project.root := rfl
  have whole : (Watch.run dutiful invocation.limit invocation.grace).cutBy = none := by decide +kernel
  have long : 0 + invocation.limit < dutiful.runtime := by decide +kernel
  have wrote : Text.decode (Outcome.bytes (.ok dutiful) invocation.limit invocation.grace).1 =
      "AB" := by decide +kernel
  obtain ⟨outcome, ended, classified⟩ :=
    ((invoke_classifies host project (Path.ofText "/cc") [] s).2 project.root resolved).2
      (fun _ failed => (by cases failed)) (fun _ started => (by cases started; exact whole))
  have kind := classified.timedOut.mpr ⟨dutiful, rfl, (classified.late dutiful rfl).mpr long⟩
  have failed : outcome.failure ≠ none := by
    intro fine
    rw [Outcome.kind?, fine] at kind
    cases kind
  exact ⟨outcome, ended, kind, classified.fails failed, classified.stdout.trans wrote⟩

end Run

end StageParity
