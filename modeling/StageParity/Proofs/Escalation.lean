import StageParity.Proofs.StageDeeds

/-!
# The watch over a child

A child that nothing cuts short is watched in one of three ways: it ends in time, it ends within
the grace after it was asked to stop, or it is made to end (`Watch.Course`). Otherwise one of the
three waits for it is cut short (`Watch.Severed`). From these lists of acts everything about
signals, waits and events can be read off (`Watch.Escalates`), and a command is started once,
watched in that way, and answered for by its result.
-/

namespace StageParity

/-- Something holds of every act of a list, with the acts before it and the acts after it. -/
def Act.Throughout (holds : List Act → Act → List Act → Prop) : List Act → List Act → Prop
  | _, [] => True
  | before, act :: after => holds before act after ∧ Throughout holds (before ++ [act]) after

namespace Watch

variable {child : Child} {limit grace : Float}

/-! ## Single steps -/

/-- A step of the watch adds acts and finds out whether the child has ended; it does not touch
the limit that was reached or what cut the watch short. -/
structure Goes (w : Watch) (acts : List Act) (exited : Bool) (after : Watch) : Prop where
  acts : after.acts = w.acts ++ acts
  exited : after.exited = exited
  timedOut : after.timedOut = w.timedOut
  cutBy : after.cutBy = w.cutBy

theorem goes_obey (w : Watch) (child : Child) (signal : StopSignal) :
    Goes w [] w.exited (w.obey child signal) := by
  unfold obey
  split
  · cases signal <;> exact ⟨(List.append_nil _).symm, rfl, rfl, rfl⟩
  · exact ⟨(List.append_nil _).symm, rfl, rfl, rfl⟩

/-- The acts of an attempt to send a signal. -/
def tried (signal : StopSignal) (exited delivered : Bool) : List Act :=
  if exited then [.poll true]
  else if delivered then [.poll false, .send signal true, .announce (.ofSignal signal)]
  else [.poll false, .send signal false]

theorem goes_send (w : Watch) (child : Child) (signal : StopSignal) :
    Goes w (tried signal w.exited (child.response signal).delivers) w.exited
      (w.send child signal) := by
  cases ended : w.exited with
  | true => refine ⟨?_, ?_, ?_, ?_⟩ <;> simp [send, record, tried, ended]
  | false =>
      cases reached : (child.response signal).delivers with
      | false => refine ⟨?_, ?_, ?_, ?_⟩ <;> simp [send, record, tried, ended, reached]
      | true =>
          have obeys := goes_obey ((w.record [.poll false]).record [.send signal true]) child signal
          have sent : w.send child signal =
              (((w.record [.poll false]).record [.send signal true]).obey child signal).record
                [.announce (.ofSignal signal)] := by
            simp [send, record, ended, reached]
          rw [sent]
          refine ⟨?_, obeys.exited.trans ended, obeys.timedOut, obeys.cutBy⟩
          change (((w.record [.poll false]).record [.send signal true]).obey child signal).acts ++ _ = _
          rw [obeys.acts]
          simp [record, tried]

theorem running_of_outlasts {w : Watch} {limit : Option Float} (lasts : w.outlasts limit = true) :
    w.exited = false := by
  cases limit with
  | none => cases lasts
  | some seconds =>
      simp only [outlasts, Option.any_some, Bool.and_eq_true, Bool.not_eq_true'] at lasts
      exact lasts.1

theorem goes_await (w : Watch) (which : Wait) (limit : Option Float) :
    Goes w [.wait which limit (!w.outlasts limit)] (!w.outlasts limit) (w.await which limit) := by
  unfold await
  cases lasts : w.outlasts limit with
  | true =>
      have running := running_of_outlasts lasts
      exact ⟨rfl, running, rfl, rfl⟩
  | false =>
      cases ended : w.exited with
      | true => refine ⟨?_, ?_, ?_, ?_⟩ <;> simp [record, ended]
      | false => refine ⟨?_, ?_, ?_, ?_⟩ <;> simp [record, finish, ended]

/-- The watch after a wait that was cut short. -/
def severed (w : Watch) (which : Wait) (reason : Cut) : Watch :=
  { w.record [.cut which reason] with exited := w.exited || reason.exited, cutBy := some reason }

theorem awaitOrCut_of_cut {which : Wait} {reason : Cut} (cut : child.cut which = some reason)
    (w : Watch) (limit : Option Float) :
    w.awaitOrCut child which limit = w.severed which reason := by
  rw [awaitOrCut, cut]
  rfl

theorem awaitOrCut_of_whole {which : Wait} (whole : child.cut which = none) (w : Watch)
    (limit : Option Float) : w.awaitOrCut child which limit = w.await which limit := by
  rw [awaitOrCut, whole]

/-- The acts that make a child end whose first wait was cut short. -/
def madeToEnd (exited delivered : Bool) : List Act :=
  if exited then [Act.poll true]
  else if delivered then
    [Act.poll false, Act.send StopSignal.kill true, Act.wait Wait.last none true]
  else [Act.poll false, Act.send StopSignal.kill false]

theorem goes_abandon (w : Watch) (child : Child) :
    Goes w (madeToEnd w.exited child.onKill.delivers) (w.exited || child.onKill.delivers)
      (w.abandon child) := by
  cases ended : w.exited with
  | true => refine ⟨?_, ?_, ?_, ?_⟩ <;> simp [abandon, record, madeToEnd, ended]
  | false =>
      cases reached : child.onKill.delivers with
      | false =>
          refine ⟨?_, ?_, ?_, ?_⟩ <;>
            simp [abandon, record, madeToEnd, ended, Child.response, reached]
      | true =>
          let struck := ((w.record [.poll false]).record [.send .kill true]).obey child .kill
          have obeys := goes_obey ((w.record [.poll false]).record [.send .kill true]) child .kill
          have waits := goes_await struck .last none
          have same : w.abandon child = struck.await .last none := by
            simp [abandon, record, ended, Child.response, reached, struck]
          rw [same]
          refine ⟨?_, waits.exited, waits.timedOut.trans obeys.timedOut,
            waits.cutBy.trans obeys.cutBy⟩
          rw [waits.acts, obeys.acts]
          simp [record, madeToEnd, outlasts]

/-! ## The whole watch -/

/-- The acts of a watch that nothing cuts short, and whether the child reached its limit. -/
inductive Course (limit grace : Float) : Bool → List Act → Prop where
  | inTime : Course limit grace false [.wait .first (some limit) true]
  | inGrace {exited delivered : Bool} :
      Course limit grace true
        ([.wait .first (some limit) false, .announce .timeout] ++ tried .term exited delivered ++
          [.wait .grace (some grace) true])
  | forced {delivered killed : Bool} :
      Course limit grace true
        ([.wait .first (some limit) false, .announce .timeout] ++ tried .term false delivered ++
          [.wait .grace (some grace) false] ++ tried .kill false killed ++ [.wait .last none true])

/-- The acts of a watch that was cut short in a wait, and whether the child was found to have
ended. -/
inductive Severed (child : Child) (limit grace : Float) : Wait → Cut → Bool → List Act → Prop where
  | first {reason : Cut} {killed : Bool} :
      Severed child limit grace Wait.first reason (reason.exited || killed)
        ([Act.cut Wait.first reason] ++ madeToEnd reason.exited killed)
  | grace {reason : Cut} {asked : Bool} :
      Severed child limit grace Wait.grace reason (child.exitsAtLimit || reason.exited)
        ([Act.wait Wait.first (some limit) false, Act.announce EventKind.timeout] ++
          tried StopSignal.term child.exitsAtLimit asked ++ [Act.cut Wait.grace reason])
  | last {reason : Cut} {asked killed : Bool} :
      Severed child limit grace Wait.last reason reason.exited
        ([Act.wait Wait.first (some limit) false, Act.announce EventKind.timeout] ++
          tried StopSignal.term false asked ++ [Act.wait Wait.grace (some grace) false] ++
          tried StopSignal.kill false killed ++ [Act.cut Wait.last reason])

/-- The watch over a child goes to its end, or it is cut short in one of its waits. -/
def Ends (child : Child) (limit grace : Float) (w : Watch) : Prop :=
  (w.cutBy = none ∧ Course limit grace w.timedOut w.acts) ∨
    ∃ which reason, child.cut which = some reason ∧ w.cutBy = some reason ∧
      Severed child limit grace which reason w.exited w.acts

theorem ends_stop (grace : Float) {w : Watch}
    (acts : w.acts = [.wait .first (some limit) false, .announce .timeout])
    (late : w.timedOut = true) (whole : w.cutBy = none) (ended : w.exited = child.exitsAtLimit) :
    Ends child limit grace (w.stop child grace) := by
  let asked := w.send child .term
  have asks : Goes w _ _ asked := goes_send w child .term
  unfold stop
  dsimp only
  cases short : child.cut .grace with
  | some reason =>
      have done : ((asked.severed .grace reason).exited ||
          (asked.severed .grace reason).cutBy.isSome) = true := Bool.or_true _
      rw [awaitOrCut_of_cut short, if_pos done]
      refine .inr ⟨.grace, reason, short, rfl, ?_⟩
      change Severed child limit grace .grace reason (asked.exited || reason.exited)
        (asked.acts ++ [.cut .grace reason])
      rw [asks.exited, asks.acts, acts, ended]
      exact .grace
  | none =>
      let waited := asked.await .grace (some grace)
      have waits : Goes asked _ _ waited := goes_await asked .grace (some grace)
      have lateStill : waited.timedOut = true := waits.timedOut.trans (asks.timedOut.trans late)
      have wholeStill : waited.cutBy = none := waits.cutBy.trans (asks.cutBy.trans whole)
      rw [awaitOrCut_of_whole short]
      change Ends child limit grace
        (if (waited.exited || waited.cutBy.isSome) = true then waited else _)
      rw [wholeStill, Option.isSome_none, Bool.or_false, waits.exited]
      cases lasts : asked.outlasts (some grace) with
      | false =>
          rw [lasts] at waits
          refine .inl ⟨wholeStill, ?_⟩
          change Course limit grace waited.timedOut waited.acts
          rw [lateStill, waits.acts, asks.acts, acts]
          exact .inGrace
      | true =>
          rw [lasts] at waits
          have running : w.exited = false := asks.exited.symm.trans (running_of_outlasts lasts)
          let struck := waited.send child .kill
          have kills : Goes waited _ _ struck := goes_send waited child .kill
          change Ends child limit grace (struck.awaitOrCut child .last none)
          cases endless : child.cut .last with
          | some reason =>
              rw [awaitOrCut_of_cut endless]
              refine .inr ⟨.last, reason, endless, rfl, ?_⟩
              change Severed child limit grace .last reason (struck.exited || reason.exited)
                (struck.acts ++ [.cut .last reason])
              rw [kills.exited, kills.acts, waits.exited, waits.acts, asks.acts, acts, running]
              exact .last
          | none =>
              have ends := goes_await struck .last none
              rw [awaitOrCut_of_whole endless]
              refine .inl ⟨ends.cutBy.trans (kills.cutBy.trans wholeStill), ?_⟩
              rw [ends.timedOut, kills.timedOut, lateStill, ends.acts, kills.acts, waits.acts,
                asks.acts, acts, waits.exited, running]
              exact .forced

theorem ends_run (child : Child) (limit grace : Float) :
    Ends child limit grace (run child limit grace) := by
  unfold run
  dsimp only
  cases short : child.cut .first with
  | some reason =>
      let left := (start child).severed .first reason
      have made := goes_abandon left child
      rw [awaitOrCut_of_cut short]
      change Ends child limit grace (left.abandon child)
      refine .inr ⟨.first, reason, short, made.cutBy, ?_⟩
      rw [made.exited, made.acts]
      exact .first
  | none =>
      let waited := (start child).await .first (some limit)
      have waits : Goes (start child) _ _ waited := goes_await (start child) .first (some limit)
      have whole : waited.cutBy = none := waits.cutBy
      rw [awaitOrCut_of_whole short]
      change Ends child limit grace (if waited.cutBy.isSome = true then _ else
        if waited.exited = true then waited else _)
      rw [whole, Option.isSome_none, if_neg Bool.false_ne_true, waits.exited]
      cases lasts : (start child).outlasts (some limit) with
      | false =>
          rw [lasts] at waits
          refine .inl ⟨whole, ?_⟩
          change Course limit grace waited.timedOut waited.acts
          rw [waits.timedOut, waits.acts]
          exact .inTime
      | true =>
          rw [lasts] at waits
          have acts : waited.acts ++ [.announce .timeout] =
              [.wait .first (some limit) false, .announce .timeout] := by rw [waits.acts]; rfl
          cases exits : child.exitsAtLimit with
          | true => exact ends_stop grace acts rfl whole exits.symm
          | false => exact ends_stop grace acts rfl whole (waits.exited.trans exits.symm)

theorem course_run (uncut : ∀ wait, child.cut wait = none) (limit grace : Float) :
    Course limit grace (run child limit grace).timedOut (run child limit grace).acts ∧
      (run child limit grace).cutBy = none := by
  rcases ends_run child limit grace with ⟨whole, course⟩ | ⟨which, reason, cut, -⟩
  · exact ⟨course, whole⟩
  · cases (uncut which).symm.trans cut

/-! ## What the acts show -/

/-- What has to be behind the watch, and what ahead of it, when it takes an act. -/
def Due (limit grace : Float) (before : List Act) (act : Act) (after : List Act) : Prop :=
  match act with
  | .send signal _ =>
    (.wait .first (some limit) false ∈ before ∧ before.getLast? = some (.poll false) ∧
      .poll true ∉ before) ∧
    match signal with
    | .term => ∀ ended, .wait .grace (some grace) ended ∉ before
    | .kill => .wait .grace (some grace) false ∈ before
  | .wait _ none _ => after = [] ∧ .wait .grace (some grace) false ∈ before
  | _ => True

theorem Course.due {late : Bool} {acts : List Act} (course : Course limit grace late acts) :
    Act.Throughout (Due limit grace) [] acts := by
  cases course with
  | inTime => simp [Act.Throughout, Due]
  | @inGrace exited delivered =>
      cases exited <;> cases delivered <;> simp [Act.Throughout, Due, tried]
  | @forced delivered killed =>
      cases delivered <;> cases killed <;> simp [Act.Throughout, Due, tried]

theorem Course.timedOut_iff {late : Bool} {acts : List Act} (course : Course limit grace late acts) :
    late = true ↔ Act.wait .first (some limit) false ∈ acts := by
  cases course <;> simp

end Watch

/-- A host that starts the same child for every command and leaves the disk as it is. -/
def Host.always (child : Child) : Host where
  cwd := []
  bindings := []
  processGroups := true
  tempDir := Path.ofText "/tmp"
  suffix _ := "0"
  timeOfDay := "noon"
  measured := id
  react _ _ disk := (.ok child, disk)
  removal _ _ := ⟨[], none⟩

namespace Run

variable {host : Host} {request : Request} {listen : CommandEvent → Run Unit} {s : Session}

/-! ## Commands -/

/-- The events of a watch, as they are told of the command of a request. -/
def announced (request : Request) (limit : Float) (watch : Watch) : List CommandEvent :=
  watch.events.map fun kind => ⟨kind, request.domain, Shell.joinWords request.argv, limit⟩

theorem tell_eq (request : Request) (limit : Float) (watch : Watch)
    (listen : CommandEvent → Run Unit) :
    tell request limit watch listen = (announced request limit watch).forM listen := by
  unfold tell announced
  induction watch.events with
  | nil => rfl
  | cons kind kinds ih =>
      change (listen _ >>= fun _ => kinds.forM _) = (listen _ >>= fun _ => (kinds.map _).forM listen)
      rw [ih]

/-- A child that nothing cuts short has a result, and the listener is told the events of the
watch over it. -/
theorem from_command_uncut {cwd : Option Path} {child : Child}
    (talks : ∀ event, Talks (listen event))
    (resolved : request.cwd.mapM (fun path => s.disk.resolve host.cwd path) = .ok cwd)
    (starts : (host.react s.launches.length (request.invocation host cwd) s.disk).1 = .ok child)
    (uncut : ∀ wait, child.cut wait = none) :
    let invocation := request.invocation host cwd
    let watch := Watch.run child invocation.limit invocation.grace
    ∃ t, from_ (command host request listen) s =
        (.ok (watchedResult request invocation.limit (host.measured watch.clock) child watch), t) ∧
      t.launches = s.launches ++ [⟨invocation, s.disk, watch.sent⟩] ∧
      from_ ((announced request invocation.limit watch).forM listen)
        (launched host s invocation watch.sent) = (.ok (), t) := by
  intro invocation watch
  have ended : from_ (command host request listen) s = _ := from_command_resolved resolved
  rw [starts] at ended
  have told : Talks ((announced request invocation.limit watch).forM listen) :=
    Talks.forM fun event _ => talks event
  obtain ⟨log, console, commandEvents, checkEvents, said⟩ :=
    told (launched host s invocation watch.sent)
  have whole : watch.cutBy = none := (Watch.course_run uncut invocation.limit invocation.grace).2
  refine ⟨_, ended.trans ?_, ?_, said⟩
  · change from_ (tell request invocation.limit watch listen >>= fun _ => _) _ = _
    rw [tell_eq, from_bind_ok said]
    change from_ (watch.cutBy.forM interrupt >>= fun _ => _) _ = _
    rw [whole]
    rfl
  · rfl

theorem talks_note (event : CommandEvent) : Talks (note event) := fun s =>
  ⟨s.log, s.console, _, s.checkEvents, rfl⟩

end Run

end StageParity
