import StageParity.Proofs.Escalation

/-!
# Children left behind

A wait for a child can be cut short at any of the three waits of the watch over it. A child whose
first wait is cut short is made to end before the interrupt is passed on, and one whose last wait is
cut short was made to end before that wait began. A child that was only asked to end, and whose
grace is cut short, is left to itself: nothing is sent to it any more (`Watch.Severed`).
-/

namespace StageParity

namespace Watch

variable {child : Child} {limit grace : Float}

/-- A child that is not left to itself: it was found to have ended, or an attempt was made to make
it end. -/
def Accounted (w : Watch) : Prop := w.exited = true ∨ StopSignal.kill ∈ w.sent

theorem cut_notMem_tried (which : Wait) (reason : Cut) (signal : StopSignal)
    (exited delivered : Bool) : Act.cut which reason ∉ tried signal exited delivered := by
  cases exited <;> cases delivered <;> simp [tried]

theorem cut_notMem_madeToEnd (which : Wait) (reason : Cut) (exited delivered : Bool) :
    Act.cut which reason ∉ madeToEnd exited delivered := by
  cases exited <;> cases delivered <;> simp [madeToEnd]

theorem Course.not_cut {late : Bool} {acts : List Act} (course : Course limit grace late acts)
    (which : Wait) (reason : Cut) : Act.cut which reason ∉ acts := by
  cases course <;> simp [cut_notMem_tried]

theorem Severed.cut_eq {which other : Wait} {reason second : Cut} {ended : Bool} {acts : List Act}
    (severed : Severed child limit grace which reason ended acts)
    (member : Act.cut other second ∈ acts) : other = which ∧ second = reason := by
  cases severed with
  | first => simpa [cut_notMem_madeToEnd] using member
  | grace => simpa [cut_notMem_tried] using member
  | last => simpa [cut_notMem_tried] using member

/-- A watch that was cut short accounts for its child, unless it was the grace that was cut short
and the child went on. -/
theorem Severed.accounted_iff {which : Wait} {reason : Cut} {w : Watch}
    (severed : Severed child limit grace which reason w.exited w.acts) :
    w.Accounted ↔ ¬ (which = .grace ∧ child.exitsAtLimit = false ∧ reason.exited = false) := by
  unfold Accounted sent
  generalize w.acts = acts at severed ⊢
  generalize w.exited = ended at severed ⊢
  cases severed with
  | @first reason killed => cases reason.exited <;> cases killed <;> simp [madeToEnd]
  | @grace reason asked => cases child.exitsAtLimit <;> cases asked <;> simp [tried]
  | @last reason asked killed => cases asked <;> cases killed <;> simp [tried]

/-- Nothing is done for a child once its grace was cut short, and no attempt was made before to make
it end. -/
theorem Severed.after_grace {reason : Cut} {w : Watch}
    (severed : Severed child limit grace .grace reason w.exited w.acts) :
    w.acts.getLast? = some (.cut .grace reason) ∧ StopSignal.kill ∉ w.sent := by
  unfold sent
  generalize w.acts = acts at severed ⊢
  generalize w.exited = ended at severed
  cases severed with
  | @grace reason asked => cases child.exitsAtLimit <;> cases asked <;> simp [tried]

end Watch

/-- Whether what cuts a wait short stops the run: a request to stop does, and a signal does unless
the run handles it and has begun to remove its temporary files. -/
def Session.StoppedBy (s : Session) : Cut → Prop
  | .stop _ _ => True
  | .signal signal => s.handler signal = .outer ∨ s.scratch.tornDown = false

namespace Run

variable {host : Host} {request : Request} {listen : CommandEvent → Run Unit} {s : Session}

theorem from_interrupt_stopping {reason : Cut} (stops : s.StoppedBy reason) :
    ∃ label received log,
      from_ (interrupt reason) s =
        (.error (.interrupted label), { s with scratch := { s.scratch with received }, log }) := by
  cases reason with
  | stop label exited => exact ⟨label, s.scratch.received, s.log, rfl⟩
  | signal signal =>
      rcases stops with outer | live
      · have answered := from_receive signal s
        rw [outer] at answered
        exact ⟨_, s.scratch.received, s.log, answered⟩
      · exact from_interrupt_live _ live

/-- A command whose watch was cut short ends with the interrupt. -/
theorem from_command_cut {cwd : Option Path} {child : Child} {reason : Cut}
    (talks : ∀ event, Talks (listen event))
    (resolved : request.cwd.mapM (fun path => s.disk.resolve host.cwd path) = .ok cwd)
    (starts : (host.react s.launches.length (request.invocation host cwd) s.disk).1 = .ok child)
    (stops : s.StoppedBy reason) :
    let invocation := request.invocation host cwd
    let watch := Watch.run child invocation.limit invocation.grace
    watch.cutBy = some reason →
      ∃ label t, from_ (command host request listen) s = (.error (.interrupted label), t) ∧
        t.launches = s.launches ++ [⟨invocation, s.disk, watch.sent⟩] := by
  intro invocation watch short
  have ended : from_ (command host request listen) s = _ := from_command_resolved resolved
  rw [starts] at ended
  have told : Talks (tell request invocation.limit watch listen) :=
    Talks.forM fun kind _ => talks _
  obtain ⟨log, console, commandEvents, checkEvents, said⟩ :=
    told (launched host s invocation watch.sent)
  obtain ⟨label, received, log', stopped⟩ := from_interrupt_stopping
    (s := { launched host s invocation watch.sent with log, console, commandEvents, checkEvents })
    stops
  refine ⟨label, { launched host s invocation watch.sent with
    log := log', console, commandEvents, checkEvents, scratch := { s.scratch with received } },
    ended.trans ?_, rfl⟩
  change from_ (tell request invocation.limit watch listen >>= fun _ => _) _ = _
  rw [from_bind_ok said]
  change from_ (watch.cutBy.forM interrupt >>= fun _ => _) _ = _
  rw [short]
  exact from_bind_error stopped _

/-- **Interrupted waits.** When a wait for a child that was started is cut short by what stops the
run, the command ends with the interrupt, and the signals that were sent to the child went to its
process group if it has one. The child was found to have ended or an attempt was made to make it
end, just unless the wait was the grace of a child that did not end by then: such a child is only
asked to end, and left behind when the interrupt is passed on. -/
theorem command_interrupted (host : Host) (request : Request) {listen : CommandEvent → Run Unit}
    (talks : ∀ event, Talks (listen event)) (s : Session) {cwd : Option Path} {child : Child}
    (resolved : request.cwd.mapM (fun path => s.disk.resolve host.cwd path) = .ok cwd)
    (starts : (host.react s.launches.length (request.invocation host cwd) s.disk).1 = .ok child)
    {which : Wait} {reason : Cut} (stops : s.StoppedBy reason) :
    let invocation := request.invocation host cwd
    let watch := Watch.run child invocation.limit invocation.grace
    Act.cut which reason ∈ watch.acts →
      (∃ label t, from_ (command host request listen) s = (.error (.interrupted label), t) ∧
        t.launches = s.launches ++ [⟨invocation, s.disk, watch.sent⟩]) ∧
      (invocation.ownGroup = true ↔
        request.policy.processGroup = true ∧ host.processGroups = true) ∧
      (watch.Accounted ↔
        ¬ (which = .grace ∧ child.exitsAtLimit = false ∧ reason.exited = false)) ∧
      (which = .grace →
        watch.acts.getLast? = some (.cut .grace reason) ∧ StopSignal.kill ∉ watch.sent) := by
  intro invocation watch cut
  rcases Watch.ends_run child invocation.limit invocation.grace with
    ⟨-, course⟩ | ⟨wait, other, -, short, severed⟩
  · exact absurd cut (course.not_cut which reason)
  · obtain ⟨rfl, rfl⟩ := severed.cut_eq cut
    refine ⟨from_command_cut talks resolved starts stops short, Bool.and_eq_true_iff,
      severed.accounted_iff, ?_⟩
    rintro rfl
    exact severed.after_grace

/-- A child that runs on when it is asked to end, with a request to stop during its grace. -/
def forsaken : Child :=
  { Child.quick with
    runtime := 100
    onTerm := .ignore
    cut := fun which => if which = .grace then some (.stop "Ctrl-C" false) else none }

theorem command_interrupted_forsaken :
    let request : Request := ⟨["cc"], .artifactInvocation, ⟨1, 1, 1, true, 2⟩, none, none, none⟩
    let s := Session.start ⟨[]⟩ (Scratch.fresh none false)
    let watch := Watch.run forsaken 1 2
    (∃ label t,
        from_ (command (.always forsaken) request note) s = (.error (.interrupted label), t) ∧
        t.launches.map Launch.sent = [[StopSignal.term]]) ∧
      ¬ watch.Accounted := by
  intro request s watch
  have limit : request.policy.limit request.requested = 1 := by decide +kernel
  have sent : (Watch.run forsaken 1 2).sent = [.term] := by decide +kernel
  have cut : Act.cut .grace (.stop "Ctrl-C" false) ∈ (Watch.run forsaken 1 2).acts := by
    decide +kernel
  have interrupted := @command_interrupted (.always forsaken) request note talks_note s none
    forsaken rfl rfl .grace (.stop "Ctrl-C" false) trivial
  dsimp only [Request.invocation] at interrupted
  rw [limit] at interrupted
  obtain ⟨⟨label, t, ended, launches⟩, -, accounted, -⟩ := interrupted cut
  refine ⟨⟨label, t, ended, ?_⟩, fun done => accounted.mp done ⟨rfl, rfl, rfl⟩⟩
  rw [launches]
  exact congrArg (fun signals => [signals]) sent

end Run

end StageParity
