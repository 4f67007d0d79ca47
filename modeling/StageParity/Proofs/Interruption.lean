import StageParity.Proofs.Verdict

/-!
# The exit code of a run that was stopped

A run that was asked to stop removes its temporary files first, and notes the signals that come
meanwhile in the place of the one that stopped it. So its exit code is that of the last signal:
the one that stopped it only if no other signal came after it.
-/

namespace StageParity

open Relation (ReflTransGen)

/-- The signal that cut a wait short, if a signal did. -/
def Cut.signal? : Cut → Option Signal
  | .stop _ _ => none
  | .signal sent => some sent

/-- Whether the signal that a run heard last is the one that cut it short. -/
structure Session.Heard (host : Host) (s : Session) : Prop where
  silent : ¬ s.WasCut host → s.scratch.received = none
  cut : ∀ reason, .cut reason ∈ s.endings host → s.scratch.received = reason.signal?

theorem Session.mem_endings_concat {host : Host} {s t : Session} {launch : Launch} {ending : Ending}
    (next : t.launches = s.launches ++ [launch]) :
    ending ∈ t.endings host ↔
      ending ∈ s.endings host ∨ ending = launch.ending host s.launches.length := by
  rw [endings_concat host next, List.mem_append, List.mem_singleton]

namespace Session.Heard

variable {host : Host} {project : Project} {s t : Session}

theorem congr (heard : s.Heard host) (launches : t.launches = s.launches)
    (received : t.scratch.received = s.scratch.received) : t.Heard host := by
  refine ⟨fun uncut => ?_, fun reason member => ?_⟩
  · rw [received]
    exact heard.silent fun cut => uncut ((wasCut_congr launches).mpr cut)
  · rw [endings_congr host launches] at member
    rw [received]
    exact heard.cut reason member

theorem step (step : Advance host project s t) (handles : ∀ signal, s.handler signal = .scratch)
    (heard : s.Heard host) : t.Heard host := by
  cases step with
  | makeWorkdir absent made => exact heard.congr rfl (Scratch.add_received _ _)
  | handOut present named => exact heard.congr rfl (Scratch.add_received _ _)
  | launch whole =>
      refine ⟨fun uncut => heard.silent fun ⟨reason, before⟩ => ?_, fun reason member => ?_⟩
      · exact uncut ⟨reason, (mem_endings_concat rfl).mpr (.inl before)⟩
      · rcases (mem_endings_concat rfl).mp member with before | new
        · exact heard.cut reason before
        · exact absurd new.symm (whole reason)
  | @cut invocation sent reason uncut short =>
      have hears : s.hearing reason = reason.signal? := by
        cases reason with
        | stop label exited => exact heard.silent uncut
        | signal signal => simp only [hearing, handles signal, Cut.signal?]
      refine ⟨fun still => ?_, fun other member => ?_⟩
      · exact absurd ⟨reason, (mem_endings_concat rfl).mpr (.inr short.symm)⟩ still
      · rcases (mem_endings_concat rfl).mp member with before | new
        · exact absurd ⟨other, before⟩ uncut
        · cases new.trans short
          exact hears
  | _ => exact heard.congr rfl rfl

/-- While the run handles the signals, what it heard last is what cut it short. -/
theorem of_advances (advances : ReflTransGen (Advance host project) s t)
    (handles : ∀ signal, s.handler signal = .scratch) (heard : s.Heard host) : t.Heard host := by
  induction advances with
  | refl => exact heard
  | tail before step ih =>
      refine ih.step step fun signal => ?_
      rw [(Advance.extends_of_advances before).2]
      exact handles signal

end Session.Heard

namespace Run

variable {host : Host} {options : RunOptions} {project : Project} {path : Path} {s t : Session}

/-! ## The signals that come during a removal -/

/-- The signals that come while a path is removed: those of the removal of a tree or of a file,
if it can be told which one it is. -/
def signalsAt (host : Host) (path : Path) (s : Session) : List Signal :=
  match s.disk.isDirectory host.cwd path with
  | .error _ => []
  | .ok false => (host.removal false s.fileRemovals).signals
  | .ok true =>
    match s.disk.isLink host.cwd path with
    | .error _ => []
    | .ok true => (host.removal false s.fileRemovals).signals
    | .ok false => (host.removal true s.treeRemovals).signals

/-- The signals that come while paths are removed one after the other. -/
def signalsDuring (host : Host) : List Path → Session → List Signal
  | [], _ => []
  | path :: paths, s =>
    signalsAt host path s ++ signalsDuring host paths (from_ (removeNoting host path) s).2

/-- A settled run notes the last one of the signals that come. -/
theorem from_receiveAll_settled (signals : List Signal) (settled : s.Settled) :
    ∃ log, from_ (receiveAll signals) s =
      (.ok (),
        { s with
          log
          scratch := { s.scratch with received := signals.getLast?.or s.scratch.received } }) := by
  induction signals generalizing s with
  | nil => exact ⟨s.log, rfl⟩
  | cons signal signals ih =>
      have first := from_receive signal s
      rw [settled.handles signal, settled.tornDown] at first
      obtain ⟨log, rest⟩ := ih (s := (from_ (receive signal) s).2)
        (by rw [first]; exact ⟨settled.handles, settled.tornDown⟩)
      rw [first] at rest
      refine ⟨log, (from_bind_ok first _).trans (rest.trans ?_)⟩
      rw [List.getLast?_cons]
      cases signals.getLast? <;> rfl

theorem received_removeTree (host : Host) (path : Path) (settled : s.Settled) :
    (from_ (removeTree host path) s).2.scratch.received =
      (host.removal true s.treeRemovals).signals.getLast?.or s.scratch.received := by
  unfold removeTree
  rw [from_get_bind, from_modify_bind]
  obtain ⟨log, ended⟩ := from_receiveAll_settled (host.removal true s.treeRemovals).signals
    (s := { s with treeRemovals := s.treeRemovals + 1 }) ⟨settled.handles, settled.tornDown⟩
  rw [from_bind_ok ended]
  cases (host.removal true s.treeRemovals).refusal with
  | some errno => rfl
  | none =>
      dsimp only
      rw [from_changePartly]

theorem received_removeFile (host : Host) (path : Path) (settled : s.Settled) :
    (from_ (removeFile host path) s).2.scratch.received =
      (host.removal false s.fileRemovals).signals.getLast?.or s.scratch.received := by
  unfold removeFile
  rw [from_get_bind, from_modify_bind]
  obtain ⟨log, ended⟩ := from_receiveAll_settled (host.removal false s.fileRemovals).signals
    (s := { s with fileRemovals := s.fileRemovals + 1 }) ⟨settled.handles, settled.tornDown⟩
  rw [from_bind_ok ended]
  cases Disk.misnamed? path with
  | some fault => rfl
  | none =>
      cases (host.removal false s.fileRemovals).refusal with
      | some errno => rfl
      | none =>
          dsimp only
          rw [from_get_bind]
          dsimp only
          cases s.disk.unlink host.cwd path with
          | ok disk => rfl
          | error fault =>
              dsimp only
              split <;> rfl

theorem received_remove (host : Host) (path : Path) (settled : s.Settled) :
    (from_ (remove host path) s).2.scratch.received =
      (signalsAt host path s).getLast?.or s.scratch.received := by
  unfold remove signalsAt
  cases tree : s.disk.isDirectory host.cwd path with
  | error fault =>
      rw [from_bind_error (from_ask_error tree)]
      rfl
  | ok isTree =>
      rw [from_bind_ok (from_ask_ok tree)]
      cases isTree with
      | false => exact received_removeFile host path settled
      | true =>
          rw [if_pos rfl]
          cases link : s.disk.isLink host.cwd path with
          | error fault =>
              rw [from_bind_error (from_ask_error link)]
              rfl
          | ok isLink =>
              rw [from_bind_ok (from_ask_ok link)]
              cases isLink with
              | true => exact received_removeFile host path settled
              | false => exact received_removeTree host path settled

theorem received_removeNoting (host : Host) (path : Path) (settled : s.Settled) :
    (from_ (removeNoting host path) s).2.scratch.received =
      (signalsAt host path s).getLast?.or s.scratch.received := by
  rw [← received_remove host path settled, from_removeNoting]
  rcases from_ (remove host path) s with ⟨fault | done, t⟩
  · cases fault with
    | file inner => cases inner <;> rfl
    | _ => rfl
  · rfl

/-- After a pass that came to its end, a settled run has noted the last one of the signals that
came meanwhile. -/
theorem received_pass {paths : List Path} (settled : s.Settled)
    (ended : from_ (paths.forM (removeNoting host)) s = (.ok (), t)) :
    t.scratch.received = (signalsDuring host paths s).getLast?.or s.scratch.received := by
  induction paths generalizing s with
  | nil =>
      cases ended
      rfl
  | cons path paths ih =>
      obtain ⟨_, u, first, rest⟩ := from_bind_eq_ok ended
      have removing := removing_removeNoting host path s
      have noted := received_removeNoting host path settled
      rw [first] at removing noted
      rw [ih (Removing.settled removing settled) rest, noted, signalsDuring, first,
        List.getLast?_append, Option.or_assoc]

/-! ## The run -/

/-- What the exit code of a run says that was cut short for the given reason, when the given
signals came while its temporary files were removed. -/
structure StopCode (reason : Cut) (late : List Signal) (code : Nat) : Prop where
  last : code = stoppedCode (late.getLast?.or reason.signal?)
  /-- The code is that of the signal that stopped the run just when no other one came last. -/
  signalled : ∀ signal, reason = .signal signal →
    (code = 128 + signal.number ↔ ∀ other ∈ late.getLast?, other = signal)
  /-- The code is that of a plain request to stop just when no other signal came last. -/
  requested : reason.signal? = none → (code = 130 ↔ ∀ other ∈ late.getLast?, other = .int)

theorem stopCode (reason : Cut) (late : List Signal) :
    StopCode reason late (stoppedCode (late.getLast?.or reason.signal?)) := by
  refine ⟨rfl, ?_, fun plain => ?_⟩
  · rintro signal rfl
    cases late.getLast? with
    | none => simp [Cut.signal?, stoppedCode, signalBase]
    | some other => cases other <;> cases signal <;> simp [stoppedCode, signalBase, Signal.number]
  · rw [plain]
    cases late.getLast? with
    | none => simp [stoppedCode, interruptedCode]
    | some other => cases other <;> simp [stoppedCode, signalBase, Signal.number]

theorem Opened.takes {disk : Disk} (opened : Opened host options disk project s)
    (handles : options.handlesSignals = true) (signal : Signal) :
    (taken s).handler signal = .scratch := by
  rw [← (Deed.frame (deeds_staged host options project s)).1]
  exact opened.handled handles signal

theorem Opened.heard {disk : Disk} (opened : Opened host options disk project s) :
    (taken s).Heard host := by
  refine ⟨fun _ => ?_, fun reason member => ?_⟩
  · unfold taken
    split <;> rw [opened.scratch] <;> rfl
  · rw [opened.ready.endings] at member
    cases member

/-- Stages that were cut short were so by a request to stop. Their signal is the last one that was
heard, the paths that they leave can all be named, and no fatal error is reported. -/
theorem staged_of_cut {disk : Disk} (opened : Opened host options disk project s)
    (handles : options.handlesSignals = true)
    (cut : (staged host options project s).WasCut host) :
    (∃ fault, (from_ (stagesReported host project options.verbose) (taken s)).1 = .error fault ∧
        fault.Interrupts) ∧
      (∀ path ∈ (staged host options project s).scratch.tracked, Disk.misnamed? path = none) ∧
      (staged host options project s).Heard host ∧
      (staged host options project s).report.fatalErrors = [] := by
  unfold staged at cut ⊢
  have cases := stagesReported_cases host project options.verbose opened.ready opened.calm
  dsimp only at cases
  rcases ended : from_ (stagesReported host project options.verbose) (taken s) with ⟨result, t⟩
  rw [ended] at cut cases
  rcases cases with ⟨-, uncut, -⟩ | ⟨fault, rfl, -, asked, -, harmless⟩
  · exact absurd cut uncut
  · have interrupts := asked.mpr cut
    rcases stop_of_stagesReported opened.ready opened.calm ended with ⟨-, advances⟩ | snag
    · refine ⟨⟨fault, rfl, interrupts⟩, Advance.named advances ?_, ?_, harmless⟩
      · have none : (taken s).scratch.tracked = [] := by
          unfold taken
          split <;> rw [opened.scratch] <;> rfl
        rw [none]
        exact fun path member => nomatch member
      · exact Session.Heard.of_advances advances (opened.takes handles) opened.heard
    · exact absurd interrupts (not_interrupts_of_snag snag)

/-- A run whose stages were cut short removes its temporary files and has then been stopped. The
signal that it remembers is the last one that came, be it during the removal. Its report can be
printed. -/
theorem stagesScoped_of_cut {disk : Disk} {reason : Cut}
    (opened : Opened host options disk project s) (handles : options.handlesSignals = true)
    (cut : .cut reason ∈ (staged host options project s).endings host) :
    let stopping := staged host options project s
    let late := signalsDuring host stopping.scratch.tracked.reverse (torn stopping)
    ∃ t, from_ (stagesScoped host project options.verbose) s = (.ok true, t) ∧
      t.disk = (pass host stopping).2.disk ∧
      t.scratch.received = late.getLast?.or reason.signal? ∧ t.report.unprintable? = none := by
  have live := opened.live
  have settled : (torn (staged host options project s)).Settled := ⟨opened.handled handles, rfl⟩
  obtain ⟨⟨fault, stopped, interrupts⟩, named, heard, harmless⟩ :=
    staged_of_cut opened handles ⟨reason, cut⟩
  obtain ⟨-, -, -, recorded⟩ := pass_frame host (staged host options project s)
  obtain ⟨u, passed, -⟩ := pass_settled host settled
    (fun path listed => named path (List.mem_reverse.mp listed))
    fun path listed => (tracks_staged opened).proper (List.mem_reverse.mp listed)
  have received := received_pass settled passed
  have reached : pass host (staged host options project s) = (.ok (), u) := passed
  obtain ⟨log, within⟩ := from_stages_within host options project live
  obtain ⟨result, log', console, report, ending, -, asked, -⟩ :=
    from_stagesScoped host project options.verbose s
  dsimp only
  rw [within, reached] at ending asked
  rw [reached] at recorded ⊢
  rw [← heard.cut reason cut]
  have printable : u.report.unprintable? = none := by
    rw [Report.unprintable?, recorded, harmless]
    rfl
  obtain ⟨rfl, rfl⟩ := asked fault stopped interrupts
  exact ⟨_, ending, rfl, received, (unprintable_closed host _).trans printable⟩

/-- A run that was cut short says so by its exit code, unless its report cannot be saved. -/
theorem verifyProject_of_cut {disk : Disk} {reason : Cut}
    (opened : Opened host options disk project s) (handles : options.handlesSignals = true)
    (cut : .cut reason ∈ (from_ (verifyProject host options project) s).2.endings host) :
    let stopping := staged host options project s
    let ended := from_ (verifyProject host options project) s
    let late := signalsDuring host stopping.scratch.tracked.reverse (torn stopping)
    ended.1 = .ok (stoppedCode (late.getLast?.or reason.signal?)) ∨
      ∃ path fault, options.reportFile = some path ∧
        (pass host stopping).2.disk.Unsaved host.cwd path fault ∧ ended.1 = .error (.file fault) := by
  have live := opened.live
  have launches := (verifyProject_course host options project live).2.1
  rw [Session.endings_congr host
    (launches.trans (pass_frame host (staged host options project s)).2.2.1)] at cut
  obtain ⟨t, stopped, disk, received, printable⟩ := stagesScoped_of_cut opened handles cut
  have rest := from_verifyProject host options project s
  rw [stopped] at rest
  obtain ⟨result, disk', log, console, ended, -, outcome⟩ := rest
  dsimp only
  rw [ended, ← received, ← disk]
  rw [printable] at outcome
  obtain ⟨-, ⟨path, fault, file, unsaved, rfl⟩ | rfl⟩ := outcome
  · exact .inr ⟨path, fault, file, unsaved, rfl⟩
  · exact .inl rfl

/-- A run that takes over the signals and is cut short returns an exit code, unless its report
cannot be saved, and `StopCode` tells which. -/
theorem verify_stopped_code (host : Host) (options : RunOptions) (disk : Disk) (base : Option Path)
    (handles : Bool) :
    let signalling := { options with handlesSignals := true }
    let start := Session.start disk (Scratch.fresh base handles)
    let ended := from_ (verify host signalling) start
    match from_ (openProject host signalling) start with
    | (.ok (some project), opened) =>
      let stopping := staged host signalling project opened
      let late := signalsDuring host stopping.scratch.tracked.reverse (torn stopping)
      ∀ reason, .cut reason ∈ ended.2.endings host →
        (∃ code, ended.1 = .ok code ∧ StopCode reason late code) ∨
          ∃ path fault, options.reportFile = some path ∧
            (pass host stopping).2.disk.Unsaved host.cwd path fault ∧
            ended.1 = .error (.file fault)
    | _ => ended.2.launches = [] := by
  intro signalling start ended
  rcases verify_opened host signalling disk (Scratch.fresh base handles) with
    ⟨log, console, talk, missing⟩ | ⟨project, t, opening, opened, same⟩
  · rcases opening : from_ (openProject host signalling) start with ⟨fault | found, t⟩
    · exact congrArg Session.launches talk
    · cases found with
      | some project => exact absurd opening (missing project t)
      | none => exact congrArg Session.launches talk
  · rw [opening]
    intro reason cut
    rw [show ended = _ from same] at cut ⊢
    refine (verifyProject_of_cut opened rfl cut).imp_left fun code => ?_
    exact ⟨_, code, stopCode reason _⟩

end Run

end StageParity
