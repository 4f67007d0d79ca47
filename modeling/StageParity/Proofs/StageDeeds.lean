import StageParity.Proofs.Deeds
import StageParity.Proofs.Report

/-!
# Every step of the stages is made of deeds

For each step of the stages: it is made of deeds, and which faults can stop it. Steps that
start no command do deeds of their own only, and no request to stop comes out of them.
-/

namespace StageParity.Run

open Relation (ReflTransGen)

variable {α β : Type} {host : Host} {project : Project} {s t : Session}

/-- A step that does nothing but deeds of its own and is never asked to stop. -/
abbrev Alone (host : Host) (project : Project) (s : Session) (step : Run α) : Prop :=
  Abides (OwnDeed host project) (fun fault => ¬ fault.Interrupts) s step

/-- A step that builds or invokes something, and keeps nothing of it. -/
abbrev Working (host : Host) (project : Project) (s : Session) (step : Run α) : Prop :=
  Abides (Work host project) (fun _ => True) s step

/-- A step that is made of deeds. -/
abbrev Doing (host : Host) (project : Project) (s : Session) (step : Run α) : Prop :=
  Abides (Deed host project) (fun _ => True) s step

theorem Alone.working {step : Run α} (alone : Alone host project s step) :
    Working host project s step :=
  alone.mono (fun _ _ => .own) fun _ _ => trivial

theorem Working.doing {step : Run α} (working : Working host project s step) :
    Doing host project s step :=
  working.mono (fun _ _ => .work) fun _ => id

theorem Alone.doing {step : Run α} (alone : Alone host project s step) :
    Doing host project s step :=
  alone.working.doing

/-! ## Talking -/

/-- A step that only adds to the log, the console or the events. -/
def Talks (step : Run Unit) : Prop :=
  ∀ s, ∃ log console commandEvents checkEvents,
    from_ step s = (.ok (), { s with log, console, commandEvents, checkEvents })

theorem Talks.pure : Talks (pure ()) := fun s =>
  ⟨s.log, s.console, s.commandEvents, s.checkEvents, rfl⟩

theorem Talks.bind {first : Run Unit} {second : Unit → Run Unit} (begins : Talks first)
    (goesOn : Talks (second ())) : Talks (first >>= second) := by
  intro s
  obtain ⟨log, console, commandEvents, checkEvents, ended⟩ := begins s
  obtain ⟨log', console', commandEvents', checkEvents', done⟩ :=
    goesOn { s with log, console, commandEvents, checkEvents }
  exact ⟨log', console', commandEvents', checkEvents', by rw [from_bind_ok ended, done]⟩

theorem Talks.forM {xs : List α} {f : α → Run Unit} (each : ∀ x ∈ xs, Talks (f x)) :
    Talks (xs.forM f) := by
  induction xs with
  | nil => exact Talks.pure
  | cons x xs ih =>
      exact Talks.bind (each x List.mem_cons_self) (ih fun y member =>
        each y (List.mem_cons_of_mem x member))

theorem Talks.alone {step : Run Unit} (talks : Talks step) : Alone host project s step := by
  obtain ⟨log, console, commandEvents, checkEvents, ended⟩ := talks s
  refine ⟨?_, fun fault stopped => ?_⟩
  · rw [ended]
    exact .single .say
  · rw [ended] at stopped
    cases stopped

theorem talks_log (level : Level) (message : Text) : Talks (log level message) := fun s =>
  ⟨_, s.console, s.commandEvents, s.checkEvents, rfl⟩

theorem talks_write (t : Text) : Talks (write t) := fun s =>
  ⟨s.log, _, s.commandEvents, s.checkEvents, rfl⟩

theorem talks_print (t : Text) : Talks (print t) := talks_write _

theorem talks_printStep (number : Nat) (title : Text) : Talks (printStep number title) :=
  (talks_print _).bind (talks_print _)

theorem talks_printOutputs (outputs : Both (Option Captured)) : Talks (printOutputs outputs) := by
  refine Talks.forM fun stage _ => ?_
  cases outputs.get stage with
  | none => exact Talks.pure
  | some output => exact (talks_print _).bind (talks_print _)

theorem talks_printCheckEvent (verbose : Bool) (event : CheckEvent) :
    Talks (printCheckEvent verbose event) := by
  unfold printCheckEvent
  cases event.result with
  | none => exact talks_printStep _ _
  | some result =>
      dsimp only
      cases verbose with
      | false => cases result.verdict <;> exact talks_print _
      | true =>
          change Talks (printOutputs result.outputs >>= _)
          refine (talks_printOutputs _).bind ?_
          cases result.verdict <;> exact talks_print _

/-! ## The scratch space -/

/-- The working directory is the first name that was free; until one is found nothing
changes. -/
theorem from_makeTemp (host : Host) (base : Path) (stem : Text) (left nth : Nat) (s : Session) :
    (∃ w disk, w.Proper ∧ s.disk.makeDirectory host.cwd w workdirMode = .ok disk ∧
        from_ (makeTemp host base stem left nth) s = (.ok w, { s with disk })) ∨
      ∃ fault, from_ (makeTemp host base stem left nth) s = (.error (.file fault), s) := by
  induction left generalizing nth with
  | zero => exact .inr ⟨_, rfl⟩
  | succ left ih =>
      unfold makeTemp
      rw [from_get_bind]
      rcases made : s.disk.makeDirectory host.cwd
          (Path.ofText (tempName base stem (host.suffix nth))) workdirMode with fault | disk
      · cases fault with
        | os error =>
            cases number : error.errno? with
            | none =>
                right
                exact ⟨.os error, by simp only [number, from_throw]⟩
            | some errno =>
                by_cases taken : errno = .exists_
                · simpa only [number, if_pos taken] using ih (nth + 1)
                · right
                  simp only [number, if_neg taken, from_throw]
                  exact ⟨_, rfl⟩
        | nullByte => exact .inr ⟨.nullByte, by simp only [from_throw]⟩
        | linkLoop path => exact .inr ⟨.linkLoop path, by simp only [from_throw]⟩
        | notUnicode start count code =>
            exact .inr ⟨.notUnicode start count code, by simp only [from_throw]⟩
      · exact .inl ⟨_, disk, Path.proper_ofText _, made, rfl⟩

theorem from_ensureLive (s : Session) :
    from_ ensureLive s =
      (if s.scratch.tornDown then .error .released else .ok (), s) := by
  unfold ensureLive
  rw [from_get_bind]
  cases s.scratch.tornDown <;> rfl

theorem from_track {s : Session} (live : s.scratch.tornDown = false) (path : Path) :
    from_ (track path) s = (.ok (), { s with scratch := s.scratch.add path }) := by
  have alive : from_ ensureLive s = (.ok (), s) := by rw [from_ensureLive, live]; rfl
  exact from_bind_ok alive _

/-- The working directory is refused once the temporary files are gone, made when there is
none, and otherwise the one that there is. -/
theorem from_workdir (host : Host) (s : Session) :
    (s.scratch.tornDown = true ∧ from_ (workdir host) s = (.error .released, s)) ∨
      (s.scratch.tornDown = false ∧
        ∃ w, s.scratch.workdir = some w ∧ from_ (workdir host) s = (.ok w, s)) ∨
      (s.scratch.tornDown = false ∧ s.scratch.workdir = none ∧
        ∃ w disk log, w.Proper ∧ s.disk.makeDirectory host.cwd w workdirMode = .ok disk ∧
          from_ (workdir host) s =
            (.ok w,
              { s with
                disk, log
                scratch := Scratch.add { s.scratch with workdir := some w } w })) ∨
      (s.scratch.tornDown = false ∧ s.scratch.workdir = none ∧
        ∃ fault, from_ (workdir host) s = (.error (.file fault), s)) := by
  unfold workdir
  cases live : s.scratch.tornDown with
  | true =>
      refine .inl ⟨rfl, from_bind_error ?_ _⟩
      rw [from_ensureLive, live]
      rfl
  | false =>
      have alive : from_ ensureLive s = (.ok (), s) := by rw [from_ensureLive, live]; rfl
      rw [from_bind_ok alive, from_get_bind]
      dsimp only
      cases present : s.scratch.workdir with
      | some w => exact .inr (.inl ⟨rfl, w, rfl, rfl⟩)
      | none =>
          rcases from_makeTemp host (s.scratch.base.getD host.tempDir) s.scratch.stem
            nameAttempts 0 s with ⟨w, disk, proper, made, ended⟩ | ⟨fault, stopped⟩
          · refine .inr (.inr (.inl ⟨rfl, rfl, w, disk,
              s.log ++ [⟨.info, "Created working directory " ++ w.text⟩], proper, made, ?_⟩))
            rw [from_bind_ok ended, from_bind_ok (from_onScratch _ _)]
            exact from_bind_ok (from_track (by exact live) w) _
          · exact .inr (.inr (.inr ⟨rfl, rfl, fault, from_bind_error stopped _⟩))

theorem alone_workdir : Alone host project s (workdir host) := by
  rcases from_workdir host s with ⟨-, ended⟩ | ⟨-, w, -, ended⟩ |
    ⟨live, absent, w, disk, log, proper, made, ended⟩ | ⟨-, -, fault, ended⟩
  · refine ⟨by rw [ended], fun other stopped => ?_⟩
    rw [ended] at stopped
    cases stopped
    exact id
  · refine ⟨by rw [ended], fun other stopped => ?_⟩
    rw [ended] at stopped
    cases stopped
  · refine ⟨?_, fun other stopped => ?_⟩
    · rw [ended]
      exact .tail (.single (.makeWorkdir live absent proper made)) .say
    · rw [ended] at stopped
      cases stopped
  · refine ⟨by rw [ended], fun other stopped => ?_⟩
    rw [ended] at stopped
    cases stopped
    exact id

/-- The working directory that was given is the one of the run. -/
theorem workdir_ok {w : Path} (ended : from_ (workdir host) s = (.ok w, t)) :
    t.scratch.tornDown = false ∧ t.scratch.workdir = some w ∧ t.testDir = s.testDir := by
  rcases from_workdir host s with ⟨-, other⟩ | ⟨live, v, present, other⟩ |
    ⟨live, absent, v, disk, log, proper, made, other⟩ | ⟨-, -, fault, other⟩
  · rw [other] at ended
    cases ended
  · rw [other] at ended
    cases ended
    exact ⟨live, present, rfl⟩
  · rw [other] at ended
    cases ended
    simp [live]
  · rw [other] at ended
    cases ended

theorem alone_scratchPath {name : Text} (known : name ∈ project.scratchNames) :
    Alone host project s (scratchPath host name) := by
  refine Abides.bind alone_workdir fun w t ended => ?_
  obtain ⟨live, present, -⟩ := workdir_ok ended
  refine Abides.bind ?_ fun _ _ _ => Abides.pure _
  refine ⟨?_, fun fault stopped => ?_⟩
  · rw [from_track live]
    exact .single (.handOut live present known)
  · rw [from_track live] at stopped
    cases stopped

/-- A path that was handed out lies in the working directory by name, and it is tracked. -/
theorem scratchPath_ok {name : Text} {path : Path}
    (ended : from_ (scratchPath host name) s = (.ok path, t)) :
    t.testDir = s.testDir ∧
      ∃ w, t.scratch.workdir = some w ∧ path = w.child name ∧ path ∈ t.scratch.tracked := by
  obtain ⟨w, u, first, ended⟩ := from_bind_eq_ok ended
  obtain ⟨live, present, same⟩ := workdir_ok first
  rw [from_bind_ok (from_track live _)] at ended
  cases ended
  exact ⟨same, w, by simp [present], rfl, (Scratch.mem_add _ _ _).mpr (.inr rfl)⟩

/-- The deeds of a step that ended. -/
theorem Doing.deeds {x : Run α} {result : Except Fault α} (doing : Doing host project s x)
    (ended : from_ x s = (result, t)) : ReflTransGen (Deed host project) s t := by
  simpa only [ended] using doing.1

/-- Deeds follow deeds; the second step may rely on what the deeds of the first one kept. -/
theorem Doing.bind {x : Run α} {f : α → Run β} (first : Doing host project s x)
    (second : ∀ a t, from_ x s = (.ok a, t) → ReflTransGen (Deed host project) s t →
      Doing host project t (f a)) : Doing host project s (x >>= f) :=
  Abides.bind first fun a t ended => second a t ended (first.deeds ended)

theorem Working.bind {x : Run α} {f : α → Run β} (first : Working host project s x)
    (second : ∀ a t, from_ x s = (.ok a, t) → ReflTransGen (Deed host project) s t →
      Working host project t (f a)) : Working host project s (x >>= f) :=
  Abides.bind first fun a t ended => second a t ended (first.doing.deeds ended)

theorem Alone.bind {x : Run α} {f : α → Run β} (first : Alone host project s x)
    (second : ∀ a t, from_ x s = (.ok a, t) → ReflTransGen (Deed host project) s t →
      Alone host project t (f a)) : Alone host project s (x >>= f) :=
  Abides.bind first fun a t ended => second a t ended (first.doing.deeds ended)

theorem alone_change {path : Path} {step : Disk → Except FileFault Disk} (held : s.Holds path)
    (touches : ∀ disk, step s.disk = .ok disk → Disk.Touched host.cwd path s.disk disk) :
    Alone host project s (change step) := by
  cases answer : step s.disk with
  | ok disk =>
      refine ⟨?_, fun fault stopped => ?_⟩
      · rw [from_change_ok answer]
        exact .single (.touch held (touches disk answer))
      · rw [from_change_ok answer] at stopped
        cases stopped
  | error other =>
      refine ⟨by rw [from_change_error answer], fun fault stopped => ?_⟩
      rw [from_change_error answer] at stopped
      cases stopped
      exact id

theorem alone_changePartly {path : Path} {step : Disk → Disk × Option FileFault}
    (held : s.Holds path)
    (touches : (step s.disk).1 = s.disk ∨ Disk.Touched host.cwd path s.disk (step s.disk).1) :
    Alone host project s (changePartly step) := by
  refine ⟨?_, fun fault stopped => ?_⟩
  · rw [from_changePartly]
    rcases touches with same | touched
    · rw [same]
    · exact .single (.touch held touched)
  · rw [from_changePartly] at stopped
    cases ending : (step s.disk).2 with
    | none => rw [ending] at stopped; cases stopped
    | some other => rw [ending] at stopped; cases stopped; exact id

theorem alone_ask (question : Disk → Except FileFault α) : Alone host project s (ask question) :=
  Abides.ask question fun _ => id

theorem doing_onReport (step : Report → Except Fault Report) :
    Doing host project s (onReport step) := by
  refine ⟨?_, fun _ _ => trivial⟩
  rw [from_onReport]
  cases step s.report with
  | ok report => exact .single .record
  | error fault => exact .refl

/-! ## Commands -/

/-- The state after a command was started. -/
def launched (host : Host) (s : Session) (invocation : Invocation) (sent : List StopSignal) :
    Session :=
  { s with
    disk := (host.react s.launches.length invocation s.disk).2
    launches := s.launches ++ [⟨invocation, s.disk, sent⟩] }

theorem from_receive (signal : Signal) (s : Session) :
    from_ (receive signal) s =
      match s.handler signal with
      | .outer => (.error (.interrupted ("baseline " ++ signal.name)), s)
      | .scratch =>
        if s.scratch.tornDown then
          (.ok (),
            { s with
              scratch := { s.scratch with received := some signal }
              log := s.log ++
                [⟨.warning, "Received " ++ signal.name ++ " during teardown; finishing cleanup"⟩] })
        else
          (.error (.interrupted signal.name),
            { s with
              scratch := { s.scratch with received := some signal }
              log := s.log ++ [⟨.warning, "Received " ++ signal.name ++ ", aborting run"⟩] }) := by
  unfold receive
  rw [from_get_bind]
  cases s.handler signal with
  | outer => rfl
  | scratch =>
      dsimp only
      rw [from_bind_ok (from_onScratch _ _), from_get_bind]
      dsimp only
      cases s.scratch.tornDown <;> rfl

theorem from_interrupt (cut : Cut) (s : Session) :
    ∃ result received log,
      from_ (interrupt cut) s =
        (result, { s with scratch := { s.scratch with received }, log }) := by
  cases cut with
  | stop label exited => exact ⟨_, s.scratch.received, s.log, rfl⟩
  | signal signal =>
      change ∃ result received log, from_ (receive signal) s = _
      rw [from_receive]
      cases s.handler signal with
      | outer => exact ⟨_, s.scratch.received, s.log, rfl⟩
      | scratch => cases s.scratch.tornDown <;> exact ⟨_, _, _, rfl⟩

/-- What cuts a wait short stops a run whose temporary files are still there. Besides the
log, only the signal that was received is noted. -/
theorem from_interrupt_live (cut : Cut) (live : s.scratch.tornDown = false) :
    ∃ label received log,
      from_ (interrupt cut) s =
        (.error (.interrupted label),
          { s with scratch := { s.scratch with received }, log }) := by
  cases cut with
  | stop label exited => exact ⟨label, s.scratch.received, s.log, rfl⟩
  | signal signal =>
      change ∃ label received log, from_ (receive signal) s = _
      rw [from_receive, live]
      cases s.handler signal with
      | outer => exact ⟨_, s.scratch.received, s.log, rfl⟩
      | scratch => exact ⟨_, _, _, rfl⟩

theorem from_command_unresolved {host : Host} {request : Request} {listen : CommandEvent → Run Unit}
    {fault : FileFault} {s : Session}
    (unresolved : request.cwd.mapM (fun path => s.disk.resolve host.cwd path) = .error fault) :
    from_ (command host request listen) s = (.error (.file fault), s) := by
  cases place : request.cwd with
  | none =>
      rw [place] at unresolved
      cases unresolved
  | some root =>
      rw [place, Option.mapM_some] at unresolved
      have answer : s.disk.resolve host.cwd root = .error fault := by
        cases told : s.disk.resolve host.cwd root with
        | error other =>
            rw [told] at unresolved
            cases unresolved
            rfl
        | ok path =>
            rw [told] at unresolved
            cases unresolved
      unfold command
      rw [place]
      exact from_bind_error (from_bind_error (from_ask_error answer) _) _

/-- A command whose directory can be told is started once. What comes next depends on how the host
reacts. -/
theorem from_command_resolved {host : Host} {request : Request} {listen : CommandEvent → Run Unit}
    {cwd : Option Path} {s : Session}
    (resolved : request.cwd.mapM (fun path => s.disk.resolve host.cwd path) = .ok cwd) :
    let invocation := request.invocation host cwd
    from_ (command host request listen) s =
      match (host.react s.launches.length invocation s.disk).1 with
      | .error (.os error) =>
        (.ok (launchFailure request invocation.limit (host.measured 0) error),
          launched host s invocation [])
      | .error fault => (.error (.start fault), launched host s invocation [])
      | .ok child =>
        let watch := Watch.run child invocation.limit invocation.grace
        from_ (do
          tell request invocation.limit watch listen
          watch.cutBy.forM interrupt
          return watchedResult request invocation.limit (host.measured watch.clock) child watch)
          (launched host s invocation watch.sent) := by
  have asked : from_ (request.cwd.mapM fun path => ask fun disk => disk.resolve host.cwd path) s =
      (.ok cwd, s) := by
    cases place : request.cwd with
    | none =>
        rw [place] at resolved
        cases resolved
        rfl
    | some root =>
        rw [place] at resolved
        cases answer : s.disk.resolve host.cwd root with
        | error fault =>
            rw [Option.mapM_some, answer] at resolved
            cases resolved
        | ok path =>
            rw [Option.mapM_some, answer] at resolved
            cases resolved
            exact from_bind_ok (from_ask_ok answer) _
  rcases reacts : host.react s.launches.length (request.invocation host cwd) s.disk with
    ⟨reaction, disk⟩
  unfold command launched
  simp only [from_bind_ok asked, from_get_bind, reacts]
  cases reaction with
  | error fault => cases fault <;> rfl
  | ok child => rfl

/-- A command is started once, in the directory of the request as it stands, unless that
directory cannot be told. -/
theorem from_command (host : Host) {request : Request} {listen : CommandEvent → Run Unit}
    {root : Path} (talks : ∀ event, Talks (listen event)) (place : request.cwd = some root)
    (s : Session) :
    (∃ fault, s.disk.resolve host.cwd root = .error fault ∧
        from_ (command host request listen) s = (.error (.file fault), s)) ∨
      ∃ cwd sent log console commandEvents checkEvents,
        s.disk.resolve host.cwd root = .ok cwd ∧
          let invocation := request.invocation host (some cwd)
          let t := { launched host s invocation sent with log, console, commandEvents, checkEvents }
          match (host.react s.launches.length invocation s.disk).1 with
          | .error (.os error) =>
            from_ (command host request listen) s =
              (.ok (launchFailure request invocation.limit (host.measured 0) error), t)
          | .error fault => from_ (command host request listen) s = (.error (.start fault), t)
          | .ok child =>
            let watch := Watch.run child invocation.limit invocation.grace
            from_ (command host request listen) s =
              from_ (do
                watch.cutBy.forM interrupt
                return watchedResult request invocation.limit (host.measured watch.clock) child
                  watch) t := by
  cases answer : s.disk.resolve host.cwd root with
  | error fault =>
      refine .inl ⟨fault, rfl, from_command_unresolved ?_⟩
      rw [place, Option.mapM_some, answer]
      rfl
  | ok cwd =>
      have resolved : request.cwd.mapM (fun path => s.disk.resolve host.cwd path) =
          .ok (some cwd) := by
        rw [place, Option.mapM_some, answer]
        rfl
      have starts : from_ (command host request listen) s = _ := from_command_resolved resolved
      cases reaction :
          (host.react s.launches.length (request.invocation host (some cwd)) s.disk).1 with
      | error fault =>
          refine .inr ⟨cwd, [], s.log, s.console, s.commandEvents, s.checkEvents, rfl, ?_⟩
          simp only [reaction] at starts ⊢
          cases fault <;> exact starts
      | ok child =>
          let invocation := request.invocation host (some cwd)
          let watch := Watch.run child invocation.limit invocation.grace
          have told : Talks (tell request invocation.limit watch listen) :=
            Talks.forM fun kind _ => talks _
          obtain ⟨log, console, commandEvents, checkEvents, ended⟩ :=
            told (launched host s invocation watch.sent)
          refine .inr ⟨cwd, watch.sent, log, console, commandEvents, checkEvents, rfl, ?_⟩
          simp only [reaction] at starts ⊢
          exact starts.trans (from_bind_ok ended _)

theorem working_interrupt (cut : Cut) : Working host project s (interrupt cut) := by
  obtain ⟨result, received, log, ended⟩ := from_interrupt cut s
  refine ⟨?_, fun _ _ => trivial⟩
  rw [ended]
  have received : Work host project s { s with scratch := { s.scratch with received } } := .receive
  exact .tail (.single received) (.own .say)

theorem working_command {request : Request} {listen : CommandEvent → Run Unit}
    (talks : ∀ event, Talks (listen event)) (place : request.cwd = some project.root) :
    Working host project s (command host request listen) := by
  refine ⟨?_, fun _ _ => trivial⟩
  rcases from_command host talks place s with ⟨fault, -, stopped⟩ |
    ⟨cwd, sent, log, console, commandEvents, checkEvents, resolved, ended⟩
  · rw [stopped]
  · have started : Work host project s (launched host s (request.invocation host (some cwd)) sent) :=
      .launch resolved rfl
    have launch : ReflTransGen (Work host project) s
        { launched host s (request.invocation host (some cwd)) sent with
          log, console, commandEvents, checkEvents } :=
      .tail (.single started) (.own .say)
    dsimp only at ended
    split at ended
    · rw [ended]
      exact launch
    · rw [ended]
      exact launch
    · rw [ended]
      rename_i child _
      have cut : ∀ t, Working host project t ((Watch.run child
          (request.invocation host (some cwd)).limit
          (request.invocation host (some cwd)).grace).cutBy.forM interrupt) := by
        intro t
        cases (Watch.run child (request.invocation host (some cwd)).limit
            (request.invocation host (some cwd)).grace).cutBy with
        | none => exact Abides.pure ()
        | some cut => exact working_interrupt cut
      exact .trans launch (Abides.bind (cut _) fun _ _ _ => Abides.pure _).1

/-! ## Builds -/

theorem buildLogName_mem (project : Project) (stage : Stage) :
    buildLogName stage ∈ project.scratchNames := by
  cases stage <;> simp [Project.scratchNames, Stage.all]

theorem stageName_mem (project : Project) (stage : Stage) :
    project.layout.stageName stage ∈ project.scratchNames := by
  cases stage <;> simp [Project.scratchNames, Stage.all]

theorem testDirName_mem (project : Project) :
    project.layout.testDirName ∈ project.scratchNames := by
  simp [Project.scratchNames]

theorem holds_of_scratchPath {name : Text} {path : Path}
    (ended : from_ (scratchPath host name) s = (.ok path, t)) : t.Holds path := by
  obtain ⟨-, w, -, -, member⟩ := scratchPath_ok ended
  exact .inl member

theorem writeUnless_touches (disk : Disk) (cwd : Location) (path : Path) (text : Text)
    (wrong : Option FileFault) :
    (disk.writeUnless cwd path text wrong).1 = disk ∨
      Disk.Touched cwd path disk (disk.writeUnless cwd path text wrong).1 := by
  unfold Disk.writeUnless
  split
  · rename_i written
    exact .inr (.written written)
  · exact .inl rfl

theorem alone_keepBuildLog (stage : Stage) (text : Text) :
    Alone host project s (keepBuildLog host stage text) :=
  Abides.bind (alone_scratchPath (buildLogName_mem project stage)) fun _ _ ended =>
    alone_changePartly (holds_of_scratchPath ended) (writeUnless_touches _ _ _ _ _)

theorem alone_makeRunnable {path : Path} (held : s.Holds path) :
    Alone host project s (makeRunnable host path) :=
  alone_change held fun _ marked => .marked marked

theorem alone_failBuild (stage : Stage) (reason text : Text) :
    Alone host project s (failBuild stage reason text : Run α) :=
  Abides.throw id

theorem from_buildPart (stage : Stage) (what text : Text) (part : Run α) (s : Session) :
    from_ (buildPart stage what text part) s =
      match from_ part s with
      | (.ok a, t) => (.ok a, t)
      | (.error (.file (.os error)), t) =>
        (.error (.buildFailed stage.number (what ++ ": " ++ error.message) text), t)
      | (.error fault, t) => (.error fault, t) := by
  unfold buildPart
  rw [from_bind_ok (from_attempt part s)]
  rcases from_ part s with ⟨fault | a, t⟩
  · rcases fault with _ | (_ | _ | _ | _) | _ | _ | _ | _ | _ | _ | _ | _ | _ | _ | _ <;> rfl
  · rfl

theorem alone_buildPart {part : Run α} (stage : Stage) (what text : Text)
    (inside : Alone host project s part) :
    Alone host project s (buildPart stage what text part) := by
  obtain ⟨moves, orderly⟩ := inside
  unfold Alone Abides
  rw [from_buildPart]
  generalize from_ part s = outcome at moves orderly ⊢
  rcases outcome with ⟨fault | a, t⟩
  · split
    · rename_i ended
      cases ended
    · rename_i ended
      cases ended
      refine ⟨moves, fun other stopped => ?_⟩
      cases stopped
      exact id
    · rename_i ended
      cases ended
      refine ⟨moves, fun other stopped => ?_⟩
      cases stopped
      exact orderly _ rfl
  · exact ⟨moves, fun other stopped => nomatch stopped⟩

theorem copyFile_touches {disk after : Disk} {cwd : Location} {source target : Path}
    (copied : disk.copyFile cwd source target = .ok after) :
    Disk.Touched cwd target disk after := by
  unfold Disk.copyFile at copied
  cases same : disk.sameEntry cwd source target with
  | error fault => rw [same] at copied; cases copied
  | ok same' =>
      rw [same] at copied
      cases same' with
      | true => cases copied
      | false =>
          cases bytes : disk.fileBytes cwd source with
          | error fault => rw [bytes] at copied; cases copied
          | ok data =>
              rw [bytes] at copied
              exact .written copied

theorem working_buildLogged {listen : CommandEvent → Run Unit}
    (talks : ∀ event, Talks (listen event)) (stage : Stage) (argv : List Text) :
    Working host project s (buildLogged host project stage argv listen) := by
  refine Abides.bind (working_command talks rfl) fun result t _ => ?_
  refine Abides.bind (alone_keepBuildLog stage _).working fun _ _ _ => ?_
  cases result.failureReason with
  | some reason => exact (alone_failBuild stage reason _).working
  | none => exact Abides.pure _

/-- The compiler is copied and marked. -/
def putBinary (host : Host) (source target : Path) : Run Unit := do
  change fun disk => disk.copyFile host.cwd source target
  makeRunnable host target

/-- What a build of stage zero does after its command. -/
def takeBinary (host : Host) (project : Project) (text : Text) : Run Artifact := do
  if !(← ask fun disk => disk.isFile host.cwd project.binary) then
    failBuild .zero ("built binary not found: " ++ project.binary.text) text
  let target ← scratchPath host (project.layout.stageName .zero)
  buildPart .zero ("could not copy " ++ project.binary.text) text
    (putBinary host project.binary target)
  log .info ("Stage 0 compiler ready: " ++ target.text)
  return ⟨.zero, target, true, text, false⟩

/-- What a build of stage one from its source does after its command. -/
def keepBinary (host : Host) (target : Path) (text : Text) : Run Artifact := do
  if !(← ask fun disk => disk.isFile host.cwd target) then
    failBuild .one ("Stage 0 produced no binary at " ++ target.text) text
  makeRunnable host target
  log .info ("Stage 1 compiler ready: " ++ target.text)
  return ⟨.one, target, true, text, false⟩

theorem alone_takeBinary (text : Text) :
    Alone host project s (takeBinary host project text) := by
  refine Alone.bind (alone_ask _) fun present t _ _ => ?_
  cases present with
  | true =>
      refine Alone.bind (alone_scratchPath (stageName_mem project .zero)) fun target u handed _ => ?_
      have held : u.Holds target := holds_of_scratchPath handed
      refine Alone.bind (alone_buildPart .zero _ _ ?_)
        fun _ _ _ _ => Alone.bind (talks_log _ _).alone fun _ _ _ _ => Abides.pure _
      refine Alone.bind (alone_change held fun _ => copyFile_touches) fun _ _ _ copied => ?_
      exact alone_makeRunnable (Deed.holds_of_deeds copied held)
  | false =>
      refine Alone.bind (alone_failBuild .zero _ _) fun _ _ stopped _ => ?_
      cases stopped

theorem working_buildZero {listen : CommandEvent → Run Unit}
    (talks : ∀ event, Talks (listen event)) :
    Working host project s (buildZero host project listen) :=
  Working.bind (talks_log _ _).alone.working fun _ _ _ _ =>
    Working.bind (working_buildLogged talks .zero _) fun text _ _ _ =>
      (alone_takeBinary text).working

theorem alone_delegate {zero : Artifact} {target : Path} (held : s.Holds target) :
    Alone host project s (delegate host project zero target) := by
  refine Alone.bind (talks_log _ _).alone fun _ t _ logged => ?_
  have stillHeld : t.Holds target := Deed.holds_of_deeds logged held
  refine Alone.bind (alone_buildPart .one _ _ ?_)
    fun _ _ _ _ => Alone.bind (alone_keepBuildLog .one _) fun _ _ _ _ => Abides.pure _
  refine Alone.bind (alone_changePartly stillHeld (writeUnless_touches _ _ _ _ _))
    fun _ _ _ written => ?_
  exact alone_makeRunnable (Deed.holds_of_deeds written stillHeld)

theorem alone_keepBinary {target : Path} (held : s.Holds target) (text : Text) :
    Alone host project s (keepBinary host target text) := by
  refine Alone.bind (alone_ask _) fun present t _ asked => ?_
  cases present with
  | true =>
      exact Alone.bind (alone_makeRunnable (Deed.holds_of_deeds asked held)) fun _ _ _ _ =>
        Alone.bind (talks_log _ _).alone fun _ _ _ _ => Abides.pure _
  | false =>
      refine Alone.bind (alone_failBuild .one _ _) fun _ _ stopped _ => ?_
      cases stopped

theorem working_buildOne {listen : CommandEvent → Run Unit} {zero : Artifact}
    (talks : ∀ event, Talks (listen event)) :
    Working host project s (buildOne host project listen zero) := by
  unfold buildOne
  cases zero.built with
  | false =>
      refine Working.bind (Abides.throw trivial) fun _ _ stopped _ => ?_
      cases stopped
  | true =>
      refine Working.bind (alone_scratchPath (stageName_mem project .one)).working
        fun target u handed _ => ?_
      have held : u.Holds target := holds_of_scratchPath handed
      refine Working.bind (alone_ask _).working fun present v _ asked => ?_
      have heldThen : v.Holds target := Deed.holds_of_deeds asked held
      cases present with
      | false => exact (alone_delegate heldThen).working
      | true =>
          refine Working.bind (talks_log _ _).alone.working fun _ _ _ logged => ?_
          refine Working.bind (working_buildLogged talks .one _) fun text _ _ built => ?_
          exact (alone_keepBinary (Deed.holds_of_deeds (logged.trans built) heldThen) text).working

/-! ## Checks -/

theorem alone_scratchDirectory {name : Text} (known : name ∈ project.scratchNames) :
    Alone host project s (scratchDirectory host name) := by
  refine Alone.bind (alone_scratchPath known) fun path _ handed _ => ?_
  exact Alone.bind (alone_changePartly (holds_of_scratchPath handed) (.inr (.made _)))
    fun _ _ _ _ => Abides.pure _

theorem scratchDirectory_ok {name : Text} {path : Path}
    (ended : from_ (scratchDirectory host name) s = (.ok path, t)) :
    t.testDir = s.testDir ∧
      ∃ w, t.scratch.workdir = some w ∧ path = w.child name ∧ path ∈ t.scratch.tracked := by
  obtain ⟨p, u, handed, ended⟩ := from_bind_eq_ok ended
  obtain ⟨_, v, made, ended⟩ := from_bind_eq_ok ended
  cases ended
  rw [from_changePartly] at made
  obtain rfl := (Prod.mk.inj made).2
  have inside := scratchPath_ok handed
  exact inside

theorem alone_testDir : Alone host project s (testDir host project) := by
  unfold testDir
  refine Abides.get_bind ?_
  cases absent : s.testDir with
  | some path => exact Abides.pure path
  | none =>
      refine Alone.bind (alone_scratchDirectory (testDirName_mem project)) fun path t made _ => ?_
      obtain ⟨same, w, present, rfl, member⟩ := scratchDirectory_ok made
      refine Alone.bind (Abides.modify ?_) fun _ _ _ _ => Abides.pure _
      exact .keepTestDir present member (same.trans absent)

/-- The directory of the checks is remembered. -/
theorem testDir_ok {path : Path} (ended : from_ (testDir host project) s = (.ok path, t)) :
    t.testDir = some path := by
  unfold testDir at ended
  rw [from_get_bind] at ended
  cases present : s.testDir with
  | some other =>
      rw [present] at ended
      cases ended
      exact present
  | none =>
      rw [present] at ended
      obtain ⟨p, u, -, ended⟩ := from_bind_eq_ok ended
      cases ended
      rfl

/-- The directory of the checks is made once. -/
theorem from_testDir_of_some {path : Path} (present : s.testDir = some path) :
    from_ (testDir host project) s = (.ok path, s) := by
  unfold testDir
  rw [from_get_bind, present]
  rfl

theorem logName_mem (kind : CheckKind) (stage : Stage) : kind.logName stage ∈ checkFileNames := by
  cases kind <;> cases stage <;> simp [checkFileNames, CheckKind.order, Stage.all]

theorem sampleName_mem (stage : Stage) : sampleName stage ∈ checkFileNames := by
  cases stage <;> simp [checkFileNames, Stage.all]

theorem alone_keepOutcome (kind : CheckKind) (stage : Stage) (outcome : Outcome) :
    Alone host project s (keepOutcome host project kind stage outcome) :=
  Alone.bind alone_testDir fun _ _ made _ =>
    alone_change (.inr ⟨_, testDir_ok made, _, logName_mem kind stage, rfl⟩)
      fun _ written => .written written

theorem alone_keepOutcomes (kind : CheckKind) (zero one : Outcome) :
    Alone host project s (keepOutcomes host project kind zero one) :=
  Alone.bind (alone_keepOutcome kind .zero zero) fun _ _ _ _ => alone_keepOutcome kind .one one

theorem alone_compareOutcomes (kind : CheckKind) (zero one : Outcome) :
    Alone host project s (compareOutcomes kind zero one) :=
  Alone.bind (talks_log _ _).alone fun _ _ _ _ => Abides.pure _

theorem alone_skipCheck (kind : CheckKind) (reason : Text) :
    Alone host project s (skipCheck kind reason) :=
  Alone.bind (talks_log _ _).alone fun _ _ _ _ => Abides.pure _

theorem working_invoke (program : Path) (arguments : List Text) :
    Working host project s (invoke host project program arguments) := by
  refine Working.bind (working_command (fun _ => Talks.pure) rfl) fun result t _ _ => ?_
  dsimp only
  cases (Outcome.ofResult result).failure with
  | some failure => exact Working.bind (talks_log _ _).alone.working fun _ _ _ _ => Abides.pure _
  | none => exact Abides.pure _

theorem working_checkCompilers (kind : CheckKind) (compilers : Both Artifact)
    (arguments : List Text) :
    Working host project s (checkCompilers host project kind compilers arguments) :=
  Working.bind (working_invoke _ _) fun zero _ _ _ =>
    Working.bind (working_invoke _ _) fun one _ _ _ =>
      Working.bind (alone_keepOutcomes kind zero one).working fun _ _ _ _ =>
        (alone_compareOutcomes kind zero one).working

theorem alone_makeOwnerRunnable {path : Path} (held : s.Holds path) :
    Alone host project s (makeOwnerRunnable host path) := by
  have inside : Alone host project s (change fun disk => disk.addMode host.cwd path ownerRuns) :=
    alone_change held fun _ marked => .marked marked
  refine Alone.bind (inside.attempt.mono (fun _ _ => id) fun _ => False.elim)
    fun result t ended _ => ?_
  have orderly : ∀ fault, result = .error fault → ¬ fault.Interrupts := by
    rw [from_attempt] at ended
    cases ended
    exact inside.2
  split
  · exact Abides.pure ()
  · exact (talks_log _ _).alone
  · exact Abides.throw (orderly _ rfl)

theorem doing_noteSample (stage : Stage) {path : Path} (held : s.Holds path) :
    Doing host project s (noteSample host stage path) := by
  refine Doing.bind (alone_ask _).doing fun present t _ asked => ?_
  cases present with
  | true =>
      refine Doing.bind (alone_makeOwnerRunnable (Deed.holds_of_deeds asked held)).doing
        fun _ _ _ _ => Abides.modify .keepSamples
  | false => exact (talks_log _ _).alone.doing

theorem doing_checkCompilation (compilers : Both Artifact) :
    Doing host project s (checkCompilation host project compilers) := by
  refine Doing.bind (alone_ask _).doing fun present t _ _ => ?_
  cases present with
  | false => exact (alone_skipCheck _ _).doing
  | true =>
      refine Doing.bind alone_testDir.doing fun first u made _ => ?_
      have known : u.testDir = some first := testDir_ok made
      refine Doing.bind alone_testDir.doing fun second v again _ => ?_
      rw [from_testDir_of_some known] at again
      cases again
      have held : ∀ stage, u.Holds (first.child (sampleName stage)) := fun stage =>
        .inr ⟨first, known, _, sampleName_mem stage, rfl⟩
      refine Doing.bind (working_invoke _ _).doing fun zero _ _ compiled => ?_
      refine Doing.bind (working_invoke _ _).doing fun one _ _ compiledToo => ?_
      refine Doing.bind (alone_keepOutcomes .compilation zero one).doing fun _ _ _ kept => ?_
      have before := (compiled.trans compiledToo).trans kept
      refine Doing.bind (doing_noteSample .zero (Deed.holds_of_deeds before (held .zero)))
        fun _ _ _ noted => ?_
      refine Doing.bind (doing_noteSample .one (Deed.holds_of_deeds (before.trans noted) (held .one)))
        fun _ _ _ _ => ?_
      exact (alone_compareOutcomes _ _ _).doing

theorem working_checkRuntime : Working host project s (checkRuntime host project) := by
  refine Abides.get_bind ?_
  dsimp only
  split
  · refine Working.bind (working_invoke _ _) fun zero _ _ _ => ?_
    refine Working.bind (working_invoke _ _) fun one _ _ _ => ?_
    refine Working.bind (alone_keepOutcomes .runtime zero one).working fun _ _ _ _ => ?_
    exact Working.bind (alone_compareOutcomes _ _ _).working fun _ _ _ _ => Abides.pure _
  · exact (alone_skipCheck _ _).working

theorem doing_check (compilers : Both Artifact) (kind : CheckKind) :
    Doing host project s (check host project compilers kind) := by
  cases kind with
  | version => exact (working_checkCompilers _ _ _).doing
  | compilation => exact doing_checkCompilation _
  | runtime => exact working_checkRuntime.doing
  | selfDiagnostics => exact (working_checkCompilers _ _ _).doing

theorem doing_checkRecorded {listen : CheckEvent → Run Unit}
    (talks : ∀ event, Talks (listen event)) (compilers : Both Artifact) (kind : CheckKind) :
    Doing host project s (checkRecorded host project compilers listen kind) := by
  refine Doing.bind (talks _).alone.doing fun _ _ _ _ => ?_
  refine Doing.bind (doing_check compilers kind) fun result _ _ _ => ?_
  refine Doing.bind (doing_onReport _) fun _ _ _ _ => ?_
  exact Doing.bind (talks _).alone.doing fun _ _ _ _ => Abides.pure _

theorem doing_recordNeverRan (results : List CheckResult) (stage : Stage) :
    Doing host project s (recordNeverRan results stage) := by
  unfold recordNeverRan
  cases CheckResult.everRan results stage with
  | true => exact Abides.pure ()
  | false => exact Doing.bind (talks_log _ _).alone.doing fun _ _ _ _ => doing_onReport _

theorem alone_ensureBuilt (artifact : Artifact) :
    Alone host project s (ensureBuilt artifact) := by
  unfold ensureBuilt
  cases artifact.built with
  | true => exact Abides.pure ()
  | false => exact Abides.throw id

theorem Doing.mapM {xs : List α} {f : α → Run β} (each : ∀ x t, Doing host project t (f x)) :
    Doing host project s (xs.mapM f) :=
  Abides.mapM each

theorem doing_checkAll {listen : CheckEvent → Run Unit} (talks : ∀ event, Talks (listen event))
    (compilers : Both Artifact) :
    Doing host project s (checkAll host project compilers listen) := by
  refine Doing.bind (alone_ensureBuilt _).doing fun _ _ _ _ => ?_
  refine Doing.bind (alone_ensureBuilt _).doing fun _ _ _ _ => ?_
  refine Doing.bind (Doing.mapM fun kind _ => doing_checkRecorded talks compilers kind)
    fun results _ _ _ => ?_
  refine Doing.bind (Abides.forM fun stage _ _ => doing_recordNeverRan results stage)
    fun _ _ _ _ => Abides.pure _

/-! ## The stages -/

theorem alone_probe (tool hint : Text) : Alone host project s (probe host tool hint) := by
  unfold probe
  refine Abides.get_bind ?_
  split
  · exact Alone.bind (talks_log _ _).alone fun _ _ _ _ => Abides.pure _
  · exact Alone.bind (talks_log _ _).alone fun _ _ _ _ => Abides.throw id

theorem talks_printCommandEvent (event : CommandEvent) : Talks (printCommandEvent event) :=
  talks_print _

theorem doing_stageZero : Doing host project s (stageZero host project) := by
  refine Doing.bind (talks_printStep _ _).alone.doing fun _ _ _ _ => ?_
  refine Doing.bind (alone_probe _ _).doing fun _ _ _ _ => ?_
  refine Doing.bind (working_buildZero talks_printCommandEvent).doing fun zero _ _ _ => ?_
  refine Doing.bind (doing_onReport _) fun _ _ _ _ => ?_
  exact Doing.bind (talks_print _).alone.doing fun _ _ _ _ => Abides.pure _

theorem doing_stageOne {zero : Artifact} : Doing host project s (stageOne host project zero) := by
  refine Doing.bind (talks_printStep _ _).alone.doing fun _ _ _ _ => ?_
  refine Doing.bind (working_buildOne talks_printCommandEvent).doing fun one _ _ _ => ?_
  refine Doing.bind (doing_onReport _) fun _ _ _ _ => ?_
  have last : ∀ t, Doing host project t (do printOk "Stage 1 compiler ready"; return one) :=
    fun _ => Doing.bind (talks_print _).alone.doing fun _ _ _ _ => Abides.pure _
  cases one.delegated with
  | true => exact Doing.bind (talks_print _).alone.doing fun _ _ _ _ => last _
  | false => exact last _

theorem doing_stages (verbose : Bool) : Doing host project s (stages host project verbose) := by
  refine Doing.bind doing_stageZero fun zero _ _ _ => ?_
  refine Doing.bind doing_stageOne fun one _ _ _ => ?_
  exact Doing.bind (doing_checkAll (talks_printCheckEvent verbose) _) fun _ _ _ _ => Abides.pure _

/-- Within the scratch space a run does nothing but deeds. -/
theorem doing_stagesReported (verbose : Bool) :
    Doing host project s (stagesReported host project verbose) := by
  have tried : Doing host project s (attempt (stages host project verbose)) :=
    (doing_stages verbose).attempt.mono (fun _ _ => id) fun _ => False.elim
  have finish : ∀ t, Doing host project t (onReport fun report => report.finalize host.timeOfDay) :=
    fun _ => doing_onReport _
  refine Doing.bind tried fun result _ _ _ => ?_
  cases result with
  | ok _ => exact finish _
  | error fault =>
      dsimp only
      split
      · refine Doing.bind (talks_log _ _).alone.doing fun _ _ _ _ => ?_
        refine Doing.bind (talks_print _).alone.doing fun _ _ _ _ => ?_
        exact Doing.bind (doing_onReport _) fun _ _ _ _ => finish _
      · refine Doing.bind (Abides.throw trivial) fun _ _ stopped _ => ?_
        cases stopped

end StageParity.Run
