import StageParity.Proofs.Course

/-!
# What is started

The commands that a run starts, and how they come to an end. `Run.Starts` says of a step
which commands it starts, in order, and what its answer tells of their endings. A step that
is stopped has started the first ones of these commands; it is a request to stop that stopped
it just when the wait for one of them was cut short.
-/

namespace StageParity

open Relation (ReflTransGen)

/-- How a command that was to be started came to its end, as the run sees it. -/
inductive Ending where
  /-- It could not be started. -/
  | refused (fault : StartFault)
  /-- The wait for it was cut short. -/
  | cut (reason : Cut)
  /-- It reached its limit. -/
  | timedOut
  | exited (code : Int)

/-- Whether a command was started and ended by itself within its limit. -/
def Ending.normal : Ending → Bool
  | .exited _ => true
  | _ => false

/-- How the command that was started as the nth one ended. -/
def Launch.ending (host : Host) (nth : Nat) (launch : Launch) : Ending :=
  match (host.react nth launch.invocation launch.disk).1 with
  | .error fault => .refused fault
  | .ok child =>
    let watch := Watch.run child launch.invocation.limit launch.invocation.grace
    match watch.cutBy with
    | some reason => .cut reason
    | none => if watch.timedOut then .timedOut else .exited child.exitCode

namespace Session

/-- The commands that were started, as they were written. -/
def commands (s : Session) : List (List Text) :=
  s.launches.map fun launch => launch.invocation.argv

/-- How the commands that were started ended. -/
def endings (host : Host) (s : Session) : List Ending :=
  s.launches.mapIdx fun nth launch => launch.ending host nth

/-- Whether the wait for a command was cut short. -/
def WasCut (host : Host) (s : Session) : Prop := ∃ reason, .cut reason ∈ s.endings host

/-- A run whose temporary files are there and that was not asked to stop yet. -/
structure Going (host : Host) (s : Session) : Prop where
  live : s.scratch.tornDown = false
  uncut : ¬ s.WasCut host

variable {host : Host} {s t : Session}

theorem commands_concat {launch : Launch} (next : t.launches = s.launches ++ [launch]) :
    t.commands = s.commands ++ [launch.invocation.argv] := by
  unfold commands
  rw [next, List.map_append]
  rfl

theorem endings_concat (host : Host) {launch : Launch} (next : t.launches = s.launches ++ [launch]) :
    t.endings host = s.endings host ++ [launch.ending host s.launches.length] := by
  unfold endings
  rw [next, List.mapIdx_concat]

theorem endings_congr (host : Host) (same : t.launches = s.launches) :
    t.endings host = s.endings host := by
  unfold endings
  rw [same]

theorem wasCut_congr (same : t.launches = s.launches) : t.WasCut host ↔ s.WasCut host := by
  unfold WasCut
  rw [endings_congr host same]

theorem wasCut_concat {launch : Launch} (next : t.launches = s.launches ++ [launch])
    (uncut : ¬ s.WasCut host) :
    t.WasCut host ↔ ∃ reason, launch.ending host s.launches.length = .cut reason := by
  unfold WasCut
  rw [endings_concat host next]
  refine exists_congr fun reason => ⟨fun member => ?_, fun cut => ?_⟩
  · rcases List.mem_append.mp member with before | new
    · exact absurd ⟨reason, before⟩ uncut
    · exact (List.mem_singleton.mp new).symm
  · rw [cut]
    exact List.mem_append_right _ (List.mem_singleton.mpr rfl)

theorem Going.congr (going : s.Going host) (live : t.scratch.tornDown = s.scratch.tornDown)
    (same : t.launches = s.launches) : t.Going host :=
  ⟨live.trans going.live, fun cut => going.uncut ((wasCut_congr same).mp cut)⟩

end Session

theorem OwnDeed.launches_eq {host : Host} {project : Project} {s t : Session}
    (deeds : ReflTransGen (OwnDeed host project) s t) : t.launches = s.launches := by
  induction deeds with
  | refl => rfl
  | tail _ deed ih => cases deed <;> exact ih

/-- Building and invoking keep the samples and the report as they are. -/
theorem Work.frame {host : Host} {project : Project} {s t : Session}
    (works : ReflTransGen (Work host project) s t) :
    t.samples = s.samples ∧ t.report = s.report := by
  induction works with
  | refl => exact ⟨rfl, rfl⟩
  | tail _ work ih =>
      cases work with
      | own deed => cases deed <;> exact ih
      | launch resolved place => exact ih
      | receive => exact ih

namespace Report

variable {report : Report} {fault : Fault}

theorem setArtifact_calm {artifact : Artifact}
    (refused : report.setArtifact artifact = .error fault) : ¬ fault.Interrupts := by
  rw [setArtifact_eq] at refused
  split at refused <;> cases refused
  exact id

theorem addResult_calm {result : CheckResult}
    (refused : report.addResult result = .error fault) : ¬ fault.Interrupts := by
  rcases error_of_addResult refused with rfl | ⟨kind, last, rfl⟩
  · exact id
  · exact id

end Report

namespace Run

variable {α β : Type} {host : Host} {project : Project} {s t : Session}

/-- A step starts these commands in order, and its answer fits with how they ended. If it is
stopped it has started the first ones of them, and it was asked to stop just when the wait for
a command was cut short. -/
def Starts (host : Host) (s : Session) (step : Run α) (commands : List (List Text))
    (tells : α → List Ending → Prop) : Prop :=
  s.Going host →
    match from_ step s with
    | (.ok a, t) =>
      t.Going host ∧ t.commands = s.commands ++ commands ∧
        ∃ endings, t.endings host = s.endings host ++ endings ∧
          endings.length = commands.length ∧ tells a endings
    | (.error fault, t) =>
      (∃ first, first <+: commands ∧ t.commands = s.commands ++ first) ∧
        (fault.Interrupts ↔ t.WasCut host)

/-- An answer that comes without a command. -/
def Quiet (_ : α) (endings : List Ending) : Prop := endings = []

namespace Starts

variable {x : Run α} {f : α → Run β} {commands more : List (List Text)}
  {tells : α → List Ending → Prop} {relates : β → List Ending → Prop}

/-- Commands follow commands. -/
theorem bind (first : Starts host s x commands tells)
    (second : ∀ a t endings, from_ x s = (.ok a, t) → tells a endings →
      Starts host t (f a) more fun b others => relates b (endings ++ others)) :
    Starts host s (x >>= f) (commands ++ more) relates := by
  intro going
  have begun := first going
  rw [from_bind]
  rcases ended : from_ x s with ⟨fault | a, t⟩
  · rw [ended] at begun
    obtain ⟨⟨some, before, same⟩, asked⟩ := begun
    exact ⟨⟨some, before.trans (List.prefix_append _ _), same⟩, asked⟩
  · rw [ended] at begun
    obtain ⟨goesOn, same, endings, ends, count, told⟩ := begun
    have rest := second a t endings ended told goesOn
    dsimp only
    generalize from_ (f a) t = after at rest ⊢
    rcases after with ⟨fault | b, u⟩
    · obtain ⟨⟨some, before, next⟩, asked⟩ := rest
      refine ⟨⟨commands ++ some, (List.prefix_append_right_inj commands).mpr before, ?_⟩, asked⟩
      rw [next, same, List.append_assoc]
    · obtain ⟨still, next, others, follow, number, said⟩ := rest
      refine ⟨still, ?_, endings ++ others, ?_, ?_, said⟩
      · rw [next, same, List.append_assoc]
      · rw [follow, ends, List.append_assoc]
      · rw [List.length_append, List.length_append, count, number]

theorem mono {other : α → List Ending → Prop} (starts : Starts host s x commands tells)
    (weaker : ∀ a t endings, from_ x s = (.ok a, t) → endings.length = commands.length →
      tells a endings → other a endings) :
    Starts host s x commands other := by
  intro going
  have begun := starts going
  rcases ended : from_ x s with ⟨fault | a, t⟩
  · rw [ended] at begun
    exact begun
  · rw [ended] at begun
    obtain ⟨goesOn, same, endings, ends, count, told⟩ := begun
    exact ⟨goesOn, same, endings, ends, count, weaker a t endings ended count told⟩

/-- There are as many endings as commands. -/
theorem counted (starts : Starts host s x commands tells) :
    Starts host s x commands fun a endings =>
      endings.length = commands.length ∧ tells a endings :=
  starts.mono fun _ _ _ _ count told => ⟨count, told⟩

theorem pure {a : α} (told : tells a []) : Starts host s (Pure.pure a) [] tells := fun going =>
  ⟨going, (List.append_nil _).symm, [], (List.append_nil _).symm, rfl, told⟩

theorem get_bind {f : Session → Run β} (next : Starts host s (f s) more relates) :
    Starts host s (get >>= f) more relates := next

theorem of_live (starts : s.scratch.tornDown = false → Starts host s x commands tells) :
    Starts host s x commands tells := fun going => starts going.live going

/-- A step that leaves the commands alone and is not asked to stop starts nothing. -/
theorem of_launches_eq (live : (from_ x s).2.scratch.tornDown = s.scratch.tornDown)
    (same : (from_ x s).2.launches = s.launches)
    (calm : ∀ fault, (from_ x s).1 = .error fault → ¬ fault.Interrupts) :
    Starts host s x [] Quiet := by
  intro going
  have goesOn : (from_ x s).2.Going host := going.congr live same
  have commands : (from_ x s).2.commands = s.commands ++ [] := by
    unfold Session.commands
    rw [same, List.append_nil]
  rcases ended : from_ x s with ⟨fault | a, t⟩
  · rw [ended] at goesOn commands calm
    exact ⟨⟨[], List.prefix_refl _, commands⟩,
      fun asked => absurd asked (calm fault rfl), fun cut => absurd cut goesOn.uncut⟩
  · rw [ended] at goesOn commands same
    exact ⟨goesOn, commands, [], (Session.endings_congr host same).trans (List.append_nil _).symm,
      rfl, rfl⟩

theorem alone (project : Project) (alone : Alone host project s x) :
    Starts host s x [] Quiet :=
  of_launches_eq (Deed.frame alone.doing.1).2.1 (OwnDeed.launches_eq alone.1) alone.2

/-- What comes after a step that starts nothing starts all that is started. -/
theorem quiet_bind (first : Starts host s x [] Quiet)
    (second : ∀ a t, from_ x s = (.ok a, t) → Starts host t (f a) more relates) :
    Starts host s (x >>= f) more relates :=
  bind first fun a t endings ended none => by
    subst none
    exact second a t ended

theorem alone_bind (first : Alone host project s x)
    (second : ∀ a t, from_ x s = (.ok a, t) → Starts host t (f a) more relates) :
    Starts host s (x >>= f) more relates :=
  quiet_bind (alone project first) second

theorem talks_bind {x : Run Unit} {f : Unit → Run β} (first : Talks x)
    (second : ∀ log console commandEvents checkEvents,
      Starts host { s with log, console, commandEvents, checkEvents } (f ()) more relates) :
    Starts host s (x >>= f) more relates := by
  obtain ⟨log, console, commandEvents, checkEvents, ended⟩ := first s
  refine quiet_bind (of_launches_eq (by rw [ended]) (by rw [ended]) fun fault stopped => ?_)
    fun _ t other => ?_
  · rw [ended] at stopped
    cases stopped
  · cases ended.symm.trans other
    exact second log console commandEvents checkEvents

/-- A step that ends with steps that start nothing. -/
theorem bind_quiet (first : Starts host s x commands tells)
    (second : ∀ a t, from_ x s = (.ok a, t) → Starts host t (f a) [] Quiet)
    (say : ∀ a t b u endings, from_ x s = (.ok a, t) → from_ (f a) t = (.ok b, u) →
      tells a endings → relates b endings) :
    Starts host s (x >>= f) commands relates := by
  rw [← List.append_nil commands]
  refine bind first fun a t endings ended told => (second a t ended).mono ?_
  intro b u others done _ none
  subst none
  rw [List.append_nil]
  exact say a t b u endings ended done told

end Starts

/-! ## Commands -/

end Run

/-- A result tells how its command ended. -/
def CommandResult.Tells (result : CommandResult) : Ending → Prop
  | .refused _ => result.launchError ≠ none
  | .cut _ => False
  | .timedOut => result.launchError = none ∧ result.timedOut = true
  | .exited code =>
    result.launchError = none ∧ result.timedOut = false ∧ result.exitCode = some code

theorem CommandResult.Tells.of_failureReason {result : CommandResult} {ending : Ending}
    (tells : result.Tells ending) (fine : result.failureReason = none) : ending = .exited 0 := by
  unfold failureReason at fine
  cases ending with
  | refused fault =>
      cases error : result.launchError with
      | none => exact absurd error tells
      | some error' => rw [error] at fine; cases fine
  | cut reason => cases tells
  | timedOut =>
      rw [tells.1, tells.2] at fine
      cases fine
  | exited code =>
      obtain ⟨launched, inTime, exitCode⟩ := tells
      rw [launched, inTime] at fine
      unfold effectiveExitCode at fine
      rw [exitCode] at fine
      by_cases zero : code = 0
      · rw [zero]
      · simp [zero] at fine

theorem CommandResult.Tells.ok_ofResult {result : CommandResult} {ending : Ending}
    (tells : result.Tells ending) : (Outcome.ofResult result).ok = ending.normal := by
  unfold Outcome.ofResult
  cases ending with
  | refused fault =>
      cases error : result.launchError with
      | none => exact absurd error tells
      | some error' => rfl
  | cut reason => cases tells
  | timedOut =>
      rw [tells.1, tells.2]
      rfl
  | exited code =>
      rw [tells.1, tells.2.1]
      rfl

namespace Run

variable {α β : Type} {host : Host} {project : Project} {s t : Session}

/-- A command is started once, and its result tells how it ended. A command that was cut short
has no result. -/
theorem starts_command {request : Request} {listen : CommandEvent → Run Unit} {root : Path}
    (talks : ∀ event, Talks (listen event)) (place : request.cwd = some root) :
    Starts host s (command host request listen) [request.argv] fun result endings =>
      ∃ ending, endings = [ending] ∧ result.Tells ending := by
  intro going
  rcases from_command host talks place s with ⟨fault, -, stopped⟩ |
    ⟨cwd, sent, log, console, commandEvents, checkEvents, resolved, ended⟩
  · rw [stopped]
    exact ⟨⟨[], List.nil_prefix, (List.append_nil _).symm⟩, False.elim,
      fun cut => absurd cut going.uncut⟩
  · have argv : (request.invocation host (some cwd)).argv = request.argv := rfl
    generalize request.invocation host (some cwd) = invocation at ended argv
    obtain ⟨u, state⟩ : ∃ u : Session, u =
        { launched host s invocation sent with log, console, commandEvents, checkEvents } := ⟨_, rfl⟩
    dsimp only at ended state
    rw [← state] at ended
    have next : u.launches = s.launches ++ [⟨invocation, s.disk, sent⟩] := by rw [state]; rfl
    have live : u.scratch.tornDown = false := by rw [state]; exact going.live
    have commands : u.commands = s.commands ++ [request.argv] := argv ▸ Session.commands_concat next
    have endings := Session.endings_concat host next
    have wasCut := Session.wasCut_concat next going.uncut
    simp only [Launch.ending] at endings wasCut
    cases reaction : (host.react s.launches.length invocation s.disk).1 with
    | error fault =>
        simp only [reaction] at ended endings wasCut
        have uncut : ¬ u.WasCut host := fun cut => nomatch wasCut.mp cut
        cases fault with
        | os error =>
            rw [ended]
            exact ⟨⟨live, uncut⟩, commands, _, endings, rfl, _, rfl, nofun⟩
        | _ =>
            rw [ended]
            exact ⟨⟨_, List.prefix_refl _, commands⟩, False.elim, fun cut => absurd cut uncut⟩
    | ok child =>
        simp only [reaction] at ended endings wasCut
        generalize Watch.run child invocation.limit invocation.grace = watch at ended endings wasCut
        cases cutBy : watch.cutBy with
        | some reason =>
            simp only [cutBy] at ended endings wasCut
            obtain ⟨label, received, log', stopped⟩ := from_interrupt_live reason live
            have reached : from_ (command host request listen) s = _ :=
              ended.trans (from_bind_error stopped _)
            rw [reached]
            exact ⟨⟨_, List.prefix_refl _, commands⟩, fun _ => wasCut.mpr ⟨reason, rfl⟩,
              fun _ => trivial⟩
        | none =>
            simp only [cutBy] at ended endings wasCut
            have uncut : ¬ u.WasCut host := fun cut => by
              obtain ⟨reason, other⟩ := wasCut.mp cut
              split at other <;> cases other
            have reached : from_ (command host request listen) s = _ := ended.trans rfl
            rw [reached]
            refine ⟨⟨live, uncut⟩, commands, _, endings, rfl, _, rfl, ?_⟩
            cases inTime : watch.timedOut with
            | true => exact ⟨rfl, inTime⟩
            | false => exact ⟨rfl, inTime, by simp [watchedResult, inTime]⟩

theorem starts_onReport {step : Report → Except Fault Report}
    (calm : ∀ fault, step s.report = .error fault → ¬ fault.Interrupts) :
    Starts host s (onReport step) [] Quiet := by
  cases stepped : step s.report with
  | ok report =>
      have ended := from_onReport_ok stepped
      refine Starts.of_launches_eq (by rw [ended]) (by rw [ended]) fun fault stopped => ?_
      rw [ended] at stopped
      cases stopped
  | error fault =>
      have ended : from_ (onReport step) s = (.error fault, s) := by rw [from_onReport, stepped]
      refine Starts.of_launches_eq (by rw [ended]) (by rw [ended]) fun other stopped => ?_
      rw [ended] at stopped
      cases stopped
      exact calm fault stepped

/-! ## Builds and invocations -/

/-- A build command that does not fail exits with zero. -/
theorem starts_buildLogged {listen : CommandEvent → Run Unit}
    (talks : ∀ event, Talks (listen event)) (stage : Stage) (argv : List Text) :
    Starts host s (buildLogged host project stage argv listen) [argv] fun _ endings =>
      endings = [.exited 0] := by
  refine Starts.bind_quiet (starts_command talks rfl) (fun result t _ => Starts.alone project ?_) ?_
  · refine Alone.bind (alone_keepBuildLog stage _) fun _ _ _ _ => ?_
    cases result.failureReason with
    | some reason => exact alone_failBuild stage reason _
    | none => exact Abides.pure _
  · rintro result t text u _ - done ⟨ending, rfl, tells⟩
    obtain ⟨_, v, -, done⟩ := from_bind_eq_ok done
    cases fine : result.failureReason with
    | some reason => rw [fine] at done; cases done
    | none => rw [tells.of_failureReason fine]

/-- The outcome of an invocation tells whether it exited normally. -/
theorem starts_invoke (program : Path) (arguments : List Text) :
    Starts host s (invoke host project program arguments) [program.text :: arguments]
      fun outcome endings => ∃ ending, endings = [ending] ∧ outcome.ok = ending.normal := by
  refine Starts.bind_quiet (starts_command (fun _ => Talks.pure) rfl)
    (fun result t _ => Starts.alone project ?_) ?_
  · dsimp only
    cases (Outcome.ofResult result).failure with
    | some failure =>
        exact Alone.bind (talks_log _ _).alone fun _ _ _ _ => Abides.pure _
    | none => exact Abides.pure _
  · rintro result t outcome u _ - done ⟨ending, rfl, tells⟩
    have same : outcome = Outcome.ofResult result := by
      dsimp only at done
      cases failed : (Outcome.ofResult result).failure with
      | some failure => rw [failed] at done; cases done; rfl
      | none => rw [failed] at done; cases done; rfl
    exact ⟨ending, rfl, same ▸ tells.ok_ofResult⟩

end Run

end StageParity
