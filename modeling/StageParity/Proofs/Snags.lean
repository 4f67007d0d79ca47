import StageParity.Proofs.Advances
import StageParity.Proofs.FileFaults
import StageParity.Proofs.StoredStreams

/-!
# What can stop a run

Some operations of a run are guarded: an error of the operating system there fails a build, or
is only noted. Others are not, and their fault leaves the run. Those are the snags: `OuterSnag`
is about the working directory as a whole, the paths of the layout, the commands and what the
build logs quote of them, `InnerSnag` about the files in the working directory. Stages that stop do
so with a fatal fault, by a request to stop, or at a snag.
-/

namespace StageParity

open Relation (ReflTransGen)

/-- The texts that the build logs of a run quote. -/
inductive Quotes (host : Host) (project : Project) (t : Session) : Text → Prop where
  | command {launch : Launch} :
      launch ∈ t.launches → Quotes host project t (Shell.joinWords launch.invocation.argv)
  | error {nth : Nat} {launch : Launch} {error : OsError} :
      t.launches[nth]? = some launch →
      (host.react nth launch.invocation launch.disk).1 = .error (.os error) →
      Quotes host project t error.message
  | source : Quotes host project t project.source.text
  | compiler {w : Path} :
      t.scratch.workdir = some w →
      Quotes host project t (Path.absolute ⟨.root, host.cwd⟩ (project.compiler w .zero)).text

/-- A run stopped in the given state because an operation outside of its working directory was
refused that it does not guard. -/
inductive OuterSnag (host : Host) (project : Project) (t : Session) : Fault → Prop where
  /-- There can be no working directory. -/
  | workdir {fault : Fault} :
      t.scratch.workdir = none → (Run.from_ (Run.workdir host) t).1 = .error fault →
      OuterSnag host project t fault
  /-- The project cannot be told where it is. -/
  | place {fault : FileFault} :
      t.disk.resolve host.cwd project.root = .error fault → OuterSnag host project t (.file fault)
  /-- A path of the layout cannot be looked for. -/
  | lookup {path : Path} {fault : FileFault} :
      path ∈ [project.binary, project.source, project.sample] →
      t.disk.isFile host.cwd path = .error fault → OuterSnag host project t (.file fault)
  /-- A command could not even be asked for. -/
  | start {nth : Nat} {launch : Launch} {fault : StartFault} :
      t.launches[nth]? = some launch →
      (host.react nth launch.invocation launch.disk).1 = .error fault →
      (∀ error, fault ≠ .os error) → OuterSnag host project t (.start fault)
  /-- A build log would have to quote half of a surrogate pair. -/
  | unwritten {quote : Text} {index : Fin 1920} {start count code : Nat} :
      Quotes host project t quote → .half index ∈ quote →
      OuterSnag host project t (.file (.notUnicode start count code))

/-- An operation in the working directory is refused that a run does not guard. -/
inductive InnerSnag (host : Host) (project : Project) (s : Session) (w : Path) : Fault → Prop where
  | buildLog {stage : Stage} {data : List UInt8} {fault : FileFault} :
      s.disk.writeFile host.cwd (w.child (buildLogName stage)) data = .error fault →
      InnerSnag host project s w (.file fault)
  /-- The compiler of stage zero gets a path that cannot be named. -/
  | unnamed {fault : FileFault} :
      Disk.misnamed? (project.compiler w .zero) = some fault →
      InnerSnag host project s w (.file fault)
  /-- A script cannot say where the compiler of stage zero is. -/
  | script {start count code : Nat} :
      Disk.strays? (delegationScript
        (Path.absolute ⟨.root, host.cwd⟩ (project.compiler w .zero)).text) =
          some (start, count, code) →
      InnerSnag host project s w (.file (.notUnicode start count code))
  /-- What a command was to write cannot be looked for. -/
  | output {path : Path} {fault : FileFault} :
      path = project.compiler w .one ∨ (∃ stage, path = project.compiledSample w stage) →
      s.disk.isFile host.cwd path = .error fault → InnerSnag host project s w (.file fault)
  | checksDir {fault : FileFault} :
      (s.disk.makeDirectories host.cwd (project.checksDir w).names.length
        (project.checksDir w)).2 = some fault → InnerSnag host project s w (.file fault)
  | checkLog {kind : CheckKind} {stage : Stage} {data : List UInt8} {fault : FileFault} :
      s.testDir = some (project.checksDir w) →
      s.disk.writeFile host.cwd (project.checkLog w kind stage) data = .error fault →
      InnerSnag host project s w (.file fault)

/-- A run that began in the first state stopped in the second one because an operation was refused
that it does not guard. -/
inductive Snag (host : Host) (project : Project) (s t : Session) (fault : Fault) : Prop where
  | outer : OuterSnag host project t fault → Snag host project s t fault
  | inner {u : Session} {w : Path} :
      ReflTransGen (Advance host project) s u → u.Precedes t → u.scratch.workdir = some w →
      InnerSnag host project u w fault → Snag host project s t fault

namespace Snag

variable {host : Host} {project : Project} {s t u : Session} {w : Path} {fault : Fault}

/-- A run stops right where something is refused. -/
theorem here (present : s.scratch.workdir = some w) (snag : InnerSnag host project s w fault) :
    Snag host project s s fault := .inner .refl (.refl s) present snag

theorem of_advances (advances : ReflTransGen (Advance host project) s u)
    (snag : Snag host project u t fault) : Snag host project s t fault := by
  cases snag with
  | outer snag => exact .outer snag
  | inner more precedes present snag => exact .inner (advances.trans more) precedes present snag

end Snag

theorem Quotes.of_precedes {host : Host} {project : Project} {s t : Session} {quote : Text}
    (quotes : Quotes host project s quote) (precedes : s.Precedes t) :
    Quotes host project t quote := by
  cases quotes with
  | command member => exact .command (precedes.launches.subset member)
  | error place failed =>
      obtain ⟨more, same⟩ := precedes.launches
      refine .error ?_ failed
      rw [← same, List.getElem?_append_left (List.getElem?_eq_some_iff.mp place).1, place]
  | source => exact .source
  | compiler present => exact .compiler (precedes.workdir _ present)

/-! ## Halves of surrogate pairs in logs -/

theorem Text.Clean.half_notMem {t : Text} (clean : t.Clean) (index : Fin 1920) :
    Glyph.half index ∉ t := fun inside => nomatch clean _ inside

@[simp] theorem Text.half_notMem_ofString (s : String) (index : Fin 1920) :
    Glyph.half index ∉ Text.ofString s := (clean_ofChars _).half_notMem index

/-- A half that a build log quotes comes from the command, what it wrote, or why it did not start. -/
theorem CommandResult.half_of_buildLog {r : CommandResult} {index : Fin 1920}
    (inside : .half index ∈ r.buildLog) :
    .half index ∈ r.command ∨ .half index ∈ r.stdout ∨ .half index ∈ r.stderr ∨
      ∃ error, r.launchError = some error ∧ .half index ∈ error.message := by
  have trimmed {t : Text} (inside : .half index ∈ trimNewlines t) : .half index ∈ t :=
    List.mem_reverse.mp ((List.dropWhile_sublist _).subset (List.mem_reverse.mp inside))
  have ends (inside : .half index ∈ r.ending) :
      ∃ error, r.launchError = some error ∧ .half index ∈ error.message := by
    unfold ending at inside
    split at inside
    · rename_i error failed
      exact ⟨error, failed, by simpa using inside⟩
    · have clean := (Text.clean_ofInt r.effectiveExitCode).half_notMem index
      have limit := (Text.clean_ofFloatFixed 1 r.limit).half_notMem index
      split at inside <;> simp [clean, limit] at inside
  rcases List.mem_append.mp inside with joined | last
  · rcases Text.mem_join joined with between | ⟨part, known, there⟩
    · simp at between
    · simp only [logEntries, List.mem_append, List.mem_singleton] at known
      rcases known with ((rfl | out) | err) | rfl
      · exact .inl (by simpa using there)
      · split at out <;> simp at out
        exact .inr (.inl (trimmed (out ▸ there)))
      · split at err <;> simp at err
        exact .inr (.inr (.inl (trimmed (err ▸ there))))
      · exact .inr (.inr (.inr (ends there)))
  · simp at last

/-- A fault that the operating system reported. -/
def Fault.FromSystem : Fault → Prop
  | .file (.os _) => True
  | _ => False

/-- A fault that ends a run with a failed report. -/
def Fault.Fatal (fault : Fault) : Prop := fault.isFatal = true

namespace Run

variable {α β : Type} {host : Host} {project : Project} {caught : Fault → Prop} {s t : Session}

/-- A step advances from a calm state. If it stops, its fault is one that is caught, a request to
stop, or that of a snag. -/
structure Guards (host : Host) (project : Project) (caught : Fault → Prop) (s : Session)
    (step : Run α) : Prop where
  ends : s.Calm host project →
    match from_ step s with
    | (.ok _, t) => ReflTransGen (Advance host project) s t ∧ t.Calm host project
    | (.error fault, t) =>
      caught fault ∨ (fault.Interrupts ∧ ReflTransGen (Advance host project) s t) ∨
        Snag host project s t fault

namespace Guards

variable {x : Run α} {f : α → Run β}

theorem of_calm (guards : s.Calm host project → Guards host project caught s x) :
    Guards host project caught s x := ⟨fun calm => (guards calm).ends calm⟩

/-- A step that ends well and starts nothing. -/
theorem of_advances {a : α} (ended : from_ x s = (.ok a, t))
    (advances : ReflTransGen (Advance host project) s t) (quiet : t.launches = s.launches) :
    Guards host project caught s x := by
  refine ⟨fun calm => ?_⟩
  rw [ended]
  refine ⟨advances, Advance.calm advances calm fun cut => ?_⟩
  exact calm.uncut ((Session.wasCut_congr quiet).mp cut)

theorem of_caught {fault : Fault} (stopped : from_ x s = (.error fault, t)) (fits : caught fault) :
    Guards host project caught s x := by
  refine ⟨fun _ => ?_⟩
  rw [stopped]
  exact .inl fits

theorem of_snag {fault : Fault} (stopped : from_ x s = (.error fault, t))
    (snag : Snag host project s t fault) : Guards host project caught s x := by
  refine ⟨fun _ => ?_⟩
  rw [stopped]
  exact .inr (.inr snag)

theorem pure (a : α) : Guards host project caught s (pure a : Run α) := ⟨fun calm => ⟨.refl, calm⟩⟩

theorem throw {fault : Fault} (fits : caught fault) :
    Guards host project caught s (throw fault : Run α) := of_caught rfl fits

theorem bind (first : Guards host project caught s x)
    (second : ∀ a t, from_ x s = (.ok a, t) → ReflTransGen (Advance host project) s t →
      Guards host project caught t (f a)) :
    Guards host project caught s (x >>= f) := by
  refine ⟨fun calm => ?_⟩
  have begun := first.ends calm
  rw [from_bind]
  rcases ended : from_ x s with ⟨fault | a, t⟩
  · rw [ended] at begun
    exact begun
  · rw [ended] at begun
    obtain ⟨advances, goesOn⟩ := begun
    have rest := (second a t ended advances).ends goesOn
    dsimp only
    generalize from_ (f a) t = after at rest ⊢
    rcases after with ⟨fault | b, u⟩
    · exact rest.imp_right (Or.imp (fun ⟨asked, more⟩ => ⟨asked, advances.trans more⟩)
        fun snag => snag.of_advances advances)
    · exact ⟨advances.trans rest.1, rest.2⟩

theorem get_bind {f : Session → Run β} (next : Guards host project caught s (f s)) :
    Guards host project caught s (get >>= f) := ⟨next.ends⟩

theorem talks_bind {x : Run Unit} {f : Unit → Run β} (talks : Talks x)
    (second : ∀ log console commandEvents checkEvents,
      Guards host project caught { s with log, console, commandEvents, checkEvents } (f ())) :
    Guards host project caught s (x >>= f) := by
  obtain ⟨log, console, commandEvents, checkEvents, ended⟩ := talks s
  refine bind (of_advances ended (.single .say) rfl) fun _ t other _ => ?_
  cases ended.symm.trans other
  exact second log console commandEvents checkEvents

theorem talks {x : Run Unit} (talks : Talks x) : Guards host project caught s x := by
  obtain ⟨log, console, commandEvents, checkEvents, ended⟩ := talks s
  exact of_advances ended (.single .say) rfl

theorem ask {question : Disk → Except FileFault α}
    (refused : ∀ fault, question s.disk = .error fault → Snag host project s s (.file fault)) :
    Guards host project caught s (ask question) := by
  cases answer : question s.disk with
  | ok a => exact of_advances (from_ask_ok answer) .refl rfl
  | error fault => exact of_snag (from_ask_error answer) (refused fault answer)

theorem change {step : Disk → Except FileFault Disk}
    (done : ∀ disk, step s.disk = .ok disk → Advance host project s { s with disk })
    (refused : ∀ fault, step s.disk = .error fault →
      caught (.file fault) ∨ Snag host project s s (.file fault)) :
    Guards host project caught s (change step) := by
  cases answer : step s.disk with
  | ok disk => exact of_advances (from_change_ok answer) (.single (done disk answer)) rfl
  | error fault =>
      rcases refused fault answer with fits | snag
      · exact of_caught (from_change_error answer) fits
      · exact of_snag (from_change_error answer) snag

theorem changePartly {step : Disk → Disk × Option FileFault}
    (done : ∀ disk, step s.disk = (disk, none) → Advance host project s { s with disk })
    (refused : ∀ disk fault, step s.disk = (disk, some fault) →
      caught (.file fault) ∨ Snag host project s { s with disk } (.file fault)) :
    Guards host project caught s (changePartly step) := by
  have ended := from_changePartly step s
  rcases answer : step s.disk with ⟨disk, _ | fault⟩
  · simp only [answer] at ended
    exact of_advances ended (.single (done disk answer)) rfl
  · simp only [answer] at ended
    rcases refused disk fault answer with fits | snag
    · exact of_caught ended fits
    · exact of_snag ended snag

end Guards

/-! ## The scratch space -/

theorem guards_workdir : Guards host project caught s (workdir host) := by
  refine Guards.of_calm fun calm => ?_
  rcases from_workdir host s with ⟨torn, -⟩ | ⟨-, w, -, ended⟩ |
    ⟨-, absent, w, disk, log, -, made, ended⟩ | ⟨-, absent, fault, ended⟩
  · cases calm.live.symm.trans torn
  · exact Guards.of_advances ended .refl rfl
  · exact Guards.of_advances ended (.tail (.single (.makeWorkdir absent made)) .say) rfl
  · exact Guards.of_snag ended (.outer (.workdir absent (by rw [ended])))

theorem scratchPath_bind (name : Text) (f : Path → Run β) :
    (scratchPath host name >>= f) =
      workdir host >>= fun w => track (w.child name) >>= fun _ => f (w.child name) := by
  unfold scratchPath
  simp only [bind_assoc, pure_bind]

/-- A path of usable glyphs is handed out. -/
theorem guards_scratchPath {name : Text} (usable : ∀ g ∈ name, Disk.NameGlyph g) :
    Guards host project caught s (scratchPath host name) := by
  refine Guards.bind guards_workdir fun w t ended _ => Guards.of_calm fun calm => ?_
  obtain ⟨live, present, -⟩ := workdir_ok ended
  refine Guards.bind (Guards.of_advances (from_track live _) (.single (.handOut present ?_)) rfl)
    fun _ _ _ _ => Guards.pure _
  exact Disk.misnamed?_child (calm.named w present) usable

theorem nameGlyph_buildLogName (stage : Stage) : ∀ g ∈ buildLogName stage, Disk.NameGlyph g := by
  cases stage <;> decide

/-- A log is kept, unless it quotes what has no bytes. -/
theorem guards_keepBuildLog (stage : Stage) {text : Text}
    (quoted : ∀ index, .half index ∈ text →
      ∃ quote, Quotes host project s quote ∧ .half index ∈ quote) :
    Guards host project caught s (keepBuildLog host stage text) := by
  refine Guards.bind (guards_scratchPath (nameGlyph_buildLogName stage))
    fun path t handed advances => ?_
  obtain ⟨-, w, present, rfl, -⟩ := scratchPath_ok handed
  refine Guards.changePartly (fun disk written => ?_) fun disk fault refused => .inr ?_
  · exact .write present (.buildLog stage) (Disk.writeFile_of_writeUnless written).2
  · rcases Disk.fault_of_writeUnless (congrArg Prod.snd refused) with ⟨data, refused⟩ | halves
    · exact .inner .refl ⟨List.prefix_refl _, fun _ => id⟩ present (.buildLog refused)
    · obtain ⟨index, inside⟩ := Disk.half_of_unnameable halves
      obtain ⟨start, count, code, rfl⟩ := Disk.notUnicode_of_unnameable halves
      obtain ⟨quote, quotes, inside⟩ := quoted index inside
      have later := quotes.of_precedes (Advance.extends_of_advances advances).1
      exact .outer (.unwritten (later.of_precedes ⟨List.prefix_refl _, fun _ => id⟩) inside)

/-! ## Commands -/

theorem from_interrupt_hearing (reason : Cut) (live : s.scratch.tornDown = false) :
    ∃ label log, from_ (interrupt reason) s =
      (.error (.interrupted label),
        { s with scratch := { s.scratch with received := s.hearing reason }, log }) := by
  cases reason with
  | stop label exited => exact ⟨label, s.log, rfl⟩
  | signal signal =>
      change ∃ label log, from_ (receive signal) s = _
      rw [from_receive, live]
      cases handled : s.handler signal with
      | outer =>
          have hears : s.hearing (.signal signal) = s.scratch.received := by
            simp only [Session.hearing, handled]
          rw [hears]
          exact ⟨_, s.log, rfl⟩
      | scratch =>
          have hears : s.hearing (.signal signal) = some signal := by
            simp only [Session.hearing, handled]
          rw [hears]
          exact ⟨_, _, rfl⟩

theorem guards_command {request : Request} {listen : CommandEvent → Run Unit}
    (talks : ∀ event, Talks (listen event)) (place : request.cwd = some project.root) :
    Guards host project caught s (command host request listen) := by
  refine ⟨fun calm => ?_⟩
  rcases from_command host talks place s with ⟨fault, unresolved, stopped⟩ |
    ⟨cwd, sent, log, console, commandEvents, checkEvents, -, ended⟩
  · rw [stopped]
    exact .inr (.inr (.outer (.place unresolved)))
  · generalize request.invocation host (some cwd) = invocation at ended
    have next : (launched host s invocation sent).launches =
        s.launches ++ [⟨invocation, s.disk, sent⟩] := rfl
    obtain ⟨u, state⟩ : ∃ u : Session, u =
        { launched host s invocation sent with log, console, commandEvents, checkEvents } := ⟨_, rfl⟩
    have said : Advance host project (launched host s invocation sent) u := state ▸ .say
    -- A command that was not cut short leaves the run calm.
    have goesOn : (∀ reason, Launch.ending host s.launches.length ⟨invocation, s.disk, sent⟩ ≠
        .cut reason) → ReflTransGen (Advance host project) s u ∧ u.Calm host project := by
      intro whole
      have advances : ReflTransGen (Advance host project) s u := .tail (.single (.launch whole)) said
      refine ⟨advances, Advance.calm advances calm fun cut => ?_⟩
      rw [Session.wasCut_concat (by rw [state]; exact next) calm.uncut] at cut
      obtain ⟨reason, short⟩ := cut
      exact whole reason short
    dsimp only at ended state
    rw [← state] at ended
    simp only [Launch.ending] at goesOn
    cases reaction : (host.react s.launches.length invocation s.disk).1 with
    | error fault =>
        simp only [reaction] at ended goesOn
        cases fault with
        | os error =>
            rw [ended]
            refine goesOn fun reason same => ?_
            cases same
        | _ =>
            rw [ended]
            have last : u.launches[s.launches.length]? = some ⟨invocation, s.disk, sent⟩ := by
              rw [state]
              exact List.getElem?_concat_length
            refine .inr (.inr (.outer (.start last reaction fun error same => ?_)))
            cases same
    | ok child =>
        simp only [reaction] at ended goesOn
        cases cutBy : (Watch.run child invocation.limit invocation.grace).cutBy with
        | some reason =>
            simp only [cutBy] at ended
            have live : u.scratch.tornDown = false := by rw [state]; exact calm.live
            obtain ⟨label, log', stopped⟩ := from_interrupt_hearing reason live
            have reached : from_ (command host request listen) s = _ :=
              ended.trans (from_bind_error stopped _)
            rw [reached, state]
            have short : Launch.ending host s.launches.length ⟨invocation, s.disk, sent⟩ =
                .cut reason := by
              simp only [Launch.ending, reaction, cutBy]
            have cut : Advance host project s
                { launched host s invocation sent with
                  scratch := { s.scratch with received := s.hearing reason } } :=
              .cut calm.uncut short
            exact .inr (.inl ⟨trivial, .tail (.single cut) .say⟩)
        | none =>
            simp only [cutBy] at ended goesOn
            have reached : from_ (command host request listen) s = _ := ended.trans rfl
            rw [reached]
            refine goesOn fun reason same => ?_
            split at same <;> cases same

/-- A half in the log of a command is one that the run quotes. -/
theorem quotes_of_command {request : Request} {listen : CommandEvent → Run Unit} {root : Path}
    {result : CommandResult} {index : Fin 1920} (talks : ∀ event, Talks (listen event))
    (place : request.cwd = some root)
    (ended : from_ (command host request listen) s = (.ok result, t))
    (inside : .half index ∈ result.buildLog) :
    ∃ quote, Quotes host project t quote ∧ .half index ∈ quote := by
  obtain ⟨launch, launches, words, how⟩ := command_ok talks place ended
  have asked : Quotes host project t (Shell.joinWords request.argv) :=
    words ▸ .command (launches ▸ List.mem_append_right _ (List.mem_singleton.mpr rfl))
  have last : t.launches[s.launches.length]? = some launch := by
    rw [launches]
    exact List.getElem?_concat_length
  rcases how with ⟨error, failed, rfl⟩ | ⟨child, -, rfl⟩
  · rcases CommandResult.half_of_buildLog inside with command | out | err | ⟨_, ⟨⟩, message⟩
    · exact ⟨_, asked, command⟩
    · cases out
    · cases err
    · exact ⟨_, .error last failed, message⟩
  · rcases CommandResult.half_of_buildLog inside with command | out | err | ⟨_, ⟨⟩, -⟩
    · exact ⟨_, asked, command⟩
    · exact absurd out (Utf8.half_notMem_decode _ index)
    · exact absurd err (Utf8.half_notMem_decode _ index)

/-! ## Builds -/

theorem guards_failBuild (stage : Stage) (reason text : Text) :
    Guards host project Fault.Fatal s (failBuild stage reason text : Run α) := Guards.throw rfl

theorem from_buildPart_of_system {part : Run α} {error : OsError}
    (refused : from_ part s = (.error (.file (.os error)), t)) (stage : Stage) (what text : Text) :
    from_ (buildPart stage what text part) s =
      (.error (.buildFailed stage.number (what ++ ": " ++ error.message) text), t) := by
  rw [from_buildPart, refused]

theorem from_buildPart_of_foreign {part : Run α} {fault : FileFault}
    (refused : from_ part s = (.error (.file fault), t)) (foreign : ∀ error, fault ≠ .os error)
    (stage : Stage) (what text : Text) :
    from_ (buildPart stage what text part) s = (.error (.file fault), t) := by
  rw [from_buildPart, refused]
  cases fault with
  | os error => exact absurd rfl (foreign error)
  | _ => rfl

/-- An error of the operating system in a part of a build fails the build. -/
theorem guards_buildPart {part : Run α} (stage : Stage) (what text : Text)
    (guards : Guards host project Fault.FromSystem s part) :
    Guards host project Fault.Fatal s (buildPart stage what text part) := by
  refine ⟨fun calm => ?_⟩
  have inner := guards.ends calm
  rw [from_buildPart]
  generalize from_ part s = outcome at inner ⊢
  rcases outcome with ⟨fault | a, t⟩
  · cases fault with
    | file refusal =>
        cases refusal with
        | os error => exact .inl rfl
        | _ => exact inner.imp_left False.elim
    | _ => exact inner.imp_left False.elim
  · exact inner

theorem guards_buildLogged {listen : CommandEvent → Run Unit}
    (talks : ∀ event, Talks (listen event)) (stage : Stage) (argv : List Text) :
    Guards host project Fault.Fatal s (buildLogged host project stage argv listen) := by
  refine Guards.bind (guards_command talks rfl) fun result t ran _ => ?_
  refine Guards.bind (guards_keepBuildLog stage fun _ => quotes_of_command talks rfl ran)
    fun _ _ _ _ => ?_
  cases result.failureReason with
  | some reason => exact guards_failBuild stage reason _
  | none => exact Guards.pure _

theorem guards_makeRunnable {w path : Path} (present : s.scratch.workdir = some w)
    (known : project.Marks w path) (named : Disk.misnamed? path = none) :
    Guards host project Fault.FromSystem s (makeRunnable host path) := by
  refine Guards.change (fun _ => .mark present known) fun fault refused => .inl ?_
  rcases Disk.fault_of_addMode refused with ⟨error, rfl⟩ | unnamed
  · trivial
  · cases named.symm.trans unnamed

/-- A regular file in the working directory is marked without fail. -/
theorem guards_markFile {w path : Path} {bits : Nat} (present : s.scratch.workdir = some w)
    (known : project.Marks w path) (there : s.disk.isFile host.cwd path = .ok true) :
    Guards host project caught s (change fun disk => disk.addMode host.cwd path bits) := by
  obtain ⟨after, marked⟩ := Disk.addMode_of_isFile there bits
  refine Guards.change (fun _ => .mark present known) fun fault refused => ?_
  cases marked.symm.trans refused

/-- Once a build command was run there is a working directory. -/
theorem workdir_of_buildLogged {listen : CommandEvent → Run Unit} {stage : Stage}
    {argv : List Text} {text : Text}
    (ended : from_ (buildLogged host project stage argv listen) s = (.ok text, t)) :
    ∃ w, t.scratch.workdir = some w := by
  obtain ⟨result, u, -, ended⟩ := from_bind_eq_ok ended
  obtain ⟨_, v, kept, ended⟩ := from_bind_eq_ok ended
  obtain ⟨path, u', handed, written⟩ := from_bind_eq_ok kept
  obtain ⟨-, w, present, -⟩ := scratchPath_ok handed
  have same : v.scratch = u'.scratch := by
    rw [from_changePartly] at written
    rw [← (Prod.mk.inj written).2]
  cases fine : result.failureReason with
  | some reason => rw [fine] at ended; cases ended
  | none =>
      rw [fine] at ended
      cases ended
      exact ⟨w, (congrArg Scratch.workdir same).trans present⟩

theorem guards_takeBinary {w : Path} (present : s.scratch.workdir = some w) (text : Text) :
    Guards host project Fault.Fatal s (takeBinary host project text) := by
  refine Guards.bind (Guards.ask fun _ refused => .outer (.lookup (by simp) refused))
    fun there t asked _ => ?_
  cases there with
  | false =>
      refine Guards.bind (guards_failBuild .zero _ _) fun _ _ stopped _ => ?_
      cases stopped
  | true =>
      obtain ⟨there, rfl⟩ := ask_eq_ok asked
      refine Guards.of_calm fun calm => ?_
      let u : Session := { t with scratch := t.scratch.add (project.compiler w .zero) }
      have handed : from_ (scratchPath host (project.layout.stageName .zero)) t =
          (.ok (project.compiler w .zero), u) := from_scratchPath calm.live present _
      cases copied : t.disk.copyFile host.cwd project.binary (project.compiler w .zero) with
      | error fault =>
          -- The path is tracked although nothing can be copied there.
          have refused : from_ (putBinary host project.binary (project.compiler w .zero)) u =
              (.error (.file fault), u) := from_bind_error (from_change_error copied) _
          rcases Disk.fault_of_copyFile there copied with ⟨error, rfl⟩ | unnamed
          · exact Guards.of_caught ((from_bind_ok handed _).trans
              (from_bind_error (from_buildPart_of_system refused _ _ _) _)) rfl
          · have foreign := (Disk.not_os_of_misnamed unnamed).2
            exact Guards.of_snag ((from_bind_ok handed _).trans
              (from_bind_error (from_buildPart_of_foreign refused foreign _ _ _) _))
              (.inner .refl ⟨List.prefix_refl _, fun v => (Scratch.add_workdir _ _).trans⟩ present
                (.unnamed unnamed))
      | ok disk =>
          obtain ⟨data, written⟩ := Disk.writeFile_of_copyFile copied
          have named := Disk.named_of_writeFile written
          refine Guards.bind (Guards.of_advances handed (.single (.handOut present named)) rfl)
            fun target u other handOut => ?_
          cases handed.symm.trans other
          have presentThen := (Advance.extends_of_advances handOut).1.workdir w present
          refine Guards.bind (guards_buildPart .zero _ _ ?_) fun _ _ _ _ =>
            Guards.talks_bind (talks_log _ _) fun _ _ _ _ => Guards.pure _
          refine Guards.bind (Guards.change (fun after copied => ?_) fun fault refused => ?_)
            fun _ v _ marks => ?_
          · obtain ⟨data, written⟩ := Disk.writeFile_of_copyFile copied
            exact .write presentThen (.compiler .zero) written
          · cases copied.symm.trans refused
          · exact guards_makeRunnable ((Advance.extends_of_advances marks).1.workdir w presentThen)
              (.compiler .zero) named

theorem guards_buildZero {listen : CommandEvent → Run Unit}
    (talks : ∀ event, Talks (listen event)) :
    Guards host project Fault.Fatal s (buildZero host project listen) :=
  Guards.talks_bind (talks_log _ _) fun _ _ _ _ =>
    Guards.bind (guards_buildLogged talks .zero _) fun text _ logged _ => by
      obtain ⟨w, present⟩ := workdir_of_buildLogged logged
      exact guards_takeBinary present text

/-- The compiler of stage zero can be named once it was built. -/
theorem named_of_buildZero {listen : CommandEvent → Run Unit} {zero : Artifact}
    (ended : from_ (buildZero host project listen) s = (.ok zero, t)) :
    Disk.misnamed? zero.path = none := by
  obtain ⟨_, _, -, ended⟩ := from_bind_eq_ok ended
  obtain ⟨text, _, -, ended⟩ := from_bind_eq_ok ended
  obtain ⟨there, u, -, ended⟩ := from_bind_eq_ok ended
  cases there with
  | false => cases ended
  | true =>
      obtain ⟨target, v, -, ended⟩ := from_bind_eq_ok ended
      obtain ⟨_, v', copied, ended⟩ := from_bind_eq_ok ended
      cases ended
      rw [from_buildPart, from_bind] at copied
      cases answer : v.disk.copyFile host.cwd project.binary target with
      | ok disk =>
          obtain ⟨data, written⟩ := Disk.writeFile_of_copyFile answer
          exact Disk.named_of_writeFile written
      | error fault =>
          rw [from_change_error answer] at copied
          cases fault <;> cases copied

/-- A script stands in for stage one unless it cannot say where stage zero is. -/
theorem guards_delegate {w : Path} {zero : Artifact} (present : s.scratch.workdir = some w)
    (path : zero.path = project.compiler w .zero)
    (named : Disk.misnamed? (project.compiler w .one) = none) :
    Guards host project Fault.Fatal s
      (delegate host project zero (project.compiler w .one)) := by
  refine Guards.talks_bind (talks_log _ _) fun log console commandEvents checkEvents => ?_
  rw [path]
  refine Guards.bind (guards_buildPart .one _ _ ?_) fun _ t _ advances =>
    Guards.bind (guards_keepBuildLog .one fun index inside => ?_) fun _ _ _ _ => Guards.pure _
  · refine Guards.bind (Guards.changePartly (fun disk written => ?_) fun disk fault refused => ?_)
      fun _ u _ written => guards_makeRunnable
        ((Advance.extends_of_advances written).1.workdir w present) (.compiler .one) named
    · exact .write present (.compiler .one) (Disk.writeFile_of_writeUnless written).2
    · rcases Disk.fault_of_writeText (congrArg Prod.snd refused) with ⟨error, rfl⟩ | unnamed |
        ⟨start, count, code, stray, rfl⟩
      · exact .inl trivial
      · cases named.symm.trans unnamed
      · exact .inr (.inner .refl ⟨List.prefix_refl _, fun _ => id⟩ present (.script stray))
  · have still := (Advance.extends_of_advances advances).1.workdir w present
    simp only [List.mem_append, Text.half_notMem_ofString, false_or, or_false] at inside
    rcases inside with source | compiler
    · exact ⟨_, .source, source⟩
    · exact ⟨_, .compiler still, compiler⟩

theorem guards_keepBinary {w : Path} (present : s.scratch.workdir = some w) (text : Text) :
    Guards host project Fault.Fatal s (keepBinary host (project.compiler w .one) text) := by
  refine Guards.bind (Guards.ask fun _ refused => .here present (.output (.inl rfl) refused))
    fun there t asked _ => ?_
  cases there with
  | false =>
      refine Guards.bind (guards_failBuild .one _ _) fun _ _ stopped _ => ?_
      cases stopped
  | true =>
      obtain ⟨there, rfl⟩ := ask_eq_ok asked
      exact Guards.bind (guards_markFile present (.compiler .one) there) fun _ _ _ _ =>
        Guards.talks_bind (talks_log _ _) fun _ _ _ _ => Guards.pure _

theorem guards_buildOne {listen : CommandEvent → Run Unit} {w : Path} {zero : Artifact}
    (talks : ∀ event, Talks (listen event)) (present : s.scratch.workdir = some w)
    (built : zero.built = true) (path : zero.path = project.compiler w .zero)
    (named : Disk.misnamed? (project.compiler w .one) = none) :
    Guards host project Fault.Fatal s (buildOne host project listen zero) := by
  refine Guards.of_calm fun calm => ?_
  unfold buildOne
  rw [built]
  have handed : from_ (scratchPath host (project.layout.stageName .one)) s = _ :=
    from_scratchPath calm.live present _
  refine Guards.bind (Guards.of_advances handed (.single (.handOut present named)) rfl)
    fun target u other handOut => ?_
  cases handed.symm.trans other
  refine Guards.bind (Guards.ask fun _ refused => .outer (.lookup (by simp) refused))
    fun there v _ asked => ?_
  have presentThen := (Advance.extends_of_advances (handOut.trans asked)).1.workdir w present
  cases there with
  | false => exact guards_delegate presentThen path named
  | true =>
      refine Guards.talks_bind (talks_log _ _) fun _ _ _ _ => ?_
      refine Guards.bind (guards_buildLogged talks .one _) fun text _ _ logged => ?_
      exact guards_keepBinary ((Advance.extends_of_advances logged).1.workdir w presentThen) text

/-! ## Checks -/

theorem guards_testDir : Guards host project caught s (testDir host project) := by
  unfold testDir
  refine Guards.get_bind ?_
  cases s.testDir with
  | some path => exact Guards.pure path
  | none =>
      unfold scratchDirectory
      simp only [bind_assoc, pure_bind]
      rw [scratchPath_bind]
      refine Guards.bind guards_workdir fun w u ended _ => ?_
      obtain ⟨live, present, -⟩ := workdir_ok ended
      have tracked := from_track live (project.checksDir w)
      have made := from_changePartly (fun disk => disk.makeDirectories host.cwd
        (project.checksDir w).names.length (project.checksDir w))
        { u with scratch := u.scratch.add (project.checksDir w) }
      rcases outcome : u.disk.makeDirectories host.cwd (project.checksDir w).names.length
        (project.checksDir w) with ⟨disk, _ | fault⟩
      · simp only [outcome] at made
        have named : Disk.misnamed? (project.checksDir w) = none :=
          Disk.named_of_makeDirectories (congrArg Prod.snd outcome)
        refine Guards.of_advances ((from_bind_ok tracked _).trans (from_bind_ok made _))
          (.tail (.single (.handOut present named)) (.makeChecksDir ?_ outcome)) rfl
        rw [Scratch.add_workdir]
        exact present
      · simp only [outcome] at made
        exact Guards.of_snag ((from_bind_ok tracked _).trans (from_bind_error made _))
          (.inner .refl ⟨List.prefix_refl _, fun v => (Scratch.add_workdir _ _).trans⟩ present
            (.checksDir (congrArg Prod.snd outcome)))

theorem guards_keepOutcome (kind : CheckKind) (stage : Stage) (outcome : Outcome) :
    Guards host project caught s (keepOutcome host project kind stage outcome) := by
  refine Guards.bind guards_testDir fun path t made _ => ?_
  refine Guards.of_calm fun calm => ?_
  obtain ⟨w, present, rfl⟩ := calm.inside path (testDir_ok made)
  exact Guards.change (fun _ => .write present (.checkLog kind stage))
    fun _ refused => .inr (.here present (.checkLog (testDir_ok made) refused))

theorem guards_keepOutcomes (kind : CheckKind) (zero one : Outcome) :
    Guards host project caught s (keepOutcomes host project kind zero one) :=
  Guards.bind (guards_keepOutcome kind .zero zero) fun _ _ _ _ => guards_keepOutcome kind .one one

theorem guards_invoke (program : Path) (arguments : List Text) :
    Guards host project caught s (invoke host project program arguments) := by
  refine Guards.bind (guards_command (fun _ => Talks.pure) rfl) fun result _ _ _ => ?_
  dsimp only
  cases (Outcome.ofResult result).failure with
  | some failure => exact Guards.talks_bind (talks_log _ _) fun _ _ _ _ => Guards.pure _
  | none => exact Guards.pure _

theorem guards_compareOutcomes (kind : CheckKind) (zero one : Outcome) :
    Guards host project caught s (compareOutcomes kind zero one) :=
  Guards.talks_bind (talks_log _ _) fun _ _ _ _ => Guards.pure _

theorem guards_skipCheck (kind : CheckKind) (reason : Text) :
    Guards host project caught s (skipCheck kind reason) :=
  Guards.talks_bind (talks_log _ _) fun _ _ _ _ => Guards.pure _

theorem guards_checkCompilers (kind : CheckKind) (compilers : Both Artifact)
    (arguments : List Text) :
    Guards host project caught s (checkCompilers host project kind compilers arguments) :=
  Guards.bind (guards_invoke _ _) fun zero _ _ _ =>
    Guards.bind (guards_invoke _ _) fun one _ _ _ =>
      Guards.bind (guards_keepOutcomes kind zero one) fun _ _ _ _ =>
        guards_compareOutcomes kind zero one

theorem guards_noteSample {w : Path} (present : s.scratch.workdir = some w) (stage : Stage) :
    Guards host project caught s (noteSample host stage (project.compiledSample w stage)) := by
  refine Guards.bind (Guards.ask fun _ refused =>
    .here present (.output (.inr ⟨stage, rfl⟩) refused)) fun there t asked _ => ?_
  cases there with
  | false => exact Guards.talks (talks_log _ _)
  | true =>
      obtain ⟨there, rfl⟩ := ask_eq_ok asked
      obtain ⟨after, marked⟩ := Disk.addMode_of_isFile there ownerRuns
      have ended : from_ (makeOwnerRunnable host (project.compiledSample w stage)) t =
          (.ok (), { t with disk := after }) := by
        unfold makeOwnerRunnable
        rw [from_bind_ok (from_attempt _ t), from_change_ok marked]
        rfl
      refine Guards.bind (Guards.of_advances ended (.single (.mark present (.sample stage) marked))
        rfl) fun _ _ _ _ => Guards.of_advances rfl (.single .keepSamples) rfl

theorem guards_checkCompilation (compilers : Both Artifact) :
    Guards host project caught s (checkCompilation host project compilers) := by
  refine Guards.bind (Guards.ask fun _ refused => .outer (.lookup (by simp) refused))
    fun there t _ _ => ?_
  cases there with
  | false => exact guards_skipCheck _ _
  | true =>
      refine Guards.bind guards_testDir fun first u made _ => Guards.of_calm fun calm => ?_
      have known : u.testDir = some first := testDir_ok made
      obtain ⟨w, present, rfl⟩ := calm.inside first known
      refine Guards.bind guards_testDir fun second v again _ => ?_
      cases (from_testDir_of_some known).symm.trans again
      refine Guards.bind (guards_invoke _ _) fun zero _ _ compiled => ?_
      refine Guards.bind (guards_invoke _ _) fun one _ _ compiledToo => ?_
      refine Guards.bind (guards_keepOutcomes .compilation zero one) fun _ _ _ kept => ?_
      have before := (compiled.trans compiledToo).trans kept
      refine Guards.bind (guards_noteSample ((Advance.extends_of_advances before).1.workdir w present)
        .zero) fun _ _ _ noted => ?_
      refine Guards.bind (guards_noteSample
        ((Advance.extends_of_advances (before.trans noted)).1.workdir w present) .one) fun _ _ _ _ => ?_
      exact guards_compareOutcomes _ _ _

theorem guards_checkRuntime : Guards host project caught s (checkRuntime host project) := by
  refine Guards.get_bind ?_
  dsimp only
  split
  · refine Guards.bind (guards_invoke _ _) fun zero _ _ _ => ?_
    refine Guards.bind (guards_invoke _ _) fun one _ _ _ => ?_
    refine Guards.bind (guards_keepOutcomes .runtime zero one) fun _ _ _ _ => ?_
    exact Guards.bind (guards_compareOutcomes _ _ _) fun _ _ _ _ => Guards.pure _
  · exact guards_skipCheck _ _

theorem guards_check (compilers : Both Artifact) (kind : CheckKind) :
    Guards host project caught s (check host project compilers kind) := by
  cases kind with
  | version => exact guards_checkCompilers _ _ _
  | compilation => exact guards_checkCompilation _
  | runtime => exact guards_checkRuntime
  | selfDiagnostics => exact guards_checkCompilers _ _ _

/-! ## Recording -/

theorem guards_onReport {step : Report → Except Fault Report} {report : Report}
    (stepped : step s.report = .ok report) : Guards host project caught s (onReport step) :=
  Guards.of_advances (from_onReport_ok stepped) (.single .record) rfl

end Run

/-- A report that has room for the result of a check. -/
structure Report.Awaits (report : Report) (kind : CheckKind) : Prop where
  open_ : report.status = none
  later : ∀ last ∈ report.results.getLast?, last.kind.index < kind.index

theorem Report.Awaits.addResult {report : Report} {result : CheckResult}
    (awaits : report.Awaits result.kind) : report.addResult result = .ok (report.adding [result]) := by
  have unfinished : report.finalized = false := by rw [finalized, awaits.open_]; rfl
  rw [addResult_eq, unfinished]
  simp only [Bool.false_eq_true, if_false]
  cases last : report.results.getLast? with
  | none => rfl
  | some previous =>
      dsimp only
      rw [if_neg (Nat.not_le_of_lt (awaits.later previous last))]
      rfl

namespace Run

variable {α β : Type} {host : Host} {project : Project} {caught : Fault → Prop} {s t : Session}

theorem guards_checkRecorded {listen : CheckEvent → Run Unit} {kind : CheckKind}
    (talks : ∀ event, Talks (listen event)) (compilers : Both Artifact)
    (awaits : s.report.Awaits kind) :
    Guards host project caught s (checkRecorded host project compilers listen kind) := by
  refine Guards.talks_bind (talks _) fun log console commandEvents checkEvents => ?_
  refine Guards.bind (guards_check compilers kind) fun result t checked _ => ?_
  have same : t.report = { s with log, console, commandEvents, checkEvents }.report :=
    (keeps_report_check compilers kind).of_eq checked
  have named : (result.noteDelegation compilers.one.delegated).kind = kind := by
    rw [CheckResult.noteDelegation_kind]
    exact check_kind checked
  have added : t.report.addResult (result.noteDelegation compilers.one.delegated) = _ :=
    Report.Awaits.addResult (by rw [named, same]; exact awaits)
  refine Guards.bind (guards_onReport added) fun _ _ _ _ => ?_
  exact Guards.talks_bind (talks _) fun _ _ _ _ => Guards.pure _

theorem report_of_checkRecorded {listen : CheckEvent → Run Unit} {compilers : Both Artifact}
    {kind : CheckKind} {result : CheckResult} (talks : ∀ event, Talks (listen event))
    (ended : from_ (checkRecorded host project compilers listen kind) s = (.ok result, t)) :
    t.report = s.report.adding [result] ∧ result.kind = kind := by
  have records : Records Report.addResult s (checkRecorded host project compilers listen kind) :=
    records_checkRecorded talks compilers kind
  rw [Records, ended] at records
  obtain ⟨log, console, commandEvents, checkEvents, found, v, done, same, -⟩ :=
    checkRecorded_ok talks ended
  refine ⟨Report.addResult_ok records, ?_⟩
  rw [same, CheckResult.noteDelegation_kind]
  exact check_kind done

/-- The results of checks that come in order are all recorded. -/
theorem guards_checks {listen : CheckEvent → Run Unit} (talks : ∀ event, Talks (listen event))
    (compilers : Both Artifact) {kinds : List CheckKind}
    (order : kinds.Pairwise fun first second => first.index < second.index)
    (awaits : ∀ kind ∈ kinds, s.report.Awaits kind) :
    Guards host project caught s (kinds.mapM (checkRecorded host project compilers listen)) := by
  induction kinds generalizing s with
  | nil =>
      rw [List.mapM_nil]
      exact Guards.pure []
  | cons kind kinds ih =>
      obtain ⟨first, rest⟩ := List.pairwise_cons.mp order
      rw [List.mapM_cons]
      refine Guards.bind (guards_checkRecorded talks compilers (awaits kind List.mem_cons_self))
        fun result t checked _ => ?_
      obtain ⟨report, named⟩ := report_of_checkRecorded talks checked
      refine Guards.bind (ih rest fun other member => ⟨?_, ?_⟩) fun _ _ _ _ => Guards.pure _
      · rw [report]
        exact (awaits kind List.mem_cons_self).open_
      · rw [report, Report.adding]
        simp [named, first other member]

theorem awaits_all (open_ : s.report.status = none) (fresh : s.report.results = []) :
    ∀ kind ∈ CheckKind.order, s.report.Awaits kind := by
  refine fun kind _ => ⟨open_, fun last member => ?_⟩
  rw [fresh] at member
  cases member

theorem guards_checkAll {listen : CheckEvent → Run Unit} {compilers : Both Artifact}
    (talks : ∀ event, Talks (listen event)) (zeroBuilt : compilers.zero.built = true)
    (oneBuilt : compilers.one.built = true) (open_ : s.report.status = none)
    (fresh : s.report.results = []) :
    Guards host project caught s (checkAll host project compilers listen) := by
  refine Guards.bind (Guards.of_advances (from_ensureBuilt zeroBuilt s) .refl rfl)
    fun _ t first _ => ?_
  cases (from_ensureBuilt zeroBuilt s).symm.trans first
  refine Guards.bind (Guards.of_advances (from_ensureBuilt oneBuilt s) .refl rfl)
    fun _ t second _ => ?_
  cases (from_ensureBuilt oneBuilt s).symm.trans second
  refine Guards.bind (guards_checks talks compilers (by decide) (awaits_all open_ fresh))
    fun results t checked _ => ?_
  have report := report_of_checks host project talks compilers CheckKind.order s
  rw [checked] at report
  have stillOpen : t.report.status = none := by
    rw [report.2]
    exact open_
  obtain ⟨log, ended⟩ := from_recordNeverRan stillOpen results Stage.all
  have said : Advance host project t { t with log } := .say
  exact Guards.bind (Guards.of_advances ended (.tail (.single said) .record) rfl)
    fun _ _ _ _ => Guards.pure _

/-! ## The stages -/

theorem guards_probe (tool hint : Text) :
    Guards host project Fault.Fatal s (probe host tool hint) := by
  unfold probe
  refine Guards.get_bind ?_
  split
  · exact Guards.talks_bind (talks_log _ _) fun _ _ _ _ => Guards.pure _
  · exact Guards.talks_bind (talks_log _ _) fun _ _ _ _ => Guards.throw rfl

theorem guards_setArtifact {artifact : Artifact} (open_ : s.report.status = none) :
    Guards host project caught s (onReport fun report => report.setArtifact artifact) := by
  have unfinished : s.report.finalized = false := by rw [Report.finalized, open_]; rfl
  have recorded : s.report.setArtifact artifact =
      .ok { s.report with artifacts := s.report.artifacts.set artifact.stage (some artifact) } := by
    rw [Report.setArtifact_eq, unfinished]
    rfl
  exact guards_onReport recorded

theorem guards_stageZero (open_ : s.report.status = none) :
    Guards host project Fault.Fatal s (stageZero host project) := by
  refine Guards.talks_bind (talks_printStep _ _) fun log console commandEvents checkEvents => ?_
  refine Guards.bind (guards_probe _ _) fun _ t found _ => ?_
  refine Guards.bind (guards_buildZero talks_printCommandEvent) fun zero u built _ => ?_
  have same : u.report = { s with log, console, commandEvents, checkEvents }.report :=
    ((working_buildZero talks_printCommandEvent).keeps_report.of_eq built).trans
      ((alone_probe _ _ : Alone host project _ _).working.keeps_report.of_eq found)
  refine Guards.bind (guards_setArtifact (by rw [same]; exact open_)) fun _ _ _ _ => ?_
  exact Guards.talks_bind (talks_print _) fun _ _ _ _ => Guards.pure _

theorem guards_stageOne {w : Path} {zero : Artifact} (open_ : s.report.status = none)
    (present : s.scratch.workdir = some w) (built : zero.built = true)
    (path : zero.path = project.compiler w .zero)
    (named : Disk.misnamed? (project.compiler w .one) = none) :
    Guards host project Fault.Fatal s (stageOne host project zero) := by
  refine Guards.talks_bind (talks_printStep _ _) fun log console commandEvents checkEvents => ?_
  refine Guards.bind (guards_buildOne talks_printCommandEvent present built path named)
    fun one u builds _ => ?_
  have same : u.report = { s with log, console, commandEvents, checkEvents }.report :=
    (working_buildOne talks_printCommandEvent).keeps_report.of_eq builds
  refine Guards.bind (guards_setArtifact (by rw [same]; exact open_)) fun _ _ _ _ => ?_
  cases one.delegated with
  | true =>
      exact Guards.talks_bind (talks_print _) fun _ _ _ _ =>
        Guards.talks_bind (talks_print _) fun _ _ _ _ => Guards.pure _
  | false => exact Guards.talks_bind (talks_print _) fun _ _ _ _ => Guards.pure _

theorem named_of_stageZero {zero : Artifact}
    (ended : from_ (stageZero host project) s = (.ok zero, t)) : Disk.misnamed? zero.path = none := by
  obtain ⟨_, _, -, ended⟩ := from_bind_eq_ok ended
  obtain ⟨_, _, -, ended⟩ := from_bind_eq_ok ended
  obtain ⟨_, _, built, ended⟩ := from_bind_eq_ok ended
  obtain ⟨_, _, -, ended⟩ := from_bind_eq_ok ended
  cases ended
  exact named_of_buildZero built

/-- The second build after the first one. -/
theorem guards_stageOne_after {zero : Artifact} (ready : Ready s)
    (builtZero : from_ (stageZero host project) s = (.ok zero, t)) :
    Guards host project Fault.Fatal t (stageOne host project zero) := by
  refine Guards.of_calm fun calm => ?_
  obtain ⟨-, built, w, present, path⟩ := stageZero_ok builtZero
  have open_ : t.report.status = none := by
    rw [report_of_stageZero builtZero]
    exact ready.open_
  exact guards_stageOne open_ present built path (Project.named_compiler (calm.named w present)
    (path ▸ named_of_stageZero builtZero) .one)

/-- A calm run is still calm once both compilers are built. -/
theorem calm_of_builds {zero one : Artifact} {u : Session} (ready : Ready s)
    (calm : s.Calm host project) (builtZero : from_ (stageZero host project) s = (.ok zero, t))
    (builtOne : from_ (stageOne host project zero) t = (.ok one, u)) : u.Calm host project := by
  have first := (guards_stageZero ready.open_).ends calm
  rw [builtZero] at first
  have second := (guards_stageOne_after ready builtZero).ends first.2
  rw [builtOne] at second
  exact second.2

/-- The stages stop with a fatal fault, by a request to stop, or at a snag. -/
theorem guards_stages (verbose : Bool) (ready : Ready s) :
    Guards host project Fault.Fatal s (stages host project verbose) := by
  obtain ⟨root, now, start⟩ := ready.report
  refine Guards.bind (guards_stageZero ready.open_) fun zero m builtZero _ => ?_
  refine Guards.bind (guards_stageOne_after ready builtZero) fun one u builtOne _ => ?_
  have both := built_of_stages ready.live builtZero builtOne
  refine Guards.bind (guards_checkAll (talks_printCheckEvent verbose) both.zeroBuilt both.oneBuilt
    ?_ ?_) fun _ _ _ _ => Guards.pure _
  · rw [both.report]
    exact ready.open_
  · rw [both.report, start]
    rfl

/-- A snag is about a file, a command that cannot be asked for, or temporary files that are gone. -/
theorem fault_of_snag {fault : Fault} (snag : Snag host project s t fault) :
    (∃ other, fault = .file other) ∨ (∃ other, fault = .start other) ∨ fault = .released := by
  rcases snag with snag | ⟨-, -, -, snag⟩
  · cases snag with
    | workdir absent stopped =>
        rcases from_workdir host t with ⟨-, ended⟩ | ⟨-, w, present, -⟩ |
          ⟨-, -, w, disk, log, -, -, ended⟩ | ⟨-, -, other, ended⟩
        · cases (congrArg Prod.fst ended).symm.trans stopped
          exact .inr (.inr rfl)
        · cases absent.symm.trans present
        · cases (congrArg Prod.fst ended).symm.trans stopped
        · cases (congrArg Prod.fst ended).symm.trans stopped
          exact .inl ⟨_, rfl⟩
    | start => exact .inr (.inl ⟨_, rfl⟩)
    | _ => exact .inl ⟨_, rfl⟩
  · cases snag <;> exact .inl ⟨_, rfl⟩

/-- No snag is a request to stop. -/
theorem not_interrupts_of_snag {fault : Fault} (snag : Snag host project s t fault) :
    ¬ fault.Interrupts := by
  rcases fault_of_snag snag with ⟨_, rfl⟩ | ⟨_, rfl⟩ | rfl <;> exact id

/-- No check stops with a fatal fault. -/
theorem mild_of_checks {verbose : Bool} {compilers : Both Artifact} {fault : Fault}
    (calm : s.Calm host project) (open_ : s.report.status = none) (fresh : s.report.results = [])
    (stopped : from_ (CheckKind.order.mapM
      (checkRecorded host project compilers (printCheckEvent verbose))) s = (.error fault, t)) :
    fault.isFatal = false := by
  have guards : Guards host project (fun _ => False) s _ :=
    guards_checks (talks_printCheckEvent verbose) compilers (by decide) (awaits_all open_ fresh)
  have ends := guards.ends calm
  rw [stopped] at ends
  rcases ends with none | ⟨asked, -⟩ | snag
  · cases none
  · cases fault with
    | interrupted label => rfl
    | _ => cases asked
  · rcases fault_of_snag snag with ⟨_, rfl⟩ | ⟨_, rfl⟩ | rfl <;> rfl

/-- Stages that stop in spite of their report do so by a request to stop or at a snag. -/
theorem stop_of_stagesReported {verbose : Bool} {fault : Fault} (ready : Ready s)
    (calm : s.Calm host project)
    (stopped : from_ (stagesReported host project verbose) s = (.error fault, t)) :
    (fault.Interrupts ∧ ReflTransGen (Advance host project) s t) ∨
      Snag host project s t fault := by
  have ends := (guards_stages verbose ready).ends calm
  obtain ⟨log, console, reported⟩ := from_stagesReported host project verbose ready.live ready.open_
  rw [reported] at stopped
  generalize from_ (stages host project verbose) s = ended at ends stopped
  obtain ⟨other | done, u⟩ := ended
  · dsimp only at stopped
    cases fatal : other.isFatal with
    | true =>
        rw [fatal] at stopped
        cases stopped
    | false =>
        rw [fatal] at stopped
        cases stopped
        rcases ends with caught | ends
        · cases fatal.symm.trans caught
        · exact ends
  · cases stopped

end Run

end StageParity
