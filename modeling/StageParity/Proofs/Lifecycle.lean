import Mathlib.Data.List.Induction
import StageParity.Proofs.Interruption

/-!
# The life of a scratch space

A scratch space under any operations in any order, with signals and other changes of the disk
between them. `Effect` tells what one operation can do; what it keeps of a scratch space
(`Keeps`) is kept by every sequence of operations.
-/

namespace StageParity.Scratch

open Run (from_)

/-- What is done to a scratch space, or happens beside it. -/
inductive Operation where
  | enter
  | workdir
  | path (name : Text)
  | testDir (name : Text)
  | track (path : Text)
  | teardown
  | leave
  | signal (signal : Signal)
  /-- Something else changes the disk. -/
  | meanwhile (change : Disk → Disk)

/-- What an operation answers. -/
inductive Answer where
  | nothing
  | path (path : Path)
  | failures (messages : List Text)

namespace Operation

def perform (host : Host) : Operation → Run Answer
  | enter => (fun _ => .nothing) <$> Run.takeSignals
  | workdir => Answer.path <$> Run.workdir host
  | path name => Answer.path <$> Run.scratchPath host name
  | testDir name => Answer.path <$> Run.scratchDirectory host name
  | track text => (fun _ => .path (Path.ofText text)) <$> Run.track (Path.ofText text)
  | teardown => Answer.failures <$> Run.teardown host
  | leave => (fun _ => .nothing) <$> Run.leave host
  | signal sent => (fun _ => .nothing) <$> Run.receive sent
  | meanwhile change => (fun _ => .nothing) <$> modify fun s => { s with disk := change s.disk }

def isEnter : Operation → Bool
  | .enter => true
  | _ => false

/-- Whether an operation hands out a path. -/
def handsOut : Operation → Bool
  | .workdir | .path _ | .testDir _ | .track _ => true
  | _ => false

/-- Whether an operation removes the tracked paths. -/
def removes : Operation → Bool
  | .teardown | .leave => true
  | _ => false

/-- What an operation that removes nothing does to the disk, given the working directory. -/
def onDisk (host : Host) : Operation → Option Path → Disk → Disk
  | .testDir name, some w, disk =>
    (disk.makeDirectories host.cwd (w.child name).names.length (w.child name)).1
  | .meanwhile change, _, disk => change disk
  | _, _, disk => disk

end Operation

/-- The state after operations; each is performed whatever came of those before. -/
def after (host : Host) (s : Session) (ops : List Operation) : Session :=
  ops.foldl (fun s op => (from_ (op.perform host) s).2) s

/-- Whether a scratch space is entered and not left again. -/
def within (ops : List Operation) : Bool :=
  ops.foldl (fun inside op => match op with
    | .enter => true
    | .leave => false
    | _ => inside) false

/-- A session whose scratch space was not used yet and is to handle signals. -/
def unused (disk : Disk) (base : Option Path) (stem : Text) (handler : Signal → Handler) :
    Session :=
  { Session.start disk { Scratch.fresh base true with stem } with handler }

end StageParity.Scratch

namespace StageParity.Run

variable {host : Host} {s t : Session}

theorem from_map {α β : Type} (f : α → β) (x : Run α) (s : Session) :
    from_ (f <$> x) s = ((from_ x s).1.map f, (from_ x s).2) := by
  rw [map_eq_pure_bind, from_bind]
  rcases from_ x s with ⟨fault | a, t⟩
  · rfl
  · rfl

/-! ## Trying to remove paths one after the other -/

/-- The state after an attempt to remove each of the paths, whatever came of those before. -/
def tried (host : Host) (paths : List Path) (s : Session) : Session :=
  paths.foldl (fun s path => (from_ (removeNoting host path) s).2) s

theorem settled_removeNoting (host : Host) (path : Path) (settled : s.Settled) :
    (from_ (removeNoting host path) s).2.Settled :=
  Removing.settled (removing_removeNoting host path s) settled

/-- A settled run removes a path that can be named, or notes the refusal. -/
theorem removeNoting_ok {path : Path} (host : Host) (settled : s.Settled)
    (named : Disk.misnamed? path = none) :
    from_ (removeNoting host path) s = (.ok (), (from_ (removeNoting host path) s).2) := by
  rcases ended : from_ (removeNoting host path) s with ⟨fault | done, t⟩
  · rcases fault_of_removeNoting ended with ⟨unsettled, -⟩ | ⟨other, unnamed, -⟩
    · exact absurd settled unsettled
    · cases named.symm.trans unnamed
  · rfl

/-- A pass of a settled run tries all paths if each can be named. -/
theorem from_pass_of_named {paths : List Path} (host : Host) (settled : s.Settled)
    (named : ∀ path ∈ paths, Disk.misnamed? path = none) :
    from_ (paths.forM (removeNoting host)) s = (.ok (), tried host paths s) := by
  induction paths generalizing s with
  | nil => rfl
  | cons path paths ih =>
      have first := removeNoting_ok host settled (named path List.mem_cons_self)
      have others := ih (settled_removeNoting host path settled)
        fun other member => named other (List.mem_cons_of_mem path member)
      exact (from_bind_ok first _).trans others

/-- A pass of a settled run tries no path after the first one that cannot be named. -/
theorem from_pass_of_misnamed {good later : List Path} {bad : Path} {fault : FileFault}
    (host : Host) (settled : s.Settled) (named : ∀ path ∈ good, Disk.misnamed? path = none)
    (unnamed : Disk.misnamed? bad = some fault) :
    from_ ((good ++ bad :: later).forM (removeNoting host)) s =
      (.error (.file fault), tried host (good ++ [bad]) s) := by
  have before := from_pass_of_named host settled named
  have reached : (tried host good s).Settled := by
    have steps := removing_pass host good s
    rw [before] at steps
    exact Removing.settled steps settled
  obtain ⟨t, stopped, -⟩ := removeNoting_of_misnamed host reached unnamed
  have split : (good ++ bad :: later).forM (removeNoting host) =
      good.forM (removeNoting host) >>= fun _ => (bad :: later).forM (removeNoting host) :=
    List.forM_append
  have last : tried host (good ++ [bad]) s = t := by
    rw [tried, List.foldl_append]
    exact congrArg Prod.snd stopped
  rw [split, from_bind_ok before, last]
  exact from_bind_error stopped _

theorem received_tried (host : Host) (paths : List Path) (settled : s.Settled) :
    (tried host paths s).scratch.received =
      (signalsDuring host paths s).getLast?.or s.scratch.received := by
  induction paths generalizing s with
  | nil => rfl
  | cons path paths ih =>
      have noted := received_removeNoting host path settled
      have rest := ih (settled_removeNoting host path settled)
      rw [signalsDuring, List.getLast?_append, Option.or_assoc, ← noted]
      exact rest

end StageParity.Run

namespace StageParity.Scratch

open Run (from_ torn tried signalsDuring)

/-! ## What an operation does -/

/-- A working directory is at hand in the second state: it was there, or it is made just now. -/
inductive Opens (host : Host) (s : Session) (w : Path) : Session → Prop where
  | present : s.scratch.workdir = some w → Opens host s w s
  | made {disk : Disk} {log : List Record} :
      s.scratch.workdir = none → w.Proper →
      s.disk.makeDirectory host.cwd w Run.workdirMode = .ok disk →
      Opens host s w
        { s with disk, log, scratch := Scratch.add { s.scratch with workdir := some w } w }

/-- What an operation can do and answer. -/
inductive Effect (host : Host) (s : Session) :
    Operation → Except Fault Answer → Session → Prop where
  | enter : Effect host s .enter (.ok .nothing) (Run.taken s)
  | refused {op : Operation} :
      op.handsOut = true → s.scratch.tornDown = true → Effect host s op (.error .released) s
  | unmade {op : Operation} {fault : FileFault} :
      op.handsOut = true → s.scratch.tornDown = false → s.scratch.workdir = none →
      Effect host s op (.error (.file fault)) s
  | workdir {w : Path} {t : Session} :
      s.scratch.tornDown = false → Opens host s w t → Effect host s .workdir (.ok (.path w)) t
  | path {w : Path} {t : Session} {name : Text} :
      s.scratch.tornDown = false → Opens host s w t →
      Effect host s (.path name) (.ok (.path (w.child name)))
        { t with scratch := t.scratch.add (w.child name) }
  | testDir {w : Path} {t : Session} {name : Text} {result : Except Fault Answer} :
      s.scratch.tornDown = false → Opens host s w t →
      Effect host s (.testDir name) result
        { t with
          disk := (Operation.testDir name).onDisk host (some w) t.disk
          scratch := t.scratch.add (w.child name) }
  | track {text : Text} :
      s.scratch.tornDown = false →
      Effect host s (.track text) (.ok (.path (Path.ofText text)))
        { s with scratch := s.scratch.add (Path.ofText text) }
  | tornDown :
      s.scratch.tornDown = true → Effect host s .teardown (.ok (.failures s.scratch.failures)) s
  | teardown {log : List Record} :
      s.scratch.tornDown = false →
      Effect host s .teardown
        ((Run.pass host s).1.map fun _ => .failures (Run.pass host s).2.scratch.failures)
        { (Run.pass host s).2 with log }
  | left : s.scratch.tornDown = true → Effect host s .leave (.ok .nothing) (Run.givenBack s)
  | leave {log : List Record} :
      s.scratch.tornDown = false →
      Effect host s .leave ((Run.pass host s).1.map fun _ => .nothing)
        (Run.givenBack { (Run.pass host s).2 with log })
  | signal {sent : Signal} {received : Option Signal} {log : List Record}
      {result : Except Fault Answer} :
      Effect host s (.signal sent) result { s with log, scratch := { s.scratch with received } }
  | meanwhile {change : Disk → Disk} :
      Effect host s (.meanwhile change) (.ok .nothing) { s with disk := change s.disk }

variable {host : Host} {s t u : Session} {op : Operation} {result : Except Fault Answer}

theorem from_workdir_cases (host : Host) (s : Session) :
    (s.scratch.tornDown = true ∧ from_ (Run.workdir host) s = (.error .released, s)) ∨
      (s.scratch.tornDown = false ∧ s.scratch.workdir = none ∧
        ∃ fault, from_ (Run.workdir host) s = (.error (.file fault), s)) ∨
      (s.scratch.tornDown = false ∧
        ∃ w t, from_ (Run.workdir host) s = (.ok w, t) ∧ Opens host s w t) := by
  rcases Run.from_workdir host s with ⟨torn, ended⟩ | ⟨live, w, present, ended⟩ |
    ⟨live, absent, w, disk, log, proper, made, ended⟩ | ⟨live, absent, fault, ended⟩
  · exact .inl ⟨torn, ended⟩
  · exact .inr (.inr ⟨live, w, s, ended, .present present⟩)
  · exact .inr (.inr ⟨live, w, _, ended, .made absent proper made⟩)
  · exact .inr (.inl ⟨live, absent, fault, ended⟩)

theorem Opens.tornDown {w : Path} (opens : Opens host s w t) :
    t.scratch.tornDown = s.scratch.tornDown := by
  cases opens with
  | present _ => rfl
  | made absent proper made => simp

/-- A path in the working directory is handed out once a working directory is at hand. -/
theorem from_scratchPath_cases (host : Host) (name : Text) (s : Session) :
    (s.scratch.tornDown = true ∧ from_ (Run.scratchPath host name) s = (.error .released, s)) ∨
      (s.scratch.tornDown = false ∧ s.scratch.workdir = none ∧
        ∃ fault, from_ (Run.scratchPath host name) s = (.error (.file fault), s)) ∨
      (s.scratch.tornDown = false ∧
        ∃ w t, Opens host s w t ∧
          from_ (Run.scratchPath host name) s =
            (.ok (w.child name), { t with scratch := t.scratch.add (w.child name) })) := by
  unfold Run.scratchPath
  rcases from_workdir_cases host s with ⟨torn, stopped⟩ | ⟨live, absent, fault, stopped⟩ |
    ⟨live, w, t, ended, opens⟩
  · exact .inl ⟨torn, Run.from_bind_error stopped _⟩
  · exact .inr (.inl ⟨live, absent, fault, Run.from_bind_error stopped _⟩)
  · have alive : t.scratch.tornDown = false := opens.tornDown.trans live
    refine .inr (.inr ⟨live, w, t, opens, ?_⟩)
    rw [Run.from_bind_ok ended, Run.from_bind_ok (Run.from_track alive _)]
    rfl

theorem effect_workdir (host : Host) (s : Session) :
    Effect host s .workdir (from_ (Operation.workdir.perform host) s).1
      (from_ (Operation.workdir.perform host) s).2 := by
  rw [Operation.perform, Run.from_map]
  rcases from_workdir_cases host s with ⟨torn, stopped⟩ | ⟨live, absent, fault, stopped⟩ |
    ⟨live, w, t, ended, opens⟩
  · rw [stopped]
    exact .refused rfl torn
  · rw [stopped]
    exact .unmade rfl live absent
  · rw [ended]
    exact .workdir live opens

theorem effect_path (host : Host) (name : Text) (s : Session) :
    Effect host s (.path name) (from_ ((Operation.path name).perform host) s).1
      (from_ ((Operation.path name).perform host) s).2 := by
  rw [Operation.perform, Run.from_map]
  rcases from_scratchPath_cases host name s with ⟨torn, stopped⟩ |
    ⟨live, absent, fault, stopped⟩ | ⟨live, w, t, opens, ended⟩
  · rw [stopped]
    exact .refused rfl torn
  · rw [stopped]
    exact .unmade rfl live absent
  · rw [ended]
    exact .path live opens

theorem effect_testDir (host : Host) (name : Text) (s : Session) :
    Effect host s (.testDir name) (from_ ((Operation.testDir name).perform host) s).1
      (from_ ((Operation.testDir name).perform host) s).2 := by
  rw [Operation.perform, Run.from_map]
  unfold Run.scratchDirectory
  rcases from_scratchPath_cases host name s with ⟨torn, stopped⟩ |
    ⟨live, absent, fault, stopped⟩ | ⟨live, w, t, opens, ended⟩
  · rw [Run.from_bind_error stopped]
    exact .refused rfl torn
  · rw [Run.from_bind_error stopped]
    exact .unmade rfl live absent
  · rw [Run.from_bind_ok ended, Run.from_bind, Run.from_changePartly]
    cases (t.disk.makeDirectories host.cwd (w.child name).names.length (w.child name)).2 with
    | none => exact .testDir live opens
    | some fault => exact .testDir live opens

theorem effect_track (host : Host) (text : Text) (s : Session) :
    Effect host s (.track text) (from_ ((Operation.track text).perform host) s).1
      (from_ ((Operation.track text).perform host) s).2 := by
  rw [Operation.perform, Run.from_map]
  cases live : s.scratch.tornDown with
  | true =>
      have refused : from_ Run.ensureLive s = (.error .released, s) := by
        rw [Run.from_ensureLive, live]
        rfl
      rw [Run.track, Run.from_bind_error refused]
      exact .refused rfl live
  | false =>
      rw [Run.from_track live]
      exact .track live

theorem from_teardown_again (torn : s.scratch.tornDown = true) :
    from_ (Run.teardown host) s = (.ok s.scratch.failures, s) := by
  unfold Run.teardown
  rw [Run.from_get_bind]
  simp only [torn, if_true]
  rfl

theorem effect_teardown (host : Host) (s : Session) :
    Effect host s .teardown (from_ (Operation.teardown.perform host) s).1
      (from_ (Operation.teardown.perform host) s).2 := by
  rw [Operation.perform, Run.from_map]
  cases live : s.scratch.tornDown with
  | true =>
      rw [from_teardown_again live]
      exact .tornDown live
  | false =>
      obtain ⟨log, ended⟩ := Run.from_teardown host live
      rw [ended]
      have effect : Effect host s .teardown _ { (Run.pass host s).2 with log } := .teardown live
      cases passed : (Run.pass host s).1 with
      | error fault =>
          rw [passed] at effect
          exact effect
      | ok done =>
          rw [passed] at effect
          exact effect

theorem effect_leave (host : Host) (s : Session) :
    Effect host s .leave (from_ (Operation.leave.perform host) s).1
      (from_ (Operation.leave.perform host) s).2 := by
  rw [Operation.perform, Run.from_map]
  cases live : s.scratch.tornDown with
  | true =>
      have ended : from_ (Run.leave host) s = (.ok (), Run.givenBack s) := by
        unfold Run.leave
        rw [Run.from_thenAlways, Run.from_bind_ok (from_teardown_again live)]
        rfl
      rw [ended]
      exact .left live
  | false =>
      obtain ⟨log, ended⟩ := Run.from_leave host live
      rw [ended]
      exact .leave live

theorem effect_signal (host : Host) (sent : Signal) (s : Session) :
    Effect host s (.signal sent) (from_ ((Operation.signal sent).perform host) s).1
      (from_ ((Operation.signal sent).perform host) s).2 := by
  rw [Operation.perform, Run.from_map]
  obtain ⟨result, received, log, ended, -⟩ := Run.from_receive_noted sent s
  rw [ended]
  exact .signal

/-- An operation does one of the things that `Effect` lists. -/
theorem effect (host : Host) (op : Operation) (s : Session) :
    Effect host s op (from_ (op.perform host) s).1 (from_ (op.perform host) s).2 := by
  cases op with
  | enter =>
      rw [Operation.perform, Run.from_map, Run.from_takeSignals]
      exact .enter
  | workdir => exact effect_workdir host s
  | path name => exact effect_path host name s
  | testDir name => exact effect_testDir host name s
  | track text => exact effect_track host text s
  | teardown => exact effect_teardown host s
  | leave => exact effect_leave host s
  | signal sent => exact effect_signal host sent s
  | meanwhile change => exact .meanwhile

/-! ## What operations keep -/

theorem not_live (torn : s.scratch.tornDown = true) (live : s.scratch.tornDown = false) :
    False := by
  rw [torn] at live
  cases live

/-- A pass changes the disk and the counts, notes what it met, and marks the removal as begun. -/
theorem pass_eq (host : Host) (s : Session) :
    (Run.pass host s).2 =
      { s with
        disk := (Run.pass host s).2.disk
        log := (Run.pass host s).2.log
        treeRemovals := (Run.pass host s).2.treeRemovals
        fileRemovals := (Run.pass host s).2.fileRemovals
        scratch := { s.scratch with
          tornDown := true
          failures := (Run.pass host s).2.scratch.failures
          received := (Run.pass host s).2.scratch.received } } :=
  Removing.frame (Run.removing_pass host s.scratch.tracked.reverse (torn s))

/-- What of a scratch space lasts. -/
structure Keeps (s t : Session) : Prop where
  workdir : ∀ w, s.scratch.workdir = some w → t.scratch.workdir = some w
  tracked : s.scratch.tracked <+: t.scratch.tracked
  settings : t.scratch.handlesSignals = s.scratch.handlesSignals ∧
    t.scratch.mainThread = s.scratch.mainThread
  /-- Once the removal has begun there is no other one, and no path is tracked any more. -/
  tornDown : s.scratch.tornDown = true →
    t.scratch.tornDown = true ∧ t.scratch.tracked = s.scratch.tracked ∧
      t.scratch.failures = s.scratch.failures ∧
      t.treeRemovals = s.treeRemovals ∧ t.fileRemovals = s.fileRemovals

namespace Keeps

theorem refl (s : Session) : Keeps s s :=
  ⟨fun _ => id, List.prefix_refl _, ⟨rfl, rfl⟩, fun torn => ⟨torn, rfl, rfl, rfl, rfl⟩⟩

theorem trans (first : Keeps s t) (second : Keeps t u) : Keeps s u where
  workdir w present := second.workdir w (first.workdir w present)
  tracked := first.tracked.trans second.tracked
  settings := ⟨second.settings.1.trans first.settings.1, second.settings.2.trans first.settings.2⟩
  tornDown torn := by
    obtain ⟨torn', tracked, failures, trees, files⟩ := first.tornDown torn
    obtain ⟨torn'', tracked', failures', trees', files'⟩ := second.tornDown torn'
    exact ⟨torn'', tracked'.trans tracked, failures'.trans failures, trees'.trans trees,
      files'.trans files⟩

/-- While the removal has not begun, paths may be added and the working directory may be made. -/
theorem of_live (live : s.scratch.tornDown = false)
    (workdir : ∀ w, s.scratch.workdir = some w → t.scratch.workdir = some w)
    (tracked : s.scratch.tracked <+: t.scratch.tracked)
    (settings : t.scratch.handlesSignals = s.scratch.handlesSignals ∧
      t.scratch.mainThread = s.scratch.mainThread) : Keeps s t := by
  refine ⟨workdir, tracked, settings, ?_⟩
  intro torn
  exact (not_live torn live).elim

end Keeps

theorem prefix_add (scratch : Scratch) (path : Path) :
    scratch.tracked <+: (scratch.add path).tracked := by
  unfold add
  split
  · exact List.prefix_refl _
  · exact List.prefix_append _ _

@[simp] theorem add_saved (scratch : Scratch) (path : Path) :
    (scratch.add path).saved = scratch.saved := by
  unfold add
  split
  · rfl
  · rfl

theorem add_settings (scratch : Scratch) (path : Path) :
    (scratch.add path).handlesSignals = scratch.handlesSignals ∧
      (scratch.add path).mainThread = scratch.mainThread := by
  unfold add
  split
  · exact ⟨rfl, rfl⟩
  · exact ⟨rfl, rfl⟩

theorem keeps_add (live : s.scratch.tornDown = false) (disk : Disk) (path : Path) :
    Keeps s { s with disk, scratch := s.scratch.add path } := by
  apply Keeps.of_live live
  · intro w present
    rw [add_workdir]
    exact present
  · exact prefix_add _ _
  · exact add_settings _ _

theorem Opens.keeps {w : Path} (opens : Opens host s w t) (live : s.scratch.tornDown = false) :
    Keeps s t := by
  cases opens with
  | present _ => exact .refl s
  | made absent proper made =>
      apply Keeps.of_live live
      · intro v present
        cases absent.symm.trans present
      · exact prefix_add { s.scratch with workdir := some w } w
      · exact add_settings { s.scratch with workdir := some w } w

theorem keeps_pass (host : Host) (live : s.scratch.tornDown = false) :
    Keeps s (Run.pass host s).2 := by
  rw [pass_eq]
  exact .of_live live (fun _ => id) (List.prefix_refl _) ⟨rfl, rfl⟩

theorem keeps_taken (s : Session) : Keeps s (Run.taken s) := by
  unfold Run.taken
  split
  · exact ⟨fun _ => id, List.prefix_refl _, ⟨rfl, rfl⟩, fun torn => ⟨torn, rfl, rfl, rfl, rfl⟩⟩
  · exact .refl s

theorem Effect.keeps (effect : Effect host s op result t) : Keeps s t := by
  cases effect with
  | enter => exact keeps_taken s
  | refused _ _ => exact .refl s
  | unmade _ _ _ => exact .refl s
  | workdir live opens => exact opens.keeps live
  | path live opens =>
      exact (opens.keeps live).trans (keeps_add (opens.tornDown.trans live) _ _)
  | testDir live opens =>
      exact (opens.keeps live).trans (keeps_add (opens.tornDown.trans live) _ _)
  | track live => exact keeps_add live _ _
  | tornDown _ => exact .refl s
  | teardown live =>
      have passed := keeps_pass host live
      exact .of_live live passed.workdir passed.tracked passed.settings
  | left _ =>
      exact ⟨fun _ => id, List.prefix_refl _, ⟨rfl, rfl⟩, fun torn => ⟨torn, rfl, rfl, rfl, rfl⟩⟩
  | leave live =>
      have passed := keeps_pass host live
      exact .of_live live passed.workdir passed.tracked passed.settings
  | signal =>
      exact ⟨fun _ => id, List.prefix_refl _, ⟨rfl, rfl⟩, fun torn => ⟨torn, rfl, rfl, rfl, rfl⟩⟩
  | meanwhile =>
      exact ⟨fun _ => id, List.prefix_refl _, ⟨rfl, rfl⟩, fun torn => ⟨torn, rfl, rfl, rfl, rfl⟩⟩

theorem keeps_after (host : Host) (s : Session) (ops : List Operation) :
    Keeps s (after host s ops) := by
  induction ops generalizing s with
  | nil => exact .refl s
  | cons op ops ih => exact (effect host op s).keeps.trans (ih _)

theorem after_append (host : Host) (s : Session) (ops more : List Operation) :
    after host s (ops ++ more) = after host (after host s ops) more :=
  List.foldl_append

/-! ## What is true of the tracked paths -/

/-- The tracked paths are those of names, none twice, and the working directory is one of them. -/
structure Listed (scratch : Scratch) : Prop where
  workdir : ∀ w, scratch.workdir = some w → w ∈ scratch.tracked
  nodup : scratch.tracked.Nodup
  proper : ∀ path ∈ scratch.tracked, path.Proper

theorem nodup_add (scratch : Scratch) (path : Path) (nodup : scratch.tracked.Nodup) :
    (scratch.add path).tracked.Nodup := by
  unfold add
  by_cases known : path ∈ scratch.tracked
  · simpa [known] using nodup
  · have apart : ∀ old ∈ scratch.tracked, ∀ new ∈ [path], old ≠ new := by
      intro old member new only same
      rw [List.mem_singleton.mp only] at same
      exact known (same ▸ member)
    simpa [known] using List.nodup_append.mpr ⟨nodup, by simp, apart⟩

theorem Listed.add {scratch : Scratch} (listed : Listed scratch) {path : Path}
    (proper : path.Proper) : Listed (scratch.add path) where
  workdir w present := by
    rw [add_workdir] at present
    exact (mem_add _ _ _).mpr (.inl (listed.workdir w present))
  nodup := nodup_add scratch path listed.nodup
  proper other member := by
    rcases (mem_add _ _ _).mp member with old | rfl
    · exact listed.proper other old
    · exact proper

theorem Opens.listed {w : Path} (opens : Opens host s w t) (listed : Listed s.scratch) :
    Listed t.scratch := by
  cases opens with
  | present _ => exact listed
  | made absent proper made =>
      refine ⟨?_, ?_, ?_⟩
      · intro v present
        rw [add_workdir] at present
        cases present
        exact (mem_add _ _ _).mpr (.inr rfl)
      · exact nodup_add { s.scratch with workdir := some w } w listed.nodup
      · intro path member
        rcases (mem_add _ _ _).mp member with old | rfl
        · exact listed.proper path old
        · exact proper

theorem Opens.proper {w : Path} (opens : Opens host s w t) (listed : Listed s.scratch) :
    w.Proper := by
  cases opens with
  | present found => exact listed.proper w (listed.workdir w found)
  | made absent proper made => exact proper

theorem listed_pass (host : Host) (listed : Listed s.scratch) :
    Listed (Run.pass host s).2.scratch := by
  rw [pass_eq]
  exact ⟨listed.workdir, listed.nodup, listed.proper⟩

theorem Effect.listed (effect : Effect host s op result t) (listed : Listed s.scratch) :
    Listed t.scratch := by
  cases effect with
  | enter =>
      unfold Run.taken
      split
      · exact ⟨listed.workdir, listed.nodup, listed.proper⟩
      · exact listed
  | workdir live opens => exact opens.listed listed
  | path live opens => exact (opens.listed listed).add ((opens.proper listed).child _)
  | testDir live opens => exact (opens.listed listed).add ((opens.proper listed).child _)
  | track live => exact listed.add (Path.proper_ofText _)
  | teardown live => exact listed_pass host listed
  | leave live =>
      have passed := listed_pass host listed
      exact ⟨passed.workdir, passed.nodup, passed.proper⟩
  | _ => exact ⟨listed.workdir, listed.nodup, listed.proper⟩

theorem listed_after (host : Host) (ops : List Operation) (listed : Listed s.scratch) :
    Listed (after host s ops).scratch := by
  induction ops generalizing s with
  | nil => exact listed
  | cons op ops ih => exact ih ((effect host op s).listed listed)

/-! ## Who handles signals -/

/-- The scratch space handles the signals when it is entered, and otherwise the given handlers do,
which it puts back when it is left. -/
structure Handled (outer : Signal → Handler) (inside : Bool) (s : Session) : Prop where
  handler : s.handler = if inside then fun _ => .scratch else outer
  saved : s.scratch.saved =
    if inside then Signal.all.map fun signal => (signal, outer signal) else []

theorem within_concat (ops : List Operation) (op : Operation) :
    within (ops ++ [op]) = match op with
      | .enter => true
      | .leave => false
      | _ => within ops := by
  unfold within
  rw [List.foldl_append]
  rfl

theorem not_within {ops : List Operation} (never : ∀ op ∈ ops, op.isEnter = false) :
    within ops = false := by
  induction ops using List.reverseRecOn with
  | nil => rfl
  | append_singleton ops op ih =>
      have before := ih fun other member => never other (List.mem_append_left _ member)
      have last := never op (List.mem_append_right _ List.mem_cons_self)
      rw [within_concat]
      cases op with
      | enter => cases last
      | leave => rfl
      | _ => exact before

theorem pass_handlers (host : Host) (s : Session) :
    (Run.pass host s).2.handler = s.handler ∧
      (Run.pass host s).2.scratch.saved = s.scratch.saved := by
  rw [pass_eq]
  exact ⟨rfl, rfl⟩

theorem Opens.handlers {w : Path} (opens : Opens host s w t) :
    t.handler = s.handler ∧ t.scratch.saved = s.scratch.saved := by
  cases opens with
  | present _ => exact ⟨rfl, rfl⟩
  | made absent proper made => exact ⟨rfl, add_saved _ _⟩

theorem handler_givenBack {outer : Signal → Handler} {inside : Bool}
    (handled : Handled outer inside s) : Handled outer false (Run.givenBack s) := by
  refine ⟨?_, rfl⟩
  funext signal
  change (s.scratch.saved.lookup signal).getD (s.handler signal) = outer signal
  rw [handled.handler, handled.saved]
  cases inside with
  | false => rfl
  | true => cases signal <;> rfl

theorem Handled.congr {outer : Signal → Handler} {inside : Bool} (handled : Handled outer inside s)
    (same : t.handler = s.handler ∧ t.scratch.saved = s.scratch.saved) : Handled outer inside t :=
  ⟨same.1.trans handled.handler, same.2.trans handled.saved⟩

/-- Only entering and leaving change who handles signals. -/
theorem Effect.handlers (effect : Effect host s op result t) (notEnter : op ≠ .enter)
    (notLeave : op ≠ .leave) : t.handler = s.handler ∧ t.scratch.saved = s.scratch.saved := by
  cases effect with
  | enter => exact absurd rfl notEnter
  | workdir live opens => exact opens.handlers
  | path live opens => exact ⟨opens.handlers.1, (add_saved _ _).trans opens.handlers.2⟩
  | testDir live opens => exact ⟨opens.handlers.1, (add_saved _ _).trans opens.handlers.2⟩
  | track live => exact ⟨rfl, add_saved _ _⟩
  | teardown live => exact pass_handlers host s
  | left torn => exact absurd rfl notLeave
  | leave live => exact absurd rfl notLeave
  | _ => exact ⟨rfl, rfl⟩

theorem Effect.handled_leave {outer : Signal → Handler} {inside : Bool}
    (effect : Effect host s .leave result t) (handled : Handled outer inside s) :
    Handled outer false t := by
  cases effect with
  | refused known _ => cases known
  | unmade known _ _ => cases known
  | left torn => exact handler_givenBack handled
  | leave live => exact handler_givenBack (handled.congr (pass_handlers host s))

theorem handled_taken {outer : Signal → Handler} (handled : Handled outer false s)
    (settings : s.scratch.handlesSignals = true ∧ s.scratch.mainThread = true) :
    Handled outer true (Run.taken s) := by
  unfold Run.taken
  rw [settings.1, settings.2]
  refine ⟨rfl, ?_⟩
  change Signal.all.map (fun signal => (signal, s.handler signal)) = _
  rw [handled.handler]
  rfl

section Fresh

variable (host : Host) (disk : Disk) (base : Option Path) (stem : Text) (outer : Signal → Handler)

theorem settings_after (ops : List Operation) :
    let s := after host (unused disk base stem outer) ops
    s.scratch.handlesSignals = true ∧ s.scratch.mainThread = true := by
  have kept := (keeps_after host (unused disk base stem outer) ops).settings
  exact ⟨kept.1, kept.2⟩

theorem after_concat (s : Session) (ops : List Operation) (op : Operation) :
    after host s (ops ++ [op]) = (from_ (op.perform host) (after host s ops)).2 := by
  rw [after_append]
  rfl

/-- A scratch space that is entered and not left handles the signals. -/
theorem handler_of_within {ops : List Operation} (inside : within ops = true) (signal : Signal) :
    (after host (unused disk base stem outer) ops).handler signal = .scratch := by
  induction ops using List.reverseRecOn with
  | nil => cases inside
  | append_singleton ops op ih =>
      rw [within_concat] at inside
      rw [after_concat]
      have done := effect host op (after host (unused disk base stem outer) ops)
      cases op with
      | enter =>
          have settings := settings_after host disk base stem outer ops
          rw [Operation.perform, Run.from_map, Run.from_takeSignals, Run.taken, settings.1,
            settings.2]
          rfl
      | leave => cases inside
      | _ =>
          rw [(done.handlers Operation.noConfusion Operation.noConfusion).1]
          exact ih inside

/-- Who handles signals after operations, with the scratch space entered at most once. -/
theorem handled_after {ops : List Operation} (once : ops.countP Operation.isEnter ≤ 1) :
    Handled outer (within ops) (after host (unused disk base stem outer) ops) := by
  induction ops using List.reverseRecOn with
  | nil => exact ⟨rfl, rfl⟩
  | append_singleton ops op ih =>
      rw [List.countP_append] at once
      have before := ih (by omega)
      rw [within_concat, after_concat]
      have done := effect host op (after host (unused disk base stem outer) ops)
      cases op with
      | enter =>
          have never : ∀ other ∈ ops, other.isEnter = false := by
            have none : ops.countP Operation.isEnter = 0 := by
              have one : [Operation.enter].countP Operation.isEnter = 1 := rfl
              omega
            simpa using List.countP_eq_zero.mp none
          rw [not_within never] at before
          rw [Operation.perform, Run.from_map, Run.from_takeSignals]
          exact handled_taken before (settings_after host disk base stem outer ops)
      | leave => exact done.handled_leave before
      | _ => exact before.congr (done.handlers Operation.noConfusion Operation.noConfusion)

end Fresh

/-! ## What operations do to the disk -/

theorem Opens.disk {w : Path} (opens : Opens host s w t) :
    (s.scratch.workdir = some w ∧ t = s) ∨
      (s.scratch.workdir = none ∧ t.scratch.workdir = some w ∧
        s.disk.makeDirectory host.cwd w Run.workdirMode = .ok t.disk) := by
  cases opens with
  | present found => exact .inl ⟨found, rfl⟩
  | made absent proper made => exact .inr ⟨absent, add_workdir _ _, made⟩

/-- The operation found a working directory or none and left it so, or it made one. -/
inductive Makes (host : Host) (op : Operation) (s t : Session) : Prop where
  | none : t.scratch.workdir = s.scratch.workdir →
      t.disk = op.onDisk host s.scratch.workdir s.disk → Makes host op s t
  | one {w : Path} {disk : Disk} : s.scratch.workdir = Option.none → t.scratch.workdir = some w →
      s.disk.makeDirectory host.cwd w Run.workdirMode = .ok disk →
      t.disk = op.onDisk host (some w) disk → Makes host op s t

theorem Opens.makes {w : Path} (opens : Opens host s w t)
    (workdir : u.scratch.workdir = t.scratch.workdir)
    (disk : u.disk = op.onDisk host (some w) t.disk) : Makes host op s u := by
  rcases opens.disk with ⟨present, rfl⟩ | ⟨absent, present, made⟩
  · refine .none workdir ?_
    rw [present]
    exact disk
  · exact .one absent (workdir.trans present) made disk

theorem Effect.makes (effect : Effect host s op result t) (stays : op.removes = false)
    (live : s.scratch.tornDown = false) : Makes host op s t := by
  cases effect with
  | enter =>
      have same : (Run.taken s).disk = s.disk ∧
          (Run.taken s).scratch.workdir = s.scratch.workdir := by
        unfold Run.taken
        split
        · exact ⟨rfl, rfl⟩
        · exact ⟨rfl, rfl⟩
      exact .none same.2 same.1
  | refused known torn => exact (not_live torn live).elim
  | unmade known _ absent =>
      refine .none rfl ?_
      rw [absent]
      cases op with
      | meanwhile change => cases known
      | _ => rfl
  | workdir live opens => exact opens.makes rfl rfl
  | path live opens => exact opens.makes (add_workdir _ _) rfl
  | testDir live opens => exact opens.makes (add_workdir _ _) rfl
  | track live => exact .none (add_workdir _ _) rfl
  | tornDown torn => cases stays
  | teardown live => cases stays
  | left torn => cases stays
  | leave live => cases stays
  | signal => exact .none rfl rfl
  | meanwhile => exact .none rfl rfl

/-- Once the removal has begun, operations leave the disk as it is. -/
theorem Effect.disk_torn (effect : Effect host s op result t) (torn : s.scratch.tornDown = true) :
    t.disk = op.onDisk host none s.disk := by
  cases effect with
  | enter =>
      unfold Run.taken
      split
      · rfl
      · rfl
  | refused known _ =>
      cases op with
      | meanwhile change => cases known
      | _ => rfl
  | unmade | workdir | path | testDir | track | teardown | leave =>
      exact (not_live torn (by assumption)).elim
  | _ => rfl

/-- Once the removal has begun, no path is handed out. -/
theorem from_perform_of_torn (host : Host) (torn : s.scratch.tornDown = true)
    (known : op.handsOut = true) : from_ (op.perform host) s = (.error .released, s) := by
  rcases ended : from_ (op.perform host) s with ⟨result, t⟩
  have done : Effect host s op result t := by
    have listed := effect host op s
    rwa [ended] at listed
  cases done with
  | refused _ _ => rfl
  | unmade | workdir | path | testDir | track => exact (not_live torn (by assumption)).elim
  | _ => cases known

/-! ## The removal -/

/-- What is left once the given paths were tried, with the signals that came meanwhile. -/
structure Tries (host : Host) (paths : List Path) (s t : Session) : Prop where
  tornDown : t.scratch.tornDown = true
  disk : t.disk = (tried host paths (torn s)).disk
  failures : t.scratch.failures = (tried host paths (torn s)).scratch.failures
  received : t.scratch.received =
    (signalsDuring host paths (torn s)).getLast?.or s.scratch.received

/-- What a removal of the tracked paths does, the last one first. -/
structure Sweeps (host : Host) (s : Session) (result : Except Fault Answer) (t : Session) :
    Prop where
  /-- Paths that can all be named are all tried; each is then gone, or blamed in a message. -/
  whole : (∀ path ∈ s.scratch.tracked, Disk.misnamed? path = none) →
    (∃ answer, result = .ok answer) ∧ Tries host s.scratch.tracked.reverse s t ∧
      ∀ path ∈ s.scratch.tracked, t.disk.Absent host.cwd path ∨ t.scratch.Blames path
  /-- A path that cannot be named is the last one that is tried. -/
  cut : ∀ before bad later fault, s.scratch.tracked = before ++ bad :: later →
    (∀ path ∈ later, Disk.misnamed? path = none) → Disk.misnamed? bad = some fault →
    result = .error (.file fault) ∧ Tries host (later.reverse ++ [bad]) s t

/-- Tearing down and leaving make a pass over the tracked paths. -/
theorem Effect.passed (effect : Effect host s op result t) (removes : op.removes = true)
    (live : s.scratch.tornDown = false) :
    (∃ answer : Answer, result = (Run.pass host s).1.map fun _ => answer) ∧
      t.disk = (Run.pass host s).2.disk ∧
      t.scratch.tornDown = (Run.pass host s).2.scratch.tornDown ∧
      t.scratch.failures = (Run.pass host s).2.scratch.failures ∧
      t.scratch.received = (Run.pass host s).2.scratch.received := by
  cases effect with
  | teardown _ => exact ⟨⟨_, rfl⟩, rfl, rfl, rfl, rfl⟩
  | leave _ => exact ⟨⟨_, rfl⟩, rfl, rfl, rfl, rfl⟩
  | refused _ torn => exact (not_live torn live).elim
  | tornDown torn => exact (not_live torn live).elim
  | left torn => exact (not_live torn live).elim
  | unmade known _ _ => cases op <;> cases removes <;> cases known
  | _ => cases removes

/-- A pass that tried the given paths and came to that, in a scratch space that handles signals. -/
theorem tries_of_pass {paths : List Path} (settled : (torn s).Settled)
    (ended : (Run.pass host s).2 = tried host paths (torn s))
    (same : t.disk = (Run.pass host s).2.disk ∧
      t.scratch.tornDown = (Run.pass host s).2.scratch.tornDown ∧
      t.scratch.failures = (Run.pass host s).2.scratch.failures ∧
      t.scratch.received = (Run.pass host s).2.scratch.received) : Tries host paths s t := by
  obtain ⟨disk, tornDown, failures, received⟩ := same
  refine ⟨?_, ?_, ?_, ?_⟩
  · rw [tornDown, pass_eq]
  · rw [disk, ended]
  · rw [failures, ended]
  · rw [received, ended]
    exact Run.received_tried host paths settled

theorem Effect.sweeps (effect : Effect host s op result t) (removes : op.removes = true)
    (live : s.scratch.tornDown = false) (handles : ∀ signal, s.handler signal = .scratch)
    (listed : Listed s.scratch) : Sweeps host s result t := by
  obtain ⟨⟨answer, outcome⟩, same⟩ := effect.passed removes live
  have settled : (torn s).Settled := ⟨handles, rfl⟩
  constructor
  · intro named
    have namedBack : ∀ path ∈ s.scratch.tracked.reverse, Disk.misnamed? path = none := by
      intro path member
      exact named path (List.mem_reverse.mp member)
    have ended : Run.pass host s = (.ok (), tried host s.scratch.tracked.reverse (torn s)) :=
      Run.from_pass_of_named host settled namedBack
    have tries := tries_of_pass settled (congrArg Prod.snd ended) same
    rw [ended] at outcome
    refine ⟨⟨answer, outcome⟩, tries, ?_⟩
    obtain ⟨u, passed, dealt⟩ := Run.pass_settled host settled namedBack
      fun path member => listed.proper path (List.mem_reverse.mp member)
    have reached : (Run.pass host s).2 = u := congrArg Prod.snd passed
    intro path member
    rcases dealt path (List.mem_reverse.mpr member) with absent | ⟨error, noted⟩
    · left
      rw [same.1, reached]
      exact absent
    · right
      refine ⟨error, ?_⟩
      rw [same.2.2.1, reached]
      exact noted
  · intro before bad later fault split named unnamed
    have reversed : s.scratch.tracked.reverse = later.reverse ++ bad :: before.reverse := by
      simp [split]
    have namedBack : ∀ path ∈ later.reverse, Disk.misnamed? path = none := by
      intro path member
      exact named path (List.mem_reverse.mp member)
    have ended : Run.pass host s =
        (.error (.file fault), tried host (later.reverse ++ [bad]) (torn s)) := by
      unfold Run.pass
      rw [reversed]
      exact Run.from_pass_of_misnamed host settled namedBack unnamed
    have tries := tries_of_pass settled (congrArg Prod.snd ended) same
    rw [ended] at outcome
    exact ⟨outcome, tries⟩

/-! ## The whole life -/

/-- What is true of a scratch space after operations, and of an operation that follows. -/
structure Governed (host : Host) (start : Session) (ops : List Operation) (s : Session) :
    Prop where
  /-- The working directory is tracked, and there is no other one later. -/
  workdir : ∀ w, s.scratch.workdir = some w →
    w ∈ s.scratch.tracked ∧
      ∀ more, (after host start (ops ++ more)).scratch.workdir = some w
  /-- A working directory is made only when there is none, and nothing else is made but the
  directory that was asked for. -/
  makes : ∀ op, op.removes = false → s.scratch.tornDown = false →
    Makes host op s (after host start (ops ++ [op]))
  nodup : s.scratch.tracked.Nodup
  grows : ∀ more, s.scratch.tracked <+: (after host start (ops ++ more)).scratch.tracked
  /-- Once the removal has begun there is no other one, the tracked paths and the failures stay,
  and no operation changes the disk. -/
  once : s.scratch.tornDown = true → ∀ more,
    let t := after host start (ops ++ more)
    t.scratch.tornDown = true ∧ t.scratch.tracked = s.scratch.tracked ∧
      t.scratch.failures = s.scratch.failures ∧
      t.treeRemovals = s.treeRemovals ∧ t.fileRemovals = s.fileRemovals
  still : s.scratch.tornDown = true → ∀ op,
    (after host start (ops ++ [op])).disk = op.onDisk host none s.disk
  again : s.scratch.tornDown = true → from_ (Run.teardown host) s = (.ok s.scratch.failures, s)
  refuses : s.scratch.tornDown = true → ∀ op : Operation, op.handsOut = true →
    from_ (op.perform host) s = (.error .released, s)
  /-- Inside, a signal stops what is being done unless the removal has begun; it is noted in
  either case. -/
  signals : within ops = true → ∀ signal, ∃ log,
    from_ (Run.receive signal) s =
      (if s.scratch.tornDown then .ok () else .error (.interrupted signal.name),
        { s with log, scratch := { s.scratch with received := some signal } })
  /-- Inside, signals do not stop the removal. -/
  sweeps : within ops = true → s.scratch.tornDown = false → ∀ op : Operation, op.removes = true →
    Sweeps host s (from_ (op.perform host) s).1 (after host start (ops ++ [op]))
  /-- Outside, the signals are handled as they were before. -/
  handlers : ops.countP Operation.isEnter ≤ 1 → within ops = false → s.handler = start.handler

/-- A scratch space is governed by the same rules after any operations, with signals between them
and during the removal. -/
theorem governed_after (host : Host) (disk : Disk) (base : Option Path) (stem : Text)
    (outer : Signal → Handler) (ops : List Operation) :
    let start := unused disk base stem outer
    Governed host start ops (after host start ops) := by
  intro start
  have listed : Listed (after host start ops).scratch :=
    listed_after host ops ⟨by simp [start, unused, Session.start, fresh], by
      simp [start, unused, Session.start, fresh], by
      simp [start, unused, Session.start, fresh]⟩
  have keeps (more : List Operation) :
      Keeps (after host start ops) (after host start (ops ++ more)) := by
    rw [after_append]
    exact keeps_after host _ more
  have handles (inside : within ops = true) (signal : Signal) :
      (after host start ops).handler signal = .scratch :=
    handler_of_within host disk base stem outer inside signal
  constructor
  · intro w present
    exact ⟨listed.workdir w present, fun more => (keeps more).workdir w present⟩
  · intro op stays live
    rw [after_concat]
    exact (effect host op _).makes stays live
  · exact listed.nodup
  · intro more
    exact (keeps more).tracked
  · intro torn more
    exact (keeps more).tornDown torn
  · intro torn op
    rw [after_concat]
    exact (effect host op _).disk_torn torn
  · intro torn
    exact from_teardown_again torn
  · intro torn op known
    exact from_perform_of_torn host torn known
  · intro inside signal
    rw [Run.from_receive, handles inside]
    cases (after host start ops).scratch.tornDown with
    | true => exact ⟨_, rfl⟩
    | false => exact ⟨_, rfl⟩
  · intro inside live op removes
    rw [after_concat]
    exact (effect host op _).sweeps removes live (handles inside) listed
  · intro once outside
    have handled := handled_after host disk base stem outer once
    rw [outside] at handled
    exact handled.handler

end StageParity.Scratch
