import StageParity.Proofs.Cleanup
import StageParity.Proofs.Protocol

/-!
# What a run does while nothing is refused

`Advance` tells, one thing at a time, what the stages of a run do as long as nothing is refused
them: which file they write, which directory they make, which command they start. They lead from
a calm state to a calm one, unless the wait for a command was cut short on the way.
-/

namespace StageParity

open Relation (ReflTransGen)

/-! ## The files of a run -/

namespace Project

/-- The directory of the checks in a working directory. -/
def checksDir (project : Project) (w : Path) : Path := w.child project.layout.testDirName

/-- The log of what a stage wrote in a check, in a working directory. -/
def checkLog (project : Project) (w : Path) (kind : CheckKind) (stage : Stage) : Path :=
  (project.checksDir w).child (kind.logName stage)

/-- The files that a run writes itself, in a working directory. -/
inductive Writes (project : Project) (w : Path) : Path → Prop where
  | buildLog (stage : Stage) : Writes project w (w.child (buildLogName stage))
  | compiler (stage : Stage) : Writes project w (project.compiler w stage)
  | checkLog (kind : CheckKind) (stage : Stage) : Writes project w (project.checkLog w kind stage)

/-- The files that a run marks as programs, in a working directory. -/
inductive Marks (project : Project) (w : Path) : Path → Prop where
  | compiler (stage : Stage) : Marks project w (project.compiler w stage)
  | sample (stage : Stage) : Marks project w (project.compiledSample w stage)

end Project

/-! ## Advances -/

/-- The signal that the run has heard last, once the wait for a command was cut short. -/
def Session.hearing (s : Session) : Cut → Option Signal
  | .stop _ _ => s.scratch.received
  | .signal signal =>
    match s.handler signal with
    | .outer => s.scratch.received
    | .scratch => some signal

/-- One thing that the stages of a run do while nothing is refused. -/
inductive Advance (host : Host) (project : Project) (s : Session) : Session → Prop where
  | say {log : List Record} {console : Text} {commandEvents : List CommandEvent}
      {checkEvents : List CheckEvent} :
      Advance host project s { s with log, console, commandEvents, checkEvents }
  | makeWorkdir {w : Path} {disk : Disk} :
      s.scratch.workdir = none → s.disk.makeDirectory host.cwd w Run.workdirMode = .ok disk →
      Advance host project s
        { s with disk, scratch := Scratch.add { s.scratch with workdir := some w } w }
  | handOut {w : Path} {name : Text} :
      s.scratch.workdir = some w → Disk.misnamed? (w.child name) = none →
      Advance host project s { s with scratch := s.scratch.add (w.child name) }
  | write {w path : Path} {data : List UInt8} {disk : Disk} :
      s.scratch.workdir = some w → project.Writes w path →
      s.disk.writeFile host.cwd path data = .ok disk → Advance host project s { s with disk }
  | mark {w path : Path} {bits : Nat} {disk : Disk} :
      s.scratch.workdir = some w → project.Marks w path →
      s.disk.addMode host.cwd path bits = .ok disk → Advance host project s { s with disk }
  | makeChecksDir {w : Path} {disk : Disk} :
      s.scratch.workdir = some w →
      s.disk.makeDirectories host.cwd (project.checksDir w).names.length (project.checksDir w) =
        (disk, none) →
      Advance host project s { s with disk, testDir := some (project.checksDir w) }
  | launch {invocation : Invocation} {sent : List StopSignal} :
      (∀ reason, Launch.ending host s.launches.length ⟨invocation, s.disk, sent⟩ ≠ .cut reason) →
      Advance host project s (Run.launched host s invocation sent)
  | cut {invocation : Invocation} {sent : List StopSignal} {reason : Cut} :
      ¬ s.WasCut host →
      Launch.ending host s.launches.length ⟨invocation, s.disk, sent⟩ = .cut reason →
      Advance host project s
        { Run.launched host s invocation sent with
          scratch := { s.scratch with received := s.hearing reason } }
  | keepSamples {samples : Both (Option Path)} : Advance host project s { s with samples }
  | record {report : Report} : Advance host project s { s with report }

/-- A run that goes on: its temporary files are there, its working directory can be named, the
directory of the checks is in it, and no wait was cut short. -/
structure Session.Calm (host : Host) (project : Project) (s : Session) : Prop where
  live : s.scratch.tornDown = false
  uncut : ¬ s.WasCut host
  named : ∀ w, s.scratch.workdir = some w → Disk.misnamed? w = none
  inside : s.TestDirInside project

/-- The second state can come later in a run: commands stay started, and a working directory stays
the one. -/
structure Session.Precedes (s t : Session) : Prop where
  launches : s.launches <+: t.launches
  workdir : ∀ w, s.scratch.workdir = some w → t.scratch.workdir = some w

namespace Session.Precedes

variable {s t u : Session}

theorem refl (s : Session) : s.Precedes s := ⟨List.prefix_refl _, fun _ => id⟩

theorem trans (first : s.Precedes t) (second : t.Precedes u) : s.Precedes u :=
  ⟨first.launches.trans second.launches, fun w present => second.workdir w (first.workdir w present)⟩

/-- A run that was cut short was so ever after. -/
theorem wasCut {host : Host} (precedes : s.Precedes t) (cut : s.WasCut host) : t.WasCut host := by
  obtain ⟨reason, member⟩ := cut
  have earlier := endings_prefix host precedes.launches
  exact ⟨reason, earlier.subset member⟩

end Session.Precedes

namespace Advance

variable {host : Host} {project : Project} {s t : Session}

/-- What a run does keeps what it did before, and who hears signals. -/
theorem extends_ (step : Advance host project s t) : s.Precedes t ∧ t.handler = s.handler := by
  cases step with
  | makeWorkdir absent made =>
      refine ⟨⟨List.prefix_refl _, fun w present => ?_⟩, rfl⟩
      cases absent.symm.trans present
  | handOut present named =>
      refine ⟨⟨List.prefix_refl _, fun w same => ?_⟩, rfl⟩
      rw [Scratch.add_workdir]
      exact same
  | launch uncut => exact ⟨⟨List.prefix_append _ _, fun _ => id⟩, rfl⟩
  | cut uncut short => exact ⟨⟨List.prefix_append _ _, fun _ => id⟩, rfl⟩
  | _ => exact ⟨⟨List.prefix_refl _, fun _ => id⟩, rfl⟩

theorem extends_of_advances (advances : ReflTransGen (Advance host project) s t) :
    s.Precedes t ∧ t.handler = s.handler := by
  induction advances with
  | refl => exact ⟨.refl s, rfl⟩
  | tail _ step ih => exact ⟨ih.1.trans step.extends_.1, step.extends_.2.trans ih.2⟩

theorem calm_step (step : Advance host project s t) (calm : s.Calm host project)
    (uncut : ¬ t.WasCut host) : t.Calm host project := by
  have inside : t.testDir = s.testDir → t.TestDirInside project := by
    intro same directory present
    obtain ⟨w, workdir, child⟩ := calm.inside directory (same ▸ present)
    exact ⟨w, step.extends_.1.workdir w workdir, child⟩
  cases step with
  | @makeWorkdir w disk absent made =>
      refine ⟨by simpa using calm.live, uncut, fun v present => ?_, inside rfl⟩
      rw [Scratch.add_workdir] at present
      cases present
      obtain ⟨directory, name, free, -⟩ := Disk.makeDirectory_eq_ok made
      exact (Disk.locate_eq_ok_iff.mp free).1.named
  | handOut present named =>
      refine ⟨by simpa using calm.live, uncut, fun v same => ?_, inside rfl⟩
      rw [Scratch.add_workdir] at same
      exact calm.named v same
  | @makeChecksDir w disk present made =>
      refine ⟨calm.live, uncut, calm.named, fun directory same => ?_⟩
      exact ⟨w, present, (Option.some.inj same).symm⟩
  | _ => exact ⟨calm.live, uncut, calm.named, inside rfl⟩

/-- Advances lead from a calm state to a calm one, unless a wait was cut short. -/
theorem calm (advances : ReflTransGen (Advance host project) s t) (calm : s.Calm host project)
    (uncut : ¬ t.WasCut host) : t.Calm host project := by
  induction advances with
  | refl => exact calm
  | tail _ step ih => exact step.calm_step (ih fun cut => uncut (step.extends_.1.wasCut cut)) uncut

/-- All that a run has handed out can be named. -/
theorem named (advances : ReflTransGen (Advance host project) s t)
    (named : ∀ path ∈ s.scratch.tracked, Disk.misnamed? path = none) :
    ∀ path ∈ t.scratch.tracked, Disk.misnamed? path = none := by
  induction advances with
  | refl => exact named
  | tail _ step ih =>
      cases step with
      | @makeWorkdir w disk absent made =>
          intro path member
          rcases (Scratch.mem_add _ _ _).mp member with old | rfl
          · exact ih path old
          · obtain ⟨directory, name, free, -⟩ := Disk.makeDirectory_eq_ok made
            exact (Disk.locate_eq_ok_iff.mp free).1.named
      | handOut present usable =>
          intro path member
          rcases (Scratch.mem_add _ _ _).mp member with old | rfl
          · exact ih path old
          · exact usable
      | _ => exact ih

end Advance

end StageParity
