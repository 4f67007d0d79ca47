import StageParity.Pipeline
import StageParity.Proofs.Lookup
import StageParity.Proofs.Step

/-!
# What a run does

The things that the stages of a run do to its state, one at a time. `OwnDeed` holds what
the run does by itself to say something or to make its files, `Work` also the commands that
it starts and the signals that reach it, and `Deed` also what it keeps of the answers. Every
step of the stages is made of such deeds, so that what each deed preserves, the whole run
preserves.
-/

namespace StageParity

open Relation (ReflTransGen)

/-- The names under which a run hands out paths in its working directory. -/
def Project.scratchNames (project : Project) : List Text :=
  Stage.all.map buildLogName ++ Stage.all.map project.layout.stageName ++
    [project.layout.testDirName]

/-- The names of the files in the directory of the checks. -/
def checkFileNames : List Text :=
  CheckKind.order.flatMap (fun kind => Stage.all.map kind.logName) ++ Stage.all.map sampleName

/-- The paths that the run handed out, and those of the files of the checks. -/
def Session.Holds (s : Session) (path : Path) : Prop :=
  path ∈ s.scratch.tracked ∨
    ∃ directory, s.testDir = some directory ∧ ∃ name ∈ checkFileNames, path = directory.child name

/-- The ways in which a run changes what a path leads to. -/
inductive Disk.Touched (cwd : Location) (path : Path) (disk : Disk) : Disk → Prop where
  | written {data : List UInt8} {after : Disk} :
      disk.writeFile cwd path data = .ok after → Touched cwd path disk after
  | marked {bits : Nat} {after : Disk} :
      disk.addMode cwd path bits = .ok after → Touched cwd path disk after
  | made (depth : Nat) : Touched cwd path disk (disk.makeDirectories cwd depth path).1

/-- One thing that a run does itself. -/
inductive OwnDeed (host : Host) (project : Project) (s : Session) : Session → Prop where
  | say {log : List Record} {console : Text} {commandEvents : List CommandEvent}
      {checkEvents : List CheckEvent} :
      OwnDeed host project s { s with log, console, commandEvents, checkEvents }
  | makeWorkdir {w : Path} {disk : Disk} :
      s.scratch.tornDown = false → s.scratch.workdir = none → w.Proper →
      s.disk.makeDirectory host.cwd w Run.workdirMode = .ok disk →
      OwnDeed host project s
        { s with disk, scratch := Scratch.add { s.scratch with workdir := some w } w }
  | handOut {w : Path} {name : Text} :
      s.scratch.tornDown = false → s.scratch.workdir = some w → name ∈ project.scratchNames →
      OwnDeed host project s { s with scratch := s.scratch.add (w.child name) }
  | touch {path : Path} {disk : Disk} :
      s.Holds path → Disk.Touched host.cwd path s.disk disk → OwnDeed host project s { s with disk }
  | keepTestDir {w : Path} :
      s.scratch.workdir = some w → w.child project.layout.testDirName ∈ s.scratch.tracked →
      s.testDir = none →
      OwnDeed host project s { s with testDir := some (w.child project.layout.testDirName) }

/-- One thing that happens while a run builds or invokes something. -/
inductive Work (host : Host) (project : Project) (s : Session) : Session → Prop where
  | own {t : Session} : OwnDeed host project s t → Work host project s t
  | launch {invocation : Invocation} {cwd : Path} {sent : List StopSignal} :
      s.disk.resolve host.cwd project.root = .ok cwd → invocation.cwd = some cwd →
      Work host project s
        { s with
          disk := (host.react s.launches.length invocation s.disk).2
          launches := s.launches ++ [⟨invocation, s.disk, sent⟩] }
  | receive {received : Option Signal} :
      Work host project s { s with scratch := { s.scratch with received } }

/-- One thing that happens in the stages of a run. -/
inductive Deed (host : Host) (project : Project) (s : Session) : Session → Prop where
  | work {t : Session} : Work host project s t → Deed host project s t
  | keepSamples {samples : Both (Option Path)} : Deed host project s { s with samples }
  | record {report : Report} : Deed host project s { s with report }

/-- Whether a fault is a request to stop. -/
def Fault.Interrupts : Fault → Prop
  | .interrupted _ => True
  | _ => False

namespace Scratch

@[simp] theorem add_tornDown (s : Scratch) (path : Path) : (s.add path).tornDown = s.tornDown := by
  unfold add
  split <;> rfl

@[simp] theorem add_workdir (s : Scratch) (path : Path) : (s.add path).workdir = s.workdir := by
  unfold add
  split <;> rfl

@[simp] theorem add_received (s : Scratch) (path : Path) : (s.add path).received = s.received := by
  unfold add
  split <;> rfl

@[simp] theorem add_failures (s : Scratch) (path : Path) : (s.add path).failures = s.failures := by
  unfold add
  split <;> rfl

theorem mem_add (s : Scratch) (path other : Path) :
    other ∈ (s.add path).tracked ↔ other ∈ s.tracked ∨ other = path := by
  unfold add
  split
  · rename_i present
    have member : path ∈ s.tracked := by simpa using present
    exact ⟨.inl, fun either => either.elim id fun same => same ▸ member⟩
  · simp

end Scratch

namespace Deed

variable {host : Host} {project : Project} {s t : Session}

/-- What was handed out stays handed out. -/
theorem holds {path : Path} (deed : Deed host project s t) (held : s.Holds path) : t.Holds path := by
  rcases deed with (deed | ⟨resolved, place⟩ | _) | _ | _
  · cases deed with
    | say => exact held
    | makeWorkdir live none proper made =>
        exact held.imp_left fun member => (Scratch.mem_add _ _ _).mpr (.inl member)
    | handOut live some known =>
        exact held.imp_left fun member => (Scratch.mem_add _ _ _).mpr (.inl member)
    | touch owned touched => exact held
    | keepTestDir some member absent =>
        refine held.imp_right fun ⟨directory, present, _⟩ => ?_
        rw [absent] at present
        cases present
  all_goals exact held

theorem holds_of_deeds {path : Path} (deeds : ReflTransGen (Deed host project) s t)
    (held : s.Holds path) : t.Holds path := by
  induction deeds with
  | refl => exact held
  | tail _ deed ih => exact deed.holds ih

end Deed

end StageParity
