import StageParity.Proofs.Removal
import StageParity.Proofs.StageDeeds

/-!
# Removing the temporary files

What the removal of the tracked paths does, one thing at a time (`Removing`), and what a
whole pass over them comes to. With the signals taken over, a pass goes on to the end unless
it meets a path that cannot be named.
-/

namespace StageParity

open Relation (ReflTransGen)

/-- The note on a path whose removal the operating system refused. -/
def Path.blame (path : Path) (error : OsError) : Text :=
  "Failed to remove " ++ path.text ++ ": " ++ error.message

/-- One thing that happens while the given paths are removed. -/
inductive Removing (host : Host) (paths : List Path) (s : Session) : Session → Prop where
  | note {log : List Record} {treeRemovals fileRemovals : Nat} {received : Option Signal} :
      Removing host paths s
        { s with log, treeRemovals, fileRemovals, scratch := { s.scratch with received } }
  | clear {path : Path} {disk : Disk} :
      path ∈ paths → Disk.Clears host.cwd path s.disk disk → Removing host paths s { s with disk }
  | fail {path : Path} {error : OsError} {log : List Record} :
      path ∈ paths →
      Removing host paths s
        { s with
          log
          scratch := { s.scratch with failures := s.scratch.failures ++ [path.blame error] } }

/-- Whether signals can only be noted: the run handles them, and its temporary files are
being removed. -/
structure Session.Settled (s : Session) : Prop where
  handles : ∀ signal, s.handler signal = .scratch
  tornDown : s.scratch.tornDown = true

/-- Whether a failed removal of a path was noted. -/
def Scratch.Blames (s : Scratch) (path : Path) : Prop := ∃ error, path.blame error ∈ s.failures

namespace Removing

variable {host : Host} {paths : List Path} {s t : Session}

/-- A removal changes the disk, the log, the counts, the failures and the signal that came;
everything else stays. -/
theorem frame (steps : ReflTransGen (Removing host paths) s t) :
    t = { s with
      disk := t.disk
      log := t.log
      treeRemovals := t.treeRemovals
      fileRemovals := t.fileRemovals
      scratch := { s.scratch with
        failures := t.scratch.failures
        received := t.scratch.received } } := by
  induction steps with
  | refl => rfl
  | tail _ step ih =>
      cases step with
      | note => rw [ih]
      | clear _ _ => rw [ih]
      | fail _ => rw [ih]

theorem sheds (steps : ReflTransGen (Removing host paths) s t) : s.disk.Sheds t.disk := by
  induction steps with
  | refl => exact Disk.Sheds.refl s.disk
  | tail _ step ih =>
      cases step with
      | note => exact ih
      | clear _ cleared => exact ih.trans cleared.sheds
      | fail _ => exact ih

/-- What was noted stays noted, and what is new is about the paths. -/
theorem mem_failures (steps : ReflTransGen (Removing host paths) s t) (message : Text) :
    (message ∈ s.scratch.failures → message ∈ t.scratch.failures) ∧
      (message ∈ t.scratch.failures →
        message ∈ s.scratch.failures ∨ ∃ path ∈ paths, ∃ error, message = path.blame error) := by
  induction steps with
  | refl => exact ⟨id, .inl⟩
  | tail _ step ih =>
      cases step with
      | note => exact ih
      | clear _ _ => exact ih
      | @fail path error log known =>
          refine ⟨fun member => List.mem_append_left _ (ih.1 member), fun member => ?_⟩
          rcases List.mem_append.mp member with before | new
          · exact ih.2 before
          · exact .inr ⟨path, known, error, List.mem_singleton.mp new⟩

theorem mono {more : List Path} (steps : ReflTransGen (Removing host paths) s t)
    (wider : ∀ path ∈ paths, path ∈ more) : ReflTransGen (Removing host more) s t := by
  refine ReflTransGen.mono (fun u v step => ?_) _ _ steps
  cases step with
  | note => exact .note
  | clear known cleared => exact .clear (wider _ known) cleared
  | fail known => exact .fail (wider _ known)

theorem settled (steps : ReflTransGen (Removing host paths) s t) (before : s.Settled) :
    t.Settled := by
  rw [frame steps]
  exact ⟨before.handles, before.tornDown⟩

end Removing

namespace Run

variable {host : Host} {path : Path} {s t : Session}

/-- A signal that arrives is noted. Only a run that is not settled can be stopped by it. -/
theorem from_receive_noted (signal : Signal) (s : Session) :
    ∃ result received log,
      from_ (receive signal) s =
          (result, { s with scratch := { s.scratch with received }, log }) ∧
        ∀ fault, result = .error fault → ¬ s.Settled ∧ fault.Interrupts := by
  rw [from_receive]
  cases handled : s.handler signal with
  | outer =>
      refine ⟨_, s.scratch.received, s.log, rfl, ?_⟩
      rintro _ ⟨⟩
      refine ⟨fun settled => ?_, trivial⟩
      rw [settled.handles] at handled
      cases handled
  | scratch =>
      dsimp only
      split
      · exact ⟨_, _, _, rfl, nofun⟩
      · rename_i live
        refine ⟨_, _, _, rfl, ?_⟩
        rintro _ ⟨⟩
        exact ⟨fun settled => absurd settled.tornDown live, trivial⟩

theorem from_receiveAll (signals : List Signal) (s : Session) :
    ∃ result received log,
      from_ (receiveAll signals) s =
          (result, { s with scratch := { s.scratch with received }, log }) ∧
        ∀ fault, result = .error fault → ¬ s.Settled ∧ fault.Interrupts := by
  induction signals generalizing s with
  | nil => exact ⟨.ok (), s.scratch.received, s.log, rfl, nofun⟩
  | cons signal signals ih =>
      change ∃ result received log,
        from_ (receive signal >>= fun _ => receiveAll signals) s = _ ∧ _
      obtain ⟨result, received, log, one, stops⟩ := from_receive_noted signal s
      cases result with
      | error fault =>
          refine ⟨_, received, log, from_bind_error one _, ?_⟩
          rintro _ ⟨⟩
          exact stops fault rfl
      | ok done =>
          obtain ⟨result, received', log', ended, later⟩ :=
            ih { s with scratch := { s.scratch with received }, log }
          refine ⟨result, received', log', (from_bind_ok one _).trans ended, fun fault stopped => ?_⟩
          obtain ⟨unsettled, interrupts⟩ := later fault stopped
          exact ⟨fun settled => unsettled ⟨settled.handles, settled.tornDown⟩, interrupts⟩

/-- The removal of a tree: signals can stop a run that is not settled, the host can refuse,
and otherwise the disk tells. -/
theorem from_removeTree (host : Host) (path : Path) (s : Session) :
    ∃ received log,
      let u := { s with
        treeRemovals := s.treeRemovals + 1
        scratch := { s.scratch with received }
        log }
      (¬ s.Settled ∧ ∃ fault, fault.Interrupts ∧
          from_ (removeTree host path) s = (.error fault, u)) ∨
        (∃ error, from_ (removeTree host path) s = (.error (.file (.os error)), u)) ∨
        from_ (removeTree host path) s =
          (match (s.disk.removeTree host.cwd path).2 with
            | none => .ok ()
            | some fault => .error (.file fault),
            { u with disk := (s.disk.removeTree host.cwd path).1 }) := by
  unfold removeTree
  rw [from_get_bind, from_modify_bind]
  obtain ⟨result, received, log, ended, stops⟩ :=
    from_receiveAll (host.removal true s.treeRemovals).signals
      { s with treeRemovals := s.treeRemovals + 1 }
  refine ⟨received, log, ?_⟩
  cases result with
  | error fault =>
      obtain ⟨unsettled, interrupts⟩ := stops fault rfl
      refine .inl ⟨fun settled => ?_, fault, interrupts, from_bind_error ended _⟩
      exact unsettled ⟨settled.handles, settled.tornDown⟩
  | ok done =>
      rw [from_bind_ok ended]
      cases (host.removal true s.treeRemovals).refusal with
      | some errno => exact .inr (.inl ⟨_, rfl⟩)
      | none => exact .inr (.inr (from_changePartly _ _))

/-- The removal of a file or a link: a path that cannot be named is refused, and otherwise
the host or the disk can refuse. A file that is missing will do. -/
theorem from_removeFile (host : Host) (path : Path) (s : Session) :
    ∃ received log,
      let u := { s with
        fileRemovals := s.fileRemovals + 1
        scratch := { s.scratch with received }
        log }
      (¬ s.Settled ∧ ∃ fault, fault.Interrupts ∧
          from_ (removeFile host path) s = (.error fault, u)) ∨
        (∃ fault, Disk.misnamed? path = some fault ∧
          from_ (removeFile host path) s = (.error (.file fault), u)) ∨
        Disk.misnamed? path = none ∧
          ((∃ error, from_ (removeFile host path) s = (.error (.file (.os error)), u)) ∨
            (∃ disk, s.disk.unlink host.cwd path = .ok disk ∧
              from_ (removeFile host path) s = (.ok (), { u with disk })) ∨
            (s.disk.Absent host.cwd path ∧ from_ (removeFile host path) s = (.ok (), u))) := by
  unfold removeFile
  rw [from_get_bind, from_modify_bind]
  obtain ⟨result, received, log, ended, stops⟩ :=
    from_receiveAll (host.removal false s.fileRemovals).signals
      { s with fileRemovals := s.fileRemovals + 1 }
  refine ⟨received, log, ?_⟩
  cases result with
  | error fault =>
      obtain ⟨unsettled, interrupts⟩ := stops fault rfl
      refine .inl ⟨fun settled => ?_, fault, interrupts, from_bind_error ended _⟩
      exact unsettled ⟨settled.handles, settled.tornDown⟩
  | ok done =>
      rw [from_bind_ok ended]
      cases named : Disk.misnamed? path with
      | some fault => exact .inr (.inl ⟨fault, rfl, rfl⟩)
      | none =>
          refine .inr (.inr ⟨rfl, ?_⟩)
          cases (host.removal false s.fileRemovals).refusal with
          | some errno => exact .inl ⟨_, rfl⟩
          | none =>
              dsimp only
              rw [from_get_bind]
              cases removed : s.disk.unlink host.cwd path with
              | ok disk => exact .inr (.inl ⟨disk, rfl, rfl⟩)
              | error fault =>
                  dsimp only
                  cases missing : Disk.isMissing fault with
                  | true => exact .inr (.inr ⟨Disk.absent_of_unlink_error removed missing, rfl⟩)
                  | false =>
                      obtain ⟨errno, rfl⟩ := Disk.refuse_of_unlink_error named removed
                      exact .inl ⟨_, rfl⟩

/-- Removing what a path leads to is removing a tree, a file or a link, unless the operating
system will not tell which. A path that cannot be named counts as a file. -/
theorem from_remove (host : Host) (path : Path) (s : Session) :
    (∃ error, Disk.misnamed? path = none ∧
        from_ (remove host path) s = (.error (.file (.os error)), s)) ∨
      (Disk.misnamed? path = none ∧ from_ (remove host path) s = from_ (removeTree host path) s) ∨
      from_ (remove host path) s = from_ (removeFile host path) s := by
  unfold remove
  cases named : Disk.misnamed? path with
  | some fault =>
      have isFile : s.disk.isDirectory host.cwd path = .ok false := by
        unfold Disk.isDirectory Disk.testAt Disk.entryAt
        rw [Disk.locate_of_misnamed named]
        simp only [(Disk.not_os_of_misnamed named).1, if_true]
      rw [from_bind_ok (from_ask_ok isFile)]
      exact .inr (.inr rfl)
  | none =>
      cases tree : s.disk.isDirectory host.cwd path with
      | error fault =>
          rw [from_bind_error (from_ask_error tree)]
          obtain ⟨error, rfl⟩ := Disk.os_of_testAt named tree
          exact .inl ⟨error, rfl, rfl⟩
      | ok isTree =>
          rw [from_bind_ok (from_ask_ok tree)]
          cases isTree with
          | false => exact .inr (.inr rfl)
          | true =>
              rw [if_pos rfl]
              cases link : s.disk.isLink host.cwd path with
              | error fault =>
                  rw [from_bind_error (from_ask_error link)]
                  obtain ⟨error, rfl⟩ := Disk.os_of_testAt named link
                  exact .inl ⟨error, rfl, rfl⟩
              | ok isLink =>
                  rw [from_bind_ok (from_ask_ok link)]
                  cases isLink with
                  | true => exact .inr (.inr rfl)
                  | false => exact .inr (.inl ⟨rfl, rfl⟩)

theorem removing_remove (host : Host) (path : Path) (s : Session) :
    ReflTransGen (Removing host [path]) s (from_ (remove host path) s).2 := by
  rcases from_remove host path s with ⟨error, -, ended⟩ | ⟨-, ended⟩ | ended
  · rw [ended]
  · rw [ended]
    obtain ⟨received, log, cases⟩ := from_removeTree host path s
    have noted : ReflTransGen (Removing host [path]) s
        { s with
          treeRemovals := s.treeRemovals + 1
          scratch := { s.scratch with received }
          log } := .single .note
    rcases cases with ⟨-, fault, -, stopped⟩ | ⟨error, stopped⟩ | done
    · rw [stopped]
      exact noted
    · rw [stopped]
      exact noted
    · rw [done]
      exact .tail noted (.clear List.mem_cons_self (Disk.clears_removeTree s.disk host.cwd path))
  · rw [ended]
    obtain ⟨received, log, cases⟩ := from_removeFile host path s
    have noted : ReflTransGen (Removing host [path]) s
        { s with
          fileRemovals := s.fileRemovals + 1
          scratch := { s.scratch with received }
          log } := .single .note
    rcases cases with ⟨-, fault, -, stopped⟩ | ⟨fault, -, stopped⟩ |
      ⟨-, ⟨error, stopped⟩ | ⟨disk, removed, done⟩ | ⟨-, done⟩⟩
    · rw [stopped]
      exact noted
    · rw [stopped]
      exact noted
    · rw [stopped]
      exact noted
    · rw [done]
      exact .tail noted (.clear List.mem_cons_self (Disk.clears_unlink removed))
    · rw [done]
      exact noted

/-- A removal that ends well leaves nothing under the path. -/
theorem absent_of_remove (proper : path.Proper)
    (ended : from_ (remove host path) s = (.ok (), t)) : t.disk.Absent host.cwd path := by
  rcases from_remove host path s with ⟨error, -, same⟩ | ⟨-, same⟩ | same
  · cases same.symm.trans ended
  · obtain ⟨received, log, cases⟩ := from_removeTree host path s
    rw [same] at ended
    rcases cases with ⟨-, fault, -, stopped⟩ | ⟨error, stopped⟩ | done
    · cases stopped.symm.trans ended
    · cases stopped.symm.trans ended
    · rw [done] at ended
      cases refused : (s.disk.removeTree host.cwd path).2 with
      | some fault =>
          rw [refused] at ended
          cases ended
      | none =>
          rw [refused] at ended
          cases ended
          exact Disk.absent_removeTree proper refused
  · obtain ⟨received, log, cases⟩ := from_removeFile host path s
    rw [same] at ended
    rcases cases with ⟨-, fault, -, stopped⟩ | ⟨fault, -, stopped⟩ |
      ⟨-, ⟨error, stopped⟩ | ⟨disk, removed, done⟩ | ⟨absent, done⟩⟩
    · cases stopped.symm.trans ended
    · cases stopped.symm.trans ended
    · cases stopped.symm.trans ended
    · cases done.symm.trans ended
      exact Disk.absent_unlink removed
    · cases done.symm.trans ended
      exact absent

/-- A run that is not settled can be stopped at a removal. Apart from that, a removal is refused only
by the operating system, or because the path cannot be named. -/
theorem fault_of_remove {fault : Fault}
    (stopped : from_ (remove host path) s = (.error fault, t)) :
    (¬ s.Settled ∧ fault.Interrupts) ∨
      (Disk.misnamed? path = none ∧ ∃ error, fault = .file (.os error)) ∨
      ∃ other, Disk.misnamed? path = some other ∧ fault = .file other := by
  rcases from_remove host path s with ⟨error, named, same⟩ | ⟨named, same⟩ | same
  · cases same.symm.trans stopped
    exact .inr (.inl ⟨named, error, rfl⟩)
  · obtain ⟨received, log, cases⟩ := from_removeTree host path s
    rw [same] at stopped
    rcases cases with ⟨unsettled, other, interrupts, done⟩ | ⟨error, done⟩ | done
    · cases done.symm.trans stopped
      exact .inl ⟨unsettled, interrupts⟩
    · cases done.symm.trans stopped
      exact .inr (.inl ⟨named, error, rfl⟩)
    · rw [done] at stopped
      cases refused : (s.disk.removeTree host.cwd path).2 with
      | none =>
          rw [refused] at stopped
          cases stopped
      | some other =>
          rw [refused] at stopped
          cases stopped
          obtain ⟨error, rfl⟩ := Disk.os_of_removeTree named refused
          exact .inr (.inl ⟨named, error, rfl⟩)
  · obtain ⟨received, log, cases⟩ := from_removeFile host path s
    rw [same] at stopped
    rcases cases with ⟨unsettled, other, interrupts, done⟩ | ⟨other, unnamed, done⟩ |
      ⟨named, ⟨error, done⟩ | ⟨disk, removed, done⟩ | ⟨absent, done⟩⟩
    · cases done.symm.trans stopped
      exact .inl ⟨unsettled, interrupts⟩
    · cases done.symm.trans stopped
      exact .inr (.inr ⟨other, unnamed, rfl⟩)
    · cases done.symm.trans stopped
      exact .inr (.inl ⟨named, error, rfl⟩)
    · cases done.symm.trans stopped
    · cases done.symm.trans stopped

/-- A path that cannot be named is not taken for a directory. -/
theorem from_remove_of_misnamed {fault : FileFault} (host : Host) (s : Session)
    (unnamed : Disk.misnamed? path = some fault) :
    from_ (remove host path) s = from_ (removeFile host path) s := by
  rcases from_remove host path s with ⟨error, named, -⟩ | ⟨named, -⟩ | same
  · cases named.symm.trans unnamed
  · cases named.symm.trans unnamed
  · exact same

theorem remove_of_misnamed {fault : FileFault} (host : Host) (settled : s.Settled)
    (unnamed : Disk.misnamed? path = some fault) :
    ∃ t, from_ (remove host path) s = (.error (.file fault), t) ∧
      ReflTransGen (Removing host []) s t := by
  obtain ⟨received, log, cases⟩ := from_removeFile host path s
  rw [from_remove_of_misnamed host s unnamed]
  rcases cases with ⟨unsettled, -⟩ | ⟨other, unnamed', done⟩ | ⟨named, -⟩
  · exact absurd settled unsettled
  · cases unnamed.symm.trans unnamed'
    exact ⟨_, done, .single .note⟩
  · cases named.symm.trans unnamed

/-! ## Noting refusals -/

/-- The state with a refusal of the operating system noted. -/
def blaming (s : Session) (path : Path) (error : OsError) : Session :=
  { s with
    log := s.log ++ [⟨.warning, path.blame error⟩]
    scratch := { s.scratch with failures := s.scratch.failures ++ [path.blame error] } }

theorem from_removeNoting (host : Host) (path : Path) (s : Session) :
    from_ (removeNoting host path) s =
      match from_ (remove host path) s with
      | (.ok (), t) => (.ok (), t)
      | (.error (.file (.os error)), t) => (.ok (), blaming t path error)
      | (.error fault, t) => (.error fault, t) := by
  unfold removeNoting
  rw [from_bind_ok (from_attempt _ s)]
  rcases from_ (remove host path) s with ⟨fault | done, t⟩
  · cases fault with
    | file inner => cases inner <;> rfl
    | _ => rfl
  · rfl

theorem removing_removeNoting (host : Host) (path : Path) (s : Session) :
    ReflTransGen (Removing host [path]) s (from_ (removeNoting host path) s).2 := by
  have removed := removing_remove host path s
  rw [from_removeNoting]
  generalize from_ (remove host path) s = outcome at removed ⊢
  rcases outcome with ⟨fault | done, t⟩
  · cases fault with
    | file inner =>
        cases inner with
        | os error => exact .tail removed (.fail List.mem_cons_self)
        | _ => exact removed
    | _ => exact removed
  · exact removed

/-- A path that can be named is gone after a settled run removed it, or the refusal was
noted. -/
theorem removeNoting_settled (host : Host) (settled : s.Settled)
    (named : Disk.misnamed? path = none) (proper : path.Proper) :
    ∃ t, from_ (removeNoting host path) s = (.ok (), t) ∧
      (t.disk.Absent host.cwd path ∨ t.scratch.Blames path) := by
  rw [from_removeNoting]
  rcases ended : from_ (remove host path) s with ⟨fault | done, t⟩
  · rcases fault_of_remove ended with ⟨unsettled, -⟩ | ⟨-, error, rfl⟩ | ⟨other, unnamed, -⟩
    · exact absurd settled unsettled
    · exact ⟨blaming t path error, rfl, .inr ⟨error, List.mem_append_right _ List.mem_cons_self⟩⟩
    · cases named.symm.trans unnamed
  · exact ⟨t, rfl, .inl (absent_of_remove proper ended)⟩

theorem removeNoting_of_misnamed {fault : FileFault} (host : Host) (settled : s.Settled)
    (unnamed : Disk.misnamed? path = some fault) :
    ∃ t, from_ (removeNoting host path) s = (.error (.file fault), t) ∧
      ReflTransGen (Removing host []) s t := by
  obtain ⟨t, stopped, steps⟩ := remove_of_misnamed host settled unnamed
  refine ⟨t, ?_, steps⟩
  rw [from_removeNoting, stopped]
  cases fault with
  | os error => exact absurd rfl ((Disk.not_os_of_misnamed unnamed).2 error)
  | _ => rfl

/-! ## A pass over paths -/

theorem removing_pass (host : Host) (paths : List Path) (s : Session) :
    ReflTransGen (Removing host paths) s (from_ (paths.forM (removeNoting host)) s).2 := by
  induction paths generalizing s with
  | nil => exact .refl
  | cons path paths ih =>
      have first : ReflTransGen (Removing host (path :: paths)) s
          (from_ (removeNoting host path) s).2 :=
        Removing.mono (removing_removeNoting host path s) (by simp)
      change ReflTransGen (Removing host (path :: paths)) s
        (from_ (removeNoting host path >>= fun _ => paths.forM (removeNoting host)) s).2
      rcases ended : from_ (removeNoting host path) s with ⟨fault | done, t⟩
      · rw [ended] at first
        rw [from_bind_error ended]
        exact first
      · rw [ended] at first
        rw [from_bind_ok ended]
        exact first.trans (Removing.mono (ih t) fun other member => List.mem_cons_of_mem path member)

theorem fault_of_removeNoting {fault : Fault}
    (stopped : from_ (removeNoting host path) s = (.error fault, t)) :
    (¬ s.Settled ∧ fault.Interrupts) ∨
      ∃ other, Disk.misnamed? path = some other ∧ fault = .file other := by
  rw [from_removeNoting] at stopped
  rcases removed : from_ (remove host path) s with ⟨refusal | done, u⟩
  · rw [removed] at stopped
    rcases fault_of_remove removed with ⟨unsettled, interrupts⟩ | ⟨-, error, rfl⟩ |
      ⟨other, unnamed, rfl⟩
    · cases refusal with
      | interrupted label =>
          cases stopped
          exact .inl ⟨unsettled, trivial⟩
      | _ => cases interrupts
    · cases stopped
    · cases other with
      | os error => cases stopped
      | _ =>
          cases stopped
          exact .inr ⟨_, unnamed, rfl⟩
  · rw [removed] at stopped
    cases stopped

/-- Only a path that cannot be named stops a pass, unless the run is not settled. -/
theorem fault_of_pass {paths : List Path} {fault : Fault}
    (stopped : (from_ (paths.forM (removeNoting host)) s).1 = .error fault) :
    (¬ s.Settled ∧ fault.Interrupts) ∨
      ∃ path ∈ paths, ∃ other, Disk.misnamed? path = some other ∧ fault = .file other := by
  induction paths generalizing s with
  | nil => cases stopped
  | cons path paths ih =>
      have first := removing_removeNoting host path s
      change (from_ (removeNoting host path >>= fun _ => paths.forM (removeNoting host)) s).1 = _
        at stopped
      rw [from_bind] at stopped
      rcases ended : from_ (removeNoting host path) s with ⟨refusal | done, u⟩
      · rw [ended] at stopped
        cases stopped
        exact (fault_of_removeNoting ended).imp_right fun unnamed =>
          ⟨path, List.mem_cons_self, unnamed⟩
      · rw [ended] at stopped first
        refine (ih stopped).imp (And.imp_left fun unsettled settled => ?_) ?_
        · exact unsettled (Removing.settled first settled)
        · exact fun ⟨other, member, unnamed⟩ => ⟨other, List.mem_cons_of_mem path member, unnamed⟩

/-- No signal stops a pass of a settled run. -/
theorem file_of_pass {paths : List Path} {fault : Fault} (settled : s.Settled)
    (stopped : (from_ (paths.forM (removeNoting host)) s).1 = .error fault) :
    ∃ other, fault = .file other := by
  rcases fault_of_pass stopped with ⟨unsettled, -⟩ | ⟨path, -, other, -, same⟩
  · exact absurd settled unsettled
  · exact ⟨other, same⟩

/-- What was dealt with stays dealt with. -/
theorem dealt_of_removing {paths : List Path} (steps : ReflTransGen (Removing host paths) s t)
    (dealt : s.disk.Absent host.cwd path ∨ s.scratch.Blames path) :
    t.disk.Absent host.cwd path ∨ t.scratch.Blames path := by
  refine dealt.imp (fun absent => absent.of_sheds (Removing.sheds steps)) ?_
  rintro ⟨error, noted⟩
  exact ⟨error, (Removing.mem_failures steps _).1 noted⟩

/-- A pass of a settled run over paths that can be named ends well, and each path is then gone
or a refusal was noted for it. -/
theorem pass_settled (host : Host) {paths : List Path} (settled : s.Settled)
    (named : ∀ path ∈ paths, Disk.misnamed? path = none) (proper : ∀ path ∈ paths, path.Proper) :
    ∃ t, from_ (paths.forM (removeNoting host)) s = (.ok (), t) ∧
      ∀ path ∈ paths, t.disk.Absent host.cwd path ∨ t.scratch.Blames path := by
  induction paths generalizing s with
  | nil => exact ⟨s, rfl, nofun⟩
  | cons path paths ih =>
      obtain ⟨u, ended, dealt⟩ := removeNoting_settled host settled
        (named path List.mem_cons_self) (proper path List.mem_cons_self)
      have first := removing_removeNoting host path s
      rw [ended] at first
      obtain ⟨t, done, rest⟩ := ih (Removing.settled first settled)
        (fun other member => named other (List.mem_cons_of_mem path member))
        fun other member => proper other (List.mem_cons_of_mem path member)
      have second := removing_pass host paths u
      rw [done] at second
      refine ⟨t, (from_bind_ok ended _).trans done, fun other member => ?_⟩
      rcases List.mem_cons.mp member with rfl | later
      · exact dealt_of_removing second dealt
      · exact rest other later

/-- A pass of a settled run stops at the first path that cannot be named. The paths before
it were dealt with, those after it are not looked at. -/
theorem pass_of_misnamed (host : Host) {paths : List Path} (later : List Path) {bad : Path}
    {fault : FileFault} (settled : s.Settled)
    (named : ∀ path ∈ paths, Disk.misnamed? path = none) (proper : ∀ path ∈ paths, path.Proper)
    (unnamed : Disk.misnamed? bad = some fault) :
    ∃ t, from_ ((paths ++ bad :: later).forM (removeNoting host)) s = (.error (.file fault), t) ∧
      ReflTransGen (Removing host paths) s t ∧
      ∀ path ∈ paths, t.disk.Absent host.cwd path ∨ t.scratch.Blames path := by
  obtain ⟨u, ended, dealt⟩ := pass_settled host settled named proper
  have first := removing_pass host paths s
  rw [ended] at first
  obtain ⟨t, stopped, last⟩ :=
    removeNoting_of_misnamed host (Removing.settled first settled) unnamed
  refine ⟨t, ?_, first.trans (Removing.mono last nofun), fun path member =>
    dealt_of_removing last (dealt path member)⟩
  have split : (paths ++ bad :: later).forM (removeNoting host) =
      paths.forM (removeNoting host) >>= fun _ => (bad :: later).forM (removeNoting host) :=
    List.forM_append
  rw [split, from_bind_ok ended]
  exact from_bind_error stopped _

/-! ## The end of the scratch space -/

/-- The state once the removal has begun. -/
def torn (s : Session) : Session := { s with scratch := { s.scratch with tornDown := true } }

/-- The state with the signals given back. -/
def givenBack (s : Session) : Session :=
  { s with
    handler := fun signal => (s.scratch.saved.lookup signal).getD (s.handler signal)
    scratch := { s.scratch with saved := [] } }

/-- A pass over the tracked paths, the last one first. -/
def pass (host : Host) (s : Session) : Except Fault Unit × Session :=
  from_ (s.scratch.tracked.reverse.forM (removeNoting host)) (torn s)

theorem from_teardown (host : Host) (live : s.scratch.tornDown = false) :
    ∃ log, from_ (teardown host) s =
      ((pass host s).1.map fun _ => (pass host s).2.scratch.failures,
        { (pass host s).2 with log }) := by
  have begun : from_ (teardown host) s = from_ (do
      s.scratch.tracked.reverse.forM (removeNoting host)
      let scratch := (← get).scratch
      if scratch.acquired then
        log .info ("Removed " ++ Text.ofNat scratch.tracked.length ++ " temporary path(s)")
      return scratch.failures) (torn s) := by
    unfold teardown
    rw [from_get_bind]
    simp only [live, Bool.false_eq_true, if_false]
    rfl
  rw [begun]
  rcases ended : pass host s with ⟨fault | done, t⟩
  · exact ⟨t.log, from_bind_error ended _⟩
  · rw [from_bind_ok ended, from_get_bind]
    dsimp only
    cases t.scratch.acquired with
    | true => exact ⟨_, rfl⟩
    | false => exact ⟨t.log, rfl⟩

/-- At its end the scratch space makes one pass over the tracked paths and gives the signals
back. -/
theorem from_leave (host : Host) (live : s.scratch.tornDown = false) :
    ∃ log, from_ (leave host) s = ((pass host s).1, givenBack { (pass host s).2 with log }) := by
  obtain ⟨log, ended⟩ := from_teardown host live
  refine ⟨log, ?_⟩
  unfold leave
  rw [from_thenAlways, from_bind, ended]
  cases (pass host s).1 with
  | error fault => rfl
  | ok done => rfl

end Run

end StageParity
