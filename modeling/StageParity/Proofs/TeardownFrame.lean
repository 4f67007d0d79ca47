import StageParity.Proofs.Escalation
import StageParity.Proofs.Teardown

/-!
# What a teardown removes and what it leaves

A pass over the tracked paths that comes to its end has dealt with each of them: no entry bears the
path any more, or the refusal was noted. It takes away nothing but entries at or below the tracked
paths, as they led at the start (`Disk.Under`): a path that leads somewhere later in the pass has
led there from the start. A symbolic link is an entry of its own, so what it leads to is not below
it and stays unless another tracked path covers it.
-/

namespace StageParity

open Relation (ReflTransGen)

/-- A location at or below the entry that one of the paths bears. -/
def Disk.Under (d : Disk) (cwd : Location) (paths : List Path) (spot : Location) : Prop :=
  ∃ path ∈ paths, ∃ place entry,
    d.locate cwd .entry path = .ok (.found place entry) ∧ place <+: spot

/-- Steps of a removal change nothing but entries at or below the paths. -/
theorem Removing.under_of_changed {host : Host} {paths : List Path} {s t : Session}
    (steps : ReflTransGen (Removing host paths) s t) {spot : Location}
    (changed : t.disk.get? spot ≠ s.disk.get? spot) : s.disk.Under host.cwd paths spot := by
  induction steps with
  | refl => exact absurd rfl changed
  | @tail u t steps step ih =>
      cases step with
      | note => exact ih changed
      | fail _ => exact ih changed
      | @clear path disk known cleared =>
          by_cases early : u.disk.get? spot = s.disk.get? spot
          · rw [← early] at changed
            obtain ⟨place, entry, found, inside⟩ := cleared.only spot changed
            -- What the path leads to now, it led to before the pass.
            rcases Disk.locate_eq_or_absent (Removing.sheds steps) with same | absent
            · exact ⟨path, known, place, entry, same.symm.trans found, inside⟩
            · exact absurd absent (Disk.not_absent_of_found found)
          · exact ih early

namespace Run

variable {host : Host} {path : Path} {s t : Session}

theorem failures_remove (host : Host) (path : Path) (s : Session) :
    (from_ (remove host path) s).2.scratch.failures = s.scratch.failures := by
  rcases from_remove host path s with ⟨error, -, ended⟩ | ⟨-, ended⟩ | ended
  · rw [ended]
  · rw [ended]
    obtain ⟨received, log, cases⟩ := from_removeTree host path s
    rcases cases with ⟨-, fault, -, done⟩ | ⟨error, done⟩ | done
    all_goals rw [done]
  · rw [ended]
    obtain ⟨received, log, cases⟩ := from_removeFile host path s
    rcases cases with ⟨-, fault, -, done⟩ | ⟨fault, -, done⟩ |
      ⟨-, ⟨error, done⟩ | ⟨disk, -, done⟩ | ⟨-, done⟩⟩
    all_goals rw [done]

/-- A removal that does not stop the pass leaves nothing under the path, or one more note. -/
theorem dealt_of_removeNoting (proper : path.Proper)
    (ended : from_ (removeNoting host path) s = (.ok (), t)) :
    (t.disk.Absent host.cwd path ∧ t.scratch.failures = s.scratch.failures) ∨
      ∃ error, t.scratch.failures = s.scratch.failures ++ [path.blame error] := by
  have kept := failures_remove host path s
  rw [from_removeNoting] at ended
  rcases removed : from_ (remove host path) s with ⟨fault | done, u⟩
  · rw [removed] at ended kept
    split at ended
    · rename_i same
      cases same
    · rename_i error v same
      cases same
      cases ended
      exact .inr ⟨error, congrArg (· ++ [path.blame error]) kept⟩
    · cases ended
  · rw [removed] at ended kept
    cases ended
    exact .inl ⟨absent_of_remove proper removed, kept⟩

/-- A pass that comes to its end has dealt with every path, and its notes are about the paths. -/
theorem dealt_of_pass {paths : List Path} (proper : ∀ path ∈ paths, path.Proper)
    (ended : from_ (paths.forM (removeNoting host)) s = (.ok (), t)) :
    ∃ notes, t.scratch.failures = s.scratch.failures ++ notes ∧
      (∀ path ∈ paths, t.disk.Absent host.cwd path ∨ ∃ error, path.blame error ∈ notes) ∧
      ∀ note ∈ notes, ∃ path ∈ paths, ∃ error, note = path.blame error := by
  induction paths generalizing s with
  | nil =>
      cases ended
      exact ⟨[], (List.append_nil _).symm, by simp, by simp⟩
  | cons path paths ih =>
      obtain ⟨⟨⟩, u, head, rest⟩ := from_bind_eq_ok ended
      obtain ⟨notes, failures, dealt, about⟩ := ih (fun other member =>
        proper other (List.mem_cons_of_mem path member)) rest
      have later := removing_pass host paths u
      rw [rest] at later
      rcases dealt_of_removeNoting (proper path List.mem_cons_self) head with
        ⟨absent, same⟩ | ⟨error, noted⟩
      · refine ⟨notes, failures.trans (congrArg (· ++ notes) same), ?_, ?_⟩
        · intro other member
          rcases List.mem_cons.mp member with rfl | member
          · exact .inl (absent.of_sheds (Removing.sheds later))
          · exact dealt other member
        · intro note member
          obtain ⟨other, known, error, text⟩ := about note member
          exact ⟨other, List.mem_cons_of_mem path known, error, text⟩
      · refine ⟨path.blame error :: notes, ?_, ?_, ?_⟩
        · rw [failures, noted, List.append_assoc]
          rfl
        · intro other member
          rcases List.mem_cons.mp member with rfl | member
          · exact .inr ⟨error, List.mem_cons_self⟩
          · refine (dealt other member).imp_right ?_
            rintro ⟨error, there⟩
            exact ⟨error, List.mem_cons_of_mem _ there⟩
        · intro note member
          rcases List.mem_cons.mp member with rfl | member
          · exact ⟨path, List.mem_cons_self, error, rfl⟩
          · obtain ⟨other, known, error, text⟩ := about note member
            exact ⟨other, List.mem_cons_of_mem path known, error, text⟩

/-- A teardown that comes to its end made a whole pass over the tracked paths. -/
theorem pass_of_teardown {failures : List Text} (live : s.scratch.tornDown = false)
    (ended : from_ (teardown host) s = (.ok failures, t)) :
    ∃ u, from_ (s.scratch.tracked.reverse.forM (removeNoting host)) (torn s) = (.ok (), u) ∧
      t.disk = u.disk ∧ t.scratch = u.scratch ∧ failures = u.scratch.failures := by
  obtain ⟨log, done⟩ := from_teardown host live
  rw [done] at ended
  rcases passed : pass host s with ⟨fault | finished, u⟩
  · rw [passed] at ended
    cases ended
  · rw [passed] at ended
    cases ended
    exact ⟨u, passed, rfl, rfl, rfl⟩

/-- A teardown with the signals handled comes to its end when the tracked paths can be named. -/
theorem teardown_ends (host : Host) (live : s.scratch.tornDown = false)
    (handles : ∀ signal, s.handler signal = .scratch)
    (named : ∀ path ∈ s.scratch.tracked, Disk.misnamed? path = none)
    (proper : ∀ path ∈ s.scratch.tracked, path.Proper) :
    ∃ failures t, from_ (teardown host) s = (.ok failures, t) := by
  have settled : (torn s).Settled := ⟨handles, rfl⟩
  obtain ⟨u, passed, -⟩ := pass_settled host settled
    (fun path member => named path (List.mem_reverse.mp member))
    fun path member => proper path (List.mem_reverse.mp member)
  obtain ⟨log, done⟩ := from_teardown host live
  rw [show pass host s = (.ok (), u) from passed] at done
  exact ⟨_, _, done⟩

/-- A teardown that came to its end has dealt with every tracked path: no entry bears it, or one of
the new messages names it, and these name nothing else. -/
theorem dealt_of_teardown {failures : List Text} (live : s.scratch.tornDown = false)
    (proper : ∀ path ∈ s.scratch.tracked, path.Proper)
    (ended : from_ (teardown host) s = (.ok failures, t)) :
    ∃ notes, failures = s.scratch.failures ++ notes ∧ t.scratch.failures = failures ∧
      (∀ path ∈ s.scratch.tracked,
        t.disk.Absent host.cwd path ∨ ∃ error, path.blame error ∈ notes) ∧
      ∀ note ∈ notes, ∃ path ∈ s.scratch.tracked, ∃ error, note = path.blame error := by
  obtain ⟨u, passed, disk, scratch, given⟩ := pass_of_teardown live ended
  obtain ⟨notes, all, dealt, about⟩ := dealt_of_pass (fun path member =>
    proper path (List.mem_reverse.mp member)) passed
  rw [given, scratch, disk]
  exact ⟨notes, all, rfl, fun path member => dealt path (List.mem_reverse.mpr member),
    fun note member => by simpa using about note member⟩

/-- A teardown that came to its end left every entry as it was, or took it away from at or below a
tracked path. -/
theorem frame_of_teardown {failures : List Text} (live : s.scratch.tornDown = false)
    (ended : from_ (teardown host) s = (.ok failures, t)) (spot : Location) :
    t.disk.get? spot = s.disk.get? spot ∨
      t.disk.get? spot = none ∧ s.disk.Under host.cwd s.scratch.tracked spot := by
  obtain ⟨u, passed, disk, -⟩ := pass_of_teardown live ended
  have steps : ReflTransGen (Removing host s.scratch.tracked) (torn s) u := by
    have reversed := removing_pass host s.scratch.tracked.reverse (torn s)
    rw [passed] at reversed
    exact Removing.mono reversed fun path member => List.mem_reverse.mp member
  rw [disk]
  by_cases same : u.disk.get? spot = s.disk.get? spot
  · exact .inl same
  · refine .inr ⟨?_, Removing.under_of_changed steps same⟩
    exact (Removing.sheds steps spot).resolve_left same

/-- **Teardown is complete and touches nothing else.** It comes to its end when the signals are
handled and the tracked paths can be named. Whenever it does, whatever the disk, the tracked paths
and what happened in between: no entry bears a tracked path, or one of the new messages names it,
and these name nothing else; every entry is as before, unless it is at or below a tracked path and
gone; and what a symbolic link at or below a tracked path leads to is there as before, unless it is
itself at or below one. -/
theorem teardown_sweeps (host : Host) (live : s.scratch.tornDown = false)
    (proper : ∀ path ∈ s.scratch.tracked, path.Proper) :
    ((∀ signal, s.handler signal = .scratch) →
      (∀ path ∈ s.scratch.tracked, Disk.misnamed? path = none) →
      ∃ failures t, from_ (teardown host) s = (.ok failures, t)) ∧
    ∀ failures t, from_ (teardown host) s = (.ok failures, t) →
      (∃ notes, failures = s.scratch.failures ++ notes ∧ t.scratch.failures = failures ∧
        (∀ path ∈ s.scratch.tracked,
          t.disk.Absent host.cwd path ∨ ∃ error, path.blame error ∈ notes) ∧
        ∀ note ∈ notes, ∃ path ∈ s.scratch.tracked, ∃ error, note = path.blame error) ∧
      (∀ spot, t.disk.get? spot = s.disk.get? spot ∨
        t.disk.get? spot = none ∧ s.disk.Under host.cwd s.scratch.tracked spot) ∧
      ∀ (directory : Location) (name target : Text) (place : Location) (entry : Entry),
        s.disk.get? (directory ++ [name]) = some (.link target) →
        s.disk.Under host.cwd s.scratch.tracked (directory ++ [name]) →
        s.disk.walk .target Disk.maxLinks directory [name] = .ok (.found place entry) →
        ¬ s.disk.Under host.cwd s.scratch.tracked place →
        t.disk.get? place = some entry := by
  refine ⟨fun handles named => teardown_ends host live handles named proper, ?_⟩
  intro failures t ended
  have framed := frame_of_teardown live ended
  refine ⟨dealt_of_teardown live proper ended, framed, ?_⟩
  intro directory name target place entry _ _ leads apart
  have there := (Disk.leads_of_walk leads).get?_of_found
  rcases framed place with same | ⟨-, under⟩
  · rw [same, there]
  · exact absurd under apart

/-- A session that tracks a directory with a file and a link in it, the file again, a link to a
directory, and a path with nothing there. -/
def linked : Session :=
  { Session.start
      ⟨[(["w"], .directory 0o755), (["w", "f"], .file 0o644 [1]), (["w", "l"], .link "/keep"),
        (["s"], .link "/keep"), (["keep"], .directory 0o755), (["keep", "x"], .file 0o644 [2])]⟩
      { Scratch.fresh none true with
        tracked := [Path.ofText "/w", Path.ofText "/s", Path.ofText "/w/f", Path.ofText "/none"] }
    with handler := fun _ => .scratch }

/-- The directory that the links lead to. -/
def aside : Location := ["keep"]

theorem mem_tracked_linked {path : Path} (member : path ∈ linked.scratch.tracked) :
    path = Path.ofText "/w" ∨ path = Path.ofText "/s" ∨ path = Path.ofText "/w/f" ∨
      path = Path.ofText "/none" := by
  rcases List.mem_cons.mp member with same | member
  · exact .inl same
  · exact .inr (by simpa using member)

theorem proper_linked : ∀ path ∈ linked.scratch.tracked, path.Proper := by
  intro path member
  rcases mem_tracked_linked member with rfl | rfl | rfl | rfl
  all_goals exact Path.proper_ofText _

theorem not_under_linked {spot : Location} (below : aside <+: spot) :
    ¬ linked.disk.Under [] linked.scratch.tracked spot := by
  rintro ⟨path, member, place, entry, found, inside⟩
  have apart : ¬ aside <+: place ∧ ¬ place <+: aside := by
    rcases mem_tracked_linked member with rfl | rfl | rfl | rfl
    all_goals cases found
    all_goals decide
  rcases List.prefix_or_prefix_of_prefix below inside with lower | upper
  · exact apart.1 lower
  · exact apart.2 upper

theorem teardown_sweeps_linked :
    let host := Host.always Child.quick
    ∃ failures t, from_ (teardown host) linked = (.ok failures, t) ∧
      (∀ path ∈ linked.scratch.tracked, t.disk.Absent host.cwd path ∨ t.scratch.Blames path) ∧
      t.disk.get? aside = some (.directory 0o755) ∧
      t.disk.get? ["keep", "x"] = some (.file 0o644 [2]) := by
  intro host
  obtain ⟨ends, sweeps⟩ := teardown_sweeps (s := linked) host rfl proper_linked
  obtain ⟨failures, t, ended⟩ := ends (fun _ => rfl) (by decide +kernel)
  obtain ⟨⟨notes, all, same, dealt, -⟩, framed, targets⟩ := sweeps failures t ended
  refine ⟨failures, t, ended, ?_, ?_, ?_⟩
  · intro path member
    refine (dealt path member).imp_right ?_
    rintro ⟨error, noted⟩
    refine ⟨error, ?_⟩
    rw [same, all]
    exact List.mem_append_right _ noted
  · exact targets ["w"] "l" "/keep" aside (.directory 0o755) rfl
      ⟨Path.ofText "/w", List.mem_cons_self, ["w"], .directory 0o755, rfl, ⟨["l"], rfl⟩⟩ rfl
      (not_under_linked (List.prefix_refl _))
  · rcases framed ["keep", "x"] with unchanged | ⟨-, under⟩
    · exact unchanged
    · exact absurd under (not_under_linked ⟨["x"], rfl⟩)

end Run

end StageParity
