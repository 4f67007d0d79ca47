import StageParity.Proofs.Lookup

/-!
# Removing what paths lead to

A removal takes away entries at or below the place where its path leads, and nothing else
(`Disk.Clears`). When it ends well the path leads nowhere (`Disk.Absent`), and it stays so
whatever else is removed.
-/

namespace StageParity.Disk

variable {d after : Disk} {cwd : Location} {p : Path}

/-- No entry bears the path, not even a link that leads nowhere. -/
def Absent (d : Disk) (cwd : Location) (p : Path) : Prop :=
  d.entryAt cwd .entry p = .error (refuse .notFound p)

/-- The second disk is the first one without entries at or below the place of a path. -/
structure Clears (cwd : Location) (p : Path) (d after : Disk) : Prop where
  sheds : d.Sheds after
  only : ∀ spot, after.get? spot ≠ d.get? spot →
    ∃ place entry, d.locate cwd .entry p = .ok (.found place entry) ∧ place <+: spot

theorem Clears.refl : Clears cwd p d d := ⟨Sheds.refl d, fun _ changed => absurd rfl changed⟩

/-- A path that can be named is refused only by the operating system. -/
theorem refuse_of_locate_error {aim : Aim} {fault : FileFault} (named : misnamed? p = none)
    (failed : d.locate cwd aim p = .error fault) : ∃ errno, fault = refuse errno p := by
  unfold locate locateSteps at failed
  rw [named] at failed
  dsimp only at failed
  split at failed
  · cases failed
    exact ⟨.nameTooLong, rfl⟩
  · split at failed
    · cases failed
    · cases failed
      exact ⟨_, rfl⟩

theorem os_of_testAt {aim : Aim} {test : Entry → Bool} {fault : FileFault}
    (named : misnamed? p = none) (failed : d.testAt cwd aim p test = .error fault) :
    ∃ error, fault = .os error := by
  unfold testAt entryAt at failed
  rcases found : d.locate cwd aim p with other | (_ | _)
  · obtain ⟨errno, rfl⟩ := refuse_of_locate_error named found
    rw [found] at failed
    dsimp only at failed
    split at failed
    · cases failed
    · cases failed
      exact ⟨_, rfl⟩
  · rw [found] at failed
    cases failed
  · rw [found] at failed
    cases failed

theorem locate_of_misnamed {aim : Aim} {fault : FileFault} (unnamed : misnamed? p = some fault) :
    d.locate cwd aim p = .error fault := by
  unfold locate locateSteps
  rw [unnamed]

theorem notUnicode_of_unnameable {t : Text} {fault : FileFault} (found : unnameable? t = some fault) :
    ∃ start count code, fault = .notUnicode start count code := by
  unfold unnameable? at found
  dsimp only at found
  split at found <;> cases found
  exact ⟨_, _, _, rfl⟩

/-- A path that cannot be named is not refused by the operating system. -/
theorem not_os_of_misnamed {fault : FileFault} (unnamed : misnamed? p = some fault) :
    meansAbsent fault = true ∧ ∀ error, fault ≠ .os error := by
  unfold misnamed? at unnamed
  split at unnamed
  · rename_i other found
    cases unnamed
    obtain ⟨start, count, code, rfl⟩ := notUnicode_of_unnameable found
    exact ⟨rfl, nofun⟩
  · split at unnamed
    · cases unnamed
      exact ⟨rfl, nofun⟩
    · cases unnamed

theorem absent_of_locate_error {fault : FileFault} (failed : d.locate cwd .entry p = .error fault)
    (missing : isMissing fault = true) : d.Absent cwd p := by
  cases named : misnamed? p with
  | some other =>
      cases (locate_of_misnamed named).symm.trans failed
      cases fault with
      | os error => exact absurd rfl ((not_os_of_misnamed named).2 error)
      | nullByte => cases missing
      | linkLoop path => cases missing
      | notUnicode start count code => cases missing
  | none =>
      obtain ⟨errno, rfl⟩ := refuse_of_locate_error named failed
      have notFound : errno = .notFound := by simpa [isMissing, refuse, OsError.errno?] using missing
      subst notFound
      unfold Absent entryAt
      rw [failed]

theorem absent_of_vacant {directory : Location} {name : Text}
    (free : d.locate cwd .entry p = .ok (.vacant directory name)) : d.Absent cwd p := by
  unfold Absent entryAt
  rw [free]
  rfl

/-- When entries are gone, a path leads where it did or nowhere. -/
theorem locate_of_sheds {aim : Aim} (sheds : d.Sheds after) (wanted : aim ≠ .file) :
    after.locate cwd aim p = d.locate cwd aim p ∨
      (∃ directory name, after.locate cwd aim p = .ok (.vacant directory name)) ∨
      after.locate cwd aim p = .error (refuse .notFound p) := by
  unfold locate locateSteps
  cases misnamed? p with
  | some fault => exact .inl rfl
  | none =>
      dsimp only
      split
      · exact .inl rfl
      · rcases walk_of_sheds sheds wanted maxLinks (origin cwd p) (p.names ++ []) with
          same | lost | ⟨directory, name, free⟩
        · rw [same]
          exact .inl rfl
        · rw [lost]
          exact .inr (.inr rfl)
        · rw [free]
          exact .inr (.inl ⟨directory, name, rfl⟩)

theorem locate_eq_or_absent (sheds : d.Sheds after) :
    after.locate cwd .entry p = d.locate cwd .entry p ∨ after.Absent cwd p := by
  rcases locate_of_sheds sheds (by decide : Aim.entry ≠ .file) with same | ⟨_, _, free⟩ | lost
  · exact .inl same
  · exact .inr (absent_of_vacant free)
  · exact .inr (absent_of_locate_error lost rfl)

/-- What is absent stays absent. -/
theorem Absent.of_sheds (absent : d.Absent cwd p) (sheds : d.Sheds after) : after.Absent cwd p := by
  rcases locate_eq_or_absent sheds with same | absent'
  · unfold Absent entryAt
    rw [same]
    exact absent
  · exact absent'

theorem not_absent_of_found {place : Location} {entry : Entry}
    (found : d.locate cwd .entry p = .ok (.found place entry)) : ¬ d.Absent cwd p := by
  unfold Absent entryAt
  rw [found]
  exact nofun

/-- A path whose entry is gone is absent. -/
theorem absent_of_gone {place : Location} {entry : Entry} (sheds : d.Sheds after)
    (found : d.locate cwd .entry p = .ok (.found place entry)) (gone : after.get? place = none) :
    after.Absent cwd p := by
  rcases locate_eq_or_absent sheds with same | absent
  · have still := (locate_eq_ok_iff.mp (same.trans found)).2.get?_of_found
    rw [gone] at still
    cases still
  · exact absent

theorem clears_removeIf {place : Location} {entry : Entry} {gone : Location → Bool}
    (found : d.locate cwd .entry p = .ok (.found place entry))
    (inside : ∀ spot, gone spot = true → place <+: spot) : Clears cwd p d (d.removeIf gone) := by
  refine ⟨sheds_removeIf d gone, fun spot changed => ⟨place, entry, found, inside spot ?_⟩⟩
  by_cases top : spot = []
  · subst top
    exact absurd rfl changed
  · rw [get?_removeIf d gone top] at changed
    cases removed : gone spot with
    | true => rfl
    | false =>
        rw [removed] at changed
        exact absurd rfl changed

theorem absent_removeIf {place : Location} {entry : Entry}
    (found : d.locate cwd .entry p = .ok (.found place entry)) (low : place ≠ []) :
    (d.removeIf (· = place)).Absent cwd p := by
  refine absent_of_gone (sheds_removeIf d _) found ?_
  simp [get?_removeIf d _ low]

/-! ## Files and links -/

theorem unlink_of_found {place : Location} {entry : Entry}
    (found : d.locate cwd .entry p = .ok (.found place entry)) :
    d.unlink cwd p =
      if !d.mayChange place then .error (refuse .denied p)
      else if entry.isDirectory then .error (refuse .isDirectory p)
      else .ok (d.removeIf (· = place)) := by
  unfold unlink
  rw [found]
  rfl

/-- The ways in which the removal of a file or a link can end. -/
theorem unlink_cases (d : Disk) (cwd : Location) (p : Path) :
    (∃ fault, d.locate cwd .entry p = .error fault ∧ d.unlink cwd p = .error fault) ∨
      (d.Absent cwd p ∧ d.unlink cwd p = .error (refuse .notFound p)) ∨
      (∃ errno, errno ≠ .notFound ∧ d.unlink cwd p = .error (refuse errno p)) ∨
      ∃ place entry, d.locate cwd .entry p = .ok (.found place entry) ∧
        entry.isDirectory = false ∧ d.unlink cwd p = .ok (d.removeIf (· = place)) := by
  cases found : d.locate cwd .entry p with
  | error fault =>
      refine .inl ⟨fault, rfl, ?_⟩
      unfold unlink
      rw [found]
      rfl
  | ok spot =>
      cases spot with
      | vacant directory name =>
          refine .inr (.inl ⟨absent_of_vacant found, ?_⟩)
          unfold unlink
          rw [found]
          rfl
      | found place entry =>
          rw [unlink_of_found found]
          by_cases locked : (!d.mayChange place) = true
          · exact .inr (.inr (.inl ⟨.denied, by decide, if_pos locked⟩))
          · rw [if_neg locked]
            cases kind : entry.isDirectory with
            | true => exact .inr (.inr (.inl ⟨.isDirectory, by decide, rfl⟩))
            | false => exact .inr (.inr (.inr ⟨place, entry, rfl, kind, rfl⟩))

theorem unlink_eq_ok (removed : d.unlink cwd p = .ok after) :
    ∃ place entry, d.locate cwd .entry p = .ok (.found place entry) ∧
      entry.isDirectory = false ∧ after = d.removeIf (· = place) := by
  rcases unlink_cases d cwd p with ⟨fault, -, failed⟩ | ⟨-, failed⟩ | ⟨errno, -, failed⟩ |
    ⟨place, entry, found, solid, ended⟩
  · exact nomatch failed.symm.trans removed
  · exact nomatch failed.symm.trans removed
  · exact nomatch failed.symm.trans removed
  · cases ended.symm.trans removed
    exact ⟨place, entry, found, solid, rfl⟩

theorem clears_unlink (removed : d.unlink cwd p = .ok after) : Clears cwd p d after := by
  obtain ⟨place, entry, found, -, rfl⟩ := unlink_eq_ok removed
  refine clears_removeIf found fun spot same => ?_
  obtain rfl := of_decide_eq_true same
  exact List.prefix_refl spot

theorem absent_unlink (removed : d.unlink cwd p = .ok after) : after.Absent cwd p := by
  obtain ⟨place, entry, found, solid, rfl⟩ := unlink_eq_ok removed
  refine absent_removeIf found ?_
  rintro rfl
  have top := (locate_eq_ok_iff.mp found).2.get?_of_found
  rw [get?_nil] at top
  cases top
  cases solid

/-- A file that is missing needs no removal. -/
theorem absent_of_unlink_error {fault : FileFault} (failed : d.unlink cwd p = .error fault)
    (missing : isMissing fault = true) : d.Absent cwd p := by
  rcases unlink_cases d cwd p with ⟨other, lost, same⟩ | ⟨absent, -⟩ | ⟨errno, present, same⟩ |
    ⟨place, entry, -, -, ended⟩
  · cases same.symm.trans failed
    exact absent_of_locate_error lost missing
  · exact absent
  · cases same.symm.trans failed
    exact absurd (by simpa [isMissing, refuse, OsError.errno?] using missing) present
  · exact nomatch ended.symm.trans failed

theorem refuse_of_unlink_error {fault : FileFault} (named : misnamed? p = none)
    (failed : d.unlink cwd p = .error fault) : ∃ errno, fault = refuse errno p := by
  rcases unlink_cases d cwd p with ⟨other, lost, same⟩ | ⟨-, same⟩ | ⟨errno, -, same⟩ |
    ⟨place, entry, -, -, ended⟩
  · cases same.symm.trans failed
    exact refuse_of_locate_error named lost
  · cases same.symm.trans failed
    exact ⟨.notFound, rfl⟩
  · cases same.symm.trans failed
    exact ⟨errno, rfl⟩
  · exact nomatch ended.symm.trans failed

/-! ## Directories -/

/-- The ways in which clearing a directory can end: nothing is done, everything below it is
gone, or some of it and then a refusal. -/
theorem clearDirectory_cases (d : Disk) (cwd : Location) (p : Path) :
    (∃ fault, (misnamed? p = none → ∃ error, fault = .os error) ∧
        d.clearDirectory cwd p = (d, some fault)) ∨
      ∃ (place : Location) (mode : Nat) (gone : Location → Bool) (refused : Option OsError),
        d.locate cwd .entry p = .ok (.found place (.directory mode)) ∧
        (∀ spot, gone spot = true → place <+: spot) ∧
        d.clearDirectory cwd p = (d.removeIf gone, refused.map .os) := by
  rcases found : d.locate cwd .entry p with fault | (⟨place, (mode | _ | _)⟩ | _)
  · refine .inl ⟨fault, fun named => ?_, by rw [clearDirectory, found]⟩
    obtain ⟨errno, same⟩ := refuse_of_locate_error named found
    exact ⟨_, same⟩
  · unfold clearDirectory
    rw [found]
    dsimp only
    by_cases sealed : mode &&& Entry.readBit = 0
    · rw [if_pos sealed]
      exact .inl ⟨_, fun _ => ⟨_, rfl⟩, rfl⟩
    · rw [if_neg sealed]
      rcases d.sweep (d.entries.length + 1) place mode with ⟨gone, _ | name⟩
      · refine .inr ⟨place, mode, below place, none, rfl, fun spot inside => ?_, rfl⟩
        unfold below at inside
        simp only [Bool.and_eq_true, List.isPrefixOf_iff_prefix] at inside
        exact inside.1
      · refine .inr ⟨place, mode, fun spot => below place spot && gone.contains spot,
          some (.onPath .denied name), rfl, fun spot inside => ?_, rfl⟩
        unfold below at inside
        simp only [Bool.and_eq_true, List.isPrefixOf_iff_prefix] at inside
        exact inside.1.1
  · exact .inl ⟨_, fun _ => ⟨_, rfl⟩, by rw [clearDirectory, found]; rfl⟩
  · exact .inl ⟨_, fun _ => ⟨_, rfl⟩, by rw [clearDirectory, found]; rfl⟩
  · exact .inl ⟨_, fun _ => ⟨_, rfl⟩, by rw [clearDirectory, found]; rfl⟩

/-- The ways in which the removal of an empty directory can end. -/
theorem removeDirectory_cases (d : Disk) (cwd : Location) (p : Path) :
    (∃ fault, (misnamed? p = none → ∃ error, fault = .os error) ∧
        d.removeDirectory cwd p = .error fault) ∨
      ∃ place mode last, d.locate cwd .entry p = .ok (.found place (.directory mode)) ∧
        p.names.getLast? = some last ∧ last ≠ Path.up ∧
        d.removeDirectory cwd p = .ok (d.removeIf (· = place)) := by
  unfold removeDirectory
  cases ends : p.names.getLast? with
  | none => exact .inl ⟨_, fun _ => ⟨_, rfl⟩, rfl⟩
  | some last =>
      dsimp only
      by_cases isUp : last = Path.up
      · rw [if_pos isUp]
        rcases d.walk .target maxLinks (origin cwd p) p.names.dropLast with
          errno | (⟨_, (_ | _ | _)⟩ | _)
        · exact .inl ⟨_, fun _ => ⟨_, rfl⟩, rfl⟩
        · exact .inl ⟨_, fun _ => ⟨_, rfl⟩, rfl⟩
        · exact .inl ⟨_, fun _ => ⟨_, rfl⟩, rfl⟩
        · exact .inl ⟨_, fun _ => ⟨_, rfl⟩, rfl⟩
        · exact .inl ⟨_, fun _ => ⟨_, rfl⟩, rfl⟩
      · rw [if_neg isUp]
        rcases found : d.locate cwd .entry p with fault | (⟨place, (mode | _ | _)⟩ | _)
        · refine .inl ⟨fault, fun named => ?_, rfl⟩
          obtain ⟨errno, same⟩ := refuse_of_locate_error named found
          exact ⟨_, same⟩
        · cases open_ : d.mayChange place with
          | true =>
              refine .inr ⟨place, mode, last, rfl, rfl, isUp, ?_⟩
              change (if d.mayChange place then _ else _) = _
              rw [open_]
              rfl
          | false =>
              refine .inl ⟨refuse .denied p, fun _ => ⟨_, rfl⟩, ?_⟩
              change (if d.mayChange place then _ else _) = _
              rw [open_]
              rfl
        · exact .inl ⟨_, fun _ => ⟨_, rfl⟩, rfl⟩
        · exact .inl ⟨_, fun _ => ⟨_, rfl⟩, rfl⟩
        · exact .inl ⟨_, fun _ => ⟨_, rfl⟩, rfl⟩

/-- Clearing more of what is below a path clears it. -/
theorem Clears.trans {middle : Disk} (first : Clears cwd p d middle)
    (second : Clears cwd p middle after) : Clears cwd p d after := by
  refine ⟨first.sheds.trans second.sheds, fun spot changed => ?_⟩
  by_cases early : middle.get? spot = d.get? spot
  · rw [← early] at changed
    obtain ⟨place, entry, found, inside⟩ := second.only spot changed
    rcases locate_eq_or_absent first.sheds with same | absent
    · exact ⟨place, entry, same.symm.trans found, inside⟩
    · exact absurd absent (not_absent_of_found found)
  · exact first.only spot early

theorem clears_clearDirectory (d : Disk) (cwd : Location) (p : Path) :
    Clears cwd p d (d.clearDirectory cwd p).1 := by
  rcases clearDirectory_cases d cwd p with ⟨fault, -, ended⟩ |
    ⟨place, mode, gone, refused, found, inside, ended⟩
  · rw [ended]
    exact Clears.refl
  · rw [ended]
    exact clears_removeIf found inside

theorem clears_removeDirectory (removed : d.removeDirectory cwd p = .ok after) :
    Clears cwd p d after := by
  rcases removeDirectory_cases d cwd p with ⟨fault, -, failed⟩ |
    ⟨place, mode, last, found, -, -, ended⟩
  · exact nomatch failed.symm.trans removed
  · cases ended.symm.trans removed
    refine clears_removeIf found fun spot same => ?_
    obtain rfl := of_decide_eq_true same
    exact List.prefix_refl spot

theorem absent_removeDirectory (proper : p.Proper)
    (removed : d.removeDirectory cwd p = .ok after) : after.Absent cwd p := by
  rcases removeDirectory_cases d cwd p with ⟨fault, -, failed⟩ |
    ⟨place, mode, last, found, ends, notUp, ended⟩
  · exact nomatch failed.symm.trans removed
  · cases ended.symm.trans removed
    have moves := proper last (List.mem_of_getLast? ends)
    exact absent_removeIf found
      ((locate_eq_ok_iff.mp found).2.ne_nil_of_found ends notUp moves)

/-- The ways in which the removal of a tree can end. -/
theorem removeTree_cases (d : Disk) (cwd : Location) (p : Path) :
    (∃ middle fault, d.clearDirectory cwd p = (middle, some fault) ∧
        d.removeTree cwd p = (middle, some fault)) ∨
      ∃ middle, d.clearDirectory cwd p = (middle, none) ∧
        ((∃ fault, middle.removeDirectory cwd p = .error fault ∧
            d.removeTree cwd p = (middle, some fault)) ∨
          ∃ after, middle.removeDirectory cwd p = .ok after ∧
            d.removeTree cwd p = (after, none)) := by
  unfold removeTree
  rcases d.clearDirectory cwd p with ⟨middle, _ | fault⟩
  · refine .inr ⟨middle, rfl, ?_⟩
    dsimp only
    cases middle.removeDirectory cwd p with
    | error fault => exact .inl ⟨fault, rfl, rfl⟩
    | ok after => exact .inr ⟨after, rfl, rfl⟩
  · exact .inl ⟨middle, fault, rfl, rfl⟩

theorem clears_removeTree (d : Disk) (cwd : Location) (p : Path) :
    Clears cwd p d (d.removeTree cwd p).1 := by
  have cleared := clears_clearDirectory d cwd p
  rcases removeTree_cases d cwd p with ⟨middle, fault, first, ended⟩ |
    ⟨middle, first, ⟨fault, -, ended⟩ | ⟨after, removed, ended⟩⟩
  · rw [first] at cleared
    rw [ended]
    exact cleared
  · rw [first] at cleared
    rw [ended]
    exact cleared
  · rw [first] at cleared
    rw [ended]
    exact cleared.trans (clears_removeDirectory removed)

theorem absent_removeTree (proper : p.Proper) (ended : (d.removeTree cwd p).2 = none) :
    (d.removeTree cwd p).1.Absent cwd p := by
  rcases removeTree_cases d cwd p with ⟨middle, fault, -, same⟩ |
    ⟨middle, -, ⟨fault, -, same⟩ | ⟨after, removed, same⟩⟩
  · rw [same] at ended
    cases ended
  · rw [same] at ended
    cases ended
  · rw [same]
    exact absent_removeDirectory proper removed

theorem os_of_removeTree {fault : FileFault} (named : misnamed? p = none)
    (failed : (d.removeTree cwd p).2 = some fault) : ∃ error, fault = .os error := by
  rcases removeTree_cases d cwd p with ⟨middle, other, first, same⟩ |
    ⟨middle, -, ⟨other, stopped, same⟩ | ⟨after, -, same⟩⟩
  · rw [same] at failed
    cases failed
    rcases clearDirectory_cases d cwd p with ⟨_, os, ended⟩ | ⟨_, _, _, refused, -, -, ended⟩
    · cases first.symm.trans ended
      exact os named
    · have given := (Prod.mk.inj (first.symm.trans ended)).2
      cases refused with
      | none => cases given
      | some error => exact ⟨error, Option.some.inj given⟩
  · rw [same] at failed
    cases failed
    rcases removeDirectory_cases middle cwd p with ⟨_, os, ended⟩ | ⟨_, _, _, -, -, -, ended⟩
    · cases stopped.symm.trans ended
      exact os named
    · cases stopped.symm.trans ended
  · rw [same] at failed
    cases failed

end StageParity.Disk
