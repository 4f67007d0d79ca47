import Mathlib.Data.List.Induction
import StageParity.Proofs.Cleanup
import StageParity.Proofs.Inside

/-!
# Containment

What a run itself does to the disk, between the commands that it starts, stays at or below
the place of its working directory, as long as the names of its layout do not climb out of
that directory and no command puts a symbolic link into it or takes it away. Names are not
checked: an absolute one, or one that climbs, is written to and removed where it leads.
-/

namespace StageParity

open Relation (ReflTransGen)

namespace Disk

/-- A disk on which every entry stands in a directory. -/
def Rooted (d : Disk) : Prop :=
  ∀ spot name, d.get? (spot ++ [name]) ≠ none → ∃ mode, d.get? spot = some (.directory mode)

theorem Rooted.none_below {d : Disk} {top spot : Location} (rooted : d.Rooted)
    (free : d.get? top = none) (below : top <+: spot) : d.get? spot = none := by
  obtain ⟨rest, rfl⟩ := below
  induction rest using List.reverseRecOn with
  | nil => rwa [List.append_nil]
  | append_singleton rest name ih =>
      refine Classical.byContradiction fun held => ?_
      rw [← List.append_assoc] at held
      obtain ⟨mode, parent⟩ := rooted _ name held
      rw [ih] at parent
      cases parent

/-- A new directory on a rooted disk has nothing in it. -/
theorem houses_of_made {d after : Disk} {cwd : Location} {w : Path} (rooted : d.Rooted)
    (made : d.makeDirectory cwd w Run.workdirMode = .ok after) :
    ∃ directory name, d.locate cwd .entry w = .ok (.vacant directory name) ∧
      after.Houses cwd w (directory ++ [name]) ∧
      ∀ spot, ¬ directory ++ [name] <+: spot → after.get? spot = d.get? spot := by
  obtain ⟨directory, name, free, rfl⟩ := makeDirectory_eq_ok made
  obtain ⟨nameable, leads⟩ := locate_eq_ok_iff.mp free
  obtain ⟨-, -, none⟩ := leads.of_vacant
  have held : (d.put (directory ++ [name]) (.directory Run.workdirMode)).get? (directory ++ [name]) =
      some (.directory Run.workdirMode) := by
    rw [get?_put]
    simp
  refine ⟨directory, name, free, ⟨⟨Run.workdirMode, ?_⟩, fun spot target below => ?_⟩, fun spot => ?_⟩
  · exact locate_eq_ok_iff.mpr
      ⟨nameable, leads.of_put (grows_put_of_none none _) held (by decide)⟩
  · rw [get?_put]
    split
    · exact nofun
    · rw [rooted.none_below none below]
      exact nofun
  · exact outside_put _ (List.prefix_refl _)

end Disk

/-! ## What the run does between commands -/

/-- What a run itself did to the disk before the first command, between commands and after
the last one, as the disks before and after. The commands are counted from `nth` on. -/
def spans (host : Host) : (nth : Nat) → Disk → List Launch → Disk → List (Disk × Disk)
  | _, before, [], last => [(before, last)]
  | nth, before, launch :: launches, last =>
    (before, launch.disk) ::
      spans host (nth + 1) (host.react nth launch.invocation launch.disk).2 launches last

theorem spans_eq (host : Host) (nth : Nat) (before : Disk) (launches : List Launch) :
    ∃ earlier start, ∀ last, spans host nth before launches last = earlier ++ [(start, last)] := by
  induction launches generalizing nth before with
  | nil => exact ⟨[], before, fun last => rfl⟩
  | cons launch launches ih =>
      obtain ⟨earlier, start, same⟩ := ih (nth + 1) (host.react nth launch.invocation launch.disk).2
      exact ⟨(before, launch.disk) :: earlier, start, fun last => by rw [spans, same]; rfl⟩

theorem spans_concat (host : Host) (nth : Nat) (before : Disk) (launches : List Launch)
    (launch : Launch) (last : Disk) :
    spans host nth before (launches ++ [launch]) last =
      spans host nth before launches launch.disk ++
        [((host.react (nth + launches.length) launch.invocation launch.disk).2, last)] := by
  induction launches generalizing nth before with
  | nil => rfl
  | cons first launches ih =>
      rw [List.cons_append, spans, spans, ih, List.length_cons, Nat.add_assoc, Nat.add_comm 1]
      rfl

/-- What a command does to the disk respects a working directory: it leaves entries in
directories, the directory where it was, and no symbolic link in it. -/
structure Respects (cwd : Location) (w : Path) (before after : Disk) : Prop where
  rooted : after.Rooted
  housed : ∀ top, before.Houses cwd w top → after.Houses cwd w top

/-- A run whose tracked paths are inside its working directory, and whose commands respect
that directory. -/
structure Kept (host : Host) (w : Path) (s : Session) : Prop where
  inside : ∀ path ∈ s.scratch.tracked, w.Inside path
  respected : ∀ nth launch, s.launches[nth]? = some launch →
    Respects host.cwd w launch.disk (host.react nth launch.invocation launch.disk).2

theorem rooted_of_spans {host : Host} {disk last : Disk} {launches : List Launch}
    {span : Disk × Disk} (rooted : disk.Rooted)
    (kept : ∀ nth launch, launches[nth]? = some launch →
      (host.react nth launch.invocation launch.disk).2.Rooted)
    (member : span ∈ spans host 0 disk launches last) : span.1.Rooted := by
  induction launches using List.reverseRecOn generalizing last with
  | nil =>
      rw [List.mem_singleton.mp member]
      exact rooted
  | append_singleton launches launch ih =>
      rw [spans_concat] at member
      rcases List.mem_append.mp member with earlier | new
      · refine ih (fun nth other known => kept nth other ?_) earlier
        rw [List.getElem?_append_left (List.getElem?_eq_some_iff.mp known).1]
        exact known
      · rw [List.mem_singleton.mp new, Nat.zero_add]
        exact kept launches.length launch (by simp)

/-- A run that has no working directory yet: it did nothing to the disk itself. -/
structure Idle (host : Host) (disk : Disk) (s : Session) : Prop where
  workdir : s.scratch.workdir = none
  tracked : s.scratch.tracked = []
  testDir : s.testDir = none
  unchanged : ∀ span ∈ spans host 0 disk s.launches s.disk, span.2 = span.1

/-- Between commands nothing changed but at or below a location. -/
def Untouched (host : Host) (top : Location) (disk : Disk) (launches : List Launch) (last : Disk) :
    Prop :=
  ∀ span ∈ spans host 0 disk launches last, ∀ spot, ¬ top <+: spot →
    span.2.get? spot = span.1.get? spot

/-- A path was free when the run began one of its spans, at the given location. -/
def WasFree (host : Host) (disk : Disk) (launches : List Launch) (last : Disk) (w : Path)
    (top : Location) : Prop :=
  ∃ span ∈ spans host 0 disk launches last, ∃ directory name,
    span.1.locate host.cwd .entry w = .ok (.vacant directory name) ∧ top = directory ++ [name]

/-- A run with a working directory at a location outside of which it changed nothing. -/
structure Contained (host : Host) (disk : Disk) (w : Path) (top : Location) (s : Session) :
    Prop where
  workdir : s.scratch.workdir = some w
  houses : s.disk.Houses host.cwd w top
  free : WasFree host disk s.launches s.disk w top
  untouched : Untouched host top disk s.launches s.disk
  testDir : ∀ directory, s.testDir = some directory → directory ∈ s.scratch.tracked

section Spans

variable {host : Host} {disk last next : Disk} {launches : List Launch} {w : Path} {top : Location}

theorem Untouched.step (untouched : Untouched host top disk launches last)
    (outside : ∀ spot, ¬ top <+: spot → next.get? spot = last.get? spot) :
    Untouched host top disk launches next := by
  obtain ⟨earlier, start, same⟩ := spans_eq host 0 disk launches
  unfold Untouched at untouched ⊢
  rw [same] at untouched ⊢
  intro span member spot far
  rcases List.mem_append.mp member with before | new
  · exact untouched span (List.mem_append_left _ before) spot far
  · rw [List.mem_singleton.mp new]
    exact (outside spot far).trans
      (untouched (start, last) (List.mem_append_right _ List.mem_cons_self) spot far)

theorem WasFree.step (free : WasFree host disk launches last w top) (next : Disk) :
    WasFree host disk launches next w top := by
  obtain ⟨earlier, start, same⟩ := spans_eq host 0 disk launches
  unfold WasFree at free ⊢
  rw [same] at free ⊢
  obtain ⟨span, member, located⟩ := free
  rcases List.mem_append.mp member with before | new
  · exact ⟨span, List.mem_append_left _ before, located⟩
  · rw [List.mem_singleton.mp new] at located
    exact ⟨(start, next), List.mem_append_right _ List.mem_cons_self, located⟩

end Spans

/-- The names of the files of the checks are plain. -/
theorem plain_checkFileNames {name : Text} (known : name ∈ checkFileNames) :
    (Path.ofText name).isAbsolute = false ∧ ∃ plain, Path.namesOf name = [plain] ∧ plain ≠ Path.up := by
  have all : ∀ name ∈ checkFileNames,
      (Path.ofText name).isAbsolute = false ∧ Path.namesOf name = [name] ∧ name ≠ Path.up := by
    decide
  exact ⟨(all name known).1, name, (all name known).2⟩

theorem Path.stays_concat {depth : Nat} {names : List Text} {name : Text}
    (inside : stays depth names = true) (notUp : name ≠ up) : stays depth (names ++ [name]) = true := by
  induction names generalizing depth with
  | nil =>
      rw [List.nil_append]
      unfold stays
      rw [if_neg notUp]
      split <;> rfl
  | cons first rest ih =>
      rw [List.cons_append]
      unfold stays at inside ⊢
      split
      · rename_i isUp
        rw [if_pos isUp] at inside
        cases depth with
        | zero => cases inside
        | succ depth => exact ih inside
      · rename_i notUp
        rw [if_neg notUp] at inside
        split
        · rename_i still
          rw [if_pos still] at inside
          exact ih inside
        · rename_i moves
          rw [if_neg moves] at inside
          exact ih inside

theorem Path.Inside.checkFile {w p : Path} {name : Text} (inside : w.Inside p)
    (known : name ∈ checkFileNames) : w.Inside (p.child name) := by
  obtain ⟨anchor, rest, names, stays⟩ := inside
  obtain ⟨relative, plain, single, notUp⟩ := plain_checkFileNames known
  have path : p.child name = ⟨p.anchor, p.names ++ [plain]⟩ := by
    unfold Path.child Path.join
    rw [relative]
    exact congrArg (fun more => Path.mk p.anchor (p.names ++ more)) single
  rw [path]
  exact ⟨anchor, rest ++ [plain], by rw [names, List.append_assoc], Path.stays_concat stays notUp⟩

namespace Deed

variable {host : Host} {project : Project} {disk : Disk} {w : Path} {top : Location} {s t : Session}

theorem kept (deed : Deed host project s t) (kept : Kept host w t) : Kept host w s := by
  obtain ⟨tracked, launches, -⟩ := deed.extends_
  refine ⟨fun path member => kept.inside path (tracked path member), fun nth launch known => ?_⟩
  obtain ⟨more, same⟩ := launches
  refine kept.respected nth launch ?_
  rw [← same, List.getElem?_append_left (List.getElem?_eq_some_iff.mp known).1]
  exact known

/-- Without a working directory nothing that the run does itself reaches the disk. -/
theorem idle_step (deed : Deed host project s t) (idle : Idle host disk s)
    (unmade : t.scratch.workdir = none) : Idle host disk t := by
  rcases deed with (deed | ⟨resolved, place⟩ | _) | _ | _
  · cases deed with
    | say => exact ⟨idle.workdir, idle.tracked, idle.testDir, idle.unchanged⟩
    | makeWorkdir live absent proper made =>
        rw [Scratch.add_workdir] at unmade
        cases unmade
    | handOut live present known =>
        rw [idle.workdir] at present
        cases present
    | touch held touched =>
        rcases held with member | ⟨directory, present, -⟩
        · rw [idle.tracked] at member
          cases member
        · rw [idle.testDir] at present
          cases present
    | keepTestDir present member absent =>
        rw [idle.workdir] at present
        cases present
  · refine ⟨idle.workdir, idle.tracked, idle.testDir, fun span member => ?_⟩
    rw [spans_concat] at member
    rcases List.mem_append.mp member with before | new
    · exact idle.unchanged span before
    · rw [List.mem_singleton.mp new, Nat.zero_add]
  all_goals exact ⟨idle.workdir, idle.tracked, idle.testDir, idle.unchanged⟩

/-- The working directory is made at a free place, and changes nothing elsewhere. -/
theorem contained_of_made (rooted : disk.Rooted) (kept : Kept host w s) (idle : Idle host disk s)
    {after : Disk} (made : s.disk.makeDirectory host.cwd w Run.workdirMode = .ok after) :
    ∃ top, Contained host disk w top
      { s with
        disk := after, scratch := Scratch.add { s.scratch with workdir := some w } w } := by
  obtain ⟨earlier, start, same⟩ := spans_eq host 0 disk s.launches
  have last : (start, s.disk) ∈ spans host 0 disk s.launches s.disk := by
    rw [same]
    exact List.mem_append_right _ List.mem_cons_self
  have unchanged : s.disk = start := idle.unchanged _ last
  have standing : s.disk.Rooted := by
    rw [unchanged]
    exact rooted_of_spans rooted (fun nth launch known => (kept.respected nth launch known).rooted)
      last
  obtain ⟨directory, name, free, houses, outside⟩ := Disk.houses_of_made standing made
  have untouched : Untouched host (directory ++ [name]) disk s.launches s.disk :=
    fun span member spot _ => by rw [idle.unchanged span member]
  refine ⟨directory ++ [name], Scratch.add_workdir _ _, houses, ?_, untouched.step outside, ?_⟩
  · exact WasFree.step ⟨(start, s.disk), last, directory, name, unchanged ▸ free, rfl⟩ after
  · intro other present
    rw [idle.testDir] at present
    cases present

theorem contained_step (deed : Deed host project s t) (kept : Kept host w t)
    (contained : Contained host disk w top s) : Contained host disk w top t := by
  obtain ⟨workdir, houses, free, untouched, testDir⟩ := contained
  rcases deed with (deed | @⟨invocation, cwd, sent, resolved, place⟩ | _) | _ | _
  · cases deed with
    | say => exact ⟨workdir, houses, free, untouched, testDir⟩
    | makeWorkdir live absent proper made =>
        rw [absent] at workdir
        cases workdir
    | handOut live some known =>
        refine ⟨by rw [Scratch.add_workdir, workdir], houses, free, untouched, ?_⟩
        exact fun directory present => (Scratch.mem_add _ _ _).mpr (.inl (testDir directory present))
    | @touch path after held touched =>
        have inside : w.Inside path := by
          rcases held with member | ⟨directory, present, name, known, rfl⟩
          · exact kept.inside path member
          · exact (kept.inside directory (testDir directory present)).checkFile known
        have confined := Disk.confined_touched houses inside touched
        exact ⟨workdir, houses.of_confined confined, free.step after,
          untouched.step confined.outside, testDir⟩
    | keepTestDir some member absent =>
        refine ⟨workdir, houses, free, untouched, fun directory present => ?_⟩
        cases present
        exact member
  · have respects := kept.respected s.launches.length ⟨invocation, s.disk, sent⟩ (by simp)
    refine ⟨workdir, respects.housed top houses, ?_, ?_, testDir⟩
    · obtain ⟨span, member, located⟩ := free
      refine ⟨span, ?_, located⟩
      rw [spans_concat]
      exact List.mem_append_left _ member
    · intro span member spot far
      rw [spans_concat] at member
      rcases List.mem_append.mp member with before | new
      · exact untouched span before spot far
      · rw [List.mem_singleton.mp new, Nat.zero_add]
  all_goals exact ⟨workdir, houses, free, untouched, testDir⟩

theorem idle_of_deeds (deeds : ReflTransGen (Deed host project) s t) (idle : Idle host disk s)
    (unmade : t.scratch.workdir = none) : Idle host disk t := by
  induction deeds with
  | refl => exact idle
  | @tail m t _ deed ih =>
      have before : m.scratch.workdir = none := by
        cases made : m.scratch.workdir with
        | none => rfl
        | some w =>
            rw [deed.extends_.2.2 w made] at unmade
            cases unmade
      exact deed.idle_step (ih before) unmade

theorem contained_of_deeds (deeds : ReflTransGen (Deed host project) s t) (rooted : disk.Rooted)
    (kept : Kept host w t) (idle : Idle host disk s) (present : t.scratch.workdir = some w) :
    ∃ top, Contained host disk w top t := by
  induction deeds with
  | refl =>
      rw [idle.workdir] at present
      cases present
  | @tail m t deeds deed ih =>
      cases before : m.scratch.workdir with
      | some v =>
          rw [deed.extends_.2.2 v before] at present
          cases present
          obtain ⟨top, contained⟩ := ih (deed.kept kept) before
          exact ⟨top, deed.contained_step kept contained⟩
      | none =>
          have still := idle_of_deeds deeds idle before
          have keptBefore := deed.kept kept
          rcases deed with (deed | ⟨resolved, place⟩ | _) | _ | _
          · cases deed with
            | makeWorkdir live absent proper created =>
                rw [Scratch.add_workdir] at present
                cases present
                exact contained_of_made rooted keptBefore still created
            | handOut live other known =>
                rw [before] at other
                cases other
            | _ =>
                rw [before] at present
                cases present
          all_goals
            rw [before] at present
            cases present

end Deed

/-! ## The whole run -/

namespace Removing

variable {host : Host} {paths : List Path} {s t : Session}

theorem disk_eq (steps : ReflTransGen (Removing host []) s t) : t.disk = s.disk := by
  induction steps with
  | refl => rfl
  | tail _ step ih =>
      cases step with
      | note => exact ih
      | clear known _ => cases known
      | fail known => cases known

/-- Removing paths inside the working directory changes nothing elsewhere. -/
theorem outside {w : Path} {top : Location} (steps : ReflTransGen (Removing host paths) s t)
    (houses : s.disk.Houses host.cwd w top) (inside : ∀ path ∈ paths, w.Inside path)
    (spot : Location) (far : ¬ top <+: spot) : t.disk.get? spot = s.disk.get? spot := by
  induction steps with
  | refl => rfl
  | @tail m t steps step ih =>
      cases step with
      | note => exact ih
      | clear known cleared =>
          exact (Disk.outside_clears houses (inside _ known) (sheds steps) cleared far).trans ih
      | fail _ => exact ih

end Removing

namespace Run

variable {host : Host} {options : RunOptions} {project : Project} {disk : Disk} {s t : Session}

theorem idle_taken (opened : Opened host options disk project s) : Idle host disk (taken s) := by
  have idle : Idle host disk s := by
    refine ⟨by rw [opened.scratch]; rfl, by rw [opened.scratch]; rfl, opened.testDir, ?_⟩
    intro span member
    rw [opened.launches, opened.disk] at member
    rw [List.mem_singleton.mp member]
  unfold taken
  split
  · exact ⟨idle.workdir, idle.tracked, idle.testDir, idle.unchanged⟩
  · exact idle

theorem child_of_name (w : Path) (name : Text) :
    if (Path.ofText name).isAbsolute then w.child name = Path.ofText name
    else w.Inside (w.child name) ↔ Path.stays 0 (Path.namesOf name) = true := by
  cases absolute : (Path.ofText name).isAbsolute with
  | true =>
      change w.join (Path.ofText name) = Path.ofText name
      unfold Path.join
      rw [absolute]
      rfl
  | false => exact Path.inside_child_iff absolute

/-- What the run itself did to the disk up to the end of the pass over the tracked paths. -/
theorem contained_pass (opened : Opened host options disk project s) :
    let u := staged host options project s
    let left := (pass host u).2.disk
    (u.scratch.workdir = none → ∀ span ∈ spans host 0 disk u.launches left, span.2 = span.1) ∧
      ∀ w, u.scratch.workdir = some w → disk.Rooted → Kept host w u →
        ∃ top, WasFree host disk u.launches left w top ∧ Untouched host top disk u.launches left := by
  intro u left
  have deeds : ReflTransGen (Deed host project) (taken s) u := deeds_staged host options project s
  have steps : ReflTransGen (Removing host u.scratch.tracked.reverse) (torn u) (pass host u).2 :=
    removing_pass host u.scratch.tracked.reverse (torn u)
  refine ⟨fun unmade => ?_, fun w made rooted kept => ?_⟩
  · have idle := Deed.idle_of_deeds deeds (idle_taken opened) unmade
    rw [idle.tracked] at steps
    have same : left = (torn u).disk := Removing.disk_eq steps
    rw [same]
    exact idle.unchanged
  · obtain ⟨top, contained⟩ := Deed.contained_of_deeds deeds rooted kept (idle_taken opened) made
    have inside : ∀ path ∈ u.scratch.tracked.reverse, w.Inside path := fun path member =>
      kept.inside path (List.mem_reverse.mp member)
    have houses : (torn u).disk.Houses host.cwd w top := contained.houses
    have outside := Removing.outside steps houses inside
    exact ⟨top, contained.free.step left, contained.untouched.step outside⟩

/-- A path handed out is the working directory, or a name of the layout after it. A relative
name stays inside it exactly when its parts never climb out; an absolute name takes the place
of the whole path. With all paths inside, on a disk whose entries stand in directories and
with commands that respect the working directory, the run itself changes nothing but at or
below the place where that directory was made. -/
theorem verify_contained (host : Host) (options : RunOptions) (disk : Disk) (base : Option Path)
    (handles : Bool) :
    let start := Session.start disk (Scratch.fresh base handles)
    let ended := (from_ (verify host options) start).2
    (∀ path ∈ ended.scratch.tracked, ∃ w, ended.scratch.workdir = some w ∧
        (path = w ∨ ∃ project t, from_ (openProject host options) start = (.ok (some project), t) ∧
          ∃ name ∈ project.scratchNames, path = w.child name)) ∧
      (∀ (w : Path) (name : Text),
        if (Path.ofText name).isAbsolute then w.child name = Path.ofText name
        else w.Inside (w.child name) ↔ Path.stays 0 (Path.namesOf name) = true) ∧
      ∃ left, Disk.Gets host.cwd options.reportFile left ended.disk ∧
        (ended.scratch.workdir = none →
          ∀ span ∈ spans host 0 disk ended.launches left, span.2 = span.1) ∧
        ∀ w, ended.scratch.workdir = some w → disk.Rooted → Kept host w ended →
          ∃ top, WasFree host disk ended.launches left w top ∧
            Untouched host top disk ended.launches left := by
  intro start ended
  rcases verify_opened host options disk (Scratch.fresh base handles) with
    ⟨log, console, same, missing⟩ | ⟨project, t, opening, opened, same⟩
  · have reached : ended = { start with log, console } := same
    rw [reached]
    refine ⟨nofun, child_of_name, disk, .nothing, fun _ span member => ?_, nofun⟩
    rw [List.mem_singleton.mp member]
  · have live := opened.live
    obtain ⟨scratch, launches, gets, -⟩ := verifyProject_course host options project live
    obtain ⟨idle, contained⟩ := contained_pass opened
    have reached : ended = (from_ (verifyProject host options project) t).2 := congrArg Prod.snd same
    obtain ⟨tracked, workdir, launched, -⟩ := pass_frame host (staged host options project t)
    rw [reached, launches, launched]
    rw [scratch]
    refine ⟨fun path member => ?_, child_of_name, _, gets, ?_, ?_⟩
    · have known : path ∈ (staged host options project t).scratch.tracked := tracked ▸ member
      obtain ⟨w, made, -, -, handed⟩ := (tracks_staged opened).cases known
      exact ⟨w, workdir.trans made, handed.imp_right fun named => ⟨project, t, opening, named⟩⟩
    · exact fun unmade => idle (workdir.symm.trans unmade)
    · intro w made rooted kept
      refine contained w (workdir.symm.trans made) rooted ⟨?_, ?_⟩
      · intro path member
        refine kept.inside path ?_
        rw [scratch]
        exact tracked.symm ▸ member
      · intro nth launch known
        refine kept.respected nth launch ?_
        rw [launches, launched]
        exact known

end Run

end StageParity
