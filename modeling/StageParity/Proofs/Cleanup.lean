import Mathlib.Data.List.TakeWhile
import StageParity.Proofs.Course

/-!
# Cleanup

However a run ends, each path that it tracked is gone or a message names it, provided that
all of them can be named. A path that cannot be, with a null character or half a surrogate
pair in a name of the layout, stops the removal: the paths that were handed out before it,
the working directory among them, are not looked at, and the run ends with that fault.
-/

namespace StageParity

open Relation (ReflTransGen)

/-! ## Names -/

theorem Text.mem_join {separator : Text} {parts : List Text} {g : Glyph} :
    g ∈ Text.join separator parts →
      g ∈ separator ∨ ∃ part ∈ parts, g ∈ part := by
  unfold Text.join
  induction parts with
  | nil => simp
  | cons part parts ih =>
      cases parts with
      | nil => exact fun inside => .inr ⟨part, List.mem_cons_self, by simpa using inside⟩
      | cons next parts =>
          rw [List.intercalate_cons_cons]
          intro inside
          rcases List.mem_append.mp inside with first | rest
          · rcases List.mem_append.mp first with here | between
            · exact .inr ⟨part, List.mem_cons_self, here⟩
            · exact .inl between
          · exact (ih rest).imp_right fun ⟨other, known, there⟩ =>
              ⟨other, List.mem_cons_of_mem part known, there⟩

theorem Text.mem_join_of_mem {separator : Text} {parts : List Text} {part : Text} {g : Glyph}
    (known : part ∈ parts) (inside : g ∈ part) : g ∈ Text.join separator parts := by
  unfold Text.join
  induction parts with
  | nil => cases known
  | cons head parts ih =>
      cases parts with
      | nil =>
          rw [List.intercalate_singleton]
          rcases List.mem_cons.mp known with rfl | none
          · exact inside
          · cases none
      | cons next parts =>
          rw [List.intercalate_cons_cons]
          rcases List.mem_cons.mp known with rfl | later
          · exact List.mem_append_left _ (List.mem_append_left _ inside)
          · exact List.mem_append_right _ (ih later)

namespace Disk

/-- A glyph that can be part of a file name. -/
def NameGlyph (g : Glyph) : Prop := isNameable g = true ∧ g ≠ .char '\x00'

instance (g : Glyph) : Decidable (NameGlyph g) :=
  inferInstanceAs (Decidable (isNameable g = true ∧ g ≠ .char '\x00'))

theorem unnameable?_eq_none_iff (t : Text) :
    unnameable? t = none ↔ ∀ g ∈ t, isNameable g = true := by
  unfold unnameable?
  dsimp only
  cases rest : t.dropWhile isNameable with
  | nil => simpa using List.dropWhile_eq_nil_iff.mp rest
  | cons g gs =>
      refine ⟨nofun, fun all => ?_⟩
      rw [List.dropWhile_eq_nil_iff.mpr all] at rest
      cases rest

theorem half_of_unnameable {t : Text} {fault : FileFault} (found : unnameable? t = some fault) :
    ∃ index, .half index ∈ t := by
  by_contra none_
  have nameable : ∀ g ∈ t, isNameable g = true := by
    intro g inside
    cases g with
    | half index => exact absurd ⟨index, inside⟩ none_
    | _ => rfl
  cases ((unnameable?_eq_none_iff t).mpr nameable).symm.trans found

theorem mem_text {p : Path} {g : Glyph} (inside : g ∈ p.text) :
    g = Path.slash ∨ g = .char '.' ∨ ∃ name ∈ p.names, g ∈ name := by
  unfold Path.text at inside
  split at inside
  · exact .inr (.inl (List.mem_singleton.mp inside))
  · rcases List.mem_append.mp inside with anchor | rest
    · left
      cases kind : p.anchor with
      | relative => rw [kind] at anchor; cases anchor
      | root => rw [kind] at anchor; simpa [Path.anchorText] using anchor
      | doubleRoot => rw [kind] at anchor; simpa [Path.anchorText] using anchor
    · exact (Text.mem_join rest).imp List.mem_singleton.mp .inr

theorem mem_text_of_mem_name {p : Path} {name : Text} {g : Glyph} (known : name ∈ p.names)
    (inside : g ∈ name) : g ∈ p.text := by
  unfold Path.text
  split
  · rename_i empty
    rw [empty.2] at known
    cases known
  · exact List.mem_append_right _ (Text.mem_join_of_mem known inside)

/-- A path can be named when each glyph of its names can be part of one. -/
theorem misnamed?_eq_none_iff (p : Path) :
    misnamed? p = none ↔ ∀ name ∈ p.names, ∀ g ∈ name, NameGlyph g := by
  have null : hasNull p = false ↔ ∀ name ∈ p.names, ∀ g ∈ name, g ≠ .char '\x00' := by
    unfold hasNull
    simp only [List.any_eq_false, List.contains_iff_mem]
    exact ⟨fun none name known g inside same => none name known (same ▸ inside),
      fun all name known inside => all name known _ inside rfl⟩
  have text : unnameable? p.text = none ↔ ∀ name ∈ p.names, ∀ g ∈ name, isNameable g = true := by
    rw [unnameable?_eq_none_iff]
    refine ⟨fun all name known g inside => all g (mem_text_of_mem_name known inside),
      fun all g inside => ?_⟩
    rcases mem_text inside with rfl | rfl | ⟨name, known, there⟩
    · rfl
    · rfl
    · exact all name known g there
  unfold misnamed?
  cases found : unnameable? p.text with
  | some fault =>
      refine ⟨nofun, fun all => ?_⟩
      rw [text.mpr fun name known g inside => (all name known g inside).1] at found
      cases found
  | none =>
      dsimp only
      have nameable := text.mp found
      cases zero : hasNull p with
      | true =>
          refine ⟨nofun, fun all => ?_⟩
          rw [null.mpr fun name known g inside => (all name known g inside).2] at zero
          cases zero
      | false =>
          refine ⟨fun _ name known g inside => ⟨nameable name known g inside, ?_⟩, fun _ => rfl⟩
          exact null.mp zero name known g inside

end Disk

theorem Text.mem_of_mem_splitOn {mark g : Glyph} {t part : Text} (known : part ∈ t.splitOn mark)
    (inside : g ∈ part) : g ∈ t := by
  induction t generalizing part with
  | nil =>
      unfold Text.splitOn at known
      rw [List.mem_singleton.mp known] at inside
      cases inside
  | cons head rest ih =>
      unfold Text.splitOn at known
      split at known
      · rcases List.mem_cons.mp known with rfl | later
        · cases inside
        · exact List.mem_cons_of_mem head (ih later inside)
      · split at known
        · rw [List.mem_singleton.mp known] at inside
          rw [List.mem_singleton.mp inside]
          exact List.mem_cons_self
        · rename_i first parts split_
          rcases List.mem_cons.mp known with rfl | later
          · rcases List.mem_cons.mp inside with rfl | there
            · exact List.mem_cons_self
            · exact List.mem_cons_of_mem head (ih (split_ ▸ List.mem_cons_self) there)
          · exact List.mem_cons_of_mem head (ih (split_ ▸ List.mem_cons_of_mem first later) inside)

/-- A name of usable glyphs gives a path that can be named. -/
theorem Disk.misnamed?_child {w : Path} {t : Text} (named : misnamed? w = none)
    (usable : ∀ g ∈ t, NameGlyph g) : misnamed? (w.child t) = none := by
  rw [misnamed?_eq_none_iff] at named ⊢
  have part : ∀ name ∈ Path.namesOf t, ∀ g ∈ name, NameGlyph g := fun name known g inside =>
    usable g (Text.mem_of_mem_splitOn (List.mem_filter.mp known).1 inside)
  intro name known g inside
  unfold Path.child Path.join at known
  split at known
  · exact part name known g inside
  · rcases List.mem_append.mp known with first | second
    · exact named name first g inside
    · exact part name second g inside

/-- The names under which a run hands out paths are usable when those of its layout are. -/
theorem Project.nameGlyph_of_scratchNames {project : Project}
    (usable : ∀ g ∈ project.layout.compiler ++ project.layout.testDirName, Disk.NameGlyph g) :
    ∀ name ∈ project.scratchNames, ∀ g ∈ name, Disk.NameGlyph g := by
  have log : ∀ stage : Stage, ∀ g ∈ buildLogName stage, Disk.NameGlyph g := by
    intro stage
    cases stage <;> decide
  have ending : ∀ stage : Stage, ∀ g ∈ Text.ofString "_stage" ++ Text.ofNat stage.number,
      Disk.NameGlyph g := by
    intro stage
    cases stage <;> decide
  intro name known g inside
  unfold scratchNames at known
  rcases List.mem_append.mp known with first | last
  · rcases List.mem_append.mp first with logs | compilers
    · obtain ⟨stage, -, rfl⟩ := List.mem_map.mp logs
      exact log stage g inside
    · obtain ⟨stage, -, rfl⟩ := List.mem_map.mp compilers
      unfold Layout.stageName at inside
      rw [List.append_assoc] at inside
      rcases List.mem_append.mp inside with compiler | fixed
      · exact usable g (List.mem_append_left _ compiler)
      · exact ending stage g fixed
  · rw [List.mem_singleton.mp last] at inside
    exact usable g (List.mem_append_right _ inside)

namespace Scratch.Tracks

variable {names : List Text} {scratch : Scratch} {path : Path}

/-- A tracked path is the working directory or was handed out under one of the names. -/
theorem cases (tracks : scratch.Tracks names) (member : path ∈ scratch.tracked) :
    ∃ w, scratch.workdir = some w ∧ w.Proper ∧ Disk.misnamed? w = none ∧
      (path = w ∨ ∃ name ∈ names, path = w.child name) := by
  cases made : scratch.workdir with
  | none =>
      rw [tracks.before made] at member
      cases member
  | some w =>
      obtain ⟨proper, named, rest, all, children⟩ := tracks.since w made
      rw [all] at member
      exact ⟨w, rfl, proper, named, (List.mem_cons.mp member).imp_right (children path)⟩

theorem proper (tracks : scratch.Tracks names) (member : path ∈ scratch.tracked) :
    path.Proper := by
  obtain ⟨w, -, proper, -, rfl | ⟨name, -, rfl⟩⟩ := tracks.cases member
  · exact proper
  · exact proper.child name

theorem named (tracks : scratch.Tracks names)
    (usable : ∀ name ∈ names, ∀ g ∈ name, Disk.NameGlyph g) (member : path ∈ scratch.tracked) :
    Disk.misnamed? path = none := by
  obtain ⟨w, -, -, named, rfl | ⟨name, known, rfl⟩⟩ := tracks.cases member
  · exact named
  · exact Disk.misnamed?_child named (usable name known)

end Scratch.Tracks

namespace Run

variable {host : Host} {options : RunOptions} {project : Project} {s t : Session}

/-- What a run leaves of its temporary files, when `left` is the disk after their removal. -/
structure CleanedUp (host : Host) (result : Except Fault Nat) (scratch : Scratch) (left : Disk) :
    Prop where
  /-- The working directory comes first among the tracked paths. -/
  workdir : ∀ w, scratch.workdir = some w → scratch.tracked.head? = some w
  /-- Paths that can all be named are each gone, or blamed in a message. -/
  dealt : (∀ path ∈ scratch.tracked, Disk.misnamed? path = none) →
    ∀ path ∈ scratch.tracked, left.Absent host.cwd path ∨ scratch.Blames path
  /-- A path that cannot be named ends the run, and of those before it none is looked at. -/
  stopped : (∃ path ∈ scratch.tracked, Disk.misnamed? path ≠ none) →
    ∃ before bad after fault, scratch.tracked = before ++ bad :: after ∧
      Disk.misnamed? bad = some fault ∧ result = .error (.file fault) ∧
      (∀ path ∈ after, left.Absent host.cwd path ∨ scratch.Blames path) ∧
      ∀ message ∈ scratch.failures, ∃ path ∈ after, ∃ error, message = path.blame error

theorem exists_first_misnamed {paths : List Path}
    (unnamed : ∃ path ∈ paths, Disk.misnamed? path ≠ none) :
    ∃ good bad later fault, paths = good ++ bad :: later ∧
      (∀ path ∈ good, Disk.misnamed? path = none) ∧ Disk.misnamed? bad = some fault := by
  obtain ⟨path, member, some_⟩ := unnamed
  have found : (paths.find? fun path => (Disk.misnamed? path).isSome).isSome = true :=
    List.find?_isSome.mpr ⟨path, member, Option.isSome_iff_ne_none.mpr some_⟩
  obtain ⟨bad, first⟩ := Option.isSome_iff_exists.mp found
  obtain ⟨here, good, later, all, before⟩ := List.find?_eq_some_iff_append.mp first
  obtain ⟨fault, unnamed⟩ := Option.isSome_iff_exists.mp here
  exact ⟨good, bad, later, fault, all, fun path known => by simpa using before path known, unnamed⟩

/-- A pass of a run that has taken over the signals cleans up. -/
theorem cleanedUp_pass {names : List Text} (handled : ∀ signal, s.handler signal = .scratch)
    (tracks : s.scratch.Tracks names) (clean : s.scratch.failures = []) (result : Except Fault Nat)
    (stops : ∀ fault, (pass host s).1 = .error (.file fault) → result = .error (.file fault)) :
    CleanedUp host result (pass host s).2.scratch (pass host s).2.disk := by
  have settled : (torn s).Settled := ⟨handled, rfl⟩
  have same := pass_frame host s
  refine ⟨fun w made => ?_, fun named path member => ?_, fun unnamed => ?_⟩
  · rw [same.2.1] at made
    obtain ⟨-, -, rest, all, -⟩ := tracks.since w made
    rw [same.1, all]
    rfl
  · rw [same.1] at named member
    obtain ⟨t, ended, dealt⟩ := pass_settled host settled
      (fun path known => named path (List.mem_reverse.mp known))
      fun path known => tracks.proper (List.mem_reverse.mp known)
    have passed : (pass host s).2 = t := by
      unfold pass
      rw [ended]
    rw [passed]
    exact dealt path (List.mem_reverse.mpr member)
  · rw [same.1] at unnamed
    obtain ⟨path, member, misnamed⟩ := unnamed
    obtain ⟨good, bad, later, fault, all, named, here⟩ :=
      exists_first_misnamed ⟨path, List.mem_reverse.mpr member, misnamed⟩
    have order : s.scratch.tracked = later.reverse ++ bad :: good.reverse := by
      have back := congrArg List.reverse all
      simpa using back
    obtain ⟨t, ended, steps, dealt⟩ := pass_of_misnamed host later settled named
      (fun path known => tracks.proper (by simp [order, known])) here
    have passed : pass host s = (.error (.file fault), t) := by
      unfold pass
      rw [all, ended]
    rw [passed] at stops
    refine ⟨later.reverse, bad, good.reverse, fault, same.1.trans order, here, stops fault rfl, ?_, ?_⟩
    · rw [passed]
      exact fun path known => dealt path (List.mem_reverse.mp known)
    · rw [passed]
      intro message noted
      rcases (Removing.mem_failures steps message).2 noted with old | ⟨path, known, error, text⟩
      · have none : message ∈ s.scratch.failures := old
        rw [clean] at none
        cases none
      · exact ⟨path, List.mem_reverse.mpr known, error, text⟩

theorem taken_failures (s : Session) : (taken s).scratch.failures = s.scratch.failures := by
  unfold taken
  split <;> rfl

theorem tracks_taken {names : List Text} (tracks : s.scratch.Tracks names) :
    (taken s).scratch.Tracks names := by
  unfold taken
  split
  · exact ⟨tracks.before, tracks.since⟩
  · exact tracks

theorem tracks_staged {disk : Disk} (opened : Opened host options disk project s) :
    (staged host options project s).scratch.Tracks project.scratchNames := by
  refine Deed.tracks (deeds_staged host options project s) (tracks_taken ?_)
  rw [opened.scratch]
  exact ⟨fun _ => rfl, nofun⟩

/-- However a run ends that takes over the signals, it has dealt with its temporary files as
`CleanedUp` tells. The names of a layout without null characters and halves of surrogate
pairs give tracked paths that can all be named. -/
theorem verify_cleans_up (host : Host) (options : RunOptions) (disk : Disk) (base : Option Path)
    (handles : Bool) :
    let signalling := { options with handlesSignals := true }
    let start := Session.start disk (Scratch.fresh base handles)
    let ended := from_ (verify host signalling) start
    (∃ left, Disk.Gets host.cwd options.reportFile left ended.2.disk ∧
        CleanedUp host ended.1 ended.2.scratch left) ∧
      ∀ project t, from_ (openProject host signalling) start = (.ok (some project), t) →
        (∀ g ∈ project.layout.compiler ++ project.layout.testDirName, Disk.NameGlyph g) →
        ∀ path ∈ ended.2.scratch.tracked, Disk.misnamed? path = none := by
  intro signalling start ended
  rcases verify_opened host signalling disk (Scratch.fresh base handles) with
    ⟨log, console, same, missing⟩ | ⟨project, t, opening, opened, same⟩
  · have reached : ended.2 = { start with log, console } := same
    rw [reached]
    refine ⟨⟨disk, .nothing, nofun, fun _ _ member => ?_, fun ⟨_, member, _⟩ => ?_⟩,
      fun project t opening _ => absurd opening (missing project t)⟩
    · cases member
    · cases member
  · have live := opened.live
    have deeds := deeds_staged host signalling project t
    obtain ⟨-, -, failures⟩ := Deed.frame deeds
    have handled : ∀ signal, (staged host signalling project t).handler signal = .scratch :=
      opened.handled rfl
    have clean : (staged host signalling project t).scratch.failures = [] := by
      rw [failures, taken_failures, opened.scratch]
      rfl
    have tracks := tracks_staged opened
    obtain ⟨scratch, -, gets, -, stops⟩ := verifyProject_course host signalling project live
    have reached : ended = from_ (verifyProject host signalling project) t := same
    rw [reached]
    have cleaned := cleanedUp_pass handled tracks clean
      (from_ (verifyProject host signalling project) t).1 fun fault stopped =>
        stops (.file fault) stopped id
    refine ⟨⟨_, gets, ?_⟩, fun project' t' opening' usable path member => ?_⟩
    · rw [scratch]
      exact ⟨cleaned.workdir, cleaned.dealt, cleaned.stopped⟩
    · cases opening.symm.trans opening'
      rw [scratch] at member
      have kept : path ∈ (staged host signalling project t).scratch.tracked :=
        (pass_frame host _).1 ▸ member
      exact tracks.named (Project.nameGlyph_of_scratchNames usable) kept

end Run

end StageParity
