import StageParity.Proofs.Containment
import StageParity.Proofs.Snags

/-!
# Working directories in order

A working directory is in order (`Disk.Orderly`) when it can be entered and changed, files can be
written where the logs of a run go, no symbolic link stands where a command leaves its output, and
the directory of the checks is there or has a free name. In such a directory nothing is refused that
a run does not guard. A run keeps its working directory in order, provided that the directory of the
checks has its name for itself and the commands do so too.
-/

namespace StageParity

open Relation (ReflTransGen)

theorem Entry.allows_withMode {entry : Entry} {bits : Nat} (more : Nat)
    (allowed : entry.allows bits = true) :
    (entry.withMode (entry.mode ||| more)).allows bits = true := by
  have kept (mode : Nat) (all : mode &&& bits = bits) : (mode ||| more) &&& bits = bits := by
    rw [Nat.and_or_distrib_right, all]
    refine Nat.eq_of_testBit_eq fun nth => ?_
    simp only [Nat.testBit_or, Nat.testBit_and]
    cases bits.testBit nth <;> simp
  cases entry with
  | directory mode => exact decide_eq_true (kept mode (of_decide_eq_true allowed))
  | file mode data => exact decide_eq_true (kept mode (of_decide_eq_true allowed))
  | link target => exact allowed

namespace Disk

variable {d after : Disk} {cwd place : Location} {p : Path} {name : Text} {mode : Nat}

/-- A directory that may be entered and changed. -/
def Open (d : Disk) (place : Location) : Prop :=
  ∃ mode, d.get? place = some (.directory mode) ∧ mode &&& Entry.passBit = Entry.passBit ∧
    mode &&& Entry.writeBit = Entry.writeBit

/-- A place that is free or holds a file that may be changed. -/
def Writable (d : Disk) (spot : Location) : Prop :=
  ∀ entry, d.get? spot = some entry → entry.isFile = true ∧ entry.allows Entry.writeBit = true

/-- A place without a symbolic link. -/
def Solid (d : Disk) (spot : Location) : Prop :=
  ∀ entry, d.get? spot = some entry → entry.isLink = false

theorem Open.passable (open_ : d.Open place) : d.Passable place := by
  obtain ⟨mode, held, pass, -⟩ := open_
  exact ⟨mode, held, by rw [pass]; decide⟩

theorem Writable.solid {spot : Location} (writable : d.Writable spot) : d.Solid spot := by
  intro entry held
  obtain ⟨file, -⟩ := writable entry held
  cases entry with
  | file mode data => rfl
  | _ => cases file

theorem writable_of_none {spot : Location} (free : d.get? spot = none) : d.Writable spot :=
  fun _ held => nomatch free.symm.trans held

/-! ## One name further -/

/-- A text that names one entry of a directory. -/
structure OneName (t : Text) : Prop where
  single : Path.ofText t = ⟨.relative, [t]⟩
  plain : Plain t
  usable : ∀ g ∈ t, NameGlyph g

/-- Where a name leads from a directory. -/
def spotAt (d : Disk) (place : Location) (name : Text) : Spot :=
  match d.get? (place ++ [name]) with
  | some entry => .found (place ++ [name]) entry
  | none => .vacant place name

theorem place_spotAt (d : Disk) (place : Location) (name : Text) :
    (d.spotAt place name).place = place ++ [name] := by
  unfold spotAt
  split <;> rfl

theorem walk_one {aim : Aim} {links : Nat} (passable : d.Passable place) (plain : Plain name)
    (solid : d.Solid (place ++ [name])) :
    d.walk aim links place [name] = .ok (d.spotAt place name) := by
  rw [walk_plain passable plain]
  unfold spotAt
  cases held : d.get? (place ++ [name]) with
  | none => rfl
  | some entry =>
      have here : d.walk aim links (place ++ [name]) [] = .ok (.found (place ++ [name]) entry) := by
        rw [walk_eq, follow, held]
      cases entry with
      | directory mode => exact here
      | file mode data => exact here
      | link target => cases solid _ held

/-- A name after a path that leads to a directory leads to the entry of that name. -/
theorem locate_child (aim : Aim) (found : d.locate cwd .entry p = .ok (.found place (.directory mode)))
    (passable : d.Passable place) (one : OneName name)
    (short : (Text.encode (p.child name).text).length ≤ maxPath)
    (solid : d.Solid (place ++ [name])) :
    d.locate cwd aim (p.child name) = .ok (d.spotAt place name) := by
  obtain ⟨nameable, leads⟩ := locate_eq_ok_iff.mp found
  obtain ⟨fewer, same⟩ := walk_append leads
  have child : p.child name = ⟨p.anchor, p.names ++ [name]⟩ := by
    unfold Path.child
    rw [one.single]
    rfl
  refine locate_eq_ok_iff.mpr ⟨⟨misnamed?_child nameable.named one.usable, short⟩, ?_⟩
  rw [child]
  refine leads_of_walk ((same aim [name]).trans ?_)
  exact walk_one passable one.plain solid

theorem isFile_of_located {spot : Spot} (located : d.locate cwd .target p = .ok spot) :
    ∃ answer, d.isFile cwd p = .ok answer := by
  unfold isFile testAt entryAt
  rw [located]
  cases spot with
  | found place entry => exact ⟨_, rfl⟩
  | vacant directory name => exact ⟨false, rfl⟩

theorem writeFile_of_located (located : d.locate cwd .file p = .ok (d.spotAt place name))
    (open_ : d.Open place) (writable : d.Writable (place ++ [name])) (data : List UInt8) :
    ∃ after, d.writeFile cwd p data = .ok after := by
  unfold writeFile
  rw [located]
  unfold spotAt
  cases held : d.get? (place ++ [name]) with
  | none =>
      obtain ⟨mode, here, -, write⟩ := open_
      refine ⟨d.put (place ++ [name]) (.file newFileMode data), if_pos ?_⟩
      rw [here]
      exact decide_eq_true write
  | some entry =>
      obtain ⟨file, allowed⟩ := writable entry held
      cases entry with
      | file mode old =>
          refine ⟨d.put (place ++ [name]) (.file mode data), if_neg ?_⟩
          rw [show mode &&& Entry.writeBit = _ from of_decide_eq_true allowed]
          decide
      | _ => cases file

theorem makeDirectories_of_vacant {directory : Location}
    (located : d.locate cwd .entry p = .ok (.vacant directory name)) (open_ : d.Open directory)
    (depth : Nat) :
    d.makeDirectories cwd depth p =
      (d.put (directory ++ [name]) (.directory newDirectoryMode), none) := by
  have made : d.makeDirectory cwd p newDirectoryMode =
      .ok (d.put (directory ++ [name]) (.directory newDirectoryMode)) := by
    obtain ⟨mode, here, -, write⟩ := open_
    unfold makeDirectory
    rw [located]
    refine if_pos ?_
    rw [here]
    exact decide_eq_true write
  cases depth <;> simp [makeDirectories, made]

theorem makeDirectories_of_directory
    (located : d.locate cwd .entry p = .ok (.found place (.directory mode)))
    (directory : d.isDirectory cwd p = .ok true) (depth : Nat) :
    d.makeDirectories cwd depth p = (d, none) := by
  have refused : d.makeDirectory cwd p newDirectoryMode = .error (refuse .exists_ p) := by
    unfold makeDirectory
    rw [located]
    rfl
  have present : isMissing (refuse .exists_ p) = false := rfl
  have settled : d.settle cwd p (refuse .exists_ p) = (d, none) := by
    simp [settle, refuse, directory]
  cases depth <;> simp [makeDirectories, refused, present, settled]

/-! ## Changes that lose nothing -/

/-- Nothing is lost from the first disk to the second one: entries keep their kind and their
permissions, and what is new are files that may be changed. -/
structure Keeps (d after : Disk) : Prop where
  old : ∀ spot entry, d.get? spot = some entry → ∃ more, after.get? spot = some more ∧
    Grown entry more ∧ ∀ bits, entry.allows bits = true → more.allows bits = true
  new : ∀ spot, d.get? spot = none → after.Writable spot

namespace Keeps

variable {spot : Location}

theorem grows (keeps : d.Keeps after) : d.Grows after := by
  intro spot entry held
  obtain ⟨more, kept, grown, -⟩ := keeps.old spot entry held
  exact ⟨more, kept, grown⟩

theorem open_ (keeps : d.Keeps after) (open_ : d.Open spot) : after.Open spot := by
  obtain ⟨mode, held, pass, write⟩ := open_
  obtain ⟨more, kept, grown, allows⟩ := keeps.old spot _ held
  cases more with
  | directory mode' =>
      exact ⟨mode', kept, of_decide_eq_true (allows _ (decide_eq_true pass)),
        of_decide_eq_true (allows _ (decide_eq_true write))⟩
  | _ => cases grown

theorem writable (keeps : d.Keeps after) (writable : d.Writable spot) : after.Writable spot := by
  cases held : d.get? spot with
  | none => exact keeps.new spot held
  | some entry =>
      obtain ⟨more, kept, grown, allows⟩ := keeps.old spot entry held
      obtain ⟨file, allowed⟩ := writable entry held
      intro other same
      cases kept.symm.trans same
      refine ⟨?_, allows _ allowed⟩
      cases entry with
      | file mode data =>
          cases more with
          | file _ _ => rfl
          | _ => cases grown
      | _ => cases file

theorem solid (keeps : d.Keeps after) (solid : d.Solid spot) : after.Solid spot := by
  cases held : d.get? spot with
  | none => exact (keeps.new spot held).solid
  | some entry =>
      obtain ⟨more, kept, grown, -⟩ := keeps.old spot entry held
      intro other same
      cases kept.symm.trans same
      rw [grown.isLink_eq]
      exact solid entry held

/-- A path that led to a directory still leads to it. -/
theorem located (keeps : d.Keeps after)
    (found : ∃ mode, d.locate cwd .entry p = .ok (.found place (.directory mode))) :
    ∃ mode, after.locate cwd .entry p = .ok (.found place (.directory mode)) := by
  obtain ⟨mode, found⟩ := found
  obtain ⟨nameable, leads⟩ := locate_eq_ok_iff.mp found
  obtain ⟨more, grown, still⟩ := leads.of_grows keeps.grows
  cases more with
  | directory mode' => exact ⟨mode', locate_eq_ok_iff.mpr ⟨nameable, still⟩⟩
  | _ => cases grown

end Keeps

theorem keeps_put_of_none {spot : Location} {entry : Entry} (free : d.get? spot = none)
    (file : entry.isFile = true) (allowed : entry.allows Entry.writeBit = true) :
    d.Keeps (d.put spot entry) := by
  refine ⟨fun other old held => ⟨old, ?_, Grown.refl old, fun _ => id⟩, fun other none inner held => ?_⟩
  · rw [get?_put, if_neg]
    · exact held
    · rintro ⟨rfl, -⟩
      cases free.symm.trans held
  · rw [get?_put] at held
    split at held
    · cases held
      exact ⟨file, allowed⟩
    · cases none.symm.trans held

theorem keeps_put_of_grown {spot : Location} {entry more : Entry} (present : d.get? spot = some entry)
    (grown : Grown entry more) (allows : ∀ bits, entry.allows bits = true → more.allows bits = true) :
    d.Keeps (d.put spot more) := by
  refine ⟨fun other old held => ?_, fun other none inner held => ?_⟩
  · rw [get?_put]
    split
    · rename_i same
      rw [same.1] at held
      cases present.symm.trans held
      exact ⟨more, rfl, grown, allows⟩
    · exact ⟨old, held, Grown.refl old, fun _ => id⟩
  · rw [get?_put] at held
    split at held
    · rename_i same
      rw [same.1] at none
      cases none.symm.trans present
    · cases none.symm.trans held

/-- A file is written where its path leads, and nowhere else. -/
theorem writeFile_eq_ok {data : List UInt8} (written : d.writeFile cwd p data = .ok after) :
    ∃ spot, d.locate cwd .file p = .ok spot ∧ d.Keeps after ∧
      (∃ mode, after.get? spot.place = some (.file mode data)) ∧
      ∀ other, other ≠ spot.place → after.get? other = d.get? other := by
  obtain ⟨spot, mode, located, rfl, before⟩ := writeFile_cases written
  have low : spot.place ≠ [] := fun top => by
    rw [top] at before
    rcases before with ⟨old, ⟨⟩⟩ | ⟨⟨⟩, -⟩
  refine ⟨spot, located, ?_, ⟨mode, (get?_put ..).trans (if_pos ⟨rfl, low⟩)⟩, fun other far => ?_⟩
  · rcases before with ⟨old, held⟩ | ⟨free, rfl⟩
    · exact keeps_put_of_grown held trivial fun _ => id
    · have writes : newFileMode &&& Entry.writeBit = Entry.writeBit := by decide
      exact keeps_put_of_none free rfl (decide_eq_true writes)
  · rw [get?_put, if_neg fun same => far same.1]

/-- Marking a file changes permissions only. -/
theorem keeps_addMode {bits : Nat} (marked : d.addMode cwd p bits = .ok after) :
    d.Keeps after ∧ ∀ other, d.get? other = none → after.get? other = none := by
  unfold addMode at marked
  rcases located : d.locate cwd .target p with fault | (⟨place, entry⟩ | ⟨directory, name⟩)
  · rw [located] at marked
    cases marked
  · rw [located] at marked
    cases marked
    have held := (locate_eq_ok_iff.mp located).2.get?_of_found
    refine ⟨keeps_put_of_grown held (grown_withMode entry bits) fun _ => Entry.allows_withMode bits,
      fun other none => ?_⟩
    rw [get?_put, if_neg]
    · exact none
    · rintro ⟨rfl, -⟩
      cases none.symm.trans held
  · rw [located] at marked
    cases marked

end Disk

/-! ## The files of a run -/

/-- The names that a layout gives in a working directory: each of them stands for one entry, and the
directory of the checks has its name for itself. -/
structure Layout.Apart (layout : Layout) : Prop where
  compilers : ∀ stage, Disk.OneName (layout.stageName stage)
  checks : Disk.OneName layout.testDirName
  own : ∀ stage, layout.testDirName ≠ layout.stageName stage ∧
    layout.testDirName ≠ buildLogName stage

/-- A working directory whose path leaves room for the files of a run and can stand in a script. -/
structure Project.Fits (host : Host) (project : Project) (w : Path) : Prop where
  short : ∀ path, project.Writes w path ∨ project.Marks w path ∨ path = project.checksDir w →
    (Text.encode path.text).length ≤ Disk.maxPath
  script : Disk.strays? (delegationScript
    (Path.absolute ⟨.root, host.cwd⟩ (project.compiler w .zero)).text) = none

theorem oneName_buildLogName (stage : Stage) : Disk.OneName (buildLogName stage) := by
  cases stage <;> exact ⟨by decide, ⟨by decide, by decide, by decide, by decide⟩, by decide⟩

theorem oneName_logName (kind : CheckKind) (stage : Stage) : Disk.OneName (kind.logName stage) := by
  cases kind <;> cases stage <;>
    exact ⟨by decide, ⟨by decide, by decide, by decide, by decide⟩, by decide⟩

theorem oneName_sampleName (stage : Stage) : Disk.OneName (sampleName stage) := by
  cases stage <;> exact ⟨by decide, ⟨by decide, by decide, by decide, by decide⟩, by decide⟩

/-- The place of the directory of the checks in that of a working directory. -/
def Project.checksPlace (project : Project) (place : Location) : Location :=
  place ++ [project.layout.testDirName]

/-- A working directory in order, at the given place. The last argument tells whether the directory
of the checks was made. -/
structure Disk.Orderly (host : Host) (project : Project) (w : Path) (place : Location) (made : Bool)
    (d : Disk) : Prop where
  found : ∃ mode, d.locate host.cwd .entry w = .ok (.found place (.directory mode))
  open_ : d.Open place
  buildLogs : ∀ stage, d.Writable (place ++ [buildLogName stage])
  compilers : ∀ stage, d.Solid (place ++ [project.layout.stageName stage])
  checks : d.Open (project.checksPlace place) ∨
    made = false ∧ d.get? (project.checksPlace place) = none
  checkLogs : ∀ (kind : CheckKind) stage,
    d.Writable (project.checksPlace place ++ [kind.logName stage])
  samples : ∀ stage, d.Solid (project.checksPlace place ++ [sampleName stage])

namespace Disk.Orderly

variable {host : Host} {project : Project} {w : Path} {place : Location} {made : Bool}
variable {d after : Disk}

/-! ### What is not refused -/

theorem named (orderly : d.Orderly host project w place made) : misnamed? w = none := by
  obtain ⟨mode, found⟩ := orderly.found
  exact (locate_eq_ok_iff.mp found).1.named

/-- An entry of the working directory is looked up under its name. -/
theorem located {name : Text} (orderly : d.Orderly host project w place made) (aim : Aim)
    (one : OneName name) (short : (Text.encode (w.child name).text).length ≤ maxPath)
    (solid : d.Solid (place ++ [name])) :
    d.locate host.cwd aim (w.child name) = .ok (d.spotAt place name) := by
  obtain ⟨mode, found⟩ := orderly.found
  exact locate_child aim found orderly.open_.passable one short solid

theorem located_checks (orderly : d.Orderly host project w place made) (apart : project.layout.Apart)
    (fits : project.Fits host w) (aim : Aim) :
    d.locate host.cwd aim (project.checksDir w) =
      .ok (d.spotAt place project.layout.testDirName) := by
  refine orderly.located aim apart.checks (fits.short _ (.inr (.inr rfl))) fun entry held => ?_
  rcases orderly.checks with ⟨mode, there, -⟩ | ⟨-, free⟩
  · cases there.symm.trans held
    rfl
  · cases free.symm.trans held

/-- An entry of the directory of the checks is looked up under its name, once that is there. -/
theorem located_in_checks {name : Text} (orderly : d.Orderly host project w place made)
    (apart : project.layout.Apart) (fits : project.Fits host w)
    (open_ : d.Open (project.checksPlace place)) (aim : Aim) (one : OneName name)
    (short : (Text.encode ((project.checksDir w).child name).text).length ≤ maxPath)
    (solid : d.Solid (project.checksPlace place ++ [name])) :
    d.locate host.cwd aim ((project.checksDir w).child name) =
      .ok (d.spotAt (project.checksPlace place) name) := by
  have passable := open_.passable
  obtain ⟨mode, there, -⟩ := open_
  have found := orderly.located_checks apart fits .entry
  unfold spotAt at found
  rw [show d.get? (place ++ [project.layout.testDirName]) = _ from there] at found
  exact locate_child aim found passable one short solid

/-- Before the directory of the checks was made there is nothing in it. -/
theorem missing_in_checks {name : Text} (orderly : d.Orderly host project w place made)
    (apart : project.layout.Apart) (free : d.get? (project.checksPlace place) = none) (aim : Aim)
    (one : OneName name)
    (short : (Text.encode ((project.checksDir w).child name).text).length ≤ maxPath) :
    d.locate host.cwd aim ((project.checksDir w).child name) =
      .error (refuse .notFound ((project.checksDir w).child name)) := by
  obtain ⟨mode, found⟩ := orderly.found
  obtain ⟨nameable, leads⟩ := locate_eq_ok_iff.mp found
  obtain ⟨fewer, same⟩ := walk_append leads
  have named : misnamed? ((project.checksDir w).child name) = none :=
    misnamed?_child (misnamed?_child nameable.named apart.checks.usable) one.usable
  have child : (project.checksDir w).child name =
      ⟨w.anchor, w.names ++ [project.layout.testDirName, name]⟩ := by
    unfold Project.checksDir Path.child
    rw [apart.checks.single, one.single]
    exact congrArg (Path.mk w.anchor) (List.append_assoc _ _ _)
  have lost : d.walk aim maxLinks (origin host.cwd ((project.checksDir w).child name))
      ((project.checksDir w).child name).names = .error .notFound := by
    rw [child]
    change d.walk aim maxLinks (origin host.cwd w) _ = _
    rw [same, walk_plain orderly.open_.passable apart.checks.plain,
      show d.get? (place ++ [project.layout.testDirName]) = none from free]
    simp [one.plain.notEmpty]
  unfold locate locateSteps
  rw [named, List.append_nil, lost]
  exact if_neg (Nat.not_lt_of_le short)

theorem asks_compiler (orderly : d.Orderly host project w place made) (apart : project.layout.Apart)
    (fits : project.Fits host w) (stage : Stage) :
    ∃ answer, d.isFile host.cwd (project.compiler w stage) = .ok answer :=
  isFile_of_located (orderly.located .target (apart.compilers stage)
    (fits.short _ (.inr (.inl (.compiler stage)))) (orderly.compilers stage))

theorem asks_sample (orderly : d.Orderly host project w place made) (apart : project.layout.Apart)
    (fits : project.Fits host w) (stage : Stage) :
    ∃ answer, d.isFile host.cwd (project.compiledSample w stage) = .ok answer := by
  have one := oneName_sampleName stage
  have short := fits.short _ (.inr (.inl (.sample stage)))
  rcases orderly.checks with open_ | ⟨-, free⟩
  · exact isFile_of_located
      (orderly.located_in_checks apart fits open_ .target one short (orderly.samples stage))
  · refine ⟨false, ?_⟩
    unfold isFile testAt entryAt
    rw [show d.locate host.cwd .target (project.compiledSample w stage) = _ from
      orderly.missing_in_checks apart free .target one short]
    rfl

theorem writes_buildLog (orderly : d.Orderly host project w place made) (fits : project.Fits host w)
    (stage : Stage) (data : List UInt8) :
    ∃ after, d.writeFile host.cwd (w.child (buildLogName stage)) data = .ok after := by
  have writable := orderly.buildLogs stage
  exact writeFile_of_located (orderly.located .file (oneName_buildLogName stage)
    (fits.short _ (.inl (.buildLog stage))) writable.solid) orderly.open_ writable data

theorem writes_checkLog (orderly : d.Orderly host project w place true) (apart : project.layout.Apart)
    (fits : project.Fits host w) (kind : CheckKind) (stage : Stage) (data : List UInt8) :
    ∃ after, d.writeFile host.cwd (project.checkLog w kind stage) data = .ok after := by
  rcases orderly.checks with open_ | ⟨unmade, -⟩
  · have writable := orderly.checkLogs kind stage
    exact writeFile_of_located (orderly.located_in_checks apart fits open_ .file
      (oneName_logName kind stage) (fits.short _ (.inl (.checkLog kind stage))) writable.solid)
      open_ writable data
  · cases unmade

/-! ### What keeps it in order -/

theorem of_keeps (orderly : d.Orderly host project w place made) (keeps : d.Keeps after)
    (free : d.get? (project.checksPlace place) = none →
      after.get? (project.checksPlace place) = none) :
    after.Orderly host project w place made where
  found := keeps.located orderly.found
  open_ := keeps.open_ orderly.open_
  buildLogs stage := keeps.writable (orderly.buildLogs stage)
  compilers stage := keeps.solid (orderly.compilers stage)
  checks := orderly.checks.imp keeps.open_ (And.imp_right free)
  checkLogs kind stage := keeps.writable (orderly.checkLogs kind stage)
  samples stage := keeps.solid (orderly.samples stage)

/-- A file that a run writes does not take the name of the directory of the checks. -/
theorem of_write {path : Path} {data : List UInt8} (orderly : d.Orderly host project w place made)
    (apart : project.layout.Apart) (fits : project.Fits host w) (known : project.Writes w path)
    (written : d.writeFile host.cwd path data = .ok after) :
    after.Orderly host project w place made := by
  obtain ⟨spot, located, keeps, -, elsewhere⟩ := writeFile_eq_ok written
  refine orderly.of_keeps keeps fun free => (elsewhere _ fun same => ?_).trans free
  have short := fits.short _ (.inl known)
  -- A spot of another name is another place.
  have other {name : Text} (differs : project.layout.testDirName ≠ name)
      (there : d.locate host.cwd .file path = .ok (d.spotAt place name)) : False := by
    cases located.symm.trans there
    rw [place_spotAt] at same
    exact differs (List.cons.inj (List.append_cancel_left same)).1
  cases known with
  | buildLog stage =>
      exact other (apart.own stage).2 (orderly.located .file (oneName_buildLogName stage) short
        (orderly.buildLogs stage).solid)
  | compiler stage =>
      exact other (apart.own stage).1 (orderly.located .file (apart.compilers stage) short
        (orderly.compilers stage))
  | checkLog kind stage =>
      cases located.symm.trans
        (orderly.missing_in_checks apart free .file (oneName_logName kind stage) short)

theorem of_mark {path : Path} {bits : Nat} (orderly : d.Orderly host project w place made)
    (marked : d.addMode host.cwd path bits = .ok after) : after.Orderly host project w place made := by
  obtain ⟨keeps, free⟩ := keeps_addMode marked
  exact orderly.of_keeps keeps (free _)

/-- A new directory of the checks is in order. -/
theorem of_made (orderly : d.Orderly host project w place made) (apart : project.layout.Apart)
    (free : d.get? (project.checksPlace place) = none) :
    (d.put (project.checksPlace place) (.directory newDirectoryMode)).Orderly host project w place
      true := by
  have elsewhere (spot : Location) (far : spot ≠ project.checksPlace place) :
      (d.put (project.checksPlace place) (.directory newDirectoryMode)).get? spot = d.get? spot := by
    rw [get?_put, if_neg fun same => far same.1]
  have beside (name : Text) (differs : project.layout.testDirName ≠ name) :
      place ++ [name] ≠ project.checksPlace place := fun same =>
    differs (List.cons.inj (List.append_cancel_left same)).1.symm
  have below (name : Text) : project.checksPlace place ++ [name] ≠ project.checksPlace place := by
    simp
  have made : (d.put (project.checksPlace place) (.directory newDirectoryMode)).get?
      (project.checksPlace place) = some (.directory newDirectoryMode) := by
    rw [get?_put, if_pos ⟨rfl, by simp [Project.checksPlace]⟩]
  refine ⟨?_, ?_, fun stage => ?_, fun stage => ?_, .inl ⟨_, made, by decide, by decide⟩,
    fun kind stage => ?_, fun stage => ?_⟩
  · obtain ⟨mode, found⟩ := orderly.found
    obtain ⟨nameable, leads⟩ := locate_eq_ok_iff.mp found
    obtain ⟨more, grown, still⟩ := leads.of_grows (grows_put_of_none free _)
    cases more with
    | directory mode' => exact ⟨mode', locate_eq_ok_iff.mpr ⟨nameable, still⟩⟩
    | _ => cases grown
  · obtain ⟨mode, held, open_⟩ := orderly.open_
    exact ⟨mode, (elsewhere place (by simp [Project.checksPlace])).trans held, open_⟩
  · intro entry held
    rw [elsewhere _ (beside _ (apart.own stage).2)] at held
    exact orderly.buildLogs stage entry held
  · intro entry held
    rw [elsewhere _ (beside _ (apart.own stage).1)] at held
    exact orderly.compilers stage entry held
  · intro entry held
    rw [elsewhere _ (below _)] at held
    exact orderly.checkLogs kind stage entry held
  · intro entry held
    rw [elsewhere _ (below _)] at held
    exact orderly.samples stage entry held

/-- The directory of the checks can be made, if it is not there. -/
theorem makes_checks (orderly : d.Orderly host project w place made) (apart : project.layout.Apart)
    (fits : project.Fits host w) :
    ∃ after, d.makeDirectories host.cwd (project.checksDir w).names.length (project.checksDir w) =
        (after, none) ∧ after.Orderly host project w place true := by
  have located := orderly.located_checks apart fits .entry
  unfold spotAt at located
  rcases orderly.checks with ⟨mode, there, bits⟩ | ⟨-, free⟩
  · rw [show d.get? (place ++ [project.layout.testDirName]) = _ from there] at located
    have directory : d.isDirectory host.cwd (project.checksDir w) = .ok true := by
      unfold isDirectory testAt entryAt
      rw [orderly.located_checks apart fits .target, spotAt,
        show d.get? (place ++ [project.layout.testDirName]) = _ from there]
      rfl
    exact ⟨d, makeDirectories_of_directory located directory _,
      { orderly with checks := .inl ⟨mode, there, bits⟩ }⟩
  · rw [show d.get? (place ++ [project.layout.testDirName]) = _ from free] at located
    refine ⟨_, makeDirectories_of_vacant located orderly.open_ _, ?_⟩
    exact orderly.of_made apart free

/-- A new working directory on a rooted disk is in order. -/
theorem of_workdir (rooted : d.Rooted)
    (created : d.makeDirectory host.cwd w Run.workdirMode = .ok after) :
    ∃ place, after.Orderly host project w place false := by
  obtain ⟨directory, name, free, rfl⟩ := makeDirectory_eq_ok created
  obtain ⟨nameable, leads⟩ := locate_eq_ok_iff.mp free
  obtain ⟨-, -, none⟩ := leads.of_vacant
  let place := directory ++ [name]
  have held : (d.put place (.directory Run.workdirMode)).get? place =
      some (.directory Run.workdirMode) := by
    rw [get?_put, if_pos ⟨rfl, by simp [place]⟩]
  have empty (first : Text) (rest : List Text) :
      (d.put place (.directory Run.workdirMode)).get? (place ++ first :: rest) = Option.none := by
    rw [get?_put, if_neg fun same => by simpa using same.1]
    exact rooted.none_below none (List.prefix_append _ _)
  have emptyChecks (other : Text) :
      (d.put place (.directory Run.workdirMode)).get? (project.checksPlace place ++ [other]) =
        Option.none := by
    rw [Project.checksPlace, List.append_assoc]
    exact empty _ _
  refine ⟨place, ⟨Run.workdirMode, ?_⟩, ⟨_, held, by decide, by decide⟩, fun stage => ?_,
    fun stage => ?_, .inr ⟨rfl, empty _ _⟩, fun kind stage => ?_, fun stage => ?_⟩
  · exact locate_eq_ok_iff.mpr
      ⟨nameable, leads.of_put (grows_put_of_none none _) held (by decide)⟩
  · exact writable_of_none (empty _ _)
  · exact (writable_of_none (empty _ _)).solid
  · exact writable_of_none (emptyChecks _)
  · exact (writable_of_none (emptyChecks _)).solid

end Disk.Orderly

/-! ## The run -/

/-- What a command does to the disk spares a working directory: entries in directories stay in
directories, and a working directory in order stays in order. -/
structure Spares (host : Host) (project : Project) (w : Path) (before after : Disk) : Prop where
  rooted : before.Rooted → after.Rooted
  orderly : ∀ place made, before.Orderly host project w place made →
    after.Orderly host project w place made

/-- The commands of a run spare a working directory. -/
def Session.Spared (host : Host) (project : Project) (w : Path) (s : Session) : Prop :=
  ∀ nth launch, s.launches[nth]? = some launch →
    Spares host project w launch.disk (host.react nth launch.invocation launch.disk).2

theorem Session.Spared.of_precedes {host : Host} {project : Project} {w : Path} {s t : Session}
    (spared : t.Spared host project w) (precedes : s.Precedes t) : s.Spared host project w := by
  obtain ⟨more, same⟩ := precedes.launches
  intro nth launch known
  refine spared nth launch ?_
  rw [← same, List.getElem?_append_left (List.getElem?_eq_some_iff.mp known).1]
  exact known

/-- A run whose disk is ready for a working directory, and whose working directory is in order once
there is one. -/
structure Session.InOrder (host : Host) (project : Project) (w : Path) (s : Session) : Prop where
  before : s.scratch.workdir = none → s.disk.Rooted ∧ s.testDir = none
  since : s.scratch.workdir = some w →
    ∃ place, s.disk.Orderly host project w place s.testDir.isSome

namespace Advance

variable {host : Host} {project : Project} {w : Path} {s t : Session}

theorem inOrder_step (step : Advance host project s t) (apart : project.layout.Apart)
    (fits : project.Fits host w) (spared : t.Spared host project w)
    (inOrder : s.InOrder host project w) : t.InOrder host project w := by
  -- A run that starts a command leaves the disk as the command did.
  have launched {launch : Launch} (next : t.launches = s.launches ++ [launch])
      (disk : launch.disk = s.disk) : Spares host project w s.disk
        (host.react s.launches.length launch.invocation s.disk).2 := by
    have spares := spared s.launches.length launch (by rw [next]; simp)
    rwa [disk] at spares
  have within {v : Path} (present : s.scratch.workdir = some v)
      (same : t.scratch.workdir = s.scratch.workdir)
      (kept : v = w → ∀ place, s.disk.Orderly host project w place s.testDir.isSome →
        t.disk.Orderly host project w place t.testDir.isSome) : t.InOrder host project w := by
    rw [present] at same
    refine ⟨fun none => ?_, fun there => ?_⟩
    · cases same.symm.trans none
    cases same.symm.trans there
    obtain ⟨place, orderly⟩ := inOrder.since present
    exact ⟨place, kept rfl place orderly⟩
  cases step with
  | makeWorkdir absent made =>
      obtain ⟨rooted, unmade⟩ := inOrder.before absent
      refine ⟨fun none => ?_, fun present => ?_⟩
      · rw [Scratch.add_workdir] at none
        cases none
      · rw [Scratch.add_workdir] at present
        cases present
        rw [unmade]
        exact Disk.Orderly.of_workdir rooted made
  | handOut present named =>
      refine ⟨fun none => ?_, fun same => ?_⟩
      · rw [Scratch.add_workdir, present] at none
        cases none
      · rw [Scratch.add_workdir] at same
        exact inOrder.since same
  | write present known written =>
      refine within present rfl fun same place orderly => ?_
      exact orderly.of_write apart fits (same ▸ known) written
  | mark present known marked =>
      exact within present rfl fun _ place orderly => orderly.of_mark marked
  | makeChecksDir present made =>
      refine within present rfl fun same place orderly => ?_
      obtain ⟨after, done, still⟩ := orderly.makes_checks apart fits
      subst same
      cases done.symm.trans made
      exact still
  | launch | cut =>
      refine ⟨fun none => (inOrder.before none).imp_left (launched rfl rfl).rooted, fun present => ?_⟩
      obtain ⟨place, orderly⟩ := inOrder.since present
      exact ⟨place, (launched rfl rfl).orderly _ _ orderly⟩
  | _ => exact ⟨inOrder.before, inOrder.since⟩

/-- A run keeps its working directory in order. -/
theorem inOrder (advances : ReflTransGen (Advance host project) s t) (apart : project.layout.Apart)
    (fits : project.Fits host w) (spared : t.Spared host project w)
    (inOrder : s.InOrder host project w) : t.InOrder host project w := by
  induction advances with
  | refl => exact inOrder
  | tail _ step ih =>
      exact step.inOrder_step apart fits spared (ih (spared.of_precedes step.extends_.1))

end Advance

/-- In a working directory that is in order nothing is refused that a run does not guard. -/
theorem Session.InOrder.not_snag {host : Host} {project : Project} {w : Path} {s : Session}
    {fault : Fault} (inOrder : s.InOrder host project w) (apart : project.layout.Apart)
    (fits : project.Fits host w) (present : s.scratch.workdir = some w) :
    ¬ InnerSnag host project s w fault := by
  obtain ⟨place, orderly⟩ := inOrder.since present
  intro snag
  cases snag with
  | @buildLog stage data fault refused =>
      obtain ⟨after, written⟩ := orderly.writes_buildLog fits stage data
      cases written.symm.trans refused
  | unnamed unnamed =>
      cases (Disk.misnamed?_child orderly.named (apart.compilers .zero).usable).symm.trans unnamed
  | script stray => cases fits.script.symm.trans stray
  | output known refused =>
      rcases known with rfl | ⟨stage, rfl⟩
      · obtain ⟨answer, asked⟩ := orderly.asks_compiler apart fits .one
        cases asked.symm.trans refused
      · obtain ⟨answer, asked⟩ := orderly.asks_sample apart fits stage
        cases asked.symm.trans refused
  | checksDir refused =>
      obtain ⟨after, made, -⟩ := orderly.makes_checks apart fits
      rw [made] at refused
      cases refused
  | @checkLog kind stage data fault made refused =>
      rw [made] at orderly
      obtain ⟨after, written⟩ := orderly.writes_checkLog apart fits kind stage data
      cases written.symm.trans refused

end StageParity
