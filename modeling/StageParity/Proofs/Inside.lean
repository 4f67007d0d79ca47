import StageParity.Proofs.Deeds
import StageParity.Proofs.Removal

/-!
# Changes inside a directory

A path inside another one follows it with names that never climb above it. As long as the
other path leads to a directory without symbolic links in it (`Disk.Houses`), what such a
path leads to lies in that directory too, and so writing, marking, making and removing
what it leads to changes nothing elsewhere.
-/

namespace StageParity

namespace Path

/-- Whether names that start so many levels below a directory never lead above it. -/
def stays : (depth : Nat) → List Text → Bool
  | _, [] => true
  | depth, name :: rest =>
    if name = up then
      match depth with
      | 0 => false
      | depth + 1 => stays depth rest
    else if name = [] ∨ name = here then stays depth rest
    else stays (depth + 1) rest

/-- The second path is the first one or lies inside it. -/
def Inside (w p : Path) : Prop :=
  p.anchor = w.anchor ∧ ∃ rest, p.names = w.names ++ rest ∧ stays 0 rest = true

/-- A relative name gives a path inside exactly when its parts never climb out. -/
theorem inside_child_iff {w : Path} {t : Text} (relative : (ofText t).isAbsolute = false) :
    w.Inside (w.child t) ↔ stays 0 (namesOf t) = true := by
  unfold Inside child join
  rw [relative]
  refine ⟨fun ⟨_, rest, same, inside⟩ => ?_, fun inside => ⟨rfl, namesOf t, rfl, inside⟩⟩
  have parts : namesOf t = rest := List.append_cancel_left same
  rw [parts]
  exact inside

theorem stays_append {depth : Nat} {names more : List Text}
    (inside : stays depth (names ++ more) = true) : stays depth names = true := by
  induction names generalizing depth with
  | nil => rfl
  | cons name rest ih =>
      rw [List.cons_append] at inside
      unfold stays at inside ⊢
      split
      · rename_i isUp
        rw [if_pos isUp] at inside
        cases depth with
        | zero => cases inside
        | succ depth => exact ih inside
      · rename_i notUp
        rw [if_neg notUp] at inside
        split
        · rename_i still
          rw [if_pos still] at inside
          exact ih inside
        · rename_i moves
          rw [if_neg moves] at inside
          exact ih inside

/-- The parent of a path inside, other than the directory itself, is inside. -/
theorem Inside.parent {w p : Path} (inside : w.Inside p) (below : p ≠ w) : w.Inside p.parent := by
  obtain ⟨anchor, rest, names, within⟩ := inside
  have some : rest ≠ [] := by
    rintro rfl
    refine below ?_
    cases p
    cases w
    simp_all
  refine ⟨anchor, rest.dropLast, ?_, ?_⟩
  · unfold Path.parent
    rw [names, List.dropLast_append_of_ne_nil some]
  · rw [← List.dropLast_concat_getLast some] at within
    exact stays_append within

end Path

/-- The location of a spot. -/
def Spot.place : Spot → Location
  | .found place _ => place
  | .vacant directory name => directory ++ [name]

namespace Disk

variable {d after : Disk} {cwd top : Location} {w p : Path}

/-- No symbolic link stands at or below a location. -/
def Unlinked (d : Disk) (top : Location) : Prop :=
  ∀ spot target, top <+: spot → d.get? spot ≠ some (.link target)

/-- Without symbolic links, names that never climb out lead nowhere else. -/
theorem Leads.within {aim : Aim} {links : Nat} {below : Location} {names : List Text} {spot : Spot}
    (unlinked : d.Unlinked top) (leads : d.Leads aim links (top ++ below) names spot)
    (stays : Path.stays below.length names = true) : top <+: spot.place := by
  generalize start : top ++ below = place at leads
  induction leads generalizing below with
  | done here =>
      subst start
      exact List.prefix_append top below
  | up passable _ ih =>
      subst start
      unfold Path.stays at stays
      rw [if_pos rfl] at stays
      rcases List.eq_nil_or_concat below with rfl | ⟨above, last, rfl⟩
      · cases stays
      · rw [List.length_concat] at stays
        refine ih stays ?_
        rw [List.concat_eq_append, ← List.append_assoc, List.dropLast_concat]
  | @stay links place name rest spot passable still _ ih =>
      subst start
      unfold Path.stays at stays
      have notUp : name ≠ Path.up := by rcases still with rfl | rfl <;> decide
      rw [if_neg notUp, if_pos still] at stays
      exact ih stays rfl
  | enter passable plain held solid _ ih =>
      subst start
      unfold Path.stays at stays
      rw [if_neg plain.notUp, if_neg (by simp [plain.notEmpty, plain.notHere])] at stays
      exact ih (by simpa using stays) (List.append_assoc _ _ _).symm
  | jump passable plain held goesOn _ ih =>
      subst start
      rw [List.append_assoc] at held
      exact absurd held (unlinked _ _ (List.prefix_append top _))
  | link passable plain held wanted =>
      subst start
      rw [List.append_assoc] at held
      exact absurd held (unlinked _ _ (List.prefix_append top _))
  | vacant passable plain free last =>
      subst start
      change top <+: top ++ below ++ [_]
      rw [List.append_assoc]
      exact List.prefix_append top _

/-- A path leads to a directory, at the given location, without symbolic links in it. -/
structure Houses (cwd : Location) (w : Path) (top : Location) (d : Disk) : Prop where
  found : ∃ mode, d.locate cwd .entry w = .ok (.found top (.directory mode))
  unlinked : d.Unlinked top

/-- What a path inside leads to lies in the directory. -/
theorem Houses.within {aim : Aim} {spot : Spot} (houses : d.Houses cwd w top) (inside : w.Inside p)
    (located : d.locate cwd aim p = .ok spot) : top <+: spot.place := by
  obtain ⟨mode, found⟩ := houses.found
  obtain ⟨anchor, rest, names, stays⟩ := inside
  have leads := (locate_eq_ok_iff.mp found).2
  obtain ⟨fewer, same⟩ := walk_append leads
  have walked := walk_of_leads (locate_eq_ok_iff.mp located).2
  have origins : origin cwd p = origin cwd w := by
    unfold origin Path.isAbsolute
    rw [anchor]
  rw [origins, names, same] at walked
  have from_top : d.Leads aim fewer (top ++ []) rest spot := by
    rw [List.append_nil]
    exact leads_of_walk walked
  exact from_top.within houses.unlinked stays

/-! ## Changes -/

/-- A disk that grew at or below a location only, and got no new links. -/
structure Confined (top : Location) (d after : Disk) : Prop where
  grows : d.Grows after
  outside : ∀ spot, ¬ top <+: spot → after.get? spot = d.get? spot
  links : ∀ spot target, after.get? spot = some (.link target) → d.get? spot = some (.link target)

theorem Confined.refl (top : Location) (d : Disk) : Confined top d d :=
  ⟨Grows.refl d, fun _ _ => rfl, fun _ _ => id⟩

theorem Confined.trans {middle : Disk} (first : Confined top d middle)
    (second : Confined top middle after) : Confined top d after :=
  ⟨first.grows.trans second.grows,
    fun spot far => (second.outside spot far).trans (first.outside spot far),
    fun spot target linked => first.links spot target (second.links spot target linked)⟩

theorem Houses.of_confined (houses : d.Houses cwd w top) (confined : Confined top d after) :
    after.Houses cwd w top := by
  obtain ⟨mode, found⟩ := houses.found
  obtain ⟨nameable, leads⟩ := locate_eq_ok_iff.mp found
  obtain ⟨more, grown, still⟩ := leads.of_grows confined.grows
  cases more with
  | file mode data => cases grown
  | link target => cases grown
  | directory mode' =>
      exact ⟨⟨mode', locate_eq_ok_iff.mpr ⟨nameable, still⟩⟩, fun spot target below linked =>
        houses.unlinked spot target below (confined.links spot target linked)⟩

theorem outside_put {place : Location} (entry : Entry) (inside : top <+: place) {spot : Location}
    (far : ¬ top <+: spot) : (d.put place entry).get? spot = d.get? spot := by
  rw [get?_put, if_neg]
  rintro ⟨rfl, -⟩
  exact far inside

theorem confined_put_new {place : Location} {entry : Entry} (inside : top <+: place)
    (free : d.get? place = none) (solid : entry.isLink = false) :
    Confined top d (d.put place entry) := by
  refine ⟨grows_put_of_none free entry, fun spot => outside_put entry inside, ?_⟩
  intro spot target linked
  rw [get?_put] at linked
  split at linked
  · cases linked
    cases solid
  · exact linked

theorem confined_put_grown {place : Location} {entry more : Entry} (inside : top <+: place)
    (held : d.get? place = some entry) (grown : Grown entry more) :
    Confined top d (d.put place more) := by
  refine ⟨grows_put_of_grown held grown, fun spot => outside_put more inside, ?_⟩
  intro spot target linked
  rw [get?_put] at linked
  split at linked
  · rename_i same
    cases linked
    cases entry with
    | directory mode => cases grown
    | file mode data => cases grown
    | link other =>
        cases grown
        rw [same.1, held]
  · exact linked

/-- A file is written over a file, which keeps its permissions, or under a free name. -/
theorem writeFile_cases {data : List UInt8} (written : d.writeFile cwd p data = .ok after) :
    ∃ spot mode, d.locate cwd .file p = .ok spot ∧ after = d.put spot.place (.file mode data) ∧
      ((∃ old, d.get? spot.place = some (.file mode old)) ∨
        d.get? spot.place = none ∧ mode = newFileMode) := by
  unfold writeFile at written
  rcases located : d.locate cwd .file p with fault | spot
  · rw [located] at written
    cases written
  · have leads := (locate_eq_ok_iff.mp located).2
    rw [located] at written
    rcases spot with ⟨place, (mode | ⟨mode, old⟩ | target)⟩ | ⟨directory, name⟩
    · cases written
    · change (if mode &&& Entry.writeBit = 0 then throw (refuse .denied p)
        else pure (d.put place (.file mode data)) : Except FileFault Disk) = .ok after at written
      split at written <;> cases written
      exact ⟨_, mode, rfl, rfl, .inl ⟨old, leads.get?_of_found⟩⟩
    · cases written
    · change d.add p directory name (.file newFileMode data) = .ok after at written
      unfold add at written
      split at written <;> cases written
      exact ⟨_, newFileMode, rfl, rfl, .inr ⟨leads.of_vacant.2.2, rfl⟩⟩

theorem confined_writeFile {data : List UInt8} (houses : d.Houses cwd w top) (inside : w.Inside p)
    (written : d.writeFile cwd p data = .ok after) : Confined top d after := by
  obtain ⟨spot, mode, located, rfl, ⟨old, held⟩ | ⟨free, -⟩⟩ := writeFile_cases written
  · exact confined_put_grown (houses.within inside located) held trivial
  · exact confined_put_new (houses.within inside located) free rfl

theorem grown_withMode (entry : Entry) (bits : Nat) :
    Grown entry (entry.withMode (entry.mode ||| bits)) := by
  cases entry with
  | directory mode =>
      intro pass none
      change (mode ||| bits) &&& Entry.passBit = 0 at none
      rw [Nat.and_or_distrib_right] at none
      exact pass (Nat.or_eq_zero_iff.mp none).1
  | file mode data => trivial
  | link target => rfl

theorem confined_addMode {bits : Nat} (houses : d.Houses cwd w top) (inside : w.Inside p)
    (marked : d.addMode cwd p bits = .ok after) : Confined top d after := by
  unfold addMode at marked
  rcases located : d.locate cwd .target p with fault | spot
  · rw [located] at marked
    cases marked
  · have within := houses.within inside located
    have leads := (locate_eq_ok_iff.mp located).2
    rw [located] at marked
    rcases spot with ⟨place, entry⟩ | ⟨directory, name⟩
    · cases marked
      exact confined_put_grown within leads.get?_of_found (grown_withMode entry bits)
    · cases marked

theorem confined_makeDirectory {mode : Nat} (houses : d.Houses cwd w top) (inside : w.Inside p)
    (made : d.makeDirectory cwd p mode = .ok after) : Confined top d after := by
  obtain ⟨directory, name, located, rfl⟩ := makeDirectory_eq_ok made
  exact confined_put_new (houses.within inside located)
    (locate_eq_ok_iff.mp located).2.of_vacant.2.2 rfl

theorem settle_fst (d : Disk) (cwd : Location) (p : Path) (fault : FileFault) :
    (d.settle cwd p fault).1 = d := by
  unfold settle
  split
  · split <;> rfl
  · rfl

/-- Making the directories above a path ends at the latest at the directory that is there. -/
theorem confined_makeDirectories (depth : Nat) (houses : d.Houses cwd w top) (inside : w.Inside p) :
    Confined top d (d.makeDirectories cwd depth p).1 := by
  induction depth generalizing d p with
  | zero =>
      unfold makeDirectories
      cases made : d.makeDirectory cwd p newDirectoryMode with
      | ok after => exact confined_makeDirectory houses inside made
      | error fault =>
          dsimp only
          split
          · exact Confined.refl top d
          · rw [settle_fst]
            exact Confined.refl top d
  | succ depth ih =>
      unfold makeDirectories
      cases made : d.makeDirectory cwd p newDirectoryMode with
      | ok after => exact confined_makeDirectory houses inside made
      | error fault =>
          dsimp only
          split
          · rw [settle_fst]
            exact Confined.refl top d
          · rename_i missing
            split
            · exact Confined.refl top d
            · have below : p ≠ w := by
                rintro rfl
                obtain ⟨mode, found⟩ := houses.found
                unfold makeDirectory at made
                rw [found] at made
                cases made
                exact missing rfl
              have above := ih houses (inside.parent below)
              generalize d.makeDirectories cwd depth p.parent = outcome at above ⊢
              rcases outcome with ⟨middle, _ | fault⟩
              · dsimp only at above ⊢
                cases again : middle.makeDirectory cwd p newDirectoryMode with
                | ok after =>
                    exact above.trans
                      (confined_makeDirectory (houses.of_confined above) inside again)
                | error fault =>
                    dsimp only
                    split
                    · exact above
                    · rw [settle_fst]
                      exact above
              · exact above

/-- Touching a path inside changes nothing elsewhere. -/
theorem confined_touched (houses : d.Houses cwd w top) (inside : w.Inside p)
    (touched : Touched cwd p d after) : Confined top d after := by
  cases touched with
  | written written => exact confined_writeFile houses inside written
  | marked marked => exact confined_addMode houses inside marked
  | made depth => exact confined_makeDirectories depth houses inside

/-- Clearing a path inside removes nothing elsewhere, also when other entries are gone
already. -/
theorem outside_clears {middle : Disk} (houses : d.Houses cwd w top) (inside : w.Inside p)
    (sheds : d.Sheds middle) (clears : Clears cwd p middle after) {spot : Location}
    (far : ¬ top <+: spot) : after.get? spot = middle.get? spot := by
  refine Classical.byContradiction fun changed => ?_
  obtain ⟨place, entry, found, above⟩ := clears.only spot changed
  rcases locate_eq_or_absent sheds with same | absent
  · have within := houses.within inside (same.symm.trans found)
    exact far (within.trans above)
  · exact not_absent_of_found found absent

end Disk

end StageParity
