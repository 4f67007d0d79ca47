import StageParity.Proofs.Cleanup
import StageParity.Proofs.StageAnswers

/-!
# Faults of the disk

An operation on a path is refused by the operating system, or because the path cannot be named;
a text can also hold glyphs that no file can. Which of these it is decides whether a run is
guarded against the fault.
-/

namespace StageParity

namespace Disk

variable {d after : Disk} {cwd : Location} {p : Path} {fault : FileFault}

/-- A path is refused by the operating system, or because it cannot be named. -/
theorem fault_of_locate {aim : Aim} (failed : d.locate cwd aim p = .error fault) :
    (∃ error, fault = .os error) ∨ misnamed? p = some fault := by
  cases named : misnamed? p with
  | some other =>
      cases (locate_of_misnamed named).symm.trans failed
      exact .inr rfl
  | none =>
      obtain ⟨errno, rfl⟩ := refuse_of_locate_error named failed
      exact .inl ⟨_, rfl⟩

theorem fault_of_writeFile {data : List UInt8} (failed : d.writeFile cwd p data = .error fault) :
    (∃ error, fault = .os error) ∨ misnamed? p = some fault := by
  unfold writeFile at failed
  rcases located : d.locate cwd .file p with other | spot
  · rw [located] at failed
    cases failed
    exact fault_of_locate located
  · refine .inl ?_
    rw [located] at failed
    rcases spot with ⟨place, (mode | ⟨mode, old⟩ | target)⟩ | ⟨directory, name⟩
    · cases failed
      exact ⟨_, rfl⟩
    · change (if mode &&& Entry.writeBit = 0 then throw (refuse .denied p)
        else pure (d.put place (.file mode data)) : Except FileFault Disk) = .error fault at failed
      split at failed <;> cases failed
      exact ⟨_, rfl⟩
    · cases failed
      exact ⟨_, rfl⟩
    · change d.add p directory name (.file newFileMode data) = .error fault at failed
      unfold add at failed
      split at failed <;> cases failed
      exact ⟨_, rfl⟩

theorem named_of_writeFile {data : List UInt8} (written : d.writeFile cwd p data = .ok after) :
    misnamed? p = none := by
  cases named : misnamed? p with
  | none => rfl
  | some fault =>
      unfold writeFile at written
      rw [locate_of_misnamed named] at written
      cases written

/-- A copy is refused at once if both paths lead to one entry; otherwise bytes are read and
written. -/
theorem copyFile_cases (d : Disk) (cwd : Location) (source p : Path) :
    (∃ fault, d.sameEntry cwd source p = .error fault ∧ d.copyFile cwd source p = .error fault) ∨
      (∃ error, d.copyFile cwd source p = .error (.os error)) ∨
      (∃ fault, d.fileBytes cwd source = .error fault ∧ d.copyFile cwd source p = .error fault) ∨
      ∃ data, d.copyFile cwd source p = d.writeFile cwd p data := by
  unfold copyFile
  rcases d.sameEntry cwd source p with fault | (_ | _)
  · exact .inl ⟨fault, rfl, rfl⟩
  · rcases d.fileBytes cwd source with fault | data
    · exact .inr (.inr (.inl ⟨fault, rfl, rfl⟩))
    · exact .inr (.inr (.inr ⟨data, rfl⟩))
  · exact .inr (.inl ⟨_, rfl⟩)

/-- A copy that was made is of another entry, and holds the bytes that were read. -/
theorem copyFile_eq_ok {source : Path} (copied : d.copyFile cwd source p = .ok after) :
    d.sameEntry cwd source p = .ok false ∧
      ∃ data, d.fileBytes cwd source = .ok data ∧ d.writeFile cwd p data = .ok after := by
  unfold copyFile at copied
  rcases same : d.sameEntry cwd source p with fault | (_ | _)
  · rw [same] at copied
    cases copied
  · rw [same] at copied
    rcases bytes : d.fileBytes cwd source with fault | data
    · rw [bytes] at copied
      cases copied
    · rw [bytes] at copied
      exact ⟨rfl, data, rfl, copied⟩
  · rw [same] at copied
    cases copied

theorem writeFile_of_copyFile {source : Path} (copied : d.copyFile cwd source p = .ok after) :
    ∃ data, d.writeFile cwd p data = .ok after := by
  obtain ⟨-, data, -, written⟩ := copyFile_eq_ok copied
  exact ⟨data, written⟩

/-- A copy of a file is refused by the operating system, or because the copy cannot be named. -/
theorem fault_of_copyFile {source : Path} (there : d.isFile cwd source = .ok true)
    (failed : d.copyFile cwd source p = .error fault) :
    (∃ error, fault = .os error) ∨ misnamed? p = some fault := by
  obtain ⟨place, mode, data, found⟩ := hasFile_iff.mp (hasFile_of_ok there)
  rcases d.copyFile_cases cwd source p with ⟨other, same, stopped⟩ | ⟨error, stopped⟩ |
    ⟨other, unread, stopped⟩ | ⟨bytes, written⟩
  · cases stopped.symm.trans failed
    unfold sameEntry at same
    rw [found] at same
    split at same
    · rename_i located
      cases located
    · rename_i located
      cases same
      exact fault_of_locate located
    · cases same
    · cases same
  · cases stopped.symm.trans failed
    exact .inl ⟨error, rfl⟩
  · cases stopped.symm.trans failed
    have entry : d.entryAt cwd .target source = .ok (.file mode data) := by
      unfold entryAt
      rw [found]
    unfold fileBytes at unread
    rw [entry] at unread
    change (if mode &&& Entry.readBit = 0 then throw (refuse .denied source) else pure data :
      Except FileFault (List UInt8)) = .error fault at unread
    split at unread <;> cases unread
    exact .inl ⟨_, rfl⟩
  · exact fault_of_writeFile (written.symm.trans failed)

theorem fault_of_addMode {bits : Nat} (failed : d.addMode cwd p bits = .error fault) :
    (∃ error, fault = .os error) ∨ misnamed? p = some fault := by
  unfold addMode at failed
  rcases located : d.locate cwd .target p with other | (⟨place, entry⟩ | ⟨directory, name⟩)
  · rw [located] at failed
    cases failed
    exact fault_of_locate located
  · rw [located] at failed
    cases failed
  · rw [located] at failed
    cases failed
    exact .inl ⟨_, rfl⟩

/-- A regular file can be marked. -/
theorem addMode_of_isFile (there : d.isFile cwd p = .ok true) (bits : Nat) :
    ∃ after, d.addMode cwd p bits = .ok after := by
  obtain ⟨place, mode, data, found⟩ := hasFile_iff.mp (hasFile_of_ok there)
  unfold addMode
  rw [found]
  exact ⟨_, rfl⟩

theorem named_of_makeDirectories {depth : Nat} (made : (d.makeDirectories cwd depth p).2 = none) :
    misnamed? p = none := by
  cases named : misnamed? p with
  | none => rfl
  | some fault =>
      have refused : d.makeDirectory cwd p newDirectoryMode = .error fault := by
        unfold makeDirectory
        rw [locate_of_misnamed named]
        rfl
      have foreign := (not_os_of_misnamed named).2
      have settled : d.settle cwd p fault = (d, some fault) := by
        cases fault with
        | os error => exact absurd rfl (foreign error)
        | _ => rfl
      have present : isMissing fault = false := by
        cases fault with
        | os error => exact absurd rfl (foreign error)
        | _ => rfl
      cases depth <;> simp [makeDirectories, refused, present, settled] at made

/-- A text is refused as a file is, or for a fault in the text. -/
theorem fault_of_writeUnless {text : Text} {wrong : Option FileFault}
    (failed : (d.writeUnless cwd p text wrong).2 = some fault) :
    (∃ data, d.writeFile cwd p data = .error fault) ∨ wrong = some fault := by
  unfold writeUnless at failed
  split at failed
  · exact .inr failed
  · rename_i refused
    cases failed
    exact .inl ⟨_, refused⟩

theorem writeFile_of_writeUnless {text : Text} {wrong : Option FileFault}
    (written : d.writeUnless cwd p text wrong = (after, none)) :
    wrong = none ∧ d.writeFile cwd p text.encode = .ok after := by
  unfold writeUnless at written
  split at written
  · rename_i done
    cases written
    exact ⟨rfl, done⟩
  · cases written

/-- A text is refused as a file is, or for glyphs that are no characters. -/
theorem fault_of_writeText {text : Text} (failed : (d.writeText cwd p text).2 = some fault) :
    (∃ error, fault = .os error) ∨ misnamed? p = some fault ∨
      ∃ start count code, strays? text = some (start, count, code) ∧
        fault = .notUnicode start count code := by
  rcases fault_of_writeUnless failed with ⟨data, refused⟩ | wrong
  · exact (fault_of_writeFile refused).imp_right .inl
  · obtain ⟨⟨start, count, code⟩, stray, rfl⟩ := Option.map_eq_some_iff.mp wrong
    exact .inr (.inr ⟨start, count, code, stray, rfl⟩)

theorem writeFile_of_writeText {text : Text} (written : d.writeText cwd p text = (after, none)) :
    ∃ data, d.writeFile cwd p data = .ok after := ⟨_, (writeFile_of_writeUnless written).2⟩

end Disk

/-! ## Names -/

theorem Text.mem_splitOn {mark g : Glyph} {t : Text} (inside : g ∈ t) :
    g = mark ∨ ∃ part ∈ t.splitOn mark, g ∈ part := by
  induction t with
  | nil => cases inside
  | cons head rest ih =>
      unfold Text.splitOn
      by_cases marked : head = mark
      · rw [if_pos marked]
        rcases List.mem_cons.mp inside with rfl | later
        · exact .inl marked
        · refine (ih later).imp_right ?_
          rintro ⟨part, known, there⟩
          exact ⟨part, List.mem_cons_of_mem _ known, there⟩
      · rw [if_neg marked]
        rcases List.mem_cons.mp inside with rfl | later
        · cases Text.splitOn mark rest with
          | nil => exact .inr ⟨_, List.mem_singleton.mpr rfl, List.mem_singleton.mpr rfl⟩
          | cons part parts => exact .inr ⟨_, List.mem_cons_self, List.mem_cons_self⟩
        · refine (ih later).imp_right ?_
          rintro ⟨part, known, there⟩
          cases split_ : Text.splitOn mark rest with
          | nil => rw [split_] at known; cases known
          | cons first parts =>
              rw [split_] at known
              rcases List.mem_cons.mp known with rfl | others
              · exact ⟨_, List.mem_cons_self, List.mem_cons_of_mem head there⟩
              · exact ⟨part, List.mem_cons_of_mem _ others, there⟩

namespace Disk

/-- A path that can be named has a last part of usable glyphs. -/
theorem nameGlyph_of_child {w : Path} {t : Text} (named : misnamed? (w.child t) = none) :
    ∀ g ∈ t, NameGlyph g := by
  rw [misnamed?_eq_none_iff] at named
  have part : ∀ name ∈ Path.namesOf t, ∀ g ∈ name, NameGlyph g := by
    intro name known
    refine named name ?_
    unfold Path.child Path.join
    split
    · exact known
    · exact List.mem_append_right _ known
  intro g inside
  rcases (Text.mem_splitOn inside : g = Path.slash ∨ _) with rfl | ⟨name, known, there⟩
  · decide
  · by_cases kept : name = [.char '.']
    · rw [kept, List.mem_singleton] at there
      rw [there]
      decide
    · refine part name (List.mem_filter.mpr ⟨known, ?_⟩) g there
      have some_ : name ≠ [] := List.ne_nil_of_mem there
      simp [some_, kept]

end Disk

/-- The compilers can be named when the name of the compiler is usable. -/
theorem Project.named_compiler_of_usable {project : Project} {w : Path}
    (base : Disk.misnamed? w = none) (usable : ∀ g ∈ project.layout.compiler, Disk.NameGlyph g)
    (stage : Stage) : Disk.misnamed? (project.compiler w stage) = none := by
  have ending : ∀ g ∈ Text.ofString "_stage" ++ Text.ofNat stage.number, Disk.NameGlyph g := by
    cases stage <;> decide
  refine Disk.misnamed?_child base fun g inside => ?_
  unfold Layout.stageName at inside
  rw [List.append_assoc] at inside
  rcases List.mem_append.mp inside with compiler | fixed
  · exact usable g compiler
  · exact ending g fixed

/-- The compilers of both stages can be named, or none of them. -/
theorem Project.named_compiler {project : Project} {w : Path} {stage : Stage}
    (base : Disk.misnamed? w = none) (named : Disk.misnamed? (project.compiler w stage) = none)
    (other : Stage) : Disk.misnamed? (project.compiler w other) = none := by
  refine Project.named_compiler_of_usable base (fun g inside => ?_) other
  refine Disk.nameGlyph_of_child named g ?_
  unfold Layout.stageName
  rw [List.append_assoc]
  exact List.mem_append_left _ inside

end StageParity
