import StageParity.Proofs.Escalation
import StageParity.Proofs.WorkingDirectory

/-!
# When the builds answer, and what

Once the command of a build has come to its end and its log was kept, the build answers just if the
command succeeded, its file is there, and the file can be put in place; otherwise it fails with a
reason and its log (`Run.Settles`). The artifact that is answered is a regular file that everyone
may run, and that of stage zero has the bytes of the binary. Two faults pass by the failures of a
build: a file that cannot be looked for, because a name is too long or a directory may not be
passed, and a script that would name stage zero with glyphs that no text file can hold.
-/

namespace StageParity

/-! ## Files that were written -/

namespace Disk

variable {d after : Disk} {cwd place : Location} {p source : Path} {mode : Nat} {data : List UInt8}

/-- Names that a file is written under lead to it afterwards. -/
theorem Leads.of_written {links : Nat} {names : List Text} {spot : Spot} (grows : d.Grows after)
    (held : after.get? spot.place = some (.file mode data))
    (leads : d.Leads .file links place names spot) :
    after.Leads .target links place names (.found spot.place (.file mode data)) := by
  induction leads with
  | done => exact .done held
  | up passable _ ih => exact .up (passable.of_grows grows) (ih held)
  | stay passable stays _ ih => exact .stay (passable.of_grows grows) stays (ih held)
  | enter passable plain inner solid _ ih =>
      obtain ⟨more, kept, same⟩ := grows _ _ inner
      exact .enter (passable.of_grows grows) plain kept (same.isLink_eq ▸ solid) (ih held)
  | jump passable plain inner goesOn _ ih =>
      obtain ⟨more, kept, same⟩ := grows _ _ inner
      cases more with
      | directory mode => cases same
      | file mode data => cases same
      | link target =>
          cases same
          exact .jump (passable.of_grows grows) plain kept (by simp) (ih held)
  | link _ _ _ wanted => cases wanted
  | vacant passable plain _ last =>
      rcases last with rfl | ⟨-, other⟩
      · exact .enter (passable.of_grows grows) plain held rfl (.done held)
      · exact absurd rfl other

/-- A file that was written is found, and it is where the path led before. -/
theorem locate_of_writeFile (written : d.writeFile cwd p data = .ok after) :
    ∃ spot mode, d.locate cwd .file p = .ok spot ∧
      after.locate cwd .target p = .ok (.found spot.place (.file mode data)) := by
  obtain ⟨spot, located, keeps, ⟨mode, held⟩, -⟩ := writeFile_eq_ok written
  obtain ⟨nameable, leads⟩ := locate_eq_ok_iff.mp located
  exact ⟨spot, mode, located, locate_eq_ok_iff.mpr ⟨nameable, leads.of_written keeps.grows held⟩⟩

/-- What a path leads to is found again after a change elsewhere. -/
theorem locate_of_keeps {aim : Aim} {entry : Entry} (keeps : d.Keeps after)
    (found : d.locate cwd aim p = .ok (.found place entry))
    (same : after.get? place = d.get? place) :
    after.locate cwd aim p = .ok (.found place entry) := by
  obtain ⟨nameable, leads⟩ := locate_eq_ok_iff.mp found
  obtain ⟨more, -, still⟩ := leads.of_grows keeps.grows
  have held : some more = some entry := by
    rw [← still.get?_of_found, same, leads.get?_of_found]
  cases held
  exact locate_eq_ok_iff.mpr ⟨nameable, still⟩

theorem fileBytes_eq_ok_iff :
    d.fileBytes cwd p = .ok data ↔
      ∃ place mode, d.locate cwd .target p = .ok (.found place (.file mode data)) ∧
        mode &&& Entry.readBit ≠ 0 := by
  unfold fileBytes entryAt
  constructor
  · intro read
    rcases located : d.locate cwd .target p with fault | (⟨place, entry⟩ | ⟨directory, name⟩)
    · rw [located] at read
      cases read
    · rw [located] at read
      cases entry with
      | file mode old =>
          change (if mode &&& Entry.readBit = 0 then throw (refuse .denied p) else pure old :
            Except FileFault (List UInt8)) = .ok data at read
          split at read
          · cases read
          · rename_i readable
            cases read
            exact ⟨place, mode, rfl, readable⟩
      | _ => cases read
    · rw [located] at read
      cases read
  · rintro ⟨place, mode, found, readable⟩
    rw [found]
    exact if_neg readable

/-! ## Files that cannot be looked for -/

/-- An error that bars a lookup: it does not only say that nothing is there. -/
def Bars (errno : Errno) : Prop := errno = .nameTooLong ∨ errno = .denied

theorem errno_of_follow {jump : Location → List Text → Except Errno Spot} {errno : Errno}
    (jumps : ∀ place names errno, jump place names = .error errno →
      Bars errno ∨ ∀ path, meansAbsent (.os (.onPath errno path)) = true)
    {names : List Text} (failed : d.follow .target jump place names = .error errno) :
    Bars errno ∨ ∀ path, meansAbsent (.os (.onPath errno path)) = true := by
  induction names generalizing place with
  | nil =>
      unfold follow at failed
      split at failed
      · cases failed
      · cases failed
        exact .inr fun _ => rfl
  | cons name rest ih =>
      unfold follow at failed
      split at failed
      · cases failed
        exact .inr fun _ => rfl
      · simp only [reduceCtorEq, decide_false, Bool.and_false, Bool.false_eq_true, if_false] at failed
        cases failed
        exact .inr fun _ => rfl
      · simp only [reduceCtorEq, decide_false, Bool.and_false, Bool.false_eq_true, if_false] at failed
        cases failed
        exact .inr fun _ => rfl
      · split at failed
        · cases failed
          exact .inl (.inr rfl)
        · split at failed
          · exact ih failed
          · split at failed
            · exact ih failed
            · split at failed
              · cases failed
                exact .inl (.inl rfl)
              · dsimp only at failed
                split at failed
                · split at failed
                  · cases failed
                  · split at failed
                    · simp only [reduceCtorEq, if_false] at failed
                    · cases failed
                      exact .inr fun _ => rfl
                · split at failed
                  · cases failed
                  · exact jumps _ _ _ failed
                · exact ih failed
                · exact ih failed

theorem errno_of_walk {links : Nat} {names : List Text} {errno : Errno}
    (failed : d.walk .target links place names = .error errno) :
    Bars errno ∨ ∀ path, meansAbsent (.os (.onPath errno path)) = true := by
  induction links generalizing place names errno with
  | zero =>
      refine errno_of_follow ?_ failed
      intro place names errno stopped
      cases stopped
      exact .inr fun _ => rfl
  | succ links ih => exact errno_of_follow (fun place names errno => ih) failed

/-- Whether a path leads to a regular file cannot be said: a name is too long, or a directory on
the way may not be passed. -/
def Unseen (d : Disk) (cwd : Location) (p : Path) (fault : FileFault) : Prop :=
  d.isFile cwd p = .error fault ∧ ∃ errno, Bars errno ∧ fault = refuse errno p

theorem unseen_of_isFile {fault : FileFault} (failed : d.isFile cwd p = .error fault) :
    d.Unseen cwd p fault := by
  refine ⟨failed, ?_⟩
  unfold isFile testAt entryAt at failed
  rcases located : d.locate cwd .target p with other | (⟨place, entry⟩ | ⟨directory, name⟩)
  · rw [located] at failed
    dsimp only at failed
    split at failed
    · cases failed
    · rename_i barred
      cases failed
      cases named : misnamed? p with
      | some unnamed =>
          cases (locate_of_misnamed named).symm.trans located
          exact absurd (not_os_of_misnamed named).1 barred
      | none =>
          unfold locate locateSteps at located
          rw [named] at located
          dsimp only at located
          split at located
          · cases located
            exact ⟨.nameTooLong, .inl rfl, rfl⟩
          · split at located
            · cases located
            · rename_i errno walked
              cases located
              refine ⟨errno, (errno_of_walk walked).resolve_right fun absent => ?_, rfl⟩
              exact barred (absent p.text)
  · rw [located] at failed
    cases failed
  · rw [located] at failed
    cases failed

/-! ## Files that can be run -/

/-- The path leads to a regular file with these bytes that everyone may run. -/
def RunsAs (d : Disk) (cwd : Location) (p : Path) (data : List UInt8) : Prop :=
  ∃ place mode, d.locate cwd .target p = .ok (.found place (.file mode data)) ∧
    mode &&& everyoneRuns = everyoneRuns

/-- Letting everyone run a file leaves its bytes and all other entries. -/
theorem runsAs_of_found (found : d.locate cwd .target p = .ok (.found place (.file mode data))) :
    ∃ marked, d.addMode cwd p everyoneRuns = .ok marked ∧ marked.RunsAs cwd p data ∧
      d.Keeps marked ∧ ∀ other, other ≠ place → marked.get? other = d.get? other := by
  have done : d.addMode cwd p everyoneRuns =
      .ok (d.put place (.file (mode ||| everyoneRuns) data)) := by
    unfold addMode
    rw [found]
    rfl
  have keeps := (keeps_addMode done).1
  obtain ⟨nameable, leads⟩ := locate_eq_ok_iff.mp found
  have low : place ≠ [] := by
    rintro rfl
    cases leads.get?_of_found
  have held : (d.put place (.file (mode ||| everyoneRuns) data)).get? place =
      some (.file (mode ||| everyoneRuns) data) := by
    rw [get?_put, if_pos ⟨rfl, low⟩]
  obtain ⟨more, -, still⟩ := leads.of_grows keeps.grows
  cases held.symm.trans still.get?_of_found
  refine ⟨_, done, ⟨place, _, locate_eq_ok_iff.mpr ⟨nameable, still⟩, ?_⟩, keeps, ?_⟩
  · refine Nat.eq_of_testBit_eq fun nth => ?_
    simp only [Nat.testBit_and, Nat.testBit_or]
    cases everyoneRuns.testBit nth <;> simp
  · intro other far
    rw [get?_put, if_neg fun same => far same.1]

theorem runsAs_of_writeFile (written : d.writeFile cwd p data = .ok after) :
    ∃ marked, after.addMode cwd p everyoneRuns = .ok marked ∧ marked.RunsAs cwd p data := by
  obtain ⟨spot, mode, -, found⟩ := locate_of_writeFile written
  obtain ⟨marked, done, runs, -⟩ := runsAs_of_found found
  exact ⟨marked, done, runs⟩

/-- A file can still be run after another one was written, or the same. -/
theorem RunsAs.of_writeFile {q : Path} {other : List UInt8} (runs : d.RunsAs cwd p data)
    (written : d.writeFile cwd q other = .ok after) : ∃ data, after.RunsAs cwd p data := by
  obtain ⟨place, mode, found, all⟩ := runs
  obtain ⟨-, -, keeps, -⟩ := writeFile_eq_ok written
  obtain ⟨nameable, leads⟩ := locate_eq_ok_iff.mp found
  obtain ⟨more, grown, still⟩ := leads.of_grows keeps.grows
  obtain ⟨entry, held, -, allows⟩ := keeps.old place _ leads.get?_of_found
  cases held.symm.trans still.get?_of_found
  cases more with
  | file mode' data' =>
      refine ⟨data', place, mode', locate_eq_ok_iff.mpr ⟨nameable, still⟩, ?_⟩
      exact of_decide_eq_true (allows everyoneRuns (decide_eq_true all))
  | _ => cases grown

/-- A copy is a file of its own: the bytes of the source are found under both paths. -/
theorem runsAs_of_copyFile (copied : d.copyFile cwd source p = .ok after) :
    ∃ data marked, d.fileBytes cwd source = .ok data ∧
      after.addMode cwd p everyoneRuns = .ok marked ∧ marked.RunsAs cwd p data ∧
      marked.fileBytes cwd source = .ok data := by
  obtain ⟨same, data, bytes, written⟩ := copyFile_eq_ok copied
  obtain ⟨home, mode, read, readable⟩ := fileBytes_eq_ok_iff.mp bytes
  have there := (locate_eq_ok_iff.mp read).2.get?_of_found
  obtain ⟨spot, located, keeps, -, elsewhere⟩ := writeFile_eq_ok written
  obtain ⟨place, mode', again, found⟩ := locate_of_writeFile written
  cases located.symm.trans again
  -- A path to the source itself would have been refused.
  have apart : home ≠ spot.place := by
    intro meets
    obtain ⟨nameable, leads⟩ := locate_eq_ok_iff.mp located
    have target := leads.of_written (Grows.refl d) (meets ▸ there)
    unfold sameEntry at same
    rw [read, locate_eq_ok_iff.mpr ⟨nameable, target⟩] at same
    simp [meets] at same
  obtain ⟨marked, done, runs, kept, others⟩ := runsAs_of_found found
  refine ⟨data, marked, bytes, done, runs, fileBytes_eq_ok_iff.mpr ⟨home, mode, ?_, readable⟩⟩
  exact locate_of_keeps kept (locate_of_keeps keeps read (elsewhere home apart))
    (others home apart)

end Disk

/-! ## Names of the stages -/

theorem Text.splitOn_concat {mark g : Glyph} (other : g ≠ mark) (t : Text) :
    ∃ parts last, (t ++ [g]).splitOn mark = parts ++ [last ++ [g]] := by
  induction t with
  | nil => exact ⟨[], [], if_neg other⟩
  | cons head rest ih =>
      obtain ⟨parts, last, same⟩ := ih
      rw [List.cons_append]
      unfold Text.splitOn
      rw [same]
      by_cases marked : head = mark
      · exact ⟨[] :: parts, last, if_pos marked⟩
      · rw [if_neg marked]
        cases parts with
        | nil => exact ⟨[], head :: last, rfl⟩
        | cons part parts => exact ⟨(head :: part) :: parts, last, rfl⟩

/-- The last name of a path under a text ends as the text does. -/
theorem Path.names_child_concat {g : Glyph} (inside : g ≠ slash) (notDot : g ≠ .char '.') (w : Path)
    (t : Text) : ∃ names last, (w.child (t ++ [g])).names = names ++ [last ++ [g]] := by
  obtain ⟨parts, last, split_⟩ := Text.splitOn_concat inside t
  have kept : last ++ [g] ≠ [.char '.'] := by
    intro same
    have ends := congrArg List.getLast? same
    rw [List.getLast?_append] at ends
    exact notDot (Option.some.inj ends)
  have own : ∃ names, namesOf (t ++ [g]) = names ++ [last ++ [g]] := by
    refine ⟨parts.filter fun name => !name.isEmpty && name ≠ [.char '.'], ?_⟩
    unfold namesOf
    rw [split_, List.filter_append]
    simp [kept]
  obtain ⟨names, own⟩ := own
  unfold child join
  split
  · exact ⟨names, last, own⟩
  · exact ⟨w.names ++ names, last, by simp [ofText, own]⟩

/-- The compilers of the two stages have paths of their own, whatever the compiler is called. -/
theorem Project.compiler_zero_ne_one (project : Project) (w : Path) :
    project.compiler w .zero ≠ project.compiler w .one := by
  intro same
  obtain ⟨names, last, zero⟩ := Path.names_child_concat (g := .char '0') (by decide) (by decide) w
    (project.layout.compiler ++ "_stage")
  obtain ⟨names', last', one⟩ := Path.names_child_concat (g := .char '1') (by decide) (by decide) w
    (project.layout.compiler ++ "_stage")
  have equal : names ++ [last ++ [.char '0']] = names' ++ [last' ++ [.char '1']] :=
    zero.symm.trans ((congrArg Path.names same).trans one)
  have ends := (List.append_inj' equal rfl).2
  have glyph := (List.append_inj' (List.cons.inj ends).1 rfl).2
  revert glyph
  decide

/-- The path above one that can be named can be named. -/
theorem Disk.named_of_child {w : Path} {t : Text} (relative : (Path.ofText t).isAbsolute = false)
    (named : misnamed? (w.child t) = none) : misnamed? w = none := by
  rw [misnamed?_eq_none_iff] at named ⊢
  intro name known
  refine named name ?_
  unfold Path.child Path.join
  rw [relative]
  exact List.mem_append_left _ known

/-! ## Commands and their logs -/

/-- The command was started, ended in time, and its status is zero. -/
structure CommandResult.Succeeded (r : CommandResult) : Prop where
  launched : r.launched = true
  inTime : r.timedOut = false
  status : r.exitCode = some 0

theorem CommandResult.failureReason_eq_none_iff (r : CommandResult) :
    r.failureReason = none ↔ r.Succeeded := by
  unfold failureReason
  constructor
  · intro fine
    cases started : r.launchError with
    | some error => rw [started] at fine; cases fine
    | none =>
        rw [started] at fine
        dsimp only at fine
        split at fine
        · cases fine
        · rename_i early
          split at fine
          · cases fine
          · rename_i good
            refine ⟨by simp [CommandResult.launched, started], by simpa using early, ?_⟩
            unfold effectiveExitCode at good
            cases code : r.exitCode with
            | some status =>
                rw [code] at good
                simpa using good
            | none =>
                rw [code] at good
                simp [early] at good
  · rintro ⟨started, early, status⟩
    rw [Option.isNone_iff_eq_none.mp started]
    simp [early, effectiveExitCode, status]

/-- The state with one more entry in its log. -/
def Session.said (s : Session) (level : Level) (message : Text) : Session :=
  { s with log := s.log ++ [⟨level, message⟩] }

/-- The state with one more tracked path. -/
def Session.tracking (s : Session) (path : Path) : Session :=
  { s with scratch := s.scratch.add path }

namespace Run

variable {host : Host} {project : Project} {listen : CommandEvent → Run Unit} {w : Path}
  {s t : Session} {stage : Stage} {result : CommandResult}

theorem from_scratchPath_of_workdir (based : from_ (workdir host) s = (.ok w, t)) (name : Text) :
    from_ (scratchPath host name) s = (.ok (w.child name), t.tracking (w.child name)) := by
  obtain ⟨live, -⟩ := workdir_ok based
  unfold scratchPath
  rw [from_bind_ok based]
  exact from_bind_ok (from_track live _) _

theorem keepBuildLog_ok {text : Text}
    (kept : from_ (keepBuildLog host stage text) s = (.ok (), t)) :
    t.scratch.tornDown = false ∧
      ∃ w, t.scratch.workdir = some w ∧ Disk.misnamed? w = none := by
  obtain ⟨path, u, handed, written⟩ := from_bind_eq_ok kept
  obtain ⟨w, v, based, -⟩ := from_bind_eq_ok handed
  obtain ⟨live, present, -⟩ := workdir_ok based
  cases (from_scratchPath_of_workdir based _).symm.trans handed
  rw [from_changePartly] at written
  rcases answer : v.disk.writeStream host.cwd (w.child (buildLogName stage)) text with
    ⟨disk, _ | fault⟩
  · simp only [Session.tracking, answer] at written
    cases written
    have relative : (Path.ofText (buildLogName stage)).isAbsolute = false := by
      cases stage <;> decide
    exact ⟨by simp [live], w, by simp [present],
      Disk.named_of_child relative (Disk.named_of_writeFile (Disk.writeFile_of_writeUnless answer).2)⟩
  · simp only [Session.tracking, answer] at written
    cases written

/-- The command of a build came to its end, and its log was kept in the working directory `w`. -/
structure Logged (host : Host) (project : Project) (listen : CommandEvent → Run Unit)
    (stage : Stage) (argv : List Text) (s : Session) (result : CommandResult) (w : Path)
    (t : Session) : Prop where
  ended : ∃ u, from_ (buildCommand host project argv listen) s = (.ok result, u) ∧
    from_ (keepBuildLog host stage result.buildLog) u = (.ok (), t)
  workdir : t.scratch.workdir = some w

namespace Logged

variable {argv : List Text}

theorem live (logged : Logged host project listen stage argv s result w t) :
    t.scratch.tornDown = false := by
  obtain ⟨u, -, kept⟩ := logged.ended
  exact (keepBuildLog_ok kept).1

theorem named (logged : Logged host project listen stage argv s result w t) :
    Disk.misnamed? w = none := by
  obtain ⟨u, -, kept⟩ := logged.ended
  obtain ⟨-, w', present, named⟩ := keepBuildLog_ok kept
  cases logged.workdir.symm.trans present
  exact named

theorem from_of_succeeded (logged : Logged host project listen stage argv s result w t)
    (fine : result.failureReason = none) :
    from_ (buildLogged host project stage argv listen) s = (.ok result.buildLog, t) := by
  obtain ⟨u, ran, kept⟩ := logged.ended
  unfold buildLogged
  rw [from_bind_ok ran, from_bind_ok kept, fine]
  rfl

theorem from_of_failed (logged : Logged host project listen stage argv s result w t) {reason : Text}
    (failed : result.failureReason = some reason) :
    from_ (buildLogged host project stage argv listen) s =
      (.error (.buildFailed stage.number reason result.buildLog), t) := by
  obtain ⟨u, ran, kept⟩ := logged.ended
  unfold buildLogged
  rw [from_bind_ok ran, from_bind_ok kept, failed]
  rfl

end Logged

/-! ## What a build comes to -/

/-- What a build comes to: it answers just if what it needs is there, the answer is as it should be,
and otherwise the build fails with one of the reasons and with its log, or stops at a stray
fault. -/
structure Settles (build : Run Artifact) (s : Session) (stage : Stage) (log : Text) (needs : Prop)
    (gives : Artifact → Disk → Prop) (reasons : Text → Prop) (stray : FileFault → Prop) : Prop where
  answers : (∃ artifact t, from_ build s = (.ok artifact, t)) ↔ needs
  sound : ∀ artifact t, from_ build s = (.ok artifact, t) → gives artifact t.disk
  fails : ∀ fault t, from_ build s = (.error fault, t) →
    (∃ reason, reasons reason ∧ fault = .buildFailed stage.number reason log) ∨
      ∃ other, stray other ∧ fault = .file other

namespace Settles

variable {build : Run Artifact} {log reason : Text} {needs : Prop} {gives : Artifact → Disk → Prop}
  {reasons : Text → Prop} {stray : FileFault → Prop} {artifact : Artifact}

theorem of_ok (ended : from_ build s = (.ok artifact, t)) (met : needs)
    (given : gives artifact t.disk) : Settles build s stage log needs gives reasons stray := by
  refine ⟨⟨fun _ => met, fun _ => ⟨artifact, t, ended⟩⟩, fun other u same => ?_,
    fun fault u same => ?_⟩
  · cases ended.symm.trans same
    exact given
  · cases ended.symm.trans same

theorem of_error {fault : Fault} (ended : from_ build s = (.error fault, t)) (unmet : ¬ needs)
    (why : (∃ reason, reasons reason ∧ fault = .buildFailed stage.number reason log) ∨
      ∃ other, stray other ∧ fault = .file other) :
    Settles build s stage log needs gives reasons stray := by
  refine ⟨⟨?_, fun met => absurd met unmet⟩, fun other u same => ?_, fun other u same => ?_⟩
  · rintro ⟨other, u, same⟩
    cases ended.symm.trans same
  · cases ended.symm.trans same
  · cases ended.symm.trans same
    exact why

theorem of_failed (ended : from_ build s = (.error (.buildFailed stage.number reason log), t))
    (unmet : ¬ needs) (why : reasons reason) :
    Settles build s stage log needs gives reasons stray :=
  of_error ended unmet (.inl ⟨reason, why, rfl⟩)

theorem of_stray {other : FileFault} (ended : from_ build s = (.error (.file other), t))
    (unmet : ¬ needs) (why : stray other) : Settles build s stage log needs gives reasons stray :=
  of_error ended unmet (.inr ⟨other, why, rfl⟩)

end Settles

/-- Why stage zero fails after its command, which left this disk. -/
inductive ZeroFails (host : Host) (project : Project) (w : Path) (result : CommandResult)
    (disk : Disk) : Text → Prop where
  | command {reason : Text} :
      result.failureReason = some reason → ZeroFails host project w result disk reason
  | missing :
      disk.isFile host.cwd project.binary = .ok false →
      ZeroFails host project w result disk ("built binary not found: " ++ project.binary.text)
  | copy {error : OsError} :
      disk.copyFile host.cwd project.binary (project.compiler w .zero) = .error (.os error) →
      ZeroFails host project w result disk
        ("could not copy " ++ project.binary.text ++ ": " ++ error.message)

/-- Stage zero needs a command that succeeded and a binary that can be copied, and gives a copy that
can be run. -/
def ZeroSettles (host : Host) (project : Project) (listen : CommandEvent → Run Unit) (s : Session)
    (result : CommandResult) (w : Path) (disk : Disk) : Prop :=
  Settles (buildZero host project listen) s .zero result.buildLog
    (result.Succeeded ∧ disk.isFile host.cwd project.binary = .ok true ∧
      ∃ after, disk.copyFile host.cwd project.binary (project.compiler w .zero) = .ok after)
    (fun zero after =>
      zero = ⟨.zero, project.compiler w .zero, true, result.buildLog, false⟩ ∧
        ∃ data, after.RunsAs host.cwd zero.path data ∧
          disk.fileBytes host.cwd project.binary = .ok data ∧
          after.fileBytes host.cwd project.binary = .ok data)
    (ZeroFails host project w result disk)
    (disk.Unseen host.cwd project.binary)

/-- What is said before the command of stage zero. -/
def zeroMessage (project : Project) : Text :=
  "Building Stage 0 with: " ++ Text.join " " project.layout.buildCommand

theorem from_buildZero
    (logged : Logged host project listen .zero project.layout.buildCommand
      (s.said .info (zeroMessage project)) result w t) (fine : result.failureReason = none) :
    from_ (buildZero host project listen) s =
      from_ (takeBinary host project result.buildLog) t := by
  have said : from_ (log .info (zeroMessage project)) s =
      (.ok (), s.said .info (zeroMessage project)) := rfl
  exact (from_bind_ok said _).trans (from_bind_ok (logged.from_of_succeeded fine) _)

theorem from_buildPart_of_ok {α : Type} {part : Run α} {a : α} (ended : from_ part s = (.ok a, t))
    (stage : Stage) (what text : Text) : from_ (buildPart stage what text part) s = (.ok a, t) := by
  rw [from_buildPart, ended]

theorem from_putBinary_ok {source target : Path} {after marked : Disk}
    (copied : s.disk.copyFile host.cwd source target = .ok after)
    (done : after.addMode host.cwd target everyoneRuns = .ok marked) :
    from_ (putBinary host source target) s = (.ok (), { s with disk := marked }) := by
  have marks : from_ (makeRunnable host target) { s with disk := after } =
      (.ok (), { s with disk := marked }) := from_change_ok done
  exact (from_bind_ok (from_change_ok copied) _).trans marks

theorem from_putBinary_error {source target : Path} {fault : FileFault}
    (refused : s.disk.copyFile host.cwd source target = .error fault) :
    from_ (putBinary host source target) s = (.error (.file fault), s) :=
  from_bind_error (from_change_error refused) _

/-- With the binary there, stage zero comes down to the copy. -/
theorem zeroSettles_of_present (usable : ∀ g ∈ project.layout.compiler, Disk.NameGlyph g)
    (logged : Logged host project listen .zero project.layout.buildCommand
      (s.said .info (zeroMessage project)) result w t) (fine : result.failureReason = none)
    (asked : t.disk.isFile host.cwd project.binary = .ok true) :
    ZeroSettles host project listen s result w t.disk := by
  let target := project.compiler w .zero
  have handed : from_ (scratchPath host (project.layout.stageName .zero)) t =
      (.ok target, t.tracking target) := from_scratchPath logged.live logged.workdir _
  have begun := (from_buildZero logged fine).trans
    ((from_bind_ok (from_ask_ok asked) _).trans (from_bind_ok handed _))
  cases copied : t.disk.copyFile host.cwd project.binary target with
  | error fault =>
      rcases Disk.fault_of_copyFile asked copied with ⟨error, rfl⟩ | unnamed
      · have refused := from_putBinary_error (s := t.tracking target) copied
        refine Settles.of_failed (begun.trans
          (from_bind_error (from_buildPart_of_system refused _ _ _) _)) ?_ (.copy copied)
        rintro ⟨-, -, after, done⟩
        cases copied.symm.trans done
      · cases (Project.named_compiler_of_usable logged.named usable .zero).symm.trans unnamed
  | ok after =>
      obtain ⟨data, marked, read, done, runs, still⟩ := Disk.runsAs_of_copyFile copied
      have ready := from_putBinary_ok (s := t.tracking target) copied done
      exact Settles.of_ok (begun.trans (from_bind_ok (from_buildPart_of_ok ready _ _ _) _))
        ⟨(result.failureReason_eq_none_iff).mp fine, asked, after, copied⟩
        ⟨rfl, data, runs, read, still⟩

theorem zeroSettles (usable : ∀ g ∈ project.layout.compiler, Disk.NameGlyph g)
    (logged : Logged host project listen .zero project.layout.buildCommand
      (s.said .info (zeroMessage project)) result w t) :
    ZeroSettles host project listen s result w t.disk := by
  cases reason : result.failureReason with
  | some text =>
      have said : from_ (log .info (zeroMessage project)) s =
          (.ok (), s.said .info (zeroMessage project)) := rfl
      refine Settles.of_failed ((from_bind_ok said _).trans
        (from_bind_error (logged.from_of_failed reason) _)) ?_ (.command reason)
      rintro ⟨succeeded, -⟩
      cases reason.symm.trans ((result.failureReason_eq_none_iff).mpr succeeded)
  | none =>
      have begun := from_buildZero logged reason
      cases asked : t.disk.isFile host.cwd project.binary with
      | error other =>
          refine Settles.of_stray (begun.trans (from_bind_error (from_ask_error asked) _)) ?_
            (Disk.unseen_of_isFile asked)
          rintro ⟨-, there, -⟩
          cases asked.symm.trans there
      | ok there =>
          cases there with
          | false =>
              have known := begun.trans (from_bind_ok (from_ask_ok asked) _)
              refine Settles.of_failed known ?_ (.missing asked)
              rintro ⟨-, there, -⟩
              cases asked.symm.trans there
          | true => exact zeroSettles_of_present usable logged reason asked

/-! ## Stage one -/

/-- What is said before the command of stage one. -/
def oneMessage (project : Project) : Text := "Building Stage 1 from " ++ project.source.text

/-- The command of stage one. -/
def oneCommand (project : Project) (zero : Artifact) (target : Path) : List Text :=
  [zero.path.text, "build", project.source.text, "-o", target.text]

/-- A build of stage one from its source. -/
def buildSource (host : Host) (project : Project) (listen : CommandEvent → Run Unit)
    (zero : Artifact) (target : Path) : Run Artifact := do
  log .info (oneMessage project)
  let text ← buildLogged host project .one (oneCommand project zero target) listen
  keepBinary host target text

/-- For a stage zero that was built, stage one depends on the source. -/
theorem from_buildOne (listen : CommandEvent → Run Unit) {zero : Artifact}
    (built : zero.built = true) (based : from_ (workdir host) s = (.ok w, t)) :
    from_ (buildOne host project listen zero) s = from_ (do
      if !(← hasSource host project) then delegate host project zero (project.compiler w .one)
      else buildSource host project listen zero (project.compiler w .one))
      (t.tracking (project.compiler w .one)) := by
  unfold buildOne
  rw [built]
  exact from_bind_ok (from_scratchPath_of_workdir based _) _

/-! ## Stage one as a script -/

/-- The path that a script hands calls on to. -/
def delegatedPath (host : Host) (zero : Artifact) : Text :=
  (Path.absolute ⟨.root, host.cwd⟩ zero.path).text

/-- The log of a build that leaves a script. -/
def delegationLog (host : Host) (project : Project) (zero : Artifact) : Text :=
  "self-hosted source not found: " ++ project.source.text ++ "\ndelegating to " ++
    delegatedPath host zero ++ "\n"

/-- Without the source, stage one needs a script that can be written, and gives a script that can be
run. -/
def DelegationSettles (host : Host) (project : Project) (listen : CommandEvent → Run Unit)
    (s : Session) (zero : Artifact) (w : Path) (disk : Disk) : Prop :=
  let target := project.compiler w .one
  let script := delegationScript (delegatedPath host zero)
  Settles (buildOne host project listen zero) s .one (delegationLog host project zero)
    (∃ after, disk.writeText host.cwd target script = (after, none))
    (fun one after =>
      one = ⟨.one, target, true, delegationLog host project zero, true⟩ ∧
        ∃ data, after.RunsAs host.cwd one.path data)
    (fun reason => ∃ after error,
      disk.writeText host.cwd target script = (after, some (.os error)) ∧
      reason = "could not write delegation artifact" ++ ": " ++ error.message)
    (fun other => ∃ start count code, Disk.strays? script = some (start, count, code) ∧
      other = .notUnicode start count code)

/-- Once the script is in place, its log can be written. -/
def DelegationLoggable (host : Host) (project : Project) (zero : Artifact) (w : Path)
    (disk : Disk) : Prop :=
  let target := project.compiler w .one
  ∀ after marked,
    disk.writeText host.cwd target (delegationScript (delegatedPath host zero)) = (after, none) →
    after.addMode host.cwd target everyoneRuns = .ok marked →
    ∃ kept, marked.writeStream host.cwd (w.child (buildLogName .one))
      (delegationLog host project zero) = (kept, none)

/-- The script is written and marked. -/
def putScript (host : Host) (target : Path) (script : Text) : Run Unit := do
  changePartly fun disk => disk.writeText host.cwd target script
  makeRunnable host target

theorem from_putScript_ok {target : Path} {script : Text} {after marked : Disk}
    (written : s.disk.writeText host.cwd target script = (after, none))
    (done : after.addMode host.cwd target everyoneRuns = .ok marked) :
    from_ (putScript host target script) s = (.ok (), { s with disk := marked }) := by
  have writes : from_ (changePartly fun disk => disk.writeText host.cwd target script) s =
      (.ok (), { s with disk := after }) := by
    rw [from_changePartly, written]
  have marks : from_ (makeRunnable host target) { s with disk := after } =
      (.ok (), { s with disk := marked }) := from_change_ok done
  exact (from_bind_ok writes _).trans marks

theorem from_putScript_error {target : Path} {script : Text} {after : Disk} {fault : FileFault}
    (refused : s.disk.writeText host.cwd target script = (after, some fault)) :
    from_ (putScript host target script) s = (.error (.file fault), { s with disk := after }) := by
  have stopped : from_ (changePartly fun disk => disk.writeText host.cwd target script) s =
      (.error (.file fault), { s with disk := after }) := by
    rw [from_changePartly, refused]
  exact from_bind_error stopped _

theorem from_keepBuildLog {text : Text} {disk : Disk} (live : s.scratch.tornDown = false)
    (present : s.scratch.workdir = some w)
    (written : s.disk.writeStream host.cwd (w.child (buildLogName stage)) text = (disk, none)) :
    from_ (keepBuildLog host stage text) s =
      (.ok (), { s.tracking (w.child (buildLogName stage)) with disk }) := by
  refine (from_bind_ok (from_scratchPath live present _) _).trans ((from_changePartly _ _).trans ?_)
  simp only [Session.tracking, written]

/-- What is said before a script is left. -/
def delegationMessage (project : Project) : Text :=
  "Self-hosted source not found at " ++ project.source.text ++ "; creating delegation artifact"

/-- The script is put in place before its log is kept. -/
def leaveScript (host : Host) (project : Project) (zero : Artifact) (target : Path) :
    Run Artifact := do
  buildPart .one "could not write delegation artifact" (delegationLog host project zero)
    (putScript host target (delegationScript (delegatedPath host zero)))
  keepBuildLog host .one (delegationLog host project zero)
  return ⟨.one, target, true, delegationLog host project zero, true⟩

theorem from_delegate (zero : Artifact) (target : Path) :
    from_ (delegate host project zero target) s =
      from_ (leaveScript host project zero target)
        (s.said .warning (delegationMessage project)) := by
  have said : from_ (log .warning (delegationMessage project)) s =
      (.ok (), s.said .warning (delegationMessage project)) := rfl
  exact from_bind_ok said fun _ => leaveScript host project zero target

theorem delegationSettles {zero : Artifact}
    (usable : ∀ g ∈ project.layout.compiler, Disk.NameGlyph g) (named : Disk.misnamed? w = none)
    (built : zero.built = true) (based : from_ (workdir host) s = (.ok w, t))
    (absent : t.disk.isFile host.cwd project.source = .ok false)
    (loggable : DelegationLoggable host project zero w t.disk) :
    DelegationSettles host project listen s zero w t.disk := by
  obtain ⟨live, present, -⟩ := workdir_ok based
  let target := project.compiler w .one
  let u := (t.tracking target).said .warning (delegationMessage project)
  have asked : from_ (hasSource host project) (t.tracking target) =
      (.ok false, t.tracking target) := from_ask_ok absent
  have begun : from_ (buildOne host project listen zero) s =
      from_ (leaveScript host project zero target) u :=
    (from_buildOne listen built based).trans
      ((from_bind_ok asked _).trans (from_delegate zero target))
  rcases written : t.disk.writeText host.cwd target
      (delegationScript (delegatedPath host zero)) with ⟨after, _ | fault⟩
  · obtain ⟨data, file⟩ := Disk.writeFile_of_writeText written
    obtain ⟨marked, done, runs⟩ := Disk.runsAs_of_writeFile file
    obtain ⟨kept, logged⟩ := loggable after marked written done
    have ready := from_putScript_ok (s := u) written done
    have keeps : from_ (keepBuildLog host .one (delegationLog host project zero))
        { u with disk := marked } = (.ok (), _) :=
      from_keepBuildLog (by simp [u, Session.said, Session.tracking, live])
        (by simp [u, Session.said, Session.tracking, present]) logged
    exact Settles.of_ok (begun.trans ((from_bind_ok (from_buildPart_of_ok ready _ _ _) _).trans
      (from_bind_ok keeps _))) ⟨after, written⟩
      ⟨rfl, runs.of_writeFile (Disk.writeFile_of_writeUnless logged).2⟩
  · have refused := from_putScript_error (s := u) written
    have unmet : ¬ ∃ after, t.disk.writeText host.cwd target
        (delegationScript (delegatedPath host zero)) = (after, none) := by
      rintro ⟨other, fine⟩
      cases written.symm.trans fine
    rcases Disk.fault_of_writeText (congrArg Prod.snd written) with ⟨error, rfl⟩ | unnamed |
      ⟨start, count, code, stray, rfl⟩
    · exact Settles.of_failed (begun.trans
        (from_bind_error (from_buildPart_of_system refused _ _ _) _)) unmet
        ⟨after, error, written, rfl⟩
    · cases (Project.named_compiler_of_usable named usable .one).symm.trans unnamed
    · exact Settles.of_stray (begun.trans
        (from_bind_error (from_buildPart_of_foreign refused (fun _ => by simp) _ _ _) _)) unmet
        ⟨start, count, code, stray, rfl⟩

/-! ## Stage one from its source -/

/-- Why stage one fails after its command, which left this disk. -/
inductive OneFails (host : Host) (target : Path) (result : CommandResult) (disk : Disk) :
    Text → Prop where
  | command {reason : Text} :
      result.failureReason = some reason → OneFails host target result disk reason
  | missing :
      disk.isFile host.cwd target = .ok false →
      OneFails host target result disk ("Stage 0 produced no binary at " ++ target.text)

/-- With the source, stage one needs a command that succeeded and left a regular file, and gives
that file, which can be run. -/
def OneSettles (host : Host) (project : Project) (listen : CommandEvent → Run Unit) (s : Session)
    (zero : Artifact) (result : CommandResult) (w : Path) (disk : Disk) : Prop :=
  let target := project.compiler w .one
  Settles (buildOne host project listen zero) s .one result.buildLog
    (result.Succeeded ∧ disk.isFile host.cwd target = .ok true)
    (fun one after =>
      one = ⟨.one, target, true, result.buildLog, false⟩ ∧
        ∃ data, after.RunsAs host.cwd one.path data)
    (OneFails host target result disk)
    (disk.Unseen host.cwd target)

theorem oneSettles {zero : Artifact} {v : Session} (built : zero.built = true)
    (based : from_ (workdir host) s = (.ok w, v))
    (present : v.disk.isFile host.cwd project.source = .ok true)
    (logged : Logged host project listen .one (oneCommand project zero (project.compiler w .one))
      ((v.tracking (project.compiler w .one)).said .info (oneMessage project)) result w t) :
    OneSettles host project listen s zero result w t.disk := by
  let target := project.compiler w .one
  have asked : from_ (hasSource host project) (v.tracking target) = (.ok true, v.tracking target) :=
    from_ask_ok present
  have said : from_ (log .info (oneMessage project)) (v.tracking target) =
      (.ok (), (v.tracking target).said .info (oneMessage project)) := rfl
  have begun := (from_buildOne listen built based).trans
    ((from_bind_ok asked _).trans (from_bind_ok said _))
  cases reason : result.failureReason with
  | some text =>
      refine Settles.of_failed (begun.trans (from_bind_error (logged.from_of_failed reason) _)) ?_
        (.command reason)
      rintro ⟨succeeded, -⟩
      cases reason.symm.trans ((result.failureReason_eq_none_iff).mpr succeeded)
  | none =>
      have succeeded := (result.failureReason_eq_none_iff).mp reason
      have ran := begun.trans (from_bind_ok (logged.from_of_succeeded reason) _)
      cases asked : t.disk.isFile host.cwd target with
      | error other =>
          refine Settles.of_stray (ran.trans (from_bind_error (from_ask_error asked) _)) ?_
            (Disk.unseen_of_isFile asked)
          rintro ⟨-, there⟩
          cases asked.symm.trans there
      | ok there =>
          have known := ran.trans (from_bind_ok (from_ask_ok asked) _)
          cases there with
          | false =>
              refine Settles.of_failed known ?_ (.missing asked)
              rintro ⟨-, there⟩
              cases asked.symm.trans there
          | true =>
              obtain ⟨place, mode, data, found⟩ := Disk.hasFile_iff.mp (Disk.hasFile_of_ok asked)
              obtain ⟨marked, done, runs, -⟩ := Disk.runsAs_of_found found
              have marks : from_ (makeRunnable host target) t =
                  (.ok (), { t with disk := marked }) := from_change_ok done
              exact Settles.of_ok (known.trans (from_bind_ok marks _)) ⟨succeeded, asked⟩
                ⟨rfl, data, runs⟩

/-! ## Both stages -/

/-- **When the builds answer, and what.** Let the name of the compiler be usable, the commands come
to their ends, and the logs be kept. Stage zero answers just if its command succeeded and the binary
is then a regular file that can be copied. Stage one, for a stage zero that was built, answers just
if its source is not a file and the script can be written, or the source is a file, the command
succeeded and its output is a regular file. An answer is a regular file that everyone may run, at a
path of the stage's own; any other end is a failure of the build with its log, except where a file
cannot be looked for or the path of stage zero cannot stand in a script. -/
theorem builds_settle (host : Host) (project : Project) (listen : CommandEvent → Run Unit)
    (usable : ∀ g ∈ project.layout.compiler, Disk.NameGlyph g) :
    (∀ s result w t,
      Logged host project listen .zero project.layout.buildCommand
        (s.said .info (zeroMessage project)) result w t →
      ZeroSettles host project listen s result w t.disk) ∧
    (∀ zero s w v, zero.built = true → from_ (workdir host) s = (.ok w, v) →
      (v.disk.isFile host.cwd project.source = .ok false → Disk.misnamed? w = none →
        DelegationLoggable host project zero w v.disk →
        DelegationSettles host project listen s zero w v.disk) ∧
      (v.disk.isFile host.cwd project.source = .ok true →
        ∀ result t,
          Logged host project listen .one (oneCommand project zero (project.compiler w .one))
            ((v.tracking (project.compiler w .one)).said .info (oneMessage project)) result w t →
          OneSettles host project listen s zero result w t.disk) ∧
      ∀ other, v.disk.isFile host.cwd project.source = .error other →
        v.disk.Unseen host.cwd project.source other ∧
          ∃ t, from_ (buildOne host project listen zero) s = (.error (.file other), t)) ∧
    ∀ w, project.compiler w .zero ≠ project.compiler w .one := by
  refine ⟨fun s result w t logged => zeroSettles usable logged, ?_, project.compiler_zero_ne_one⟩
  intro zero s w v built based
  refine ⟨fun absent named loggable => delegationSettles usable named built based absent loggable,
    fun present result t logged => oneSettles built based present logged, fun other lost => ?_⟩
  have asked : from_ (hasSource host project) (v.tracking (project.compiler w .one)) =
      (.error (.file other), v.tracking (project.compiler w .one)) := from_ask_error lost
  exact ⟨Disk.unseen_of_isFile lost, _,
    (from_buildOne listen built based).trans (from_bind_error asked _)⟩

/-- A session in a working directory, with a binary that was built. -/
def stocked : Session :=
  Session.start
    ⟨[(["p"], .directory 0o755), (["p", "target"], .directory 0o755),
      (["p", "target", "release"], .directory 0o755),
      (["p", "target", "release", "oviec"], .file 0o644 [7]), (["tmp"], .directory 0o755)]⟩
    { Scratch.fresh none false with workdir := some (Path.ofText "/tmp") }

theorem quick_inTime : (Watch.run Child.quick ((Policy.standard .stageBuild).limit none)
    (Policy.standard .stageBuild).grace).timedOut = false := by decide +kernel

/-- A command that ends at once succeeds, and leaves the disk and the tracked paths as they are. Its
log can be written if its words can. -/
theorem buildCommand_quick {cwd : Path} (talks : ∀ event, Talks (listen event))
    (unlimited : project.layout.buildLimit = none)
    (resolved : s.disk.resolve [] project.root = .ok cwd) {argv : List Text}
    (clean : (Shell.joinWords argv).Clean) :
    ∃ result t, from_ (buildCommand (.always Child.quick) project argv listen) s = (.ok result, t) ∧
      result.Succeeded ∧ Disk.unnameable? result.buildLog = none ∧ t.disk = s.disk ∧
      t.scratch = s.scratch := by
  let host := Host.always Child.quick
  let request : Request := ⟨argv, .stageBuild, Policy.standard .stageBuild, some project.root, none,
    project.layout.buildLimit⟩
  let invocation := request.invocation host (some cwd)
  let watch := Watch.run Child.quick invocation.limit invocation.grace
  have placed : request.cwd.mapM (fun path => s.disk.resolve host.cwd path) = .ok (some cwd) := by
    change (some project.root).mapM (fun path => s.disk.resolve [] path) = _
    rw [Option.mapM_some, resolved]
    rfl
  have starts : (host.react s.launches.length invocation s.disk).1 = .ok Child.quick := rfl
  have told : Talks ((announced request invocation.limit watch).forM listen) :=
    Talks.forM fun event _ => talks event
  have inTime : watch.timedOut = false := by
    have short : invocation.limit = (Policy.standard .stageBuild).limit none :=
      congrArg (Policy.standard .stageBuild).limit unlimited
    change (Watch.run Child.quick invocation.limit _).timedOut = false
    rw [short]
    exact quick_inTime
  obtain ⟨t, ran, -, said⟩ := from_command_uncut talks placed starts fun _ => rfl
  obtain ⟨log, console, commandEvents, checkEvents, talk⟩ :=
    told (launched host s invocation watch.sent)
  cases talk.symm.trans said
  refine ⟨_, _, ran, ⟨rfl, inTime, if_neg ?_⟩, Option.eq_none_iff_forall_ne_some.mpr ?_, rfl, rfl⟩
  · rw [inTime]
    exact Bool.false_ne_true
  · intro fault found
    obtain ⟨index, inside⟩ := Disk.half_of_unnameable found
    rcases CommandResult.half_of_buildLog inside with command | out | err | ⟨_, ⟨⟩, -⟩
    · exact clean.half_notMem index command
    · exact Utf8.half_notMem_decode _ index out
    · exact Utf8.half_notMem_decode _ index err

/-- The working directory of that session. -/
def stockedDir : Path := Path.ofText "/tmp"

theorem writeStream_stocked {text : Text} (whole : Disk.unnameable? text = none) :
    stocked.disk.writeStream [] (stockedDir.child (buildLogName .zero)) text =
      (stocked.disk.put ["tmp", buildLogName .zero] (.file 0o644 text.encode), none) := by
  unfold Disk.writeStream Disk.writeUnless
  rw [whole]
  rfl

/-- A project with its defaults. -/
def plainProject : Project := ⟨Path.ofText "/p", .standard⟩

theorem logged_stocked (level : Level) (message : Text) :
    ∃ result t data, Logged (.always Child.quick) plainProject (fun _ => pure ()) .zero
        plainProject.layout.buildCommand (stocked.said level message) result stockedDir t ∧
      result.Succeeded ∧
      t.disk = stocked.disk.put ["tmp", buildLogName .zero] (.file 0o644 data) := by
  have resolved : (stocked.said level message).disk.resolve [] plainProject.root =
      .ok plainProject.root := rfl
  have clean : (Shell.joinWords plainProject.layout.buildCommand).Clean := by decide +kernel
  obtain ⟨result, u, ran, succeeded, loggable, disk, scratch⟩ :=
    buildCommand_quick (fun _ => Talks.pure) rfl resolved clean
  have written := writeStream_stocked loggable
  rw [← show u.disk = stocked.disk from disk] at written
  have kept : from_ (keepBuildLog (.always Child.quick) .zero result.buildLog) u = (.ok (), _) :=
    from_keepBuildLog (by rw [scratch]; rfl) (by rw [scratch]; rfl) written
  refine ⟨result, _, _, ⟨⟨u, ran, kept⟩, ?_⟩, succeeded, congrArg (Disk.put · _ _) disk⟩
  simp [Session.tracking, scratch]
  rfl

theorem builds_settle_stocked :
    let host := Host.always Child.quick
    let listen : CommandEvent → Run Unit := fun _ => pure ()
    let built : Artifact := ⟨.zero, Path.ofText "/tmp/oviec_stage0", true, [], false⟩
    (∃ zero t, from_ (buildZero host plainProject listen) stocked = (.ok zero, t) ∧
      t.disk.RunsAs host.cwd zero.path [7]) ∧
    ∃ one t, from_ (buildOne host plainProject listen built) stocked = (.ok one, t) ∧
      one.delegated = true ∧ ∃ data, t.disk.RunsAs host.cwd one.path data := by
  intro host listen built
  obtain ⟨settlesZero, settlesOne, -⟩ := builds_settle host plainProject listen (by decide)
  constructor
  · obtain ⟨result, u, text, logged, succeeded, disk⟩ :=
      logged_stocked .info (zeroMessage plainProject)
    have settles := settlesZero stocked result stockedDir u logged
    rw [disk] at settles
    obtain ⟨zero, t, ended⟩ := settles.answers.mpr ⟨succeeded, rfl, _, rfl⟩
    obtain ⟨-, data, runs, read, -⟩ := settles.sound zero t ended
    have seven : (stocked.disk.put ["tmp", buildLogName .zero] (.file 0o644 text)).fileBytes []
        plainProject.binary = .ok [7] := rfl
    cases seven.symm.trans read
    exact ⟨zero, t, ended, runs⟩
  · have based : from_ (workdir host) stocked = (.ok stockedDir, stocked) := rfl
    have loggable : DelegationLoggable host plainProject built stockedDir stocked.disk := by
      intro after marked written done
      obtain ⟨script, file⟩ := Disk.writeFile_of_writeText written
      cases file
      cases done
      exact ⟨_, rfl⟩
    have settles := (settlesOne built stocked stockedDir stocked rfl based).1 rfl rfl loggable
    have plain : Disk.strays? (delegationScript (delegatedPath host built)) = none := by
      decide +kernel
    have written : ∃ after, stocked.disk.writeText host.cwd (plainProject.compiler stockedDir .one)
        (delegationScript (delegatedPath host built)) = (after, none) := by
      unfold Disk.writeText Disk.writeUnless
      rw [plain]
      exact ⟨_, rfl⟩
    obtain ⟨one, t, ended⟩ := settles.answers.mpr written
    obtain ⟨same, data, runs⟩ := settles.sound one t ended
    exact ⟨one, t, ended, congrArg Artifact.delegated same, data, runs⟩

end Run

end StageParity
