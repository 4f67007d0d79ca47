import StageParity.Proofs.Cleanup
import StageParity.Proofs.Removal
import StageParity.Proofs.Skeleton
import StageParity.Proofs.StageAnswers
import StageParity.Proofs.StoredStreams

/-!
# Legible reports

A report shows some of its texts as they are and others by way of their bytes, line by line. The
rendered report holds characters only if the first kind does (`Report.Legible`), whatever the second
kind holds. What the disk says when it refuses something always does (`Disk.Worded`), because it
puts paths in quotes.
-/

namespace StageParity

/-! ## Texts and paths -/

namespace Text

variable {s t : Text}

@[simp] theorem clean_nil : Clean [] := fun _ inside => nomatch inside

@[simp] theorem clean_append : (s ++ t).Clean ↔ s.Clean ∧ t.Clean := List.forall_mem_append

@[simp] theorem clean_cons_char {c : Char} : Clean (.char c :: t) ↔ t.Clean := by
  simp [Clean, Glyph.isChar]

@[simp] theorem clean_ofString (s : String) : (ofString s).Clean := clean_ofChars _

@[simp] theorem clean_ofNat (n : Nat) : (ofNat n).Clean := clean_ofChars _

attribute [simp] clean_ofChars clean_ofInt clean_ofFloatFixed clean_quoted

theorem clean_join {parts : List Text} (separator : s.Clean) (clean : ∀ part ∈ parts, part.Clean) :
    (join s parts).Clean := by
  intro g inside
  rcases mem_join inside with between | ⟨part, known, there⟩
  · exact separator g between
  · exact clean part known g there

/-- Whatever the bytes of a text are, what is read in place of them are characters. -/
theorem clean_printable (t : Text) : t.printable.Clean := by
  have read (skip : Nat) (bytes : List UInt8) : (Utf8.readableFrom skip bytes).Clean := by
    fun_induction Utf8.readableFrom skip bytes with
    | case1 => exact clean_nil
    | case2 _ _ _ ih => exact ih
    | case3 _ _ c _ _ ih => exact clean_cons_char.mpr ih
    | case4 _ _ _ _ ih => exact clean_cons_char.mpr ih
  exact read 0 t.encode

theorem clean_linesFrom {before row : Text} (clean : before.Clean) (rest : t.Clean)
    (member : row ∈ linesFrom before t) : row.Clean := by
  have reversed {part : Text} (clean : part.Clean) : Clean part.reverse :=
    fun g inside => clean g (List.mem_reverse.mp inside)
  fun_induction linesFrom before t with
  | case1 before none => cases member
  | case2 before some_ =>
      rw [List.mem_singleton.mp member]
      exact reversed clean
  | case3 before t ih =>
      rcases List.mem_cons.mp member with rfl | later
      · exact reversed clean
      · exact ih clean_nil (clean_cons_char.mp (clean_cons_char.mp rest)) later
  | case4 before g t other ends ih =>
      rcases List.mem_cons.mp member with rfl | later
      · exact reversed clean
      · exact ih clean_nil (List.forall_mem_cons.mp rest).2 later
  | case5 before g t other inside ih =>
      obtain ⟨isChar, rest⟩ := List.forall_mem_cons.mp rest
      exact ih (List.forall_mem_cons.mpr ⟨isChar, clean⟩) rest member

/-- The first line of a text starts with what stands before its first line end. -/
theorem clean_splitFirst_append (clean : s.Clean) (rest : (t.splitFirst (.char '\n')).1.Clean) :
    ((s ++ t).splitFirst (.char '\n')).1.Clean := by
  induction s with
  | nil => exact rest
  | cons g s ih =>
      obtain ⟨isChar, clean⟩ := List.forall_mem_cons.mp clean
      rw [List.cons_append, splitFirst]
      split
      · exact clean_nil
      · exact List.forall_mem_cons.mpr ⟨isChar, ih clean⟩

theorem clean_splitFirst (clean : t.Clean) : (t.splitFirst (.char '\n')).1.Clean := by
  have whole := clean_splitFirst_append clean (t := []) clean_nil
  rwa [List.append_nil] at whole

end Text

namespace Path

variable {p : Path} {t : Text}

theorem clean_text_iff : p.text.Clean ↔ ∀ name ∈ p.names, name.Clean := by
  refine ⟨fun clean name known g inside => clean g (Disk.mem_text_of_mem_name known inside),
    fun clean g inside => ?_⟩
  rcases Disk.mem_text inside with rfl | rfl | ⟨name, known, there⟩
  · rfl
  · rfl
  · exact clean name known g there

theorem clean_ofText (clean : t.Clean) : (ofText t).text.Clean := by
  refine clean_text_iff.mpr fun name known g inside => ?_
  exact clean g (Text.mem_of_mem_splitOn (List.mem_filter.mp known).1 inside)

theorem clean_child (clean : p.text.Clean) (cleanToo : t.Clean) : (p.child t).text.Clean := by
  have last := clean_ofText cleanToo
  rw [clean_text_iff] at clean last
  unfold child join
  split
  · exact clean_text_iff.mpr last
  · exact clean_text_iff.mpr (List.forall_mem_append.mpr ⟨clean, last⟩)

theorem clean_name (clean : p.text.Clean) : p.name.Clean := by
  unfold name
  cases last : p.names.getLast? with
  | none => exact Text.clean_nil
  | some name => exact clean_text_iff.mp clean name (List.mem_of_getLast? last)

end Path

/-! ## Refusals of the disk -/

namespace Disk

variable {α β : Type} {d : Disk} {cwd : Location} {aim : Aim} {p : Path}

/-- An answer of the disk that holds characters only if it is a refusal. -/
def Worded (answer : Except FileFault α) : Prop :=
  ∀ fault, answer = .error fault → fault.message.Clean

/-- A change of the disk, which may have been made in part, with a fault in characters if it has
one. -/
def WordedPartly (change : Disk × Option FileFault) : Prop :=
  ∀ fault, change.2 = some fault → fault.message.Clean

theorem Worded.ok (a : α) : Worded (.ok a) := fun _ failed => nomatch failed

theorem Worded.error {fault : FileFault} (clean : fault.message.Clean) :
    Worded (.error fault : Except FileFault α) := by
  rintro _ ⟨⟩
  exact clean

theorem Worded.refuse (errno : Errno) (path : Text) :
    Worded (.error (.os (.onPath errno path)) : Except FileFault α) :=
  .error (OsError.clean_onPath errno path)

theorem Worded.bind {answer : Except FileFault α} {f : α → Except FileFault β}
    (first : Worded answer) (second : ∀ a, Worded (f a)) : Worded (answer >>= f) := by
  cases answer with
  | error fault => exact .error (first fault rfl)
  | ok a => exact second a

theorem WordedPartly.of_error {answer : Except FileFault α} {fault : FileFault}
    (worded : Worded answer) (failed : answer = .error fault) (d : Disk) :
    WordedPartly (d, some fault) := by
  rintro _ ⟨⟩
  exact worded fault failed

theorem WordedPartly.refuse (d : Disk) (errno : Errno) (path : Text) :
    WordedPartly (d, some (.os (.onPath errno path))) := by
  rintro _ ⟨⟩
  exact OsError.clean_onPath errno path

theorem WordedPartly.done (d : Disk) : WordedPartly (d, none) := fun _ failed => nomatch failed

theorem clean_notUnicode (start count code : Nat) :
    (FileFault.notUnicode start count code).message.Clean := by
  unfold FileFault.message
  dsimp only
  split <;> simp

theorem clean_of_unnameable {t : Text} {fault : FileFault} (found : unnameable? t = some fault) :
    fault.message.Clean := by
  obtain ⟨start, count, code, rfl⟩ := notUnicode_of_unnameable found
  exact clean_notUnicode start count code

theorem clean_of_misnamed {fault : FileFault} (named : misnamed? p = some fault) :
    fault.message.Clean := by
  unfold misnamed? at named
  split at named
  · rename_i found
    cases named
    exact clean_of_unnameable found
  · split at named <;> cases named
    exact Text.clean_ofString _

theorem worded_locate : Worded (d.locate cwd aim p) := by
  unfold locate locateSteps
  split
  · rename_i named
    exact .error (clean_of_misnamed named)
  · split
    · exact .refuse _ _
    · split
      · exact .ok _
      · exact .refuse _ _

theorem worded_entryAt : Worded (d.entryAt cwd aim p) := by
  unfold entryAt
  split
  · exact .ok _
  · exact .refuse _ _
  · rename_i located
    exact .error (worded_locate _ located)

theorem worded_testAt (test : Entry → Bool) : Worded (d.testAt cwd aim p test) := by
  unfold testAt
  split
  · exact .ok _
  · rename_i failed
    split
    · exact .ok _
    · exact .error (worded_entryAt _ failed)

theorem worded_resolve : Worded (d.resolve cwd p) := by
  unfold resolve
  split
  · rename_i named
    exact .error (clean_of_misnamed named)
  · dsimp only
    split
    · split
      · exact .error (by simp [FileFault.message])
      · exact .ok _
    · exact .ok _

theorem worded_add (directory : Location) (name : Text) (entry : Entry) :
    Worded (d.add p directory name entry) := by
  unfold add
  split
  · exact .ok _
  · exact .refuse _ _

theorem worded_writeFile (data : List UInt8) : Worded (d.writeFile cwd p data) := by
  refine worded_locate.bind fun spot => ?_
  rcases spot with ⟨place, (mode | ⟨mode, old⟩ | target)⟩ | ⟨directory, name⟩
  · exact .refuse _ _
  · dsimp only
    split
    · exact .refuse _ _
    · exact .ok _
  · exact .refuse _ _
  · exact worded_add _ _ _

theorem worded_makeDirectory (mode : Nat) : Worded (d.makeDirectory cwd p mode) := by
  refine worded_locate.bind fun spot => ?_
  cases spot with
  | found place entry => exact .refuse _ _
  | vacant directory name => exact worded_add _ _ _

theorem worded_addMode (bits : Nat) : Worded (d.addMode cwd p bits) := by
  refine worded_locate.bind fun spot => ?_
  cases spot with
  | found place entry => exact .ok _
  | vacant directory name => exact .refuse _ _

theorem worded_copyFile (source : Path) : Worded (d.copyFile cwd source p) := by
  have same : Worded (d.sameEntry cwd source p) := by
    unfold sameEntry
    split
    · exact .error (by simp [FileFault.message])
    · exact .error (by simp [FileFault.message])
    · exact .ok _
    · exact .ok _
  have bytes : Worded (d.fileBytes cwd source) := by
    refine worded_entryAt.bind fun entry => ?_
    cases entry with
    | file mode data =>
        dsimp only
        split
        · exact .refuse _ _
        · exact .ok _
    | directory mode => exact .refuse _ _
    | link target => exact .refuse _ _
  refine same.bind fun answer => ?_
  cases answer with
  | true => exact .error (by simp [FileFault.message, OsError.message])
  | false => exact bytes.bind fun data => worded_writeFile data

theorem worded_writeUnless {text : Text} {wrong : Option FileFault}
    (clean : ∀ fault, wrong = some fault → fault.message.Clean) :
    WordedPartly (d.writeUnless cwd p text wrong) := by
  unfold writeUnless
  split
  · exact clean
  · rename_i failed
    exact .of_error (worded_writeFile _) failed d

theorem worded_writeText (text : Text) : WordedPartly (d.writeText cwd p text) := by
  refine worded_writeUnless fun fault wrong => ?_
  obtain ⟨found, -, rfl⟩ := Option.map_eq_some_iff.mp wrong
  exact clean_notUnicode _ _ _

theorem worded_writeStream (text : Text) : WordedPartly (d.writeStream cwd p text) :=
  worded_writeUnless fun _ => clean_of_unnameable

theorem worded_makeDirectories (depth : Nat) : WordedPartly (d.makeDirectories cwd depth p) := by
  -- What follows when one directory could not be made.
  have settles (d : Disk) {p : Path} {fault : FileFault}
      (failed : d.makeDirectory cwd p newDirectoryMode = .error fault) :
      WordedPartly (d.settle cwd p fault) := by
    unfold settle
    split
    · split
      · exact .done d
      · exact .of_error (worded_makeDirectory _) failed d
      · rename_i failed
        exact .of_error (worded_testAt _) failed d
    · exact .of_error (worded_makeDirectory _) failed d
  fun_induction makeDirectories d cwd depth p with
  | case1 | case4 | case8 => exact .done _
  | case2 _ _ failed | case6 _ _ _ failed => exact .of_error (worded_makeDirectory _) failed d
  | case3 _ _ failed | case5 _ _ _ failed => exact settles d failed
  | case7 _ _ _ _ _ _ _ _ above ih =>
      rw [above] at ih
      exact ih
  | case9 _ _ _ _ _ _ d _ _ failed => exact .of_error (worded_makeDirectory _) failed d
  | case10 _ _ _ _ _ _ d _ _ failed => exact settles d failed

theorem worded_unlink : Worded (d.unlink cwd p) := by
  refine worded_locate.bind fun spot => ?_
  cases spot with
  | found place entry =>
      dsimp only
      split
      · exact .refuse _ _
      · split
        · exact .refuse _ _
        · exact .ok _
  | vacant directory name => exact .refuse _ _

theorem worded_clearDirectory : WordedPartly (d.clearDirectory cwd p) := by
  unfold clearDirectory
  split
  · split
    · exact .refuse _ _ _
    · split
      · exact .done _
      · exact .refuse _ _ _
  · exact .refuse _ _ _
  · exact .refuse _ _ _
  · rename_i failed
    exact .of_error worded_locate failed d

theorem worded_removeDirectory : Worded (d.removeDirectory cwd p) := by
  unfold removeDirectory
  split
  · exact .refuse _ _
  · rename_i name _
    by_cases isUp : name = Path.up
    · rw [if_pos isUp]
      rcases d.walk .target maxLinks (origin cwd p) p.names.dropLast with
        errno | (⟨_, (_ | _ | _)⟩ | _)
      all_goals exact .refuse _ _
    · rw [if_neg isUp]
      refine worded_locate.bind fun spot => ?_
      rcases spot with ⟨place, (_ | _ | _)⟩ | _
      · dsimp only
        split
        · exact .ok _
        · exact .refuse _ _
      all_goals exact .refuse _ _

theorem worded_removeTree : WordedPartly (d.removeTree cwd p) := by
  rcases removeTree_cases d cwd p with ⟨middle, fault, first, same⟩ |
    ⟨middle, -, ⟨fault, failed, same⟩ | ⟨after, -, same⟩⟩
  · rw [same, ← first]
    exact worded_clearDirectory
  · rw [same]
    exact .of_error worded_removeDirectory failed middle
  · rw [same]
    exact .done after

end Disk

/-! ## Rendered pieces -/

namespace Piece

variable {pieces others : List Piece}

/-- Pieces that hold characters only. -/
def Legible (pieces : List Piece) : Prop := ∀ piece ∈ pieces, piece.text.Clean

@[simp] theorem legible_nil : Legible [] := fun _ inside => nomatch inside

@[simp] theorem legible_cons {piece : Piece} :
    Legible (piece :: pieces) ↔ piece.text.Clean ∧ Legible pieces := List.forall_mem_cons

@[simp] theorem legible_append : Legible (pieces ++ others) ↔ Legible pieces ∧ Legible others :=
  List.forall_mem_append

theorem legible_flatMap {α : Type} {xs : List α} {f : α → List Piece}
    (each : ∀ x ∈ xs, Legible (f x)) : Legible (xs.flatMap f) := by
  intro piece member
  obtain ⟨x, known, inside⟩ := List.mem_flatMap.mp member
  exact each x known piece inside

theorem Legible.clean_join (legible : Legible pieces) : (join pieces).Clean := by
  intro g member
  obtain ⟨piece, known, inside⟩ := List.mem_flatMap.mp member
  exact legible piece known g inside

@[simp] theorem clean_plain {t : Text} (clean : t.Clean) : (plain t).text.Clean :=
  fun g member => clean g (List.mem_filter.mp member).1

@[simp] theorem clean_styled {t : Text} (style : Style) (clean : t.Clean) :
    (styled style t).text.Clean := clean_plain clean

end Piece

/-- The texts that a result shows as they are hold characters only. -/
structure CheckResult.Legible (result : CheckResult) : Prop where
  note : result.note.Clean
  hashes : ∀ stage, (result.hashes.get stage).Clean
  details : ∀ stage, ∀ failure ∈ result.failures.get stage, failure.detail.Clean

namespace Report

open Piece (Legible)

/-- The texts that a report shows as they are hold characters only. Of an error that is its first
line. -/
structure Legible (r : Report) : Prop where
  root : r.projectRoot.Clean
  artifacts : ∀ stage, ∀ artifact ∈ r.artifacts.get stage, artifact.path.text.Clean
  results : ∀ result ∈ r.results, result.Legible
  fatal : ∀ message ∈ r.fatalErrors, (message.splitFirst (.char '\n')).1.Clean
  cleanups : ∀ message ∈ r.cleanupFailures, message.Clean

@[simp] theorem clean_line {t : Text} : (line t).Clean ↔ t.Clean := by
  simp [line]

@[simp] theorem clean_label (stage : Stage) : stage.label.Clean := by
  cases stage <;> decide

theorem legible_block {margin : Text} (clean : margin.Clean) (body : Text) :
    Piece.Legible (block margin body) := by
  have row {row : Text} (member : row ∈ body.printable.lines) : row.Clean :=
    Text.clean_linesFrom Text.clean_nil (Text.clean_printable body) member
  have shown {t : Text} (member : t ∈ shownLines body) : t.Clean := by
    unfold shownLines at member
    split at member
    · rw [List.mem_singleton.mp member]
      exact Text.clean_nil
    · split at member
      · rcases List.mem_append.mp member with early | last
        · exact row (List.mem_of_mem_take early)
        · rw [List.mem_singleton.mp last]
          simp
      · exact row member
  intro piece member
  obtain ⟨t, known, rfl⟩ := List.mem_map.mp member
  exact Piece.clean_plain (clean_line.mpr (Text.clean_append.mpr ⟨clean, shown known⟩))

@[simp] theorem legible_outputBlock (body : Text) : Piece.Legible (block outputMargin body) :=
  legible_block (Text.clean_ofString _) body

@[simp] theorem legible_textBlock (body : Text) : Piece.Legible (block textMargin body) :=
  legible_block (Text.clean_ofString _) body

theorem legible_stagePieces {result : CheckResult} (legible : result.Legible) (stage : Stage) :
    Piece.Legible (stagePieces result stage) := by
  have written (output : Captured) : Piece.Legible (outputPieces stage result.kind output) := by
    unfold outputPieces
    split
    · split <;> simp
    · simp
  have failed : ∀ failure ∈ result.failures.get stage, (failurePiece stage failure).text.Clean := by
    intro failure known
    simp [failurePiece, legible.details stage failure known]
  unfold stagePieces
  rw [Piece.legible_append]
  constructor
  · split
    · exact written _
    · exact Piece.legible_nil
  · split
    · rename_i known
      simp [failed _ known]
    · exact Piece.legible_nil

theorem legible_bodyPieces {result : CheckResult} (legible : result.Legible) :
    Piece.Legible (bodyPieces result) := by
  have note := legible.note
  unfold bodyPieces
  split
  · simp [note]
  · have stages : Piece.Legible (Stage.all.flatMap (stagePieces result)) :=
      Piece.legible_flatMap fun stage _ => legible_stagePieces legible stage
    have digests : Piece.Legible (digestPieces result) := by
      unfold digestPieces
      split
      · exact Piece.legible_nil
      · simp [Stage.all, legible.hashes]
    have ratio : Piece.Legible (ratioPieces result) := by
      unfold ratioPieces
      split <;> simp
    have diff : Piece.Legible (diffPieces result) := by
      unfold diffPieces
      split <;> simp
    have noted : Piece.Legible (notePieces result) := by
      unfold notePieces
      split <;> simp [note]
    simp [stages, digests, ratio, diff, noted]

theorem legible_checkPieces {r : Report} (legible : r.Legible) (kind : CheckKind) :
    Piece.Legible (checkPieces r kind) := by
  have heading : (position kind ++ (" " : Text) ++ kind.title ++ (": " : Text)).Clean := by
    cases kind <;> simp [position, CheckKind.title]
  unfold checkPieces
  rw [Piece.legible_cons]
  refine ⟨Piece.clean_styled _ heading, ?_⟩
  split
  · simp
  · rename_i result found
    have known : result.Legible := legible.results result (List.mem_of_find?_eq_some found)
    simp [legible_bodyPieces known]

theorem legible_errorPieces {r : Report} (legible : r.Legible) :
    Piece.Legible (errorPieces r) := by
  have fatal : Piece.Legible (r.fatalErrors.flatMap fatalPieces) := by
    refine Piece.legible_flatMap fun message known => ?_
    have first := legible.fatal message known
    unfold fatalPieces
    dsimp only
    split <;> simp [first]
  have cleanups : Piece.Legible
      (r.cleanupFailures.map fun message => .plain (line ("  - " ++ message))) := by
    intro piece member
    obtain ⟨message, known, rfl⟩ := List.mem_map.mp member
    simp [legible.cleanups message known]
  unfold errorPieces
  rw [Piece.legible_append]
  constructor <;> split <;> simp [fatal, cleanups]

/-- A report is rendered in characters if the texts that it shows as they are hold nothing else. -/
theorem clean_plainText {r : Report} (legible : r.Legible) : r.plainText.Clean := by
  have ruled : rule.Clean := by decide
  have built (stage : Stage) : (artifactLine stage (r.artifacts.get stage)).Clean := by
    unfold artifactLine
    split
    · simp
    · rename_i artifact known
      have name := Path.clean_name (legible.artifacts stage artifact known)
      split <;> split <;> simp [name]
  have head : Piece.Legible (headPieces r) := by
    have zero : (artifactLine .zero r.artifacts.zero).Clean := built .zero
    have one : (artifactLine .one r.artifacts.one).Clean := built .one
    simp [headPieces, ruled, legible.root, zero, one]
  have checks : Piece.Legible (CheckKind.order.flatMap (checkPieces r)) :=
    Piece.legible_flatMap fun kind _ => legible_checkPieces legible kind
  have banner : Piece.Legible (bannerPieces r) := by
    simp [bannerPieces, ruled]
  refine Piece.Legible.clean_join ?_
  simp [pieces, head, checks, legible_errorPieces legible, banner]

end Report

/-! ## What is recorded -/

/-- The texts of a fault that a report may show as they are hold characters only. -/
def Fault.Legible : Fault → Prop
  | .file fault => fault.message.Clean
  | .toolchainMissing tool hint => tool.Clean ∧ hint.Clean
  | .buildFailed _ reason _ => reason.Clean
  | _ => True

theorem Fault.Legible.clean_entry {fault : Fault} (legible : fault.Legible)
    (fatal : fault.isFatal = true) : (fault.entry.splitFirst (.char '\n')).1.Clean := by
  cases fault with
  | toolchainMissing tool hint =>
      obtain ⟨tool, hint⟩ := legible
      refine Text.clean_splitFirst ?_
      unfold entry message
      dsimp only
      split <;> simp [tool, hint]
  | buildFailed stage reason log =>
      have clean : (message (.buildFailed stage reason log)).Clean := by
        have reason : reason.Clean := legible
        simp [message, reason]
      unfold entry
      dsimp only
      split
      · exact Text.clean_splitFirst clean
      · rw [List.append_assoc]
        exact Text.clean_splitFirst_append clean Text.clean_nil
  | _ => cases fatal

/-- A good answer, or a legible fault. -/
def Clear {α : Type} (good : α → Prop) : Except Fault α → Prop
  | .ok a => good a
  | .error fault => fault.Legible

/-- A result that tells in characters why its command was not started, if it was not. -/
def CommandResult.Legible (result : CommandResult) : Prop :=
  ∀ error ∈ result.launchError, error.message.Clean

theorem CommandResult.Legible.clean_reason {result : CommandResult} (legible : result.Legible) :
    ∀ reason ∈ result.failureReason, reason.Clean := by
  intro reason known
  unfold failureReason at known
  split at known
  · rename_i error failed
    cases known
    simp [legible error failed]
  · split at known
    · cases known
      simp
    · split at known
      · cases known
        simp
      · cases known

/-- An outcome that tells in characters why the invocation failed, if it did. -/
def Outcome.Legible (outcome : Outcome) : Prop := ∀ failure ∈ outcome.failure, failure.detail.Clean

theorem Outcome.legible_ofResult {result : CommandResult} (legible : result.Legible) :
    (ofResult result).Legible := by
  intro failure known
  unfold ofResult at known
  split at known
  · rename_i error failed
    cases known
    dsimp only
    split
    · exact Text.clean_ofString _
    · exact legible error failed
  · split at known
    · cases known
      simp
    · cases known

namespace CheckResult.Legible

variable {result : CheckResult}

theorem check (kind : CheckKind) {zero one : Outcome} (zero_ : zero.Legible) (one_ : one.Legible) :
    (Comparison.check kind zero one []).Legible where
  note := Text.clean_nil
  hashes stage := by cases stage <;> exact Text.clean_ofChars _
  details stage failure known := by
    cases stage with
    | zero => exact zero_ failure known
    | one => exact one_ failure known

theorem skip (kind : CheckKind) {reason : Text} (clean : reason.Clean) :
    (Comparison.skip kind reason).Legible where
  note := clean
  hashes stage := by cases stage <;> exact Text.clean_nil
  details stage failure none := by cases stage <;> cases none

theorem clean_joinNotes {first second : Text} (clean : first.Clean) (cleanToo : second.Clean) :
    (joinNotes [first, second]).Clean := by
  refine Text.clean_join (Text.clean_ofString _) fun part known => ?_
  have known := (List.mem_filter.mp known).1
  simp only [List.mem_cons, List.not_mem_nil, or_false] at known
  rcases known with rfl | rfl
  · exact clean
  · exact cleanToo

theorem noteDelegation (legible : result.Legible) (delegated : Bool) :
    (result.noteDelegation delegated).Legible := by
  unfold CheckResult.noteDelegation
  split
  · exact { legible with note := clean_joinNotes legible.note (Text.clean_ofString _) }
  · exact legible

theorem noteRuntime (legible : result.Legible) : result.noteRuntime.Legible := by
  refine { legible with note := clean_joinNotes ?_ ?_ }
  · split
    · exact legible.note
    · exact Text.clean_ofString _
  · unfold slowdownNote
    split
    · split <;> simp
    · exact Text.clean_nil

end CheckResult.Legible

namespace Report.Legible

variable {r : Report}

theorem start {root : Text} (clean : root.Clean) (now : Text) : (Report.start root now).Legible where
  root := clean
  artifacts stage artifact none := by cases stage <;> cases none
  results _ none := nomatch none
  fatal _ none := nomatch none
  cleanups _ none := nomatch none

theorem setArtifact (legible : r.Legible) {artifact : Artifact} (clean : artifact.path.text.Clean) :
    Clear Report.Legible (r.setArtifact artifact) := by
  rw [setArtifact_eq]
  split
  · trivial
  · refine { legible with artifacts := fun stage other known => ?_ }
    rw [Both.get_set] at known
    split at known
    · cases known
      exact clean
    · exact legible.artifacts stage other known

theorem addResult (legible : r.Legible) {result : CheckResult} (shown : result.Legible) :
    Clear Report.Legible (r.addResult result) := by
  have added : Report.Legible { r with results := r.results ++ [result] } :=
    { legible with
      results := List.forall_mem_append.mpr ⟨legible.results, List.forall_mem_singleton.mpr shown⟩ }
  rw [addResult_eq]
  split
  · trivial
  · split
    · split
      · trivial
      · exact added
    · exact added

theorem recordFatal (legible : r.Legible) {message : Text}
    (clean : (message.splitFirst (.char '\n')).1.Clean) :
    Clear Report.Legible (r.recordFatal message) := by
  rw [recordFatal_eq]
  split
  · trivial
  · exact { legible with
      fatal := List.forall_mem_append.mpr ⟨legible.fatal, List.forall_mem_singleton.mpr clean⟩ }

theorem finalize (legible : r.Legible) (now : Text) :
    Clear Report.Legible (r.finalize now) := by
  rw [finalize_eq]
  split
  · trivial
  · exact { legible with }

end Report.Legible

end StageParity
