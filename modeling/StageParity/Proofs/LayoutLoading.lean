import StageParity.Proofs.Course
import StageParity.Proofs.Decoding
import StageParity.Proofs.LayoutSettings

/-!
# Loading a layout

A settings file gives a layout, gives none because it is empty, or is unusable for a reason that
is told. After most reasons the standard layout is taken and a warning logged. The theorem at the
end lists all cases, those in which loading stops included: they need an answer of the disk that
is no answer, a document that fails in a way that its reader does not announce, a time limit that
is too large, or an unknown key that is no text.
-/

namespace StageParity

open Yaml (Value)

namespace Layout

variable {disk : Disk} {cwd : Location} {file : Path}

/-- A file can be read and holds the UTF-8 bytes of a text, up to the form of its line ends. -/
def Contains (disk : Disk) (cwd : Location) (file : Path) (text : List Char) : Prop :=
  ∃ content, disk.fileBytes cwd file = .ok (content.flatMap String.utf8EncodeChar) ∧
    text = newlines content

/-- Why a file gives no layout. -/
inductive Unusable (disk : Disk) (cwd : Location) (file : Path) : LayoutFault → Prop
  | unreadable {fault : FileFault} :
    disk.fileBytes cwd file = .error fault → Unusable disk cwd file (.unreadable fault)
  | encoding {bytes : List UInt8} :
    disk.fileBytes cwd file = .ok bytes →
      (∀ content : List Char, bytes ≠ content.flatMap String.utf8EncodeChar) →
      Unusable disk cwd file .encoding
  | notYaml {text : List Char} {fault : Yaml.Fault} :
    Contains disk cwd file text → Yaml.read text = .error fault →
      Unusable disk cwd file (.yaml fault)
  | notMapping {text : List Char} {value : Value} :
    Contains disk cwd file text → Yaml.read text = .ok value → value ≠ .null →
      (∀ items, value ≠ .map items) → Unusable disk cwd file .notMapping
  | rejected {text : List Char} {items : List (Value × Value)} {error : LayoutError} :
    Contains disk cwd file text → Yaml.read text = .ok (.map items) →
      ofItems items = .error error → Unusable disk cwd file (.settings error)

/-- What a file says: no settings, or a mapping that is a layout. -/
inductive Gives (disk : Disk) (cwd : Location) (file : Path) : Option Layout → Prop
  | nothing {text : List Char} :
    Contains disk cwd file text → Yaml.read text = .ok .null → Gives disk cwd file none
  | mapping {text : List Char} {items : List (Value × Value)} {layout : Layout} :
    Contains disk cwd file text → Yaml.read text = .ok (.map items) →
      ofItems items = .ok layout → Gives disk cwd file (some layout)

theorem ofBytes_of_chars {content : List Char} :
    ofBytes (content.flatMap String.utf8EncodeChar) = match Yaml.read (newlines content) with
      | .error fault => .error (.yaml fault)
      | .ok .null => .ok none
      | .ok (.map items) => match ofItems items with
        | .ok layout => .ok (some layout)
        | .error error => .error (.settings error)
      | .ok _ => .error .notMapping := by
  have chars : (Text.decode (content.flatMap String.utf8EncodeChar)).chars? = some content :=
    Text.chars?_eq_some.mpr (Utf8.decode_eq_ofChars_iff.mpr rfl)
  unfold ofBytes
  rw [chars]
  rfl

theorem ofBytes_of_other {bytes : List UInt8}
    (other : ∀ content : List Char, bytes ≠ content.flatMap String.utf8EncodeChar) :
    ofBytes bytes = .error .encoding := by
  have none_ : (Text.decode bytes).chars? = none := by
    refine Option.eq_none_iff_forall_ne_some.mpr fun content same => other content ?_
    exact Utf8.decode_eq_ofChars_iff.mp (Text.chars?_eq_some.mp same)
  unfold ofBytes
  rw [none_]
  rfl

/-- A file is read as what it says, or with the fault that makes it unusable. -/
theorem readFrom_spec (disk : Disk) (cwd : Location) (file : Path) :
    (∃ given, readFrom disk cwd file = .ok given ∧ Gives disk cwd file given) ∨
      ∃ fault, readFrom disk cwd file = .error fault ∧ Unusable disk cwd file fault := by
  unfold readFrom
  cases read : disk.fileBytes cwd file with
  | error fault => exact .inr ⟨_, rfl, .unreadable read⟩
  | ok bytes =>
    by_cases chars : ∃ content : List Char, bytes = content.flatMap String.utf8EncodeChar
    · obtain ⟨content, rfl⟩ := chars
      have contains : Contains disk cwd file (newlines content) := ⟨content, read, rfl⟩
      dsimp only
      rw [ofBytes_of_chars]
      split
      · next fault wrong => exact .inr ⟨_, rfl, .notYaml contains wrong⟩
      · next empty => exact .inl ⟨_, rfl, .nothing contains empty⟩
      · next items parsed =>
        split
        · next layout accepted => exact .inl ⟨_, rfl, .mapping contains parsed accepted⟩
        · next error rejected => exact .inr ⟨_, rfl, .rejected contains parsed rejected⟩
      · next value notNull notMap parsed =>
        exact .inr ⟨_, rfl, .notMapping contains parsed notNull notMap⟩
    · have other := not_exists.mp chars
      exact .inr ⟨_, ofBytes_of_other other, .encoding read other⟩

/-- What a file gives and why it gives nothing are determined by the disk. -/
theorem readFrom_of_gives {given : Option Layout} (gives : Gives disk cwd file given) :
    readFrom disk cwd file = .ok given := by
  cases gives with
  | nothing contains parsed =>
    obtain ⟨content, read, rfl⟩ := contains
    simp only [readFrom, read, ofBytes_of_chars, parsed]
  | mapping contains parsed accepted =>
    obtain ⟨content, read, rfl⟩ := contains
    simp only [readFrom, read, ofBytes_of_chars, parsed, accepted]

theorem readFrom_of_unusable {fault : LayoutFault} (unusable : Unusable disk cwd file fault) :
    readFrom disk cwd file = .error fault := by
  cases unusable with
  | unreadable read => simp only [readFrom, read]
  | encoding read other => simp only [readFrom, read, ofBytes_of_other other]
  | notYaml contains parsed =>
    obtain ⟨content, read, rfl⟩ := contains
    simp only [readFrom, read, ofBytes_of_chars, parsed]
  | rejected contains parsed rejected =>
    obtain ⟨content, read, rfl⟩ := contains
    simp only [readFrom, read, ofBytes_of_chars, parsed, rejected]
  | notMapping contains parsed notNull notMap =>
    obtain ⟨content, read, rfl⟩ := contains
    simp only [readFrom, read, ofBytes_of_chars, parsed]

/-- A file that can be read is there. -/
theorem isPresent_of_fileBytes {bytes : List UInt8} (read : disk.fileBytes cwd file = .ok bytes) :
    disk.isPresent cwd file = .ok true := by
  unfold Disk.fileBytes at read
  cases entry : disk.entryAt cwd .target file with
  | error fault => simp [entry, bind, Except.bind] at read
  | ok found => simp [Disk.isPresent, Disk.testAt, entry]

/-- Reading a file that is there fails, if at all, because the system refuses. -/
theorem os_of_fileBytes {fault : FileFault} (present : disk.isPresent cwd file = .ok true)
    (wrong : disk.fileBytes cwd file = .error fault) : ∃ error, fault = .os error := by
  unfold Disk.fileBytes at wrong
  cases entry : disk.entryAt cwd .target file with
  | error other =>
    simp only [Disk.isPresent, Disk.testAt, entry] at present
    split at present <;> cases present
  | ok found =>
    rw [entry] at wrong
    cases found with
    | file mode data =>
      simp only [bind, Except.bind] at wrong
      split at wrong
      · exact ⟨_, (Except.error.inj wrong).symm⟩
      · cases wrong
    | directory | link => exact ⟨_, (Except.error.inj wrong).symm⟩

end Layout

/-- The faults that reading a document is expected to have. -/
def Yaml.Fault.Expected : Yaml.Fault → Prop
  | .malformed | .badValue _ => True
  | _ => False

namespace Layout

variable {disk : Disk} {cwd : Location} {file : Path}

/-- What makes loading stop: no answer whether the file is there, a document that fails in an
unexpected way, a time limit that is too large, or an unknown key that is no text. -/
inductive Stops (disk : Disk) (cwd : Location) (file : Path) : Fault → Prop
  | presence {fault : FileFault} :
    disk.isPresent cwd file = .error fault → Stops disk cwd file (.file fault)
  | document {text : List Char} {fault : Yaml.Fault} :
    Contains disk cwd file text → Yaml.read text = .error fault → ¬ fault.Expected →
      Stops disk cwd file (.layout (.yaml fault))
  | oversized {text : List Char} {items : List (Value × Value)} :
    Contains disk cwd file text → Yaml.read text = .ok (.map items) → Oversized items →
      Stops disk cwd file (.layout (.settings .tooLarge))
  | unnamed {text : List Char} {items : List (Value × Value)} :
    Contains disk cwd file text → Yaml.read text = .ok (.map items) → Unnamed items →
      Stops disk cwd file (.layout (.settings .keyNotText))

theorem Contains.present {text : List Char} (contains : Contains disk cwd file text) :
    disk.isPresent cwd file = .ok true := by
  obtain ⟨content, read, -⟩ := contains
  exact isPresent_of_fileBytes read

theorem Gives.present {given : Option Layout} (gives : Gives disk cwd file given) :
    disk.isPresent cwd file = .ok true := by
  cases gives with
  | nothing contains => exact contains.present
  | mapping contains => exact contains.present

/-- A fallback covers every fault of a file that does not stop the loading. -/
theorem Unusable.recoverable {fault : LayoutFault} (unusable : Unusable disk cwd file fault)
    (present : disk.isPresent cwd file = .ok true) (goes : ∀ fault, ¬ Stops disk cwd file fault) :
    fault.recoverable = true := by
  cases unusable with
  | unreadable wrong =>
    obtain ⟨error, rfl⟩ := os_of_fileBytes present wrong
    rfl
  | encoding | notMapping => rfl
  | @notYaml _ fault contains parsed =>
    have expected : fault.Expected := by
      by_contra unexpected
      exact goes _ (.document contains parsed unexpected)
    cases fault with
    | malformed | badValue => rfl
    | _ => cases expected
  | @rejected _ _ error contains parsed rejected =>
    cases error with
    | tooLarge =>
      exact absurd (.oversized contains parsed (ofItems_tooLarge_iff.mp rejected)) (goes _)
    | keyNotText =>
      exact absurd (.unnamed contains parsed (ofItems_keyNotText_iff.mp rejected)) (goes _)
    | _ => rfl

end Layout

/-- The state with more in its log. -/
def Session.logging (s : Session) (entries : List Record) : Session :=
  { s with log := s.log ++ entries }

namespace Layout

/-- What is logged when a layout is loaded: its unknown settings, and where it came from. -/
def loadedEntries (layout : Layout) (file : Path) : List Record :=
  layout.unknownKeys?.toList.map (⟨.warning, ·⟩) ++
    [⟨.info, "Loaded bootstrap layout from " ++ file.text⟩]

/-- What is logged when a file is unusable. -/
def failedEntry (file : Path) (fault : LayoutFault) : Record :=
  ⟨.warning, "Failed to load layout from " ++ file.text ++ ": " ++ fault.message⟩

end Layout

namespace Run

theorem from_warnUnknown_eq (layout : Layout) (s : Session) :
    from_ (warnUnknown layout) s =
      (.ok (), s.logging (layout.unknownKeys?.toList.map (⟨.warning, ·⟩))) := by
  unfold warnUnknown
  cases layout.unknownKeys? with
  | none => exact congrArg (Prod.mk _) (by simp [Session.logging])
  | some message => rfl

variable {host : Host} {root : Path} {s : Session}

theorem from_loadLayout_present
    (present : s.disk.isPresent host.cwd (root.child Layout.fileName) = .ok true) :
    from_ (loadLayout host root) s =
      match Layout.readFrom s.disk host.cwd (root.child Layout.fileName) with
      | .ok none => (.ok Layout.standard, s)
      | .ok (some layout) =>
        (.ok layout, s.logging (layout.loadedEntries (root.child Layout.fileName)))
      | .error fault =>
        if fault.recoverable then
          (.ok Layout.standard, s.logging [Layout.failedEntry (root.child Layout.fileName) fault])
        else (.error (.layout fault), s) := by
  unfold loadLayout
  dsimp only
  rw [from_bind_ok (from_ask_ok present)]
  simp only [Bool.not_true, Bool.false_eq_true, if_false]
  rw [from_get_bind]
  rcases Layout.readFrom s.disk host.cwd (root.child Layout.fileName) with fault | (_ | layout)
  · dsimp only
    split <;> rfl
  · rfl
  · dsimp only
    rw [from_bind_ok (from_warnUnknown_eq layout s)]
    exact congrArg (Prod.mk _) (by simp [Session.logging, Layout.loadedEntries])

theorem from_loadLayout_absent
    (absent : s.disk.isPresent host.cwd (root.child Layout.fileName) = .ok false) :
    from_ (loadLayout host root) s = (.ok Layout.standard, s) := by
  unfold loadLayout
  dsimp only
  rw [from_bind_ok (from_ask_ok absent)]
  rfl

theorem from_loadLayout_of_gives {given : Option Layout}
    (gives : Layout.Gives s.disk host.cwd (root.child Layout.fileName) given) :
    from_ (loadLayout host root) s =
      (.ok (given.getD Layout.standard),
        s.logging (given.toList.flatMap (·.loadedEntries (root.child Layout.fileName)))) := by
  rw [from_loadLayout_present gives.present, Layout.readFrom_of_gives gives]
  cases given with
  | none => simp [Session.logging]
  | some layout => simp

theorem from_loadLayout_of_unusable {fault : LayoutFault}
    (present : s.disk.isPresent host.cwd (root.child Layout.fileName) = .ok true)
    (unusable : Layout.Unusable s.disk host.cwd (root.child Layout.fileName) fault) :
    from_ (loadLayout host root) s =
      if fault.recoverable then
        (.ok Layout.standard, s.logging [Layout.failedEntry (root.child Layout.fileName) fault])
      else (.error (.layout fault), s) := by
  rw [from_loadLayout_present present, Layout.readFrom_of_unusable unusable]

theorem from_loadLayout_of_stops {fault : Fault}
    (stops : Layout.Stops s.disk host.cwd (root.child Layout.fileName) fault) :
    from_ (loadLayout host root) s = (.error fault, s) := by
  cases stops with
  | presence unknown => exact from_bind_error (from_ask_error unknown) _
  | @document _ fault contains parsed unexpected =>
    rw [from_loadLayout_of_unusable contains.present (.notYaml contains parsed)]
    cases fault with
    | malformed | badValue => exact absurd trivial unexpected
    | _ => rfl
  | oversized contains parsed oversized =>
    exact from_loadLayout_of_unusable contains.present
      (.rejected contains parsed (Layout.ofItems_tooLarge_iff.mpr oversized))
  | unnamed contains parsed unnamed =>
    exact from_loadLayout_of_unusable contains.present
      (.rejected contains parsed (Layout.ofItems_keyNotText_iff.mpr unnamed))

/-- **Loading a layout.** Whatever the disk holds, loading stops in four cases only, and then
nothing is changed. In all others it returns a layout. Without a file that is the standard one. A
file that cannot be read, is not UTF-8, not a document, not a mapping or a mapping that is
rejected gives the standard one too, and a warning that tells why. A file that gives settings
gives their layout, and one that is empty the standard one. There is no other case. -/
theorem loadLayout_falls_back (host : Host) (root : Path) (s : Session) :
    let file := root.child Layout.fileName
    let loaded := from_ (loadLayout host root) s
    let absent := s.disk.isPresent host.cwd file = .ok false
    let present := s.disk.isPresent host.cwd file = .ok true
    (∀ fault, Layout.Stops s.disk host.cwd file fault → loaded = (.error fault, s)) ∧
    ((∀ fault, ¬ Layout.Stops s.disk host.cwd file fault) →
      (absent → loaded = (.ok Layout.standard, s)) ∧
      (∀ fault, present → Layout.Unusable s.disk host.cwd file fault →
        loaded = (.ok Layout.standard, s.logging [Layout.failedEntry file fault])) ∧
      (∀ given, Layout.Gives s.disk host.cwd file given →
        loaded = (.ok (given.getD Layout.standard),
          s.logging (given.toList.flatMap (·.loadedEntries file)))) ∧
      (absent ∨ present ∧ ((∃ fault, Layout.Unusable s.disk host.cwd file fault) ∨
        ∃ given, Layout.Gives s.disk host.cwd file given))) := by
  intro file loaded absent present
  refine ⟨fun fault => from_loadLayout_of_stops, fun goes => ⟨from_loadLayout_absent, ?_, ?_, ?_⟩⟩
  · intro fault there unusable
    refine (from_loadLayout_of_unusable there unusable).trans ?_
    rw [if_pos (unusable.recoverable there goes)]
  · exact fun given => from_loadLayout_of_gives
  · cases found : s.disk.isPresent host.cwd file with
    | error fault => exact absurd (.presence found) (goes _)
    | ok there =>
      cases there with
      | false => exact .inl found
      | true =>
        obtain ⟨given, -, gives⟩ | ⟨fault, -, unusable⟩ :=
          Layout.readFrom_spec s.disk host.cwd file
        · exact .inr ⟨found, .inr ⟨given, gives⟩⟩
        · exact .inr ⟨found, .inl ⟨fault, unusable⟩⟩

end Run

end StageParity
