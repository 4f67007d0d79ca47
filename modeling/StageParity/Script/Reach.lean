import StageParity.Disk.Change

/-!
# Files as scripts reach them

Scripts and tools name files by texts of bytes. Here such texts lead to the entries of a
disk, and errors are bare numbers. New entries lack the permissions that a mask takes away.
-/

namespace StageParity.Script

/-- A text of bytes as the disk holds it. -/
def named (t : Text) : Text := Text.decode t.encode

/-- A text of the disk, one glyph for each byte. -/
def spelled (t : Text) : Text := Text.bytewise t.encode

def errnoOf : FileFault → Errno
  | .os error => error.errno?.getD .notFound
  | .nullByte | .notUnicode _ _ _ => .notFound
  | .linkLoop _ => .tooManyLinks

def locationText (place : Location) : Text := spelled (Path.text ⟨.root, place⟩)

namespace Reach

variable (disk : Disk) (cwd : Location)

def spot (aim : Aim) (t : Text) : Except Errno Spot :=
  if t.isEmpty then .error .notFound
  else
    let full := named t
    let path := Path.ofText full
    let last := (Path.stepsOf full).drop path.names.length
    (disk.locateSteps cwd aim path last).mapError errnoOf

def found (aim : Aim) (t : Text) : Except Errno (Location × Entry) :=
  match spot disk cwd aim t with
  | .ok (.found place entry) => .ok (place, entry)
  | .ok (.vacant _ _) => .error .notFound
  | .error errno => .error errno

def entry (aim : Aim) (t : Text) : Except Errno Entry := (found disk cwd aim t).map Prod.snd

/-- Whether a path text leads to an entry that passes a test. -/
def holds (aim : Aim) (t : Text) (test : Entry → Bool) : Bool :=
  match entry disk cwd aim t with
  | .ok entry => test entry
  | .error _ => false

def bytes (t : Text) : Except Errno (List UInt8) :=
  match entry disk cwd .target t with
  | .ok (.file mode data) => if mode &&& Entry.readBit = 0 then .error .denied else .ok data
  | .ok _ => .error .isDirectory
  | .error errno => .error errno

def mayChange (directory : Location) : Bool :=
  directory ≠ [] &&
    match disk.get? directory with
    | some entry => entry.allows (Entry.writeBit ||| Entry.passBit)
    | none => false

def add (directory : Location) (name : Text) (entry : Entry) : Except Errno Disk :=
  if mayChange disk directory then .ok (disk.put (directory ++ [name]) entry) else .error .denied

def masked (umask bits : Nat) : Nat := bits - (bits &&& umask)

/-- Open a file for writing, with new contents unless the old are kept, and give its
location. -/
def openFile (umask : Nat) (keep : Bool) (t : Text) : Except Errno (Disk × Location) := do
  match ← spot disk cwd .file t with
  | .found place (.file mode data) =>
    if mode &&& Entry.writeBit = 0 then throw .denied
    return (disk.put place (.file mode (if keep then data else [])), place)
  | .found _ _ => throw .isDirectory
  | .vacant directory name =>
    return (← add disk directory name (.file (masked umask 0o666) []), directory ++ [name])

def writeFile (umask : Nat) (t : Text) (data : List UInt8) : Except Errno Disk := do
  let (disk, place) ← openFile disk cwd umask false t
  match disk.get? place with
  | some (.file mode _) => return disk.put place (.file mode data)
  | _ => return disk

def makeDirectory (mode : Nat) (t : Text) : Except Errno Disk := do
  match ← spot disk cwd .entry t with
  | .found _ _ => throw .exists_
  | .vacant directory name => add disk directory name (.directory mode)

def makeLink (t target : Text) : Except Errno Disk := do
  match ← spot disk cwd .entry t with
  | .found _ _ => throw .exists_
  | .vacant directory name => add disk directory name (.link (named target))

def removeAt (place : Location) : Except Errno Disk :=
  if mayChange disk place.dropLast then .ok (disk.removeIf (Disk.atOrBelow place))
  else .error .denied

def unlink (t : Text) : Except Errno Disk := do
  let (place, entry) ← found disk cwd .entry t
  if entry.isDirectory then throw .isDirectory
  removeAt disk place

def names (place : Location) : List Text :=
  let found := disk.entries.filterMap fun item =>
    match item.1.getLast? with
    | some name => if item.1 = place ++ [name] then some (spelled name) else none
    | none => none
  found.mergeSort Text.le

end Reach

end StageParity.Script
