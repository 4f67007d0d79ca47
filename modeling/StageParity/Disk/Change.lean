import StageParity.Disk.Walk

/-!
# Changing a disk

Reading, writing, copying, marking and removing what a path leads to. Each change
gives the new disk or says why it was refused.
-/

namespace StageParity.Disk

def refuse (errno : Errno) (p : Path) : FileFault := .os (.onPath errno p.text)

/-- The bytes of a file that its owner may read. -/
def fileBytes (d : Disk) (cwd : Location) (p : Path) : Except FileFault (List UInt8) := do
  match ← d.entryAt cwd .target p with
  | .file mode data =>
    if mode &&& Entry.readBit = 0 then throw (refuse .denied p) else return data
  | .directory _ | .link _ => throw (refuse .isDirectory p)

def newFileMode : Nat := 0o644

def newDirectoryMode : Nat := 0o755

/-- Put a new entry into a directory, if its owner may change it. -/
def add (d : Disk) (p : Path) (directory : Location) (name : Text) (entry : Entry) :
    Except FileFault Disk :=
  if d.get? directory |>.any (Entry.allows Entry.writeBit) then
    .ok (d.put (directory ++ [name]) entry)
  else .error (refuse .denied p)

/-- Write a file. An existing file keeps its permission bits, and its owner has to be
allowed to write it. -/
def writeFile (d : Disk) (cwd : Location) (p : Path) (data : List UInt8) :
    Except FileFault Disk := do
  match ← d.locate cwd .file p with
  | .found place (.file mode _) =>
    if mode &&& Entry.writeBit = 0 then throw (refuse .denied p)
    else return d.put place (.file mode data)
  | .found _ _ => throw (refuse .isDirectory p)
  | .vacant directory name => d.add p directory name (.file newFileMode data)

/-- Where the first glyphs of a text stand that are no characters: the place, their number
and the code point of the first. -/
def strays? (t : Text) : Option (Nat × Nat × Nat) :=
  let rest := t.dropWhile Glyph.isChar
  match rest with
  | g :: _ => some (t.length - rest.length, (rest.takeWhile fun g => !g.isChar).length, g.rank)
  | [] => none

/-- Write a text. The file is left empty if there is a fault in the text. -/
def writeUnless (d : Disk) (cwd : Location) (p : Path) (t : Text) (wrong : Option FileFault) :
    Disk × Option FileFault :=
  match d.writeFile cwd p (if wrong.isNone then t.encode else []) with
  | .ok d => (d, wrong)
  | .error fault => (d, some fault)

/-- Write a text that should hold no undecodable bytes. -/
def writeText (d : Disk) (cwd : Location) (p : Path) (t : Text) : Disk × Option FileFault :=
  d.writeUnless cwd p t ((strays? t).map fun found => .notUnicode found.1 found.2.1 found.2.2)

/-- Write a text with its undecodable bytes. It should hold no halves of surrogate pairs. -/
def writeStream (d : Disk) (cwd : Location) (p : Path) (t : Text) : Disk × Option FileFault :=
  d.writeUnless cwd p t (unnameable? t)

def makeDirectory (d : Disk) (cwd : Location) (p : Path) (mode : Nat) : Except FileFault Disk := do
  match ← d.locate cwd .entry p with
  | .found _ _ => throw (refuse .exists_ p)
  | .vacant directory name => d.add p directory name (.directory mode)

/-- What an attempt to make a directory comes to: a directory that is there already will
do. -/
def settle (d : Disk) (cwd : Location) (p : Path) (fault : FileFault) : Disk × Option FileFault :=
  match fault with
  | .os _ =>
    match d.isDirectory cwd p with
    | .ok true => (d, none)
    | .ok false => (d, some fault)
    | .error other => (d, some other)
  | _ => (d, some fault)

/-- Whether a fault says that nothing is there. -/
def isMissing : FileFault → Bool
  | .os error => error.errno? = some .notFound
  | _ => false

/-- Make a directory unless it is there, and the directories above it as far as they
are missing. `depth` bounds how many may be. The answer is the disk afterwards, and the
fault if there was one. -/
def makeDirectories (d : Disk) (cwd : Location) : (depth : Nat) → Path → Disk × Option FileFault
  | 0, p =>
    match d.makeDirectory cwd p newDirectoryMode with
    | .ok d => (d, none)
    | .error fault => if isMissing fault then (d, some fault) else d.settle cwd p fault
  | depth + 1, p =>
    match d.makeDirectory cwd p newDirectoryMode with
    | .ok d => (d, none)
    | .error fault =>
      if !isMissing fault then d.settle cwd p fault
      else if p.parent = p then (d, some fault)
      else
        match makeDirectories d cwd depth p.parent with
        | (d, some fault) => (d, some fault)
        | (d, none) =>
          match d.makeDirectory cwd p newDirectoryMode with
          | .ok d => (d, none)
          | .error fault => if isMissing fault then (d, some fault) else d.settle cwd p fault

def makeLink (d : Disk) (cwd : Location) (p : Path) (target : Text) : Except FileFault Disk := do
  match ← d.locate cwd .entry p with
  | .found _ _ => throw (refuse .exists_ p)
  | .vacant directory name => d.add p directory name (.link target)

def setMode (d : Disk) (cwd : Location) (p : Path) (mode : Nat) : Except FileFault Disk := do
  match ← d.locate cwd .target p with
  | .found place entry => return d.put place (entry.withMode mode)
  | .vacant _ _ => throw (refuse .notFound p)

def addMode (d : Disk) (cwd : Location) (p : Path) (bits : Nat) : Except FileFault Disk := do
  match ← d.locate cwd .target p with
  | .found place entry => return d.put place (entry.withMode (entry.mode ||| bits))
  | .vacant _ _ => throw (refuse .notFound p)

def sameEntry (d : Disk) (cwd : Location) (p q : Path) : Except FileFault Bool :=
  match d.locate cwd .target p, d.locate cwd .target q with
  | .error .nullByte, _ => .error .nullByte
  | .ok (.found _ _), .error .nullByte => .error .nullByte
  | .ok (.found a _), .ok (.found b _) => .ok (a = b)
  | _, _ => .ok false

def copyFile (d : Disk) (cwd : Location) (source target : Path) : Except FileFault Disk := do
  if ← d.sameEntry cwd source target then
    throw (.os (.plain ("PosixPath(" ++ source.text.quoted ++ ") and PosixPath(" ++
      target.text.quoted ++ ") are the same file")))
  let data ← d.fileBytes cwd source
  d.writeFile cwd target data

def mayChange (d : Disk) (place : Location) : Bool :=
  (d.get? place.dropLast).any (Entry.allows Entry.writeBit)

def unlink (d : Disk) (cwd : Location) (p : Path) : Except FileFault Disk := do
  match ← d.locate cwd .entry p with
  | .found place entry =>
    if !d.mayChange place then throw (refuse .denied p)
    else if entry.isDirectory then throw (refuse .isDirectory p)
    else return d.removeIf (· = place)
  | .vacant _ _ => throw (refuse .notFound p)

/-- Remove an empty directory, as the last step of removing a tree. -/
def removeDirectory (d : Disk) (cwd : Location) (p : Path) : Except FileFault Disk := do
  match p.names.getLast? with
  | none => throw (refuse .busy p)
  | some name =>
    if name = Path.up then do
      let _ ← match d.walk .target maxLinks (origin cwd p) p.names.dropLast with
        | .ok (.found _ (.directory _)) => pure ()
        | .ok (.found _ _) => throw (refuse .notDirectory p)
        | .ok (.vacant _ _) => throw (refuse .notFound p)
        | .error errno => throw (refuse errno p)
      throw (refuse .notEmpty p)
    match ← d.locate cwd .entry p with
    | .found place (.directory _) =>
      if d.mayChange place then return d.removeIf (· = place) else throw (refuse .denied p)
    | .found _ _ => throw (refuse .notDirectory p)
    | .vacant _ _ => throw (refuse .notFound p)

def inside (d : Disk) (place : Location) : List (Text × Entry) :=
  let found := d.entries.filterMap fun item =>
    match item.1.getLast? with
    | some name => if item.1 = place ++ [name] then some (name, item.2) else none
    | none => none
  found.mergeSort fun a b => Text.le a.1 b.1

/-- What goes when everything below a directory with permissions `mode` is removed, in
turn, and the first name that is refused if there is one. Directories are gone through
`depth` deep. -/
def sweep (d : Disk) : (depth : Nat) → (place : Location) → (mode : Nat) →
    List Location × Option Text
  | 0, _, _ => ([], none)
  | depth + 1, place, mode =>
    (d.inside place).foldl (fun (gone, refused) (name, entry) =>
      match refused with
      | some _ => (gone, refused)
      | none =>
        let spot := place ++ [name]
        let (below, stopped) :=
          match entry with
          | .directory inner =>
            if mode &&& Entry.passBit = 0 || inner &&& Entry.readBit = 0 then ([], some name)
            else sweep d depth spot inner
          | _ => ([], none)
        match stopped with
        | some _ => (gone ++ below, stopped)
        | none =>
          if mode &&& (Entry.writeBit ||| Entry.passBit) = Entry.writeBit ||| Entry.passBit then
            (gone ++ below ++ [spot], none)
          else (gone ++ below, some name)) ([], none)

/-- Remove everything below the directory that a path leads to, as far as permissions
allow. -/
def clearDirectory (d : Disk) (cwd : Location) (p : Path) : Disk × Option FileFault :=
  match d.locate cwd .entry p with
  | .ok (.found place (.directory mode)) =>
    if mode &&& Entry.readBit = 0 then (d, some (refuse .denied p))
    else
      match d.sweep (d.entries.length + 1) place mode with
      | (_, none) => (d.removeIf (below place), none)
      | (gone, some name) =>
        (d.removeIf fun spot => below place spot && gone.contains spot,
          some (.os (.onPath .denied name)))
  | .ok (.found _ _) => (d, some (refuse .notDirectory p))
  | .ok (.vacant _ _) => (d, some (refuse .notFound p))
  | .error fault => (d, some fault)

/-- The disk after an attempt to remove a directory with all that is below it, and why
the attempt did not end well if it did not. What was removed before stays removed. -/
def removeTree (d : Disk) (cwd : Location) (p : Path) : Disk × Option FileFault :=
  match d.clearDirectory cwd p with
  | (d, some fault) => (d, some fault)
  | (cleared, none) =>
    match cleared.removeDirectory cwd p with
    | .ok removed => (removed, none)
    | .error fault => (cleared, some fault)

end StageParity.Disk
