import StageParity.Disk.Basic
import StageParity.Text.Utf8

/-!
# Finding paths on a disk

A path is followed name by name, through directories that may be passed. Symbolic links
on the way are followed too, at most forty of them. The last name may be free.
-/

namespace StageParity

/-- Where a path leads: to an entry, or to a free name in a directory. -/
inductive Spot where
  | found (place : Location) (entry : Entry)
  | vacant (directory : Location) (name : Text)

/-- What is wanted of the end of a path. -/
inductive Aim where
  | target
  /-- The entry that bears its last name, which may be a link. -/
  | entry
  /-- A file to be written, which may be new. -/
  | file
deriving DecidableEq

namespace Disk

def maxName : Nat := 255

def maxPath : Nat := 4095

/-- How many symbolic links may stand on the way. -/
def maxLinks : Nat := 40

/-- The start of a path for someone in a directory. -/
def origin (cwd : Location) (p : Path) : Location := if p.isAbsolute then [] else cwd

/-- Follow names from a directory. `jump` continues after a symbolic link. An empty name
at the end, which stands for a slash there, asks for a directory. -/
def follow (d : Disk) (aim : Aim) (jump : Location → List Text → Except Errno Spot) :
    Location → List Text → Except Errno Spot
  | here, [] =>
    match d.get? here with
    | some entry => .ok (.found here entry)
    | none => .error .notFound
  | here, name :: rest =>
    match d.get? here with
    | none => .error .notFound
    | some (.file _ _) | some (.link _) =>
      .error (if name = [] && aim = .file then .isDirectory else .notDirectory)
    | some (.directory mode) =>
      if mode &&& Entry.passBit = 0 then .error .denied
      else if name = Path.up then follow d aim jump here.dropLast rest
      else if name = [] || name = Path.here then follow d aim jump here rest
      else if maxName < (Text.encode name).length then .error .nameTooLong
      else
        let spot := here ++ [name]
        match d.get? spot with
        | none =>
          if rest = [] then .ok (.vacant here name)
          else if rest = [[]] then
            if aim = .file then .error .isDirectory else .ok (.vacant here name)
          else .error .notFound
        | some (.link target) =>
          if rest = [] && aim = .entry then .ok (.found spot (.link target))
          else jump (origin here (Path.ofText target)) (Path.stepsOf target ++ rest)
        | some (.directory _) | some (.file _ _) => follow d aim jump spot rest

/-- Follow names from a directory through at most `links` symbolic links. -/
def walk (d : Disk) (aim : Aim) : (links : Nat) → Location → List Text → Except Errno Spot
  | 0 => follow d aim fun _ _ => .error .tooManyLinks
  | links + 1 => follow d aim (walk d aim links)

def hasNull (p : Path) : Bool := p.names.any fun name => name.contains (.char '\x00')

def isNameable : Glyph → Bool
  | .half _ => false
  | _ => true

/-- The fault of the first glyphs of a text that cannot be part of a file name. -/
def unnameable? (t : Text) : Option FileFault :=
  let rest := t.dropWhile isNameable
  match rest with
  | g :: _ =>
    some (.notUnicode (t.length - rest.length) (rest.takeWhile fun g => !g.isChar).length g.rank)
  | [] => none

/-- Why a path cannot be looked for, if it cannot. -/
def misnamed? (p : Path) : Option FileFault :=
  match unnameable? p.text with
  | some fault => some fault
  | none => if hasNull p then some .nullByte else none

/-- Where a path leads for someone in the directory `cwd`. The names are followed by
`last`, steps that leave no trace in the path. -/
def locateSteps (d : Disk) (cwd : Location) (aim : Aim) (p : Path) (last : List Text) :
    Except FileFault Spot :=
  match misnamed? p with
  | some fault => .error fault
  | none =>
    if maxPath < (Text.encode p.text).length then .error (.os (.onPath .nameTooLong p.text))
    else
      match walk d aim maxLinks (origin cwd p) (p.names ++ last) with
      | .ok spot => .ok spot
      | .error errno => .error (.os (.onPath errno p.text))

/-- Where a path leads for someone in the directory `cwd`. -/
def locate (d : Disk) (cwd : Location) (aim : Aim) (p : Path) : Except FileFault Spot :=
  d.locateSteps cwd aim p []

def entryAt (d : Disk) (cwd : Location) (aim : Aim) (p : Path) : Except FileFault Entry :=
  match d.locate cwd aim p with
  | .ok (.found _ entry) => .ok entry
  | .ok (.vacant _ _) => .error (.os (.onPath .notFound p.text))
  | .error fault => .error fault

/-- Whether an error only says that nothing is there. -/
def meansAbsent : FileFault → Bool
  | .nullByte | .notUnicode _ _ _ => true
  | .linkLoop _ => false
  | .os error =>
    match error.errno? with
    | some errno =>
      errno = .notFound || errno = .notDirectory || errno = .badDescriptor || errno = .tooManyLinks
    | none => false

/-- A test of the entry at the end of a path; absent entries fail it. -/
def testAt (d : Disk) (cwd : Location) (aim : Aim) (p : Path) (test : Entry → Bool) :
    Except FileFault Bool :=
  match d.entryAt cwd aim p with
  | .ok entry => .ok (test entry)
  | .error fault => if meansAbsent fault then .ok false else .error fault

def isDirectory (d : Disk) (cwd : Location) (p : Path) : Except FileFault Bool :=
  d.testAt cwd .target p Entry.isDirectory

def isFile (d : Disk) (cwd : Location) (p : Path) : Except FileFault Bool :=
  d.testAt cwd .target p Entry.isFile

def isPresent (d : Disk) (cwd : Location) (p : Path) : Except FileFault Bool :=
  d.testAt cwd .target p fun _ => true

def isLink (d : Disk) (cwd : Location) (p : Path) : Except FileFault Bool :=
  d.testAt cwd .entry p Entry.isLink

def linkTarget? (d : Disk) (spot : Location) : Option Path :=
  match d.walk .entry 0 [] spot with
  | .ok (.found _ (.link target)) => some (Path.ofText target)
  | _ => none

/-- Replace symbolic links in names by where they lead. The answer is false when the
links `busy`, which are being replaced already, come up again; the names are then
left as they are from there on. -/
def canonicalFrom (d : Disk)
    (replace : (busy : List Location) → Location → List Text → Location × Bool)
    (busy : List Location) : Location → List Text → Location × Bool
  | here, [] => (here, true)
  | here, name :: rest =>
    if name = Path.up then canonicalFrom d replace busy here.dropLast rest
    else
      let spot := here ++ [name]
      match d.linkTarget? spot with
      | none => canonicalFrom d replace busy spot rest
      | some target =>
        if busy.contains spot then (spot ++ rest, false)
        else
          match replace (spot :: busy) (origin here target) target.names with
          | (place, true) => canonicalFrom d replace busy place rest
          | (place, false) => (place ++ rest, false)

/-- Replace symbolic links that lead to one another at most `depth` deep. -/
def canonical (d : Disk) : (depth : Nat) → (busy : List Location) → Location → List Text →
    Location × Bool
  | 0, _ => fun here names => (here ++ names, false)
  | depth + 1, busy => canonicalFrom d (canonical d depth) busy

/-- The path free of symbolic links that a path stands for. Missing parts are kept. -/
def resolve (d : Disk) (cwd : Location) (p : Path) : Except FileFault Path :=
  match misnamed? p with
  | some fault => .error fault
  | none =>
    let (place, _) := d.canonical (d.entries.length + 1) [] (origin cwd p) p.names
    let full : Path := ⟨.root, Path.flattenFrom true [] place⟩
    match d.entryAt cwd .target full with
    | .error (.os (.onPath errno path)) =>
      if errno = .tooManyLinks then .error (.linkLoop path) else .ok full
    | _ => .ok full

end Disk

end StageParity
