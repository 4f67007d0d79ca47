import StageParity.Disk.Errno
import StageParity.Disk.Path

/-!
# Disks

A disk maps locations to directories, files and symbolic links. A location is the
list of names from the root down. The root is always a directory.
-/

namespace StageParity

/-- The place of an entry: the names from the root down. -/
abbrev Location := List Text

/-- What stands at a location. -/
inductive Entry where
  | directory (mode : Nat)
  | file (mode : Nat) (data : List UInt8)
  | link (target : Text)
deriving DecidableEq

namespace Entry

def readBit : Nat := 0o400

def writeBit : Nat := 0o200

/-- The permission of its owner to run a file or to pass through a directory. -/
def passBit : Nat := 0o100

def isDirectory : Entry → Bool
  | .directory _ => true
  | _ => false

def isFile : Entry → Bool
  | .file _ _ => true
  | _ => false

def isLink : Entry → Bool
  | .link _ => true
  | _ => false

def mode : Entry → Nat
  | .directory mode | .file mode _ => mode
  | .link _ => 0o777

/-- Whether the owner of an entry has all of the given permissions. -/
def allows (bits : Nat) (entry : Entry) : Bool := entry.mode &&& bits = bits

/-- The entry with other permission bits. A link has none of its own. -/
def withMode (mode : Nat) : Entry → Entry
  | .directory _ => .directory mode
  | .file _ data => .file mode data
  | .link target => .link target

end Entry

/-- The entries of a file system other than its root. -/
structure Disk where
  entries : List (Location × Entry)
deriving DecidableEq

namespace Disk

def get? (d : Disk) (spot : Location) : Option Entry :=
  if spot = [] then some (.directory 0o755) else d.entries.lookup spot

def put (d : Disk) (spot : Location) (entry : Entry) : Disk :=
  ⟨(spot, entry) :: d.entries.filter fun item => item.1 ≠ spot⟩

/-- The disk without the entries whose location passes a test. -/
def removeIf (d : Disk) (gone : Location → Bool) : Disk :=
  ⟨d.entries.filter fun item => !gone item.1⟩

/-- Whether a location is the first one or lies below it. -/
def atOrBelow (top spot : Location) : Bool := top.isPrefixOf spot

def below (top spot : Location) : Bool := top.isPrefixOf spot && top ≠ spot

end Disk

end StageParity
