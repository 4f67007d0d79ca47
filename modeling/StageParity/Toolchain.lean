import StageParity.Session

/-!
# Toolchain lookup

Finding the tool that builds stage zero. A name with a slash is a path and is checked
directly; any other name is looked up in the directories of the search path, in order.
-/

namespace StageParity.Toolchain

def pathVariable : Text := "PATH"

def fallbackPath : Text := "/bin:/usr/bin"

/-- The directories of a search path; an empty one has none. -/
def directories (path : Text) : List Text := if path.isEmpty then [] else path.splitOn (.char ':')

def fileIn (directory name : Text) : Text :=
  if directory.isEmpty || directory.getLast? == some Path.slash then directory ++ name
  else directory ++ [Path.slash] ++ name

def candidates (path name : Text) : List Text :=
  if name.contains Path.slash then [name] else (directories path).map fun dir => fileIn dir name

/-- Whether a path text can only lead to a directory. -/
def asksForDirectory (t : Text) : Bool :=
  match (t.splitOn Path.slash).getLast? with
  | some last => last.isEmpty || last == [.char '.'] || last == Path.up
  | none => true

/-- Whether an entry is not a directory and its owner may run it. -/
def runnable (entry : Entry) : Bool := !entry.isDirectory && entry.mode &&& 0o100 ≠ 0

def isTool (disk : Disk) (cwd : Location) (t : Text) : Bool :=
  !asksForDirectory t &&
    match disk.entryAt cwd .target (Path.ofText t) with
    | .ok entry => runnable entry
    | .error _ => false

def searchPath (bindings : List (Text × Text)) : Text :=
  (bindings.lookup pathVariable).getD fallbackPath

/-- The first candidate for a tool that may be run. -/
def find? (disk : Disk) (cwd : Location) (path name : Text) : Option Text :=
  (candidates path name).find? (isTool disk cwd)

end StageParity.Toolchain

namespace StageParity.Run

def probe (host : Host) (tool hint : Text) : Run Path := do
  match Toolchain.find? (← get).disk host.cwd (Toolchain.searchPath host.bindings) tool with
  | some found =>
    log .info ("Toolchain probe: " ++ tool ++ " -> " ++ found)
    return Path.ofText found
  | none =>
    log .error ("Toolchain probe failed: " ++ tool ++ " not found")
    throw (.toolchainMissing tool hint)

end StageParity.Run
