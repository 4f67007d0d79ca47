import StageParity.CommandLine.Program
import StageParity.Script.Launch
import StageParity.Text.Instant

/-!
# The command

The program on the current directory. Its files are read first; the run then takes place
on a machine of its own, and what it wrote in the directory is written back.
-/

namespace StageParity.Main

def maxLevels : Nat := 24

/-- The permission bits of a file that was read: one that names its interpreter can be
run. -/
def modeOf (data : List UInt8) : Nat :=
  if (Script.Image.interpreter? data).isSome then 0o755 else 0o644

def readTree : (levels : Nat) → String → Location → IO (List (Location × Entry))
  | 0, _, _ => return []
  | levels + 1, path, place => do
    let directory ← IO.FS.realPath path
    let parts ← (← directory.readDir).toList.mapM fun item => do
      let spot := place ++ [Text.ofString item.fileName]
      if ← item.path.isDir then
        let inside ← readTree levels item.path.toString spot
        return inside ++ [(spot, Entry.directory Disk.newDirectoryMode)]
      else
        let data ← IO.FS.readBinFile item.path
        return [(spot, Entry.file (modeOf data.toList) data.toList)]
    return parts.flatten

def above (place : Location) : List (Location × Entry) :=
  (List.range (place.length + 1)).tail.map fun n => (place.take n, .directory Disk.newDirectoryMode)

def tempPlace : Location := [Text.ofString "tmp"]

/-- The variables that matter to a run, as far as they are set. -/
def variableNames : List String := ["PATH", "COLUMNS", "BOOTVERIFY_LOG_LEVEL"]

def readVariables : IO (List (Text × Text)) := do
  let found ← variableNames.mapM fun name => do
    return (← IO.getEnv name).map fun value => (Text.ofString name, Text.ofString value)
  return found.filterMap id

def now : IO Instant := do
  let (_, path) ← IO.FS.createTempFile
  let changed := (← path.metadata).modified
  IO.FS.removeFile path
  return ⟨changed.sec.toNat * 1000000 + changed.nsec.toNat / 1000⟩

def host (cwd : Location) (bindings : List (Text × Text)) (time : Instant) : Host where
  cwd := cwd
  bindings := bindings
  processGroups := true
  tempDir := ⟨.root, tempPlace⟩
  suffix n := Text.ofNat n
  timeOfDay := time.text
  measured seconds := seconds
  react _ := Script.launch cwd bindings none
  removal _ _ := ⟨[], none⟩

/-- The string of a text, with a replacement for each undecodable byte. -/
def stringOf (t : Text) : String := String.ofList (t.printable.filterMap Glyph.char?)

/-- Write what stands below a location and was not there before. -/
def writeBack (cwd : Location) (before after : Disk) : IO Unit := do
  let changed := after.entries.reverse.filter fun item =>
    Disk.below cwd item.1 && before.get? item.1 ≠ some item.2
  changed.forM fun item => do
    let name := stringOf (Path.text ⟨.relative, item.1.drop cwd.length⟩)
    match item.2 with
    | .directory _ => IO.FS.createDirAll name
    | .file _ data => IO.FS.writeBinFile name (ByteArray.mk data.toArray)
    | .link _ => return

/-- The lines of the diagnostic log that are at least as weighty as a level. -/
def logLines (level : Nat) (time : Instant) (records : List Record) : List Text :=
  let shown := records.filter fun record =>
    level ≤ (LogLevel.levels.lookup (Text.ofString record.level.name)).getD 0
  shown.map fun record =>
    time.text ++ " " ++ record.level.name ++ " " ++ Switch.program ++ ": " ++ record.message

def faultCode : UInt32 := 1

def run (words : List String) : IO UInt32 := do
  let here := (← IO.currentDir).toString
  let cwd := (Path.ofText (Text.ofString here)).names
  let bindings ← readVariables
  let time ← now
  let entries ← readTree maxLevels here cwd
  let disk : Disk :=
    ⟨entries ++ above cwd ++ above tempPlace ++ Script.Image.base.entries⟩
  let session := Session.start disk (Scratch.fresh none true)
  let ended := Program.run (host cwd bindings time) (words.map Text.ofString) true session
  IO.print (stringOf ended.stdout)
  IO.eprint (stringOf ended.stderr)
  (logLines (ended.logLevel.getD LogLevel.standard) time ended.session.log).forM fun line =>
    IO.eprintln (stringOf line)
  writeBack cwd disk ended.session.disk
  match ended.code with
  | .ok code => return UInt32.ofNat code
  | .error fault =>
    IO.eprintln (stringOf fault.message)
    return faultCode

end StageParity.Main

def main (words : List String) : IO UInt32 := StageParity.Main.run words
