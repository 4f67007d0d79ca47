import StageParity.Script.Tool.Table
import StageParity.Toolchain

/-!
# Programs on a disk

A file can be run if it holds the image of a tool, or if its first line names a program
that reads it.
-/

namespace StageParity.Script

namespace Image

/-- The bytes with which the image of a tool starts. -/
def magic : List UInt8 := [0x7f, 0x45, 0x4c, 0x46]

def ofTool (name : String) : List UInt8 := magic ++ (Text.ofString name).encode

/-- The names of the tools that are more than one step of a machine. -/
def commanding : List String :=
  ["sh", "dash", "bash", "env", "nohup", "nice", "timeout", "xargs", "find"]

def tools : List String := Tool.table.map Prod.fst ++ commanding

def directory : Location := ["usr", "bin"].map Text.ofString

/-- A disk that holds the tools and nothing else. Nobody may change it. -/
def base : Disk :=
  ⟨tools.map (fun name => (directory ++ [Text.ofString name], .file 0o555 (ofTool name))) ++
    ["usr", "dev", "etc", "proc", "sys", "var", "home"].map (fun name =>
      ([Text.ofString name], .directory 0o555)) ++
    [(directory, .directory 0o555), ([Text.ofString "bin"], .link "usr/bin")]⟩

/-- The interpreter that the first line of a script names, and its argument. -/
def interpreter? (data : List UInt8) : Option (Text × Option Text) :=
  match data with
  | 35 :: 33 :: rest =>
    let isBlank := fun (g : Glyph) => g == .char ' ' || g == .char '\t'
    let line := Text.bytewise ((rest.take 254).takeWhile (· ≠ 10))
    let line := Text.dropEnd (line.dropWhile isBlank) isBlank
    let name := line.takeWhile fun g => !isBlank g
    let argument := (line.drop name.length).dropWhile isBlank
    if name.isEmpty then none else some (name, if argument.isEmpty then none else some argument)
  | _ => none

/-- How many interpreters may stand one behind the other. -/
def maxInterpreters : Nat := 5

/-- The tool that runs a program, with its words. -/
structure Loaded where
  tool : String
  words : List Text

def load (disk : Disk) (cwd : Location) : (depth : Nat) → Text → List Text → Except Errno Loaded
  | depth, path, words =>
    match Reach.entry disk cwd .target path with
    | .error errno => .error errno
    | .ok (.directory _) | .ok (.link _) => .error .denied
    | .ok (.file mode data) =>
      if mode &&& 0o100 = 0 then .error .denied
      else if magic.isPrefixOf data then
        match (Text.decode (data.drop magic.length)).chars? with
        | some name =>
          if tools.contains (String.ofList name) then .ok ⟨String.ofList name, words⟩ else .error .badFormat
        | none => .error .badFormat
      else
        match interpreter? data, depth with
        | none, _ => .error .badFormat
        | some _, 0 => .error .tooManyLinks
        | some (name, argument), depth + 1 =>
          load disk cwd depth name ([name] ++ argument.toList ++ [path] ++ words.tail)

/-- The error of a search: that of the last candidate which was not simply missing, or
else of the last one. -/
def worse (found next : Errno) : Errno :=
  if next = .notFound || next = .notDirectory then
    if found = .notFound || found = .notDirectory then next else found
  else next

def loadFirst (disk : Disk) (cwd : Location) (words : List Text) (error : Errno) :
    List Text → Except Errno Loaded
  | [] => .error error
  | path :: rest =>
    match load disk cwd maxInterpreters path words with
    | .ok loaded => .ok loaded
    | .error next => loadFirst disk cwd words (worse error next) rest

def candidates (path name : Text) : List Text :=
  if name.contains Path.slash then [name]
  else (path.splitOn (.char ':')).map fun dir => Toolchain.fileIn dir name

def find (disk : Disk) (cwd : Location) (path : Text) (words : List Text) : Except Errno Loaded :=
  loadFirst disk cwd words .notFound (candidates path (words.headD []))

def isProgram (disk : Disk) (cwd : Location) (path : Text) : Bool :=
  Reach.holds disk cwd .target path fun entry => entry.isFile && entry.mode &&& 0o100 ≠ 0

def path? (disk : Disk) (cwd : Location) (path name : Text) : Option Text :=
  (candidates path name).find? (isProgram disk cwd)

/-- The first candidate for a program that is a script without the name of a program that
reads it. -/
def script? (disk : Disk) (cwd : Location) (path name : Text) : Option Text :=
  match path? disk cwd path name with
  | some found =>
    match Reach.bytes disk cwd found with
    | .ok data => if magic.isPrefixOf data then none else some found
    | .error _ => some found
  | none => none

end Image

end StageParity.Script
