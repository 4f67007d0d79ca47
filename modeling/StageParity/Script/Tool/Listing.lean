import StageParity.Script.Tool.Files

/-!
# Tools that tell about files

Listings of directories, the properties of files, and the places to which links lead.
-/

namespace StageParity.Script

namespace Tool

open Step

/-- An entry of a listing, with the name under which it is shown. -/
structure Item where
  name : Text
  entry : Entry
  goal : Option Entry

def sizeOf : Entry → Nat
  | .file _ data => data.length
  | .directory _ => 4096
  | .link target => (Text.encode target).length

/-- The space that an entry takes, in units of 1024 bytes. -/
def blocksOf : Entry → Nat
  | .file _ data => (data.length + 4095) / 4096 * 4
  | .directory _ => 4
  | .link _ => 0

def signOf (given : Given) (entry : Entry) : Text :=
  match entry with
  | .directory _ => if given.has 'F' || given.has 'p' then "/" else []
  | .link _ => if given.has 'F' then "@" else []
  | .file mode _ => if given.has 'F' && mode &&& 0o111 ≠ 0 then "*" else []

def itemLines (given : Given) (items : List Item) : List Text :=
  if given.has 'l' || given.has 'n' || given.has 'g' || given.has 'o' then
    let width := ((items.map fun item => (Text.ofNat (sizeOf item.entry)).length).foldl max 0)
    items.map fun item =>
      let links := match item.entry with
        | .directory _ => 2
        | _ => 1
      let arrow : Text := match item.entry with
        | .link target => " -> " ++ spelled target
        | entry => signOf given entry
      modeText item.entry ++ " " ++ Text.ofNat links ++ " user user " ++
        rightAligned width (sizeOf item.entry) ++ " Jan  1 00:00 " ++ item.name ++ arrow
  else items.map fun item => item.name ++ signOf given item.entry

def ordered (given : Given) (items : List Item) : List Item :=
  let sorted := items.mergeSort fun a b => Text.le a.name b.name
  let sorted := if given.has 'S' then sorted.mergeSort fun a b => sizeOf b.entry ≤ sizeOf a.entry else sorted
  if given.has 'r' then sorted.reverse else sorted

def itemsIn (given : Given) (disk : Disk) (place : Location) : List Item :=
  let item := fun (name : Text) (spot : Location) =>
    (disk.get? spot).map fun entry => Item.mk name entry none
  let names := (Reach.names disk place).filter fun name =>
    given.has 'a' || given.has 'A' || name.head? ≠ some (.char '.')
  let own := if given.has 'a' then
      (item "." place).toList ++ (item ".." place.dropLast).toList
    else []
  own ++ names.filterMap fun name => item name (place ++ [named name])

/-- The parts of a listing of a directory and, if that is wanted, of all below it. -/
def sections (given : Given) (disk : Disk) : (depth : Nat) → Text → Location → List (Text × List Item)
  | 0, _, _ => []
  | depth + 1, path, place =>
    let items := ordered given (itemsIn given disk place)
    let below := if given.has 'R' then
        items.filter fun item => item.entry.isDirectory && item.name ≠ Text.ofString "." && item.name ≠ Path.up
      else []
    (path, items) ::
      below.flatMap fun item => sections given disk depth (nameIn path item.name) (place ++ [named item.name])

def list (arguments : List Text) : Step Nat :=
  let spec := OptionSpec.of "aAlrRdFp1StuUchkngoqNbCxmiLHsQ"
    [("all", 'a'), ("almost-all", 'A'), ("reverse", 'r'), ("recursive", 'R'), ("directory", 'd'),
     ("classify", 'F'), ("human-readable", 'h')]
  withOptions spec 2 arguments fun given => do
    let operands := if given.operands.isEmpty then [Text.ofString "."] else given.operands
    let long := given.has 'l' || given.has 'n' || given.has 'g' || given.has 'o'
    let found ← operands.mapM fun operand => do
      let target ← foundAt .target operand
      let own ← foundAt .entry operand
      match target, own with
      | .ok (place, entry), .ok (_, link) =>
        let seen := if entry.isDirectory && !given.has 'd' && !(long && link.isLink) then entry
          else if long || given.has 'd' || given.has 'F' then link else entry
        return some (operand, place, seen)
      | .error _, .ok (place, link) => return some (operand, place, link)
      | _, .error errno =>
        report ("cannot access " ++ alwaysQuoted operand ++ ": " ++ errno.message)
        return none
    let present := found.filterMap id
    let asEntries := present.filter fun item => given.has 'd' || !item.2.2.isDirectory
    let directories := present.filter fun item => !given.has 'd' && item.2.2.isDirectory
    let files := ordered given (asEntries.map fun item => ⟨item.1, item.2.2, none⟩)
    (itemLines given files).forM writeLine
    let disk := (← get).disk
    let sortedDirectories := directories.mergeSort fun a b => Text.le a.1 b.1
    let sortedDirectories := if given.has 'r' then sortedDirectories.reverse else sortedDirectories
    let readable := sortedDirectories.filter fun item => item.2.2.mode &&& Entry.readBit ≠ 0
    (sortedDirectories.filter fun item => item.2.2.mode &&& Entry.readBit = 0).forM fun item =>
      report ("cannot open directory " ++ alwaysQuoted item.1 ++ ": Permission denied")
    let parts := readable.flatMap fun item => sections given disk (disk.entries.length + 1) item.1 item.2.1
    let titled := 1 < operands.length || given.has 'R'
    let _ ← parts.foldlM (fun (first : Bool) (path, items) => do
      if !first then writeLine []
      if titled then writeLine (path ++ ":")
      let blocks := items.foldl (fun total item => total + blocksOf item.entry) 0
      if long then writeLine ("total " ++ Text.ofNat blocks)
      (itemLines given items).forM writeLine
      return false) files.isEmpty
    return if found.all Option.isSome && readable.length = sortedDirectories.length then 0 else 2

def statText (path : Text) (entry : Entry) : (fuel : Nat) → Text → Text
  | 0, t => t
  | fuel + 1, t =>
    match t with
    | .char '%' :: g :: rest =>
      let value : Text := match g with
        | .char 'a' => Text.ofChars (Nat.toDigits 8 (match entry with
            | .link _ => 0o777
            | _ => entry.mode))
        | .char 'A' => modeText entry
        | .char 's' => Text.ofNat (sizeOf entry)
        | .char 'n' => path
        | .char 'N' => alwaysQuoted path ++ (match entry with
            | .link target => " -> " ++ alwaysQuoted (spelled target)
            | _ => [])
        | .char 'F' => (match entry with
            | .directory _ => "directory"
            | .link _ => "symbolic link"
            | .file _ data => if data.isEmpty then "regular empty file" else "regular file")
        | .char 'h' => (match entry with
            | .directory _ => "2"
            | _ => "1")
        | .char 'b' => Text.ofNat (2 * blocksOf entry)
        | .char 'B' => "512"
        | .char 'U' | .char 'G' => "user"
        | .char 'Y' | .char 'X' | .char 'Z' | .char 'W' => "0"
        | .char 'f' => zeroless (match entry with
            | .directory mode => 0o40000 + mode
            | .link _ => 0o120777
            | .file mode _ => 0o100000 + mode)
        | .char '%' => "%"
        | _ => "?"
      value ++ statText path entry fuel rest
    | g :: rest => g :: statText path entry fuel rest
    | [] => []
where
  /-- A number in base sixteen. -/
  zeroless (n : Nat) : Text := Text.ofChars (Nat.toDigits 16 n)

def stat (arguments : List Text) : Step Nat :=
  let spec := OptionSpec.of "Lc:tfP:" [("format", 'c'), ("dereference", 'L'), ("printf", 'P'), ("terse", 't')]
  withOptions spec 1 arguments fun given =>
    withOperands given.operands fun operands =>
      forEach operands fun operand => do
        match ← foundAt (if given.has 'L' then .target else .entry) operand with
        | .ok (_, entry) =>
          match given.value? 'P' with
          | some format =>
            let text := statText operand entry (format.length + 1) format
            write (escaped (text.length + 1) text).1
          | none =>
            let format := (given.value? 'c').getD "  File: %n"
            writeLine (statText operand entry (format.length + 1) format)
          return true
        | .error errno =>
          report ("cannot statx " ++ alwaysQuoted operand ++ ": " ++ errno.message)
          return false

/-- The path free of links that a path text leads to. All names but the last have to be
there, or all of them if `strict` says so. -/
def canonicalPath (disk : Disk) (cwd : Location) (strict loose : Bool) (t : Text) : Except Errno Text :=
  match Reach.spot disk cwd .target t with
  | .ok (.found place _) => .ok (locationText place)
  | .ok (.vacant directory name) =>
    if strict then .error .notFound else .ok (locationText (directory ++ [name]))
  | .error errno =>
    if loose then
      match disk.resolve cwd (Path.ofText (named t)) with
      | .ok path => .ok (spelled path.text)
      | .error _ => .error errno
    else .error errno

def readLink (arguments : List Text) : Step Nat :=
  let spec := OptionSpec.of "fenmqsvz"
    [("canonicalize", 'f'), ("canonicalize-existing", 'e'), ("canonicalize-missing", 'm'), ("no-newline", 'n')]
  withOptions spec 1 arguments fun given =>
    withOperands given.operands fun operands =>
      forEach operands fun operand => do
        let m ← get
        let found : Except Errno Text :=
          if given.has 'f' || given.has 'e' || given.has 'm' then
            canonicalPath m.disk m.frame.cwd (given.has 'e') (given.has 'm') operand
          else
            match Reach.entry m.disk m.frame.cwd .entry operand with
            | .ok (.link target) => .ok (spelled target)
            | .ok _ => .error ⟨22⟩
            | .error errno => .error errno
        match found with
        | .ok t =>
          write (t.encode ++ (if given.has 'n' && operands.length = 1 then [] else [10]))
          return true
        | .error errno =>
          if given.has 'v' then report (shownName operand ++ ": " ++ errno.message)
          return false

def realPath (arguments : List Text) : Step Nat :=
  let spec := OptionSpec.of "emqsz"
    [("canonicalize-existing", 'e'), ("canonicalize-missing", 'm'), ("quiet", 'q'), ("no-symlinks", 's')]
  withOptions spec 1 arguments fun given =>
    withOperands given.operands fun operands =>
      forEach operands fun operand => do
        match ← ask fun disk cwd => canonicalPath disk cwd (given.has 'e') (given.has 'm') operand with
        | .ok t =>
          writeLine t
          return true
        | .error errno =>
          if !given.has 'q' then report (shownName operand ++ ": " ++ errno.message)
          return false

def makeTemporary (arguments : List Text) : Step Nat :=
  let spec := OptionSpec.of "dup:tqs:"
    [("directory", 'd'), ("dry-run", 'u'), ("tmpdir", 'p'), ("suffix", 's'), ("quiet", 'q')]
  withOptions spec 1 arguments fun given => do
    let template := given.operands.headD "tmp.XXXXXXXXXX"
    let inTemporary := given.operands.isEmpty || given.has 'p' || given.has 't'
    let home := match given.value? 'p', ← lookup "TMPDIR" with
      | some t, _ => t
      | none, some t => if t.isEmpty then Text.ofString "/tmp" else t
      | none, none => "/tmp"
    let marks := template.reverse.takeWhile (· = .char 'X')
    if marks.length < 3 then
      report ("too few X's in template " ++ alwaysQuoted template)
      return 1
    else
      let front := template.take (template.length - marks.length)
      let m ← get
      let candidate := fun (n : Nat) =>
        let digits := Nat.toDigits 36 n
        let digits := digits.map fun c => if c = '*' then 'z' else c
        let name := front ++ List.replicate (marks.length - digits.length) (.char 'a') ++ Text.ofChars digits ++
          (given.value? 's').getD []
        if inTemporary then nameIn home name else name
      let isFree := fun (n : Nat) => !Reach.holds m.disk m.frame.cwd .entry (candidate n) fun _ => true
      let path := candidate (((List.range 4096).find? isFree).getD 0)
      let done ← change fun disk cwd => do
        if given.has 'u' then return disk
        else if given.has 'd' then Reach.makeDirectory disk cwd 0o700 path
        else Reach.writeFile disk cwd 0o177 path []
      match done with
      | .ok () =>
        writeLine path
        return 0
      | .error errno =>
        if !given.has 'q' then
          report ("failed to create " ++ (if given.has 'd' then Text.ofString "directory" else "file") ++
            " via template " ++ alwaysQuoted (if inTemporary then nameIn home template else template) ++ ": " ++
            errno.message)
        return 1

end Tool

end StageParity.Script
