import StageParity.Script.Tool.Show

/-!
# Tools for files

Copying, moving, removing and making files. Each tool gives its exit status.
-/

namespace StageParity.Script

def baseName (t : Text) : Text :=
  let t' := Text.dropEnd t (· == Path.slash)
  if t'.isEmpty then (if t.isEmpty then [] else [Path.slash])
  else ((Text.splitOn Path.slash t').getLast?).getD []

def directoryName (t : Text) : Text :=
  let t' := Text.dropEnd t (· == Path.slash)
  if !t'.contains Path.slash then (if t'.isEmpty && !t.isEmpty then [Path.slash] else ".")
  else
    let up := Text.dropEnd (Text.dropEnd t' (· != Path.slash)) (· == Path.slash)
    if up.isEmpty then [Path.slash] else up

def nameIn (directory name : Text) : Text :=
  if directory.getLast? = some Path.slash then directory ++ name else directory ++ Path.slash :: name

/-! ## Permission bits given by letters -/

/-- The bits of permission letters, for an entry with some bits. -/
def letterBits (old : Nat) (isDirectory : Bool) (letters : List Char) : Nat :=
  letters.foldl (fun n c => n ||| match c with
    | 'r' => 0o444
    | 'w' => 0o222
    | 'x' => 0o111
    | 'X' => if isDirectory || old &&& 0o111 ≠ 0 then 0o111 else 0
    | 's' => 0o6000
    | 't' => 0o1000
    | 'u' => (old / 64 % 8) * 0o111
    | 'g' => (old / 8 % 8) * 0o111
    | 'o' => (old % 8) * 0o111
    | _ => 0) 0

/-- The bits after the changes of one clause, for some owners. -/
def clauseBits (shares umask : Nat) (everyone isDirectory : Bool) : (fuel : Nat) → List Char → Nat → Option Nat
  | 0, _, old => some old
  | _, [], old => some old
  | fuel + 1, sign :: rest, old =>
    let letters := rest.takeWhile fun c => "rwxXstugo".toList.contains c
    let bits := letterBits old isDirectory letters &&& (shares ||| 0o7000)
    let bits := if everyone then bits - (bits &&& umask) else bits
    let after := rest.drop letters.length
    match sign with
    | '+' => clauseBits shares umask everyone isDirectory fuel after (old ||| bits)
    | '-' => clauseBits shares umask everyone isDirectory fuel after (old - (old &&& bits))
    | '=' => clauseBits shares umask everyone isDirectory fuel after ((old - (old &&& shares)) ||| bits)
    | _ => none

/-- The permission bits after a change that is given as text. -/
def changedMode? (umask : Nat) (isDirectory : Bool) (t : Text) (old : Nat) : Option Nat :=
  match Text.chars? t with
  | none => none
  | some cs =>
    if !cs.isEmpty && cs.all fun c => '0' ≤ c && c ≤ '7' then
      let n := cs.foldl (fun n c => 8 * n + (c.toNat - 48)) 0
      if 0o7777 < n then none else some n
    else
      (Text.splitOn (.char ',') t).foldl (fun found clause => do
        let old ← found
        let cs ← Text.chars? clause
        let who := cs.takeWhile fun c => "ugoa".toList.contains c
        let all := who.isEmpty || who.contains 'a'
        let shares := (if all || who.contains 'u' then 0o700 else 0) |||
          (if all || who.contains 'g' then 0o070 else 0) ||| (if all || who.contains 'o' then 0o007 else 0)
        let rest := cs.drop who.length
        if rest.isEmpty then none else clauseBits shares umask who.isEmpty isDirectory (rest.length + 1) rest old)
        (some old)

/-- Permission bits as letters, after the letter of a kind. -/
def modeText (entry : Entry) : Text :=
  let kind := match entry with
    | .directory _ => 'd'
    | .link _ => 'l'
    | .file _ _ => '-'
  let mode := match entry with
    | .link _ => 0o777
    | _ => entry.mode
  let share := fun (n special : Nat) (on off : Char) =>
    [if n &&& 4 ≠ 0 then 'r' else '-', if n &&& 2 ≠ 0 then 'w' else '-',
      if special ≠ 0 then (if n &&& 1 ≠ 0 then on else off) else if n &&& 1 ≠ 0 then 'x' else '-']
  Text.ofChars (kind :: share (mode / 64) (mode &&& 0o4000) 's' 'S' ++
    share (mode / 8) (mode &&& 0o2000) 's' 'S' ++ share mode (mode &&& 0o1000) 't' 'T')

namespace Tool

open Step

def spotOf (aim : Aim) (t : Text) : Step (Except Errno Spot) := ask fun disk cwd => Reach.spot disk cwd aim t

def foundAt (aim : Aim) (t : Text) : Step (Except Errno (Location × Entry)) :=
  ask fun disk cwd => Reach.found disk cwd aim t

def isDirectoryAt (t : Text) : Step Bool :=
  ask fun disk cwd => Reach.holds disk cwd .target t Entry.isDirectory

/-- Where a copy goes: into a directory under its old name, or to the target itself. -/
def destination (plain : Bool) (source target : Text) : Step Text := do
  if !plain && (← isDirectoryAt target) then return nameIn target (baseName source) else return target

def copyTree (disk : Disk) (place goal : Location) : Disk :=
  let found := disk.entries.filter fun item => Disk.atOrBelow place item.1
  found.reverse.foldl (fun d item => d.put (goal ++ item.1.drop place.length) item.2) disk

def copyOne (given : Given) (source target : Text) : Step Bool := do
  let deep := given.has 'r' || given.has 'R' || given.has 'a'
  let aim : Aim := if given.has 'P' || given.has 'd' || deep then .entry else .target
  let tell := fun (target : Text) => do
    if given.has 'v' then writeLine (alwaysQuoted source ++ " -> " ++ alwaysQuoted target)
  let umask := (← frame).umask
  match ← foundAt aim source with
  | .error errno =>
    report ("cannot stat " ++ alwaysQuoted source ++ ": " ++ errno.message)
    return false
  | .ok (place, .directory mode) =>
    if !deep then
      report ("-r not specified; omitting directory " ++ alwaysQuoted source)
      return false
    else
      let target ← destination (given.has 'T') source target
      match ← spotOf .target target with
      | .ok spot =>
        let goal := match spot with
          | .found other _ => other
          | .vacant directory name => directory ++ [name]
        let overFile := match spot with
          | .found _ entry => !entry.isDirectory
          | .vacant _ _ => false
        if Disk.atOrBelow place goal then
          report ("cannot copy a directory, " ++ alwaysQuoted source ++ ", into itself, " ++ alwaysQuoted target)
          return false
        else if overFile then
          report ("cannot overwrite non-directory " ++ alwaysQuoted target ++ " with directory " ++
            alwaysQuoted source)
          return false
        else if mode &&& Entry.readBit = 0 then
          report ("cannot access " ++ alwaysQuoted source ++ ": Permission denied")
          return false
        else
          let m ← get
          if Reach.mayChange m.disk goal.dropLast then
            set { m with disk := copyTree m.disk place goal }
            tell target
            return true
          else
            report ("cannot create directory " ++ alwaysQuoted target ++ ": Permission denied")
            return false
      | .error errno =>
        report ("cannot create directory " ++ alwaysQuoted target ++ ": " ++ errno.message)
        return false
  | .ok (_, .link goal) =>
    let target ← destination (given.has 'T') source target
    let _ ← change fun disk cwd => Reach.unlink disk cwd target
    match ← change fun disk cwd => Reach.makeLink disk cwd target (spelled goal) with
    | .ok () =>
      tell target
      return true
    | .error errno =>
      report ("cannot create symbolic link " ++ alwaysQuoted target ++ ": " ++ errno.message)
      return false
  | .ok (place, .file mode data) =>
    if mode &&& 0o400 = 0 then
      report ("cannot open " ++ alwaysQuoted source ++ " for reading: Permission denied")
      return false
    else
      let target ← destination (given.has 'T') source target
      match ← spotOf .target target with
      | .ok (.found other entry) =>
        if other = place then
          report (alwaysQuoted source ++ " and " ++ alwaysQuoted target ++ " are the same file")
          return false
        else if entry.isDirectory then
          report ("cannot overwrite directory " ++ alwaysQuoted target ++ " with non-directory")
          return false
        else if given.has 'n' then return true
        else
          if given.has 'f' && entry.mode &&& Entry.writeBit = 0 then
            let _ ← change fun disk cwd => Reach.unlink disk cwd target
          match ← change fun disk cwd => Reach.writeFile disk cwd umask target data with
          | .ok () =>
            if given.has 'p' || given.has 'a' then
              modify fun m => { m with disk := m.disk.put other (.file mode data) }
            tell target
            return true
          | .error errno =>
            report ("cannot create regular file " ++ alwaysQuoted target ++ ": " ++ errno.message)
            return false
      | .ok (.vacant directory name) =>
        let slashed := target.getLast? = some Path.slash
        let mode := if given.has 'p' || given.has 'a' then mode else Reach.masked umask mode
        let made ← if slashed then pure (Except.error Errno.notDirectory)
          else change fun disk _ => Reach.add disk directory name (.file mode data)
        match made with
        | .ok () =>
          tell target
          return true
        | .error errno =>
          report ("cannot create regular file " ++ alwaysQuoted target ++ ": " ++ errno.message)
          return false
      | .error errno =>
        report ("cannot create regular file " ++ alwaysQuoted target ++ ": " ++ errno.message)
        return false

def moveOne (given : Given) (source target : Text) : Step Bool := do
  let source := if 1 < source.length then Text.dropEnd source (· = Path.slash) else source
  match ← foundAt .entry source with
  | .error errno =>
    report ("cannot stat " ++ alwaysQuoted source ++ ": " ++ errno.message)
    return false
  | .ok (place, entry) =>
    let target ← destination (given.has 'T') source target
    match ← spotOf .entry target with
    | .ok spot =>
      let (goal, old) := match spot with
        | .found other entry => (other, some entry)
        | .vacant directory name => (directory ++ [name], none)
      let m ← get
      let refuse := fun (reason : Text) => do
        report reason
        return false
      if goal = place then refuse (alwaysQuoted source ++ " and " ++ alwaysQuoted target ++ " are the same file")
      else if Disk.below place goal then
        refuse ("cannot move " ++ alwaysQuoted source ++ " to a subdirectory of itself, " ++ alwaysQuoted target)
      else if entry.isDirectory && old.any fun e => !e.isDirectory then
        refuse ("cannot overwrite non-directory " ++ alwaysQuoted target ++ " with directory " ++
          alwaysQuoted source)
      else if !entry.isDirectory && old.any Entry.isDirectory then
        refuse ("cannot overwrite directory " ++ alwaysQuoted target ++ " with non-directory")
      else if old.any Entry.isDirectory && m.disk.entries.any fun item => Disk.below goal item.1 then
        refuse ("cannot move " ++ alwaysQuoted source ++ " to " ++ alwaysQuoted target ++ ": Directory not empty")
      else if !entry.isDirectory && old.isNone && target.getLast? = some Path.slash then
        refuse ("cannot move " ++ alwaysQuoted source ++ " to " ++ alwaysQuoted target ++ ": Not a directory")
      else if given.has 'n' && old.isSome then return true
      else if !(Reach.mayChange m.disk place.dropLast && Reach.mayChange m.disk goal.dropLast) then
        refuse ("cannot move " ++ alwaysQuoted source ++ " to " ++ alwaysQuoted target ++ ": Permission denied")
      else
        let found := m.disk.entries.filter fun item => Disk.below place item.1
        let moved := found.map fun item => (goal ++ item.1.drop place.length, item.2)
        let disk := (m.disk.removeIf (Disk.atOrBelow place)).removeIf (Disk.atOrBelow goal)
        let disk := moved.foldl (fun (d : Disk) (item : Location × Entry) => d.put item.1 item.2)
          (disk.put goal entry)
        set { m with disk }
        if given.has 'v' then writeLine ("renamed " ++ alwaysQuoted source ++ " -> " ++ alwaysQuoted target)
        return true
    | .error errno =>
      report ("cannot move " ++ alwaysQuoted source ++ " to " ++ alwaysQuoted target ++ ": " ++ errno.message)
      return false

/-- Copy or move sources to the last operand, or to a directory that an option names. -/
def toLast (given : Given) (step : Given → Text → Text → Step Bool) : Step Nat := do
  let operands := given.operands ++ (given.value? 't').toList
  match operands.reverse with
  | target :: source :: more =>
    if !more.isEmpty && !(← isDirectoryAt target) then
      let errno := match ← foundAt .target target with
        | .ok _ => Errno.notDirectory
        | .error errno => errno
      report ("target " ++ alwaysQuoted target ++ ": " ++ errno.message)
      return 1
    else forEach (source :: more).reverse fun operand => step given operand target
  | [only] => misused 1 ("missing destination file operand after " ++ alwaysQuoted only)
  | [] => misused 1 "missing file operand"

def copy (arguments : List Text) : Step Nat :=
  let spec := OptionSpec.of "rRafpvnTuPLdixt:"
    [("recursive", 'r'), ("archive", 'a'), ("force", 'f'), ("verbose", 'v'), ("no-clobber", 'n'),
     ("no-target-directory", 'T'), ("preserve", 'p'), ("target-directory", 't'), ("update", 'u')]
  withOptions spec 1 arguments fun given => toLast given copyOne

def move (arguments : List Text) : Step Nat :=
  let spec := OptionSpec.of "fvnTuit:"
    [("force", 'f'), ("verbose", 'v'), ("no-clobber", 'n'), ("no-target-directory", 'T'),
     ("target-directory", 't')]
  withOptions spec 1 arguments fun given => toLast given moveOne

/-- Remove what is below a location, the innermost first, and tell each removal. The answer
tells whether all went well. -/
def removeBelow (tell : Text → Bool → Step Unit) : (depth : Nat) → Text → Location → Step Bool
  | 0, _, _ => return true
  | depth + 1, path, place => do
    let disk := (← get).disk
    let results ← (Reach.names disk place).mapM fun name => do
      let spot := place ++ [named name]
      let inner := nameIn path name
      match (← get).disk.get? spot with
      | some (.directory _) => removeBelow tell depth inner spot
      | _ =>
        match Reach.removeAt (← get).disk spot with
        | .ok disk =>
          modify fun m => { m with disk }
          tell inner false
          return true
        | .error errno =>
          report ("cannot remove " ++ alwaysQuoted inner ++ ": " ++ errno.message)
          return false
    if !results.all id then return false
    else
      match Reach.removeAt (← get).disk place with
      | .ok disk =>
        modify fun m => { m with disk }
        tell path true
        return true
      | .error errno =>
        report ("cannot remove " ++ alwaysQuoted path ++ ": " ++ errno.message)
        return false

def removeOne (given : Given) (operand : Text) : Step Bool := do
  let deep := given.has 'r' || given.has 'R'
  let refuse := fun (reason : Text) => do
    report ("cannot remove " ++ alwaysQuoted operand ++ ": " ++ reason)
    return false
  let tell := fun (path : Text) (isDirectory : Bool) => do
    if given.has 'v' then
      writeLine ((if isDirectory then Text.ofString "removed directory " else "removed ") ++ alwaysQuoted path)
  let last := baseName operand
  match ← foundAt .entry operand with
  | .ok (place, .directory mode) =>
    let isEmpty := !((← get).disk.entries.any fun item => Disk.below place item.1)
    if !deep && !(given.has 'd' && isEmpty) then
      refuse (Errno.message (if given.has 'd' then .notEmpty else .isDirectory))
    else if last = Text.ofString "." || last = Path.up then
      report ("refusing to remove '.' or '..' directory: skipping " ++ alwaysQuoted operand)
      return false
    else if !isEmpty && mode &&& Entry.readBit = 0 then refuse (Errno.message .denied)
    else
      let path := if 1 < operand.length then Text.dropEnd operand (· = Path.slash) else operand
      removeBelow tell ((← get).disk.entries.length + 1) path place
  | .ok (place, _) =>
    match Reach.removeAt (← get).disk place with
    | .ok disk =>
      modify fun m => { m with disk }
      tell operand false
      return true
    | .error errno => refuse errno.message
  | .error errno =>
    if given.has 'f' && (errno = .notFound || errno = .notDirectory) then return true
    else refuse errno.message

def remove (arguments : List Text) : Step Nat :=
  let spec := OptionSpec.of "rRfivdI"
    [("recursive", 'r'), ("force", 'f'), ("verbose", 'v'), ("dir", 'd')]
  withOptions spec 1 arguments fun given =>
    if given.has 'f' then forEach given.operands (removeOne given)
    else withOperands given.operands fun operands => forEach operands (removeOne given)

/-- The path texts of the directories on the way to a path, itself included. -/
def waysTo (t : Text) : List Text :=
  let t := if 1 < t.length then Text.dropEnd t (· = Path.slash) else t
  (List.range (t.length + 1)).filterMap fun n =>
    if n = t.length then some t
    else if 0 < n && t[n]? = some Path.slash && t[n - 1]? ≠ some Path.slash then some (t.take n) else none

def makeOne (given : Given) (operand : Text) : Step Bool := do
  let umask := (← frame).umask
  let standard := Reach.masked umask 0o777
  let mode := match given.value? 'm' with
    | some t => (changedMode? 0 true t 0o777).getD standard
    | none => standard
  let refuse := fun (path : Text) (errno : Errno) => do
    report ("cannot create directory " ++ alwaysQuoted path ++ ": " ++ errno.message)
    return false
  let tell := fun (path : Text) => do
    if given.has 'v' then writeLine ((← frame).name ++ ": created directory " ++ alwaysQuoted path)
  if !given.has 'p' then
    match ← change fun disk cwd => Reach.makeDirectory disk cwd mode operand with
    | .ok () =>
      tell operand
      return true
    | .error errno => refuse operand errno
  else
    let ways := waysTo operand
    let rec go : List Text → Step Bool
      | [] => return true
      | path :: rest => do
        if ← isDirectoryAt path then go rest
        else
          let mode := if rest.isEmpty then mode else standard
          match ← change fun disk cwd => Reach.makeDirectory disk cwd mode path with
          | .ok () =>
            tell path
            go rest
          | .error errno => refuse path errno
    go ways

def makeDirectories (arguments : List Text) : Step Nat :=
  let spec := OptionSpec.of "pm:v" [("parents", 'p'), ("mode", 'm'), ("verbose", 'v')]
  withOptions spec 1 arguments fun given =>
    withOperands given.operands fun operands =>
      match given.value? 'm' with
      | some mode =>
        if (changedMode? 0 true mode 0o777).isNone then do
          report ("invalid mode " ++ alwaysQuoted mode)
          return 1
        else forEach operands (makeOne given)
      | none => forEach operands (makeOne given)

def removeEmpty (given : Given) (operand : Text) : Step Bool := do
  if given.has 'v' then writeLine ((← frame).name ++ ": removing directory, " ++ alwaysQuoted operand)
  let refuse := fun (errno : Errno) => do
    report ("failed to remove " ++ alwaysQuoted operand ++ ": " ++ errno.message)
    return false
  match ← foundAt .entry operand with
  | .ok (place, .directory _) =>
    if !Reach.mayChange (← get).disk place.dropLast then refuse .denied
    else if (← get).disk.entries.any fun item => Disk.below place item.1 then refuse .notEmpty
    else if baseName operand = Text.ofString "." then refuse ⟨22⟩
    else
      match Reach.removeAt (← get).disk place with
      | .ok disk =>
        modify fun m => { m with disk }
        return true
      | .error errno => refuse errno
  | .ok _ => refuse .notDirectory
  | .error errno => refuse errno

def removeDirectories (arguments : List Text) : Step Nat :=
  let spec := OptionSpec.of "pv" [("parents", 'p'), ("verbose", 'v')]
  withOptions spec 1 arguments fun given =>
    withOperands given.operands fun operands => do
      let operands := if given.has 'p' then operands.flatMap fun t => (waysTo t).reverse else operands
      forEach operands (removeEmpty given)

def touch (arguments : List Text) : Step Nat :=
  let spec := OptionSpec.of "acmd:r:t:h" [("no-create", 'c'), ("date", 'd'), ("reference", 'r')]
  withOptions spec 1 arguments fun given =>
    if given.operands.isEmpty then misused 1 "missing file operand"
    else
      forEach given.operands fun operand => do
        let umask := (← frame).umask
        let done ← change fun disk cwd => do
          match ← Reach.spot disk cwd .target operand with
          | .found _ _ => return disk
          | .vacant _ _ =>
            if given.has 'c' then return disk
            else return (← Reach.openFile disk cwd umask true operand).1
        match done with
        | .ok () => return true
        | .error errno =>
          report ("cannot touch " ++ alwaysQuoted operand ++ ": " ++ errno.message)
          return false

def changeMode (arguments : List Text) : Step Nat := do
  -- A mode that takes permissions away looks like an option.
  let isMode := fun (t : Text) => match t with
    | .char '-' :: rest => !rest.isEmpty && rest.all fun g => g.char?.any fun c => "rwxXstugo,=+-".toList.contains c
    | _ => false
  let taking := arguments.find? isMode
  let rest := match taking with
    | some mode => arguments.erase mode
    | none => arguments
  let spec := OptionSpec.of "Rvcf" [("recursive", 'R'), ("verbose", 'v')]
  withOptions spec 1 rest fun given => do
    let operands := taking.toList ++ given.operands
    match operands with
    | [] => misused 1 "missing operand"
    | [mode] => misused 1 ("missing operand after " ++ alwaysQuoted mode)
    | mode :: files =>
      let umask := (← frame).umask
      if (changedMode? umask false mode 0).isNone then misused 1 ("invalid mode: " ++ alwaysQuoted mode)
      else
        forEach files fun operand => do
          match ← foundAt .target operand with
          | .ok (place, entry) =>
            if place.length < 2 || place.head? ≠ some "tmp" then
              report ("changing permissions of " ++ alwaysQuoted operand ++ ": Operation not permitted")
              return false
            else
              modify fun m =>
                let touched := if given.has 'R' then
                    m.disk.entries.filter fun item => Disk.atOrBelow place item.1 && !item.2.isLink
                  else [(place, entry)]
                { m with disk := touched.foldl (fun d item =>
                    let bits := (changedMode? umask item.2.isDirectory mode item.2.mode).getD item.2.mode
                    d.put item.1 (item.2.withMode bits)) m.disk }
              return true
          | .error errno =>
            report ("cannot access " ++ alwaysQuoted operand ++ ": " ++ errno.message)
            return false

def linkOne (given : Given) (target name : Text) : Step Bool := do
  let symbolic := given.has 's'
  let isDirectory ← isDirectoryAt name
  let name := if isDirectory && !given.has 'n' && !given.has 'T' then nameIn name (baseName target) else name
  let source ← foundAt .target target
  match symbolic, source with
  | false, .error errno =>
    report ("failed to access " ++ alwaysQuoted target ++ ": " ++ errno.message)
    return false
  | false, .ok (_, .directory _) =>
    report (shownName target ++ ": hard link not allowed for directory")
    return false
  | _, _ =>
    if given.has 'f' then
      let _ ← change fun disk cwd => Reach.unlink disk cwd name
    let done ← change fun disk cwd => do
      if name.getLast? = some Path.slash && !Reach.holds disk cwd .entry name fun _ => true then throw .notFound
      if symbolic then Reach.makeLink disk cwd name target
      else
        match ← Reach.spot disk cwd .entry name with
        | .found _ _ => throw .exists_
        | .vacant directory last => Reach.add disk directory last (← Reach.entry disk cwd .target target)
    match done with
    | .ok () =>
      if given.has 'v' then
        writeLine (alwaysQuoted name ++ (if symbolic then Text.ofString " -> " else " => ") ++ alwaysQuoted target)
      return true
    | .error errno =>
      let kind := if symbolic then Text.ofString "symbolic link " else "hard link "
      report ("failed to create " ++ kind ++ alwaysQuoted name ++ ": " ++ errno.message)
      return false

def link (arguments : List Text) : Step Nat :=
  let spec := OptionSpec.of "sfnvTrLP"
    [("symbolic", 's'), ("force", 'f'), ("no-dereference", 'n'), ("verbose", 'v'), ("no-target-directory", 'T')]
  withOptions spec 1 arguments fun given => do
    match given.operands with
    | [] => misused 1 "missing file operand"
    | [target] => forEach [target] fun target => linkOne given target (nameIn "." (baseName target))
    | [target, name] => forEach [target] fun target => linkOne given target name
    | operands =>
      let directory := operands.getLast?.getD []
      if ← isDirectoryAt directory then
        forEach operands.dropLast fun target => linkOne given target directory
      else
        report ("target " ++ alwaysQuoted directory ++ ": Not a directory")
        return 1

end Tool

end StageParity.Script
