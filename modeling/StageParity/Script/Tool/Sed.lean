import StageParity.Script.Tool.Edit

/-!
# Editing streams

Running an editing script over the lines of files. A line is read, goes through the
commands, and is written unless a command says otherwise.
-/

namespace StageParity.Script.Edit

/-- Something that is written after the line that is worked on. -/
inductive Later where
  | text (t : Text)
  | file (path : Text)

structure Editing where
  line : Text
  kept : Text
  number : Nat
  ahead : List Text
  ended : Bool
  later : List Later
  done : Bool
  /-- The commands whose ranges are open, with the line at which they end if that is known. -/
  ranges : List (Nat × Option Nat)
  search : Search
  out : List (List UInt8)
  openLine : Bool
  /-- What was written to files, the last first. -/
  files : List (Text × List UInt8)
  quit : Option Nat

namespace Editing

/-- Write bytes after a line end that is still missing. -/
def put (s : Editing) (data : List UInt8) : Editing :=
  { s with out := (if s.openLine then 10 :: data else data) :: s.out, openLine := false }

def isLast (s : Editing) : Bool := s.ahead.isEmpty

/-- Write a line as it was read: the last one may have no line end. -/
def putLine (s : Editing) (t : Text) : Editing :=
  if s.isLast && !s.ended then { s.put t.encode with openLine := true } else s.put (t.encode ++ [10])

def flush (s : Editing) (bytesOf : Text → List UInt8) : Editing :=
  let s' := s.later.foldl (fun s item => match item with
    | .text t => s.put t.encode
    | .file path =>
      let data := bytesOf path
      if data.isEmpty then s else s.put data) s
  { s' with later := [] }

end Editing

/-- The search to be made: a new one, or that of the last time. -/
def chosenSearch (s : Editing) (search : Search) : Search :=
  match search.regex with
  | some _ => search
  | none => s.search

def found (search : Search) (t : Text) (place : Nat) : Option Match :=
  search.regex.bind fun r => r.search search.anyCase t place

def Address.fits (a : Address) (s : Editing) : Bool :=
  match a with
  | .line n => s.number = n
  | .last => s.isLast
  | .search wanted => (found (chosenSearch s wanted) s.line 0).isSome
  | .every first step =>
    if step = 0 then s.number = first else first ≤ s.number && (s.number - first) % step = 0

def Address.remember (a : Option Address) (s : Editing) : Editing :=
  match a with
  | some (.search wanted) => { s with search := chosenSearch s wanted }
  | _ => s

/-- Whether a command is meant for the line that is worked on, and the state with its range
opened or closed. -/
def chosen (index : Nat) (c : Choice) (s : Editing) : Bool × Editing :=
  let (held, s) : Bool × Editing :=
    match c.first, c.finish with
    | none, _ => (true, s)
    | some a, none => (a.fits s, Address.remember (some a) s)
    | some a, some finish =>
      let closed := { s with ranges := s.ranges.filter fun range => range.1 ≠ index }
      let opened := fun (until_ : Option Nat) => { closed with ranges := (index, until_) :: closed.ranges }
      match s.ranges.lookup index with
      | none =>
        if !a.fits s then (false, Address.remember (some a) s)
        else
          let s := Address.remember (some a) s
          let opened := fun (until_ : Option Nat) => { s with ranges := (index, until_) :: s.ranges }
          match finish with
          | .at_ (.line n) => (true, if n ≤ s.number then s else opened (some n))
          | .after n => (true, if n = 0 then s else opened (some (s.number + n)))
          | .multiple n =>
            let last := if n = 0 then s.number else (s.number + n - 1) / n * n
            (true, if last ≤ s.number then s else opened (some last))
          | .at_ _ => (true, opened none)
      | some (some n) =>
        if s.number < n then (true, opened (some n)) else (s.number = n, closed)
      | some none =>
        match finish with
        | .at_ a => if a.fits s then (true, Address.remember (some a) closed) else (true, Address.remember (some a) s)
        | _ => (true, s)
  (held != c.negated, s)

def cased (c : Option Casing) (once : Option Casing) (t : Text) : Text :=
  let change := fun (how : Option Casing) (g : Glyph) => match how, g with
    | some .upper, .char x | some .nextUpper, .char x => .char x.toUpper
    | some .lower, .char x | some .nextLower, .char x => .char x.toLower
    | _, _ => g
  match t with
  | [] => []
  | g :: rest => (match once with
      | some _ => change once g
      | none => change c g) :: rest.map (change c)

def replacementText (line : Text) (m : Match) : (casing once : Option Casing) → List Piece → Text
  | _, _, [] => []
  | casing, once, piece :: rest =>
    let add := fun (t : Text) =>
      cased casing once t ++ replacementText line m casing (if t.isEmpty then once else none) rest
    match piece with
    | .text t => add t
    | .group 0 => add ((line.drop m.start).take (m.finish - m.start))
    | .group i =>
      match m.groups.lookup i with
      | some (start, finish) => add ((line.drop start).take (finish - start))
      | none => add []
    | .casing .stop => replacementText line m none none rest
    | .casing .upper => replacementText line m (some .upper) once rest
    | .casing .lower => replacementText line m (some .lower) once rest
    | .casing c => replacementText line m casing (some c) rest

/-- A text with matches replaced from a place on, and whether any was. `count` is the number
of the next match, and `before` where the last one ended. -/
def replaceFrom (sub : Substitution) (search : Search) (line : Text) : (fuel : Nat) → (place count : Nat) →
    (before : Option Nat) → Text × Bool
  | 0, place, _, _ => (line.drop place, false)
  | fuel + 1, place, count, before =>
    match found search line place with
    | none => (line.drop place, false)
    | some m =>
      let front := (line.drop place).take (m.start - place)
      if m.start = m.finish && before = some m.start then
        -- An empty match right after another one does not count.
        match line.drop m.start with
        | [] => (front, false)
        | g :: _ =>
          let (rest, did) := replaceFrom sub search line fuel (m.start + 1) count none
          (front ++ g :: rest, did)
      else
        let whole := (line.drop m.start).take (m.finish - m.start)
        let replaces := sub.number ≤ count && (sub.everywhere || count = sub.number)
        let here := if replaces then replacementText line m none none sub.pieces else whole
        if replaces && !sub.everywhere then (front ++ here ++ line.drop m.finish, true)
        else if m.start = m.finish then
          match line.drop m.start with
          | [] => (front ++ here, replaces)
          | g :: _ =>
            let (rest, did) := replaceFrom sub search line fuel (m.start + 1) (count + 1) none
            (front ++ here ++ g :: rest, did || replaces)
        else
          let (rest, did) := replaceFrom sub search line fuel m.finish (count + 1) (some m.finish)
          (front ++ here ++ rest, did || replaces)

/-- How the work on a line ends. -/
inductive Turn where
  | finished
  | dropped
  /-- The work starts again without a new line. -/
  | again
  | stopped
  | over

/-- A line with all that cannot be seen spelled out, broken into pieces. -/
def listed (t : Text) : List UInt8 :=
  let shown := t.map fun g =>
    match g with
    | .char '\\' => Text.ofString "\\\\"
    | _ => if isShown g then [g] else shownEscape g
  let (lines, current) := shown.foldl (fun (found : List Text × Text) unit =>
    if 69 < found.2.length + unit.length then (found.1 ++ [found.2 ++ [.char '\\']], unit)
    else (found.1, found.2 ++ unit)) (([] : List Text), ([] : Text))
  (lines.flatMap fun line => line.encode ++ [10]) ++ current.encode ++ [36, 10]

/-- The place after the brace that closes the one before a place. -/
def afterBlock (program : Array Command) : (fuel depth place : Nat) → Nat
  | 0, _, place => place
  | fuel + 1, depth, place =>
    match program[place]?.map Command.action with
    | none => place
    | some .open_ => afterBlock program fuel (depth + 1) (place + 1)
    | some .close => if depth = 0 then place + 1 else afterBlock program fuel (depth - 1) (place + 1)
    | some _ => afterBlock program fuel depth (place + 1)

/-- The place of a label; the end for an empty one. -/
def placeOf (program : Array Command) (name : Text) : Nat :=
  if name.isEmpty then program.size
  else
    (program.findIdx? fun c => match c.action with
      | .label other => other = name
      | _ => false).getD program.size

section

variable (program : Array Command) (quiet : Bool) (path : Text) (bytesOf : Text → List UInt8)

def run : (fuel place : Nat) → Editing → Turn × Editing
  | 0, _, s => (.over, s)
  | fuel + 1, place, s =>
    match program[place]? with
    | none => (.finished, s)
    | some command =>
      let (held, s) := chosen place command.choice s
      let go := fun (s : Editing) => run fuel (place + 1) s
      if !held then
        match command.action with
        | .open_ => run fuel (afterBlock program program.size 0 (place + 1)) s
        | _ => go s
      else
        match command.action with
        | .open_ | .close | .label _ | .nothing => go s
        | .jump name => run fuel (placeOf program name) s
        | .jumpIfDone name =>
          if s.done then run fuel (placeOf program name) { s with done := false } else go s
        | .jumpUnlessDone name =>
          if s.done then go { s with done := false } else run fuel (placeOf program name) s
        | .insert t => go (s.put t.encode)
        | .append t => go { s with later := s.later ++ [.text t] }
        | .replace t =>
          let inRange := command.choice.finish.isSome && !command.choice.negated &&
            (s.ranges.lookup place).isSome
          (.dropped, if inRange then s else s.put t.encode)
        | .delete => (.dropped, s)
        | .deleteFirst =>
          if s.line.contains (.char '\n') then
            (.again, { s with line := (s.line.dropWhile (· ≠ .char '\n')).drop 1 })
          else (.dropped, s)
        | .print => go (s.putLine s.line)
        | .printFirst => go (s.put (Text.encode (s.line.takeWhile (· ≠ .char '\n')) ++ [10]))
        | .number => go (s.put ((Text.ofNat s.number).encode ++ [10]))
        | .list => go (s.put (listed s.line))
        | .fileName => go (s.put (path.encode ++ [10]))
        | .next =>
          match s.ahead with
          | [] => (.stopped, if quiet then s else s.putLine s.line)
          | t :: rest =>
            let s := (if quiet then s else s.putLine s.line).flush bytesOf
            go { s with line := t, ahead := rest, number := s.number + 1 }
        | .joinNext =>
          match s.ahead with
          | [] => (.stopped, if quiet then s else s.putLine s.line)
          | t :: rest =>
            let s := s.flush bytesOf
            go { s with line := s.line ++ .char '\n' :: t, ahead := rest, number := s.number + 1 }
        | .keep => go { s with kept := s.line }
        | .keepMore => go { s with kept := s.kept ++ .char '\n' :: s.line }
        | .fetch => go { s with line := s.kept }
        | .fetchMore => go { s with line := s.line ++ .char '\n' :: s.kept }
        | .exchange => go { s with line := s.kept, kept := s.line }
        | .clear => go { s with line := [] }
        | .quit status => (.stopped, { (if quiet then s else s.putLine s.line) with quit := some status })
        | .quitQuietly status => (.stopped, { s with quit := some status })
        | .readFile path => go { s with later := s.later ++ [.file path] }
        | .writeFile path => go { s with files := (path, s.line.encode ++ [10]) :: s.files }
        | .substitute sub =>
          let search := chosenSearch s sub.search
          let s := { s with search }
          let (made, did) := replaceFrom sub search s.line (2 * s.line.length + 4) 0 1 none
          if !did then go s
          else
            let s := { s with line := made, done := true }
            let s := if sub.prints then s.putLine made else s
            go (match sub.target with
              | some path => { s with files := (path, made.encode ++ [10]) :: s.files }
              | none => s)
        | .translate source target =>
          let table := source.zip target
          go { s with line := s.line.map fun g => (table.lookup g).getD g }

/-- Work on lines to the end. `fresh` tells whether a new line is to be read. -/
def cycles (fuelEach : Nat) : (fuel : Nat) → (fresh : Bool) → Editing → Option Editing
  | 0, _, _ => none
  | fuel + 1, fresh, s =>
    match if fresh then s.ahead.head? else some s.line with
    | none => some s
    | some t =>
      let s := if fresh then
          { s with line := t, ahead := s.ahead.drop 1, number := s.number + 1, done := false }
        else s
      match run program quiet path bytesOf fuelEach 0 s with
      | (.over, _) => none
      | (.finished, s) =>
        cycles fuelEach fuel true ((if quiet then s else s.putLine s.line).flush bytesOf)
      | (.dropped, s) => cycles fuelEach fuel true (s.flush bytesOf)
      | (.again, s) => cycles fuelEach fuel false (s.flush bytesOf)
      | (.stopped, s) => some (s.flush bytesOf)

end

def startRanges (program : List Command) : List (Nat × Option Nat) :=
  program.zipIdx.filterMap fun (c, i) => if c.choice.fromStart then some (i, none) else none

def Editing.start (program : List Command) (lines : List Text) (ended : Bool) : Editing :=
  { line := [], kept := [], number := 0, ahead := lines, ended, later := [], done := false,
    ranges := startRanges program, search := ⟨none, false⟩, out := [], openLine := false, files := [],
    quit := none }

end StageParity.Script.Edit

namespace StageParity.Script.Tool

open Step

def maxEditSteps : Nat := 100000

def writeEdited (files : List (Text × List UInt8)) : Step Unit := do
  let umask := (← frame).umask
  let paths := (files.map Prod.fst).eraseDups
  paths.forM fun path => do
    let data := (files.filter fun item => item.1 = path).flatMap Prod.snd
    if path = Text.ofString "/dev/stdout" then write data
    else if path = Text.ofString "/dev/stderr" then writeOn 2 data
    else
      let _ ← change fun disk cwd => Reach.writeFile disk cwd umask path data

def editTargets (program : List Edit.Command) : List Text :=
  program.filterMap fun c => match c.action with
    | .writeFile path => some path
    | .substitute sub => sub.target
    | _ => none

/-- Edit lines with a script, and give what is written. -/
def editLines (program : List Edit.Command) (quiet : Bool) (path : Text) (data : List UInt8) :
    Step (Edit.Editing) := do
  let m ← get
  let (lines, ended) := linesOf data
  let bytesOf := fun (path : Text) =>
    match Reach.bytes m.disk m.frame.cwd path with
    | .ok data => data
    | .error _ => []
  let start := Edit.Editing.start program (lines.map Text.bytewise) ended
  match Edit.cycles program.toArray quiet path bytesOf maxEditSteps (maxEditSteps + lines.length) true start with
  | some s => return s
  | none => throw .over

/-- Where a flaw of joined expressions is: the number of the expression, and the place in
it. -/
def flawPlace (expressions : List Text) (place : Nat) : Nat × Nat :=
  (expressions.foldl (fun (found : Nat × Nat × Bool) t =>
    let (number, place, settled) := found
    if settled then found
    else if place ≤ t.length then (number, place, true)
    else (number + 1, place - t.length - 1, false)) (1, place, false)) |> fun r => (r.1, r.2.1)

def sed (arguments : List Text) : Step Nat := do
  let spec := OptionSpec.of "ne:f:Ersuz"
    [("quiet", 'n'), ("silent", 'n'), ("expression", 'e'), ("file", 'f'), ("regexp-extended", 'E'),
     ("separate", 's'), ("unbuffered", 'u'), ("null-data", 'z'), ("posix", 'u')]
  let isInPlace := fun (t : Text) =>
    (Text.ofString "-i").isPrefixOf t || (Text.ofString "--in-place").isPrefixOf t ||
      t = Text.ofString "-ni" || t = Text.ofString "-Ei"
  let (inPlace, others) := arguments.partition isInPlace
  let extra : List Text := inPlace.filterMap fun t =>
    if t = Text.ofString "-ni" then some "-n" else if t = Text.ofString "-Ei" then some "-E" else none
  let ending : Text := match inPlace.getLast? with
    | some t =>
      if (Text.ofString "--in-place=").isPrefixOf t then t.drop 11
      else if (Text.ofString "--in-place").isPrefixOf t then [] else (t.dropWhile (· ≠ .char 'i')).drop 1
    | none => []
  match spec.read (arguments.length + 2) (extra ++ others) with
  | .error reason =>
    report reason
    return 1
  | .ok given =>
    let files := given.options.filter fun option => option.1 = 'f'
    let scripts := given.options.filter fun option => option.1 = 'e' || option.1 = 'f'
    let (expressions, operands) : List Text × List Text :=
      if scripts.isEmpty then (given.operands.take 1, given.operands.drop 1)
      else (scripts.map Prod.snd, given.operands)
    let readings ← files.mapM fun option => return (option.2, ← bytesAt option.2)
    match readings.find? fun item => match item.2 with
        | .ok _ => false
        | .error _ => true with
    | some (path, .error errno) =>
      report ("couldn't open file " ++ path ++ ": " ++ errno.message)
      return 1
    | _ =>
      let texts := if scripts.isEmpty then expressions
        else scripts.map fun (letter, value) =>
          if letter = 'e' then value
          else
            match readings.lookup value with
            | some (.ok data) => Text.dropEnd (Text.bytewise data) (· = .char '\n')
            | _ => []
      match texts with
      | [] =>
        complain "Usage: sed [OPTION]... \x7bscript-only-if-no-other-script\x7d [input-file]..."
        return 1
      | first :: _ =>
        let joined := Text.join "\n" texts
        match Edit.ofText (given.has 'E' || given.has 'r') joined with
        | .error (place, reason) =>
          let (number, place) := if place = 0 then (1, 0) else flawPlace texts place
          report ("-e expression #" ++ Text.ofNat number ++ ", char " ++ Text.ofNat place ++ ": " ++ reason)
          return 1
        | .ok program =>
          match Edit.lostLabel? program with
          | some name =>
            report ("can't find label for jump to \x60" ++ name ++ "'")
            return 4
          | none =>
            let quiet := given.has 'n' || (first.take 3 = Text.ofString "#n\n") || first = Text.ofString "#n"
            let operands := if operands.isEmpty then [Text.ofString "-"] else operands
            let (parts, failed, _) ← operands.foldlM
              (fun (found : List (Text × List UInt8) × Nat × Bool) operand => do
                let (parts, failed, halted) := found
                if halted then return found
                match ← bytesOf operand with
                | .ok data => return (parts ++ [(operand, data)], failed, false)
                | .error errno =>
                  let faulty := errno = .isDirectory || errno = .badDescriptor
                  if faulty && inPlace.isEmpty then
                    let name := if operand = Text.ofString "-" then Text.ofString "stdin" else operand
                    report ("read error on " ++ name ++ ": " ++ errno.message)
                    return (parts, 4, true)
                  else if faulty then report ("couldn't edit " ++ operand ++ ": not a regular file")
                  else report ("can't read " ++ operand ++ ": " ++ errno.message)
                  return (parts, if inPlace.isEmpty then max failed 2 else 4, false)) ([], 0, false)
            (editTargets program).forM fun path => writeEdited [(path, [])]
            if inPlace.isEmpty && !given.has 's' then
              let data := parts.foldl (fun (found : List UInt8) item =>
                (if found.isEmpty || found.getLast? = some 10 then found else found ++ [10]) ++ item.2) []
              let s ← editLines program quiet ((parts.head?.map Prod.fst).getD "-") data
              if s.quit.isSome then onFrame fun f => { f with engaged := false }
              write s.out.reverse.flatten
              writeEdited s.files.reverse
              return match s.quit with
                | some status => status
                | none => failed
            else
              let statuses ← parts.mapM fun (path, data) => do
                let s ← editLines program quiet path data
                let out := s.out.reverse.flatten
                if inPlace.isEmpty then write out
                else
                  let umask := (← frame).umask
                  let rest := if s.quit.isSome then ofLines (s.ahead.map Text.encode) s.ended else []
                  if !ending.isEmpty then
                    let _ ← change fun disk cwd => Reach.writeFile disk cwd umask (path ++ ending) data
                  let _ ← change fun disk cwd => Reach.writeFile disk cwd umask path (out ++ rest)
                writeEdited s.files.reverse
                return s.quit.getD 0
              return if failed ≠ 0 then failed else (statuses.find? (· ≠ 0)).getD 0

end StageParity.Script.Tool
