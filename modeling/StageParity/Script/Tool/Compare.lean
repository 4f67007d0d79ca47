import StageParity.Digest.Md5
import StageParity.Digest.Sha1
import StageParity.Digest.Sha256
import StageParity.Script.Tool.Files

/-!
# Tools that compare files

Where files differ byte by byte and line by line, and digests by which files are checked.
-/

namespace StageParity.Script

namespace Tool

open Step

/-! ## Byte by byte -/

def differences : (place : Nat) → List UInt8 → List UInt8 → List (Nat × UInt8 × UInt8)
  | place, a :: as, b :: bs =>
    if a = b then differences (place + 1) as bs else (place, a, b) :: differences (place + 1) as bs
  | _, _, _ => []

def compareFiles (arguments : List Text) : Step Nat := do
  let spec := OptionSpec.of "sln:i:b"
    [("silent", 's'), ("quiet", 's'), ("verbose", 'l'), ("bytes", 'n'), ("ignore-initial", 'i'),
     ("print-bytes", 'b')]
  let misusedHere := fun (reason : Text) => do
    report reason
    report ("Try '" ++ (← frame).name ++ " --help' for more information.")
    return 2
  match spec.read (arguments.length + 1) arguments with
  | .error reason => misusedHere reason
  | .ok given =>
    match given.operands with
    | [] => misusedHere ("missing operand after " ++ alwaysQuoted (← frame).name)
    | first :: rest =>
      let second := rest.headD "-"
      let readA ← bytesOf first
      let readB ← bytesOf second
      match readA, readB with
      | .error errno, _ =>
        if !given.has 's' then report (first ++ ": " ++ errno.message)
        return 2
      | _, .error errno =>
        if !given.has 's' then report (second ++ ": " ++ errno.message)
        return 2
      | .ok a, .ok b =>
        let amount := fun (t : Option Text) => (t.bind amount?).getD 0
        let skipA := amount ((given.value? 'i').map fun t => (Text.splitFirst (.char ':') t).1) + amount rest[1]?
        let skipB := amount ((given.value? 'i').map fun t =>
          ((Text.splitFirst (.char ':') t).2).getD (Text.splitFirst (.char ':') t).1) + amount rest[2]?
        let limited := fun (data : List UInt8) => match (given.value? 'n').bind amount? with
          | some most => data.take most
          | none => data
        let a := limited (a.drop skipA)
        let b := limited (b.drop skipB)
        let found := differences 1 a b
        let shorter := if a.length < b.length then some (first, a) else if b.length < a.length then some (second, b)
          else none
        if given.has 's' then return if found.isEmpty && shorter.isNone then 0 else 1
        let tellEnd := do
          if let some (name, data) := shorter then
            if data.isEmpty then report ("EOF on " ++ name ++ " which is empty")
            else if given.has 'l' then
              report ("EOF on " ++ name ++ " after byte " ++ Text.ofNat data.length)
            else
              let lines := data.count 10
              let place : Text := if data.getLast? = some 10 then "line " ++ Text.ofNat lines
                else "in line " ++ Text.ofNat (lines + 1)
              report ("EOF on " ++ name ++ " after byte " ++ Text.ofNat data.length ++ ", " ++ place)
        if given.has 'l' then
          tellEnd
          let width := (Text.ofNat (max a.length b.length)).length
          found.forM fun (place, x, y) =>
            writeLine (rightAligned width place ++ " " ++ octal x ++ " " ++ octal y)
          return if found.isEmpty && shorter.isNone then 0 else 1
        else
          match found with
          | (place, x, y) :: _ =>
            let line := Text.ofNat ((a.take (place - 1)).count 10 + 1)
            let byte : Text := if given.has 'b' then "byte " else "char "
            let bytes : Text := if given.has 'b' then
                " is " ++ octal x ++ " " ++ Text.bytewise (signsOf x) ++ " " ++ octal y ++ " " ++
                  Text.bytewise (signsOf y)
              else []
            writeLine (first ++ " " ++ second ++ " differ: " ++ byte ++ Text.ofNat place ++ ", line " ++ line ++ bytes)
            return 1
          | [] =>
            tellEnd
            return if shorter.isNone then 0 else 1
where
  /-- A byte in base eight, in a field of three. -/
  octal (b : UInt8) : Text :=
    let digits := Nat.toDigits 8 b.toNat
    Text.ofChars (List.replicate (3 - digits.length) ' ' ++ digits)

/-! ## Line by line -/

/-- A change of a stretch of lines into another one, by the places where they start. -/
structure LineChange where
  firstPlace : Nat
  removed : List (List UInt8)
  secondPlace : Nat
  added : List (List UInt8)

/-- For each pair of ends of two lists, the length of the longest common part; one row for
each end of the first, the longest first. -/
def commonRows (same : List UInt8 → List UInt8 → Bool) (bs : List (List UInt8)) :
    List (List UInt8) → List (List Nat)
  | [] => [List.replicate (bs.length + 1) 0]
  | a :: as =>
    match commonRows same bs as with
    | [] => []
    | below :: rows =>
      let row := (bs.zip (below.zip (below.drop 1))).foldr (fun (b, here, diagonal) (row : List Nat) =>
        (if same a b then diagonal + 1 else max here (row.headD 0)) :: row) [0]
      row :: below :: rows

/-- The changes between two lists, with the rows of their common parts. -/
def changesFrom (same : List UInt8 → List UInt8 → Bool) : (fuel : Nat) → (i j : Nat) → List (List Nat) →
    List (List UInt8) → List (List UInt8) → (current : Option LineChange) → List LineChange
  | 0, _, _, _, _, _, current => current.toList
  | fuel + 1, i, j, rows, as, bs, current =>
    let change := current.getD ⟨i, [], j, []⟩
    let value := fun (down right : Nat) => ((rows[down]?).getD []).getD (j + right) 0
    match as, bs with
    | [], [] => current.toList
    | a :: as', b :: bs' =>
      if same a b then
        current.toList ++ changesFrom same fuel (i + 1) (j + 1) (rows.drop 1) as' bs' none
      else if value 0 1 ≤ value 1 0 then
        changesFrom same fuel (i + 1) j (rows.drop 1) as' bs (some { change with removed := change.removed ++ [a] })
      else changesFrom same fuel i (j + 1) rows as bs' (some { change with added := change.added ++ [b] })
    | a :: as', [] =>
      changesFrom same fuel (i + 1) j (rows.drop 1) as' [] (some { change with removed := change.removed ++ [a] })
    | [], b :: bs' =>
      changesFrom same fuel i (j + 1) rows [] bs' (some { change with added := change.added ++ [b] })

def endedLines (data : List UInt8) : List (List UInt8) :=
  let (lines, ended) := linesOf data
  lines.zipIdx.map fun (line, i) => if ended || i + 1 < lines.length then line ++ [10] else line

def changeLine (mark : String) (line : List UInt8) : List UInt8 :=
  raw mark ++ (if line.getLast? = some 10 then line else line ++ raw "\n\\ No newline at end of file\n")

def lineRange (place count : Nat) : Text :=
  if count = 0 then Text.ofNat place
  else if count = 1 then Text.ofNat (place + 1)
  else Text.ofNat (place + 1) ++ "," ++ Text.ofNat (place + count)

def changeBytes (c : LineChange) : List UInt8 :=
  let letter : Text := if c.removed.isEmpty then "a" else if c.added.isEmpty then "d" else "c"
  (lineRange c.firstPlace c.removed.length ++ letter ++ lineRange c.secondPlace c.added.length).encode ++ [10] ++
    c.removed.flatMap (changeLine "< ") ++
    (if c.removed.isEmpty || c.added.isEmpty then [] else raw "---\n") ++ c.added.flatMap (changeLine "> ")

/-- Groups of changes that stand close together. -/
def closeChanges (context : Nat) : List LineChange → List (List LineChange)
  | [] => []
  | c :: rest =>
    match closeChanges context rest with
    | [] => [[c]]
    | group :: groups =>
      match group with
      | next :: _ =>
        if next.firstPlace ≤ c.firstPlace + c.removed.length + 2 * context then (c :: group) :: groups
        else [c] :: group :: groups
      | [] => [c] :: groups

def hunkBytes (context : Nat) (as : List (List UInt8)) (group : List LineChange) : List UInt8 :=
  match group, group.getLast? with
  | first :: _, some last =>
    let low := first.firstPlace - context
    let lead := first.firstPlace - low
    let high := min as.length (last.firstPlace + last.removed.length + context)
    let trail := high - (last.firstPlace + last.removed.length)
    let lowB := first.secondPlace - lead
    let highB := last.secondPlace + last.added.length + trail
    let range := fun (low high : Nat) =>
      let count := high - low
      if count = 1 then Text.ofNat (low + 1)
      else Text.ofNat (if count = 0 then low else low + 1) ++ "," ++ Text.ofNat count
    let (body, place) := group.foldl (fun (found : List UInt8 × Nat) c =>
      let kept := (as.drop found.2).take (c.firstPlace - found.2)
      (found.1 ++ kept.flatMap (changeLine " ") ++ c.removed.flatMap (changeLine "-") ++
        c.added.flatMap (changeLine "+"), c.firstPlace + c.removed.length)) (([] : List UInt8), low)
    let after := (as.drop place).take (high - place)
    ("@@ -" ++ range low high ++ " +" ++ range lowB highB ++ " @@").encode ++ [10] ++ body ++
      after.flatMap (changeLine " ")
  | _, _ => []

/-- A line as comparisons with options see it. -/
def comparedLine (given : Given) (line : List UInt8) : List UInt8 :=
  let line := if given.has 'i' then line.map fun b => if 65 ≤ b && b ≤ 90 then b + 32 else b else line
  if given.has 'w' then line.filter fun b => !(isSpaceByte b && b ≠ 10)
  else if given.has 'b' then
    let kept := line.foldl (fun (found : List UInt8) b =>
      if isSpaceByte b && b ≠ 10 then (if found.head? = some 32 then found else 32 :: found)
      else if b = 10 && found.head? = some 32 then 10 :: found.drop 1 else b :: found) []
    kept.reverse
  else line

def diff (arguments : List Text) : Step Nat := do
  let spec := OptionSpec.of "qsuU:cC:iwbBrNae"
    [("brief", 'q'), ("report-identical-files", 's'), ("unified", 'u'), ("ignore-case", 'i'),
     ("ignore-all-space", 'w'), ("ignore-space-change", 'b'), ("recursive", 'r'), ("new-file", 'N')]
  let misusedHere := fun (reason : Text) => do
    report reason
    report ("Try '" ++ (← frame).name ++ " --help' for more information.")
    return 2
  match spec.read (arguments.length + 1) arguments with
  | .error reason => misusedHere reason
  | .ok given =>
    match given.operands with
    | [] => misusedHere ("missing operand after " ++ alwaysQuoted (← frame).name)
    | [only] => misusedHere ("missing operand after " ++ alwaysQuoted only)
    | _ :: _ :: extra :: _ => misusedHere ("extra operand " ++ alwaysQuoted extra)
    | [first, second] =>
      let firstIsDirectory ← isDirectoryAt first
      let secondIsDirectory ← isDirectoryAt second
      let first' := if firstIsDirectory && !secondIsDirectory then nameIn first (baseName second) else first
      let second' := if secondIsDirectory && !firstIsDirectory then nameIn second (baseName first) else second
      let readA ← bytesOf first'
      let readB ← bytesOf second'
      let complaints := [(first', readA), (second', readB)].filterMap fun (name, result) => match result with
        | .error errno => some (name ++ ": " ++ errno.message)
        | .ok _ => none
      complaints.forM report
      match readA, readB with
      | .ok a, .ok b =>
        if a = b then
          if given.has 's' then writeLine ("Files " ++ first' ++ " and " ++ second' ++ " are identical")
          return 0
        else if a.contains 0 || b.contains 0 then
          writeLine ((if given.has 'q' then Text.ofString "Files " else "Binary files ") ++ first' ++ " and " ++
            second' ++ " differ")
          return 2
        else
          let as := endedLines a
          let bs := endedLines b
          let same := fun (x y : List UInt8) => comparedLine given x == comparedLine given y
          let changes := changesFrom same (as.length + bs.length + 2) 0 0 (commonRows same bs as) as bs none
          if changes.isEmpty then
            if given.has 's' then writeLine ("Files " ++ first' ++ " and " ++ second' ++ " are identical")
            return 0
          else if given.has 'q' then
            writeLine ("Files " ++ first' ++ " and " ++ second' ++ " differ")
            return 1
          else if given.has 'u' || given.has 'U' then
            let context := ((given.value? 'U').bind digits?).getD 3
            let time : Text := "\t1970-01-01 00:00:00.000000000 +0000"
            writeLine ("--- " ++ first' ++ time)
            writeLine ("+++ " ++ second' ++ time)
            write ((closeChanges context changes).flatMap (hunkBytes context as))
            return 1
          else
            write (changes.flatMap changeBytes)
            return 1
      | _, _ => return 2

/-! ## Digests -/

/-- Check files against a list of digests. -/
def checkSums (given : Given) (hex : List UInt8 → Text) : Step Nat := do
  let (data, status) ← allBytes given.operands
  let lines := (linesOf data).1.map Text.bytewise
  let results ← lines.mapM fun line => do
    let (sum, rest) := Text.splitFirst (.char ' ') line
    match rest with
    | some (_ :: name) =>
      match ← bytesOf name with
      | .ok found =>
        let fine := decide (hex found = sum)
        if !(given.has 'S') && !(fine && given.has 'q') then
          writeLine (name ++ ": " ++ (if fine then Text.ofString "OK" else "FAILED"))
        return some (fine, true)
      | .error errno =>
        report (shownName name ++ ": " ++ errno.message)
        if !given.has 'S' then writeLine (name ++ ": FAILED open or read")
        return some (true, false)
    | _ => return none
  let checked := results.filterMap id
  let wrong := checked.countP fun r => !r.1
  let unread := checked.countP fun r => !r.2
  let tell := fun (count : Nat) (one many : String) => do
    if 0 < count && !given.has 'S' then
      report ("WARNING: " ++ Text.ofNat count ++ " " ++ Text.ofString (if count = 1 then one else many))
  tell unread "listed file could not be read" "listed files could not be read"
  tell wrong "computed checksum did NOT match" "computed checksums did NOT match"
  return if wrong = 0 && unread = 0 && status = 0 then 0 else 1

def digests (label : String) (hex : List UInt8 → Text) (arguments : List Text) : Step Nat :=
  let spec := OptionSpec.of "bctzwqST"
    [("check", 'c'), ("binary", 'b'), ("text", 't'), ("status", 'S'), ("quiet", 'q'), ("tag", 'T')]
  withOptions spec 1 arguments fun given => do
    if given.has 'c' then checkSums given hex
    else
      let operands := if given.operands.isEmpty then [Text.ofString "-"] else given.operands
      forEach operands fun operand => do
        match ← wholeBytesOf operand with
        | .ok data =>
          if given.has 'T' then writeLine (Text.ofString label ++ " (" ++ operand ++ ") = " ++ hex data)
          else writeLine (hex data ++ (if given.has 'b' then Text.ofString " *" else "  ") ++ operand)
          return true
        | .error errno =>
          report (shownName operand ++ ": " ++ errno.message)
          if operand = Text.ofString "-" && errno = .badDescriptor then
            report ("standard input: " ++ errno.message)
          return false

/-! ## Base 64 -/

def base64Digits : List Char :=
  "ABCDEFGHIJKLMNOPQRSTUVWXYZabcdefghijklmnopqrstuvwxyz0123456789+/".toList

def base64Text : List UInt8 → List Char
  | [] => []
  | a :: rest =>
    let digit := fun (n : Nat) => base64Digits.getD (n % 64) '='
    match rest with
    | [] => [digit (a.toNat / 4), digit (a.toNat * 16), '=', '=']
    | [b] => [digit (a.toNat / 4), digit (a.toNat * 16 + b.toNat / 16), digit (b.toNat * 4), '=']
    | b :: c :: rest =>
      [digit (a.toNat / 4), digit (a.toNat * 16 + b.toNat / 16), digit (b.toNat * 4 + c.toNat / 64),
        digit c.toNat] ++ base64Text rest

/-- The bytes of digits in base 64, as many as are well formed. -/
def base64Bytes : List Char → List UInt8 × Bool
  | a :: b :: c :: d :: rest =>
    let value := fun (x : Char) => base64Digits.findIdx? (· == x)
    match value a, value b, value c, value d with
    | some i, some j, some k, some l =>
      let n := ((i * 64 + j) * 64 + k) * 64 + l
      let (more, fine) := base64Bytes rest
      (UInt8.ofNat (n / 65536) :: UInt8.ofNat (n / 256) :: UInt8.ofNat n :: more, fine)
    | some i, some j, some k, none =>
      let n := ((i * 64 + j) * 64 + k) * 64
      ([UInt8.ofNat (n / 65536), UInt8.ofNat (n / 256)], d = '=' && rest.isEmpty)
    | some i, some j, none, none =>
      ([UInt8.ofNat ((i * 64 + j) / 16)], c = '=' && d = '=' && rest.isEmpty)
    | _, _, _, _ => ([], false)
  | [] => ([], true)
  | _ => ([], false)

def piecesOf {α : Type} (size : Nat) : (fuel : Nat) → List α → List (List α)
  | 0, _ => []
  | _, [] => []
  | fuel + 1, data => data.take size :: piecesOf size fuel (data.drop size)

def base64 (arguments : List Text) : Step Nat :=
  let spec := OptionSpec.of "dw:i" [("decode", 'd'), ("wrap", 'w'), ("ignore-garbage", 'i')]
  withOptions spec 1 arguments fun given => do
    match ← bytesOf (given.operands.headD "-") with
    | .error errno =>
      let operand := given.operands.headD "-"
      report ((if errno = .notFound then shownName operand else Text.ofString "read error") ++ ": " ++ errno.message)
      return 1
    | .ok data =>
      if given.has 'd' then
        let cs := (data.filter (· ≠ 10)).map fun b => Char.ofNat b.toNat
        let (bytes, fine) := base64Bytes cs
        write bytes
        if fine then return 0
        else
          report "invalid input"
          return 1
      else
        let cs := base64Text data
        let width := ((given.value? 'w').bind digits?).getD 76
        if width = 0 then write (Text.ofChars cs).encode
        else (piecesOf width (cs.length + 1) cs).forM fun line => writeLine (Text.ofChars line)
        return 0

end Tool

end StageParity.Script
