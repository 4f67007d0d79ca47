import StageParity.Script.Tool.Show

/-!
# Tools for lines and fields

Repeated lines, fields of lines, lines side by side, and other bytes in place of some.
-/

namespace StageParity.Script

namespace Tool

open Step

/-! ## Repeated lines -/

/-- A line after some fields and bytes, in which letters may be equal. -/
def comparedPart (fields bytes : Nat) (most : Option Nat) (anyCase : Bool) (line : List UInt8) : List UInt8 :=
  let isBlank := fun (b : UInt8) => b = 32 || b = 9
  let rest := fields.repeat (fun rest => (rest.dropWhile isBlank).dropWhile fun b => !isBlank b) line
  let rest := rest.drop bytes
  let rest := match most with
    | some most => rest.take most
    | none => rest
  if anyCase then rest.map fun b => if 65 ≤ b && b ≤ 90 then b + 32 else b else rest

/-- Groups of lines that follow one another and have the same key: the first line of each,
and how many there are. -/
def groupsOf (key : List UInt8 → List UInt8) : List (List UInt8) → List (List UInt8 × List (List UInt8))
  | [] => []
  | line :: rest =>
    match groupsOf key rest with
    | (first, more) :: groups =>
      if key line = key first then (line, first :: more) :: groups else (line, []) :: (first, more) :: groups
    | [] => [(line, [])]

def unique (arguments : List Text) : Step Nat :=
  let spec := OptionSpec.of "cdDuif:s:w:z"
    [("count", 'c'), ("repeated", 'd'), ("unique", 'u'), ("ignore-case", 'i'), ("skip-fields", 'f'),
     ("skip-chars", 's'), ("check-chars", 'w')]
  withOptions spec 1 arguments fun given => do
    let number := fun (letter : Char) => (given.value? letter).bind digits?
    let key := comparedPart ((number 'f').getD 0) ((number 's').getD 0) (number 'w') (given.has 'i')
    match ← wholeBytesOf (given.operands.headD "-") with
    | .error errno =>
      let name := given.operands.headD "-"
      if errno = .isDirectory || errno = .badDescriptor then report ("error reading " ++ alwaysQuoted name ++ ": " ++ errno.message)
      else report (shownName name ++ ": " ++ errno.message)
      return 1
    | .ok data =>
      let groups := groupsOf key (linesOf data).1
      let chosen := groups.filter fun item =>
        if given.has 'D' then !item.2.isEmpty
        else !(given.has 'd' && item.2.isEmpty) && !(given.has 'u' && !item.2.isEmpty)
      let lines := chosen.flatMap fun (line, more) =>
        if given.has 'D' then line :: more
        else if given.has 'c' then [(rightAligned 7 (more.length + 1)).encode ++ 32 :: line]
        else [line]
      match given.operands with
      | [_, target] =>
        let umask := (← frame).umask
        match ← change fun disk cwd => Reach.writeFile disk cwd umask target (ofLines lines true) with
        | .ok () => return 0
        | .error errno =>
          report (shownName target ++ ": " ++ errno.message)
          return 1
      | _ :: _ :: extra :: _ => misused 1 ("extra operand " ++ alwaysQuoted extra)
      | _ =>
        write (ofLines lines true)
        return 0

/-! ## Fields -/

def inRanges (ranges : List (Nat × Option Nat)) (n : Nat) : Bool :=
  ranges.any fun range => range.1 ≤ n && range.2.all fun high => n ≤ high

def rangesOf (what : String) (t : Text) : Except Text (List (Nat × Option Nat)) :=
  let parts := (Text.splitOn (.char ',') (t.map fun g => if g = .char ' ' || g = .char '\t' then .char ',' else g))
  parts.mapM fun part => do
    let fields := what = "field"
    let bad : Text := if fields then "invalid field value " ++ alwaysQuoted part
      else "invalid byte/character position " ++ alwaysQuoted part
    let zero : Text := if fields then "fields are numbered from 1" else "byte/character positions are numbered from 1"
    let badRange : Text := if fields then "invalid field range" else "invalid byte or character range"
    let number := fun (t : Text) => match digits? t with
      | some n => if n = 0 then throw zero else pure n
      | none => throw bad
    match Text.splitFirst (.char '-') part with
    | (low, none) =>
      if part.isEmpty then throw zero
      let n ← number low
      return (n, some n)
    | ([], some []) => throw ("invalid range with no endpoint: -" : Text)
    | ([], some high) => return (1, some (← number high))
    | (low, some []) => return (← number low, none)
    | (low, some high) =>
      if high.contains (.char '-') then throw badRange
      let a ← number low
      let b ← number high
      if b < a then throw ("invalid decreasing range" : Text)
      return (a, some b)

def cut (arguments : List Text) : Step Nat :=
  let spec := OptionSpec.of "b:c:f:d:nszo:v"
    [("bytes", 'b'), ("characters", 'c'), ("fields", 'f'), ("delimiter", 'd'), ("only-delimited", 's'),
     ("output-delimiter", 'o'), ("complement", 'v')]
  withOptions spec 1 arguments fun given => do
    let lists := given.options.filter fun option => ['b', 'c', 'f'].contains option.1
    match lists with
    | [] => misused 1 "you must specify a list of bytes, characters, or fields"
    | _ :: _ :: _ => misused 1 "only one list may be specified"
    | [(letter, list)] =>
      let fields := letter = 'f'
      let mark := given.value? 'd'
      if mark.any fun t => 1 < t.length then misused 1 "the delimiter must be a single character"
      else if !fields && mark.isSome then
        misused 1 "an input delimiter may be specified only when operating on fields"
      else if !fields && given.has 's' then
        misused 1 "suppressing non-delimited lines makes sense\n\tonly when operating on fields"
      else
        match rangesOf (if fields then "field" else "byte") list with
        | .error reason => misused 1 reason
        | .ok ranges =>
          let chosen := fun (n : Nat) => inRanges ranges n != given.has 'v'
          let separator : UInt8 := match mark with
            | some t => t.encode.headD 0
            | none => 9
          let between := match given.value? 'o' with
            | some t => t.encode
            | none => if fields then [separator] else []
          throughEach given.operands () fun () data => do
            let out := (linesOf data).1.filterMap fun line =>
              if fields then
                let parts := splitBytes separator line
                if parts.length = 1 then (if given.has 's' then none else some line)
                else
                  let found := (parts.zipIdx.filter fun item => chosen (item.2 + 1)).map Prod.fst
                  some (found.intersperse between).flatten
              else
                let found := line.zipIdx.filter fun item => chosen (item.2 + 1)
                some (runs between found)
            write (ofLines out true)
where
  splitBytes (mark : UInt8) (line : List UInt8) : List (List UInt8) :=
    match line with
    | [] => [[]]
    | b :: rest =>
      match splitBytes mark rest with
      | part :: parts => if b = mark then [] :: part :: parts else (b :: part) :: parts
      | [] => [[b]]
  /-- Chosen bytes, with something between those that do not follow one another. -/
  runs (between : List UInt8) : List (UInt8 × Nat) → List UInt8
    | [] => []
    | [(b, _)] => [b]
    | (b, i) :: (c, j) :: rest =>
      b :: (if j = i + 1 then [] else between) ++ runs between ((c, j) :: rest)

/-- The delimiters of a list, in which a backslash can stand for special ones. -/
def delimitersOf : Text → List (List UInt8)
  | .char '\\' :: .char 'n' :: rest => [10] :: delimitersOf rest
  | .char '\\' :: .char 't' :: rest => [9] :: delimitersOf rest
  | .char '\\' :: .char '0' :: rest => [] :: delimitersOf rest
  | .char '\\' :: g :: rest => g.encode :: delimitersOf rest
  | g :: rest => g.encode :: delimitersOf rest
  | [] => []

def joinedInTurn (delimiters : List (List UInt8)) : (turn : Nat) → List (List UInt8) → List UInt8
  | _, [] => []
  | _, [part] => part
  | turn, part :: rest =>
    part ++ (delimiters.getD (turn % delimiters.length) []) ++ joinedInTurn delimiters (turn + 1) rest

def paste (arguments : List Text) : Step Nat :=
  let spec := OptionSpec.of "d:sz" [("delimiters", 'd'), ("serial", 's')]
  withOptions spec 1 arguments fun given => do
    let delimiters := match delimitersOf ((given.value? 'd').getD "\t") with
      | [] => [[]]
      | found => found
    let operands := if given.operands.isEmpty then [Text.ofString "-"] else given.operands
    let dashes := operands.countP (· = Text.ofString "-")
    if !given.has 's' && 1 < dashes then
      let shared := match ← drain 0 with
        | .ok data => (linesOf data).1
        | .error _ => []
      let (others, fine) ← eachBytes (operands.filter (· ≠ Text.ofString "-"))
      if !fine && 0 < operands.length - dashes then return 1
      let rows := (shared.length + dashes - 1) / dashes
      let out := (List.range rows).map fun i =>
        let (parts, _, _) := operands.foldl (fun (found, fromInput, fromFiles) operand =>
          if operand = Text.ofString "-" then
            (found ++ [shared.getD (i * dashes + fromInput) []], fromInput + 1, fromFiles)
          else
            let lines := ((others[fromFiles]?).map fun item => (linesOf item.2).1).getD []
            (found ++ [lines.getD i []], fromInput, fromFiles + 1)) (([] : List (List UInt8)), 0, 0)
        joinedInTurn delimiters 0 parts
      write (ofLines out true)
      return 0
    else
      let (parts, fine) ← eachBytes operands
      if !fine && !given.has 's' then return 1
      let columns := parts.map fun item => (linesOf item.2).1
      let out := if given.has 's' then columns.map (joinedInTurn delimiters 0)
        else
          let rows := (columns.map List.length).foldl max 0
          (List.range rows).map fun i => joinedInTurn delimiters 0 (columns.map fun column => column.getD i [])
      write (ofLines out true)
      return if fine then 0 else 1

/-- The lines of two sorted files, in columns: only in the first, only in the second, and in
both. -/
def merged : (fuel : Nat) → List (List UInt8) → List (List UInt8) → List (Nat × List UInt8)
  | 0, _, _ => []
  | _, [], bs => bs.map fun b => (2, b)
  | _, as, [] => as.map fun a => (1, a)
  | fuel + 1, a :: as, b :: bs =>
    if a = b then (3, a) :: merged fuel as bs
    else if a < b then (1, a) :: merged fuel as (b :: bs) else (2, b) :: merged fuel (a :: as) bs

def comm (arguments : List Text) : Step Nat :=
  withOptions (OptionSpec.of "123" []) 1 arguments fun given => do
    match given.operands with
    | [first, second] =>
      match ← bytesOf first, ← bytesOf second with
      | .ok a, .ok b =>
        let as := (linesOf a).1
        let bs := (linesOf b).1
        let shows := fun (column : Nat) => !given.has (Nat.digitChar column)
        let out := (merged (as.length + bs.length + 1) as bs).filterMap fun (column, line) =>
          if shows column then
            let tabs := ((List.range column).filter fun c => 0 < c && shows c).length
            some (List.replicate tabs 9 ++ line)
          else none
        write (ofLines out true)
        return 0
      | .error errno, _ =>
        report (shownName first ++ ": " ++ errno.message)
        return 1
      | _, .error errno =>
        report (shownName second ++ ": " ++ errno.message)
        return 1
    | [] => misused 1 "missing operand"
    | [only] => misused 1 ("missing operand after " ++ alwaysQuoted only)
    | _ :: _ :: extra :: _ => misused 1 ("extra operand " ++ alwaysQuoted extra)

end Tool

end StageParity.Script
