import StageParity.Script.Tool.Basic

/-!
# Tools that show files

Whole files, their beginnings and ends, their lines in other orders, and their counts.
-/

namespace StageParity.Script

namespace Tool

open Step

def raw (s : String) : List UInt8 := s.toUTF8.toList

/-! ## Whole files -/

/-- A byte that cannot be shown, by signs that can. -/
def signsOf (b : UInt8) : List UInt8 :=
  let low := fun (b : UInt8) => if b < 32 then [94, b + 64] else if b = 127 then [94, 63] else [b]
  if b < 128 then low b else raw "M-" ++ low (b - 128)

structure Showing where
  numbers : Bool
  /-- Whether only lines that are not empty have numbers. -/
  onlyFull : Bool
  squeezed : Bool
  ends : Bool
  tabs : Bool
  visible : Bool

def Showing.line (s : Showing) (line : List UInt8) (ended : Bool) : List UInt8 :=
  let body := line.flatMap fun b =>
    if b = 9 then (if s.tabs then raw "^I" else [9])
    else if s.visible then signsOf b else [b]
  let body := if s.ends && !s.visible && ended && line.getLast? = some 13 then body.dropLast ++ raw "^M"
    else body
  body ++ (if ended then (if s.ends then [36, 10] else [10]) else [])

def Showing.lines (s : Showing) (ended : Bool) : (number : Nat) → (afterEmpty : Bool) →
    List (List UInt8) → List (List UInt8)
  | _, _, [] => []
  | number, afterEmpty, line :: rest =>
    if s.squeezed && afterEmpty && line.isEmpty then s.lines ended number true rest
    else
      let counted := s.numbers && !(s.onlyFull && line.isEmpty)
      let front := if counted then (rightAligned 6 number).encode ++ [9] else []
      (front ++ s.line line (ended || !rest.isEmpty)) ::
        s.lines ended (if counted then number + 1 else number) line.isEmpty rest

def cat (arguments : List Text) : Step Nat :=
  let spec := OptionSpec.of "AbeEnstTuv"
    [("show-all", 'A'), ("number-nonblank", 'b'), ("show-ends", 'E'), ("number", 'n'),
     ("squeeze-blank", 's'), ("show-tabs", 'T'), ("show-nonprinting", 'v')]
  withOptions spec 1 arguments fun given => do
    let any := fun (letters : List Char) => letters.any given.has
    let s : Showing :=
      { numbers := any ['n', 'b'], onlyFull := given.has 'b', squeezed := given.has 's',
        ends := any ['A', 'e', 'E'], tabs := any ['A', 't', 'T'], visible := any ['A', 'e', 't', 'v'] }
    let changes := s.numbers || s.squeezed || s.ends || s.tabs || s.visible
    let shown := fun (data : List UInt8) =>
      if changes then
        let (lines, ended) := linesOf data
        (s.lines ended 1 false lines).flatten
      else data
    let operands := if given.operands.isEmpty then [Text.ofString "-"] else given.operands
    let (_, _, status) ← operands.foldlM (fun (before, written, status) operand => do
      let plainInput := if changes then none else operandDescriptor? operand
      let result ← match plainInput with
        | some descriptor => pure ((← passOn descriptor write).map fun () => [])
        | none => bytesOf operand
      match result with
      | .ok data =>
        let data := before ++ data
        let out := shown data
        write (out.drop written)
        return (data, out.length, status)
      | .error errno =>
        report (shownName operand ++ ": " ++ errno.message)
        return (before, written, 1)) ([], 0, 0)
    if operands.contains (Text.ofString "-") && (← input? 0).isNone then
      report ("closing standard input: " ++ Errno.badDescriptor.message)
    return status

/-- Read the operands and name those that cannot be read; then write what is made of the
others. -/
def afterComplaints (operands : List Text) (complaint : Text → Errno → Text)
    (made : List UInt8 → List UInt8) : Step Nat := do
  let operands := if operands.isEmpty then [Text.ofString "-"] else operands
  let results ← operands.mapM fun operand => do
    match ← wholeBytesOf operand with
    | .ok data => return some (made data)
    | .error errno =>
      report (complaint operand errno)
      if operand = Text.ofString "-" && errno = .badDescriptor then report ("-: " ++ errno.message)
      return none
  write (results.filterMap id).flatten
  return if results.all Option.isSome then 0 else 1

def tac (arguments : List Text) : Step Nat :=
  withOptions (OptionSpec.of "" []) 1 arguments fun given => do
    let complaint := fun (operand : Text) (errno : Errno) =>
      let name := if operand = Text.ofString "-" then alwaysQuoted "standard input" else shownName operand
      if errno = .isDirectory then name ++ ": read error: Invalid argument"
      else if errno = .badDescriptor then name ++ ": read error: " ++ errno.message
      else "failed to open " ++ alwaysQuoted operand ++ " for reading: " ++ errno.message
    afterComplaints given.operands complaint fun data =>
      let (lines, ended) := linesOf data
      match lines.reverse with
      | last :: rest => if ended then ofLines (last :: rest) true else last ++ ofLines rest true
      | [] => []

def rev (arguments : List Text) : Step Nat :=
  withOptions (OptionSpec.of "" []) 1 arguments fun given => do
    let complaint := fun (operand : Text) (errno : Errno) => "cannot open " ++ operand ++ ": " ++ errno.message
    afterComplaints given.operands complaint fun data =>
      let (lines, ended) := linesOf data
      ofLines (lines.map List.reverse) ended

def numberLines (arguments : List Text) : Step Nat :=
  let spec := OptionSpec.of "b:w:s:v:i:n:"
    [("body-numbering", 'b'), ("number-width", 'w'), ("number-separator", 's'),
     ("starting-line-number", 'v'), ("line-increment", 'i'), ("number-format", 'n')]
  withOptions spec 1 arguments fun given => do
    let number := fun (letter : Char) (standard : Nat) =>
      ((given.value? letter).bind digits?).getD standard
    let width := number 'w' 6
    let separator := (given.value? 's').getD "\t"
    let style := (given.value? 'b').getD "t"
    let shape := (given.value? 'n').getD "rn"
    throughEach given.operands (number 'v' 1) fun first data => do
      let (out, next) := (linesOf data).1.foldl (fun (found : List (List UInt8) × Nat) line =>
        let counted := style = Text.ofString "a" || (style = Text.ofString "t" && !line.isEmpty)
        if counted then
          let digits := Text.ofNat found.2
          let missing := width - digits.length
          let shown : Text :=
            if shape = Text.ofString "ln" then digits ++ List.replicate missing (.char ' ')
            else if shape = Text.ofString "rz" then List.replicate missing (.char '0') ++ digits
            else List.replicate missing (.char ' ') ++ digits
          (((shown ++ separator).encode ++ line) :: found.1, found.2 + number 'i' 1)
        else
          ((List.replicate (width + separator.length) 32 ++ line) :: found.1, found.2)) ([], first)
      write (ofLines out.reverse true)
      return next

/-! ## Beginnings and ends -/

/-- An amount of lines or bytes: so many, or all but so many, or all from a place on. -/
structure Amount where
  lines : Bool
  count : Nat
  /-- Whether the amount is counted from the other side. -/
  opposite : Bool

def Amount.head (a : Amount) (data : List UInt8) : List UInt8 :=
  if a.lines then
    let (lines, ended) := linesOf data
    let count := if a.opposite then lines.length - a.count else a.count
    ofLines (lines.take count) (ended || count < lines.length)
  else data.take (if a.opposite then data.length - a.count else a.count)

def Amount.tail (a : Amount) (data : List UInt8) : List UInt8 :=
  if a.lines then
    let (lines, ended) := linesOf data
    ofLines (lines.drop (if a.opposite then a.count - 1 else lines.length - a.count)) ended
  else data.drop (if a.opposite then a.count - 1 else data.length - a.count)

/-- The amount that a value asks for, with the sign that turns it round. -/
def amountOf (sign : Char) (lines : Bool) (t : Text) : Except Text Amount :=
  let (opposite, body) := match t with
    | .char c :: rest =>
      if c = sign then (true, rest) else if c = '-' || c = '+' then (false, rest) else (false, t)
    | _ => (false, t)
  match amount? body with
  | some count => .ok ⟨lines, count, opposite⟩
  | none =>
    .error ("invalid number of " ++ (if lines then Text.ofString "lines" else "bytes") ++ ": " ++ alwaysQuoted t)

/-- The words with an old-fashioned first one, such as a dash and a number, spelled out. -/
def spelledOut (plus : Bool) (arguments : List Text) : List Text :=
  match arguments with
  | (.char sign :: g :: rest) :: more =>
    if (sign = '-' || (plus && sign = '+')) && Reading.isDigit g then
      let digits := (g :: rest).takeWhile Reading.isDigit
      let letter : Text := if (g :: rest).contains (.char 'c') then "-c" else "-n"
      letter :: (if sign = '+' then .char '+' :: digits else digits) :: more
    else arguments
  | _ => arguments

/-- Write part of each operand, with titles if there are several. `failure` is what fails
on an input that is closed. -/
def writeParts (given : Given) (failure : Text) (part : Text → Step (Except Errno (List UInt8))) :
    Step Nat := do
  let operands := if given.operands.isEmpty then [Text.ofString "-"] else given.operands
  let titled := match given.last? ['q', 'v'] with
    | some 'q' => false
    | some _ => true
    | none => 1 < operands.length
  let results ← (operands.zip (List.range operands.length)).mapM fun (operand, i) => do
    let name := if operand = Text.ofString "-" then Text.ofString "standard input" else operand
    let title := do
      if titled then
        write ((if i = 0 then [] else [10]) ++ (("==> " ++ name ++ " <==").encode ++ [10]))
    match ← part operand with
    | .ok data =>
      title
      write data
      return true
    | .error errno =>
      if errno = .isDirectory then
        title
        report ("error reading " ++ alwaysQuoted name ++ ": " ++ errno.message)
      else if operand = Text.ofString "-" then
        title
        report (failure ++ " " ++ alwaysQuoted name ++ ": " ++ errno.message)
        report ("-: " ++ errno.message)
      else report ("cannot open " ++ alwaysQuoted operand ++ " for reading: " ++ errno.message)
      return false
  return if results.all id then 0 else 1

/-- The beginning of the input of a descriptor. What a file still holds after it is left
there. -/
def headOfInput (a : Amount) (descriptor : Nat) : Step (Except Errno (List UInt8)) := do
  match ← input? descriptor with
  | none => return .error .badDescriptor
  | some (index, input) =>
    if let some errno := input.fault then return .error errno
    let data := a.head input.rest
    let drained := input.drained || a.head (input.rest ++ [10]) ≠ data
    if drained then awaitUntil true input.endsAt
    takeFrom index { input with drained } data.length
    if !input.isFile then setInput index { input with pieces := [], drained }
    return .ok data

def head (arguments : List Text) : Step Nat :=
  let spec := OptionSpec.of "n:c:qv"
    [("lines", 'n'), ("bytes", 'c'), ("quiet", 'q'), ("silent", 'q'), ("verbose", 'v')]
  withOptions spec 1 (spelledOut false arguments) fun given => do
    let letter := given.last? ['n', 'c']
    match amountOf '-' (letter ≠ some 'c') ((letter.bind given.value?).getD "10") with
    | .error reason =>
      report reason
      return 1
    | .ok a =>
      writeParts given "error reading" fun operand => do
        match operandDescriptor? operand with
        | some descriptor => headOfInput a descriptor
        | none =>
          let result ← bytesAt operand
          onFrame fun f => { f with engaged := false }
          return result.map a.head

def tail (arguments : List Text) : Step Nat :=
  let spec := OptionSpec.of "n:c:qvfF"
    [("lines", 'n'), ("bytes", 'c'), ("quiet", 'q'), ("silent", 'q'), ("verbose", 'v'), ("follow", 'f')]
  withOptions spec 1 (spelledOut true arguments) fun given => do
    let letter := given.last? ['n', 'c']
    match amountOf '+' (letter ≠ some 'c') ((letter.bind given.value?).getD "10") with
    | .error reason =>
      report reason
      return 1
    | .ok a =>
      let status ← writeParts given "cannot fstat" fun operand => do return (← wholeBytesOf operand).map a.tail
      if given.has 'f' || given.has 'F' then sleepUntil forever
      return status

/-! ## Counts -/

/-- The counts of a file: lines, words, bytes, and the length of the longest line. -/
structure Counts where
  lines : Nat
  words : Nat
  bytes : Nat
  longest : Nat

def Counts.add (a b : Counts) : Counts :=
  ⟨a.lines + b.lines, a.words + b.words, a.bytes + b.bytes, max a.longest b.longest⟩

def isSpaceByte (b : UInt8) : Bool := b = 32 || (9 ≤ b && b ≤ 13)

/-- The number of words, after a byte that was part of one or not. -/
def wordCount : (inWord : Bool) → (found : Nat) → List UInt8 → Nat
  | _, found, [] => found
  | inWord, found, b :: rest =>
    if isSpaceByte b then wordCount false found rest
    else wordCount true (if inWord then found else found + 1) rest

/-- The width of a line, in which a tab goes to the next stop. -/
def lineWidth (line : List UInt8) : Nat :=
  line.foldl (fun n b => if b = 9 then n + 8 - n % 8 else if 32 ≤ b && b < 127 then n + 1 else n) 0

def Counts.of (data : List UInt8) : Counts :=
  ⟨data.count 10, wordCount false 0 data, data.length,
    ((linesOf data).1.map lineWidth).foldl max 0⟩

def count (arguments : List Text) : Step Nat :=
  let spec := OptionSpec.of "clmwL"
    [("bytes", 'c'), ("chars", 'm'), ("lines", 'l'), ("words", 'w'), ("max-line-length", 'L')]
  withOptions spec 1 arguments fun given => do
    let given := if given.options.isEmpty then { given with options := [('l', []), ('w', []), ('c', [])] }
      else given
    let numbers := fun (c : Counts) =>
      (if given.has 'l' then [c.lines] else []) ++ (if given.has 'w' then [c.words] else []) ++
        (if given.has 'm' then [c.bytes] else []) ++ (if given.has 'c' then [c.bytes] else []) ++
        (if given.has 'L' then [c.longest] else [])
    let operands := if given.operands.isEmpty then [Text.ofString "-"] else given.operands
    let inputIsFile := match ← input? 0 with
      | some (_, input) => input.isFile
      | none => false
    let found ← operands.mapM fun operand => do
      let result ← wholeBytesOf operand
      let isFile := match result with
        | .ok _ => if operand = Text.ofString "-" then inputIsFile
          else !(Text.ofString "/dev/").isPrefixOf operand
        | .error errno => errno ≠ .isDirectory
      return (operand, result, isFile)
    let size := found.foldl (fun total (_, result, isFile) => match result with
      | .ok data => if isFile then total + data.length else total
      | .error _ => total) 0
    let digits := (Nat.toDigits 10 size).length
    let width := if found.length = 1 && (numbers (.of [])).length = 1 then 1
      else if found.all fun item => item.2.2 then digits else max digits 7
    let row := fun (c : Counts) (name : Text) =>
      writeLine (Text.join " " ((numbers c).map (rightAligned width)) ++
        (if name.isEmpty then [] else .char ' ' :: name))
    let counts ← found.mapM fun (operand, result, _) => do
      let name := if given.operands.isEmpty then [] else quotedIfLine operand
      match result with
      | .ok data =>
        row (.of data) name
        return Counts.of data
      | .error errno =>
        let closed := operand = Text.ofString "-" && errno = .badDescriptor
        let shown := if given.operands.isEmpty then alwaysQuoted "standard input" else shownName operand
        report (shown ++ ": " ++ errno.message)
        if errno = .isDirectory || closed then row (.of []) name
        if closed then report ("-: " ++ errno.message)
        return Counts.of []
    if 1 < found.length then row (counts.foldl Counts.add (.of [])) "total"
    return if found.all fun item => match item.2.1 with
        | .ok _ => true
        | .error _ => false
      then 0 else 1
where
  /-- A name, between quotes if it holds a line end. -/
  quotedIfLine (t : Text) : Text := if t.contains (.char '\n') then quotedIfNeeded t else t

/-! ## Copies of the input -/

def tee (arguments : List Text) : Step Nat :=
  withOptions (OptionSpec.of "aip" [("append", 'a'), ("ignore-interrupts", 'i')]) 1 arguments fun given => do
    let f ← frame
    let opened ← given.operands.mapM fun operand => do
      if operand = Text.ofString "-" || operand = Text.ofString "/dev/stdout" then return (← sink? 1)
      else if operand = Text.ofString "/dev/null" then return some .nowhere
      else if operand = Text.ofString "/dev/stderr" then return (← sink? 2)
      else
        let m ← get
        match Reach.openFile m.disk m.frame.cwd f.umask (given.has 'a') operand with
        | .ok (disk, place) =>
          set { m with disk }
          return some (.file place)
        | .error errno =>
          report (shownName operand ++ ": " ++ errno.message)
          return none
    let result ← passOn 0 fun data => do
      write data
      (opened.filterMap id).forM fun sink => writeTo sink data
    match result with
    | .ok () => return if opened.all Option.isSome then 0 else 1
    | .error errno =>
      report ("read error: " ++ errno.message)
      if errno = .badDescriptor then report ("standard input: " ++ errno.message)
      return 1

def fold (arguments : List Text) : Step Nat :=
  let spec := OptionSpec.of "bsw:" [("bytes", 'b'), ("spaces", 's'), ("width", 'w')]
  withOptions spec 1 arguments fun given => do
    match digits? ((given.value? 'w').getD "80") with
    | none =>
      report ("invalid number of columns: " ++ alwaysQuoted ((given.value? 'w').getD []))
      return 1
    | some width =>
      throughEach given.operands () fun () data => do
        let (lines, ended) := linesOf data
        let broken := lines.flatMap fun line => pieces (given.has 's') width (line.length + 1) line
        write (ofLines broken ended)
where
  pieces (atSpaces : Bool) (width : Nat) : (fuel : Nat) → List UInt8 → List (List UInt8)
    | 0, line => [line]
    | fuel + 1, line =>
      if line.length ≤ width || width = 0 then [line]
      else
        let front := line.take width
        let kept := (front.reverse.dropWhile fun b => b ≠ 32 && b ≠ 9).length
        let size := if atSpaces && 0 < kept then kept else width
        line.take size :: pieces atSpaces width fuel (line.drop size)

end Tool

end StageParity.Script
