import StageParity.Script.Format
import StageParity.Script.Machine

/-!
# What tools have in common

Options and operands, quoted names, complaints, and the bytes that operands lead to.
-/

namespace StageParity.Script

/-! ## Options -/

structure OptionSpec where
  letters : List (Char × Bool)
  names : List (String × Char)
  /-- Whether options may follow operands. -/
  mixed : Bool

/-- Letters of options, those with a value followed by a colon. -/
def optionLettersOf : List Char → List (Char × Bool)
  | c :: ':' :: rest => (c, true) :: optionLettersOf rest
  | c :: rest => (c, false) :: optionLettersOf rest
  | [] => []

def OptionSpec.of (letters : String) (names : List (String × Char)) : OptionSpec :=
  ⟨optionLettersOf letters.toList, names, true⟩

structure Given where
  options : List (Char × Text)
  operands : List Text

namespace Given

def has (g : Given) (letter : Char) : Bool := g.options.any fun option => option.1 = letter

def value? (g : Given) (letter : Char) : Option Text :=
  (g.options.filter fun option => option.1 = letter).getLast?.map Prod.snd

def last? (g : Given) (letters : List Char) : Option Char :=
  (g.options.filter fun option => letters.contains option.1).getLast?.map Prod.fst

end Given

/-- A text between quotes, as complaints about options show it. -/
def inQuotes (t : Text) : Text := "'" ++ t ++ "'"

def longOption (spec : OptionSpec) (name : Text) : Except Text Char :=
  let fitting := spec.names.filter fun item => name.isPrefixOf (Text.ofString item.1)
  let exact := fitting.find? fun item => Text.ofString item.1 = name
  match exact, fitting with
  | some item, _ => .ok item.2
  | none, [] => .error ("unrecognized option " ++ inQuotes ("--" ++ name))
  | none, item :: more =>
    if more.all fun other => other.2 = item.2 then .ok item.2
    else
      let shown := fitting.map fun item => " '--" ++ Text.ofString item.1 ++ "'"
      .error ("option " ++ inQuotes ("--" ++ name) ++ " is ambiguous; possibilities:" ++ shown.flatten)

/-- The options in a cluster of letters, and what is left of the words after it. -/
def clusterOptions (spec : OptionSpec) : Text → List Text →
    Except Text (List (Char × Text) × List Text)
  | [], rest => .ok ([], rest)
  | g :: more, rest =>
    let letter := g.char?.getD '?'
    match spec.letters.lookup letter with
    | none => .error ("invalid option -- " ++ inQuotes [g])
    | some false => do
      let (found, rest) ← clusterOptions spec more rest
      return ((letter, []) :: found, rest)
    | some true =>
      if !more.isEmpty then .ok ([(letter, more)], rest)
      else
        match rest with
        | value :: rest => .ok ([(letter, value)], rest)
        | [] => .error ("option requires an argument -- " ++ inQuotes [g])

def OptionSpec.read (spec : OptionSpec) : (fuel : Nat) → List Text → Except Text Given
  | 0, operands => .ok ⟨[], operands⟩
  | _, [] => .ok ⟨[], []⟩
  | fuel + 1, word :: rest =>
    match word with
    | [.char '-', .char '-'] => .ok ⟨[], rest⟩
    | .char '-' :: .char '-' :: long => do
      let (name, value) := Text.splitFirst (.char '=') long
      let letter ← longOption spec name
      let go := fun (value : Text) (rest : List Text) => do
        let given ← OptionSpec.read spec fuel rest
        return Given.mk ((letter, value) :: given.options) given.operands
      match (spec.letters.lookup letter).getD false, value, rest with
      | true, some value, _ => go value rest
      | true, none, value :: rest => go value rest
      | true, none, [] => throw ("option " ++ inQuotes ("--" ++ name) ++ " requires an argument")
      | false, none, _ => go [] rest
      | false, some _, _ => throw ("option " ++ inQuotes ("--" ++ name) ++ " doesn't allow an argument")
    | .char '-' :: g :: letters => do
      let (found, rest) ← clusterOptions spec (g :: letters) rest
      let given ← OptionSpec.read spec fuel rest
      return ⟨found ++ given.options, given.operands⟩
    | _ =>
      if spec.mixed then do
        let given ← OptionSpec.read spec fuel rest
        return ⟨given.options, word :: given.operands⟩
      else .ok ⟨[], word :: rest⟩

/-! ## Names in complaints -/

/-- Whether a glyph in a name makes quotes necessary. -/
def needsQuotes (g : Glyph) : Bool :=
  match g with
  | .char c => " !\"$&()*;<=>[^|?\\'".toList.contains c || c = '\x60'
  | _ => false

def isShown (g : Glyph) : Bool := g.char?.any fun c => ' ' ≤ c && c ≤ '~'

def shownEscape (g : Glyph) : Text :=
  let letters : List (Char × String) :=
    [('\x07', "\\a"), ('\x08', "\\b"), ('\x0c', "\\f"), ('\n', "\\n"), ('\r', "\\r"), ('\t', "\\t"),
     ('\x0b', "\\v")]
  match g.char?.bind fun c => letters.lookup c with
  | some text => text
  | none => (Glyph.encode g).flatMap fun b =>
      Text.ofChars ('\\' :: (Nat.toDigits 8 (b.toNat + 512)).drop 1)

/-- The rest of a name inside quotes. -/
def shownFrom (escaping : Bool) : Text → Text
  | [] => "'"
  | g :: rest =>
    if isShown g then
      let front : Text := if escaping then "''" else []
      let here : Text := if g = .char '\'' then "'\\''" else [g]
      front ++ here ++ shownFrom false rest
    else (if escaping then [] else Text.ofString "'$'") ++ shownEscape g ++ shownFrom true rest

/-- A name between the quotes that a shell would need. -/
def alwaysQuoted (t : Text) : Text :=
  let plainInside := t.all fun g => isShown g &&
    !(g = .char '"' || g = .char '$' || g = .char '\\' || g = .char '\x60' || g = .char '!')
  if t.contains (.char '\'') && plainInside then "\"" ++ t ++ "\""
  else "'" ++ shownFrom false t

/-- A name, between quotes if a shell would need them or it holds a colon. -/
def quotedIfNeeded (t : Text) : Text :=
  let first := t.head?.any fun g => g = .char '#' || g = .char '~'
  let alone := t = [.char '\x7b'] || t = [.char '\x7d']
  if t.isEmpty || first || alone || t.any (fun g => needsQuotes g || !isShown g || g = .char ':') then
    alwaysQuoted t
  else t

/-! ## Lines -/

/-- The lines of bytes in reverse, and whether the last one has a line end. -/
def linesFrom : (done : List (List UInt8)) → (current : Option (List UInt8)) → List UInt8 →
    List (List UInt8) × Bool
  | done, none, [] => (done, true)
  | done, some line, [] => (line.reverse :: done, false)
  | done, current, b :: rest =>
    if b = 10 then linesFrom ((current.getD []).reverse :: done) none rest
    else linesFrom done (some (b :: current.getD [])) rest

/-- The lines of bytes, each without its line end, and whether the last one has one. -/
def linesOf (data : List UInt8) : List (List UInt8) × Bool :=
  let (lines, ended) := linesFrom [] none data
  (lines.reverse, ended)

def ofLines (lines : List (List UInt8)) (ended : Bool) : List UInt8 :=
  let bytes := List.flatten (lines.intersperse [10])
  if ended && !lines.isEmpty then bytes ++ [10] else bytes

/-! ## Numbers -/

def digits? (t : Text) : Option Nat :=
  if !t.isEmpty && t.all Reading.isDigit then some (Arithmetic.digitsIn 10 t) else none

/-- The factor that a letter after a number stands for. -/
def unitOf? (t : Text) : Option Nat :=
  match String.ofList (t.filterMap Glyph.char?) with
  | "" => some 1
  | "b" => some 512
  | "kB" => some 1000
  | "K" | "k" | "KiB" => some 1024
  | "MB" => some 1000000
  | "M" | "m" | "MiB" => some 1048576
  | "GB" => some 1000000000
  | "G" | "GiB" => some 1073741824
  | _ => none

/-- A number of things, with a unit if there is one. -/
def amount? (t : Text) : Option Nat := do
  let digits := t.takeWhile Reading.isDigit
  let n ← digits? digits
  let unit ← unitOf? (t.drop digits.length)
  return n * unit

def seconds? (t : Text) : Option Float := do
  let (x, rest) ← floatPart? t
  let factor : Float ← match rest with
    | [] | [.char 's'] => some 1
    | [.char 'm'] => some 60
    | [.char 'h'] => some 3600
    | [.char 'd'] => some 86400
    | _ => none
  if x < 0 || x.isNaN then none else some (x * factor)

def rightAligned (width : Nat) (n : Nat) : Text :=
  let digits := Text.ofNat n
  List.replicate (width - digits.length) (.char ' ') ++ digits

namespace Tool

open Step

def report (t : Text) : Step Unit := do complain ((← frame).name ++ ": " ++ t)

def pointToHelp : Step Unit := do
  complain ("Try '" ++ (← frame).name ++ " --help' for more information.")

def misused (status : Nat) (t : Text) : Step Nat := do
  report t
  pointToHelp
  return status

def withOptions (spec : OptionSpec) (status : Nat) (arguments : List Text) (step : Given → Step Nat) :
    Step Nat := do
  match spec.read (arguments.length + 1) arguments with
  | .ok given => step given
  | .error reason => misused status reason

/-- Run a step for each operand; the status is 1 if any of them fails. -/
def forEach (operands : List Text) (step : Text → Step Bool) : Step Nat := do
  let results ← operands.mapM step
  return if results.all id then 0 else 1

def withOperands (operands : List Text) (step : List Text → Step Nat) : Step Nat :=
  if operands.isEmpty then misused 1 "missing operand" else step operands

def descriptorOf? (t : Text) : Option Nat :=
  if t = Text.ofString "/dev/stdin" then some 0
  else if t = Text.ofString "/dev/stdout" then some 1
  else if t = Text.ofString "/dev/stderr" then some 2
  else
    let front : Text := "/dev/fd/"
    if front.isPrefixOf t then digits? (t.drop front.length) else none

/-- How many bytes are taken of a device that never ends. -/
def endless : Nat := 1048576

def zeros : Input := { Input.ready (List.replicate endless 0) false with endsAt := forever }

def operandDescriptor? (operand : Text) : Option Nat :=
  if operand = Text.ofString "-" then some 0 else descriptorOf? operand

def isEndless (path : Text) : Bool := path = Text.ofString "/dev/zero" || path = Text.ofString "/dev/full"

/-- The bytes of a file or a device, for a tool that writes as it reads. -/
def bytesAt (path : Text) : Step (Except Errno (List UInt8)) := do
  match descriptorOf? path with
  | some descriptor => stream descriptor
  | none =>
    if path = Text.ofString "/dev/null" then return .ok []
    else if isEndless path then
      onFrame fun f => { f with engaged := true }
      return .ok (List.replicate endless 0)
    else ask fun disk cwd => Reach.bytes disk cwd path

/-- The bytes of a file, or of standard input for a dash, for a tool that writes as it
reads. -/
def bytesOf (operand : Text) : Step (Except Errno (List UInt8)) :=
  if operand = Text.ofString "-" then stream 0 else bytesAt operand

/-- The bytes of an operand, for a tool that writes nothing before their end. -/
def wholeBytesOf (operand : Text) : Step (Except Errno (List UInt8)) := do
  match operandDescriptor? operand with
  | some descriptor => drain descriptor
  | none =>
    if isEndless operand then sleepUntil forever
    bytesAt operand

def shownName (operand : Text) : Text := quotedIfNeeded operand

/-- The bytes of each operand, or of standard input if there are none. What cannot be read
is named and left out. -/
def eachBytes (operands : List Text) : Step (List (Text × List UInt8) × Bool) := do
  let operands := if operands.isEmpty then [Text.ofString "-"] else operands
  let parts ← operands.mapM fun operand => do
    match ← bytesOf operand with
    | .ok data => return some (operand, data)
    | .error errno =>
      report (shownName operand ++ ": " ++ errno.message)
      return none
  return (parts.filterMap id, parts.all Option.isSome)

/-- Go through the operands, or standard input if there are none, one after another. What
cannot be read is named and left out. -/
def throughEach {σ : Type} (operands : List Text) (start : σ) (step : σ → List UInt8 → Step σ) : Step Nat := do
  let operands := if operands.isEmpty then [Text.ofString "-"] else operands
  let (_, status) ← operands.foldlM (fun (state, status) operand => do
    match ← bytesOf operand with
    | .ok data => return (← step state data, status)
    | .error errno =>
      report (shownName operand ++ ": " ++ errno.message)
      if operand = Text.ofString "-" && errno = .badDescriptor then
        report (shownName operand ++ ": " ++ errno.message)
      return (state, 1)) (start, 0)
  return status

def allBytes (operands : List Text) : Step (List UInt8 × Nat) := do
  let (parts, fine) ← eachBytes operands
  return (parts.flatMap Prod.snd, if fine then 0 else 1)

end Tool

end StageParity.Script
