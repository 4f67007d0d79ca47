import StageParity.Script.Tool.Clock
import StageParity.Script.Tool.Compare
import StageParity.Script.Tool.Dump
import StageParity.Script.Tool.Grep
import StageParity.Script.Tool.Lines
import StageParity.Script.Tool.Listing
import StageParity.Script.Tool.Numbers
import StageParity.Script.Tool.Sed
import StageParity.Script.Tool.Sort
import StageParity.Script.Tool.Test
import StageParity.Script.Tool.Translate

/-!
# The tools by name

The tools that print or sleep, and the table of all tools that are one step of a machine.
-/

namespace StageParity.Script

namespace Tool

open Step

/-- Print words on a line; escapes are read only on demand. -/
def print (arguments : List Text) : Step Nat := do
  let isFlag := fun (word : Text) => match word with
    | .char '-' :: g :: rest =>
      (g :: rest).all fun g => g == .char 'n' || g == .char 'e' || g == .char 'E'
    | _ => false
  let flags := (arguments.takeWhile isFlag).flatten
  let line := Text.join " " (arguments.dropWhile isFlag)
  let escapes := (flags.filter fun g => g ≠ .char 'n' && g ≠ .char '-').getLast? = some (.char 'e')
  let shown := if escapes then programEscaped ['x'] (line.length + 1) line else ⟨line.encode, false, false⟩
  write (if flags.contains (.char 'n') || shown.ended then shown.bytes else shown.bytes ++ [10])
  return 0

def printFormatted (arguments : List Text) : Step Nat := do
  let arguments := match arguments with
    | [.char '-', .char '-'] :: rest => rest
    | _ => arguments
  match arguments with
  | [] => misused 1 "missing operand"
  | format :: rest =>
    let p := printed .program format rest
    p.complaints.reverse.forM report
    write p.bytes
    if let some reason := p.refused then report reason
    if p.refused.isNone && !p.ended && !p.used && !rest.isEmpty then
      report ("warning: ignoring excess arguments, starting with " ++ alwaysQuoted (rest.headD []))
    return if p.complaints.isEmpty && p.refused.isNone then 0 else 1

def sleep (arguments : List Text) : Step Nat :=
  withOptions (OptionSpec.of "" []) 1 arguments fun given =>
    withOperands given.operands fun operands => do
      let bad := operands.filter fun t => (seconds? t).isNone
      if bad.isEmpty then
        let total := (operands.filterMap seconds?).foldl (· + ·) 0
        sleepUntil ((← get).clock + total)
        return 0
      else
        bad.forM fun t => report ("invalid time interval " ++ alwaysQuoted t)
        pointToHelp
        return 1

def printVariables (arguments : List Text) : Step Nat :=
  let spec := { OptionSpec.of "0" [("null", '0')] with mixed := false }
  withOptions spec 2 arguments fun given => do
    let bindings ← environment
    let put := fun (t : Text) => write (t.encode ++ [if given.has '0' then 0 else 10])
    if given.operands.isEmpty then
      bindings.forM fun v => put (v.1 ++ "=" ++ v.2)
      return 0
    else
      forEach given.operands fun name => do
        match bindings.lookup name with
        | some value =>
          put value
          return true
        | none => return false

def printBaseNames (arguments : List Text) : Step Nat :=
  let spec := { OptionSpec.of "as:z" [("multiple", 'a'), ("suffix", 's'), ("zero", 'z')] with mixed := false }
  withOptions spec 1 arguments fun given => do
    let put := fun (ending path : Text) => do
      let name := baseName path
      let name : Text := if ending.isSuffixOf name && ending ≠ name then name.take (name.length - ending.length) else name
      write (name.encode ++ [if given.has 'z' then 0 else 10])
    match given.operands with
    | [] => misused 1 "missing operand"
    | paths =>
      if given.has 'a' || given.has 's' then
        paths.forM (put ((given.value? 's').getD []))
        return 0
      else
        match paths with
        | [path] =>
          put [] path
          return 0
        | [path, ending] =>
          put ending path
          return 0
        | _ => misused 1 ("extra operand " ++ alwaysQuoted (paths.getD 2 []))

def printDirectoryNames (arguments : List Text) : Step Nat :=
  withOptions (OptionSpec.of "z" [("zero", 'z')]) 1 arguments fun given =>
    withOperands given.operands fun paths => do
      paths.forM fun path => write ((directoryName path).encode ++ [if given.has 'z' then 0 else 10])
      return 0

/-- Write a line again and again. A pipe is given as many bytes as its reader can be
expected to take. -/
def repeatLine (arguments : List Text) : Step Nat :=
  withOptions (OptionSpec.of "" []) 1 arguments fun given => do
    let words := given.operands
    let line := (if words.isEmpty then Text.ofString "y" else Text.join " " words).encode ++ [10]
    match ← sink? 1 with
    | some .full | none =>
      write line
      return 0
    | some sink =>
      if let .pipe _ := sink then write (List.replicate (200000 / line.length + 1) line).flatten
      sleepUntil forever
      return 0

/-- What a tool complains of when something that it wrote was lost, and its exit status. -/
def lossReport (tool : String) (errno : Errno) : List Text × Nat :=
  let full := errno ≠ .badDescriptor
  let plain : Text := "write error: " ++ errno.message
  let output : Text := alwaysQuoted "standard output" ++ ": " ++ errno.message
  match tool with
  | "cat" => ([if full then plain else "standard output: " ++ errno.message], 1)
  | "cmp" | "diff" => (["standard output: " ++ errno.message], 2)
  | "expr" => ([plain], 3)
  | "env" => ([plain], 125)
  | "find" => ([output, "write error"], 1)
  | "grep" | "ls" => ([plain], 2)
  | "md5sum" | "sha1sum" | "sha256sum" | "wc" => ([if full then Text.ofString "write error" else plain], 1)
  | "sed" =>
    ([(if full then Text.ofString "couldn't flush stdout: " else "couldn't close stdout: ") ++ errno.message], 4)
  | "sort" => (["fflush failed: " ++ output, "write error"], 2)
  | "tee" => ([output], 1)
  | _ => ([plain], 1)

def printLocation (arguments : List Text) : Step Nat :=
  withOptions (OptionSpec.of "LP" [("logical", 'L'), ("physical", 'P')]) 1 arguments fun given => do
    if !given.operands.isEmpty then report "ignoring non-option arguments"
    writeLine (locationText (← frame).cwd)
    return 0

/-- The names of the system, by the letters that ask for them. -/
def systemNames : List (Char × String) :=
  [('s', "Linux"), ('n', "localhost"), ('r', "6.1.0"), ('v', "#1 SMP"), ('m', "x86_64"), ('o', "GNU/Linux")]

def printSystem (arguments : List Text) : Step Nat :=
  withOptions (OptionSpec.of "asnrvmo" [("all", 'a')]) 1 arguments fun given => do
    match given.operands with
    | extra :: _ => misused 1 ("extra operand " ++ alwaysQuoted extra)
    | [] =>
      let asked := systemNames.filter fun item =>
        given.has 'a' || given.has item.1 || (given.options.isEmpty && item.1 = 's')
      writeLine (Text.join " " (asked.map fun item => Text.ofString item.2))
      return 0

def table : List (String × (List Text → Step Nat)) :=
  [("[", test true),
   ("base64", base64),
   ("basename", printBaseNames),
   ("cat", cat),
   ("chmod", changeMode),
   ("cmp", compareFiles),
   ("comm", comm),
   ("cp", copy),
   ("cut", cut),
   ("date", date),
   ("diff", diff),
   ("dirname", printDirectoryNames),
   ("echo", print),
   ("expr", evaluate),
   ("false", fun _ => return 1),
   ("fold", fold),
   ("grep", grep),
   ("head", head),
   ("ln", link),
   ("ls", list),
   ("md5sum", digests "MD5" Md5.hex),
   ("mkdir", makeDirectories),
   ("mktemp", makeTemporary),
   ("mv", move),
   ("nl", numberLines),
   ("od", dump),
   ("paste", paste),
   ("printenv", printVariables),
   ("printf", printFormatted),
   ("pwd", printLocation),
   ("readlink", readLink),
   ("realpath", realPath),
   ("rev", rev),
   ("rm", remove),
   ("rmdir", removeDirectories),
   ("sed", sed),
   ("seq", sequence),
   ("sha1sum", digests "SHA1" Sha1.hex),
   ("sha256sum", digests "SHA256" Sha256.hex),
   ("sleep", sleep),
   ("sort", sort),
   ("stat", stat),
   ("tac", tac),
   ("tail", tail),
   ("tee", tee),
   ("test", test false),
   ("touch", touch),
   ("tr", translate),
   ("true", fun _ => return 0),
   ("uname", printSystem),
   ("uniq", unique),
   ("wc", count),
   ("yes", repeatLine)]

end Tool

end StageParity.Script
