import StageParity.CommandLine.Switch
import StageParity.CommandLine.Wrap

/-!
# Usage and help

What the program says about its own command line, for a terminal of some columns.
-/

namespace StageParity.Usage

def leastWidth : Nat := 11

def textWidth (columns : Nat) : Nat := max (columns - 2) leastWidth

def lead : String := "usage: "

def spaces (n : Nat) : String := String.ofList (List.replicate n ' ')

/-- The parts that fit behind a line of some length, and the others. A line without any
part takes the first one in any case. -/
def takeParts (width : Nat) : (used : Nat) → (fresh : Bool) → List String →
    List String × List String
  | _, _, [] => ([], [])
  | used, fresh, part :: rest =>
    if width < used + 1 + part.length && !fresh then ([], part :: rest)
    else
      let (line, others) := takeParts width (used + 1 + part.length) false rest
      (part :: line, others)

/-- The parts on lines with an indent, at most `steps` of them. `used` is the length of
the first line before its first part, less one. -/
def partLines (width indent : Nat) : (steps : Nat) → (used : Nat) → List String → List (List String)
  | 0, _, _ => []
  | _, _, [] => []
  | steps + 1, used, parts =>
    let (line, others) := takeParts width used true parts
    line :: partLines width indent steps (indent - 1) others

def parts : List String := Switch.all.map Switch.brief

def shortUsage : String := " ".intercalate (Switch.program :: parts)

/-- The usage, wrapped if it is too long. -/
def usageBody (columns : Nat) : String :=
  let width := textWidth columns
  let start := lead.length + Switch.program.length
  if lead.length + shortUsage.length ≤ width then shortUsage
  else if 4 * start ≤ 3 * width then
    let all := Switch.program :: parts
    let lines := partLines width (start + 1) (all.length + 1) (lead.length - 1) all
    ("\n" ++ spaces (start + 1)).intercalate (lines.map fun line => " ".intercalate line)
  else
    let lines := partLines width lead.length (parts.length + 1) (lead.length - 1) parts
    ("\n" ++ spaces lead.length).intercalate
      (Switch.program :: lines.map fun line => " ".intercalate line)

def usage (columns : Nat) : String := lead ++ usageBody columns ++ "\n"

def paragraph (columns : Nat) (t : String) : String :=
  "\n".intercalate (Wrap.lines (textWidth columns) t) ++ "\n"

def helpColumn (columns : Nat) : Nat := min 24 (max (columns - 2 - 20) 4)

/-- The help on a switch: its names, and what it does beside or below them. -/
def switchHelp (columns : Nat) (s : Switch) : String :=
  let column := helpColumn columns
  let lines := Wrap.lines (max (columns - 2 - column) leastWidth) s.purposeOf
  let header := "  " ++ s.header
  let start :=
    if s.header.length + 4 ≤ column then header ++ spaces (column - header.length)
    else header ++ "\n" ++ spaces column
  start ++ ("\n" ++ spaces column).intercalate lines ++ "\n"

def help (columns : Nat) : String :=
  usage columns ++ "\n" ++ paragraph columns Switch.purpose ++ "\noptions:\n" ++
    String.join (Switch.all.map (switchHelp columns))

def version (columns : Nat) : String :=
  paragraph columns (Switch.program ++ " " ++ Switch.release)

end StageParity.Usage
