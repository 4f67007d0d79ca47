import StageParity.Script.Redirect

/-!
# What built-in commands have in common

Their options, their numbers, and how they write values that a shell can read again.
-/

namespace StageParity.Script

namespace Evaluate

open Step

/-- The options in a cluster of letters, and what is left of the words after it. -/
def clusterFrom (spec : List (Char × Bool)) : Text → List Text → Step (List (Char × Text) × List Text)
  | [], rest => return ([], rest)
  | g :: more, rest => do
    let letter := g.char?.getD '?'
    match spec.lookup letter with
    | none => shellFails ("Illegal option -" ++ [g])
    | some false => do
      let (found, rest) ← clusterFrom spec more rest
      return ((letter, []) :: found, rest)
    | some true =>
      if !more.isEmpty then return ([(letter, more)], rest)
      else
        match rest with
        | value :: rest => return ([(letter, value)], rest)
        | [] => shellFails ("No arg for -" ++ [g] ++ " option")

/-- The options before the operands of a built-in command. -/
def optionsFrom (spec : List (Char × Bool)) : (fuel : Nat) → List Text → Step Given
  | 0, operands => return ⟨[], operands⟩
  | _, [] => return ⟨[], []⟩
  | fuel + 1, word :: rest =>
    match word with
    | [.char '-', .char '-'] => return ⟨[], rest⟩
    | .char '-' :: g :: letters => do
      let (found, rest) ← clusterFrom spec (g :: letters) rest
      let given ← optionsFrom spec fuel rest
      return ⟨found ++ given.options, given.operands⟩
    | _ => return ⟨[], word :: rest⟩

/-- The options and operands of a built-in command that knows some letters; those with a
value are followed by a colon. -/
def optionsOf (letters : String) (arguments : List Text) : Step Given :=
  optionsFrom (optionLettersOf letters.toList) (arguments.length + 1) arguments

def maxNumber : Nat := 2147483647

def numberOf (t : Text) : Step Nat := do
  match Arithmetic.wholeNumber? true t with
  | some n => if n < 0 || maxNumber < n then shellFails ("Illegal number: " ++ t) else return n.toNat
  | none => shellFails ("Illegal number: " ++ t)

/-- The rest of a value between quotes; runs of single quotes stand between double ones. -/
def singleQuotedFrom (isDouble : Bool) : Text → Text
  | [] => if isDouble then "\"" else "'"
  | g :: rest =>
    let isQuote : Bool := g = .char '\''
    let turn : Text := match isDouble, isQuote with
      | false, true => "'\""
      | true, false => "\"'"
      | _, _ => []
    turn ++ g :: singleQuotedFrom isQuote rest

/-- A value between quotes from which a shell reads it again. -/
def singleQuoted (t : Text) : Text := .char '\'' :: singleQuotedFrom false t

def checkName (name : Text) : Step Unit := do
  if !Reading.isName name then shellFails (name ++ ": bad variable name")

/-- A name and the value that is set after an equals sign. -/
def settingOf (argument : Text) : Text × Option Text := Text.splitFirst (.char '=') argument

/-- The place of a variable in the order in which a shell hands variables on. -/
def bucket (name : Text) : Nat :=
  ((name.head?.map Glyph.rank).getD 0 * 16 + name.foldl (fun total g => total + g.rank) 0) % 39

/-- The variables that a shell hands on to a program. -/
def handedOn : Step (List (Text × Text)) := do
  return (← environment).mergeSort fun a b => bucket a.1 ≤ bucket b.1

def searchPath : Step Text := return (← lookup Toolchain.pathVariable).getD []

def hash (name : Text) : Step Unit := do
  let m ← get
  if !name.contains Path.slash && (m.frame.hashed.lookup name).isNone then
    if let some found := Image.path? m.disk m.frame.cwd (← searchPath) name then
      onFrame fun f => { f with hashed := f.hashed ++ [(name, found)] }

/-- Why a name leads to no program on a search path: nothing, if it leads to one. -/
def searchFault? (name : Text) : Step (Option Errno) := do
  if name.contains Path.slash then return none
  let m ← get
  let paths := Image.candidates (← searchPath) name
  if paths.any (Image.isProgram m.disk m.frame.cwd) then return none
  let faults := paths.map fun path => match Reach.entry m.disk m.frame.cwd .target path with
    | .ok _ => Errno.denied
    | .error errno => errno
  return some (faults.foldl Image.worse .notFound)

def unrunnable (name : Text) (errno : Errno) : Step Unit :=
  let missing := errno = .notFound || errno = .notDirectory
  shellComplains (name ++ ": " ++ (if missing then Text.ofString "not found" else errno.message))

/-- Become the program that words name. -/
def replace (i : Inner) (arguments : List Text) : Step Unit := do
  let m ← get
  let bindings ← handedOn
  let path ← searchPath
  let name := arguments.headD []
  onFrame fun f => { f.withoutActions with bindings }
  match Image.find m.disk m.frame.cwd path arguments with
  | .ok loaded => i.become loaded
  | .error errno =>
    match if errno = .badFormat then Image.script? m.disk m.frame.cwd path name else none with
    | some found => i.become ⟨"sh", [Text.ofString "/bin/sh", found] ++ arguments.drop 1⟩
    | none =>
      unrunnable name errno
      throw (.exit (if errno = .notFound || errno = .notDirectory then 127 else 126))

end Evaluate

end StageParity.Script
