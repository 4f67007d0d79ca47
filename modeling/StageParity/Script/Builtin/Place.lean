import StageParity.Script.Builtin.Basic

/-!
# Directories and permissions

The commands that go to a directory, show it, and set the mask of new files.
-/

namespace StageParity.Script

namespace Evaluate

open Step

/-- The path from a directory along a text, with dots taken out as they stand there. -/
def wayAlong (start target : Text) : Text :=
  let isDouble : Text → Bool := fun t => match t with
    | .char '/' :: .char '/' :: rest => rest.head? ≠ some Path.slash
    | _ => false
  let absolute := target.head? = some Path.slash
  let root : Text := if isDouble (if absolute then target else start) then "//" else "/"
  let partsOf := fun (t : Text) => (t.splitOn Path.slash).filter fun part => !part.isEmpty
  let base := if absolute then [] else partsOf start
  let parts := (partsOf target).foldl (fun (found : List Text) part =>
    if part = [.char '.'] then found
    else if part = Path.up then found.dropLast
    else found ++ [part]) base
  root ++ Text.join "/" parts

def moveTo (physical : Bool) (target : Text) : Step Bool := do
  let f ← frame
  let goal := if physical then target else wayAlong f.way target
  match ← ask fun disk cwd => Reach.found disk cwd .target goal with
  | .ok (place, .directory mode) =>
    if mode &&& Entry.passBit = 0 then return false
    let way := if physical then locationText place else goal
    setVariable "OLDPWD" f.way
    onFrame fun f => { f with cwd := place, way }
    setVariable "PWD" way
    onFrame fun f => { f with
      exported := (f.exported ++ ["OLDPWD", "PWD"].map Text.ofString).eraseDups }
    return true
  | _ => return false

def directoryWith? (disk : Disk) (cwd : Location) (name : Text) : List Text → Option (Text × Bool)
  | [] => none
  | start :: rest =>
    let path := if start.isEmpty then name else Toolchain.fileIn start name
    if Reach.holds disk cwd .target path Entry.isDirectory then some (path, !start.isEmpty)
    else directoryWith? disk cwd name rest

def goTo (arguments : List Text) : Step Nat := do
  let given ← optionsOf "LP" arguments
  let back := given.operands.head? = some (Text.ofString "-")
  let target ← match given.operands with
    | target :: _ => if back then pure ((← lookup "OLDPWD").getD []) else pure target
    | [] => pure ((← lookup "HOME").getD [])
  let first := (target.splitOn Path.slash).headD []
  let target : Text := if target.isEmpty then "." else target
  let fixed := first.isEmpty || first = Text.ofString "." || first = Text.ofString ".."
  let searched ← if fixed then pure none else do
    match ← lookup "CDPATH" with
    | some path => ask fun disk cwd => directoryWith? disk cwd target (path.splitOn (.char ':'))
    | none => pure none
  let (goal, shows) := searched.getD (target, false)
  if ← moveTo (given.last? ['L', 'P'] = some 'P') goal then
    if back || shows then writeLine (← frame).way
    return 0
  else shellFails ("can't cd to " ++ target)

def showPlace (arguments : List Text) : Step Nat := do
  let given ← optionsOf "LP" arguments
  let f ← frame
  writeLine (if given.last? ['L', 'P'] = some 'P' then locationText f.cwd else f.way)
  return 0

def umaskCommand (arguments : List Text) : Step Nat := do
  let given ← optionsOf "S" arguments
  let mask := (← frame).umask
  match given.operands with
  | [] =>
    if given.has 'S' then
      let letters := fun (shift : Nat) =>
        let bits := (0o777 - mask) / shift % 8
        (if bits &&& 4 = 0 then [] else Text.ofString "r") ++ (if bits &&& 2 = 0 then [] else Text.ofString "w") ++
          (if bits &&& 1 = 0 then [] else Text.ofString "x")
      writeLine ("u=" ++ letters 64 ++ ",g=" ++ letters 8 ++ ",o=" ++ letters 1)
    else writeLine (Text.ofChars ((Nat.toDigits 8 (0o10000 + mask)).drop 1))
    return 0
  | t :: _ =>
    let startsDigit := t.head?.any Reading.isDigit
    let mask ← if t.isEmpty then pure 0
      else if startsDigit then
        if t.all isOctal then pure (Arithmetic.digitsIn 8 t % 0o1000)
        else shellFails ("Illegal number: " ++ t)
      else
        match changedMode? 0 false t (0o777 - mask) with
        | some mode => pure (0o777 - mode % 0o1000)
        | none => shellFails ("Illegal mode: " ++ t)
    onFrame fun f => { f with umask := mask }
    return 0

end Evaluate

end StageParity.Script
