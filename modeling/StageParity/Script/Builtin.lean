import StageParity.Script.Builtin.Input
import StageParity.Script.Builtin.Place
import StageParity.Script.Builtin.Signals
import StageParity.Script.Builtin.Variables

/-!
# Built-in commands

The commands that a shell carries out itself.
-/

namespace StageParity.Script

namespace Evaluate

open Step

/-- The built-in commands whose failure ends a shell, and whose settings stay. -/
def special : List String :=
  [".", ":", "break", "continue", "eval", "exec", "exit", "export", "local", "readonly", "return", "set",
   "shift", "times", "trap", "unset"]

def regular : List String :=
  ["[", "alias", "bg", "cd", "chdir", "command", "echo", "false", "fg", "getopts", "hash", "jobs", "kill",
   "printf", "pwd", "read", "test", "true", "type", "ulimit", "umask", "unalias", "wait"]

/-- The built-in commands whose arguments may set variables. -/
def setting : List String := ["export", "local", "readonly"]

def describe (path : Text) (verbose : Bool) (name : Text) : Step Nat := do
  let f ← frame
  let known := Condition.stringOf name
  let tell := fun (t : Text) => do
    writeLine (if verbose then name ++ t else name)
    return 0
  if keywords.contains known then tell " is a shell keyword"
  else if let some value := f.aliases.lookup name then
    writeLine (if verbose then name ++ " is an alias for " ++ value
      else "alias " ++ name ++ "=" ++ singleQuoted value)
    return 0
  else if (f.functions.lookup name).isSome then tell " is a shell function"
  else if special.contains known then tell " is a special shell builtin"
  else if regular.contains known then tell " is a shell builtin"
  else
    let found ← if name.contains Path.slash then
        ask fun disk cwd => if Reach.holds disk cwd .target name fun _ => true then some name else none
      else ask fun disk cwd => Image.path? disk cwd path name
    match found with
    | some found =>
      let tracked := (f.hashed.lookup name).isSome
      hash name
      writeLine (if !verbose then found
        else if tracked then name ++ " is a tracked alias for " ++ found else name ++ " is " ++ found)
      return 0
    | none =>
      if verbose then writeLine (name ++ ": not found")
      return 127

/-- Where a search path starts that no variable changes. -/
def standardPath : Text := "/usr/local/sbin:/usr/local/bin:/usr/sbin:/usr/bin:/sbin:/bin"

def commandCommand (arguments : List Text) : Step Nat := do
  let given ← optionsOf "pvV" arguments
  match given.operands with
  | name :: _ =>
    let path ← if given.has 'p' then pure standardPath else searchPath
    describe path (given.last? ['v', 'V'] = some 'V') name
  | [] => return 0

def hashCommand (arguments : List Text) : Step Nat := do
  let given ← optionsOf "rv" arguments
  if given.has 'r' then
    onFrame fun f => { f with hashed := [] }
    return 0
  if given.operands.isEmpty then
    (← frame).hashed.forM fun item => writeLine item.2
    return 0
  let results ← given.operands.mapM fun name => do
    let f ← frame
    let known := Condition.stringOf name
    let inside := (f.functions.lookup name).isSome || special.contains known || regular.contains known
    let path ← searchPath
    if inside || (← ask fun disk cwd => Image.path? disk cwd path name).isSome then
      if !inside then hash name
      return true
    else
      shellComplains (name ++ ": not found")
      return false
  return if results.all id then 0 else 1

def statusOf (argument : Option Text) : Step Nat := do
  match argument with
  | none => return (← frame).status
  | some t => numberOf t

/-- The number of loops that an argument names, at most as many as there are. -/
def loopsOf (arguments : List Text) : Step Nat := do
  match arguments with
  | [] => return min 1 (← frame).loops
  | t :: _ =>
    let n ← numberOf t
    if n = 0 then shellFails ("Illegal number: " ++ t)
    return min n (← frame).loops

def testCommand (arguments : List Text) : Step Nat := do
  match ← ask fun disk cwd => Condition.holds disk cwd arguments with
  | .ok holds => return if holds then 0 else 1
  | .error reason => shellFails reason

def evalCommand (i : Inner) (arguments : List Text) : Step Nat := do
  setStatus 0
  if !arguments.isEmpty then notLast (i.script (Text.join " " arguments))
  return (← frame).status

def sourceCommand (i : Inner) (arguments : List Text) : Step Nat := do
  let given ← optionsOf "" arguments
  match given.operands with
  | [] => return 0
  | name :: _ =>
    let m ← get
    let path ← if name.contains Path.slash then pure name else do
      let search ← searchPath
      let isReadable := fun (path : Text) =>
        Reach.holds m.disk m.frame.cwd .target path fun entry => entry.isFile && entry.mode &&& Entry.readBit ≠ 0
      match (Image.candidates search name).find? isReadable with
      | some found => pure found
      | none => shellFails (name ++ ": not found")
    match ← Tool.bytesAt path with
    | .ok data =>
      onFrame fun f => { f with status := 0, label := path, tests := false }
      let result ← attempt (notLast (i.script (Text.bytewise data)))
      onFrame fun f => { f with tests := m.frame.tests }
      match result with
      | .ok () => return (← frame).status
      | .error (.back status) => return status
      | .error stop => throw stop
    | .error errno =>
      if errno = .isDirectory then return 0
      shellFails (redirectComplaint false path errno)

def builtin? (i : Inner) (name : String) : Option (List Text → Step Nat) :=
  match name with
  | ":" | "true" => some fun _ => return 0
  | "false" => some fun _ => return 1
  | "echo" => some fun arguments => do
    write (echoed arguments)
    return 0
  | "printf" => some fun arguments => do
    let given ← optionsOf "" arguments
    match given.operands with
    | [] => shellFails "usage: printf format [arg ...]"
    | format :: rest =>
      let p := printed .shell format rest
      p.complaints.reverse.forM shellComplains
      write p.bytes
      if let some reason := p.refused then shellFails reason
      return if p.complaints.isEmpty then 0 else 1
  | "pwd" => some showPlace
  | "cd" | "chdir" => some goTo
  | "exit" => some fun arguments => do throw (.exit ((← statusOf arguments.head?) % 256))
  | "return" => some fun arguments => do throw (.back (← statusOf arguments.head?))
  | "break" => some fun arguments => do
    let levels ← loopsOf arguments
    if levels = 0 then return 0 else throw (.leave levels)
  | "continue" => some fun arguments => do
    let levels ← loopsOf arguments
    if levels = 0 then return 0 else throw (.again levels)
  | "kill" => some (killCommand i)
  | "trap" => some trap
  | "wait" => some (wait i)
  | "set" => some setCommand
  | "shift" => some shiftCommand
  | "export" => some exportCommand
  | "readonly" => some readOnlyCommand
  | "local" => some localCommand
  | "unset" => some unsetCommand
  | "read" => some readCommand
  | "getopts" => some getOptionsCommand
  | "alias" => some aliasCommand
  | "unalias" => some unaliasCommand
  | "eval" => some (evalCommand i)
  | "." => some (sourceCommand i)
  | "umask" => some umaskCommand
  | "type" => some fun arguments => do
    let path ← searchPath
    let results ← arguments.mapM (describe path true)
    return if results.all (· = 0) then 0 else 127
  | "command" => some commandCommand
  | "hash" => some hashCommand
  | "jobs" => some jobsCommand
  | "fg" | "bg" => some fun arguments => do
    match arguments with
    | [] => shellFails "No current job"
    | target :: _ => shellFails ("No such job: " ++ target)
  | "times" => some fun _ => do
    writeLine "0m0.000000s 0m0.000000s"
    writeLine "0m0.000000s 0m0.000000s"
    return 0
  | "ulimit" => some fun arguments => do
    let _ ← optionsOf "HSatfdscmlpnvwr" arguments
    writeLine "unlimited"
    return 0
  | "test" => some testCommand
  | "[" => some fun arguments => do
    if arguments.getLast? ≠ some (Text.ofString "]") then shellFails "missing ]"
    testCommand arguments.dropLast
  | _ => none

end Evaluate

end StageParity.Script
