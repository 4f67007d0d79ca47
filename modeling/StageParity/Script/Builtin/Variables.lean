import StageParity.Script.Builtin.Basic

/-!
# Variables, options and arguments

The commands that set the state of a shell and show it.
-/

namespace StageParity.Script

namespace Evaluate

open Step

/-! ## Options -/

def optionNames : List (String × Option Char) :=
  [("errexit", some 'e'), ("noglob", some 'f'), ("ignoreeof", some 'I'), ("interactive", some 'i'),
   ("monitor", some 'm'), ("noexec", some 'n'), ("stdin", some 's'), ("xtrace", some 'x'),
   ("verbose", some 'v'), ("vi", some 'V'), ("emacs", some 'E'), ("noclobber", some 'C'),
   ("allexport", some 'a'), ("notify", some 'b'), ("nounset", some 'u'), ("privileged", some 'p'),
   ("nolog", none), ("debug", none)]

def switchLetter (letter : Char) (on : Bool) : Step Unit := do
  if on && letter = 'm' then shellComplains "can't access tty; job control turned off"
  else if optionLetters.contains letter then
    onFrame fun f =>
      let others := f.options.filter (· ≠ letter)
      { f with options := if on then letter :: others else others }
  else shellFails ("Illegal option -" ++ Text.ofChars [letter])

/-- Show the options, as a table or as the commands that set them. -/
def showOptions (table : Bool) : Step Unit := do
  let f ← frame
  if table then writeLine "Current option settings"
  optionNames.forM fun (name, letter) => do
    let on := letter.any f.has
    if table then
      let filled := Text.ofString name ++ List.replicate (16 - name.length) (.char ' ')
      writeLine (filled ++ (if on then Text.ofString "on" else "off"))
    else writeLine ((if on then Text.ofString "set -o " else "set +o ") ++ Text.ofString name)

def switchNamed (name : Text) (on : Bool) : Step Unit := do
  match optionNames.find? fun item => Text.ofString item.1 = name with
  | some (_, some letter) => switchLetter letter on
  | some (_, none) => return
  | none => shellFails ("Illegal option -o " ++ name)

/-- Switch the options of a cluster of letters. A long name is taken from the words after
it. `commandLine` tells whether a shell is being started, which knows one letter more; the
first result says whether that letter was there. -/
def switchLetters (commandLine on : Bool) : Text → List Text → Step (Bool × List Text)
  | [], rest => return (false, rest)
  | g :: more, rest => do
    let letter := g.char?.getD '?'
    if letter = 'o' then
      match rest with
      | name :: rest =>
        switchNamed name on
        switchLetters commandLine on more rest
      | [] =>
        showOptions on
        switchLetters commandLine on more []
    else if commandLine && letter = 'c' then
      let (_, rest) ← switchLetters commandLine on more rest
      return (true, rest)
    else if commandLine && letter = 'l' then switchLetters commandLine on more rest
    else
      if !optionLetters.contains letter then shellFails ("Illegal option -" ++ [g])
      switchLetter letter on
      switchLetters commandLine on more rest

/-- What the options at the start of words leave. -/
structure Switched where
  /-- Whether a script is among the words. -/
  inline : Bool
  marked : Bool
  operands : List Text

def switchOptions (commandLine : Bool) : (fuel : Nat) → List Text → Step Switched
  | 0, operands => return ⟨false, false, operands⟩
  | _, [] => return ⟨false, false, []⟩
  | fuel + 1, word :: rest => do
    match word with
    | [.char '-'] =>
      if !commandLine then onFrame fun f => { f with options := f.options.filter fun c => c ≠ 'x' && c ≠ 'v' }
      return ⟨false, false, rest⟩
    | [.char '-', .char '-'] => return ⟨false, true, rest⟩
    | .char '-' :: letters =>
      let (inline, rest) ← switchLetters commandLine true letters rest
      let more ← switchOptions commandLine fuel rest
      return { more with inline := inline || more.inline }
    | .char '+' :: letters =>
      let (_, rest) ← switchLetters commandLine false letters rest
      switchOptions commandLine fuel rest
    | _ => return ⟨false, false, word :: rest⟩

def setArguments (arguments : List Text) : Step Unit :=
  onFrame fun f => { f with arguments, optionIndex := 1, letterIndex := 0 }

/-! ## Variables -/

def showVariables (word : Text) (names : List Text) : Step Unit := do
  let f ← frame
  (names.mergeSort Text.le).forM fun name => do
    let value : Text := match f.bindings.lookup name with
      | some value => "=" ++ singleQuoted value
      | none => []
    writeLine (word ++ name ++ value)

def setCommand (arguments : List Text) : Step Nat := do
  if arguments.isEmpty then
    showVariables [] ((← frame).bindings.map Prod.fst)
    return 0
  let switched ← switchOptions false (arguments.length + 1) arguments
  if switched.marked || !switched.operands.isEmpty then setArguments switched.operands
  return 0

/-- Mark variables, and set those with values. `mark` adds a name to those that are marked,
which `marked` gives. -/
def markVariables (word : Text) (marked : Frame → List Text) (mark : Text → Frame → Frame)
    (arguments : List Text) : Step Nat := do
  let given ← optionsOf "p" arguments
  if given.operands.isEmpty || given.has 'p' then
    showVariables word (marked (← frame)).eraseDups
    return 0
  given.operands.forM fun argument => do
    let (name, value) := settingOf argument
    checkName name
    if let some value := value then setVariable name value
    onFrame (mark name)
  return 0

def exportCommand : List Text → Step Nat :=
  markVariables "export " Frame.exported fun name f =>
    if f.exported.contains name then f else { f with exported := f.exported ++ [name] }

def readOnlyCommand : List Text → Step Nat :=
  markVariables "readonly " Frame.readOnly fun name f =>
    if f.readOnly.contains name then f else { f with readOnly := f.readOnly ++ [name] }

/-- Remember the value that a variable has outside of the function that runs now. -/
def makeLocal (name : Text) : Step Unit := do
  let f ← frame
  let locals := f.locals.getD []
  if (locals.lookup name).isNone then
    onFrame fun f => { f with locals := some ((name, f.bindings.lookup name) :: locals) }

def localCommand (arguments : List Text) : Step Nat := do
  if (← frame).locals.isNone then shellFails "not in a function"
  arguments.forM fun argument => do
    let (name, value) := settingOf argument
    checkName name
    makeLocal name
    if let some value := value then setVariable name value
  return 0

def restoreLocals (locals : List (Text × Option Text)) : Step Unit :=
  locals.forM fun (name, value) => do
    match value with
    | some value =>
      assign name value
      if name = Text.ofString "OPTIND" then onFrame fun f => { f with letterIndex := 0 }
    | none => onFrame fun f => { f with bindings := f.bindings.filter fun v => v.1 ≠ name }

def unsetCommand (arguments : List Text) : Step Nat := do
  let given ← optionsOf "fv" arguments
  given.operands.forM fun name => do
    if given.last? ['f', 'v'] = some 'f' then
      onFrame fun f => { f with functions := f.functions.filter fun item => item.1 ≠ name }
    else
      checkName name
      if (← frame).readOnly.contains name then shellFails (name ++ ": is read only")
      removeVariable name
  return 0

def shiftCommand (arguments : List Text) : Step Nat := do
  let count ← match arguments with
    | t :: _ => numberOf t
    | [] => pure 1
  let f ← frame
  if f.arguments.length < count then shellFails "can't shift that many"
  setArguments (f.arguments.drop count)
  return 0

/-! ## Other words for words -/

def aliasCommand (arguments : List Text) : Step Nat := do
  let show_ := fun (item : Text × Text) => writeLine (item.1 ++ "=" ++ singleQuoted item.2)
  if arguments.isEmpty then
    (← frame).aliases.forM show_
    return 0
  let results ← arguments.mapM fun argument => do
    match argument with
    | g :: rest =>
      match Text.splitFirst (.char '=') rest with
      | (name, some value) =>
        onFrame fun f => { f with aliases := (g :: name, value) :: f.aliases.filter fun item => item.1 ≠ g :: name }
        return true
      | (_, none) =>
        match (← frame).aliases.lookup argument with
        | some value =>
          show_ (argument, value)
          return true
        | none =>
          complain ("alias: " ++ argument ++ " not found")
          return false
    | [] =>
      complain "alias:  not found"
      return false
  return if results.all id then 0 else 1

def unaliasCommand (arguments : List Text) : Step Nat := do
  let given ← optionsOf "a" arguments
  if given.has 'a' then
    onFrame fun f => { f with aliases := [] }
    return 0
  let results ← given.operands.mapM fun name => do
    if ((← frame).aliases.lookup name).isSome then
      onFrame fun f => { f with aliases := f.aliases.filter fun item => item.1 ≠ name }
      return true
    else
      complain ("unalias: " ++ name ++ " not found")
      return false
  return if results.all id then 0 else 1

end Evaluate

end StageParity.Script
