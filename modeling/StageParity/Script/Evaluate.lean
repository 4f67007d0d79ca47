import StageParity.Script.Builtin
import StageParity.Script.Grammar

/-!
# Running commands

What commands do on a machine.
-/

namespace StageParity.Script

namespace Evaluate

open Step

/-- Exit after a failure if the shell is strict and the command is no test. -/
def heed : Step Unit := do
  let f ← frame
  if f.has 'e' && !f.tests && f.status ≠ 0 then throw (.exit f.status)

/-! ## Words -/

/-- The word of a phrase that sets a variable, with its value unsplit. -/
def settingWord (i : Inner) (name : Text) (value : Phrase) : Step Text := do
  return name ++ "=" ++ (← word i .setting value)

/-- The name of the command that words call, behind those that only introduce it. -/
def calledName (words : List Text) : Option Text :=
  words.find? fun t => t ≠ Text.ofString "command" && t.head? ≠ some (.char '-')

/-- The words of a command. Those that set variables are not split if the command is one
that sets them. -/
def commandWords (i : Inner) : (found : List Text) → List Phrase → Step (List Text)
  | found, [] => return found
  | found, phrase :: rest => do
    let sets := (calledName found).any fun name => setting.contains (Condition.stringOf name)
    let more ← match if sets then Reading.setting? phrase else none with
      | some (name, value) => pure [← settingWord i name value]
      | none => words i [phrase]
    commandWords i (found ++ more) rest

/-! ## Calls -/

def assignAll (i : Inner) (exports : Bool) : List (Text × Phrase) → Step (List (Text × Text))
  | [] => return []
  | (name, phrase) :: rest => do
    let value ← word i .setting phrase
    setVariable name value
    if exports && !(← frame).exported.contains name then
      onFrame fun f => { f with exported := f.exported ++ [name] }
    return (name, value) :: (← assignAll i exports rest)

/-- Show a command before it runs, on the standard error that was before its own
redirections. -/
def showCommand (i : Inner) (out : Option Sink) (settings : List (Text × Text)) (arguments : List Text) :
    Step Unit := do
  if (← frame).has 'x' then
    let mark : Text := (← lookup "PS4").getD []
    let shown ← match phraseOf mark with
      | .ok phrase => do
        onFrame fun f => { f with options := f.options.filter (· ≠ 'x') }
        let shown ← word i .text phrase
        onFrame fun f => { f with options := 'x' :: f.options }
        pure shown
      | .error _ => pure mark
    let parts := settings.map (fun s => s.1 ++ Text.ofString "=" ++ s.2) ++ arguments
    if let some sink := out then writeTo sink ((shown ++ Text.join " " parts).encode ++ [10])

def callFunction (i : Inner) (routine : Routine) (arguments : List Text) : Step Unit := do
  let before ← frame
  onFrame fun f => { f with
    arguments, locals := some [], loops := 0, lineBase := routine.line - 1, optionIndex := 1, letterIndex := 0 }
  let result ← attempt (notLast (i.run routine.body))
  restoreLocals ((← frame).locals.getD [])
  onFrame fun f => { f with
    arguments := before.arguments, locals := before.locals, loops := before.loops, lineBase := before.lineBase,
    optionIndex := before.optionIndex, letterIndex := before.letterIndex }
  match result with
  | .ok () => return
  | .error (.back status) => setStatus status
  | .error stop => throw stop

/-- Carry out a built-in command. What it cannot write is told. -/
def carryOut (name : Text) (isSpecial : Bool) (act : List Text → Step Nat) (arguments : List Text) :
    Step Unit := do
  let before ← frame
  onFrame fun f => { f with label := name, lost := none }
  let result ← attempt (act arguments)
  let lost := (← frame).lost.isSome
  let result ← match result with
    | .ok status =>
      if lost then shellComplains (name ++ ": I/O error")
      pure (.ok (if lost then status ||| 1 else status))
    | other => pure other
  onFrame fun f => { f with label := before.label, lost := before.lost }
  match result with
  | .ok status => setStatus status
  | .error .failed => if isSpecial then throw .failed else setStatus 2
  | .error stop => throw stop

def external (i : Inner) (arguments : List Text) : Step Unit := do
  let f ← frame
  let name := arguments.headD []
  match ← searchFault? name with
  | some errno =>
    unrunnable name errno
    setStatus 127
  | none =>
    if f.inTail && !f.hasActions then
      replace i arguments
      throw (.exit (← frame).status)
    else
      hash name
      awaited (replace i arguments)

/-- What a command is called by: its words without those that only introduce it, whether
functions count, and the search path if it is fixed. -/
structure Call where
  words : List Text
  introduced : Bool
  fixedPath : Bool

/-- Take the words off that only introduce a command. -/
def callOf (functions : List (Text × Routine)) : (fuel : Nat) → List Text → Call
  | 0, words => ⟨words, false, false⟩
  | fuel + 1, words =>
    match words with
    | first :: rest =>
      if first = Text.ofString "command" && (functions.lookup first).isNone then
        let isPath := fun (t : Text) => t = Text.ofString "-p"
        let after := rest.dropWhile isPath
        match after with
        | [.char '-', .char '-'] :: second :: more =>
          ⟨(callOf [] fuel (second :: more)).words, true, rest.any isPath⟩
        | second :: more =>
          if second.head? = some (.char '-') then ⟨words, false, false⟩
          else ⟨(callOf [] fuel (second :: more)).words, true, !(rest.takeWhile isPath).isEmpty⟩
        | [] => ⟨words, false, false⟩
      else ⟨words, false, false⟩
    | [] => ⟨[], false, false⟩

/-- Run a step with variables that are set only for it. -/
def withSettings (i : Inner) (settings : List (Text × Phrase)) (exports : Bool)
    (step : List (Text × Text) → Step Unit) : Step Unit := do
  if settings.isEmpty then step []
  else
    let before ← frame
    let result ← attempt do
      let values ← assignAll i exports settings
      step values
    onFrame fun f => { f with
      bindings := settings.foldl (fun bindings (name, _) =>
        let others := bindings.filter fun v => v.1 ≠ name
        others ++ ((before.bindings.lookup name).toList.map fun value => (name, value))) f.bindings
      exported := settings.foldl (fun exported (name, _) =>
        if before.exported.contains name then exported else exported.filter (· ≠ name)) f.exported }
    match result with
    | .ok () => return
    | .error stop => throw stop

def call (i : Inner) (settings : List (Text × Phrase)) (redirects : List Redirect)
    (arguments : List Text) : Step Unit := do
  let f ← frame
  let shownTo ← sink? 2
  let c := callOf f.functions (arguments.length + 1) arguments
  let name := c.words.headD []
  let rest := c.words.drop 1
  let known := Condition.stringOf name
  let isSpecial := special.contains known && !c.introduced
  let shows := fun (values : List (Text × Text)) => showCommand i shownTo values arguments
  let routine? := if c.introduced then none else f.functions.lookup name
  match routine? with
  | some routine =>
    redirected i redirects <| withSettings i settings true fun values => do
      shows values
      callFunction i routine rest
  | none =>
    if known = "exec" then
      if ← redirectAll i redirects then
        let values ← assignAll i (!rest.isEmpty) settings
        shows values
        if rest.isEmpty then setStatus 0
        else
          onFrame fun f => { f with label := name }
          replace i rest
          throw (.exit (← frame).status)
      else if isSpecial then throw .failed
      else setStatus 2
    else
      match builtin? i known with
      | some act =>
        if isSpecial then
          let before := (← frame).descriptors
          if !(← redirectAll i redirects) then throw .failed
          let result ← attempt do
            let values ← assignAll i false settings
            shows values
            carryOut name true act rest
          onFrame fun f => { f with descriptors := before }
          match result with
          | .ok () => return
          | .error stop => throw stop
        else
          redirected i redirects <| withSettings i settings true fun values => do
            shows values
            carryOut name false act rest
      | none =>
        redirected i redirects <| withSettings i settings true fun values => do
          shows values
          if c.fixedPath then
            withSettings i [(Toolchain.pathVariable, [.text standardPath true])] false fun _ =>
              external i c.words
          else external i c.words

def simple (i : Inner) (line : Nat) (settings : List (Text × Phrase)) (phrases : List Phrase)
    (redirects : List Redirect) : Step Unit := do
  onFrame fun f => { f with line, outputStatus := 0 }
  let arguments ← commandWords i [] phrases
  if arguments.isEmpty then
    let shownTo ← sink? 2
    redirected i redirects do
      let values ← assignAll i false settings
      if !values.isEmpty then showCommand i shownTo values []
      setStatus (← frame).outputStatus
  else call i settings redirects arguments
  signals i

/-! ## Loops and tests -/

def tested (step : Step Unit) : Step Bool := do
  restoring (fun before after => { after with tests := before.tests }) do
    onFrame fun f => { f with tests := true }
    notLast step
  return (← frame).status = 0

def maxRounds : Nat := 50000

def afterRound (result : Except Stop Unit) : Step Bool :=
  match result with
  | .ok () => return true
  | .error (.leave levels) => if levels ≤ 1 then return false else throw (.leave (levels - 1))
  | .error (.again levels) => if levels ≤ 1 then return true else throw (.again (levels - 1))
  | .error stop => throw stop

def rounds (round : Step Bool) : Nat → Step Unit
  | 0 => throw .over
  | n + 1 => do if ← round then rounds round n

def roundsOver (body : Text → Step Unit) : List Text → Step Unit
  | [] => return
  | item :: rest => do if ← afterRound (← attempt (body item)) then roundsOver body rest

def inLoop (step : Step Unit) : Step Unit :=
  restoring (fun before after => { after with loops := before.loops }) do
    onFrame fun f => { f with loops := f.loops + 1 }
    step

def fits (i : Inner) (subject : Text) (pattern : Phrase) : Step Bool := do
  return Pattern.fits (Expand.piecesOf (← i.expand .text pattern)) subject

def fitsAny (i : Inner) (subject : Text) : List Phrase → Step Bool
  | [] => return false
  | pattern :: rest => do if ← fits i subject pattern then return true else fitsAny i subject rest

def chooseArm (i : Inner) (subject : Text) : List (List Phrase × Command) → Step (Option Command)
  | [] => return none
  | (patterns, body) :: rest => do
    if ← fitsAny i subject patterns then return some body else chooseArm i subject rest

/-- Run a step as the last one of a shell, and then the script that the shell runs on its
exit. -/
def finishing (i : Inner) (step : Step Unit) : Step Unit := do
  let finish := fun (status : Nat) => do
    match (← frame).disposition 0 with
    | .action script =>
      onFrame fun f => { f with
        traps := f.traps.filter (fun trap => trap.1 ≠ 0), status, label := [], tests := false, loops := 0,
        locals := none, lineBase := 0 }
      match ← attempt (notLast (i.script script)) with
      | .ok () => throw (.exit status)
      | .error .failed => throw (.exit 2)
      | .error (.back _) => throw (.exit status)
      | .error stop => throw stop
    | _ => throw (.exit status)
  match ← attempt step with
  | .ok () => finish (← frame).status
  | .error (.exit status) => finish status
  | .error (.back status) => finish (status % 256)
  | .error .failed => finish 2
  | .error (.leave _) | .error (.again _) => finish (← frame).status
  | .error stop => throw stop

def stagesOf : Command → List Command
  | .pipe first second => first :: stagesOf second
  | command => [command]

/-- How a command of a pipeline ended, and when. -/
structure Departure where
  time : Float
  ending : Ending

/-- Run a command of a pipeline as a process of its own. A command that never ends departs
when the clock has run out. -/
def stage (i : Inner) (input : Option Nat) (command : Command) : Step Departure := do
  let result ← attempt <| forked <| finishing i do
    if let some index := input then connect 0 (some ⟨some index, none⟩)
    i.run command
  match result with
  | .ok ending => return ⟨(← get).clock, ending⟩
  | .error _ => return ⟨forever, ⟨0, none⟩⟩

/-- Run the commands of a pipeline, each on what the one before it writes. They start
together. One that writes after its reader has gone is ended by that: it runs again, into
a pipe that breaks at this time. -/
def pipeline (i : Inner) (input : Option Nat) : List Command → Step (List Departure)
  | [] => return []
  | [last] => return [← stage i input last]
  | first :: second :: rest => do
    let before ← get
    let run := fun (brokenAt : Option Float) (others : Nat → Step (List Departure)) => do
      let (departure, written) ← captured brokenAt (stage i input first)
      modify fun m => { m with
        clock := before.clock, heldUntil := if departure.time = forever then before.heldUntil else m.heldUntil }
      let index ← newInput ⟨written, false, departure.time, false, none⟩
      return (departure, written, ← others index)
    let (departure, written, others) ← run none fun index => pipeline i (some index) (second :: rest)
    let left := (others.head?.map Departure.time).getD forever
    let (departure, written, others) ←
      if written.any fun piece => left < piece.time then do
        set before
        run (some left) fun index => pipeline i (some index) (second :: rest)
      else pure (departure, written, others)
    let departure := if departure.time = forever && !written.isEmpty then
        ⟨left, ⟨128 + pipeNumber, some pipeNumber⟩⟩
      else departure
    modify fun m => { m with heldUntil := if m.heldUntil < departure.time then departure.time else m.heldUntil }
    return departure :: others

/-- Wait for the commands of a pipeline, the first to depart first, and tell of the signals
that ended them. The status is that of the last. -/
def piped (i : Inner) (commands : List Command) : Step Unit := do
  let start := (← get).clock
  let departures ← pipeline i none commands
  modify fun m => { m with clock := start }
  (departures.mergeSort fun a b => a.time ≤ b.time).forM fun departure => do
    awaitUntil false departure.time
    endIfDue
    if let some text := departure.ending.signal.bind signalText? then complain text
  setStatus ((departures.getLast?.map fun departure => departure.ending.status).getD 0)

def inBackground (i : Inner) (body : Command) : Step Unit := do
  let m ← get
  let id := m.nextJob
  set { m with nextJob := id + 1 }
  let result ← attempt <| forked <| finishing i do
    onFrame fun f => { f with job := id, traps := [(2, []), (3, [])] ++ f.traps }
    feed 0 [] false
    i.run body
  let clock := (← get).clock
  let job : Job := match result with
    | .ok ending => ⟨id, clock, ending.status, ending.signal, false, false⟩
    | .error _ => ⟨id, forever, 0, none, false, false⟩
  modify fun after => { after with
    clock := m.clock,
    heldUntil := if job.endsAt < forever then after.heldUntil else forever }
  onFrame fun f => { f with
    jobs := f.jobs.filter (fun job => !job.asked) ++ [job], lastJob := some id, status := 0 }

def inSubshell (i : Inner) (body : Command) (redirects : List Redirect) : Step Unit := do
  let f ← frame
  let step := redirected i redirects (i.run body)
  if f.inTail && !f.hasActions then
    step
    throw (.exit (← frame).status)
  else awaited (finishing i step)

def run (i : Inner) (command : Command) : Step Unit := do
  if (← frame).has 'n' then return
  match command with
  | .nothing => return
  | .simple line settings phrases redirects =>
    simple i line settings phrases redirects
    heed
  | .sequence first .nothing => i.run first
  | .sequence first second =>
    notLast (i.run first)
    i.run second
  | .andThen first second => if ← tested (i.run first) then i.run second
  | .orElse first second => if !(← tested (i.run first)) then i.run second
  | .negate body =>
    let held ← tested (i.run body)
    setStatus (if held then 1 else 0)
  | .pipe first second =>
    piped i (first :: stagesOf second)
    signals i
    heed
  | .background body => inBackground i body
  | .choose test yes no =>
    if ← tested (i.run test) then i.run yes
    else
      setStatus 0
      i.run no
  | .loop stopOnSuccess test body =>
    inLoop do
      setStatus 0
      rounds (do
        let before := (← frame).status
        let (goesOn, held) ← match ← attempt (tested (i.run test)) with
          | .ok held => pure (true, held)
          | .error stop => pure (← afterRound (.error stop), stopOnSuccess)
        if !goesOn then return false
        else if held != stopOnSuccess then afterRound (← attempt (notLast (i.run body)))
        else
          setStatus before
          return false) maxRounds
  | .each line name items body =>
    onFrame fun f => { f with line }
    let values ← match items with
      | some phrases => words i phrases
      | none => pure (← frame).arguments
    setStatus 0
    inLoop <| roundsOver (fun value => do
      setVariable name value
      notLast (i.run body)) values
  | .select line subject arms =>
    onFrame fun f => { f with line }
    let subject ← word i .text subject
    let chosen ← chooseArm i subject arms
    setStatus 0
    match chosen with
    | some body => i.run body
    | none => return
  | .redirected _ body [] => i.run body
  | .redirected line body redirects =>
    onFrame fun f => { f with line }
    let before := (← frame).descriptors
    if ← redirectAll i redirects then
      let result ← attempt (notLast (i.run body))
      onFrame fun f => { f with descriptors := before }
      match result with
      | .ok () => return
      | .error stop => throw stop
    else
      onFrame fun f => { f with descriptors := before, status := 2 }
      heed
  | .subshell line body redirects =>
    onFrame fun f => { f with line }
    inSubshell i body redirects
    signals i
    heed
  | .define line name body =>
    onFrame fun f => { f with
      functions := (name, ⟨line, body⟩) :: f.functions.filter (fun item => item.1 ≠ name), status := 0 }

def outputOf (i : Inner) (body : Command) : Step (List UInt8) := do
  let before := (← frame).status
  let ((), written) ← captured none do
    awaited <| finishing i do
      onFrame fun f => { f with tests := false }
      i.run body
  onFrame fun f => { f with outputStatus := f.status, status := before }
  return Piece.bytes written

def expand (i : Inner) (how : Expansion) (phrase : Phrase) : Step (List Bit) :=
  Expand.parts (Expand.part (outputOf i) i.expand how) true phrase

/-- Run the lines of a script, each before the next is read. -/
def scriptLines (i : Inner) : (fuel : Nat) → Source → Step Unit
  | 0, _ => return
  | fuel + 1, source => do
    match nextLine? { source with aliases := (← frame).aliases } with
    | .ok none => return
    | .ok (some (command, rest)) =>
      if rest.rest.isEmpty && source.rest.getLast? ≠ some (.char '\n') then i.run command
      else
        notLast (i.run command)
        scriptLines i fuel rest
    | .error flaw =>
      onFrame fun f => { f with line := flaw.line, lineBase := 0 }
      shellFails ("Syntax error: " ++ flaw.reason)

def script (i : Inner) (text : Text) : Step Unit := scriptLines i (text.length + 1) (Source.start text)

end Evaluate

end StageParity.Script
