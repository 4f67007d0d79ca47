import StageParity.Script.Evaluate
import StageParity.Script.Search

/-!
# Running programs

What a program does in place of a process: a shell with its script, or a tool. `inner` ties
the levels of commands together.
-/

namespace StageParity.Script

namespace Evaluate

open Step

/-- Let a process that runs on meet the signals that are still to come. -/
def outlast (i : Inner) : Step Unit := do
  let m ← get
  let term ← timeOf Machine.termAt
  let kill ← timeOf Machine.killAt
  let sent := (m.messages.filter (isFor m.frame)).map Message.time
  ((sent ++ term.toList ++ kill.toList).mergeSort (· ≤ ·)).forM fun time => do
    modify fun m => { m with clock := if m.clock < time then time else m.clock }
    signals i
  throw .over

def shellBody (i : Inner) (text : Text) : Step Unit :=
  finishing i do
    match ← attempt (i.script text) with
    | .ok () => return
    | .error .over => outlast i
    | .error stop => throw stop

/-- The variables that a shell starts with when its environment does not set them. -/
def standardVariables : List (Text × Text) :=
  [("OPTIND", "1"), ("PATH", standardPath), ("PS1", "$ "), ("PS2", "> "), ("PS4", "+ ")]

/-- Give a shell the variables of its environment and those that every shell has. -/
def startVariables (parent : Nat) : Step Unit := do
  let f ← frame
  let here : Text := "PWD"
  let fields : Text := "IFS"
  let given := f.bindings.filter fun v => Reading.isName v.1 && v.1 ≠ fields
  let way ← match given.lookup here with
    | some way =>
      let fine ← ask fun disk cwd => match Reach.found disk cwd .target way with
        | .ok (place, _) => way.head? = some Path.slash && place = cwd
        | .error _ => false
      pure (if fine then way else locationText f.cwd)
    | none => pure (locationText f.cwd)
  let more := standardVariables.filter fun v => (given.lookup v.1).isNone
  let others := given.filter fun v => v.1 ≠ here
  onFrame fun f => { f with
    way,
    bindings := others ++ more ++ [(fields, standardSeparators), ("PPID", Text.ofNat parent), (here, way)],
    exported := others.map Prod.fst ++ [here] }

def shell (i : Inner) (name : Text) (arguments : List Text) : Step Unit := do
  let before ← frame
  if !before.isShell then
    modify fun m => { m with
      nextNumber := m.nextNumber + 1,
      frame := { m.frame with number := m.nextNumber, isShell := true } }
  onFrame fun f => { f with
    name, line := 0, lineBase := 0, label := [], options := [], inTail := false, tests := false, loops := 0,
    locals := none, functions := [], aliases := [], hashed := [], readOnly := [], jobs := [], lastJob := none,
    status := 0, arguments := [], optionIndex := 1, letterIndex := 0 }
  startVariables (if before.isShell then parentNumber else before.number)
  let run := do
    let switched ← switchOptions true (arguments.length + 1) arguments
    match switched.inline, switched.operands with
    | true, [] => shellFails "-c requires an argument"
    | true, text :: rest =>
      onFrame fun f => { f with name := rest.headD name, arguments := rest.drop 1, inTail := true }
      return text
    | false, operands =>
      match if (← frame).has 's' then [] else operands with
      | [] =>
        onFrame fun f => { f with arguments := operands, options := 's' :: f.options.filter (· ≠ 's') }
        match ← drain 0 with
        | .ok data => return Text.bytewise data
        | .error _ => return []
      | path :: rest =>
        match ← Tool.bytesAt path with
        | .ok data =>
          onFrame fun f => { f with name := path, arguments := rest }
          return Text.bytewise data
        | .error errno =>
          if errno = .isDirectory then return []
          shellFails (redirectComplaint false path errno)
  match ← attempt run with
  | .ok text => shellBody i text
  | .error .failed => throw (.exit 2)
  | .error stop => throw stop

/-- How long a program takes to start, in seconds. -/
def startCost : Float := 0.001

def become (i : Inner) (loaded : Image.Loaded) : Step Unit := do
  modify fun m => { m with clock := m.clock + startCost }
  let name := loaded.words.headD []
  let arguments := loaded.words.drop 1
  onFrame fun f => { f with name, exported := f.bindings.map Prod.fst, lost := none, engaged := false }
  match loaded.tool with
  | "sh" | "dash" | "bash" => shell i name arguments
  | "env" => env i arguments
  | "nohup" => nohup i arguments
  | "nice" => nice i arguments
  | "timeout" => timeout i arguments
  | "xargs" => xargs i arguments
  | "find" => find i arguments
  | tool =>
    match Tool.table.lookup tool with
    | some step =>
      let status ← if tool = "cat" && (← sink? 1).isNone then do
          lose .badDescriptor
          pure 1
        else step arguments
      if (← frame).engaged then sleepUntil forever
      match (← frame).lost with
      | some errno =>
        let (complaints, status) := Tool.lossReport tool errno
        complaints.forM Tool.report
        throw (.exit status)
      | none => throw (.exit status)
    | none => throw (.exit 127)

end Evaluate

def inner : (depth : Nat) → Inner
  | 0 => ⟨fun _ => throw .over, fun _ _ => throw .over, fun _ => throw .over, fun _ => throw .over⟩
  | depth + 1 =>
    let i := inner depth
    ⟨Evaluate.run i, Evaluate.expand i, Evaluate.script i, Evaluate.become i⟩

end StageParity.Script
