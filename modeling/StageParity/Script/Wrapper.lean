import StageParity.Script.Condition
import StageParity.Script.Inner

/-!
# Programs that run other programs

Programs that start another one with other variables, at another place or for a limited
time, and those that start one again and again.
-/

namespace StageParity.Script

namespace Evaluate

open Step

/-- Load the program that words name, by the search path among the variables. -/
def loaded? (words : List Text) : Step (Except Errno Image.Loaded) := do
  let path := (← lookup Toolchain.pathVariable).getD Toolchain.fallbackPath
  let m ← get
  match Image.find m.disk m.frame.cwd path words with
  | .error .badFormat =>
    match Image.script? m.disk m.frame.cwd path (words.headD []) with
    | some found => return .ok ⟨"sh", [Text.ofString "/bin/sh", found] ++ words.drop 1⟩
    | none => return .error .badFormat
  | result => return result

/-- Become the program that words name; `failure` says what is complained of otherwise. -/
def becomeNamed (i : Inner) (failure : Text → Text) (words : List Text) : Step Unit := do
  match ← loaded? words with
  | .ok loaded => i.become loaded
  | .error errno =>
    Tool.report (failure (words.headD []) ++ ": " ++ errno.message)
    throw (.exit (if errno = .notFound then 127 else 126))

def env (i : Inner) (arguments : List Text) : Step Unit := do
  let arguments := match arguments with
    | [.char '-'] :: rest => Text.ofString "-i" :: rest
    | _ => arguments
  let spec := { OptionSpec.of "iu:0C:" [("ignore-environment", 'i'), ("unset", 'u'), ("null", '0'), ("chdir", 'C')]
    with mixed := false }
  match spec.read (arguments.length + 1) arguments with
  | .error reason => throw (.exit (← Tool.misused 125 reason))
  | .ok given =>
    if given.has 'i' then onFrame fun f => { f with bindings := [] }
    given.options.forM fun (letter, value) => do if letter = 'u' then removeVariable value
    let isSetting := fun (t : Text) => t.contains (.char '=')
    (given.operands.takeWhile isSetting).forM fun setting => do
      let (name, value) := Text.splitFirst (.char '=') setting
      assign name (value.getD [])
    onFrame fun f => { f with exported := f.bindings.map Prod.fst }
    if let some directory := given.value? 'C' then
      match ← ask fun disk cwd => Reach.found disk cwd .target directory with
      | .ok (place, .directory _) => onFrame fun f => { f with cwd := place }
      | .ok _ =>
        Tool.report ("cannot change directory to " ++ alwaysQuoted directory ++ ": Not a directory")
        throw (.exit 125)
      | .error errno =>
        Tool.report ("cannot change directory to " ++ alwaysQuoted directory ++ ": " ++ errno.message)
        throw (.exit 125)
    match given.operands.dropWhile isSetting with
    | [] => throw (.exit (← Tool.printVariables (if given.has '0' then ["-0"] else [])))
    | words => becomeNamed i alwaysQuoted words

def nohup (i : Inner) (arguments : List Text) : Step Unit := do
  let words := if arguments.head? = some (Text.ofString "--") then arguments.drop 1 else arguments
  if words.isEmpty then throw (.exit (← Tool.misused 125 "missing operand"))
  onFrame fun f => { f with traps := (1, []) :: f.traps.filter fun trap => trap.1 ≠ 1 }
  becomeNamed i (fun name => "failed to run command " ++ alwaysQuoted name) words

def nice (i : Inner) (arguments : List Text) : Step Unit := do
  let spec := { OptionSpec.of "n:" [("adjustment", 'n')] with mixed := false }
  match spec.read (arguments.length + 1) arguments with
  | .error reason => throw (.exit (← Tool.misused 125 reason))
  | .ok given =>
    if given.operands.isEmpty then
      writeLine "0"
      throw (.exit 0)
    becomeNamed i alwaysQuoted given.operands

def timeout (i : Inner) (arguments : List Text) : Step Unit := do
  let spec := { OptionSpec.of "s:k:v" [("signal", 's'), ("kill-after", 'k'), ("preserve-status", 'P'),
    ("foreground", 'f'), ("verbose", 'v')] with mixed := false }
  match spec.read (arguments.length + 1) arguments with
  | .error reason => throw (.exit (← Tool.misused 125 reason))
  | .ok given =>
    match given.operands with
    | limit :: first :: rest =>
      match seconds? limit with
      | none => throw (.exit (← Tool.misused 125 ("invalid time interval " ++ alwaysQuoted limit)))
      | some seconds =>
        let m ← get
        let due := m.clock + seconds
        let kills := (given.value? 's').any fun name =>
          name = Text.ofString "KILL" || name = Text.ofString "9"
        if seconds > 0 then
          let sooner := fun (old : Option Float) => match old with
            | some t => some (if m.frame.signalled && t < due then t else due)
            | none => some due
          modify fun m => { m with
            termAt := if kills then m.termAt else sooner m.termAt, killAt := if kills then sooner m.killAt else m.killAt }
        let asked := m.frame.asked
        let result ← attempt <| forked do
          onFrame fun f => { f with signalled := true, asked }
          becomeNamed i (fun name => "failed to run command " ++ alwaysQuoted name) (first :: rest)
        modify fun after => { after with termAt := m.termAt, killAt := m.killAt }
        match result with
        | .ok ending =>
          let expired := seconds > 0 && due ≤ (← get).clock
          if !expired then throw (.exit ending.status)
          else if kills then throw (.killed killNumber (← get).clock)
          else throw (.exit 124)
        | .error stop => throw stop
    | _ =>
      Tool.pointToHelp
      throw (.exit 125)

/-! ## Lists of words -/

/-- The words of a list, and why it has no end. Quotes keep blanks. -/
def listWords : (current : Option Text) → (quote : Option Glyph) → Text → List Text × Option Glyph
  | current, some quote, [] => ((current.map List.reverse).toList, some quote)
  | current, none, [] => ((current.map List.reverse).toList, none)
  | current, some quote, g :: rest =>
    if g = quote then listWords (some (current.getD [])) none rest
    else listWords (some (g :: current.getD [])) (some quote) rest
  | current, none, .char '\\' :: g :: rest => listWords (some (g :: current.getD [])) none rest
  | current, none, g :: rest =>
    if g = .char '\'' || g = .char '"' then listWords (some (current.getD [])) (some g) rest
    else if g.char?.any fun c => c = ' ' || c = '\t' || c = '\n' then
      let (more, open_) := listWords none none rest
      ((current.map List.reverse).toList ++ more, open_)
    else listWords (some (g :: current.getD [])) none rest

def filledIn (mark name : Text) : (fuel : Nat) → Text → Text
  | 0, t => t
  | _, [] => []
  | fuel + 1, g :: rest =>
    if !mark.isEmpty && mark.isPrefixOf (g :: rest) then name ++ filledIn mark name fuel ((g :: rest).drop mark.length)
    else g :: filledIn mark name fuel rest

def runChild (i : Inner) (words : List Text) : Step (Except Errno Ending) := do
  match ← loaded? words with
  | .error errno => return .error errno
  | .ok loaded =>
    let ending ← forked (i.become loaded)
    endIfDue
    return .ok ending

/-- Run programs until one cannot be run, and give the exit status of them all. -/
def runAll (i : Inner) (shows : Bool) : (status : Nat) → List (List Text) → Step Nat
  | status, [] => return status
  | status, words :: rest => do
    if shows then complain (Text.join " " words)
    match ← runChild i words with
    | .error errno =>
      Tool.report (words.headD [] ++ ": " ++ errno.message)
      return if errno = .notFound then 127 else 126
    | .ok ending =>
      if ending.signal.isSome then
        Tool.report (words.headD [] ++ ": terminated by signal " ++ Text.ofNat (ending.signal.getD 0))
        return 125
      else if ending.status = 255 then
        Tool.report (words.headD [] ++ ": exited with status 255; aborting")
        return 124
      else runAll i shows (if ending.status = 0 then status else 123) rest

def xargs (i : Inner) (arguments : List Text) : Step Unit := do
  let spec := { OptionSpec.of "0I:n:L:rtd:P:E:s:x" [("null", '0'), ("replace", 'I'), ("max-args", 'n'), ("max-lines", 'L'),
    ("no-run-if-empty", 'r'), ("verbose", 't'), ("delimiter", 'd'), ("max-procs", 'P')] with mixed := false }
  match spec.read (arguments.length + 1) arguments with
  | .error reason => throw (.exit (← Tool.misused 1 reason))
  | .ok given =>
    let (data, fault) : List UInt8 × Option Errno := match ← drain 0 with
      | .ok data => (data, none)
      | .error errno => ([], some errno)
    let command := if given.operands.isEmpty then [Text.ofString "echo"] else given.operands
    let text := Text.bytewise data
    let splitAt := fun (mark : Glyph) =>
      let parts := text.splitOn mark
      if parts.getLast? = some [] then parts.dropLast else parts
    let lines := (splitAt (.char '\n')).filter fun line =>
      !(line.all fun g => g = .char ' ' || g = .char '\t')
    let (items, open_) : List Text × Option Glyph :=
      if given.has '0' then (splitAt (.char '\x00'), none)
      else if let some mark := given.value? 'd' then
        let mark := if mark = Text.ofString "\\n" then .char '\n' else mark.headD (.char '\n')
        (splitAt mark, none)
      else if given.has 'I' then
        (lines.map fun line => line.dropWhile fun g => g = .char ' ' || g = .char '\t', none)
      else listWords none none text
    let calls : List (List Text) :=
      if let some mark := given.value? 'I' then
        items.map fun item => command.map fun word => filledIn mark item (word.length + 1) word
      else if let some count := (given.value? 'n').bind digits? then
        (piecesOf (max 1 count) (items.length + 1) items).map (command ++ ·)
      else if let some count := (given.value? 'L').bind digits? then
        (piecesOf (max 1 count) (lines.length + 1) lines).map fun group =>
          command ++ (group.flatMap fun line => (listWords none none line).1)
      else if items.isEmpty then (if given.has 'r' then [] else [command])
      else [command ++ items]
    match open_ with
    | some quote =>
      let whole := items.dropLast
      let status ← if whole.isEmpty then pure 0 else runAll i (given.has 't') 0 [command ++ whole]
      let kind : Text := if quote = .char '"' then "double" else "single"
      Tool.report ("unmatched " ++ kind ++
        " quote; by default quotes are special to xargs unless you use the -0 option")
      throw (.exit (max 1 status))
    | none =>
      let status ← runAll i (given.has 't') 0 calls
      match fault with
      | none => throw (.exit status)
      | some errno =>
        let reason : Text := if errno = .badDescriptor then ": " ++ errno.message else []
        Tool.report ("error closing file" ++ reason)
        throw (.exit 1)
where
  piecesOf (size : Nat) : (fuel : Nat) → List Text → List (List Text)
    | 0, _ => []
    | _, [] => []
    | fuel + 1, items => items.take size :: piecesOf size fuel (items.drop size)

end Evaluate

end StageParity.Script
