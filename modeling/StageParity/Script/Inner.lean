import StageParity.Script.Expand
import StageParity.Script.Image

/-!
# What a command can call upon

A command runs its inner commands through `Inner`, which goes one level less deep.
-/

namespace StageParity.Script

/-- What a command can call upon. -/
structure Inner where
  run : Command → Step Unit
  expand : Expansion → Phrase → Step (List Bit)
  script : Text → Step Unit
  /-- Run a program in place of the process. -/
  become : Image.Loaded → Step Unit

namespace Evaluate

open Step

/-- Stand still until a signal comes that no process survives. -/
def standStill : Step Unit := do
  match ← timeOf Machine.killAt with
  | some time =>
    advance time
    throw (.killed killNumber time)
  | none => throw .over

def answer (i : Inner) (signal : Nat) (time : Float) : Step Unit := do
  match (← frame).disposition signal with
  | .ignored => return
  | .standard =>
    if signal = stopNumber then standStill
    else if !harmless.contains signal then throw (.killed signal time)
  | .action script =>
    let before ← frame
    onFrame fun f => { f with tests := false }
    notLast (i.script script)
    onFrame fun f => { f with status := before.status, tests := before.tests, line := before.line }

def isFor (f : Frame) (message : Message) : Bool := f.isShell && f.number = message.shell

def signals (i : Inner) : Step Unit := do
  endIfDue
  let m ← get
  let term ← timeOf Machine.termAt
  if hasCome m.clock term && !m.frame.asked then
    onFrame fun f => { f with asked := true }
    answer i termNumber (term.getD m.clock)
  let m ← get
  let isDue := fun (message : Message) => isFor m.frame message && message.time ≤ m.clock
  set { m with messages := m.messages.filter fun message => !isDue message }
  (m.messages.filter isDue).forM fun message => answer i message.signal message.time

/-- The words of bits: their fields, and the paths that these stand for. -/
def fieldWords (bits : List Bit) : Step (List Text) := do
  let fields := splitFields (← Expand.separators) bits
  let m ← get
  return if m.frame.has 'f' then fields.map Field.text
    else fields.flatMap (Field.words m.disk m.frame.cwd)

def words (i : Inner) (phrases : List Phrase) : Step (List Text) := do
  let parts ← phrases.mapM fun phrase => do fieldWords (← i.expand .words phrase)
  return parts.flatten

def word (i : Inner) (how : Expansion) (phrase : Phrase) : Step Text :=
  return Field.text (Bit.marks (← i.expand how phrase))

end Evaluate

end StageParity.Script
