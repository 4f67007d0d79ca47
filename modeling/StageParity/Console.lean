import StageParity.Report.Render
import StageParity.Session
import StageParity.Text.Markup
import StageParity.Text.Width

/-!
# Console

What a run prints: the progress of the run, and at its end the report.
-/

namespace StageParity

def tabWidth : Nat := 8

/-- The text of parts that tabs divide, in which every tab is a space and as many more
spaces as reach the next tab column. `column` is the number of cells before it. -/
def Text.alignTabs (column : Nat) : List Text → Text
  | [] => []
  | [last] => last
  | part :: rest =>
    let part := part ++ [.char ' ']
    let column := column + part.cells
    let spaces := (tabWidth - column % tabWidth) % tabWidth
    part ++ List.replicate spaces (.char ' ') ++ alignTabs (column + spaces) rest

def Text.expandTabs (t : Text) : Text :=
  Text.join [.char '\n'] ((t.splitOn (.char '\n')).map fun line =>
    alignTabs 0 (line.splitOn (.char '\t')))

def Text.onConsole (t : Text) : Text := t.shown.expandTabs

/-- The fault of the first error whose further lines hold halves of surrogate pairs, which have
no form that can be printed. -/
def Report.unprintable? (r : Report) : Option FileFault :=
  r.fatalErrors.findSome? fun message =>
    (message.splitFirst (.char '\n')).2.bind Disk.unnameable?

namespace Run

def write (t : Text) : Run Unit := modify fun s => { s with console := s.console ++ t.onConsole }

def print (t : Text) : Run Unit := write (t ++ [.char '\n'])

def stepCount : Nat := 2 + CheckKind.order.length

def printStep (number : Nat) (title : Text) : Run Unit := do
  print []
  print ("[" ++ Text.ofNat number ++ "/" ++ Text.ofNat stepCount ++ "] " ++ title)

def printMarked (colour mark : String) (message : Text) : Run Unit :=
  print (Markup.shown ("[" ++ colour ++ "]" ++ mark ++ " " ++ Markup.escape message ++ "[/]"))

def printOk (message : Text) : Run Unit := printMarked "green" "✓" message

def printWarning (message : Text) : Run Unit := printMarked "yellow" "⚠" message

def printError (message : Text) : Run Unit := printMarked "red" "✗" message

def printCommandEvent (event : CommandEvent) : Run Unit :=
  printWarning (event.detail ++ ": " ++ event.command)

def printOutput (stage : Stage) (output : Captured) : Run Unit := do
  print (stage.label ++ " (exit " ++ Text.ofInt output.exitStatus ++ "):")
  print ((output.stdout ++ output.stderr).printable.dropEnd (· == .char '\n'))

def printOutputs (outputs : Both (Option Captured)) : Run Unit :=
  Stage.all.forM fun stage => (outputs.get stage).forM (printOutput stage)

/-- Tell of an event about a check; with `verbose`, also what the stages wrote. -/
def printCheckEvent (verbose : Bool) (event : CheckEvent) : Run Unit := do
  match event.result with
  | none => printStep (3 + event.kind.index) event.kind.title
  | some result =>
    if verbose then printOutputs result.outputs
    match result.verdict with
    | .identical => printOk (event.kind.title ++ ": outputs are identical")
    | .differs => printWarning (event.kind.title ++ ": outputs differ (non-fatal)")
    | .skipped => printWarning (event.kind.title ++ " skipped: " ++ result.note)

def printReport : Run Unit := do
  let report := (← get).report
  match report.unprintable? with
  | none => write report.plainText
  | some fault => throw (.file fault)

end Run

end StageParity
