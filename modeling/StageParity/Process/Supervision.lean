import StageParity.Process.Child

/-!
# Supervision

The watch over a child from its start to its end. A child that reaches its limit is
asked to stop, and after a grace it is made to. The acts of the watch are recorded in
order.
-/

namespace StageParity

/-- What is announced about a child that reached its limit. -/
inductive EventKind where
  | timeout
  | terminate
  | kill
deriving DecidableEq

namespace EventKind

def key : EventKind → String
  | .timeout => "timeout"
  | .terminate => "terminate"
  | .kill => "kill"

def detail (limit : Float) : EventKind → Text
  | .timeout => "No exit after " ++ Text.ofFloatFixed 1 limit ++ "s"
  | .terminate => "Sent SIGTERM after timeout"
  | .kill => "Sent SIGKILL after terminate grace period"

def ofSignal : StopSignal → EventKind
  | .term => .terminate
  | .kill => .kill

end EventKind

/-- One act of the watch over a child. -/
inductive Act where
  | wait (which : Wait) (limit : Option Float) (ended : Bool)
  | cut (which : Wait) (reason : Cut)
  /-- A look whether the child has ended. -/
  | poll (exited : Bool)
  | send (signal : StopSignal) (delivered : Bool)
  | announce (event : EventKind)
deriving DecidableEq

/-- How far the watch over a child has come. -/
structure Watch where
  clock : Float
  /-- When the child ends, as things stand. -/
  endsAt : Float
  exited : Bool
  /-- Whether the child ends because it was asked to. -/
  byRequest : Bool
  timedOut : Bool
  acts : List Act
  cutBy : Option Cut

namespace Watch

def start (child : Child) : Watch := ⟨0, child.runtime, false, false, false, [], none⟩

def record (w : Watch) (acts : List Act) : Watch := { w with acts := w.acts ++ acts }

def finish (w : Watch) : Watch :=
  { w with clock := if w.clock < w.endsAt then w.endsAt else w.clock, exited := true }

/-- Whether the child still runs when a limit on waiting for it is over. -/
def outlasts (w : Watch) (limit : Option Float) : Bool :=
  limit.any fun seconds => !w.exited && w.clock + seconds < w.endsAt

def await (w : Watch) (which : Wait) (limit : Option Float) : Watch :=
  let watched := w.record [.wait which limit (!w.outlasts limit)]
  if w.outlasts limit then { watched with clock := watched.clock + limit.getD 0 }
  else if watched.exited then watched
  else watched.finish

/-- Wait for the child unless the wait is cut short. -/
def awaitOrCut (w : Watch) (child : Child) (which : Wait) (limit : Option Float) : Watch :=
  match child.cut which with
  | some reason =>
    { w.record [.cut which reason] with exited := w.exited || reason.exited, cutBy := some reason }
  | none => w.await which limit

def obey (w : Watch) (child : Child) (signal : StopSignal) : Watch :=
  if child.response signal = .exit then
    match signal with
    | .term => { w with endsAt := w.clock + child.termDelay, byRequest := true }
    | .kill => { w with endsAt := w.clock, byRequest := false }
  else w

/-- Send a signal unless the child has ended, and announce it if it was delivered. -/
def send (w : Watch) (child : Child) (signal : StopSignal) : Watch :=
  let w := w.record [.poll w.exited]
  if w.exited then w
  else
    let delivered := (child.response signal).delivers
    let w := w.record [.send signal delivered]
    if delivered then (w.obey child signal).record [.announce (.ofSignal signal)] else w

/-- Make a child end that was left behind by a wait cut short. Nothing is announced. -/
def abandon (w : Watch) (child : Child) : Watch :=
  let w := w.record [.poll w.exited]
  if w.exited then w
  else
    let delivered := (child.response .kill).delivers
    let w := w.record [.send .kill delivered]
    if delivered then (w.obey child .kill).await .last none else w

/-- The watch over a child that reached its limit. -/
def stop (w : Watch) (child : Child) (grace : Float) : Watch :=
  let w := (w.send child .term).awaitOrCut child .grace (some grace)
  if w.exited || w.cutBy.isSome then w
  else (w.send child .kill).awaitOrCut child .last none

def run (child : Child) (limit grace : Float) : Watch :=
  let w := (start child).awaitOrCut child .first (some limit)
  if w.cutBy.isSome then w.abandon child
  else if w.exited then w
  else
    let w := { w.record [.announce .timeout] with timedOut := true }
    let w := if child.exitsAtLimit then { w with endsAt := w.clock, exited := true } else w
    w.stop child grace

def delivered (w : Watch) : List StopSignal :=
  w.acts.filterMap fun
    | .send signal true => some signal
    | _ => none

/-- The signals that were sent, delivered or not. -/
def sent (w : Watch) : List StopSignal :=
  w.acts.filterMap fun
    | .send signal _ => some signal
    | _ => none

def events (w : Watch) : List EventKind :=
  w.acts.filterMap fun
    | .announce event => some event
    | _ => none

def stdout (w : Watch) (child : Child) : List UInt8 :=
  if w.byRequest then child.stdout ++ child.termStdout else child.stdout

def stderr (w : Watch) (child : Child) : List UInt8 :=
  if w.byRequest then child.stderr ++ child.termStderr else child.stderr

end Watch

end StageParity
