import StageParity.Script.Condition
import StageParity.Script.Inner

/-!
# Redirections

Where the descriptors of a command lead.
-/

namespace StageParity.Script

namespace Evaluate

open Step

def redirectComplaint (creating : Bool) (target : Text) (errno : Errno) : Text :=
  let missing := errno = .notFound || errno = .notDirectory
  let reason : Text := match missing, creating with
    | true, true => "Directory nonexistent"
    | true, false => "No such file"
    | false, _ => errno.message
  (if creating then Text.ofString "cannot create " else "cannot open ") ++ target ++ ": " ++ reason

def noDevice : Errno := ⟨6⟩

def device? (target : Text) : Step (Option (Except Errno Channel)) := do
  match Tool.descriptorOf? target with
  | some descriptor =>
    match ← channel? descriptor with
    | some channel => return some (.ok channel)
    | none => return some (.error .notFound)
  | none =>
    let device := fun (input : Input) (sink : Sink) => do
      let index ← newInput input
      return some (.ok ⟨some index, some sink⟩)
    match Condition.stringOf target with
    | "/dev/null" => device (.ready [] false) .nowhere
    | "/dev/zero" => device Tool.zeros .nowhere
    | "/dev/full" => device Tool.zeros .full
    | "/dev/tty" => return some (.error noDevice)
    | _ => return none

def openInput (target : Text) : Step (Except Errno Channel) := do
  match ← ask fun disk cwd => Reach.entry disk cwd .target target with
  | .error errno => return .error errno
  | .ok entry =>
    if entry.mode &&& Entry.readBit = 0 then return .error .denied
    else
      let (data, fault) : List UInt8 × Option Errno := match entry with
        | .file _ data => (data, none)
        | _ => ([], some .isDirectory)
      return .ok ⟨some (← newInput { Input.ready data true with fault }), none⟩

def openOutput (keep protect : Bool) (target : Text) : Step (Except Errno Channel) := do
  let m ← get
  if protect && Reach.holds m.disk m.frame.cwd .target target Entry.isFile then return .error .exists_
  else
    match Reach.openFile m.disk m.frame.cwd m.frame.umask keep target with
    | .ok (disk, place) =>
      set { m with disk }
      return .ok ⟨none, some (.file place)⟩
    | .error errno => return .error errno

def openChannel (kind : RedirectKind) (target : Text) : Step (Except Errno Channel) := do
  match ← device? target with
  | some found => return found
  | none =>
    match kind with
    | .input => openInput target
    | .append => openOutput true false target
    | .both =>
      match ← openOutput true false target with
      | .error errno => return .error errno
      | .ok channel =>
        match ← openInput target with
        | .ok other => return .ok ⟨other.reads, channel.writes⟩
        | .error errno => return .error errno
    | .clobber => openOutput false false target
    | _ => openOutput false ((← frame).has 'C') target

def redirect (i : Inner) : Redirect → Step Bool
  | .mk descriptor kind phrase => do
    let target ← word i .text phrase
    match kind with
    | .here =>
      feed descriptor target.encode true
      return true
    | .duplicate =>
      match target with
      | [.char '-'] =>
        connect descriptor none
        return true
      | [g] =>
        if Reading.isDigit g then
          match ← channel? (Arithmetic.digitsIn 10 [g]) with
          | some channel =>
            connect descriptor (some channel)
            return true
          | none =>
            shellComplains (target ++ ": " ++ Errno.badDescriptor.message)
            return false
        else shellFails "Syntax error: Bad fd number"
      | _ => shellFails "Syntax error: Bad fd number"
    | _ =>
      match ← openChannel kind target with
      | .ok channel =>
        connect descriptor (some channel)
        return true
      | .error errno =>
        let creating := kind ≠ .input
        shellComplains (redirectComplaint creating target errno)
        return false

def redirectAll (i : Inner) : List Redirect → Step Bool
  | [] => return true
  | r :: rest => do if ← redirect i r then redirectAll i rest else return false

/-- Run a step with redirections, which hold only for it. A failing one takes its place. -/
def redirected (i : Inner) (redirects : List Redirect) (step : Step Unit) : Step Unit := do
  if redirects.isEmpty then step
  else
    restoring (fun before after => { after with descriptors := before.descriptors }) do
      if ← redirectAll i redirects then step else setStatus 2

end Evaluate

end StageParity.Script
