import Mathlib.Logic.Relation
import StageParity.Session

/-!
# Running steps

What a step of a run does to a state, told for each way in which steps are put together.
`Abides` says that a step goes from its state only along a given relation and stops only
with given faults; it passes from the parts of a step to the whole.
-/

namespace StageParity.Run

open Relation (ReflTransGen)

variable {α β : Type}

@[simp] theorem from_pure (a : α) (s : Session) : from_ (pure a) s = (.ok a, s) := rfl

@[simp] theorem from_throw (fault : Fault) (s : Session) :
    from_ (throw fault : Run α) s = (.error fault, s) := rfl

@[simp] theorem from_modify (f : Session → Session) (s : Session) :
    from_ (modify f : Run Unit) s = (.ok (), f s) := rfl

@[simp] theorem from_get_bind (f : Session → Run β) (s : Session) :
    from_ (get >>= f) s = from_ (f s) s := rfl

@[simp] theorem from_modify_bind (f : Session → Session) (g : Unit → Run β) (s : Session) :
    from_ (modify f >>= g) s = from_ (g ()) (f s) := rfl

@[simp] theorem from_pure_bind (a : α) (f : α → Run β) (s : Session) :
    from_ (pure a >>= f) s = from_ (f a) s := rfl

@[simp] theorem from_throw_bind (fault : Fault) (f : α → Run β) (s : Session) :
    from_ ((throw fault : Run α) >>= f) s = (.error fault, s) := rfl

/-- A step and then another: the second one is taken only if the first ended well. -/
theorem from_bind (x : Run α) (f : α → Run β) (s : Session) :
    from_ (x >>= f) s =
      match from_ x s with
      | (.ok a, t) => from_ (f a) t
      | (.error fault, t) => (.error fault, t) := by
  change (ExceptT.bindCont f (from_ x s).1) (from_ x s).2 = _
  rcases from_ x s with ⟨_ | _, _⟩ <;> rfl

theorem from_bind_ok {x : Run α} {s t : Session} {a : α} (ended : from_ x s = (.ok a, t))
    (f : α → Run β) : from_ (x >>= f) s = from_ (f a) t := by
  rw [from_bind, ended]

theorem from_bind_error {x : Run α} {s t : Session} {fault : Fault}
    (stopped : from_ x s = (.error fault, t)) (f : α → Run β) :
    from_ (x >>= f) s = (.error fault, t) := by
  rw [from_bind, stopped]

/-- Two steps that end well in a row do so one after the other. -/
theorem from_bind_eq_ok {x : Run α} {f : α → Run β} {s u : Session} {b : β}
    (ended : from_ (x >>= f) s = (.ok b, u)) :
    ∃ a t, from_ x s = (.ok a, t) ∧ from_ (f a) t = (.ok b, u) := by
  rw [from_bind] at ended
  rcases first : from_ x s with ⟨fault | a, t⟩
  · rw [first] at ended
    cases ended
  · rw [first] at ended
    exact ⟨a, t, rfl, ended⟩

@[simp] theorem from_attempt (x : Run α) (s : Session) :
    from_ (attempt x) s = (.ok (from_ x s).1, (from_ x s).2) := rfl

@[simp] theorem from_log (level : Level) (message : Text) (s : Session) :
    from_ (log level message) s = (.ok (), { s with log := s.log ++ [⟨level, message⟩] }) := rfl

@[simp] theorem from_onScratch (f : Scratch → Scratch) (s : Session) :
    from_ (onScratch f) s = (.ok (), { s with scratch := f s.scratch }) := rfl

theorem from_ask (question : Disk → Except FileFault α) (s : Session) :
    from_ (ask question) s = ((question s.disk).mapError .file, s) := by
  unfold ask
  rw [from_get_bind]
  cases question s.disk <;> rfl

theorem from_ask_ok {question : Disk → Except FileFault α} {s : Session} {a : α}
    (answer : question s.disk = .ok a) : from_ (ask question) s = (.ok a, s) := by
  rw [from_ask, answer]
  rfl

theorem from_ask_error {question : Disk → Except FileFault α} {s : Session} {fault : FileFault}
    (answer : question s.disk = .error fault) :
    from_ (ask question) s = (.error (.file fault), s) := by
  rw [from_ask, answer]
  rfl

theorem ask_eq_ok {question : Disk → Except FileFault α} {s t : Session} {a : α}
    (ended : from_ (ask question) s = (.ok a, t)) : question s.disk = .ok a ∧ t = s := by
  rw [from_ask] at ended
  cases answer : question s.disk with
  | error fault => rw [answer] at ended; cases ended
  | ok b => rw [answer] at ended; cases ended; exact ⟨rfl, rfl⟩

theorem from_change_ok {step : Disk → Except FileFault Disk} {s : Session} {disk : Disk}
    (answer : step s.disk = .ok disk) : from_ (change step) s = (.ok (), { s with disk }) :=
  from_bind_ok (from_ask_ok answer) _

theorem from_change_error {step : Disk → Except FileFault Disk} {s : Session} {fault : FileFault}
    (answer : step s.disk = .error fault) :
    from_ (change step) s = (.error (.file fault), s) :=
  from_bind_error (from_ask_error answer) _

theorem from_changePartly (step : Disk → Disk × Option FileFault) (s : Session) :
    from_ (changePartly step) s =
      (match (step s.disk).2 with
        | none => .ok ()
        | some fault => .error (.file fault), { s with disk := (step s.disk).1 }) := by
  unfold changePartly
  rw [from_get_bind]
  rcases step s.disk with ⟨disk, _ | fault⟩ <;> rfl

theorem from_onReport (step : Report → Except Fault Report) (s : Session) :
    from_ (onReport step) s =
      match step s.report with
      | .ok report => (.ok (), { s with report })
      | .error fault => (.error fault, s) := by
  unfold onReport
  rw [from_get_bind]
  cases step s.report <;> rfl

theorem from_onReport_ok {step : Report → Except Fault Report} {s : Session} {report : Report}
    (stepped : step s.report = .ok report) : from_ (onReport step) s = (.ok (), { s with report }) := by
  rw [from_onReport, stepped]

/-- The last step is taken in any case, and its fault counts. -/
theorem from_thenAlways (x : Run α) (last : Run Unit) (s : Session) :
    from_ (thenAlways x last) s =
      match from_ last (from_ x s).2 with
      | (.ok (), t) => ((from_ x s).1, t)
      | (.error fault, t) => (.error fault, t) := by
  unfold thenAlways
  rw [from_bind_ok (from_attempt x s), from_bind]
  rcases from_ last (from_ x s).2 with ⟨_ | _, t⟩
  · rfl
  · rcases (from_ x s).1 with _ | _ <;> rfl

/-- From the state `s` a step goes only along `moves`, and it stops only with the faults
`stops`. -/
def Abides (moves : Session → Session → Prop) (stops : Fault → Prop) (s : Session)
    (step : Run α) : Prop :=
  ReflTransGen moves s (from_ step s).2 ∧ ∀ fault, (from_ step s).1 = .error fault → stops fault

namespace Abides

variable {moves : Session → Session → Prop} {stops : Fault → Prop} {s : Session}

theorem pure (a : α) : Abides moves stops s (pure a : Run α) :=
  ⟨.refl, fun _ stopped => nomatch stopped⟩

theorem throw {fault : Fault} (allowed : stops fault) :
    Abides moves stops s (throw fault : Run α) := by
  refine ⟨.refl, fun other stopped => ?_⟩
  cases stopped
  exact allowed

theorem modify {f : Session → Session} (move : moves s (f s)) :
    Abides moves stops s (modify f : Run Unit) :=
  ⟨.single move, fun _ stopped => nomatch stopped⟩

theorem bind {x : Run α} {f : α → Run β} (first : Abides moves stops s x)
    (second : ∀ a t, from_ x s = (.ok a, t) → Abides moves stops t (f a)) :
    Abides moves stops s (x >>= f) := by
  rcases ended : from_ x s with ⟨fault | a, t⟩
  · refine ⟨?_, fun other stopped => ?_⟩
    · rw [from_bind_error ended]
      simpa only [ended] using first.1
    · rw [from_bind_error ended] at stopped
      cases stopped
      exact first.2 fault (by rw [ended])
  · have rest := second a t ended
    refine ⟨?_, fun other stopped => rest.2 other ?_⟩
    · rw [from_bind_ok ended]
      exact .trans (by simpa only [ended] using first.1) rest.1
    · rwa [from_bind_ok ended] at stopped

theorem get_bind {f : Session → Run β} (next : Abides moves stops s (f s)) :
    Abides moves stops s (get >>= f) := next

theorem ask (question : Disk → Except FileFault α)
    (allowed : ∀ fault, stops (.file fault)) : Abides moves stops s (ask question) := by
  refine ⟨?_, fun fault stopped => ?_⟩
  · rw [from_ask]
  · rw [from_ask] at stopped
    cases answer : question s.disk with
    | ok a => rw [answer] at stopped; cases stopped
    | error other => rw [answer] at stopped; cases stopped; exact allowed other

/-- A step that is tried stops with nothing; its fault is part of the answer. -/
theorem attempt {x : Run α} (tried : Abides moves stops s x) :
    Abides moves (fun _ => False) s (attempt x) :=
  ⟨tried.1, fun _ stopped => nomatch stopped⟩

theorem mono {more : Session → Session → Prop} {step : Run α} {others : Fault → Prop}
    (abides : Abides moves stops s step) (wider : ∀ s t, moves s t → more s t)
    (laxer : ∀ fault, stops fault → others fault) : Abides more others s step :=
  ⟨ReflTransGen.mono wider _ _ abides.1, fun fault stopped => laxer fault (abides.2 fault stopped)⟩

theorem forM {xs : List α} {f : α → Run Unit} {s : Session}
    (each : ∀ x ∈ xs, ∀ t, Abides moves stops t (f x)) : Abides moves stops s (xs.forM f) := by
  induction xs generalizing s with
  | nil => exact Abides.pure ()
  | cons x xs ih =>
      exact Abides.bind (each x List.mem_cons_self s) fun _ _ _ =>
        ih fun y member => each y (List.mem_cons_of_mem x member)

theorem mapM {xs : List α} {f : α → Run β} {s : Session}
    (each : ∀ x t, Abides moves stops t (f x)) : Abides moves stops s (xs.mapM f) := by
  induction xs generalizing s with
  | nil =>
      rw [List.mapM_nil]
      exact Abides.pure []
  | cons x xs ih =>
      rw [List.mapM_cons]
      exact Abides.bind (each x s) fun _ _ _ => Abides.bind ih fun _ _ _ => Abides.pure _

end Abides

end StageParity.Run
