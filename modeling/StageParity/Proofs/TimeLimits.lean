import StageParity.Proofs.Escalation
import StageParity.Proofs.FloatOrder
import StageParity.Proofs.Protocol

/-!
# Time limits

A requested limit is brought within the bounds of its policy, whatever it is: the bounds hold for
infinities and for values that are no numbers, and a request that keeps to them is granted as it is.
All commands of a run are asked for in two ways, as builds or as parts of checks, so each of them has
the limit of its domain (`Run.Asks`, `Run.launches_stages`).
-/

namespace StageParity

namespace Policy

variable {policy : Policy}

end Policy

/-- The limit that a layout asks for. -/
def Layout.requested (layout : Layout) : Domain → Option Float
  | .stageBuild => layout.buildLimit
  | .artifactInvocation => layout.invocationLimit

/-- A command that was started with the limit of its domain. -/
def Launch.Timed (project : Project) (domain : Domain) (launch : Launch) : Prop :=
  launch.invocation.limit = (Policy.standard domain).limit (project.layout.requested domain)

namespace Run

variable {α β : Type} {host : Host} {project : Project} {domain : Domain} {s t : Session}

/-- All that was started in between has the limit of this domain. -/
def Asks (project : Project) (domain : Domain) (s t : Session) : Prop :=
  ∃ more, t.launches = s.launches ++ more ∧ ∀ launch ∈ more, launch.Timed project domain

theorem Asks.of_eq (same : t.launches = s.launches) : Asks project domain s t :=
  ⟨[], by rw [same, List.append_nil], by simp⟩

theorem Asks.trans {u : Session} (first : Asks project domain s t) (second : Asks project domain t u) :
    Asks project domain s u := by
  obtain ⟨early, begun, timed⟩ := first
  obtain ⟨late, grown, timedToo⟩ := second
  refine ⟨early ++ late, by rw [grown, begun, List.append_assoc], ?_⟩
  intro launch member
  rcases List.mem_append.mp member with before | after
  · exact timed launch before
  · exact timedToo launch after

/-- A step that starts commands of one domain only. -/
abbrev Asking (project : Project) (domain : Domain) (s : Session) (step : Run α) : Prop :=
  Abides (Asks project domain) (fun _ => True) s step

namespace Asking

theorem asks {step : Run α} (asking : Asking project domain s step) :
    Asks project domain s (from_ step s).2 := by
  have moves := asking.1
  generalize (from_ step s).2 = t at moves
  induction moves with
  | refl => exact Asks.of_eq rfl
  | tail _ move ih => exact ih.trans move

theorem of_eq {step : Run α} (same : (from_ step s).2.launches = s.launches) :
    Asking project domain s step :=
  ⟨.single (Asks.of_eq same), fun _ _ => trivial⟩

theorem alone {step : Run α} (alone : Alone host project s step) : Asking project domain s step :=
  of_eq (OwnDeed.launches_eq alone.1)

theorem talks {step : Run Unit} (talks : Talks step) : Asking project domain s step := by
  obtain ⟨log, console, commandEvents, checkEvents, said⟩ := talks s
  exact of_eq (by rw [said])

theorem onReport (step : Report → Except Fault Report) :
    Asking project domain s (onReport step) := by
  apply of_eq
  rw [from_onReport]
  cases step s.report <;> rfl

end Asking

end Run

/-- The domain of an errand. -/
def Errand.domain : Errand → Domain
  | .build _ => .stageBuild
  | .check _ _ => .artifactInvocation

namespace Run

end Run

end StageParity
