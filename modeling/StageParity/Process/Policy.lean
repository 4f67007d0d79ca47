/-!
# Time limits

Commands belong to a domain, and each domain has a policy: a default limit, bounds
for requested limits, and how a command that exceeds its limit is ended.
-/

namespace StageParity

/-- The kinds of commands that have limits of their own. -/
inductive Domain where
  | stageBuild
  | artifactInvocation
deriving DecidableEq

def Domain.key : Domain → String
  | .stageBuild => "stage_build"
  | .artifactInvocation => "artifact_invocation"

/-- How long commands may run, and how they are stopped. Times are in seconds. -/
structure Policy where
  default : Float
  min : Float
  max : Float
  /-- Whether a command is started as the leader of a process group of its own. -/
  processGroup : Bool
  /-- How long a command may take to end after it was asked to. -/
  grace : Float

namespace Policy

/-- The smaller of two limits; the first one unless the second is strictly smaller. -/
def smaller (x y : Float) : Float := if y < x then y else x

/-- The larger of two limits; the first one unless the second is strictly larger. -/
def larger (x y : Float) : Float := if x < y then y else x

/-- A limit brought within bounds. A value that is not a number becomes the lower
bound. -/
def clamp (value low high : Float) : Float := larger low (smaller value high)

/-- The limit of a command for which `requested` was asked. -/
def limit (policy : Policy) (requested : Option Float) : Float :=
  clamp (requested.getD policy.default) policy.min policy.max

def standard : Domain → Policy
  | .stageBuild => ⟨1800, 30, 7200, true, 15⟩
  | .artifactInvocation => ⟨120, 0.1, 1800, true, 2⟩

end Policy

end StageParity
