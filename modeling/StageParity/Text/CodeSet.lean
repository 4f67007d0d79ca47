/-!
# Sets of code points

A set of code points is a list of run lengths: the first code points are not in it, the ones of the
next run are, and so on in turn.
-/

namespace StageParity

structure CodeSet where
  runs : List Nat

/-- Whether a code point is in the set that begins with a run of members or of others. -/
def CodeSet.inRuns (members : Bool) : List Nat → Nat → Bool
  | [], _ => members
  | run :: rest, code => if code < run then members else inRuns (!members) rest (code - run)

def CodeSet.contains (set : CodeSet) (code : Nat) : Bool := inRuns false set.runs code

end StageParity
