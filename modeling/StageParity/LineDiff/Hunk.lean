import StageParity.LineDiff.Block

/-!
# Hunks of a line difference

The difference of two line lists as a list of hunks, each a stretch of changes
with up to three unchanged lines around it, and the text of a hunk list.
-/

namespace StageParity.LineDiff

/-- A stretch of both lists that is the same in both, or was changed. The upper
ends are left out. -/
structure Segment where
  same : Bool
  firstLow : Nat
  firstHigh : Nat
  secondLow : Nat
  secondHigh : Nat
deriving DecidableEq

/-- The changed stretch between two places, if it is not empty. -/
def changed (firstLow firstHigh secondLow secondHigh : Nat) : List Segment :=
  if firstLow < firstHigh || secondLow < secondHigh then
    [⟨false, firstLow, firstHigh, secondLow, secondHigh⟩]
  else []

/-- The segments of lists of `m` and `n` lines from the places `i` and `j` on. -/
def segmentsFrom (m n : Nat) : (i j : Nat) → List Block → List Segment
  | i, j, [] => changed i m j n
  | i, j, block :: rest =>
    let firstEnd := block.first + block.size
    let secondEnd := block.second + block.size
    changed i block.first j block.second ++
      ⟨true, block.first, firstEnd, block.second, secondEnd⟩ ::
        segmentsFrom m n firstEnd secondEnd rest

def segments (a b : List Text) : List Segment :=
  segmentsFrom a.length b.length 0 0 (blocks a b)

def contextLines : Nat := 3

def Segment.tail (s : Segment) : Segment :=
  { s with
    firstLow := max s.firstLow (s.firstHigh - contextLines)
    secondLow := max s.secondLow (s.secondHigh - contextLines) }

def Segment.head (s : Segment) : Segment :=
  { s with
    firstHigh := min s.firstHigh (s.firstLow + contextLines)
    secondHigh := min s.secondHigh (s.secondLow + contextLines) }

/-- Cut an unchanged segment at the start down to its last lines. -/
def trimFront : List Segment → List Segment
  | [] => []
  | s :: rest => (if s.same then s.tail else s) :: rest

/-- Cut an unchanged segment at the end down to its first lines. -/
def trimBack : List Segment → List Segment
  | [] => []
  | [s] => [if s.same then s.head else s]
  | s :: rest => s :: trimBack rest

def showsChange : List Segment → Bool
  | [] => false
  | [s] => !s.same
  | _ => true

/-- Groups of segments, cut inside each long unchanged segment. `group` is the
unfinished group in reverse. -/
def groupsFrom (group : List Segment) : List Segment → List (List Segment)
  | [] => if showsChange group then [group.reverse] else []
  | s :: rest =>
    if s.same && contextLines + contextLines < s.firstHigh - s.firstLow then
      (s.head :: group).reverse :: groupsFrom [s.tail] rest
    else groupsFrom (s :: group) rest

inductive Line where
  | context (text : Text)
  | removed (text : Text)
  | added (text : Text)
deriving DecidableEq

/-- A hunk: the stretch of each list that it covers, and its lines. -/
structure Hunk where
  firstLow : Nat
  firstHigh : Nat
  secondLow : Nat
  secondHigh : Nat
  lines : List Line
deriving DecidableEq

/-- The lines of a list from `low` up to `high`, the upper end left out. -/
def slice (lines : List Text) (low high : Nat) : List Text := (lines.drop low).take (high - low)

/-- The hunk lines of a segment: what is removed, then what is added. -/
def Segment.lines (a b : List Text) (s : Segment) : List Line :=
  if s.same then (slice a s.firstLow s.firstHigh).map .context
  else
    (slice a s.firstLow s.firstHigh).map .removed ++ (slice b s.secondLow s.secondHigh).map .added

def hunkOf? (a b : List Text) (group : List Segment) : Option Hunk :=
  match group.head?, group.getLast? with
  | some first, some last =>
    some ⟨first.firstLow, last.firstHigh, first.secondLow, last.secondHigh,
      group.flatMap (Segment.lines a b)⟩
  | _, _ => none

def hunks (a b : List Text) : List Hunk :=
  (groupsFrom [] (trimBack (trimFront (segments a b)))).filterMap (hunkOf? a b)

/-- The written form of a stretch of lines. An empty stretch is named by the line
before it. -/
def rangeText (low high : Nat) : Text :=
  let length := high - low
  if length = 1 then Text.ofNat (low + 1)
  else Text.ofNat (if length = 0 then low else low + 1) ++ "," ++ Text.ofNat length

def Line.text : Line → Text
  | .context text => .char ' ' :: text
  | .removed text => .char '-' :: text
  | .added text => .char '+' :: text

def Hunk.text (h : Hunk) : List Text :=
  ("@@ -" ++ rangeText h.firstLow h.firstHigh ++ " +" ++ rangeText h.secondLow h.secondHigh ++
    " @@") :: h.lines.map Line.text

/-- The written form of a difference under the names of the two lists; nothing when
there is none. -/
def unified (firstName secondName : Text) (hunks : List Hunk) : List Text :=
  if hunks.isEmpty then []
  else ("--- " ++ firstName) :: ("+++ " ++ secondName) :: hunks.flatMap Hunk.text

end StageParity.LineDiff
