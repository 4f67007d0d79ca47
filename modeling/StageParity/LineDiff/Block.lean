import StageParity.Text.Glyph

/-!
# Matching blocks of two line lists

Two line lists are compared by their longest common block, then by the longest
common blocks on both sides of it, and so on. Of equally long blocks the one that
starts first in the first list is taken, then first in the second. In long lists,
lines that occur often are not used to find blocks, only to extend them.
-/

namespace StageParity.LineDiff

/-- Equal runs: `size` lines from `first` on in one list and from `second` on in the
other. -/
structure Block where
  first : Nat
  second : Nat
  size : Nat
deriving DecidableEq

/-- A part of each list: lines `firstLow` up to `firstHigh` of the one, lines
`secondLow` up to `secondHigh` of the other, the upper ends left out. -/
structure Region where
  firstLow : Nat
  firstHigh : Nat
  secondLow : Nat
  secondHigh : Nat

/-- From this length on, lines of the second list that occur often are passed over. -/
def longList : Nat := 200

/-- Whether a line that occurs `count` times among `total` lines is passed over. -/
def isFrequent (total count : Nat) : Bool := longList ≤ total && total / 100 + 1 < count

def occurrences (b : List Text) (line : Text) : List Nat :=
  (b.zipIdx.filter fun entry => entry.1 = line).map Prod.snd

/-- The places at which a block with this line may be looked for. -/
def places (b : List Text) (line : Text) : List Nat :=
  let found := occurrences b line
  if isFrequent b.length found.length then [] else found

/-- The runs that end at the places `js`, given the runs that end one line earlier.
Both lists ascend; a pair holds the last place of a run and its length. -/
def extendRuns (runs : List (Nat × Nat)) : List Nat → List (Nat × Nat)
  | [] => []
  | j :: js =>
    let runs := runs.dropWhile fun run => run.1 + 1 < j
    match runs with
    | (last, size) :: _ =>
      (if last + 1 = j then (j, size + 1) else (j, 1)) :: extendRuns runs js
    | [] => (j, 1) :: extendRuns [] js

/-- The longer of a block and the runs that end at line `i` of the first list; the
block wins a tie, then the earlier run. -/
def longerRun (i : Nat) (best : Block) (runs : List (Nat × Nat)) : Block :=
  runs.foldl
    (fun best run =>
      if best.size < run.2 then ⟨i + 1 - run.2, run.1 + 1 - run.2, run.2⟩ else best)
    best

/-- Scan the lines `i`, `i + 1`, … of the first list, whose places in the second
list are given, for the longest run inside the bounds `low` and `high` of the second
list. -/
def scanRuns (low high : Nat) :
    (i : Nat) → List (List Nat) → (runs : List (Nat × Nat)) → (best : Block) → Block
  | _, [], _, best => best
  | i, js :: rest, runs, best =>
    let inside := js.filter fun j => low ≤ j && j < high
    let runs := extendRuns runs inside
    scanRuns low high (i + 1) rest runs (longerRun i best runs)

/-- How many steps from zero on satisfy a test, at most `limit`. -/
def countWhile (limit : Nat) (test : Nat → Bool) : Nat :=
  ((List.range limit).takeWhile test).length

/-- The block with all equal lines before and after it that lie in the region. -/
def Block.grow (a b : Array Text) (region : Region) (block : Block) : Block :=
  let back := countWhile (min (block.first - region.firstLow) (block.second - region.secondLow))
    fun t => a[block.first - 1 - t]? == b[block.second - 1 - t]?
  let firstEnd := block.first + block.size
  let secondEnd := block.second + block.size
  let forth := countWhile (min (region.firstHigh - firstEnd) (region.secondHigh - secondEnd))
    fun t => a[firstEnd + t]? == b[secondEnd + t]?
  ⟨block.first - back, block.second - back, back + block.size + forth⟩

/-- The longest block of a region. `index` holds the places of each line of the
first list. -/
def longest (a b : Array Text) (index : List (List Nat)) (region : Region) : Block :=
  let rows := (index.drop region.firstLow).take (region.firstHigh - region.firstLow)
  let seed := scanRuns region.secondLow region.secondHigh region.firstLow rows []
    ⟨region.firstLow, region.secondLow, 0⟩
  seed.grow a b region

/-- The blocks of a region in order. The fuel bounds how deep regions nest; the
length of the first list is enough, as each block takes a line of it. -/
def blocksIn (a b : Array Text) (index : List (List Nat)) : (fuel : Nat) → Region → List Block
  | 0, _ => []
  | fuel + 1, region =>
    let block := longest a b index region
    if block.size = 0 then []
    else
      let before :=
        if region.firstLow < block.first && region.secondLow < block.second then
          blocksIn a b index fuel
            ⟨region.firstLow, block.first, region.secondLow, block.second⟩
        else []
      let firstEnd := block.first + block.size
      let secondEnd := block.second + block.size
      let after :=
        if firstEnd < region.firstHigh && secondEnd < region.secondHigh then
          blocksIn a b index fuel ⟨firstEnd, region.firstHigh, secondEnd, region.secondHigh⟩
        else []
      before ++ block :: after

/-- Neighbouring blocks that touch in both lists become one. -/
def mergeBlocks : List Block → List Block
  | [] => []
  | x :: rest =>
    match mergeBlocks rest with
    | [] => [x]
    | y :: more =>
      if x.first + x.size = y.first && x.second + x.size = y.second then
        ⟨x.first, x.second, x.size + y.size⟩ :: more
      else x :: y :: more

def blocks (a b : List Text) : List Block :=
  mergeBlocks
    (blocksIn a.toArray b.toArray (a.map (places b)) a.length ⟨0, a.length, 0, b.length⟩)

end StageParity.LineDiff
