import Mathlib.Data.List.Chain
import Mathlib.Data.List.TakeWhile
import StageParity.LineDiff.Block

/-!
# Matching blocks

The blocks of two line lists follow one another without overlap, and the lines of each are the same
in both lists (`LineDiff.chain_blocks`). That holds of whatever blocks a search proposes, since a
block is only made of lines that were compared. Which blocks are found matters for equal lists:
lines that occur often are not looked for, and still the longest block starts at the same place in
both lists, so that it grows to the whole of them (`LineDiff.blocks_self`).
-/

namespace StageParity.LineDiff

variable {a b : List Text} {region : Region} {block : Block}

/-! ## Common blocks -/

/-- The lines of a block are the same in both lists. -/
def Block.Matches (a b : List Text) (block : Block) : Prop :=
  ∀ t < block.size, a[block.first + t]? = b[block.second + t]?

theorem Block.Matches.append {i j k l : Nat} (left : Block.Matches a b ⟨i, j, k⟩)
    (right : Block.Matches a b ⟨i + k, j + k, l⟩) : Block.Matches a b ⟨i, j, k + l⟩ := by
  intro t small
  dsimp only at small ⊢
  by_cases early : t < k
  · exact left t early
  · have there := right (t - k) (by dsimp only; omega)
    dsimp only at there
    rwa [Nat.add_assoc, Nat.add_assoc, Nat.add_sub_cancel' (Nat.not_lt.mp early)] at there

theorem Block.matches_single {i j : Nat} (equal : a[i]? = b[j]?) : Block.Matches a b ⟨i, j, 1⟩ := by
  intro t small
  rw [Nat.lt_one_iff.mp small]
  exact equal

/-- A block of a region with the same lines in both lists. -/
structure Block.Common (a b : List Text) (region : Region) (block : Block) : Prop where
  firstLow : region.firstLow ≤ block.first
  firstHigh : block.first + block.size ≤ region.firstHigh
  secondLow : region.secondLow ≤ block.second
  secondHigh : block.second + block.size ≤ region.secondHigh
  same : block.Matches a b

/-! ## Places of a line -/

theorem mem_occurrences {b : List Text} {line : Text} {j : Nat} :
    j ∈ occurrences b line ↔ b[j]? = some line := by
  simp [occurrences, List.mem_zipIdx_iff_getElem?]

theorem occurrences_ascend (b : List Text) (line : Text) :
    (occurrences b line).Pairwise (· < ·) := by
  have kept : (occurrences b line).Sublist (b.zipIdx.map Prod.snd) :=
    List.filter_sublist.map Prod.snd
  rw [List.zipIdx_map_snd] at kept
  exact List.Pairwise.sublist kept List.pairwise_lt_range'

theorem places_sublist (b : List Text) (line : Text) :
    (places b line).Sublist (occurrences b line) := by
  unfold places
  dsimp only
  split
  · exact List.nil_sublist _
  · exact List.Sublist.refl _

theorem getElem?_of_mem_places {line : Text} {j : Nat} (found : j ∈ places b line) :
    b[j]? = some line :=
  mem_occurrences.mp ((places_sublist b line).subset found)

/-! ## Runs -/

/-- The block of a run that ends before line `ending` of the first list. -/
def runBlock (ending : Nat) (run : Nat × Nat) : Block :=
  ⟨ending - run.2, run.1 + 1 - run.2, run.2⟩

/-- A run of a region that ends before line `ending` of the first list. -/
structure IsRun (a b : List Text) (region : Region) (ending : Nat) (run : Nat × Nat) : Prop where
  first : run.2 ≤ ending
  second : run.2 ≤ run.1 + 1
  common : (runBlock ending run).Common a b region

/-- A run at a place is a single line, or it goes on one that ended a line earlier. -/
theorem mem_extendRuns {runs : List (Nat × Nat)} {js : List Nat} {run : Nat × Nat}
    (member : run ∈ extendRuns runs js) :
    run.1 ∈ js ∧
      (run.2 = 1 ∨ ∃ earlier ∈ runs, earlier.1 + 1 = run.1 ∧ run.2 = earlier.2 + 1) := by
  induction js generalizing runs with
  | nil => cases member
  | cons j js ih =>
      rw [extendRuns] at member
      have kept : ∀ earlier ∈ runs.dropWhile fun run => run.1 + 1 < j, earlier ∈ runs :=
        fun earlier inside => (List.dropWhile_sublist _).subset inside
      split at member
      · rename_i last size more shape
        rcases List.mem_cons.mp member with rfl | later
        · by_cases next : last + 1 = j
          · rw [if_pos next]
            exact ⟨List.mem_cons_self, .inr ⟨_, kept _ (shape ▸ List.mem_cons_self), next, rfl⟩⟩
          · rw [if_neg next]
            exact ⟨List.mem_cons_self, .inl rfl⟩
        · obtain ⟨place, how⟩ := ih later
          refine ⟨List.mem_cons_of_mem j place, how.imp_right ?_⟩
          rintro ⟨earlier, inside, goesOn⟩
          exact ⟨earlier, kept earlier inside, goesOn⟩
      · rcases List.mem_cons.mp member with rfl | later
        · exact ⟨List.mem_cons_self, .inl rfl⟩
        · obtain ⟨place, how⟩ := ih later
          refine ⟨List.mem_cons_of_mem j place, how.imp_right ?_⟩
          rintro ⟨earlier, inside, -⟩
          cases inside

/-- A line that is the same in both lists makes the runs of the line before it longer by one. -/
theorem isRun_extend {ending : Nat} {runs : List (Nat × Nat)} {js : List Nat}
    (sound : ∀ run ∈ runs, IsRun a b region ending run)
    (lower : region.firstLow ≤ ending) (upper : ending < region.firstHigh)
    (inside : ∀ j ∈ js, region.secondLow ≤ j ∧ j < region.secondHigh ∧ a[ending]? = b[j]?)
    {run : Nat × Nat} (member : run ∈ extendRuns runs js) :
    IsRun a b region (ending + 1) run := by
  obtain ⟨last, size⟩ := run
  obtain ⟨place, how⟩ := mem_extendRuns member
  obtain ⟨low, high, equal⟩ := inside last place
  rcases how with rfl | ⟨⟨before, length⟩, earlier, rfl, rfl⟩
  · exact ⟨Nat.le_add_left 1 ending, Nat.le_add_left 1 last,
      ⟨lower, upper, low, high, Block.matches_single equal⟩⟩
  · obtain ⟨first, second, common⟩ := sound _ earlier
    have starts := common.firstLow
    have startsToo := common.secondLow
    have same := common.same
    simp only [runBlock] at first second starts startsToo same
    refine ⟨?_, ?_, ⟨?_, ?_, ?_, ?_, ?_⟩⟩ <;> simp only [runBlock]
    case refine_1 | refine_2 | refine_3 | refine_4 | refine_5 | refine_6 => omega
    -- The lines of the shorter run come first, and the new line is the last one.
    rw [Nat.add_sub_add_right, Nat.add_sub_add_right]
    apply same.append
    rw [Nat.sub_add_cancel first, Nat.sub_add_cancel second]
    exact Block.matches_single equal

theorem longerRun_cons (i : Nat) (best : Block) (run : Nat × Nat) (runs : List (Nat × Nat)) :
    longerRun i best (run :: runs) =
      longerRun i (if best.size < run.2 then runBlock (i + 1) run else best) runs := rfl

theorem longerRun_append (i : Nat) (best : Block) (before after : List (Nat × Nat)) :
    longerRun i best (before ++ after) = longerRun i (longerRun i best before) after :=
  List.foldl_append

theorem longerRun_cases (i : Nat) (best : Block) (runs : List (Nat × Nat)) :
    longerRun i best runs = best ∨ ∃ run ∈ runs, longerRun i best runs = runBlock (i + 1) run := by
  induction runs generalizing best with
  | nil => exact .inl rfl
  | cons run runs ih =>
      rw [longerRun_cons]
      rcases ih (if best.size < run.2 then runBlock (i + 1) run else best) with kept | longer
      · rw [kept]
        split
        · exact .inr ⟨run, List.mem_cons_self, rfl⟩
        · exact .inl rfl
      · obtain ⟨other, member, taken⟩ := longer
        exact .inr ⟨other, List.mem_cons_of_mem run member, taken⟩

theorem common_scanRuns {i : Nat} {rows : List (List Nat)} {runs : List (Nat × Nat)} {best : Block}
    (lower : region.firstLow ≤ i) (upper : i + rows.length ≤ region.firstHigh)
    (equal : ∀ k js, rows[k]? = some js → ∀ j ∈ js, a[i + k]? = b[j]?)
    (sound : ∀ run ∈ runs, IsRun a b region i run) (common : best.Common a b region) :
    (scanRuns region.secondLow region.secondHigh i rows runs best).Common a b region := by
  induction rows generalizing i runs best with
  | nil => exact common
  | cons js rows ih =>
      rw [List.length_cons] at upper
      have extended : ∀ run ∈ extendRuns runs
          (js.filter fun j => region.secondLow ≤ j && j < region.secondHigh),
          IsRun a b region (i + 1) run := by
        intro run member
        refine isRun_extend sound lower (by omega) (fun j inside => ?_) member
        simp only [List.mem_filter, Bool.and_eq_true, decide_eq_true_eq] at inside
        exact ⟨inside.2.1, inside.2.2, equal 0 js rfl j inside.1⟩
      refine ih (by omega) (by omega) (fun k js' row j member => ?_) extended ?_
      · have line := equal (k + 1) js' row j member
        rwa [Nat.add_right_comm i 1 k, Nat.add_assoc]
      · rcases longerRun_cases i best (extendRuns runs
          (js.filter fun j => region.secondLow ≤ j && j < region.secondHigh)) with kept | longer
        · rw [kept]
          exact common
        · obtain ⟨run, member, taken⟩ := longer
          rw [taken]
          exact (extended run member).common

/-! ## Growing -/

theorem countWhile_le (limit : Nat) (test : Nat → Bool) : countWhile limit test ≤ limit := by
  have bounded := (List.takeWhile_sublist test (l := List.range limit)).length_le
  rwa [List.length_range] at bounded

theorem test_of_lt_countWhile {limit t : Nat} {test : Nat → Bool}
    (small : t < countWhile limit test) : test t = true := by
  have bounded := countWhile_le limit test
  have member : t ∈ (List.range limit).takeWhile test := by
    have here := (List.takeWhile_prefix test (l := List.range limit)).getElem small
    rw [List.getElem_range] at here
    rw [← here]
    exact List.getElem_mem small
  exact List.mem_takeWhile_imp member

theorem countWhile_eq {limit : Nat} {test : Nat → Bool} (all : ∀ t < limit, test t = true) :
    countWhile limit test = limit := by
  have whole : (List.range limit).takeWhile test = List.range limit :=
    List.takeWhile_eq_self_iff.mpr fun t member => all t (List.mem_range.mp member)
  rw [countWhile, whole, List.length_range]

theorem common_grow (common : block.Common a b region) :
    (block.grow a.toArray b.toArray region).Common a b region := by
  obtain ⟨firstLow, firstHigh, secondLow, secondHigh, same⟩ := common
  unfold Block.grow
  dsimp only
  generalize backIs : countWhile (min (block.first - region.firstLow)
    (block.second - region.secondLow)) _ = back
  generalize forthIs : countWhile (min (region.firstHigh - (block.first + block.size))
    (region.secondHigh - (block.second + block.size))) _ = forth
  have backLe := backIs ▸ countWhile_le _ _
  have forthLe := forthIs ▸ countWhile_le _ _
  have before (t : Nat) (small : t < back) :
      a[block.first - 1 - t]? = b[block.second - 1 - t]? := by
    subst backIs
    simpa using test_of_lt_countWhile small
  have after (t : Nat) (small : t < forth) :
      a[block.first + block.size + t]? = b[block.second + block.size + t]? := by
    subst forthIs
    simpa using test_of_lt_countWhile small
  refine ⟨?_, ?_, ?_, ?_, ?_⟩
  case refine_1 | refine_2 | refine_3 | refine_4 => dsimp only; omega
  have front : Block.Matches a b ⟨block.first - back, block.second - back, back⟩ := by
    intro t small
    dsimp only at small ⊢
    have here := before (back - 1 - t) (by omega)
    have firstPlace : block.first - 1 - (back - 1 - t) = block.first - back + t := by omega
    have secondPlace : block.second - 1 - (back - 1 - t) = block.second - back + t := by omega
    rwa [firstPlace, secondPlace] at here
  apply Block.Matches.append
  · apply front.append
    rwa [Nat.sub_add_cancel (by omega), Nat.sub_add_cancel (by omega)]
  · rw [← Nat.add_assoc, ← Nat.add_assoc, Nat.sub_add_cancel (by omega), Nat.sub_add_cancel (by omega)]
    exact after

/-! ## Blocks of a region -/

/-- The block that is found before it grows. -/
theorem common_seed (first : region.firstLow ≤ region.firstHigh)
    (second : region.secondLow ≤ region.secondHigh) :
    (scanRuns region.secondLow region.secondHigh region.firstLow
      (((a.map (places b)).drop region.firstLow).take (region.firstHigh - region.firstLow)) []
      ⟨region.firstLow, region.secondLow, 0⟩).Common a b region := by
  refine common_scanRuns (Nat.le_refl _) ?_ ?_ (fun run member => ?_) ?_
  · have bounded := List.length_take_le (region.firstHigh - region.firstLow)
      ((a.map (places b)).drop region.firstLow)
    omega
  · intro k js row j member
    simp only [List.getElem?_take, List.getElem?_drop, List.getElem?_map] at row
    split at row
    · obtain ⟨line, there, rfl⟩ := Option.map_eq_some_iff.mp row
      rw [there, getElem?_of_mem_places member]
    · cases row
  · cases member
  · refine ⟨Nat.le_refl _, first, Nat.le_refl _, second, fun t small => ?_⟩
    exact absurd small (Nat.not_lt_zero t)

theorem common_longest (first : region.firstLow ≤ region.firstHigh)
    (second : region.secondLow ≤ region.secondHigh) :
    (longest a.toArray b.toArray (a.map (places b)) region).Common a b region :=
  common_grow (common_seed first second)

/-- Blocks of a region that follow one another without overlap. -/
def Chain (a b : List Text) : Region → List Block → Prop
  | region, [] => region.firstLow ≤ region.firstHigh ∧ region.secondLow ≤ region.secondHigh
  | region, block :: rest =>
    0 < block.size ∧ block.Common a b region ∧
      Chain a b ⟨block.first + block.size, region.firstHigh, block.second + block.size,
        region.secondHigh⟩ rest

theorem Chain.ordered {blocks : List Block} (chain : Chain a b region blocks) :
    region.firstLow ≤ region.firstHigh ∧ region.secondLow ≤ region.secondHigh := by
  cases blocks with
  | nil => exact chain
  | cons block rest =>
      obtain ⟨-, common, -⟩ := chain
      have firstLow := common.firstLow
      have firstHigh := common.firstHigh
      have secondLow := common.secondLow
      have secondHigh := common.secondHigh
      omega

theorem Chain.lower {blocks : List Block} {firstLow secondLow : Nat}
    (chain : Chain a b region blocks) (first : firstLow ≤ region.firstLow)
    (second : secondLow ≤ region.secondLow) :
    Chain a b ⟨firstLow, region.firstHigh, secondLow, region.secondHigh⟩ blocks := by
  cases blocks with
  | nil => exact ⟨first.trans chain.1, second.trans chain.2⟩
  | cons block rest =>
      obtain ⟨filled, common, later⟩ := chain
      exact ⟨filled, ⟨first.trans common.firstLow, common.firstHigh,
        second.trans common.secondLow, common.secondHigh, common.same⟩, later⟩

theorem Chain.append {firstLow firstMid firstHigh secondLow secondMid secondHigh : Nat}
    {before after : List Block}
    (left : Chain a b ⟨firstLow, firstMid, secondLow, secondMid⟩ before)
    (right : Chain a b ⟨firstMid, firstHigh, secondMid, secondHigh⟩ after) :
    Chain a b ⟨firstLow, firstHigh, secondLow, secondHigh⟩ (before ++ after) := by
  induction before generalizing firstLow secondLow with
  | nil => exact right.lower left.1 left.2
  | cons block before ih =>
      obtain ⟨filled, common, later⟩ := left
      have bounds := right.ordered
      refine ⟨filled, ⟨common.firstLow, common.firstHigh.trans bounds.1, common.secondLow,
        common.secondHigh.trans bounds.2, common.same⟩, ih later⟩

theorem chain_blocksIn (fuel : Nat) (first : region.firstLow ≤ region.firstHigh)
    (second : region.secondLow ≤ region.secondHigh) :
    Chain a b region (blocksIn a.toArray b.toArray (a.map (places b)) fuel region) := by
  induction fuel generalizing region with
  | zero => exact ⟨first, second⟩
  | succ fuel ih =>
      rw [blocksIn]
      dsimp only
      have common := common_longest (a := a) (b := b) first second
      generalize longest a.toArray b.toArray (a.map (places b)) region = block at common ⊢
      by_cases empty : block.size = 0
      · rw [if_pos empty]
        exact ⟨first, second⟩
      · rw [if_neg empty]
        refine Chain.append (?_ : Chain a b ⟨_, block.first, _, block.second⟩ _)
          ⟨Nat.pos_of_ne_zero empty,
            ⟨Nat.le_refl _, common.firstHigh, Nat.le_refl _, common.secondHigh, common.same⟩, ?_⟩
        · split
          · exact ih common.firstLow common.secondLow
          · exact ⟨common.firstLow, common.secondLow⟩
        · split
          · exact ih common.firstHigh common.secondHigh
          · exact ⟨common.firstHigh, common.secondHigh⟩

/-! ## Merging -/

/-- The block that two touching blocks make. -/
theorem Block.Common.merge {x y : Block} {region : Region} (left : x.Common a b region)
    (right : y.Common a b
      ⟨x.first + x.size, region.firstHigh, x.second + x.size, region.secondHigh⟩)
    (first : x.first + x.size = y.first) (second : x.second + x.size = y.second) :
    Block.Common a b region ⟨x.first, x.second, x.size + y.size⟩ := by
  have firstHigh := right.firstHigh
  have secondHigh := right.secondHigh
  dsimp only at firstHigh secondHigh
  refine ⟨left.firstLow, by dsimp only; omega, left.secondLow, by dsimp only; omega, ?_⟩
  apply left.same.append
  rw [first, second]
  exact right.same

theorem chain_mergeBlocks {blocks : List Block} (chain : Chain a b region blocks) :
    Chain a b region (mergeBlocks blocks) := by
  induction blocks generalizing region with
  | nil => exact chain
  | cons x rest ih =>
      obtain ⟨filled, common, later⟩ := chain
      have merged := ih later
      rw [mergeBlocks]
      split
      · rename_i shape
        rw [shape] at merged
        exact ⟨filled, common, merged⟩
      · rename_i y more shape
        rw [shape] at merged
        split
        · rename_i touch
          rw [Bool.and_eq_true, decide_eq_true_eq, decide_eq_true_eq] at touch
          obtain ⟨-, next, rest⟩ := merged
          refine ⟨Nat.add_pos_left filled _, common.merge next touch.1 touch.2, ?_⟩
          dsimp only
          rwa [← Nat.add_assoc, ← Nat.add_assoc, touch.1, touch.2]
        · exact ⟨filled, common, merged⟩

/-- Neighbouring blocks do not touch in both lists. -/
def Apart (blocks : List Block) : Prop :=
  blocks.IsChain fun x y => ¬ (x.first + x.size = y.first ∧ x.second + x.size = y.second)

theorem apart_mergeBlocks (blocks : List Block) : Apart (mergeBlocks blocks) := by
  induction blocks with
  | nil => exact List.IsChain.nil
  | cons x rest ih =>
      rw [mergeBlocks]
      split
      · exact List.isChain_singleton x
      · rename_i y more shape
        rw [shape] at ih
        split
        · rename_i touch
          rw [Bool.and_eq_true, decide_eq_true_eq, decide_eq_true_eq] at touch
          cases more with
          | nil => exact List.isChain_singleton _
          | cons z more =>
              obtain ⟨separate, later⟩ := List.isChain_cons_cons.mp ih
              refine List.isChain_cons_cons.mpr ⟨?_, later⟩
              dsimp only
              rwa [← Nat.add_assoc, ← Nat.add_assoc, touch.1, touch.2]
        · rename_i separate
          refine List.isChain_cons_cons.mpr ⟨?_, ih⟩
          simpa only [Bool.and_eq_true, decide_eq_true_eq] using separate

theorem chain_blocks (a b : List Text) : Chain a b ⟨0, a.length, 0, b.length⟩ (blocks a b) :=
  chain_mergeBlocks (chain_blocksIn a.length (Nat.zero_le _) (Nat.zero_le _))

/-! ## Equal lists -/

/-- Whether a line is looked for when a list is compared with itself. -/
def isSought (a : List Text) (i : Nat) : Bool :=
  a[i]?.any fun line => !isFrequent a.length (occurrences a line).length

/-- How many lines right before line `ending` are looked for. -/
def soughtBefore (a : List Text) : (ending : Nat) → Nat
  | 0 => 0
  | i + 1 => if isSought a i then soughtBefore a i + 1 else 0

theorem mem_places_self {line : Text} {j : Nat} :
    j ∈ places a line ↔ a[j]? = some line ∧ isSought a j = true := by
  unfold places
  dsimp only
  constructor
  · split
    · intro member
      cases member
    · rename_i rare
      intro member
      have there := mem_occurrences.mp member
      simp [isSought, there, rare]
  · rintro ⟨there, sought⟩
    rw [isSought, there, Option.any_some, Bool.not_eq_true'] at sought
    rw [if_neg (by rw [sought]; exact Bool.false_ne_true)]
    exact mem_occurrences.mpr there

theorem fst_extendRuns (runs : List (Nat × Nat)) (js : List Nat) :
    (extendRuns runs js).map Prod.fst = js := by
  induction js generalizing runs with
  | nil => rfl
  | cons j js ih =>
      rw [extendRuns]
      split
      · rw [List.map_cons, ih]
        split <;> rfl
      · rw [List.map_cons, ih]

/-- A run that ends right before a place goes on at that place. -/
theorem mem_extendRuns_of_mem {runs : List (Nat × Nat)} {js : List Nat} {last size : Nat}
    (ascend : runs.Pairwise fun one other => one.1 < other.1) (ascendToo : js.Pairwise (· < ·))
    (earlier : (last, size) ∈ runs) (here : last + 1 ∈ js) :
    (last + 1, size + 1) ∈ extendRuns runs js := by
  induction js generalizing runs with
  | nil => cases here
  | cons j js ih =>
      obtain ⟨least, others⟩ := List.pairwise_cons.mp ascendToo
      have notPassed : j ≤ last + 1 := by
        rcases List.mem_cons.mp here with same | later
        · exact Nat.le_of_eq same.symm
        · exact Nat.le_of_lt (least _ later)
      have kept : (last, size) ∈ runs.dropWhile fun run => run.1 + 1 < j := by
        rw [← List.takeWhile_append_dropWhile (p := fun run => decide (run.1 + 1 < j)) (l := runs)]
          at earlier
        refine (List.mem_append.mp earlier).resolve_left fun dropped => ?_
        have passed := List.mem_takeWhile_imp dropped
        rw [decide_eq_true_eq] at passed
        omega
      have ascendStill := ascend.sublist (List.dropWhile_sublist fun run => run.1 + 1 < j)
      have notDropped := List.head?_dropWhile_not (fun run : Nat × Nat => run.1 + 1 < j) runs
      rw [extendRuns]
      split
      · rename_i front frontSize more shape
        rw [shape] at kept ascendStill notDropped
        by_cases now : last + 1 = j
        · -- The run in question is the first one that was kept.
          have first : (last, size) = (front, frontSize) := by
            refine (List.mem_cons.mp kept).resolve_right fun behind => ?_
            have less := (List.pairwise_cons.mp ascendStill).1 _ behind
            simp only [List.head?_cons, decide_eq_false_iff_not] at notDropped
            omega
          cases first
          rw [if_pos now, now]
          exact List.mem_cons_self
        · have later := (List.mem_cons.mp here).resolve_left now
          rw [shape]
          exact List.mem_cons_of_mem _ (ih ascendStill others kept later)
      · rename_i shape
        rw [shape] at kept
        cases kept

theorem longerRun_eq_self {i : Nat} {best : Block} {runs : List (Nat × Nat)}
    (short : ∀ run ∈ runs, run.2 ≤ best.size) : longerRun i best runs = best := by
  induction runs with
  | nil => rfl
  | cons run runs ih =>
      have notLonger : ¬ best.size < run.2 := Nat.not_lt.mpr (short run List.mem_cons_self)
      rw [longerRun_cons, if_neg notLonger]
      exact ih fun other member => short other (List.mem_cons_of_mem run member)

/-- How far the scan of a list against itself has come before line `i`: the best block starts at the
same place in both lists, and it is at least as long as any run. -/
structure Level (a : List Text) (i : Nat) (runs : List (Nat × Nat)) (best : Block) : Prop where
  ascend : runs.Pairwise fun one other => one.1 < other.1
  bounded : ∀ run ∈ runs, run.2 ≤ soughtBefore a i ∧ run.2 ≤ soughtBefore a (run.1 + 1)
  reached : ∀ last, last + 1 = i → 0 < soughtBefore a i → (last, soughtBefore a i) ∈ runs
  level : best.first = best.second
  longest : ∀ ending ≤ i, soughtBefore a ending ≤ best.size

theorem bounded_extendRuns {i : Nat} {line : Text} {js : List Nat} {runs : List (Nat × Nat)}
    (there : a[i]? = some line) (sought : ∀ j ∈ js, j ∈ places a line)
    (bounded : ∀ run ∈ runs, run.2 ≤ soughtBefore a i ∧ run.2 ≤ soughtBefore a (run.1 + 1))
    {run : Nat × Nat} (member : run ∈ extendRuns runs js) :
    run.2 ≤ soughtBefore a (i + 1) ∧ run.2 ≤ soughtBefore a (run.1 + 1) := by
  obtain ⟨place, how⟩ := mem_extendRuns member
  obtain ⟨sameLine, soughtThere⟩ := mem_places_self.mp (sought _ place)
  have soughtHere : isSought a i = true := by
    rw [isSought, sameLine] at soughtThere
    rwa [isSought, there]
  rw [soughtBefore, soughtBefore, if_pos soughtHere, if_pos soughtThere]
  rcases how with single | ⟨earlier, before, next, longer⟩
  · omega
  · have old := bounded earlier before
    rw [next] at old
    omega

/-- Where lines that are looked for end, the run that stays at the same place in both lists has all
of them. -/
theorem Level.reached_extendRuns {i : Nat} {line : Text} {js : List Nat} {runs : List (Nat × Nat)}
    {best : Block} (level : Level a i runs best) (there : a[i]? = some line)
    (places : ∀ j, j ∈ js ↔ j ∈ places a line) (ascendToo : js.Pairwise (· < ·))
    (sought : isSought a i = true) : (i, soughtBefore a (i + 1)) ∈ extendRuns runs js := by
  have length : soughtBefore a (i + 1) = soughtBefore a i + 1 := by rw [soughtBefore, if_pos sought]
  have here : i ∈ js := (places i).mpr (mem_places_self.mpr ⟨there, sought⟩)
  by_cases fresh : soughtBefore a i = 0
  · have listed : i ∈ (extendRuns runs js).map Prod.fst := by rwa [fst_extendRuns]
    obtain ⟨⟨place, size⟩, member, rfl⟩ := List.mem_map.mp listed
    have upper : size ≤ soughtBefore a (place + 1) :=
      (bounded_extendRuns there (fun j inside => (places j).mp inside) level.bounded member).1
    have lower : 1 ≤ size := by
      rcases (mem_extendRuns member).2 with single | ⟨earlier, -, -, longer⟩
      · exact Nat.le_of_eq single.symm
      · exact (Nat.le_add_left 1 earlier.2).trans_eq longer.symm
    have same : size = soughtBefore a (place + 1) := by
      dsimp only at fresh length
      omega
    rwa [same] at member
  · obtain ⟨last, rfl⟩ : ∃ last, i = last + 1 := by
      cases i with
      | zero => exact absurd rfl fresh
      | succ last => exact ⟨last, rfl⟩
    rw [length]
    exact mem_extendRuns_of_mem level.ascend ascendToo
      (level.reached last rfl (Nat.pos_of_ne_zero fresh)) here

/-- Among runs of which the one at place `i` is a longest, only that one can be longer than a block
that is as long as all earlier ones. -/
theorem longerRun_of_reached {i size : Nat} {best : Block} {runs : List (Nat × Nat)}
    (ascend : runs.Pairwise fun one other => one.1 < other.1) (reached : (i, size) ∈ runs)
    (upper : ∀ run ∈ runs, run.2 ≤ size) (early : ∀ run ∈ runs, run.1 < i → run.2 ≤ best.size) :
    longerRun i best runs = if best.size < size then runBlock (i + 1) (i, size) else best := by
  obtain ⟨before, after, rfl⟩ := List.append_of_mem reached
  have order := (List.pairwise_append.mp ascend).2.2
  have notBefore : longerRun i best before = best :=
    longerRun_eq_self fun run member =>
      early run (List.mem_append_left _ member) (order run member _ List.mem_cons_self)
  have parts : longerRun i best (before ++ (i, size) :: after) =
      longerRun i (if best.size < size then runBlock (i + 1) (i, size) else best) after := by
    rw [longerRun_append, notBefore, longerRun_cons]
  rw [parts]
  refine longerRun_eq_self fun run member => ?_
  have short := upper run (List.mem_append_right _ (List.mem_cons_of_mem _ member))
  split
  · exact short
  · rename_i enough
    exact short.trans (Nat.not_lt.mp enough)

/-- Where a line is looked for, the run that stays at the same place is a longest one, and it wins
over runs at later places; where it is not, no run goes on. -/
theorem Level.step {i : Nat} {line : Text} {js : List Nat} {runs : List (Nat × Nat)} {best : Block}
    (level : Level a i runs best) (there : a[i]? = some line)
    (places : ∀ j, j ∈ js ↔ j ∈ places a line) (ascendToo : js.Pairwise (· < ·)) :
    Level a (i + 1) (extendRuns runs js) (longerRun i best (extendRuns runs js)) := by
  have bounded (run) (member : run ∈ extendRuns runs js) :=
    bounded_extendRuns there (fun j inside => (places j).mp inside) level.bounded member
  have ascend : (extendRuns runs js).Pairwise fun one other => one.1 < other.1 := by
    rw [← fst_extendRuns runs js] at ascendToo
    exact List.pairwise_map.mp ascendToo
  have early (run) (member : run ∈ extendRuns runs js) (less : run.1 < i) : run.2 ≤ best.size :=
    (bounded run member).2.trans (level.longest _ less)
  by_cases sought : isSought a i = true
  · have reached := level.reached_extendRuns there places ascendToo sought
    rw [longerRun_of_reached ascend reached (fun run member => (bounded run member).1) early]
    refine ⟨ascend, bounded, fun last next _ => ?_, ?_, fun ending upTo => ?_⟩
    · cases next
      exact reached
    · split
      · rfl
      · exact level.level
    · rcases Nat.lt_or_eq_of_le upTo with before | rfl
      · have old := level.longest ending (Nat.le_of_lt_succ before)
        split
        · rename_i longer
          exact old.trans (Nat.le_of_lt longer)
        · exact old
      · split
        · exact Nat.le_refl _
        · rename_i enough
          exact Nat.not_lt.mp enough
  · have none_ : soughtBefore a (i + 1) = 0 := by rw [soughtBefore, if_neg sought]
    have same : longerRun i best (extendRuns runs js) = best := by
      refine longerRun_eq_self fun run member => ?_
      have size := (bounded run member).1
      omega
    rw [same]
    refine ⟨ascend, bounded, fun last next some_ => ?_, level.level, fun ending upTo => ?_⟩
    · rw [none_] at some_
      exact absurd some_ (Nat.lt_irrefl 0)
    · rcases Nat.lt_or_eq_of_le upTo with before | rfl
      · exact level.longest ending (Nat.le_of_lt_succ before)
      · rw [none_]
        exact Nat.zero_le _

theorem level_scanRuns {i : Nat} {rows : List (List Nat)} {runs : List (Nat × Nat)} {best : Block}
    (shape : rows = (a.map (places a)).drop i) (level : Level a i runs best) :
    (scanRuns 0 a.length i rows runs best).first =
      (scanRuns 0 a.length i rows runs best).second := by
  induction rows generalizing i runs best with
  | nil => exact level.level
  | cons js rows ih =>
      have row : (a.map (places a))[i]? = some js := by
        rw [← List.head?_drop, ← shape]
        rfl
      rw [List.getElem?_map] at row
      obtain ⟨line, there, rfl⟩ := Option.map_eq_some_iff.mp row
      have inside (j : Nat) :
          j ∈ ((places a line).filter fun j => 0 ≤ j && j < a.length) ↔ j ∈ places a line := by
        rw [List.mem_filter, and_iff_left_iff_imp]
        intro member
        have bound := (List.getElem?_eq_some_iff.mp (getElem?_of_mem_places member)).1
        simpa using bound
      have ascend : ((places a line).filter fun j => 0 ≤ j && j < a.length).Pairwise (· < ·) :=
        ((occurrences_ascend a line).sublist (places_sublist a line)).sublist List.filter_sublist
      have rest : rows = (a.map (places a)).drop (i + 1) := by
        rw [← List.tail_drop, ← shape]
        rfl
      exact ih rest (level.step there inside ascend)

theorem longest_self (a : List Text) :
    longest a.toArray a.toArray (a.map (places a)) ⟨0, a.length, 0, a.length⟩ =
      ⟨0, 0, a.length⟩ := by
  have start : Level a 0 [] ⟨0, 0, 0⟩ := by
    refine ⟨List.Pairwise.nil, ?_, ?_, rfl, ?_⟩
    · intro run member
      cases member
    · intro last next
      cases next
    · intro ending none_
      rw [Nat.le_zero.mp none_]
      exact Nat.le_refl 0
  have rows : ((a.map (places a)).drop 0).take (a.length - 0) = (a.map (places a)).drop 0 :=
    List.take_of_length_le (by simp)
  have common : Block.Common a a ⟨0, a.length, 0, a.length⟩ _ :=
    common_seed (Nat.zero_le _) (Nat.zero_le _)
  have level := level_scanRuns rfl start
  unfold longest
  dsimp only at common ⊢
  rw [rows] at common ⊢
  generalize scanRuns 0 a.length 0 ((a.map (places a)).drop 0) [] ⟨0, 0, 0⟩ = seed at common level ⊢
  obtain ⟨first, second, size⟩ := seed
  cases level
  have within : first + size ≤ a.length := common.firstHigh
  unfold Block.grow
  dsimp only
  rw [countWhile_eq (by simp), countWhile_eq (by simp)]
  simp only [Nat.sub_zero, Nat.min_self, Nat.sub_self, Block.mk.injEq, true_and]
  omega

theorem blocksIn_self {a : List Text} (filled : a.length ≠ 0) (fuel : Nat) :
    blocksIn a.toArray a.toArray (a.map (places a)) (fuel + 1) ⟨0, a.length, 0, a.length⟩ =
      [⟨0, 0, a.length⟩] := by
  rw [blocksIn]
  dsimp only
  rw [longest_self, if_neg filled]
  simp

/-- A list and itself have one block, the whole list. -/
theorem blocks_self {a : List Text} (filled : a ≠ []) : blocks a a = [⟨0, 0, a.length⟩] := by
  cases a with
  | nil => exact absurd rfl filled
  | cons line rest =>
      exact congrArg mergeBlocks
        (blocksIn_self (a := line :: rest) (Nat.succ_ne_zero rest.length) rest.length)

end StageParity.LineDiff
