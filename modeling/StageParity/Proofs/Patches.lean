import StageParity.Proofs.Blocks
import StageParity.Proofs.Judgement
import StageParity.Proofs.LayoutSettings

/-!
# Differences as patches

The segments of two line lists tile both of them, and unchanged segments have the same lines in
both (`LineDiff.tiles_segments`). Whatever is cut out of a tiling on the way to the hunks is
unchanged, so that the hunks are a patch: they name stretches of both lists in order, their lines
are the lines of these stretches, and all else is the same in both lists
(`LineDiff.patches_hunks`). A written difference is read back by its headers and the first glyphs
of its rows (`LineDiff.readPatch?_unified`), and applying what was read to the first list gives the
second (`LineDiff.Patches.apply`).
-/

namespace StageParity

namespace LineDiff

variable {a b : List Text} {i j m n p q : Nat} {s : Segment}

/-! ## Stretches of a list -/

theorem slice_append {lines : List Text} {low mid high : Nat} (first : low ≤ mid)
    (second : mid ≤ high) : slice lines low mid ++ slice lines mid high = slice lines low high := by
  obtain ⟨k, rfl⟩ := Nat.exists_eq_add_of_le first
  obtain ⟨l, rfl⟩ := Nat.exists_eq_add_of_le second
  simp only [slice, Nat.add_sub_cancel_left]
  rw [Nat.add_assoc, Nat.add_sub_cancel_left, List.take_add, List.drop_drop]

theorem slice_append_drop {lines : List Text} {low mid : Nat} (upTo : low ≤ mid) :
    slice lines low mid ++ lines.drop mid = lines.drop low := by
  obtain ⟨k, rfl⟩ := Nat.exists_eq_add_of_le upTo
  rw [slice, Nat.add_sub_cancel_left, ← List.drop_drop, List.take_append_drop]

theorem slice_to_end (lines : List Text) (low : Nat) :
    slice lines low lines.length = lines.drop low :=
  List.take_of_length_le (by rw [List.length_drop])

theorem slice_ne_nil {lines : List Text} {low high : Nat} (filled : low < high)
    (within : high ≤ lines.length) : slice lines low high ≠ [] := by
  intro none_
  have length := congrArg List.length none_
  rw [slice, List.length_take, List.length_drop, List.length_nil] at length
  omega

theorem mem_of_mem_slice {lines : List Text} {low high : Nat} {line : Text}
    (member : line ∈ slice lines low high) : line ∈ lines :=
  List.mem_of_mem_drop (List.mem_of_mem_take member)

/-- The lines of one list from `i` up to `p` are those of the other from `j` up to `q`. -/
def Unchanged (a b : List Text) (i p j q : Nat) : Prop :=
  ∃ size, p = i + size ∧ q = j + size ∧ Block.Matches a b ⟨i, j, size⟩

theorem Unchanged.refl (i j : Nat) : Unchanged a b i i j j :=
  ⟨0, rfl, rfl, fun t small => absurd small (Nat.not_lt_zero t)⟩

theorem Unchanged.trans (left : Unchanged a b i p j q) (right : Unchanged a b p m q n) :
    Unchanged a b i m j n := by
  obtain ⟨k, rfl, rfl, first⟩ := left
  obtain ⟨l, rfl, rfl, second⟩ := right
  exact ⟨k + l, Nat.add_assoc i k l, Nat.add_assoc j k l, first.append second⟩

/-- Part of an unchanged stretch. -/
theorem Unchanged.part {k l : Nat} (whole : Unchanged a b i p j q) (ordered : k ≤ l)
    (within : i + l ≤ p) : Unchanged a b (i + k) (i + l) (j + k) (j + l) := by
  obtain ⟨size, rfl, rfl, same⟩ := whole
  refine ⟨l - k, by omega, by omega, fun t small => ?_⟩
  have there := same (k + t) (by dsimp only at small ⊢; omega)
  simpa only [Nat.add_assoc] using there

theorem Unchanged.slice_eq (whole : Unchanged a b i p j q) : slice a i p = slice b j q := by
  obtain ⟨size, rfl, rfl, same⟩ := whole
  refine List.ext_getElem? fun t => ?_
  rw [slice, slice, Nat.add_sub_cancel_left, Nat.add_sub_cancel_left, List.getElem?_take,
    List.getElem?_take, List.getElem?_drop, List.getElem?_drop]
  by_cases small : t < size
  · rw [if_pos small, if_pos small]
    exact same t small
  · rw [if_neg small, if_neg small]

/-! ## Segments that tile both lists -/

/-- An unchanged segment has the same lines in both lists; a changed one has lines. -/
structure Segment.Fits (a b : List Text) (s : Segment) : Prop where
  first : s.firstLow ≤ s.firstHigh
  second : s.secondLow ≤ s.secondHigh
  same : s.same = true → Unchanged a b s.firstLow s.firstHigh s.secondLow s.secondHigh
  filled : s.same = false → s.firstLow < s.firstHigh ∨ s.secondLow < s.secondHigh

theorem Segment.fits_of_unchanged (same : s.same = true)
    (whole : Unchanged a b s.firstLow s.firstHigh s.secondLow s.secondHigh) : s.Fits a b := by
  obtain ⟨size, first, second, -⟩ := id whole
  refine ⟨by omega, by omega, fun _ => whole, fun changed => ?_⟩
  rw [same] at changed
  cases changed

theorem Segment.head_ends {size : Nat} (first : s.firstHigh = s.firstLow + size)
    (second : s.secondHigh = s.secondLow + size) :
    s.head.firstHigh = s.firstLow + min size contextLines ∧
      s.head.secondHigh = s.secondLow + min size contextLines := by
  dsimp only [Segment.head]
  omega

theorem Segment.tail_starts {size : Nat} (first : s.firstHigh = s.firstLow + size)
    (second : s.secondHigh = s.secondLow + size) :
    s.tail.firstLow = s.firstLow + (size - contextLines) ∧
      s.tail.secondLow = s.secondLow + (size - contextLines) := by
  dsimp only [Segment.tail]
  omega

/-- What is cut off behind the first lines of an unchanged segment is unchanged. -/
theorem Segment.Fits.head (fits : s.Fits a b) (same : s.same = true) :
    s.head.Fits a b ∧
      Unchanged a b s.head.firstHigh s.firstHigh s.head.secondHigh s.secondHigh := by
  have whole := fits.same same
  obtain ⟨size, first, second, -⟩ := id whole
  obtain ⟨firstHigh, secondHigh⟩ := Segment.head_ends first second
  constructor
  · apply Segment.fits_of_unchanged (s := s.head) same
    rw [firstHigh, secondHigh]
    exact whole.part (Nat.zero_le _) (by omega)
  · rw [firstHigh, secondHigh, second, first]
    exact whole.part (Nat.min_le_left _ _) (Nat.le_of_eq first.symm)

/-- What is cut off before the last lines of an unchanged segment is unchanged. -/
theorem Segment.Fits.tail (fits : s.Fits a b) (same : s.same = true) :
    s.tail.Fits a b ∧ Unchanged a b s.firstLow s.tail.firstLow s.secondLow s.tail.secondLow := by
  have whole := fits.same same
  obtain ⟨size, first, second, -⟩ := id whole
  obtain ⟨firstLow, secondLow⟩ := Segment.tail_starts first second
  constructor
  · apply Segment.fits_of_unchanged (s := s.tail) same
    have kept := whole.part (Nat.sub_le size contextLines) (Nat.le_of_eq first.symm)
    rwa [← firstLow, ← secondLow, ← first, ← second] at kept
  · rw [firstLow, secondLow]
    exact whole.part (Nat.zero_le _) (by omega)

/-- What lies between the first and the last lines of a long unchanged segment is unchanged. -/
theorem Segment.Fits.middle (fits : s.Fits a b) (same : s.same = true)
    (long : contextLines + contextLines < s.firstHigh - s.firstLow) :
    Unchanged a b s.head.firstHigh s.tail.firstLow s.head.secondHigh s.tail.secondLow := by
  have whole := fits.same same
  obtain ⟨size, first, second, -⟩ := id whole
  obtain ⟨firstHigh, secondHigh⟩ := Segment.head_ends first second
  obtain ⟨firstLow, secondLow⟩ := Segment.tail_starts first second
  rw [firstHigh, secondHigh, firstLow, secondLow]
  exact whole.part (by omega) (by omega)

/-- Segments that follow one another in both lists, from `i` and `j` up to `m` and `n`. -/
def Tiles (a b : List Text) : (i j : Nat) → List Segment → (m n : Nat) → Prop
  | i, j, [], m, n => i = m ∧ j = n
  | i, j, s :: rest, m, n =>
    s.firstLow = i ∧ s.secondLow = j ∧ s.Fits a b ∧ Tiles a b s.firstHigh s.secondHigh rest m n

theorem Tiles.append {left right : List Segment} (before : Tiles a b i j left p q)
    (after : Tiles a b p q right m n) : Tiles a b i j (left ++ right) m n := by
  induction left generalizing i j with
  | nil =>
      obtain ⟨rfl, rfl⟩ := before
      exact after
  | cons s left ih =>
      obtain ⟨first, second, fits, later⟩ := before
      exact ⟨first, second, fits, ih later⟩

theorem Tiles.split {left right : List Segment} (tiles : Tiles a b i j (left ++ right) m n) :
    ∃ p q, Tiles a b i j left p q ∧ Tiles a b p q right m n := by
  induction left generalizing i j with
  | nil => exact ⟨i, j, ⟨rfl, rfl⟩, tiles⟩
  | cons s left ih =>
      obtain ⟨first, second, fits, later⟩ := tiles
      obtain ⟨p, q, before, after⟩ := ih later
      exact ⟨p, q, ⟨first, second, fits, before⟩, after⟩

theorem Tiles.le {segments : List Segment} (tiles : Tiles a b i j segments m n) :
    i ≤ m ∧ j ≤ n := by
  induction segments generalizing i j with
  | nil => exact ⟨Nat.le_of_eq tiles.1, Nat.le_of_eq tiles.2⟩
  | cons s rest ih =>
      obtain ⟨rfl, rfl, fits, later⟩ := tiles
      exact ⟨fits.first.trans (ih later).1, fits.second.trans (ih later).2⟩

theorem Tiles.last {segments : List Segment} (tiles : Tiles a b i j segments m n)
    (last : segments.getLast? = some s) : s.firstHigh = m ∧ s.secondHigh = n := by
  induction segments generalizing i j with
  | nil => cases last
  | cons t rest ih =>
      obtain ⟨-, -, -, later⟩ := tiles
      cases rest with
      | nil =>
          cases last
          exact later
      | cons u rest => exact ih later (by rwa [List.getLast?_cons_cons] at last)

theorem tiles_changed (first : i ≤ p) (second : j ≤ q) : Tiles a b i j (changed i p j q) p q := by
  unfold changed
  split
  · rename_i some_
    refine ⟨rfl, rfl, ⟨first, second, fun same => ?_, fun _ => ?_⟩, rfl, rfl⟩
    · cases same
    · simpa using some_
  · rename_i none_
    simp only [Bool.or_eq_true, decide_eq_true_eq, not_or, Nat.not_lt] at none_
    exact ⟨Nat.le_antisymm first none_.1, Nat.le_antisymm second none_.2⟩

theorem tiles_segmentsFrom {blocks : List Block} (chain : Chain a b ⟨i, m, j, n⟩ blocks) :
    Tiles a b i j (segmentsFrom m n i j blocks) m n := by
  induction blocks generalizing i j with
  | nil => exact tiles_changed chain.1 chain.2
  | cons block rest ih =>
      obtain ⟨-, common, later⟩ := chain
      refine (tiles_changed common.firstLow common.secondLow).append ⟨rfl, rfl, ?_, ih later⟩
      exact Segment.fits_of_unchanged rfl ⟨block.size, rfl, rfl, common.same⟩

theorem tiles_segments (a b : List Text) :
    Tiles a b 0 0 (segments a b) a.length b.length :=
  tiles_segmentsFrom (chain_blocks a b)

theorem tiles_trimFront {segments : List Segment} (tiles : Tiles a b i j segments m n) :
    ∃ p q, Unchanged a b i p j q ∧ Tiles a b p q (trimFront segments) m n := by
  cases segments with
  | nil => exact ⟨i, j, .refl i j, tiles⟩
  | cons s rest =>
      obtain ⟨rfl, rfl, fits, later⟩ := tiles
      rw [trimFront]
      by_cases same : s.same = true
      · obtain ⟨kept, cut⟩ := fits.tail same
        rw [if_pos same]
        exact ⟨_, _, cut, rfl, rfl, kept, later⟩
      · rw [if_neg same]
        exact ⟨_, _, .refl _ _, rfl, rfl, fits, later⟩

theorem tiles_trimBack {segments : List Segment} (tiles : Tiles a b i j segments m n) :
    ∃ p q, Tiles a b i j (trimBack segments) p q ∧ Unchanged a b p m q n := by
  fun_induction trimBack segments generalizing i j with
  | case1 => exact ⟨m, n, tiles, .refl m n⟩
  | case2 s =>
      obtain ⟨first, second, fits, rfl, rfl⟩ := tiles
      by_cases same : s.same = true
      · obtain ⟨kept, cut⟩ := fits.head same
        rw [if_pos same]
        exact ⟨_, _, ⟨first, second, kept, rfl, rfl⟩, cut⟩
      · rw [if_neg same]
        exact ⟨_, _, ⟨first, second, fits, rfl, rfl⟩, .refl _ _⟩
  | case3 s rest _ ih =>
      obtain ⟨first, second, fits, later⟩ := tiles
      obtain ⟨p, q, kept, cut⟩ := ih later
      exact ⟨p, q, ⟨first, second, fits, kept⟩, cut⟩

/-! ## Groups of segments -/

/-- Groups of segments with unchanged stretches before, between and after them, from `i` and `j` up
to `m` and `n`. -/
def Grouped (a b : List Text) : (i j : Nat) → List (List Segment) → (m n : Nat) → Prop
  | i, j, [], m, n => Unchanged a b i m j n
  | i, j, group :: rest, m, n =>
    ∃ p q r s, Unchanged a b i p j q ∧ group ≠ [] ∧ Tiles a b p q group r s ∧
      Grouped a b r s rest m n

theorem Grouped.before {groups : List (List Segment)} (skipped : Unchanged a b i p j q)
    (grouped : Grouped a b p q groups m n) : Grouped a b i j groups m n := by
  cases groups with
  | nil => exact skipped.trans grouped
  | cons group rest =>
      obtain ⟨p', q', r, s, gap, filled, tiles, later⟩ := grouped
      exact ⟨p', q', r, s, skipped.trans gap, filled, tiles, later⟩

theorem Grouped.after {groups : List (List Segment)} (grouped : Grouped a b i j groups p q)
    (skipped : Unchanged a b p m q n) : Grouped a b i j groups m n := by
  induction groups generalizing i j with
  | nil => exact grouped.trans skipped
  | cons group rest ih =>
      obtain ⟨p', q', r, s, gap, filled, tiles, later⟩ := grouped
      exact ⟨p', q', r, s, gap, filled, tiles, ih later⟩

/-- The unfinished group and the segments still to come tile the lists from `p` and `q` on. -/
theorem grouped_groupsFrom {group rest : List Segment}
    (unfinished : Tiles a b p q group.reverse i j) (tiles : Tiles a b i j rest m n) :
    Grouped a b p q (groupsFrom group rest) m n := by
  induction rest generalizing group i j p q with
  | nil =>
      obtain ⟨rfl, rfl⟩ := tiles
      rw [groupsFrom]
      by_cases shows : showsChange group = true
      · rw [if_pos shows]
        refine ⟨p, q, i, j, .refl p q, fun none_ => ?_, unfinished, .refl i j⟩
        rw [List.reverse_eq_nil_iff.mp none_] at shows
        cases shows
      · rw [if_neg shows]
        -- A group without a change is empty or one unchanged segment.
        match group, shows, unfinished with
        | [], _, unfinished =>
            obtain ⟨rfl, rfl⟩ := unfinished
            exact .refl p q
        | [s], shows, unfinished =>
            obtain ⟨rfl, rfl, fits, rfl, rfl⟩ := unfinished
            exact fits.same (by simpa [showsChange] using shows)
        | _ :: _ :: _, shows, _ => exact absurd rfl shows
  | cons s rest ih =>
      obtain ⟨first, second, fits, later⟩ := tiles
      rw [groupsFrom]
      split
      · rename_i long
        obtain ⟨same, long⟩ := Bool.and_eq_true_iff.mp long
        have long := of_decide_eq_true long
        refine ⟨p, q, s.head.firstHigh, s.head.secondHigh, .refl p q, by simp, ?_, ?_⟩
        · rw [List.reverse_cons]
          exact unfinished.append ⟨first, second, (fits.head same).1, rfl, rfl⟩
        · apply Grouped.before (fits.middle same long)
          exact ih ⟨rfl, rfl, (fits.tail same).1, rfl, rfl⟩ later
      · refine ih ?_ later
        rw [List.reverse_cons]
        exact unfinished.append ⟨first, second, fits, rfl, rfl⟩

/-! ## Hunks -/

/-- The line of the first list that a line of a hunk stands for. -/
def Line.old? : Line → Option Text
  | .context text => some text
  | .removed text => some text
  | .added _ => none

/-- The line of the second list that a line of a hunk stands for. -/
def Line.new? : Line → Option Text
  | .context text => some text
  | .removed _ => none
  | .added text => some text

theorem Segment.lines_old (s : Segment) :
    (s.lines a b).filterMap Line.old? = slice a s.firstLow s.firstHigh := by
  unfold Segment.lines
  split
  · simp [Function.comp_def, Line.old?]
  · simp [Function.comp_def, Line.old?]

theorem Segment.Fits.lines_new (fits : s.Fits a b) :
    (s.lines a b).filterMap Line.new? = slice b s.secondLow s.secondHigh := by
  unfold Segment.lines
  split
  · rename_i same
    rw [← (fits.same same).slice_eq]
    simp [Function.comp_def, Line.new?]
  · simp [Function.comp_def, Line.new?]

theorem Tiles.old {segments : List Segment} (tiles : Tiles a b i j segments m n) :
    (segments.flatMap (Segment.lines a b)).filterMap Line.old? = slice a i m := by
  induction segments generalizing i j with
  | nil =>
      obtain ⟨rfl, -⟩ := tiles
      simp [slice]
  | cons s rest ih =>
      obtain ⟨rfl, rfl, fits, later⟩ := tiles
      rw [List.flatMap_cons, List.filterMap_append, ih later, Segment.lines_old]
      exact slice_append fits.first later.le.1

theorem Tiles.new {segments : List Segment} (tiles : Tiles a b i j segments m n) :
    (segments.flatMap (Segment.lines a b)).filterMap Line.new? = slice b j n := by
  induction segments generalizing i j with
  | nil =>
      obtain ⟨-, rfl⟩ := tiles
      simp [slice]
  | cons s rest ih =>
      obtain ⟨rfl, rfl, fits, later⟩ := tiles
      rw [List.flatMap_cons, List.filterMap_append, ih later, fits.lines_new]
      exact slice_append fits.second later.le.2

/-- The unchanged and the removed lines of a hunk are the lines of the first list that it covers,
the unchanged and the added ones those of the second. -/
structure Hunk.Fits (a b : List Text) (h : Hunk) : Prop where
  first : h.firstLow ≤ h.firstHigh
  firstEnd : h.firstHigh ≤ a.length
  second : h.secondLow ≤ h.secondHigh
  secondEnd : h.secondHigh ≤ b.length
  old : h.lines.filterMap Line.old? = slice a h.firstLow h.firstHigh
  new : h.lines.filterMap Line.new? = slice b h.secondLow h.secondHigh

theorem hunkOf?_of_tiles {group : List Segment} (filled : group ≠ [])
    (tiles : Tiles a b i j group m n) :
    hunkOf? a b group = some ⟨i, m, j, n, group.flatMap (Segment.lines a b)⟩ := by
  cases group with
  | nil => exact absurd rfl filled
  | cons s rest =>
      obtain ⟨last, isLast⟩ : ∃ last, (s :: rest).getLast? = some last := by
        rw [List.getLast?_cons]
        exact ⟨_, rfl⟩
      obtain ⟨rfl, rfl⟩ := tiles.last isLast
      obtain ⟨rfl, rfl, -, -⟩ := tiles
      rw [hunkOf?, isLast]
      rfl

/-- Hunks in order, without overlap, that say how the lines of one list from `i` on become the lines
of the other from `j` on: the lines before, between and after them are the same in both lists. -/
def Patches (a b : List Text) : (i j : Nat) → List Hunk → Prop
  | i, j, [] => a.drop i = b.drop j
  | i, j, h :: rest =>
    i ≤ h.firstLow ∧ j ≤ h.secondLow ∧ slice a i h.firstLow = slice b j h.secondLow ∧
      h.Fits a b ∧ Patches a b h.firstHigh h.secondHigh rest

theorem Unchanged.le (whole : Unchanged a b i p j q) : i ≤ p ∧ j ≤ q := by
  obtain ⟨size, rfl, rfl, -⟩ := whole
  exact ⟨Nat.le_add_right i size, Nat.le_add_right j size⟩

theorem Grouped.le {groups : List (List Segment)} (grouped : Grouped a b i j groups m n) :
    i ≤ m ∧ j ≤ n := by
  induction groups generalizing i j with
  | nil => exact Unchanged.le grouped
  | cons group rest ih =>
      obtain ⟨p, q, r, s, gap, -, tiles, later⟩ := grouped
      have := gap.le
      have := tiles.le
      have := ih later
      omega

theorem Grouped.patches {groups : List (List Segment)}
    (grouped : Grouped a b i j groups a.length b.length) :
    Patches a b i j (groups.filterMap (hunkOf? a b)) := by
  induction groups generalizing i j with
  | nil =>
      have rests := Unchanged.slice_eq grouped
      rwa [slice_to_end, slice_to_end] at rests
  | cons group rest ih =>
      obtain ⟨p, q, r, s, gap, filled, tiles, later⟩ := grouped
      rw [List.filterMap_cons_some (hunkOf?_of_tiles filled tiles)]
      exact ⟨gap.le.1, gap.le.2, gap.slice_eq,
        ⟨tiles.le.1, later.le.1, tiles.le.2, later.le.2, tiles.old, tiles.new⟩, ih later⟩

/-- The groups of two line lists cover all that was changed. -/
theorem grouped_segments (a b : List Text) :
    Grouped a b 0 0 (groupsFrom [] (trimBack (trimFront (segments a b)))) a.length b.length := by
  obtain ⟨i, j, front, fromFront⟩ := tiles_trimFront (tiles_segments a b)
  obtain ⟨m, n, tiles, back⟩ := tiles_trimBack fromFront
  have unfinished : Tiles a b i j ([] : List Segment).reverse i j := ⟨rfl, rfl⟩
  exact ((grouped_groupsFrom unfinished tiles).before front).after back

/-- The hunks of two line lists are a patch from the one to the other. -/
theorem patches_hunks (a b : List Text) : Patches a b 0 0 (hunks a b) :=
  (grouped_segments a b).patches

/-- A change or a short segment is put into the unfinished group. -/
theorem groupsFrom_keep {group rest : List Segment}
    (kept : ¬ (s.same = true ∧ contextLines + contextLines < s.firstHigh - s.firstLow)) :
    groupsFrom group (s :: rest) = groupsFrom (s :: group) rest := by
  rw [groupsFrom, if_neg (by simpa using kept)]

/-- An unchanged segment alone makes no group. -/
theorem groupsFrom_unchanged (same : s.same = true) :
    groupsFrom [] (trimBack (trimFront [s])) = [] := by
  have trimmed : trimBack (trimFront [s]) = [s.tail.head] := by
    rw [trimFront, if_pos same, trimBack, if_pos (show s.tail.same = true from same)]
  have short : ¬ contextLines + contextLines < s.tail.head.firstHigh - s.tail.head.firstLow := by
    dsimp only [Segment.head]
    omega
  have still : s.tail.head.same = true := same
  rw [trimmed, groupsFrom_keep fun long => short long.2, groupsFrom, showsChange, still]
  rfl

/-- Equal lists have no hunks: their one segment is unchanged. -/
theorem hunks_self (a : List Text) : hunks a a = [] := by
  cases a with
  | nil => rfl
  | cons line rest =>
      have one : segments (line :: rest) (line :: rest) =
          [⟨true, 0, rest.length + 1, 0, rest.length + 1⟩] := by
        simp [segments, blocks_self (List.cons_ne_nil line rest), segmentsFrom, changed]
      rw [hunks, one, groupsFrom_unchanged rfl]
      rfl

theorem hunks_eq_nil_iff {a b : List Text} : hunks a b = [] ↔ a = b := by
  constructor
  · intro none_
    have rests := patches_hunks a b
    rw [none_] at rests
    exact rests
  · rintro rfl
    exact hunks_self a

/-- Apply hunks to the lines of a list from `i` on. The lines that a hunk covers must be its
unchanged and removed lines; its unchanged and added lines are put in their place. -/
def patch? (a : List Text) : (i : Nat) → List Hunk → Option (List Text)
  | i, [] => some (a.drop i)
  | i, h :: rest =>
    if i ≤ h.firstLow ∧ slice a h.firstLow h.firstHigh = h.lines.filterMap Line.old? then
      (patch? a h.firstHigh rest).map fun later =>
        slice a i h.firstLow ++ h.lines.filterMap Line.new? ++ later
    else none

theorem Patches.apply {hunks : List Hunk} (patches : Patches a b i j hunks) :
    patch? a i hunks = some (b.drop j) := by
  induction hunks generalizing i j with
  | nil => exact congrArg some patches
  | cons h rest ih =>
      obtain ⟨first, second, gap, fits, later⟩ := patches
      rw [patch?, if_pos ⟨first, fits.old.symm⟩, ih later, Option.map_some, gap, fits.new,
        List.append_assoc, slice_append_drop fits.second, slice_append_drop second]

/-! ## Written differences -/

/-- Read a number written in decimal digits. -/
def readNumber? (t : Text) : Option Nat :=
  match t.chars? with
  | some digits =>
    if digits ≠ [] ∧ digits.all Char.isDigit then some (Nat.ofDigitChars 10 digits 0) else none
  | none => none

/-- Read the stretch of lines that a hunk header names, as the line before it and its last line. A
stretch with no size has one line; an empty one is named by the line before it. -/
def readRange? (t : Text) : Option (Nat × Nat) :=
  match t.splitOn (.char ',') with
  | [start] => (readNumber? start).map fun line => (line - 1, line)
  | [start, size] =>
    match readNumber? start, readNumber? size with
    | some line, some 0 => some (line, line)
    | some line, some size => some (line - 1, line - 1 + size)
    | _, _ => none
  | _ => none

/-- Read a hunk header: the stretch of each list. -/
def readHead? (row : Text) : Option Region :=
  match row.splitOn (.char ' ') with
  | [opening, .char '-' :: first, .char '+' :: second, closing] =>
    match readRange? first, readRange? second with
    | some (firstLow, firstHigh), some (secondLow, secondHigh) =>
      if opening = ("@@" : Text) ∧ closing = ("@@" : Text) then
        some ⟨firstLow, firstHigh, secondLow, secondHigh⟩
      else none
    | _, _ => none
  | _ => none

/-- Read a hunk line by its first glyph. -/
def readLine? : Text → Option Line
  | .char ' ' :: text => some (.context text)
  | .char '-' :: text => some (.removed text)
  | .char '+' :: text => some (.added text)
  | _ => none

/-- Read rows as hunks. The lines before the first header are given as well. -/
def readRows? : List Text → Option (List Line × List Hunk)
  | [] => some ([], [])
  | row :: rest =>
    match readRows? rest, readLine? row, readHead? row with
    | some (lines, hunks), some line, _ => some (line :: lines, hunks)
    | some (lines, hunks), none, some ⟨firstLow, firstHigh, secondLow, secondHigh⟩ =>
      some ([], ⟨firstLow, firstHigh, secondLow, secondHigh, lines⟩ :: hunks)
    | _, _, _ => none

/-- Read a written difference of two lists with the given names. -/
def readPatch? (firstName secondName : Text) : List Text → Option (List Hunk)
  | [] => some []
  | first :: second :: rows =>
    match readRows? rows with
    | some ([], hunks) =>
      if first = "--- " ++ firstName ∧ second = "+++ " ++ secondName then some hunks else none
    | _ => none
  | _ => none

theorem readNumber?_ofNat (n : Nat) : readNumber? (Text.ofNat n) = some n := by
  have digits : (Text.ofNat n).chars? = some (Nat.toDigits 10 n) := Text.chars?_eq_some.mpr rfl
  have all : (Nat.toDigits 10 n).all Char.isDigit = true := by
    rw [List.all_eq_true]
    intro c member
    exact Nat.isDigit_of_mem_toDigits (by decide) (by decide) member
  rw [readNumber?, digits]
  dsimp only
  rw [if_pos ⟨Nat.toDigits_ne_nil, all⟩, Nat.ofDigitChars_toDigits (by decide) (by decide)]

theorem readRange?_single (line : Nat) :
    readRange? (Text.ofNat line) = some (line - 1, line) := by
  rw [readRange?, Text.splitOn_of_notMem (Text.char_notMem_ofNat (by decide) line)]
  dsimp only
  rw [readNumber?_ofNat]
  rfl

theorem readRange?_sized (line size : Nat) :
    readRange? (Text.ofNat line ++ .char ',' :: Text.ofNat size) =
      some (if size = 0 then (line, line) else (line - 1, line - 1 + size)) := by
  rw [readRange?, Text.splitOn_append,
    Text.splitOn_of_notMem (Text.char_notMem_ofNat (by decide) line),
    Text.splitOn_of_notMem (Text.char_notMem_ofNat (by decide) size)]
  dsimp only [List.cons_append, List.nil_append]
  rw [readNumber?_ofNat, readNumber?_ofNat]
  cases size with
  | zero => rfl
  | succ size => rfl

theorem readRange?_rangeText {low high : Nat} (ordered : low ≤ high) :
    readRange? (rangeText low high) = some (low, high) := by
  have sized (line size : Nat) : Text.ofNat line ++ "," ++ Text.ofNat size =
      Text.ofNat line ++ .char ',' :: Text.ofNat size := by simp [Text.ofString]
  obtain ⟨size, rfl⟩ := Nat.exists_eq_add_of_le ordered
  unfold rangeText
  dsimp only
  rw [Nat.add_sub_cancel_left]
  by_cases one : size = 1
  · rw [if_pos one, readRange?_single, one]
    rfl
  · rw [if_neg one, sized, readRange?_sized]
    by_cases empty : size = 0
    · rw [if_pos empty, if_pos empty, empty]
      rfl
    · rw [if_neg empty, if_neg empty]
      rfl

theorem char_notMem_rangeText {c : Char} (other : c.isDigit = false) (noComma : c ≠ ',')
    (low high : Nat) : Glyph.char c ∉ rangeText low high := by
  have number := Text.char_notMem_ofNat other
  unfold rangeText
  dsimp only
  split
  · exact number _
  · simp [number, Text.ofString, noComma]

theorem readHead?_text {h : Hunk} (first : h.firstLow ≤ h.firstHigh)
    (second : h.secondLow ≤ h.secondHigh) :
    readHead? ("@@ -" ++ rangeText h.firstLow h.firstHigh ++ " +" ++
      rangeText h.secondLow h.secondHigh ++ " @@") =
        some ⟨h.firstLow, h.firstHigh, h.secondLow, h.secondHigh⟩ := by
  have blank (c : Char) (low high : Nat) (other : c ≠ ' ') :
      Glyph.char ' ' ∉ Glyph.char c :: rangeText low high := by
    rw [List.mem_cons, not_or]
    exact ⟨fun same => other (Glyph.char.inj same).symm,
      char_notMem_rangeText (by decide) (by decide) low high⟩
  have shape : "@@ -" ++ rangeText h.firstLow h.firstHigh ++ " +" ++
      rangeText h.secondLow h.secondHigh ++ " @@" =
        ("@@" : Text) ++ .char ' ' :: ((.char '-' :: rangeText h.firstLow h.firstHigh) ++
          .char ' ' :: ((.char '+' :: rangeText h.secondLow h.secondHigh) ++
            .char ' ' :: ("@@" : Text))) := by
    simp [Text.ofString]
  have parts : Text.splitOn (.char ' ') ("@@ -" ++ rangeText h.firstLow h.firstHigh ++ " +" ++
      rangeText h.secondLow h.secondHigh ++ " @@") =
        [("@@" : Text), .char '-' :: rangeText h.firstLow h.firstHigh,
          .char '+' :: rangeText h.secondLow h.secondHigh, ("@@" : Text)] := by
    rw [shape, Text.splitOn_append, Text.splitOn_append, Text.splitOn_append,
      Text.splitOn_of_notMem (blank '-' _ _ (by decide)),
      Text.splitOn_of_notMem (blank '+' _ _ (by decide)),
      Text.splitOn_of_notMem (t := ("@@" : Text)) (by decide)]
    rfl
  rw [readHead?, parts]
  simp [readRange?_rangeText first, readRange?_rangeText second]

/-- A hunk is written as a header that gives its stretches, and its lines. -/
theorem Hunk.text_eq {h : Hunk} (first : h.firstLow ≤ h.firstHigh)
    (second : h.secondLow ≤ h.secondHigh) :
    ∃ head, h.text = head :: h.lines.map Line.text ∧ readLine? head = none ∧
      readHead? head = some ⟨h.firstLow, h.firstHigh, h.secondLow, h.secondHigh⟩ :=
  ⟨_, rfl, rfl, readHead?_text first second⟩

theorem readLine?_text (line : Line) : readLine? line.text = some line := by
  cases line <;> rfl

theorem readRows?_lines {rows : List Text} {before : List Line} {hunks : List Hunk}
    (later : readRows? rows = some (before, hunks)) (lines : List Line) :
    readRows? (lines.map Line.text ++ rows) = some (lines ++ before, hunks) := by
  induction lines with
  | nil => exact later
  | cons line lines ih =>
      rw [List.map_cons, List.cons_append, readRows?, ih, readLine?_text]
      rfl

/-- The rows of hunks give the hunks back. -/
theorem readRows?_text {hunks : List Hunk}
    (ordered : ∀ h ∈ hunks, h.firstLow ≤ h.firstHigh ∧ h.secondLow ≤ h.secondHigh) :
    readRows? (hunks.flatMap Hunk.text) = some ([], hunks) := by
  induction hunks with
  | nil => rfl
  | cons h hunks ih =>
      have later := ih fun other member => ordered other (List.mem_cons_of_mem h member)
      obtain ⟨first, second⟩ := ordered h List.mem_cons_self
      obtain ⟨head, text, noLine, region⟩ := Hunk.text_eq first second
      rw [List.flatMap_cons, text, List.cons_append, readRows?, readRows?_lines later, noLine,
        region, List.append_nil]

theorem Patches.ordered {hunks : List Hunk} (patches : Patches a b i j hunks) :
    ∀ h ∈ hunks, h.firstLow ≤ h.firstHigh ∧ h.secondLow ≤ h.secondHigh := by
  induction hunks generalizing i j with
  | nil => exact fun h member => absurd member List.not_mem_nil
  | cons h rest ih =>
      obtain ⟨-, -, -, fits, later⟩ := patches
      intro other member
      rcases List.mem_cons.mp member with rfl | member
      · exact ⟨fits.first, fits.second⟩
      · exact ih later other member

theorem readPatch?_unified {hunks : List Hunk}
    (ordered : ∀ h ∈ hunks, h.firstLow ≤ h.firstHigh ∧ h.secondLow ≤ h.secondHigh)
    (firstName secondName : Text) :
    readPatch? firstName secondName (unified firstName secondName hunks) = some hunks := by
  cases hunks with
  | nil => rfl
  | cons h rest =>
      rw [unified, if_neg (by simp), readPatch?, readRows?_text ordered]
      exact if_pos ⟨rfl, rfl⟩

theorem unified_eq_nil_iff {firstName secondName : Text} {hunks : List Hunk} :
    unified firstName secondName hunks = [] ↔ hunks = [] := by
  cases hunks <;> simp [unified]

end LineDiff

namespace Comparison

open LineDiff

theorem lineDiff_eq_nil_iff {kind : CheckKind} {a b : Captured} :
    lineDiff kind a b = [] ↔
      Text.lines (Text.printable (a.view kind)) = Text.lines (Text.printable (b.view kind)) :=
  unified_eq_nil_iff.trans hunks_eq_nil_iff

/-- Views with the same lines are shown in quotes, others by their difference. -/
theorem diff_eq (kind : CheckKind) (a b : Captured) :
    diff kind a b = Text.join "\n"
      (if Text.lines (Text.printable (a.view kind)) = Text.lines (Text.printable (b.view kind)) then
        ["stage0: " ++ Text.quoted (Text.printable (a.view kind)),
          "stage1: " ++ Text.quoted (Text.printable (b.view kind))]
      else cut (lineDiff kind a b)) := by
  unfold diff
  dsimp only
  split_ifs with none_ same same
  · rfl
  · obtain ⟨row, rest, shape⟩ :=
      List.exists_cons_of_ne_nil fun none_ => same (lineDiff_eq_nil_iff.mp none_)
    obtain ⟨more, kept⟩ := cut_cons row rest
    rw [shape, kept] at none_
    cases none_
  · rw [lineDiff_eq_nil_iff.mpr same] at none_
    exact absurd rfl none_
  · rfl

theorem cut_eq (rows : List Text) :
    cut rows =
      if rows.length ≤ 200 then rows
      else rows.take 200 ++ [("... (diff truncated)" : Text)] := by
  unfold cut
  by_cases short : rows.length ≤ shownLines
  · rw [if_neg (Nat.not_lt.mpr short)]
    exact (if_pos short).symm
  · rw [if_pos (Nat.lt_of_not_le short)]
    exact (if_neg short).symm

/-- **Differences are patches.** The line difference of two views is empty just when their printable
lines are the same. Otherwise its rows name hunks whose lines are those of the stretches that the
headers give, in order, with equal lines before, between and after them, and applying them to the
lines of the one view gives the lines of the other. The difference that is shown is all of it or its
first two hundred rows and a mark; views with the same lines are shown in quotes. -/
theorem lineDiff_is_patch (kind : CheckKind) (a b : Captured) :
    let first := Text.lines (Text.printable (a.view kind))
    let second := Text.lines (Text.printable (b.view kind))
    let rows := lineDiff kind a b
    (rows = [] ↔ first = second) ∧
      (∃ hunks, readPatch? "stage0" "stage1" rows = some hunks ∧ Patches first second 0 0 hunks ∧
        patch? first 0 hunks = some second) ∧
      diff kind a b = Text.join "\n"
        (if first = second then
          ["stage0: " ++ Text.quoted (Text.printable (a.view kind)),
            "stage1: " ++ Text.quoted (Text.printable (b.view kind))]
        else if rows.length ≤ 200 then rows
        else rows.take 200 ++ [("... (diff truncated)" : Text)]) := by
  intro first second rows
  have patches := patches_hunks first second
  refine ⟨lineDiff_eq_nil_iff,
    ⟨_, readPatch?_unified patches.ordered _ _, patches, patches.apply⟩, ?_⟩
  rw [diff_eq, cut_eq]

end Comparison

end StageParity
