import StageParity.Proofs.Patches
import StageParity.Proofs.StoredStreams

/-!
# Differences that can be seen

A difference is shown with what does not decode replaced, so it can be seen just when the texts
still differ then. If their lines differ there is a hunk, and its first change stands behind at most
three unchanged lines, so that it is never cut off (`LineDiff.hunks_begin`). If only the ends of
lines differ, the texts are shown in quotes, and a text can be read off its quoted form
(`Quoted.readGlyph?_escape`).
-/

namespace StageParity

/-! ## Quoted texts -/

theorem length_hexDigits (width n : Nat) : (hexDigits width n).length = width := by
  induction width generalizing n with
  | zero => rfl
  | succ width ih => rw [hexDigits, List.length_append, ih, List.length_singleton]

theorem newline_notMem_hexDigits (width n : Nat) : '\n' ∉ hexDigits width n := by
  induction width generalizing n with
  | zero => exact List.not_mem_nil
  | succ width ih =>
      have digit : ∀ m < 16, '\n' ≠ Nat.digitChar m := by decide
      rw [hexDigits, List.mem_append, List.mem_singleton, not_or]
      exact ⟨ih (n / 16), digit _ (Nat.mod_lt n (by decide))⟩

theorem Glyph.rank_lt (g : Glyph) : g.rank < 0x110000 := by
  cases g with
  | char c =>
      have valid := Utf8.code_valid c
      change c.val.toNat < _
      omega
  | stray low =>
      rw [rank]
      omega
  | half index =>
      rw [rank]
      split <;> omega

namespace Quoted

/-- Read a code point of `width` hexadecimal digits, and what follows it. -/
def readCode? (width : Nat) (written : List Char) : Option (Glyph × List Char) :=
  (Yaml.hexNumber? (written.take width)).map fun n => (.ofRank n, written.drop width)

/-- Read what stands behind a backslash between quotes. -/
def readEscape? : List Char → Option (Glyph × List Char)
  | [] => none
  | c :: rest =>
    if c = 'n' then some (.char '\n', rest)
    else if c = 'r' then some (.char '\r', rest)
    else if c = 't' then some (.char '\t', rest)
    else if c = 'x' then readCode? 2 rest
    else if c = 'u' then readCode? 4 rest
    else if c = 'U' then readCode? 8 rest
    else some (.char c, rest)

/-- Read the first glyph between quotes, and what follows it. -/
def readGlyph? : List Char → Option (Glyph × List Char)
  | [] => none
  | c :: rest => if c = '\\' then readEscape? rest else some (.char c, rest)

theorem readCode?_hexDigits (width : Nat) {g : Glyph} (small : g.rank < Nat.pow 16 width)
    (rest : List Char) : readCode? width (hexDigits width g.rank ++ rest) = some (g, rest) := by
  have length := length_hexDigits width g.rank
  rw [readCode?, List.take_left' length, List.drop_left' length, Document.hexNumber?_hexDigits,
    Nat.mod_eq_of_lt small, Option.map_some, g.ofRank_rank]

theorem readGlyph?_escapeCode (g : Glyph) (rest : List Char) :
    readGlyph? (escapeCode g.rank ++ rest) = some (g, rest) := by
  have bound := g.rank_lt
  unfold escapeCode
  split
  · rename_i small
    exact readCode?_hexDigits 2 small rest
  · split
    · rename_i small
      exact readCode?_hexDigits 4 small rest
    · exact readCode?_hexDigits 8 (bound.trans (by decide)) rest

theorem mark_cases (t : Text) : mark t = '\'' ∨ mark t = '"' := by
  unfold mark
  split
  · exact .inr rfl
  · exact .inl rfl

/-- A written glyph is read as itself, whatever follows. -/
theorem readGlyph?_escape {mark : Char} (quote : mark = '\'' ∨ mark = '"') (g : Glyph)
    (rest : List Char) : readGlyph? (escape mark g ++ rest) = some (g, rest) := by
  cases g with
  | char c =>
      rw [escape]
      by_cases marked : c = '\\' ∨ c = mark
      · rw [if_pos (by simpa using marked)]
        rcases marked with rfl | rfl
        · rfl
        · rcases quote with rfl | rfl <;> rfl
      rw [if_neg (by simpa using marked)]
      by_cases newline : c = '\n'
      · rw [if_pos newline, newline]
        rfl
      rw [if_neg newline]
      by_cases carriage : c = '\r'
      · rw [if_pos carriage, carriage]
        rfl
      rw [if_neg carriage]
      by_cases tab : c = '\t'
      · rw [if_pos tab, tab]
        rfl
      rw [if_neg tab]
      by_cases graphic : isGraphic c = true
      · rw [if_pos graphic, List.singleton_append, readGlyph?,
          if_neg fun same => marked (.inl same)]
      · rw [if_neg graphic]
        exact readGlyph?_escapeCode (.char c) rest
  | stray low => exact readGlyph?_escapeCode (.stray low) rest
  | half index => exact readGlyph?_escapeCode (.half index) rest

theorem escape_injective {mark : Char} (quote : mark = '\'' ∨ mark = '"') {s t : Text}
    (same : s.flatMap (escape mark) = t.flatMap (escape mark)) : s = t := by
  have first (g : Glyph) (t : Text) :
      readGlyph? ((g :: t : Text).flatMap (escape mark)) = some (g, t.flatMap (escape mark)) := by
    rw [List.flatMap_cons]
    exact readGlyph?_escape quote g _
  induction s generalizing t with
  | nil =>
      cases t with
      | nil => rfl
      | cons g t =>
          have read := first g t
          rw [← same] at read
          cases read
  | cons g s ih =>
      have read := first g s
      rw [same] at read
      cases t with
      | nil => cases read
      | cons h t =>
          obtain ⟨rfl, later⟩ := Prod.mk.inj (Option.some.inj ((first h t).symm.trans read))
          rw [ih later.symm]

theorem newline_notMem_escape {mark : Char} (quote : mark = '\'' ∨ mark = '"') (g : Glyph) :
    '\n' ∉ escape mark g := by
  have code (n : Nat) : '\n' ∉ escapeCode n := by
    unfold escapeCode
    split
    · simp [newline_notMem_hexDigits]
    · split <;> simp [newline_notMem_hexDigits]
  have marked : '\n' ≠ mark := by
    rcases quote with rfl | rfl <;> decide
  cases g with
  | char c =>
      rw [escape]
      by_cases newline : c = '\n'
      · subst newline
        simp [marked]
      · have other : '\n' ≠ c := Ne.symm newline
        split
        · simp [other]
        split
        · decide
        split
        · decide
        split
        · simpa using other
        · exact code _
  | stray low => exact code _
  | half index => exact code _

end Quoted

namespace Text

theorem quoted_injective {s t : Text} (same : s.quoted = t.quoted) : s = t := by
  obtain ⟨opening, rest⟩ := List.cons.inj same
  have marks : Quoted.mark s = Quoted.mark t := Glyph.char.inj opening
  rw [marks] at rest
  have bodies := ofChars_injective (List.append_cancel_right rest)
  exact Quoted.escape_injective (Quoted.mark_cases t) bodies

theorem singleLine_quoted (t : Text) : t.quoted.SingleLine := by
  have quote := Quoted.mark_cases t
  have marked : '\n' ≠ Quoted.mark t := by
    rcases quote with mark | mark <;> rw [mark] <;> decide
  have body : '\n' ∉ t.flatMap (Quoted.escape (Quoted.mark t)) := by
    rw [List.mem_flatMap]
    rintro ⟨g, -, inside⟩
    exact Quoted.newline_notMem_escape quote g inside
  have whole : t.quoted = ofChars
      (Quoted.mark t :: t.flatMap (Quoted.escape (Quoted.mark t)) ++ [Quoted.mark t]) := by
    simp [quoted, ofChars]
  rw [whole, singleLine_ofChars]
  simp [marked, body]

/-- Rows that have no line end in them are read off the text that they make. -/
theorem splitOn_join {rows : List Text} (some_ : rows ≠ [])
    (single : ∀ row ∈ rows, row.SingleLine) : splitOn (.char '\n') (join "\n" rows) = rows := by
  induction rows with
  | nil => exact absurd rfl some_
  | cons row rows ih =>
      have first := splitOn_of_notMem (single row List.mem_cons_self)
      cases rows with
      | nil =>
          have alone : join "\n" [row] = row := by simp [join]
          rw [alone, first]
      | cons next rows =>
          have later := ih (List.cons_ne_nil next rows) fun other member =>
            single other (List.mem_cons_of_mem row member)
          have shape : join "\n" (row :: next :: rows) =
              row ++ .char '\n' :: join "\n" (next :: rows) := by
            simp [join, List.intercalate, ofString]
          rw [shape, splitOn_append, first, later]
          rfl

end Text

/-! ## Readable texts -/

namespace Utf8

theorem readableFrom_drop (skip : Nat) (bytes : List UInt8) :
    readableFrom skip bytes = Text.readable (bytes.drop skip) := by
  induction bytes generalizing skip with
  | nil => simp [readableFrom, Text.readable]
  | cons b rest ih =>
      cases skip with
      | zero => rfl
      | succ skip => simpa [readableFrom] using ih skip

theorem readable_char (c : Char) (rest : List UInt8) :
    Text.readable (String.utf8EncodeChar c ++ rest) = .char c :: Text.readable rest := by
  obtain ⟨lead, tail, shape, -, -⟩ := encodeChar_eq_cons c
  have read := front_of_bytes (show String.utf8EncodeChar c ++ rest = lead :: (tail ++ rest) by
    simp [shape])
  rw [shape] at read ⊢
  simp only [List.cons_append, Text.readable, readableFrom, read]
  rw [readableFrom_drop]
  simp [Text.readable]

end Utf8

/-- A text of characters is printed as it is. -/
theorem Text.Clean.printable_eq {t : Text} (clean : t.Clean) : t.printable = t := by
  induction t with
  | nil => rfl
  | cons g t ih =>
      obtain ⟨isChar, later⟩ := List.forall_mem_cons.mp clean
      cases g with
      | char c =>
          change Text.readable (String.utf8EncodeChar c ++ Text.encode t) = _
          rw [Utf8.readable_char]
          exact congrArg (Glyph.char c :: ·) (ih later)
      | stray | half => cases isChar

/-- What is shown of a view depends on its bytes alone. -/
theorem RawOutput.printable_view (kind : CheckKind) (raw : RawOutput) :
    Text.printable (raw.captured.view kind) = Text.readable (raw.view kind) := by
  rw [Text.printable, view_captured, Utf8.encode_append, Utf8.encode_decode, Utf8.encode_decode,
    front_append_back]

namespace LineDiff

/-! ## The first change of a difference -/

variable {a b : List Text} {i j m n : Nat} {s t : Segment}

/-- Behind a place that no block touches, segments begin with a change. -/
theorem segmentsFrom_begins {blocks : List Block} (chain : Chain a b ⟨i, m, j, n⟩ blocks)
    (apart : ∀ block ∈ blocks.head?, ¬ (i = block.first ∧ j = block.second)) :
    segmentsFrom m n i j blocks = [] ∨
      ∃ t rest, segmentsFrom m n i j blocks = t :: rest ∧ t.same = false := by
  cases blocks with
  | nil =>
      rw [segmentsFrom, changed]
      split
      · exact .inr ⟨_, _, rfl, rfl⟩
      · exact .inl rfl
  | cons block rest =>
      obtain ⟨-, common, -⟩ := chain
      have first := common.firstLow
      have second := common.secondLow
      have gap := apart block rfl
      have filled : (decide (i < block.first) || decide (j < block.second)) = true := by
        simp only [Bool.or_eq_true, decide_eq_true_eq]
        dsimp only at first second
        omega
      rw [segmentsFrom, changed, if_pos filled]
      exact .inr ⟨_, _, rfl, rfl⟩

/-- The segments of two lists are none or one unchanged, or a change is among the first two of
them. -/
theorem segments_begin (a b : List Text) :
    segments a b = [] ∨ (∃ s, segments a b = [s] ∧ s.same = true) ∨
      ∃ t rest, t.same = false ∧
        (segments a b = t :: rest ∨ ∃ s, s.same = true ∧ segments a b = s :: t :: rest) := by
  have chain := chain_blocks a b
  have apart : Apart (blocks a b) := apart_mergeBlocks _
  unfold segments
  cases found : blocks a b with
  | nil =>
      rw [found] at chain
      rcases segmentsFrom_begins chain (by simp) with none_ | ⟨t, rest, shape, change⟩
      · exact .inl none_
      · exact .inr (.inr ⟨t, rest, change, .inl shape⟩)
  | cons block rest =>
      rw [found] at chain apart
      obtain ⟨-, -, later⟩ := chain
      -- Blocks that touch in both lists were merged, so a change follows the first block.
      have next : ∀ other ∈ rest.head?, ¬ (block.first + block.size = other.first ∧
          block.second + block.size = other.second) := by
        cases rest with
        | nil => simp
        | cons other rest =>
            intro head isHead
            cases isHead
            exact (List.isChain_cons_cons.mp apart).1
      rw [segmentsFrom, changed]
      split
      · exact .inr (.inr ⟨_, _, rfl, .inl rfl⟩)
      · rcases segmentsFrom_begins later next with none_ | ⟨t, more, shape, change⟩
        · rw [none_]
          exact .inr (.inl ⟨_, rfl, rfl⟩)
        · rw [shape]
          exact .inr (.inr ⟨t, more, change, .inr ⟨_, rfl, rfl⟩⟩)

theorem trimBack_changed (change : t.same = false) (rest : List Segment) :
    ∃ more, trimBack (t :: rest) = t :: more := by
  cases rest with
  | nil =>
      rw [trimBack, change]
      exact ⟨[], rfl⟩
  | cons next rest => exact ⟨_, rfl⟩

/-- A group that shows a change is kept, and what comes later is put behind it. -/
theorem groupsFrom_begins {group : List Segment} (shows : showsChange group = true)
    (rest : List Segment) :
    ∃ more others, groupsFrom group rest = (group.reverse ++ more) :: others := by
  induction rest generalizing group with
  | nil =>
      rw [groupsFrom, if_pos shows]
      exact ⟨[], [], by rw [List.append_nil]⟩
  | cons s rest ih =>
      rw [groupsFrom]
      split
      · exact ⟨[s.head], _, by rw [List.reverse_cons]⟩
      · have longer : showsChange (s :: group) = true := by
          cases group with
          | nil => cases shows
          | cons other group => rfl
        obtain ⟨more, others, shape⟩ := ih longer
        refine ⟨s :: more, others, ?_⟩
        rw [shape, List.reverse_cons, List.append_assoc, List.singleton_append]

/-- Lists that differ have a first group. It begins with a change, or with a change behind at most
three unchanged lines. -/
theorem groups_begin (differ : a ≠ b) :
    ∃ front t more others,
      groupsFrom [] (trimBack (trimFront (segments a b))) = (front ++ t :: more) :: others ∧
      t.same = false ∧
      (front = [] ∨ ∃ s : Segment, front = [s.tail] ∧ s.same = true) := by
  rcases segments_begin a b with none_ | ⟨s, one, same⟩ | ⟨t, rest, change, begins⟩
  -- Without a change there are no hunks, so the lists would be the same.
  · have nothing : hunks a b = [] := by
      rw [hunks, none_]
      rfl
    exact absurd (hunks_eq_nil_iff.mp nothing) differ
  · have nothing : hunks a b = [] := by
      rw [hunks, one, groupsFrom_unchanged same]
      rfl
    exact absurd (hunks_eq_nil_iff.mp nothing) differ
  · obtain ⟨back, trimmed⟩ := trimBack_changed change rest
    have keep : ¬ (t.same = true ∧ contextLines + contextLines < t.firstHigh - t.firstLow) := by
      rw [change]
      exact fun long => Bool.false_ne_true long.1
    rcases begins with shape | ⟨s, same, shape⟩
    · have shows : showsChange [t] = true := by
        rw [showsChange, change]
        rfl
      obtain ⟨more, others, grouped⟩ := groupsFrom_begins shows back
      refine ⟨[], t, more, others, ?_, change, .inl rfl⟩
      rw [shape, trimFront, change, if_neg Bool.false_ne_true, trimmed, groupsFrom_keep keep,
        grouped]
      rfl
    · have short : ¬ contextLines + contextLines < s.tail.firstHigh - s.tail.firstLow := by
        dsimp only [Segment.tail]
        omega
      have shows : showsChange [t, s.tail] = true := rfl
      have unshortened : trimBack (s.tail :: t :: rest) = s.tail :: trimBack (t :: rest) := rfl
      obtain ⟨more, others, grouped⟩ := groupsFrom_begins shows back
      refine ⟨[s.tail], t, more, others, ?_, change, .inr ⟨s, rfl, same⟩⟩
      rw [shape, trimFront, if_pos same, unshortened, trimmed,
        groupsFrom_keep fun long => short long.2, groupsFrom_keep keep, grouped]
      rfl

/-- A changed segment has a line that is in one of the lists only. -/
theorem Segment.Fits.changed_lines (fits : t.Fits a b) (change : t.same = false)
    (first : t.firstHigh ≤ a.length) (second : t.secondHigh ≤ b.length) :
    ∃ line more, t.lines a b = line :: more ∧ (line.old? = none ∨ line.new? = none) := by
  rw [Segment.lines, change, if_neg Bool.false_ne_true]
  cases removed : slice a t.firstLow t.firstHigh with
  | cons text texts => exact ⟨_, _, rfl, .inr rfl⟩
  | nil =>
      have filled : t.secondLow < t.secondHigh := by
        rcases fits.filled change with some_ | some_
        · exact absurd removed (slice_ne_nil some_ first)
        · exact some_
      obtain ⟨text, texts, added⟩ := List.exists_cons_of_ne_nil (slice_ne_nil filled second)
      rw [added]
      exact ⟨_, _, rfl, .inl rfl⟩

/-- The lines at the end of an unchanged segment are few. -/
theorem Segment.tail_lines (same : s.same = true) :
    ∃ texts : List Text, s.tail.lines a b = texts.map Line.context ∧
      texts.length ≤ contextLines := by
  rw [Segment.lines, if_pos (show s.tail.same = true from same)]
  refine ⟨_, rfl, ?_⟩
  have few := List.length_take_le (s.tail.firstHigh - s.tail.firstLow) (a.drop s.tail.firstLow)
  have short : s.tail.firstHigh - s.tail.firstLow ≤ contextLines := by
    dsimp only [Segment.tail]
    omega
  exact few.trans short

/-- Lists that differ have a first hunk, and its first change stands behind at most three unchanged
lines. -/
theorem hunks_begin (differ : a ≠ b) :
    ∃ h others front line more, hunks a b = h :: others ∧
      h.lines = List.map Line.context front ++ line :: more ∧ front.length ≤ contextLines ∧
      (line.old? = none ∨ line.new? = none) := by
  obtain ⟨front, t, more, others, groups, change, begins⟩ := groups_begin differ
  have grouped := grouped_segments a b
  rw [groups] at grouped
  obtain ⟨p, q, r, s, -, filled, tiles, later⟩ := grouped
  obtain ⟨_, _, -, -, -, fits, behind⟩ := tiles.split
  obtain ⟨line, lines, changes, visible⟩ := fits.changed_lines change
    (behind.le.1.trans later.le.1) (behind.le.2.trans later.le.2)
  obtain ⟨texts, unchanged, few⟩ : ∃ texts : List Text,
      front.flatMap (Segment.lines a b) = texts.map Line.context ∧ texts.length ≤ contextLines := by
    rcases begins with rfl | ⟨u, rfl, same⟩
    · exact ⟨[], rfl, Nat.zero_le _⟩
    · rw [List.flatMap_singleton]
      exact Segment.tail_lines same
  have shape : hunks a b = ⟨p, r, q, s, (front ++ t :: more).flatMap (Segment.lines a b)⟩ ::
      others.filterMap (hunkOf? a b) := by
    rw [hunks, groups, List.filterMap_cons_some (hunkOf?_of_tiles filled tiles)]
  refine ⟨_, _, texts, line, lines ++ more.flatMap (Segment.lines a b), shape, ?_, few, visible⟩
  rw [List.flatMap_append, List.flatMap_cons, unchanged, changes, List.cons_append]

/-! ## Rows without line ends -/

theorem singleLine_rangeText (low high : Nat) : (rangeText low high).SingleLine :=
  char_notMem_rangeText (by decide) (by decide) low high

theorem Hunk.Fits.singleLine {h : Hunk} (fits : h.Fits a b) (first : ∀ line ∈ a, line.SingleLine)
    (second : ∀ line ∈ b, line.SingleLine) : ∀ row ∈ h.text, row.SingleLine := by
  have old {line : Line} {text : Text} (member : line ∈ h.lines) (is : line.old? = some text) :
      text.SingleLine := by
    have inside : text ∈ h.lines.filterMap Line.old? := List.mem_filterMap.mpr ⟨line, member, is⟩
    rw [fits.old] at inside
    exact first text (mem_of_mem_slice inside)
  have new {line : Line} {text : Text} (member : line ∈ h.lines) (is : line.new? = some text) :
      text.SingleLine := by
    have inside : text ∈ h.lines.filterMap Line.new? := List.mem_filterMap.mpr ⟨line, member, is⟩
    rw [fits.new] at inside
    exact second text (mem_of_mem_slice inside)
  have marked {c : Char} {text : Text} (single : text.SingleLine) (other : c ≠ '\n') :
      Text.SingleLine (.char c :: text) := by
    simpa [Text.SingleLine, other.symm] using single
  intro row member
  rcases List.mem_cons.mp member with rfl | member
  · simp [singleLine_rangeText]
  · obtain ⟨line, inside, rfl⟩ := List.mem_map.mp member
    cases line with
    | context text => exact marked (old inside rfl) (by decide)
    | removed text => exact marked (old inside rfl) (by decide)
    | added text => exact marked (new inside rfl) (by decide)

theorem Patches.singleLine {hunks : List Hunk} (patches : Patches a b i j hunks)
    (first : ∀ line ∈ a, line.SingleLine) (second : ∀ line ∈ b, line.SingleLine) :
    ∀ row ∈ hunks.flatMap Hunk.text, row.SingleLine := by
  induction hunks generalizing i j with
  | nil => simp
  | cons h rest ih =>
      obtain ⟨-, -, -, fits, later⟩ := patches
      intro row member
      rw [List.flatMap_cons, List.mem_append] at member
      rcases member with here | there
      · exact fits.singleLine first second row here
      · exact ih later row there

end LineDiff

namespace Comparison

open LineDiff

theorem singleLine_lineDiff (kind : CheckKind) (a b : Captured) :
    ∀ row ∈ lineDiff kind a b, row.SingleLine := by
  have lines (t : Text) : ∀ line ∈ t.lines, line.SingleLine := fun line member =>
    Text.singleLine_linesFrom (by decide) member
  intro row member
  unfold lineDiff unified at member
  split at member
  · cases member
  · rcases List.mem_cons.mp member with rfl | member
    · decide
    rcases List.mem_cons.mp member with rfl | member
    · decide
    · exact (patches_hunks _ _).singleLine (lines _) (lines _) row member

theorem mem_cut {row : Text} {rows : List Text} (member : row ∈ cut rows) :
    row ∈ rows ∨ row = cutMark := by
  unfold cut at member
  split at member
  · rw [List.mem_append, List.mem_singleton] at member
    exact member.imp_left List.mem_of_mem_take
  · exact .inl member

/-- What stands among the first rows is not cut off. -/
theorem cut_keeps {before : List Text} (few : before.length < shownLines) (row : Text)
    (after : List Text) : ∃ more, cut (before ++ row :: after) = before ++ row :: more := by
  unfold cut
  split
  · obtain ⟨k, room⟩ := Nat.exists_eq_add_of_lt few
    rw [List.take_append, List.take_of_length_le (Nat.le_of_lt few),
      show shownLines - before.length = k + 1 by omega, List.take_succ_cons, List.append_assoc,
      List.cons_append]
    exact ⟨_, rfl⟩
  · exact ⟨_, rfl⟩

/-- The rows of a shown difference, read off its text. -/
theorem splitOn_diff (kind : CheckKind) (a b : Captured) :
    Text.splitOn (.char '\n') (diff kind a b) =
      if Text.lines (Text.printable (a.view kind)) = Text.lines (Text.printable (b.view kind)) then
        ["stage0: " ++ Text.quoted (Text.printable (a.view kind)),
          "stage1: " ++ Text.quoted (Text.printable (b.view kind))]
      else cut (lineDiff kind a b) := by
  rw [diff_eq]
  split
  · refine Text.splitOn_join (List.cons_ne_nil _ _) fun row member => ?_
    rcases List.mem_cons.mp member with rfl | member
    · exact (Text.singleLine_append _ _).mpr ⟨by decide, Text.singleLine_quoted _⟩
    · rw [List.mem_singleton.mp member]
      exact (Text.singleLine_append _ _).mpr ⟨by decide, Text.singleLine_quoted _⟩
  · rename_i differ
    refine Text.splitOn_join ?_ fun row member => ?_
    · obtain ⟨row, rest, shape⟩ :=
        List.exists_cons_of_ne_nil fun none_ => differ (lineDiff_eq_nil_iff.mp none_)
      obtain ⟨more, kept⟩ := cut_cons row rest
      rw [shape, kept]
      exact List.cons_ne_nil row more
    · rcases mem_cut member with inside | rfl
      · exact singleLine_lineDiff kind a b row inside
      · decide

/-- Rows that begin with the names of both stages and a hunk, in which a removed or an added line
follows lines that were not changed. -/
def HasHunk (rows : List Text) : Prop :=
  ∃ head front row more,
    rows = ("--- stage0" : Text) :: ("+++ stage1" : Text) :: head :: (front ++ row :: more) ∧
    (readHead? head).isSome = true ∧
    (∀ other ∈ front, ∃ text, readLine? other = some (.context text)) ∧
    ∃ line, readLine? row = some line ∧ (line.old? = none ∨ line.new? = none)

/-- A text shows a difference: it has a hunk with a change, or two quoted texts that differ. -/
def Visible (shown : Text) : Prop :=
  let rows := shown.splitOn (.char '\n')
  HasHunk rows ∨ ∃ zero one : Text, rows = ["stage0: " ++ zero, "stage1: " ++ one] ∧ zero ≠ one

/-- Views with different lines are shown with a hunk in which the first change is not cut off. -/
theorem hasHunk_cut {kind : CheckKind} {a b : Captured}
    (differ : (Text.printable (a.view kind)).lines ≠ (Text.printable (b.view kind)).lines) :
    HasHunk (cut (lineDiff kind a b)) := by
  obtain ⟨h, others, front, line, more, first, lines, few, change⟩ := hunks_begin differ
  have patches := patches_hunks (a.view kind).printable.lines (b.view kind).printable.lines
  rw [first] at patches
  obtain ⟨-, -, -, fits, -⟩ := patches
  obtain ⟨head, text, -, region⟩ := Hunk.text_eq fits.first fits.second
  have rows : lineDiff kind a b =
      (("--- stage0" : Text) :: ("+++ stage1" : Text) :: head ::
        (front.map Line.context).map Line.text) ++
        line.text :: (more.map Line.text ++ others.flatMap Hunk.text) := by
    rw [lineDiff, first, unified, if_neg (by simp), List.flatMap_cons, text, lines, List.map_append,
      List.map_cons]
    simp [Text.ofString]
  have room : (("--- stage0" : Text) :: ("+++ stage1" : Text) :: head ::
      (front.map Line.context).map Line.text).length < shownLines := by
    have enough : contextLines + 3 < shownLines := by decide
    simp only [List.length_cons, List.length_map]
    omega
  obtain ⟨rest, kept⟩ := cut_keeps room line.text (more.map Line.text ++ others.flatMap Hunk.text)
  rw [rows, kept]
  refine ⟨head, _, line.text, rest, rfl, ?_, ?_, line, readLine?_text line, change⟩
  · rw [region]
    rfl
  · intro row member
    obtain ⟨other, inside, rfl⟩ := List.mem_map.mp member
    obtain ⟨unchanged, -, rfl⟩ := List.mem_map.mp inside
    exact ⟨unchanged, readLine?_text _⟩

theorem not_hasHunk_pair (zero one : Text) : ¬ HasHunk [zero, one] := by
  rintro ⟨head, front, row, more, shape, -⟩
  have length := congrArg List.length shape
  simp at length

/-- What is shown of two views shows a difference just when their printable forms differ. -/
theorem visible_diff_iff {kind : CheckKind} {a b : Captured} :
    Visible (diff kind a b) ↔ Text.printable (a.view kind) ≠ Text.printable (b.view kind) := by
  unfold Visible
  dsimp only
  rw [splitOn_diff]
  split
  · constructor
    · rintro (hunk | ⟨zero, one, rows, differ⟩) same
      · exact not_hasHunk_pair _ _ hunk
      · obtain ⟨first, second⟩ := List.cons.inj rows
        have zeroEq := List.append_cancel_left first
        have oneEq := List.append_cancel_left (List.cons.inj second).1
        exact differ (by rw [← zeroEq, ← oneEq, same])
    · intro differ
      exact .inr ⟨_, _, rfl, fun same => differ (Text.quoted_injective same)⟩
  · rename_i differ
    constructor
    · exact fun _ same => differ (congrArg Text.lines same)
    · exact fun _ => .inl (hasHunk_cut differ)

/-- **Visible differences.** What is shown of two outputs shows a difference just when the bytes of
their views still differ after each malformed piece of them is replaced. So a difference of outputs
that are text can always be seen. -/
theorem difference_visible_iff (kind : CheckKind) (zero one : RawOutput) :
    let a := zero.captured
    let b := one.captured
    (Visible (diff kind a b) ↔ Text.readable (zero.view kind) ≠ Text.readable (one.view kind)) ∧
      ((a.view kind).Clean → (b.view kind).Clean →
        (Visible (diff kind a b) ↔ verdict kind a b = .differs)) := by
  intro a b
  refine ⟨?_, fun cleanA cleanB => ?_⟩
  · rw [visible_diff_iff, RawOutput.printable_view, RawOutput.printable_view]
  · rw [visible_diff_iff, cleanA.printable_eq, cleanB.printable_eq, verdict_eq_differs_iff,
      ← Captured.view_eq_iff_agree]

/-- Two bytes of which neither is text are both shown as the same mark. -/
theorem difference_hidden :
    let zero : RawOutput := ⟨[0xFF, 0x0A], [], 0, 0⟩
    let one : RawOutput := ⟨[0xFE, 0x0A], [], 0, 0⟩
    verdict .runtime zero.captured one.captured = .differs ∧
      ¬ Visible (diff .runtime zero.captured one.captured) := by
  intro zero one
  have same : Text.readable (zero.view .runtime) = Text.readable (one.view .runtime) := by decide
  exact ⟨by decide, fun shown => (difference_visible_iff .runtime zero one).1.mp shown same⟩

end Comparison

end StageParity
