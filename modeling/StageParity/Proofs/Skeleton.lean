import StageParity.Proofs.Banner

/-!
# The rows of a report that are not indented

Rows of a rendered report that start with a space hold what the commands wrote, or say more about
a check. The other rows are the skeleton of the report: its head, one heading for each check, the
titles of the errors, and the banner. Nothing that a command wrote adds a row to the skeleton,
takes one away or changes one.
-/

namespace StageParity

namespace Text

/-- No line ends in the text. -/
def SingleLine (t : Text) : Prop := .char '\n' ∉ t

instance (t : Text) : Decidable t.SingleLine := inferInstanceAs (Decidable (_ ∉ t))

/-- The rows of a text: what stands before each line feed, and what stands after the last one
unless that is nothing. -/
def rows (t : Text) : List Text :=
  let parts := t.splitOn (.char '\n')
  if parts.getLast? = some [] then parts.dropLast else parts

def isIndented (row : Text) : Bool := row.head? = some (.char ' ')

/-! ## Texts without line ends -/

@[simp] theorem singleLine_append (first second : Text) :
    (first ++ second).SingleLine ↔ first.SingleLine ∧ second.SingleLine := by
  simp [SingleLine]

@[simp] theorem singleLine_ofString (s : String) : (ofString s).SingleLine ↔ '\n' ∉ s.toList := by
  simp [SingleLine, ofString]

@[simp] theorem singleLine_ofChars (cs : List Char) : (ofChars cs).SingleLine ↔ '\n' ∉ cs := by
  simp [SingleLine, ofChars]

theorem newline_notMem_toDigits (n : Nat) : '\n' ∉ Nat.toDigits 10 n := by
  intro member
  have digit := Nat.isDigit_of_mem_toDigits (by decide) (by decide) member
  exact absurd digit (by decide)

@[simp] theorem singleLine_ofNat (n : Nat) : (ofNat n).SingleLine := by
  simp [ofNat, newline_notMem_toDigits]

@[simp] theorem singleLine_ofInt (n : Int) : (ofInt n).SingleLine := by
  cases n with
  | ofNat n => exact singleLine_ofNat n
  | negSucc n =>
      have digits := singleLine_ofNat (n + 1)
      simpa [ofInt, SingleLine] using digits

theorem newline_notMem_sign (negative : Bool) : '\n' ∉ Decimal.sign negative := by
  cases negative <;> decide

@[simp] theorem singleLine_ofFloatFixed (places : Nat) (x : Float) :
    (ofFloatFixed places x).SingleLine := by
  unfold ofFloatFixed
  split
  · decide
  · simp [newline_notMem_sign, Decimal.Names.plain]
  · rename_i x negative m e _
    -- Both sides of the point are parts of one list of digits.
    have digits (zeros n : Nat) : '\n' ∉ List.replicate zeros '0' ++ Nat.toDigits 10 n := by
      simp [newline_notMem_toDigits]
    rw [singleLine_ofChars]
    intro member
    rcases List.mem_append.mp member with left | right
    · rcases List.mem_append.mp left with signed | whole
      · exact newline_notMem_sign negative signed
      · exact digits _ _ (List.mem_of_mem_take whole)
    · rcases List.mem_cons.mp right with point | fraction
      · exact absurd point (by decide)
      · exact digits _ _ (List.mem_of_mem_drop fraction)

theorem singleLine_shown {t : Text} (single : t.SingleLine) : t.shown.SingleLine := by
  intro member
  exact single ((List.mem_filter.mp member).1)

theorem singleLine_linesFrom {before t row : Text} (single : before.SingleLine)
    (member : row ∈ linesFrom before t) : row.SingleLine := by
  have reversed {part : Text} (single : part.SingleLine) : SingleLine part.reverse := by
    simpa [SingleLine] using single
  fun_induction linesFrom before t with
  | case1 before none => simp at member
  | case2 before some_ =>
      rw [List.mem_singleton.mp member]
      exact reversed single
  | case3 before rest ih =>
      rcases List.mem_cons.mp member with rfl | later
      · exact reversed single
      · exact ih (by decide) later
  | case4 before g rest other ends ih =>
      rcases List.mem_cons.mp member with rfl | later
      · exact reversed single
      · exact ih (by decide) later
  | case5 before g rest other inside ih =>
      apply ih _ member
      intro newline
      rcases List.mem_cons.mp newline with rfl | earlier
      · exact inside (by decide)
      · exact single earlier

theorem splitOn_of_notMem {mark : Glyph} {t : Text} (absent : mark ∉ t) : t.splitOn mark = [t] := by
  induction t with
  | nil => rfl
  | cons g rest ih =>
      have other : g ≠ mark := fun same => absent (same ▸ List.mem_cons_self)
      have later : mark ∉ rest := fun member => absent (List.mem_cons_of_mem g member)
      exact splitOn_other other (ih later)

theorem shown_line (t : Text) : (Report.line t).shown = Report.line t.shown :=
  shown_append t [.char '\n']

theorem head?_shown {t : Text} {g : Glyph} (head : t.head? = some g) (kept : isDropped g = false) :
    t.shown.head? = some g := by
  obtain ⟨rest, rfl⟩ := List.head?_eq_some_iff.mp head
  simp [shown, kept]

end Text

open Text (SingleLine)

/-- A result without what the commands wrote and without the differences of that. -/
def CheckResult.masked (result : CheckResult) : CheckResult :=
  { result with
    outputs := result.outputs.map fun output =>
      output.map fun captured => { captured with stdout := [], stderr := [] }
    diff := [] }

namespace Report

/-- A report without what the commands wrote, the differences of that and the texts of the
errors. -/
def masked (r : Report) : Report :=
  { r with
    results := r.results.map CheckResult.masked
    fatalErrors := r.fatalErrors.map fun _ => [] }

/-- What the heading of a check starts with. -/
def headingTitle : CheckKind → Text
  | .version => "[1/4] Version Equivalence: "
  | .compilation => "[2/4] Compilation Equivalence: "
  | .runtime => "[3/4] Runtime Equivalence: "
  | .selfDiagnostics => "[4/4] Self-Check Diagnostics: "

/-- The verdict of a check in its heading, if it ran. -/
def headingVerdict : Option Verdict → Text
  | none => "NOT RUN"
  | some .identical => "IDENTICAL"
  | some .differs => "DIFFERS"
  | some .skipped => "SKIPPED"

/-- The heading of a check in a report. -/
def heading (r : Report) (kind : CheckKind) : Text :=
  headingTitle kind ++ headingVerdict ((r.resultFor kind).map CheckResult.verdict)

/-- The pieces are whole rows, of which these are not indented. -/
def Shows (pieces : List Piece) (bare : List Text) : Prop :=
  ∃ rows : List Text, Piece.join pieces = rows.flatMap line ∧ (∀ row ∈ rows, row.SingleLine) ∧
    rows.filter (fun row => !row.isIndented) = bare

namespace Shows

theorem nil : Shows [] [] := ⟨[], by simp [Piece.join]⟩

theorem append {first second : List Piece} {bare more : List Text} (before : Shows first bare)
    (after : Shows second more) : Shows (first ++ second) (bare ++ more) := by
  obtain ⟨rows, joined, single, rfl⟩ := before
  obtain ⟨others, joined', single', rfl⟩ := after
  refine ⟨rows ++ others, ?_, ?_, List.filter_append ..⟩
  · rw [List.flatMap_append, ← joined, ← joined']
    exact List.flatMap_append
  · intro row member
    exact (List.mem_append.mp member).elim (single row) (single' row)

theorem flatMap {α : Type} {f : α → List Piece} {bare : α → List Text} {as : List α}
    (each : ∀ a ∈ as, Shows (f a) (bare a)) : Shows (as.flatMap f) (as.flatMap bare) := by
  induction as with
  | nil => exact nil
  | cons a rest ih =>
      have first := each a List.mem_cons_self
      have others := ih fun b member => each b (List.mem_cons_of_mem a member)
      exact first.append others

theorem flatMap_nil {α : Type} {f : α → List Piece} {as : List α}
    (each : ∀ a ∈ as, Shows (f a) []) : Shows (as.flatMap f) [] := by
  have all := flatMap each
  rwa [List.flatMap_eq_nil_iff.mpr fun _ _ => rfl] at all

theorem map_nil {α : Type} {f : α → Piece} {as : List α} (each : ∀ a ∈ as, Shows [f a] []) :
    Shows (as.map f) [] := by
  rw [List.map_eq_flatMap]
  exact flatMap_nil each

theorem join_line {piece : Piece} {t : Text} (text : piece.text = (line t).shown) :
    Piece.join [piece] = line t.shown := by
  rw [Piece.join, List.flatMap_singleton, text, Text.shown_line]

/-- One line is one row. -/
theorem row {pieces : List Piece} {t : Text} (joined : Piece.join pieces = line t)
    (single : t.SingleLine) : Shows pieces (if t.isIndented then [] else [t]) := by
  refine ⟨[t], ?_, ?_, ?_⟩
  · rw [joined, List.flatMap_singleton]
  · intro row member
    rwa [List.mem_singleton.mp member]
  · cases indented : t.isIndented <;> simp [indented]

theorem bare {piece : Piece} {t : Text} {g : Glyph} (text : piece.text = (line t).shown)
    (single : t.SingleLine) (head : t.head? = some g) (kept : isDropped g = false)
    (other : g ≠ .char ' ') : Shows [piece] [t.shown] := by
  have start := Text.head?_shown head kept
  simpa [Text.isIndented, start, other] using row (join_line text) (Text.singleLine_shown single)

theorem indented {piece : Piece} {t : Text} (text : piece.text = (line t).shown)
    (single : t.SingleLine) (head : t.head? = some (.char ' ')) : Shows [piece] [] := by
  have start := Text.head?_shown head (by decide)
  simpa [Text.isIndented, start] using row (join_line text) (Text.singleLine_shown single)

end Shows

/-! ## What is indented -/

end Report

end StageParity
