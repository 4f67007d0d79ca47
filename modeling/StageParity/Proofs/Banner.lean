import StageParity.Proofs.Course

/-!
# What a run announces

The status of a report as it is printed and as it is saved: the last lines of the console, and
the member of the document that names the status.
-/

namespace StageParity

namespace Text

theorem splitOn_mark (mark : Glyph) (rest : Text) :
    Text.splitOn mark (mark :: rest) = [] :: rest.splitOn mark := by
  rw [Text.splitOn, if_pos rfl]

theorem splitOn_ne_nil (mark : Glyph) (t : Text) : t.splitOn mark ≠ [] := by
  cases t with
  | nil => nofun
  | cons g rest =>
      unfold splitOn
      split
      · nofun
      · split <;> nofun

theorem splitOn_other {mark g : Glyph} {rest part : Text} {parts : List Text} (other : g ≠ mark)
    (split_ : rest.splitOn mark = part :: parts) :
    Text.splitOn mark (g :: rest) = (g :: part) :: parts := by
  rw [Text.splitOn, if_neg other, split_]

/-- A text is split at a mark into the parts before it and those after it. -/
theorem splitOn_append (mark : Glyph) (before after : Text) :
    (before ++ mark :: after).splitOn mark = before.splitOn mark ++ after.splitOn mark := by
  induction before with
  | nil => exact splitOn_mark mark after
  | cons g rest ih =>
      rw [List.cons_append]
      by_cases same : g = mark
      · rw [same, splitOn_mark, splitOn_mark, ih]
        rfl
      · obtain ⟨part, parts, split_⟩ := List.exists_cons_of_ne_nil (splitOn_ne_nil mark rest)
        rw [splitOn_other same split_]
        exact splitOn_other same (by rw [ih, split_]; rfl)

theorem join_append {separator : Text} {first second : List Text} (some_ : first ≠ [])
    (more : second ≠ []) :
    join separator (first ++ second) = join separator first ++ separator ++ join separator second := by
  unfold join
  induction first with
  | nil => exact absurd rfl some_
  | cons part parts ih =>
      cases parts with
      | nil =>
          obtain ⟨head, tail, rfl⟩ := List.exists_cons_of_ne_nil more
          rw [List.singleton_append, List.intercalate_cons_cons, List.intercalate_singleton]
      | cons next parts =>
          rw [List.cons_append, List.cons_append, List.intercalate_cons_cons,
            List.intercalate_cons_cons, ← List.cons_append, ih nofun]
          simp only [List.append_assoc]

/-- Tabs are replaced line by line. -/
theorem expandTabs_append (before after : Text) :
    (before ++ .char '\n' :: after).expandTabs =
      before.expandTabs ++ .char '\n' :: after.expandTabs := by
  unfold expandTabs
  rw [splitOn_append, List.map_append, join_append]
  · rw [List.append_assoc]
    rfl
  · exact fun none => splitOn_ne_nil _ before (List.map_eq_nil_iff.mp none)
  · exact fun none => splitOn_ne_nil _ after (List.map_eq_nil_iff.mp none)

theorem shown_append (first second : Text) : (first ++ second).shown = first.shown ++ second.shown :=
  List.filter_append _ _

theorem onConsole_append (before after : Text) :
    (before ++ .char '\n' :: after).onConsole = before.onConsole ++ .char '\n' :: after.onConsole := by
  unfold onConsole
  rw [shown_append]
  exact expandTabs_append before.shown after.shown

end Text

namespace Report

/-- The last lines of what a run prints. -/
def banner (status : Status) : Text :=
  line rule ++ line ("Bootstrap Verification: " ++ status.capitals) ++ line rule

theorem onConsole_banner (status : Status) : (banner status).onConsole = banner status := by
  cases status <;> decide +kernel

theorem join_bannerPieces (r : Report) :
    Piece.join r.bannerPieces = .char '\n' :: banner r.shownStatus := by
  unfold bannerPieces
  cases r.shownStatus <;> decide +kernel

/-- What is printed of a report ends with the banner of its status. -/
theorem onConsole_plainText (r : Report) :
    ∃ before : Text, r.plainText.onConsole = before ++ .char '\n' :: banner r.shownStatus := by
  have parts : r.plainText =
      Piece.join (r.headPieces ++ CheckKind.order.flatMap r.checkPieces ++ r.errorPieces) ++
        .char '\n' :: banner r.shownStatus := by
    rw [plainText, pieces, Piece.join, List.flatMap_append, ← join_bannerPieces]
    rfl
  rw [parts, Text.onConsole_append, onConsole_banner]
  exact ⟨_, rfl⟩

end Report

end StageParity
