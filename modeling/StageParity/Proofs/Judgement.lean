import StageParity.Proofs.ByteExact
import StageParity.Proofs.CheckResults
import StageParity.Proofs.Skeleton

/-!
# Judgements of outcomes

Checks that look at more than standard output compare a text in which the exit status is written in
front of what the invocation wrote. The number has no line end in it and its line has one, so the
status and the streams can be read off the view again, and no output can pass for another exit
status. Hence a judgement is exact: it depends on the kinds of failure, and on what the check is
meant to look at.
-/

namespace StageParity

namespace Text

theorem splitFirst_append {mark : Glyph} {before : Text} (absent : mark ∉ before) (after : Text) :
    (before ++ mark :: after).splitFirst mark = (before, some after) := by
  induction before with
  | nil => rw [List.nil_append, splitFirst, if_pos rfl]
  | cons g before ih =>
      have other : g ≠ mark := fun same => absent (same ▸ List.mem_cons_self)
      have later : mark ∉ before := fun member => absent (List.mem_cons_of_mem g member)
      rw [List.cons_append, splitFirst, if_neg other, ih later]

theorem ofChars_injective {cs ds : List Char} (same : ofChars cs = ofChars ds) : cs = ds :=
  (List.map_inj_right fun _ _ => Glyph.char.inj).mp same

theorem ofNat_injective {m n : Nat} (same : ofNat m = ofNat n) : m = n := by
  have read := congrArg (Nat.ofDigitChars 10 · 0) (ofChars_injective same)
  simpa only [Nat.ofDigitChars_toDigits (b := 10) (by decide) (by decide)] using read

/-- A number is written with digits only. -/
theorem char_notMem_ofNat {c : Char} (other : c.isDigit = false) (n : Nat) :
    Glyph.char c ∉ ofNat n := by
  intro member
  obtain ⟨d, inside, same⟩ := List.mem_map.mp member
  cases same
  have digit := Nat.isDigit_of_mem_toDigits (by decide) (by decide) inside
  rw [other] at digit
  cases digit

theorem ofNat_ne_minus (m : Nat) (rest : Text) : ofNat m ≠ .char '-' :: rest :=
  fun same => char_notMem_ofNat (by decide) m (same ▸ List.mem_cons_self)

theorem ofInt_injective {m n : Int} (same : ofInt m = ofInt n) : m = n := by
  cases m with
  | ofNat m =>
      cases n with
      | ofNat n => exact congrArg Int.ofNat (ofNat_injective same)
      | negSucc n => exact absurd same (ofNat_ne_minus m _)
  | negSucc m =>
      cases n with
      | ofNat n => exact absurd same.symm (ofNat_ne_minus n _)
      | negSucc n =>
          have digits : ofNat (m + 1) = ofNat (n + 1) := (List.cons.inj same).2
          exact congrArg Int.negSucc (Nat.succ.inj (ofNat_injective digits))

end Text

namespace Captured

/-- Two outputs agree in what a check looks at: in standard output, or in the exit status and in
both streams one after the other. -/
def Agree : CheckKind → Captured → Captured → Prop
  | .version, a, b => a.stdout = b.stdout
  | .runtime, a, b => a.stdout = b.stdout
  | .compilation, a, b => a.exitStatus = b.exitStatus ∧ a.stdout ++ a.stderr = b.stdout ++ b.stderr
  | .selfDiagnostics, a, b =>
    a.exitStatus = b.exitStatus ∧ a.stdout ++ a.stderr = b.stdout ++ b.stderr

/-- A view with a status is read by taking off the words before the number and splitting at the
first line end. -/
theorem splitFirst_view {kind : CheckKind} (more : kind.stdoutOnly = false) (output : Captured) :
    Text.splitFirst (.char '\n') ((output.view kind).drop ("exit status: " : Text).length) =
      (Text.ofInt output.exitStatus, some (output.stdout ++ output.stderr)) := by
  have shape : output.view kind = ("exit status: " : Text) ++
      (Text.ofInt output.exitStatus ++ .char '\n' :: (output.stdout ++ output.stderr)) := by
    simp [view, more, Text.ofString]
  rw [shape, List.drop_left]
  exact Text.splitFirst_append (Text.singleLine_ofInt _) _

theorem view_eq_iff_agree (kind : CheckKind) (a b : Captured) :
    a.view kind = b.view kind ↔ Agree kind a b := by
  have status (more : kind.stdoutOnly = false) :
      a.view kind = b.view kind ↔
        a.exitStatus = b.exitStatus ∧ a.stdout ++ a.stderr = b.stdout ++ b.stderr := by
    constructor
    · intro same
      have read := splitFirst_view more a
      rw [same, splitFirst_view more b] at read
      obtain ⟨number, streams⟩ := Prod.mk.inj read
      exact ⟨Text.ofInt_injective number.symm, (Option.some.inj streams).symm⟩
    · rintro ⟨number, streams⟩
      simp only [view, more, number, List.append_assoc, streams, Bool.false_eq_true, if_false]
  cases kind with
  | version | runtime => exact Iff.rfl
  | compilation | selfDiagnostics => exact status rfl

end Captured

namespace Comparison

theorem verdict_eq_differs_iff {kind : CheckKind} {a b : Captured} :
    verdict kind a b = .differs ↔ ¬ Captured.Agree kind a b := by
  rw [← Captured.view_eq_iff_agree]
  simp [verdict]

/-- **Exact judgements.** A check finds a difference just when the kinds of failure differ or the
outputs do not agree in what it looks at, and finds none otherwise; it shows something just when it
found a difference. What it shows of outcomes that failed differently begins with how each of them
ended, and goes on with the difference of the outputs just if they do not agree. -/
theorem check_judges_exactly (kind : CheckKind) (zero one : Outcome) (note : Text) :
    let result := check kind zero one note
    let agree := Captured.Agree kind zero.captured one.captured
    let ended : Text := "stage0: " ++ zero.describe ++ "\n" ++ "stage1: " ++ one.describe
    let shown := diff kind zero.captured one.captured
    (result.verdict = .differs ↔ failureKind zero ≠ failureKind one ∨ ¬ agree) ∧
    (result.verdict = .identical ↔ failureKind zero = failureKind one ∧ agree) ∧
    (result.diff ≠ [] ↔ result.verdict = .differs) ∧
    (failureKind zero ≠ failureKind one →
      (agree → result.diff = ended) ∧ (¬ agree → result.diff = ended ++ "\n" ++ shown)) ∧
    (failureKind zero = failureKind one → ¬ agree → result.diff = shown) := by
  intro result agree ended shown
  have identical : result.verdict = .identical ↔ failureKind zero = failureKind one ∧ agree :=
    check_verdict_eq_identical_iff.trans
      (and_congr_right fun _ => verdict_eq_identical_iff.trans (Captured.view_eq_iff_agree ..))
  have differs : result.verdict = .differs ↔ ¬ result.verdict = .identical := by
    rcases judge_cases kind zero one with same | ⟨shown, -, differ⟩
    · simp [result, check, same]
    · simp [result, check, differ]
  have filled : shown.isEmpty = false := List.isEmpty_eq_false_iff.mpr (diff_ne_nil kind _ _)
  refine ⟨?_, identical, (judge_differs_iff kind zero one).symm, fun apart => ⟨?_, ?_⟩, ?_⟩
  · rw [differs, identical, Classical.not_and_iff_not_or_not]
  · intro agrees
    have none_ : verdict kind zero.captured one.captured ≠ .differs := fun found =>
      verdict_eq_differs_iff.mp found agrees
    simp [result, check, judge, apart, none_, ended]
  · intro disagree
    have found := verdict_eq_differs_iff.mpr disagree
    simp [result, check, judge, apart, found, filled, shown, ended]
  · intro alike disagree
    have found := verdict_eq_differs_iff.mpr disagree
    simp [result, check, judge, alike, found, shown]

end Comparison

end StageParity
