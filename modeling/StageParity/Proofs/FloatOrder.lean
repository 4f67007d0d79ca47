import Mathlib
import StageParity.Process.Policy

/-!
# The order of floats

Floats are compared by what they unpack to. A comparison has an answer just if both sides are
numbers, the other way round it has the opposite one, and two numbers that compare equal are the
same unless they are zeros.
-/

namespace StageParity

open Float.Model (UnpackedFloat)
open Float.Model.UnpackedFloat (Sign)

namespace FloatOrder

/-! ## Unpacked floats -/

theorem compare_sign_swap (r s : Sign) : compare s r = (compare r s).swap := by
  cases r <;> cases s <;> rfl

theorem compare_swap (a b : UnpackedFloat) : b.compare a = (a.compare b).map Ordering.swap := by
  have size (e f : Int) (m n : Nat) : (compare f e).then (compare n m) =
      ((compare e f).then (compare m n)).swap := by
    rw [Ordering.swap_then, Int.compare_swap, Nat.compare_swap]
  cases a with
  | notANumber => cases b <;> rfl
  | infinity r =>
      cases b with
      | infinity s => exact congrArg some (compare_sign_swap r s)
      | notANumber => rfl
      | zero s => cases r <;> rfl
      | finite s n f _ => cases r <;> cases s <;> rfl
  | zero r =>
      cases b with
      | infinity s => cases s <;> rfl
      | notANumber => rfl
      | zero s => rfl
      | finite s n f _ => cases s <;> rfl
  | finite r m e _ =>
      cases b with
      | infinity s => cases r <;> cases s <;> rfl
      | notANumber => rfl
      | zero s => cases r <;> rfl
      | finite s n f _ =>
          cases r <;> cases s
          · exact congrArg some (congrArg Ordering.swap (size e f m n))
          · rfl
          · rfl
          · exact congrArg some (size e f m n)

theorem isSome_compare (a b : UnpackedFloat) : (a.compare b).isSome = (!a.isNaN && !b.isNaN) := by
  cases a with
  | notANumber => rfl
  | infinity r => cases b <;> cases r <;> rfl
  | zero r =>
      cases b with
      | infinity s => cases s <;> rfl
      | finite s n f _ => cases s <;> rfl
      | _ => rfl
  | finite r m e _ =>
      cases b with
      | infinity s => cases r <;> cases s <;> rfl
      | finite s n f _ => cases r <;> cases s <;> rfl
      | _ => cases r <;> rfl

/-! ## Floats -/

variable {a b : Float}

/-- How two floats compare, if both are numbers. -/
def order (a b : Float) : Option Ordering := a.toModel.compare b.toModel

theorem lt_iff_order : a < b ↔ order a b = some .lt := by
  change decide (a.toModel < b.toModel) = true ↔ _
  rw [decide_eq_true_iff]
  exact beq_iff_eq

theorem le_iff_order : a ≤ b ↔ order a b = some .lt ∨ order a b = some .eq := by
  change decide (a.toModel ≤ b.toModel) = true ↔ _
  rw [decide_eq_true_iff]
  change (order a b).any Ordering.isLE = true ↔ _
  cases order a b with
  | none => simp
  | some answer => cases answer <;> simp

theorem order_swap (a b : Float) : order b a = (order a b).map Ordering.swap :=
  compare_swap a.toModel.unpack b.toModel.unpack

theorem isSome_order (a b : Float) : (order a b).isSome = (!a.isNaN && !b.isNaN) :=
  isSome_compare a.toModel.unpack b.toModel.unpack

theorem le_of_not_lt (left : a.isNaN = false) (right : b.isNaN = false) (notLess : ¬ b < a) :
    a ≤ b := by
  have known : (order a b).isSome = true := by rw [isSome_order, left, right]; rfl
  rw [lt_iff_order, order_swap a b] at notLess
  rw [le_iff_order]
  cases answer : order a b with
  | none => rw [answer] at known; cases known
  | some which =>
      rw [answer] at notLess
      cases which with
      | lt => exact .inl rfl
      | eq => exact .inr rfl
      | gt => exact absurd rfl notLess

theorem not_lt_of_le (atMost : a ≤ b) : ¬ b < a := by
  rw [le_iff_order] at atMost
  rw [lt_iff_order, order_swap a b]
  rcases atMost with less | equal
  · rw [less]
    simp
  · rw [equal]
    simp

theorem le_of_lt (less : a < b) : a ≤ b := le_iff_order.mpr (.inl (lt_iff_order.mp less))

end FloatOrder

end StageParity
