import Thermals.Proofs.Number.Binary64

namespace Thermals.Number

open Float.Model

def zero (negative : Bool) : Float := if negative then -0.0 else 0.0

/-- Values that differ at most in the sign of zero. -/
inductive Alike : Float → Float → Prop
  | same (x : Float) : Alike x x
  | zeros (negative other : Bool) : Alike (zero negative) (zero other)

theorem Alike.trans {x y z : Float} (first : Alike x y) (second : Alike y z) : Alike x z := by
  cases first with
  | same => exact second
  | zeros negative other =>
    generalize value : zero other = y at second
    cases second with
    | same =>
      rw [← value]
      exact .zeros _ _
    | zeros => exact .zeros _ _

section Congruence

variable {x y : Float}

theorem Alike.eq_map {α : Type} (f : Float → α)
    (at_zero : ∀ negative other, f (zero negative) = f (zero other)) (alike : Alike x y) :
    f x = f y := by
  cases alike with
  | same => rfl
  | zeros negative other => exact at_zero negative other

theorem Alike.map (f : Float → Float)
    (at_zero : ∀ negative other, Alike (f (zero negative)) (f (zero other))) (alike : Alike x y) :
    Alike (f x) (f y) := by
  cases alike with
  | same => exact .same _
  | zeros negative other => exact at_zero negative other

end Congruence

theorem unpack_zero (negative : Bool) :
    (zero negative).toModel.unpack = .zero (signOf negative) := by cases negative <;> rfl

theorem sub_eq (x y : Float) : x - y =
    Float.ofModel (Float.Model.pack (UnpackedFloat.sub .binary64 x.toModel.unpack y.toModel.unpack)) := rfl

theorem sub_zeros (sign other : UnpackedFloat.Sign) : ∃ negative,
    Float.ofModel (Float.Model.pack (UnpackedFloat.sub .binary64 (.zero sign) (.zero other))) =
      zero negative := by
  cases sign <;> cases other
  · exact ⟨false, rfl⟩
  · exact ⟨true, rfl⟩
  · exact ⟨false, rfl⟩
  · exact ⟨false, rfl⟩

theorem zero_sub_alike (y : Float) (negative other : Bool) :
    Alike (zero negative - y) (zero other - y) := by
  rw [sub_eq, sub_eq, unpack_zero, unpack_zero]
  cases y.toModel.unpack with
  | zero sign =>
    obtain ⟨first, difference⟩ := sub_zeros (signOf negative) sign
    obtain ⟨second, other_difference⟩ := sub_zeros (signOf other) sign
    rw [difference, other_difference]
    exact .zeros first second
  | finite => exact .same _
  | infinity => exact .same _
  | notANumber => exact .same _

theorem sub_zero_alike (x : Float) (negative other : Bool) :
    Alike (x - zero negative) (x - zero other) := by
  rw [sub_eq, sub_eq, unpack_zero, unpack_zero]
  cases x.toModel.unpack with
  | zero sign =>
    obtain ⟨first, difference⟩ := sub_zeros sign (signOf negative)
    obtain ⟨second, other_difference⟩ := sub_zeros sign (signOf other)
    rw [difference, other_difference]
    exact .zeros first second
  | finite => exact .same _
  | infinity => exact .same _
  | notANumber => exact .same _

theorem Alike.sub {x x' y y' : Float} (alike : Alike x x') (other : Alike y y') :
    Alike (x - y) (x' - y') := by
  have left : Alike (x - y) (x' - y) := alike.map (· - y) (zero_sub_alike y)
  have right : Alike (x' - y) (x' - y') := other.map (x' - ·) (sub_zero_alike x')
  exact left.trans right

end Thermals.Number
