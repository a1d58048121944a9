/-
Words compared under a mask that keeps their high bits.
-/

import Mathlib.Algebra.Ring.Nat

namespace OpenSmsc.Foundation.Masks

variable {width : Nat}

/-- All ones except in the lowest `low` places. -/
def high (width low : Nat) : BitVec width :=
  BitVec.allOnes width <<< low

theorem getLsbD_and_high (word : BitVec width) (low place : Nat) :
    (word &&& high width low).getLsbD place =
      (decide (low ≤ place) && word.getLsbD place) := by
  rw [BitVec.getLsbD_and, high, BitVec.getLsbD_shiftLeft,
    BitVec.getLsbD_allOnes]
  by_cases inside : place < width
  · by_cases kept : low ≤ place
    · have small : place - low < width := by omega
      simp [inside, kept, small]
    · have masked : place < low := by omega
      simp [kept, masked]
  · have outside : word.getLsbD place = false :=
      BitVec.getLsbD_of_ge word place (by omega)
    simp [outside]

theorem ushiftRight_eq_iff (left right : BitVec width) (low : Nat) :
    left >>> low = right >>> low ↔
      left.toNat / 2 ^ low = right.toNat / 2 ^ low := by
  rw [← BitVec.toNat_inj, BitVec.toNat_ushiftRight,
    BitVec.toNat_ushiftRight, Nat.shiftRight_eq_div_pow,
    Nat.shiftRight_eq_div_pow]

theorem and_high_eq_iff (left right : BitVec width) (low : Nat) :
    left &&& high width low = right &&& high width low ↔
      left.toNat / 2 ^ low = right.toNat / 2 ^ low := by
  rw [← ushiftRight_eq_iff]
  constructor
  · intro same
    apply BitVec.eq_of_getLsbD_eq
    intro place _
    have bits := congrArg (fun word => word.getLsbD (low + place)) same
    simp only [getLsbD_and_high, Nat.le_add_right, decide_true,
      Bool.true_and] at bits
    rw [BitVec.getLsbD_ushiftRight, BitVec.getLsbD_ushiftRight, bits]
  · intro same
    apply BitVec.eq_of_getLsbD_eq
    intro place _
    rw [getLsbD_and_high, getLsbD_and_high]
    by_cases kept : low ≤ place
    · have bits := congrArg (fun word => word.getLsbD (place - low)) same
      simp only [BitVec.getLsbD_ushiftRight] at bits
      rw [Nat.add_sub_cancel' kept] at bits
      rw [bits]
    · simp [kept]

end OpenSmsc.Foundation.Masks
