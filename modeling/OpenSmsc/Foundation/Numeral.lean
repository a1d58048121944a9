/-
Positional numerals of a fixed width.

A formatted stream prints the significant digits of a number and pads them on
the left with zeros.  Up to the width's capacity that text is the fixed-width
numeral, whose digits, prefixes and injectivity are described here for an
arbitrary base.
-/

import Mathlib.Data.Nat.Digits.Defs

namespace OpenSmsc.Foundation.Numeral

/-- The `width` least significant digits, most significant first. -/
def fixed (base : Nat) : Nat → Nat → List Nat
  | 0, _ => []
  | width + 1, number => fixed base width (number / base) ++ [number % base]

/-- The printed digits of a number: a single zero for zero, no leading zeros
otherwise. -/
def printed (base number : Nat) : List Nat :=
  if number = 0 then [0] else (Nat.digits base number).reverse

/-- Printed digits filled with zeros up to `width`.  Longer ones are not cut. -/
def padded (base width number : Nat) : List Nat :=
  List.replicate (width - (printed base number).length) 0 ++
    printed base number

@[simp] theorem fixed_length (base width number : Nat) :
    (fixed base width number).length = width := by
  induction width generalizing number with
  | zero => rfl
  | succ width ih => simp [fixed, ih]

theorem fixed_digit_lt (base width number : Nat) (positive : 0 < base) :
    ∀ digit ∈ fixed base width number, digit < base := by
  induction width generalizing number with
  | zero => simp [fixed]
  | succ width ih =>
      intro digit member
      simp only [fixed, List.mem_append, List.mem_singleton] at member
      rcases member with earlier | last
      · exact ih (number / base) digit earlier
      · rw [last]
        exact Nat.mod_lt number positive

theorem fixed_eq_iff (base width left right : Nat) (positive : 0 < base) :
    fixed base width left = fixed base width right ↔
      left % base ^ width = right % base ^ width := by
  induction width generalizing left right with
  | zero => simp [fixed, Nat.mod_one]
  | succ width ih =>
      have split (number : Nat) :
          number % base ^ (width + 1) =
            number % base + base * (number / base % base ^ width) := by
        rw [Nat.pow_succ, Nat.mul_comm, Nat.mod_mul]
      rw [split, split]
      constructor
      · intro equal
        have parts := List.append_inj' equal rfl
        have upper := (ih (left / base) (right / base)).mp parts.1
        rw [upper, (List.cons.inj parts.2).1]
      · intro equal
        have low : left % base = right % base := by
          have reduced := congrArg (· % base) equal
          simpa [Nat.add_mul_mod_self_left, Nat.mod_mod] using reduced
        have upper :
            left / base % base ^ width = right / base % base ^ width := by
          rw [low] at equal
          exact Nat.eq_of_mul_eq_mul_left positive
            (Nat.add_left_cancel equal)
        simp only [fixed]
        rw [(ih (left / base) (right / base)).mpr upper, low]

theorem fixed_take (base width count number : Nat) (fits : count ≤ width) :
    (fixed base width number).take count =
      fixed base count (number / base ^ (width - count)) := by
  induction width generalizing number with
  | zero =>
      have countZero : count = 0 := by omega
      subst countZero
      rfl
  | succ width ih =>
      by_cases whole : count = width + 1
      · subst whole
        rw [List.take_of_length_le (by simp)]
        simp
      · have inner : count ≤ width := by omega
        have exponent : width + 1 - count = (width - count) + 1 := by omega
        simp only [fixed]
        rw [List.take_append_of_le_length (by simpa using inner),
          ih (number / base) inner, exponent, Nat.div_div_eq_div_mul,
          Nat.pow_succ, Nat.mul_comm]

theorem fixed_zero (base width : Nat) :
    fixed base width 0 = List.replicate width 0 := by
  induction width with
  | zero => rfl
  | succ width ih =>
      simp only [fixed, Nat.zero_div, Nat.zero_mod, ih]
      exact (List.replicate_succ' ..).symm

private theorem replicate_append_digits (base width number : Nat)
    (large : 1 < base) (bound : number < base ^ width) :
    List.replicate (width - (Nat.digits base number).length) 0 ++
        (Nat.digits base number).reverse =
      fixed base width number := by
  induction width generalizing number with
  | zero =>
      have numberZero : number = 0 := by simpa using bound
      subst numberZero
      simp [fixed]
  | succ width ih =>
      by_cases numberZero : number = 0
      · subst numberZero
        simp [fixed_zero]
      · have positive : 0 < number := Nat.pos_of_ne_zero numberZero
        have quotientBound : number / base < base ^ width := by
          rw [Nat.div_lt_iff_lt_mul (by omega)]
          rwa [Nat.pow_succ] at bound
        rw [Nat.digits_def' large positive]
        simp only [List.length_cons, List.reverse_cons, fixed,
          Nat.add_sub_add_right]
        rw [← List.append_assoc, ih (number / base) quotientBound]

theorem padded_eq_fixed (base width number : Nat) (large : 1 < base)
    (wide : 0 < width) (bound : number < base ^ width) :
    padded base width number = fixed base width number := by
  by_cases numberZero : number = 0
  · subst numberZero
    obtain ⟨smaller, rfl⟩ : ∃ smaller, width = smaller + 1 :=
      ⟨width - 1, by omega⟩
    simp only [padded, printed, if_true, List.length_singleton,
      Nat.add_sub_cancel, fixed_zero]
    exact (List.replicate_succ' ..).symm
  · have core := replicate_append_digits base width number large bound
    simpa [padded, printed, numberZero] using core

end OpenSmsc.Foundation.Numeral
