/-
Octet strings and the conversions the programs build them with.

Every `std::string` and `std::vector<uint8_t>` of the source is a list of
octets: addresses, identifiers and credentials arrive from the wire and may
hold any octet.  The comparison of two octet strings used by `std::map` is the
lexicographic one, which is the order of `List UInt8`.
-/

import OpenSmsc.Foundation.Numeral

namespace OpenSmsc

open Foundation

abbrev Octets := List UInt8

/-- The octets of an ASCII literal of the source. -/
def text (literal : String) : Octets :=
  literal.toList.map (fun character => character.toNat.toUInt8)

/-! ### Big-endian words -/

namespace Smpp

/-- `read_u32` dereferences four octets; every caller supplies them. -/
def readU32 (p : Octets) : UInt32 :=
  (p.getD 0 0).toUInt32 <<< 24 ||| (p.getD 1 0).toUInt32 <<< 16 |||
    (p.getD 2 0).toUInt32 <<< 8 ||| (p.getD 3 0).toUInt32

def writeU32 (v : UInt32) : Octets :=
  [((v >>> 24) &&& 0xff).toUInt8, ((v >>> 16) &&& 0xff).toUInt8,
    ((v >>> 8) &&& 0xff).toUInt8, (v &&& 0xff).toUInt8]

private theorem or_eq_add (shift high low : Nat) (small : low < 2 ^ shift) :
    high * 2 ^ shift ||| low = high * 2 ^ shift + low := by
  rw [Nat.mul_comm]
  exact (Nat.two_pow_add_eq_or_of_lt small high).symm

theorem readU32_toNat (a b c d : UInt8) (rest : Octets) :
    (readU32 (a :: b :: c :: d :: rest)).toNat =
      a.toNat * 2 ^ 24 + b.toNat * 2 ^ 16 + c.toNat * 2 ^ 8 + d.toNat := by
  have aBound := a.toNat_lt
  have bBound := b.toNat_lt
  have cBound := c.toNat_lt
  have dBound := d.toNat_lt
  have shifted (octet : UInt8) (shift : Nat) (small : shift ≤ 24)
      (bound : octet.toNat < 2 ^ 8) :
      octet.toNat * 2 ^ shift % 2 ^ 32 = octet.toNat * 2 ^ shift := by
    apply Nat.mod_eq_of_lt
    calc
      octet.toNat * 2 ^ shift < 2 ^ 8 * 2 ^ shift :=
        Nat.mul_lt_mul_of_pos_right bound (Nat.two_pow_pos shift)
      _ = 2 ^ (8 + shift) := (Nat.pow_add 2 8 shift).symm
      _ ≤ 2 ^ 32 := Nat.pow_le_pow_right (by decide) (by omega)
  have unfolded :
      (readU32 (a :: b :: c :: d :: rest)).toNat =
        a.toNat * 2 ^ 24 ||| b.toNat * 2 ^ 16 ||| c.toNat * 2 ^ 8 |||
          d.toNat := by
    simp only [readU32, List.getD_cons_zero, List.getD_cons_succ,
      UInt32.toNat_or, UInt32.toNat_shiftLeft, UInt8.toNat_toUInt32,
      Nat.shiftLeft_eq, UInt32.reduceToNat]
    rw [shifted a 24 (by omega) aBound, shifted b 16 (by omega) bBound,
      shifted c 8 (by omega) cBound]
  rw [unfolded, or_eq_add 24 a.toNat _ (by omega)]
  have upper :
      a.toNat * 2 ^ 24 + b.toNat * 2 ^ 16 =
        (a.toNat * 2 ^ 8 + b.toNat) * 2 ^ 16 := by ring
  rw [upper, or_eq_add 16 _ _ (by omega)]
  have middle :
      (a.toNat * 2 ^ 8 + b.toNat) * 2 ^ 16 + c.toNat * 2 ^ 8 =
        (a.toNat * 2 ^ 16 + b.toNat * 2 ^ 8 + c.toNat) * 2 ^ 8 := by ring
  rw [middle, or_eq_add 8 _ _ (by omega)]

private theorem and_255 (number : Nat) : number &&& 255 = number % 2 ^ 8 :=
  Nat.and_two_pow_sub_one_eq_mod number 8

theorem readU32_writeU32 (v : UInt32) (rest : Octets) :
    readU32 (writeU32 v ++ rest) = v := by
  apply UInt32.toNat_inj.mp
  simp only [writeU32, List.cons_append, List.nil_append]
  rw [readU32_toNat]
  have vBound := v.toNat_lt
  simp only [UInt32.toNat_toUInt8, UInt32.toNat_and, UInt32.toNat_shiftRight,
    UInt32.reduceToNat, and_255, Nat.shiftRight_eq_div_pow, Nat.reduceMod,
    Nat.reducePow]
  omega

theorem writeU32_readU32 (p : Octets) (long : 4 ≤ p.length) :
    writeU32 (readU32 p) = p.take 4 := by
  match p, long with
  | a :: b :: c :: d :: rest, _ =>
      have value := readU32_toNat a b c d rest
      have aBound := a.toNat_lt
      have bBound := b.toNat_lt
      have cBound := c.toNat_lt
      have dBound := d.toNat_lt
      have octets (octet : UInt8) (word : UInt32)
          (same : word.toNat % 256 = octet.toNat) :
          word.toUInt8 = octet := by
        apply UInt8.toNat_inj.mp
        rw [UInt32.toNat_toUInt8]
        exact same
      simp only [writeU32, List.take_succ_cons, List.take_zero,
        List.cons.injEq, and_true]
      refine ⟨octets a _ ?_, octets b _ ?_, octets c _ ?_, octets d _ ?_⟩
      all_goals
        simp only [UInt32.toNat_and, UInt32.toNat_shiftRight,
          UInt32.reduceToNat, and_255, Nat.shiftRight_eq_div_pow,
          Nat.reduceMod, Nat.reducePow, value]
        omega

end Smpp

/-! ### Hexadecimal stream output -/

def hexChar (digit : Nat) : UInt8 :=
  if digit < 10 then (48 + digit).toUInt8 else (87 + digit).toUInt8

/-- `os << std::hex << std::setfill('0') << std::setw(width) << number`. -/
def setwHex (width number : Nat) : Octets :=
  (Numeral.padded 16 width number).map hexChar

private def hexValue (octet : UInt8) : Nat :=
  if octet < 58 then octet.toNat - 48 else octet.toNat - 87

private theorem hexValue_hexChar (digit : Nat) (bound : digit < 16) :
    hexValue (hexChar digit) = digit := by
  have table : ∀ x : Fin 16, hexValue (hexChar x.val) = x.val := by decide
  exact table ⟨digit, bound⟩

def IsHexDigit (octet : UInt8) : Prop :=
  (48 ≤ octet ∧ octet ≤ 57) ∨ (97 ≤ octet ∧ octet ≤ 102)

instance (octet : UInt8) : Decidable (IsHexDigit octet) :=
  inferInstanceAs (Decidable (_ ∨ _))

theorem hexChar_isHexDigit (digit : Nat) (bound : digit < 16) :
    IsHexDigit (hexChar digit) := by
  have table : ∀ x : Fin 16, IsHexDigit (hexChar x.val) := by decide
  exact table ⟨digit, bound⟩

section SetwHex

variable (width number : Nat) (wide : 0 < width)
  (bound : number < 16 ^ width)

include wide bound

theorem setwHex_eq :
    setwHex width number = (Numeral.fixed 16 width number).map hexChar := by
  rw [setwHex, Numeral.padded_eq_fixed 16 width number (by decide) wide bound]

theorem setwHex_length : (setwHex width number).length = width := by
  rw [setwHex_eq width number wide bound]
  simp

theorem setwHex_isHexDigit :
    ∀ octet ∈ setwHex width number, IsHexDigit octet := by
  rw [setwHex_eq width number wide bound]
  intro octet member
  obtain ⟨digit, digitMember, rfl⟩ := List.mem_map.mp member
  exact hexChar_isHexDigit digit
    (Numeral.fixed_digit_lt 16 width number (by decide) digit digitMember)

theorem setwHex_take (count : Nat) (positive : 0 < count)
    (fits : count ≤ width) :
    (setwHex width number).take count =
      setwHex count (number / 16 ^ (width - count)) := by
  have quotientBound : number / 16 ^ (width - count) < 16 ^ count := by
    rw [Nat.div_lt_iff_lt_mul (Nat.pow_pos (by decide)), ← Nat.pow_add]
    rwa [show count + (width - count) = width by omega]
  rw [setwHex_eq width number wide bound, ← List.map_take,
    Numeral.fixed_take 16 width count number fits,
    setwHex_eq count _ positive quotientBound]

end SetwHex

theorem setwHex_injective (width left right : Nat) (wide : 0 < width)
    (leftBound : left < 16 ^ width) (rightBound : right < 16 ^ width)
    (equal : setwHex width left = setwHex width right) : left = right := by
  rw [setwHex_eq width left wide leftBound,
    setwHex_eq width right wide rightBound] at equal
  have recovered (number : Nat) :
      ((Numeral.fixed 16 width number).map hexChar).map hexValue =
        Numeral.fixed 16 width number := by
    rw [List.map_map]
    refine (List.map_congr_left ?_).trans (List.map_id _)
    intro digit member
    exact hexValue_hexChar digit
      (Numeral.fixed_digit_lt 16 width number (by decide) digit member)
  have digitsEqual :
      Numeral.fixed 16 width left = Numeral.fixed 16 width right := by
    rw [← recovered left, equal, recovered right]
  rw [Numeral.fixed_eq_iff 16 width left right (by decide),
    Nat.mod_eq_of_lt leftBound, Nat.mod_eq_of_lt rightBound] at digitsEqual
  exact digitsEqual

end OpenSmsc
