/-
Session ids and the D-Bus names made from them.

The server prints a 48-bit timestamp and a 64-bit random number in
hexadecimal.  The client handler requests the bus name that ends in this id,
and the server addresses it under the same name.  D-Bus refuses a well-known
name with an element that starts with a digit.
-/

import OpenSmsc.Octets

namespace OpenSmsc

open Foundation

/-! ### Bus names -/

def isDigit (octet : UInt8) : Bool := 48 ≤ octet && octet ≤ 57

/-- The octets `[A-Za-z0-9_-]` of a name element. -/
def isNameOctet (octet : UInt8) : Bool :=
  (65 ≤ octet && octet ≤ 90) || (97 ≤ octet && octet ≤ 122) ||
    isDigit octet || octet == 95 || octet == 45

/-- One element of a well-known name: not empty, of name octets, and with no
digit in front. -/
def isNameElement (element : Octets) : Bool :=
  !element.isEmpty && element.all isNameOctet && !element.head?.any isDigit

/-- The well-known names D-Bus accepts.  46 is the dot. -/
def validBusName (name : Octets) : Bool :=
  name.length ≤ 255 && (name.splitOn 46).all isNameElement

/-- The name a client handler requests and is called under. -/
def clientBusName (uuid : Octets) : Octets :=
  text "com.telecom.smpp.Client." ++ uuid

theorem clientBusName_valid (uuid : Octets)
    (short : uuid.length ≤ 231) (noDot : 46 ∉ uuid) :
    validBusName (clientBusName uuid) = isNameElement uuid := by
  have nameEq :
      clientBusName uuid =
        text "com.telecom.smpp.Client" ++ 46 :: uuid := by
    have dotted :
        text "com.telecom.smpp.Client." =
          text "com.telecom.smpp.Client" ++ [46] := by
      decide
    rw [clientBusName, dotted, List.append_assoc]
    rfl
  have prefixValid :
      ((text "com.telecom.smpp.Client").splitOn 46).all isNameElement =
        true := by
    decide
  have prefixLength : (text "com.telecom.smpp.Client").length = 23 := by
    decide
  have lengthBound : (clientBusName uuid).length ≤ 255 := by
    rw [nameEq, List.length_append, List.length_cons, prefixLength]
    omega
  have elements :
      (clientBusName uuid).splitOn 46 =
        (text "com.telecom.smpp.Client").splitOn 46 ++ [uuid] := by
    rw [nameEq, List.splitOn_append_cons_self,
      List.splitOn_eq_singleton noDot]
  rw [validBusName, elements, List.all_append, prefixValid,
    decide_eq_true lengthBound]
  simp

/-! ### Generated ids -/

/-- `generate_session_id`, with the millisecond count of the clock and the
drawn random number as arguments. -/
def generateSessionId (ts rnd : UInt64) : Octets :=
  setwHex 12 (ts &&& 0x0000FFFFFFFFFFFF).toNat ++ [45] ++
    setwHex 16 rnd.toNat

namespace SessionId

theorem timestamp_toNat (ts : UInt64) :
    (ts &&& 0x0000FFFFFFFFFFFF).toNat = ts.toNat % 2 ^ 48 := by
  rw [UInt64.toNat_and]
  exact Nat.and_two_pow_sub_one_eq_mod ts.toNat 48

theorem timestamp_bound (ts : UInt64) :
    (ts &&& 0x0000FFFFFFFFFFFF).toNat < 16 ^ 12 := by
  rw [timestamp_toNat]
  exact Nat.mod_lt _ (by decide)

theorem random_bound (rnd : UInt64) : rnd.toNat < 16 ^ 16 := rnd.toNat_lt

theorem timestamp_length (ts : UInt64) :
    (setwHex 12 (ts &&& 0x0000FFFFFFFFFFFF).toNat).length = 12 :=
  setwHex_length 12 _ (by decide) (timestamp_bound ts)

theorem length_eq (ts rnd : UInt64) :
    (generateSessionId ts rnd).length = 29 := by
  unfold generateSessionId
  rw [List.length_append, List.length_append, timestamp_length,
    setwHex_length 16 rnd.toNat (by decide) (random_bound rnd)]
  rfl

theorem octet_of_mem (ts rnd : UInt64) (octet : UInt8)
    (member : octet ∈ generateSessionId ts rnd) :
    IsHexDigit octet ∨ octet = 45 := by
  unfold generateSessionId at member
  rcases List.mem_append.mp member with upper | lower
  · rcases List.mem_append.mp upper with timestamp | hyphen
    · exact Or.inl (setwHex_isHexDigit 12 _ (by decide)
        (timestamp_bound ts) octet timestamp)
    · exact Or.inr (List.mem_singleton.mp hyphen)
  · exact Or.inl (setwHex_isHexDigit 16 _ (by decide)
      (random_bound rnd) octet lower)

theorem eq_iff (ts rnd ts' rnd' : UInt64) :
    generateSessionId ts rnd = generateSessionId ts' rnd' ↔
      ts.toNat % 2 ^ 48 = ts'.toNat % 2 ^ 48 ∧ rnd = rnd' := by
  constructor
  · intro same
    unfold generateSessionId at same
    rw [List.append_assoc, List.append_assoc] at same
    have sameLength :
        (setwHex 12 (ts &&& 0x0000FFFFFFFFFFFF).toNat).length =
          (setwHex 12 (ts' &&& 0x0000FFFFFFFFFFFF).toNat).length := by
      rw [timestamp_length, timestamp_length]
    obtain ⟨timestamps, tails⟩ := List.append_inj same sameLength
    have randoms : setwHex 16 rnd.toNat = setwHex 16 rnd'.toNat :=
      List.append_cancel_left tails
    constructor
    · rw [← timestamp_toNat, ← timestamp_toNat]
      exact setwHex_injective 12 _ _ (by decide) (timestamp_bound ts)
        (timestamp_bound ts') timestamps
    · apply UInt64.toNat_inj.mp
      exact setwHex_injective 16 _ _ (by decide) (random_bound rnd)
        (random_bound rnd') randoms
  · rintro ⟨timestamps, rfl⟩
    unfold generateSessionId
    rw [timestamp_toNat, timestamp_toNat, timestamps]

theorem take_eq (ts rnd : UInt64) (count : Nat) (positive : 0 < count)
    (fits : count ≤ 12) :
    (generateSessionId ts rnd).take count =
      setwHex count (ts.toNat % 2 ^ 48 / 16 ^ (12 - count)) := by
  unfold generateSessionId
  rw [List.append_assoc, List.take_append_of_le_length]
  · rw [setwHex_take 12 _ (by decide) (timestamp_bound ts) count positive
      fits, timestamp_toNat]
  · rw [timestamp_length]
    exact fits

theorem isNameOctet_of_hexDigit (octet : UInt8)
    (printed : IsHexDigit octet ∨ octet = 45) : isNameOctet octet = true := by
  unfold isNameOctet isDigit
  rcases printed with (⟨low, high⟩ | ⟨low, high⟩) | hyphen
  · simp [low, high]
  · simp [low, UInt8.le_trans high (show (102 : UInt8) ≤ 122 by decide)]
  · simp [hyphen]

theorem head_eq (ts rnd : UInt64) :
    (generateSessionId ts rnd).head? =
      some (hexChar (ts.toNat % 2 ^ 48 / 2 ^ 44)) := by
  have quotientBound : ts.toNat % 2 ^ 48 / 2 ^ 44 < 16 ^ 1 := by omega
  have first := take_eq ts rnd 1 (by decide) (by decide)
  rw [show 16 ^ (12 - 1) = 2 ^ 44 by decide,
    setwHex_eq 1 _ (by decide) quotientBound] at first
  have oneDigit (number : Nat) (bound : number < 16) :
      Numeral.fixed 16 1 number = [number] := by
    simp only [Numeral.fixed, List.nil_append]
    rw [Nat.mod_eq_of_lt bound]
  rw [oneDigit _ quotientBound] at first
  have heads := congrArg List.head? first
  rwa [List.head?_take] at heads

theorem isDigit_hexChar (digit : Nat) (bound : digit < 16) :
    isDigit (hexChar digit) = decide (digit < 10) := by
  have table :
      ∀ x : Fin 16, isDigit (hexChar x.val) = decide (x.val < 10) := by
    decide
  exact table ⟨digit, bound⟩

theorem isNameElement_iff (ts rnd : UInt64) :
    isNameElement (generateSessionId ts rnd) = true ↔
      10 ≤ ts.toNat % 2 ^ 48 / 2 ^ 44 := by
  have nonempty : (generateSessionId ts rnd).isEmpty = false := by
    rw [List.isEmpty_eq_false_iff, ← List.length_pos_iff, length_eq]
    decide
  have octets : (generateSessionId ts rnd).all isNameOctet = true := by
    rw [List.all_eq_true]
    intro octet member
    exact isNameOctet_of_hexDigit octet (octet_of_mem ts rnd octet member)
  have firstBound : ts.toNat % 2 ^ 48 / 2 ^ 44 < 16 := by omega
  rw [isNameElement, nonempty, octets, head_eq, Option.any_some,
    isDigit_hexChar _ firstBound]
  simp

/-- A generated id gives a valid bus name exactly when the top digit of its
timestamp prints as a letter. -/
theorem clientBusName_generated_valid_iff (ts rnd : UInt64) :
    validBusName (clientBusName (generateSessionId ts rnd)) = true ↔
      10 ≤ ts.toNat % 2 ^ 48 / 2 ^ 44 := by
  have short : (generateSessionId ts rnd).length ≤ 231 := by
    rw [length_eq]
    decide
  have noDot : 46 ∉ generateSessionId ts rnd := by
    intro dot
    have impossible := octet_of_mem ts rnd 46 dot
    revert impossible
    decide
  rw [clientBusName_valid _ short noDot, isNameElement_iff]

/-- The id the source gives as an example, `0195f3a7b2c1-a3f8d901c4b72e5d`,
is printed as written there and gives a name D-Bus refuses. -/
theorem example_id_busName_invalid :
    generateSessionId 0x0195f3a7b2c1 0xa3f8d901c4b72e5d =
        text "0195f3a7b2c1-a3f8d901c4b72e5d" ∧
      validBusName (clientBusName
        (generateSessionId 0x0195f3a7b2c1 0xa3f8d901c4b72e5d)) = false := by
  decide

end SessionId

end OpenSmsc
