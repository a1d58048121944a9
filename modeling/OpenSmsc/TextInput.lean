/-
The library functions through which the programs read text: lines of a file,
white space, decimal numbers, IPv4 addresses in dotted decimal.
-/

import OpenSmsc.Octets

namespace OpenSmsc.TextInput

/-! ### Lines and white space -/

/-- `std::isspace` in the C locale. -/
def isSpace (octet : UInt8) : Bool :=
  octet == 32 || (9 ≤ octet && octet ≤ 13)

def trim (s : Octets) : Octets :=
  ((s.dropWhile isSpace).reverse.dropWhile isSpace).reverse

/-- What successive calls of `std::getline` return.  A newline ends a line;
the last line may do without. -/
def getlines : Octets → List Octets
  | [] => []
  | octet :: rest =>
      if octet = 10 then [] :: getlines rest
      else
        match getlines rest with
        | [] => [[octet]]
        | line :: lines => (octet :: line) :: lines

def unlines (lines : List Octets) : Octets :=
  lines.flatMap (· ++ [10])

theorem getlines_append (line rest : Octets) (free : 10 ∉ line) :
    getlines (line ++ 10 :: rest) = line :: getlines rest := by
  induction line with
  | nil => rfl
  | cons octet line ih =>
      rw [List.mem_cons, not_or] at free
      have differs : octet ≠ 10 := Ne.symm free.1
      rw [List.cons_append, getlines, if_neg differs, ih free.2]

theorem getlines_free (s : Octets) : ∀ line ∈ getlines s, 10 ∉ line := by
  induction s with
  | nil => simp [getlines]
  | cons octet rest ih =>
      unfold getlines
      by_cases newline : octet = 10
      · rw [if_pos newline, List.forall_mem_cons]
        exact ⟨by simp, ih⟩
      · rw [if_neg newline]
        cases lines : getlines rest with
        | nil => simpa using Ne.symm newline
        | cons line later =>
            rw [lines, List.forall_mem_cons] at ih
            rw [List.forall_mem_cons, List.mem_cons, not_or]
            exact ⟨⟨Ne.symm newline, ih.1⟩, ih.2⟩

theorem getlines_unlines (lines : List Octets)
    (free : ∀ line ∈ lines, 10 ∉ line) : getlines (unlines lines) = lines := by
  induction lines with
  | nil => rfl
  | cons line later ih =>
      rw [List.forall_mem_cons] at free
      have first : unlines (line :: later) = line ++ 10 :: unlines later := by
        simp [unlines]
      rw [first, getlines_append line _ free.1, ih free.2]

/-- `c_str()` as its reader sees it: up to the first NUL. -/
def cStr (s : Octets) : Octets :=
  s.takeWhile (· != 0)

/-! ### Decimal numbers -/

def digitValue (octet : UInt8) : Option Nat :=
  if 48 ≤ octet ∧ octet ≤ 57 then some (octet.toNat - 48) else none

def decimalValue (digits : List Nat) : Nat :=
  digits.foldl (fun number digit => number * 10 + digit) 0

inductive StoiError where
  | invalidArgument
  | outOfRange
  deriving DecidableEq, Repr

/-- `std::stoi`: white space, a sign, digits; the rest is not looked at. -/
def stoi (str : Octets) : Except StoiError Int :=
  let body := (cStr str).dropWhile isSpace
  let (negative, unsigned) :=
    match body with
    | 45 :: rest => (true, rest)
    | 43 :: rest => (false, rest)
    | _ => (false, body)
  let digits := (unsigned.takeWhile fun octet =>
    (digitValue octet).isSome).filterMap digitValue
  let value : Int :=
    if negative then -(decimalValue digits : Int) else decimalValue digits
  if digits = [] then .error .invalidArgument
  else if value < -2147483648 ∨ 2147483647 < value then .error .outOfRange
  else .ok value

/-! ### IPv4 addresses -/

/-- A number up to 255 without leading zeros. -/
def decimalOctet (part : Octets) : Option UInt8 :=
  match part.mapM digitValue with
  | none => none
  | some digits =>
      if digits = [] ∨ (1 < digits.length ∧ digits.head? = some 0) ∨
          255 < decimalValue digits then none
      else some (UInt8.ofNat (decimalValue digits))

/-- `inet_pton(AF_INET, ...)`, the address in host byte order: four decimal
numbers with dots between. -/
def inetPton4 (src : Octets) : Option UInt32 :=
  match src.splitOn 46 with
  | [first, second, third, fourth] => do
      let first ← decimalOctet first
      let second ← decimalOctet second
      let third ← decimalOctet third
      let fourth ← decimalOctet fourth
      pure (Smpp.readU32 [first, second, third, fourth])
  | _ => none

def decimal (octet : UInt8) : Octets :=
  (Foundation.Numeral.printed 10 octet.toNat).map hexChar

theorem mapM_digitValue {part : Octets} {digits : List Nat}
    (isNumber : part.mapM digitValue = some digits) :
    ∀ character ∈ part, (digitValue character).isSome := by
  induction part generalizing digits with
  | nil => simp
  | cons first rest ih =>
      rw [List.mapM_cons] at isNumber
      simp only [Option.bind_eq_bind, Option.bind_eq_some_iff,
        Option.pure_def] at isNumber
      obtain ⟨digit, isDigit, more, isMore, _⟩ := isNumber
      intro character member
      rcases List.mem_cons.mp member with rfl | later
      · rw [isDigit]
        rfl
      · exact ih isMore character later

theorem decimalOctet_digits {part : Octets} {octet : UInt8}
    (isOctet : decimalOctet part = some octet) :
    ∀ character ∈ part, (digitValue character).isSome := by
  unfold decimalOctet at isOctet
  cases mapped : part.mapM digitValue with
  | none =>
      rw [mapped] at isOctet
      contradiction
  | some digits => exact mapM_digitValue mapped

def dottedDecimal (address : UInt32) : Octets :=
  [46].intercalate ((Smpp.writeU32 address).map decimal)

theorem decimalOctet_decimal (octet : UInt8) :
    decimalOctet (decimal octet) = some octet := by
  have table : ∀ number : Fin 256,
      decimalOctet (decimal (UInt8.ofNat number.val)) =
        some (UInt8.ofNat number.val) := by decide +kernel
  have found := table ⟨octet.toNat, octet.toNat_lt⟩
  rwa [UInt8.ofNat_toNat] at found

theorem dot_not_mem_decimal (octet : UInt8) : 46 ∉ decimal octet := by
  intro member
  have isDigit := decimalOctet_digits (decimalOctet_decimal octet) 46 member
  contradiction

theorem inetPton4_dottedDecimal (address : UInt32) :
    inetPton4 (dottedDecimal address) = some address := by
  have parts : (dottedDecimal address).splitOn 46 =
      (Smpp.writeU32 address).map decimal := by
    refine List.splitOn_intercalate 46 ?_ (by simp [Smpp.writeU32])
    intro part member
    obtain ⟨octet, _, rfl⟩ := List.mem_map.mp member
    exact dot_not_mem_decimal octet
  have whole := Smpp.readU32_writeU32 address []
  unfold inetPton4
  rw [parts]
  simp only [Smpp.writeU32, List.map_cons, List.map_nil,
    decimalOctet_decimal, Option.bind_eq_bind, Option.bind_some,
    Option.pure_def] at whole ⊢
  exact congrArg some whole

theorem inetPton4_characters {src : Octets} {address : UInt32}
    (accepted : inetPton4 src = some address) :
    ∀ character ∈ src, character = 46 ∨ (digitValue character).isSome := by
  have joined : [46].intercalate (src.splitOn 46) = src :=
    List.intercalate_splitOn 46
  unfold inetPton4 at accepted
  split at accepted
  · rename_i first second third fourth parts
    simp only [Option.bind_eq_bind, Option.bind_eq_some_iff] at accepted
    obtain ⟨_, isFirst, _, isSecond, _, isThird, _, isFourth, _⟩ := accepted
    rw [parts] at joined
    intro character member
    rw [← joined] at member
    simp only [List.intercalate, List.intersperse, List.flatten_cons,
      List.flatten_nil, List.append_nil, List.mem_append,
      List.mem_singleton] at member
    rcases member with inFirst | dot | inSecond | dot | inThird | dot |
      inFourth
    · exact Or.inr (decimalOctet_digits isFirst character inFirst)
    · exact Or.inl dot
    · exact Or.inr (decimalOctet_digits isSecond character inSecond)
    · exact Or.inl dot
    · exact Or.inr (decimalOctet_digits isThird character inThird)
    · exact Or.inl dot
    · exact Or.inr (decimalOctet_digits isFourth character inFourth)
  · contradiction

end OpenSmsc.TextInput
