/-
The whitelist of the server.

`load_config` collects the entries of a file line by line: an address kept as
text, or an IPv4 range kept as a masked network.  The result below says what a
loaded file allows, in terms of its lines alone.
-/

import OpenSmsc.Foundation.Collections
import OpenSmsc.Foundation.Masks
import OpenSmsc.TextInput

namespace OpenSmsc.IpValidator

open Foundation TextInput

structure CidrV4 where
  network : UInt32
  mask : UInt32
  deriving DecidableEq, Repr

structure Validator where
  configFile : Octets
  exactSet : Std.TreeSet Octets := ∅
  cidrs : List CidrV4 := []

inductive LoadError where
  | cannotOpen (message : Octets)
  | stoi (error : StoiError)
  deriving DecidableEq, Repr

def parseIpv4 (s : Octets) : Option UInt32 :=
  inetPton4 (cStr s)

def maskOf (prefixLen : Int) : UInt32 :=
  if prefixLen = 0 then 0
  else (~~~0) <<< UInt32.ofNat (32 - prefixLen.toNat)

def loadLine (line : Octets) (v : Validator) : Except LoadError Validator :=
  let line := trim line
  if line = [] ∨ line.head? = some 35 then .ok v
  else
    match line.dropWhile (· != 47) with
    | _ :: suffix =>
        let networkStr := line.takeWhile (· != 47)
        match TextInput.stoi suffix with
        | .error error => .error (.stoi error)
        | .ok prefixLen =>
            if prefixLen < 0 ∨ 32 < prefixLen then .ok v
            else
              match parseIpv4 networkStr with
              | none => .ok v
              | some net =>
                  let mask := maskOf prefixLen
                  .ok { v with
                    cidrs := v.cidrs ++
                      [{ network := net &&& mask
                         mask := mask }] }
    | [] => .ok { v with exactSet := v.exactSet.insert line }

/-- The loop.  An exception leaves what was collected before it. -/
def loadLines : List Octets → Validator → Validator × Option LoadError
  | [], v => (v, none)
  | line :: rest, v =>
      match loadLine line v with
      | .error error => (v, some error)
      | .ok v => loadLines rest v

/-- `contents` is `none` when the file cannot be opened. -/
def loadConfig (contents : Option Octets) (v : Validator) :
    Validator × Option LoadError :=
  let v : Validator := { configFile := v.configFile }
  match contents with
  | none =>
      (v, some (.cannotOpen
        (text "IpValidator: cannot open config file: " ++ v.configFile)))
  | some contents => loadLines (getlines contents) v

def reload (contents : Option Octets) (v : Validator) :
    Validator × Option LoadError :=
  loadConfig contents v

def matchesCidr (addr : UInt32) (v : Validator) : Bool :=
  v.cidrs.any fun c => addr &&& c.mask == c.network

def isAllowed (ip : Octets) (v : Validator) : Bool :=
  v.exactSet.contains ip ||
    match parseIpv4 ip with
    | some addr => matchesCidr addr v
    | none => false

/-! ### Lines -/

/-- A line that is neither blank nor a comment, without its outer white
space. -/
def IsEntry (line entry : Octets) : Prop :=
  trim line = entry ∧ entry ≠ [] ∧ entry.head? ≠ some 35

def ListsExact (line ip : Octets) : Prop :=
  IsEntry line ip ∧ 47 ∉ ip

def SplitsAt (line networkStr suffix : Octets) : Prop :=
  IsEntry line (networkStr ++ 47 :: suffix) ∧ 47 ∉ networkStr

def ListsRange (line : Octets) (net : UInt32) (prefixLen : Nat) : Prop :=
  ∃ networkStr suffix, SplitsAt line networkStr suffix ∧
    parseIpv4 networkStr = some net ∧
    TextInput.stoi suffix = .ok (prefixLen : Int) ∧ prefixLen ≤ 32

def SameNetwork (prefixLen : Nat) (left right : UInt32) : Prop :=
  left.toNat / 2 ^ (32 - prefixLen) = right.toNat / 2 ^ (32 - prefixLen)

def Covers (line : Octets) (addr : UInt32) : Prop :=
  ∃ net prefixLen,
    ListsRange line net prefixLen ∧ SameNetwork prefixLen addr net

def Permits (lines : List Octets) (ip : Octets) : Prop :=
  (∃ line ∈ lines, ListsExact line ip) ∨
    ∃ addr, parseIpv4 ip = some addr ∧ ∃ line ∈ lines, Covers line addr

theorem maskOf_toBitVec (prefixLen : Nat) (bound : prefixLen ≤ 32) :
    (maskOf prefixLen).toBitVec = Masks.high 32 (32 - prefixLen) := by
  have table : ∀ number : Fin 33,
      (maskOf (number.val : Int)).toBitVec =
        Masks.high 32 (32 - number.val) := by decide
  exact table ⟨prefixLen, by omega⟩

/-- The test of `matches_cidr` on an entry made from `net`.  A prefix of 0
bits has the empty mask, which the shift by 32 would not give. -/
theorem masked_eq_iff (addr net : UInt32) (prefixLen : Nat)
    (bound : prefixLen ≤ 32) :
    addr &&& maskOf prefixLen = net &&& maskOf prefixLen ↔
      SameNetwork prefixLen addr net := by
  rw [← UInt32.toBitVec_inj, UInt32.toBitVec_and, UInt32.toBitVec_and,
    maskOf_toBitVec prefixLen bound]
  exact Masks.and_high_eq_iff addr.toBitVec net.toBitVec (32 - prefixLen)

theorem IsEntry.unique {line left right : Octets} (isLeft : IsEntry line left)
    (isRight : IsEntry line right) : left = right :=
  isLeft.1.symm.trans isRight.1

theorem takeWhile_dropWhile_of_split (networkStr suffix : Octets)
    (free : 47 ∉ networkStr) :
    (networkStr ++ 47 :: suffix).takeWhile (· != 47) = networkStr ∧
      (networkStr ++ 47 :: suffix).dropWhile (· != 47) = 47 :: suffix := by
  have before : ∀ octet ∈ networkStr, (octet != 47) = true := by
    intro octet member
    rw [bne_iff_ne]
    rintro rfl
    exact free member
  rw [List.takeWhile_append_of_pos before, List.dropWhile_append_of_pos before]
  simp

theorem SplitsAt.unique {line networkStr suffix networkStr' suffix' : Octets}
    (splits : SplitsAt line networkStr suffix)
    (splits' : SplitsAt line networkStr' suffix') :
    networkStr = networkStr' ∧ suffix = suffix' := by
  have same := splits.1.unique splits'.1
  obtain ⟨isNetwork, isRest⟩ :=
    takeWhile_dropWhile_of_split networkStr suffix splits.2
  obtain ⟨isNetwork', isRest'⟩ :=
    takeWhile_dropWhile_of_split networkStr' suffix' splits'.2
  rw [same] at isNetwork isRest
  refine ⟨isNetwork.symm.trans isNetwork', ?_⟩
  exact (List.cons.inj (isRest.symm.trans isRest')).2

theorem SplitsAt.of_listsRange {line networkStr suffix : Octets}
    (splits : SplitsAt line networkStr suffix) {net : UInt32}
    {prefixLen : Nat} (lists : ListsRange line net prefixLen) :
    parseIpv4 networkStr = some net ∧
      TextInput.stoi suffix = .ok (prefixLen : Int) ∧ prefixLen ≤ 32 := by
  obtain ⟨networkStr', suffix', splits', fields⟩ := lists
  obtain ⟨rfl, rfl⟩ := splits.unique splits'
  exact fields

theorem SplitsAt.not_listsRange {line networkStr suffix : Octets}
    (splits : SplitsAt line networkStr suffix) {number : Int}
    (isNumber : TextInput.stoi suffix = .ok number)
    (notRange : number < 0 ∨ 32 < number ∨ parseIpv4 networkStr = none)
    (net : UInt32) (prefixLen : Nat) : ¬ListsRange line net prefixLen := by
  intro lists
  obtain ⟨parsed, isLength, bound⟩ := splits.of_listsRange lists
  rw [isNumber] at isLength
  cases isLength
  rcases notRange with negative | large | unparsed
  · omega
  · omega
  · rw [parsed] at unparsed
    contradiction

theorem ListsExact.not_splitsAt {line ip networkStr suffix : Octets}
    (lists : ListsExact line ip) : ¬SplitsAt line networkStr suffix := by
  intro splits
  have same := lists.1.unique splits.1
  apply lists.2
  rw [same]
  simp

inductive Loaded (line : Octets) (v : Validator)
    (result : Except LoadError Validator) : Prop
  | skipped (noEntry : ∀ entry, ¬IsEntry line entry)
      (isResult : result = .ok v)
  | exact (ip : Octets) (lists : ListsExact line ip)
      (isResult : result =
        .ok { v with exactSet := v.exactSet.insert ip })
  | failed (networkStr suffix : Octets) (error : StoiError)
      (splits : SplitsAt line networkStr suffix)
      (noNumber : TextInput.stoi suffix = .error error)
      (isResult : result = .error (.stoi error))
  | unusable (networkStr suffix : Octets) (prefixLen : Int)
      (splits : SplitsAt line networkStr suffix)
      (isNumber : TextInput.stoi suffix = .ok prefixLen)
      (notRange : prefixLen < 0 ∨ 32 < prefixLen ∨
        parseIpv4 networkStr = none)
      (isResult : result = .ok v)
  | range (net : UInt32) (prefixLen : Nat)
      (lists : ListsRange line net prefixLen)
      (isResult : result =
        .ok { v with
          cidrs := v.cidrs ++
            [{ network := net &&& maskOf prefixLen
               mask := maskOf prefixLen }] })

theorem loadLine_loaded (line : Octets) (v : Validator) :
    Loaded line v (loadLine line v) := by
  unfold loadLine
  dsimp only
  by_cases ignored : trim line = [] ∨ (trim line).head? = some 35
  · rw [if_pos ignored]
    refine .skipped ?_ rfl
    rintro entry ⟨rfl, nonempty, noComment⟩
    rcases ignored with empty | comment
    · exact nonempty empty
    · exact noComment comment
  · rw [if_neg ignored]
    rw [not_or] at ignored
    have isEntry : IsEntry line (trim line) :=
      ⟨rfl, ignored.1, ignored.2⟩
    have whole := List.takeWhile_append_dropWhile
      (p := (· != 47)) (l := trim line)
    have free : 47 ∉ (trim line).takeWhile (· != 47) := by
      intro member
      have differs := List.all_eq_true.mp List.all_takeWhile 47 member
      contradiction
    cases rest : (trim line).dropWhile (· != 47) with
    | nil =>
        rw [rest, List.append_nil] at whole
        rw [whole] at free
        exact .exact (trim line) ⟨isEntry, free⟩ rfl
    | cons slash suffix =>
        have isSlash : slash = 47 := by
          have stops := List.head?_dropWhile_not (· != 47) (trim line)
          rw [rest] at stops
          simpa using stops
        have splits :
            SplitsAt line ((trim line).takeWhile (· != 47)) suffix := by
          refine ⟨?_, free⟩
          rw [rest, isSlash] at whole
          rw [whole]
          exact isEntry
        dsimp only
        cases number : TextInput.stoi suffix with
        | error error => exact .failed _ suffix error splits number rfl
        | ok prefixLen =>
            dsimp only
            by_cases outside : prefixLen < 0 ∨ 32 < prefixLen
            · rw [if_pos outside]
              refine .unusable _ suffix prefixLen splits number ?_ rfl
              rcases outside with negative | large
              · exact Or.inl negative
              · exact Or.inr (Or.inl large)
            · rw [if_neg outside]
              rw [not_or, Int.not_lt, Int.not_lt] at outside
              obtain ⟨length, rfl⟩ := Int.eq_ofNat_of_zero_le outside.1
              cases parsed :
                  parseIpv4 ((trim line).takeWhile (· != 47)) with
              | none =>
                  exact .unusable _ suffix length splits number
                    (Or.inr (Or.inr parsed)) rfl
              | some net =>
                  refine .range net length
                    ⟨_, suffix, splits, parsed, number, ?_⟩ rfl
                  omega

/-! ### The loop -/

structure Adds (lines : List Octets) (v after : Validator) : Prop where
  exact : ∀ ip, after.exactSet.contains ip = true ↔
    v.exactSet.contains ip = true ∨ ∃ line ∈ lines, ListsExact line ip
  ranges : ∀ addr, matchesCidr addr after = true ↔
    matchesCidr addr v = true ∨ ∃ line ∈ lines, Covers line addr

theorem Adds.refl (v : Validator) : Adds [] v v := by
  refine ⟨?_, ?_⟩ <;> simp

theorem Adds.cons {line : Octets} {rest : List Octets}
    {v middle after : Validator} (first : Adds [line] v middle)
    (later : Adds rest middle after) : Adds (line :: rest) v after := by
  refine ⟨?_, ?_⟩
  · intro ip
    rw [later.exact, first.exact]
    simp [or_assoc]
  · intro addr
    rw [later.ranges, first.ranges]
    simp [or_assoc]

theorem Adds.nothing {line : Octets} (v : Validator)
    (noExact : ∀ ip, ¬ListsExact line ip)
    (noRange : ∀ addr, ¬Covers line addr) : Adds [line] v v := by
  refine ⟨?_, ?_⟩
  · intro ip
    simp [noExact]
  · intro addr
    simp [noRange]

theorem Adds.insert {line ip : Octets} (v : Validator)
    (lists : ListsExact line ip) :
    Adds [line] v { v with exactSet := v.exactSet.insert ip } := by
  refine ⟨?_, ?_⟩
  · intro other
    have same : ListsExact line other ↔ ip = other := by
      constructor
      · intro listsOther
        exact lists.1.unique listsOther.1
      · rintro rfl
        exact lists
    simp [Std.TreeSet.contains_insert, same, or_comm]
  · intro addr
    have noRange : ¬Covers line addr := by
      rintro ⟨net, prefixLen, ⟨networkStr, suffix, splits, _⟩, _⟩
      exact lists.not_splitsAt splits
    simp [noRange, matchesCidr]

theorem Adds.append {line : Octets} {net : UInt32} {prefixLen : Nat}
    (v : Validator) (lists : ListsRange line net prefixLen) :
    Adds [line] v
      { v with
        cidrs := v.cidrs ++
          [{ network := net &&& maskOf prefixLen
             mask := maskOf prefixLen }] } := by
  obtain ⟨networkStr, suffix, splits, parsed, number, bound⟩ := lists
  refine ⟨?_, ?_⟩
  · intro ip
    have noExact : ¬ListsExact line ip := by
      intro listsExact
      exact listsExact.not_splitsAt splits
    simp [noExact]
  · intro addr
    have covers : Covers line addr ↔ SameNetwork prefixLen addr net := by
      constructor
      · rintro ⟨net', prefixLen', ⟨_, _, splits', parsed', number', _⟩,
          agree⟩
        obtain ⟨rfl, rfl⟩ := splits.unique splits'
        rw [parsed] at parsed'
        rw [number] at number'
        cases parsed'
        cases number'
        exact agree
      · intro agree
        exact ⟨net, prefixLen,
          ⟨networkStr, suffix, splits, parsed, number, bound⟩, agree⟩
    simp [matchesCidr, covers, masked_eq_iff addr net prefixLen bound]

theorem loadLine_adds {line : Octets} {v after : Validator}
    (isOk : loadLine line v = .ok after) : Adds [line] v after := by
  cases loadLine_loaded line v with
  | skipped noEntry isResult =>
      rw [isResult] at isOk
      cases isOk
      refine Adds.nothing v (fun ip lists => noEntry ip lists.1) ?_
      rintro addr ⟨_, _, ⟨_, _, splits, _⟩, _⟩
      exact noEntry _ splits.1
  | exact ip lists isResult =>
      rw [isResult] at isOk
      cases isOk
      exact Adds.insert v lists
  | failed networkStr suffix error splits noNumber isResult =>
      rw [isResult] at isOk
      contradiction
  | unusable networkStr suffix prefixLen splits isNumber notRange isResult =>
      rw [isResult] at isOk
      cases isOk
      refine Adds.nothing v (fun ip lists => lists.not_splitsAt splits) ?_
      rintro addr ⟨net, length, lists, _⟩
      exact splits.not_listsRange isNumber notRange net length lists
  | range net prefixLen lists isResult =>
      rw [isResult] at isOk
      cases isOk
      exact Adds.append v lists

theorem loadLines_adds (lines : List Octets) (v : Validator)
    (completes : (loadLines lines v).2 = none) :
    Adds lines v (loadLines lines v).1 := by
  induction lines generalizing v with
  | nil => exact Adds.refl v
  | cons line rest ih =>
      unfold loadLines at completes ⊢
      cases loaded : loadLine line v with
      | error error =>
          rw [loaded] at completes
          contradiction
      | ok middle =>
          rw [loaded] at completes
          exact (loadLine_adds loaded).cons (ih middle completes)

/-- `stoi` finds a number after the slash, if the line has one. -/
def Readable (line : Octets) : Prop :=
  ∀ networkStr suffix, SplitsAt line networkStr suffix →
    ∃ prefixLen, TextInput.stoi suffix = .ok prefixLen

theorem loadLine_ok_iff (line : Octets) (v : Validator) :
    (∃ after, loadLine line v = .ok after) ↔ Readable line := by
  cases loadLine_loaded line v with
  | skipped noEntry isResult =>
      refine iff_of_true ⟨v, isResult⟩ ?_
      intro networkStr suffix splits
      exact absurd splits.1 (noEntry _)
  | exact ip lists isResult =>
      refine iff_of_true ⟨_, isResult⟩ ?_
      intro networkStr suffix splits
      exact absurd splits lists.not_splitsAt
  | failed networkStr suffix error splits noNumber isResult =>
      refine iff_of_false ?_ ?_
      · rintro ⟨after, isOk⟩
        rw [isResult] at isOk
        contradiction
      · intro readable
        obtain ⟨prefixLen, isNumber⟩ := readable networkStr suffix splits
        rw [noNumber] at isNumber
        contradiction
  | unusable networkStr suffix prefixLen splits isNumber notRange isResult =>
      refine iff_of_true ⟨v, isResult⟩ ?_
      intro networkStr' suffix' splits'
      obtain ⟨rfl, rfl⟩ := splits.unique splits'
      exact ⟨prefixLen, isNumber⟩
  | range net prefixLen lists isResult =>
      obtain ⟨networkStr, suffix, splits, _, isNumber, _⟩ := lists
      refine iff_of_true ⟨_, isResult⟩ ?_
      intro networkStr' suffix' splits'
      obtain ⟨rfl, rfl⟩ := splits.unique splits'
      exact ⟨prefixLen, isNumber⟩

theorem loadLines_completes_iff (lines : List Octets) (v : Validator) :
    (loadLines lines v).2 = none ↔ ∀ line ∈ lines, Readable line := by
  induction lines generalizing v with
  | nil => simp [loadLines]
  | cons line rest ih =>
      rw [List.forall_mem_cons, ← loadLine_ok_iff line v]
      unfold loadLines
      cases loaded : loadLine line v with
      | error error => simp
      | ok middle =>
          rw [ih middle]
          simp

theorem isAllowed_of_adds {lines : List Octets} {v after : Validator}
    (adds : Adds lines v after) (noExact : v.exactSet = ∅)
    (noRange : v.cidrs = []) (ip : Octets) :
    isAllowed ip after = true ↔ Permits lines ip := by
  have exact := adds.exact ip
  have ranges := adds.ranges
  simp only [noExact, Std.TreeSet.contains_emptyc, Bool.false_eq_true,
    false_or] at exact
  simp only [matchesCidr, noRange, List.any_nil, Bool.false_eq_true,
    false_or] at ranges
  rw [isAllowed, Bool.or_eq_true, exact, Permits]
  cases parsed : parseIpv4 ip with
  | none => simp
  | some addr => simp [matchesCidr, ranges]

theorem isAllowed_iff_permits (v : Validator) (contents : Octets)
    (completes : (loadConfig (some contents) v).2 = none) (ip : Octets) :
    isAllowed ip (loadConfig (some contents) v).1 = true ↔
      Permits (getlines contents) ip :=
  isAllowed_of_adds (loadLines_adds _ _ completes) rfl rfl ip

/-- A file that loads allows exactly what its lines list.  Any file with the
same lines, in whatever order and number, loads as well and allows the
same. -/
theorem isAllowed_iff_listed (v : Validator) (contents : Octets)
    (completes : (loadConfig (some contents) v).2 = none) :
    (∀ ip, isAllowed ip (loadConfig (some contents) v).1 = true ↔
        Permits (getlines contents) ip) ∧
      ∀ reordered,
        (∀ line, line ∈ getlines reordered ↔ line ∈ getlines contents) →
        (loadConfig (some reordered) v).2 = none ∧
          ∀ ip, isAllowed ip (loadConfig (some reordered) v).1 =
            isAllowed ip (loadConfig (some contents) v).1 := by
  refine ⟨isAllowed_iff_permits v contents completes, ?_⟩
  intro reordered sameLines
  have loads : (loadConfig (some reordered) v).2 = none := by
    refine (loadLines_completes_iff _ _).mpr ?_
    intro line member
    exact (loadLines_completes_iff _ _).mp completes line
      ((sameLines line).mp member)
  refine ⟨loads, ?_⟩
  intro ip
  rw [Bool.eq_iff_iff, isAllowed_iff_permits v reordered loads ip,
    isAllowed_iff_permits v contents completes ip]
  simp only [Permits, sameLines]

theorem isAllowed_iff_listed_office :
    let v : Validator := { configFile := text "whitelist.conf" }
    let file := text "# office\n::1\n10.0.0.0/8 \n"
    (loadConfig (some file) v).2 = none ∧
      ∀ ip, isAllowed ip (loadConfig (some file) v).1 = true ↔
        Permits (getlines file) ip := by
  intro v file
  have completes : (loadConfig (some file) v).2 = none := by decide
  exact ⟨completes, (isAllowed_iff_listed v file completes).1⟩

end OpenSmsc.IpValidator
