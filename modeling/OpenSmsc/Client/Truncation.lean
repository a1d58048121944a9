/-
Bodies of submit_sm that break off.

The parser compares its offset with the size of the body before each access.
Here the accesses are modelled apart from these comparisons, so that one
outside the body would be seen.  On a front part of a body the parser then
returns, field by field, a front part of what it returns on the whole.
-/

import OpenSmsc.Client.SubmitSmCodec

namespace OpenSmsc.Smpp

open Foundation Reader

/-! ### Accesses -/

/-- `body[off]`, which must lie inside. -/
def access (body : Octets) (off : Nat) : Option UInt8 := body[off]?

/-- The `count` octets from `body.data() + off` on, which must lie inside. -/
def accessBlock (body : Octets) (off count : Nat) : Option Octets :=
  if off + count ≤ body.length then some ((body.drop off).take count)
  else none

def readCstrLoopChecked (buf : Octets) : Nat → Octets → CheckedScanner Octets
  | 0, s, off => some (s, off)
  | room + 1, s, off =>
      if off < buf.length then do
        let c ← access buf off
        if c = 0 then some (s, off + 1)
        else readCstrLoopChecked buf room (s ++ [c]) (off + 1)
      else some (s, off)

def readCstrChecked (buf : Octets) : CheckedScanner Octets :=
  readCstrLoopChecked buf 65 []

def readOctetChecked (body : Octets) : CheckedScanner UInt8 := fun off =>
  if off < body.length then do
    let octet ← access body off
    some (octet, off + 1)
  else some (0, off)

def readShortMessageChecked (body : Octets) : CheckedScanner Octets :=
  fun off =>
    if off < body.length then do
      let smLen ← access body off
      let avail := min smLen.toNat (body.length - (off + 1))
      let message ← accessBlock body (off + 1) avail
      some (message, off + 1 + avail)
    else some ([], off)

def scanSubmitSmChecked (body : Octets) : CheckedScanner SubmitSm := do
  let serviceType ← readCstrChecked body
  let srcTon ← readOctetChecked body
  let srcNpi ← readOctetChecked body
  let srcAddr ← readCstrChecked body
  let dstTon ← readOctetChecked body
  let dstNpi ← readOctetChecked body
  let dstAddr ← readCstrChecked body
  let esmClass ← readOctetChecked body
  let protocolId ← readOctetChecked body
  let priorityFlag ← readOctetChecked body
  let scheduleDeliveryTime ← readCstrChecked body
  let validityPeriod ← readCstrChecked body
  let registeredDelivery ← readOctetChecked body
  let replaceIfPresent ← readOctetChecked body
  let dataCoding ← readOctetChecked body
  let smDefaultMsgId ← readOctetChecked body
  let shortMessage ← readShortMessageChecked body
  pure
    { serviceType, srcTon, srcNpi, srcAddr, dstTon, dstNpi, dstAddr,
      esmClass, protocolId, priorityFlag, scheduleDeliveryTime,
      validityPeriod, registeredDelivery, replaceIfPresent, dataCoding,
      smDefaultMsgId, shortMessage }

/-- `parse_submit_sm`; `none` would be an access outside the body. -/
def parseSubmitSmChecked (body : Octets) : Option SubmitSm :=
  if body.isEmpty then some {}
  else (scanSubmitSmChecked body 0).map (·.1)

/-! ### No access outside -/

theorem readCstrLoop_guards (buf : Octets) (room : Nat) (s : Octets) :
    Guards (readCstrLoopChecked buf room s) (readCstrLoop buf room s) := by
  induction room generalizing s with
  | zero => exact fun _ => rfl
  | succ room ih =>
      intro off
      unfold readCstrLoopChecked readCstrLoop access
      by_cases inside : off < buf.length
      · rw [if_pos inside, List.getElem?_eq_getElem inside]
        by_cases terminator : buf[off] = 0
        · simp [terminator]
        · simp only [Option.bind_eq_bind, Option.bind_some, if_neg terminator]
          exact ih (s ++ [buf[off]]) (off + 1)
      · rw [if_neg inside, List.getElem?_eq_none (Nat.not_lt.mp inside)]

theorem readOctet_guards (body : Octets) :
    Guards (readOctetChecked body) (readOctet body) := by
  intro off
  unfold readOctetChecked readOctet access
  by_cases inside : off < body.length
  · rw [if_pos inside, List.getElem?_eq_getElem inside]
    rfl
  · rw [if_neg inside, List.getElem?_eq_none (Nat.not_lt.mp inside)]

theorem readShortMessage_guards (body : Octets) :
    Guards (readShortMessageChecked body) (readShortMessage body) := by
  intro off
  unfold readShortMessageChecked readShortMessage access
  by_cases inside : off < body.length
  · rw [if_pos inside, List.getElem?_eq_getElem inside]
    have fits : off + 1 +
        min body[off].toNat (body.length - (off + 1)) ≤ body.length := by
      omega
    simp only [Option.bind_eq_bind, Option.bind_some]
    unfold accessBlock
    rw [if_pos fits]
    rfl
  · rw [if_neg inside, List.getElem?_eq_none (Nat.not_lt.mp inside)]

theorem scanSubmitSm_guards (body : Octets) :
    Guards (scanSubmitSmChecked body) (scanSubmitSm body) := by
  unfold scanSubmitSmChecked scanSubmitSm
  have cstr : Guards (readCstrChecked body) (readCstr body) :=
    readCstrLoop_guards body 65 []
  have octet := readOctet_guards body
  refine cstr.bind fun _ => octet.bind fun _ => octet.bind fun _ => ?_
  refine cstr.bind fun _ => octet.bind fun _ => octet.bind fun _ => ?_
  refine cstr.bind fun _ => octet.bind fun _ => octet.bind fun _ => ?_
  refine octet.bind fun _ => cstr.bind fun _ => cstr.bind fun _ => ?_
  refine octet.bind fun _ => octet.bind fun _ => octet.bind fun _ => ?_
  refine octet.bind fun _ => (readShortMessage_guards body).bind fun _ => ?_
  exact Guards.pure _

theorem parseSubmitSmChecked_eq (body : Octets) :
    parseSubmitSmChecked body = some (parseSubmitSm body) := by
  unfold parseSubmitSmChecked parseSubmitSm
  split
  · rfl
  · rw [scanSubmitSm_guards body 0]
    rfl

/-! ### Front parts -/

def OctetCut (short long : UInt8) : Prop := short = 0 ∨ short = long

/-- Field by field, `short` is what is left of `long`. -/
structure SubmitSm.Cut (short long : SubmitSm) : Prop where
  serviceType : short.serviceType <+: long.serviceType
  srcTon : OctetCut short.srcTon long.srcTon
  srcNpi : OctetCut short.srcNpi long.srcNpi
  srcAddr : short.srcAddr <+: long.srcAddr
  dstTon : OctetCut short.dstTon long.dstTon
  dstNpi : OctetCut short.dstNpi long.dstNpi
  dstAddr : short.dstAddr <+: long.dstAddr
  esmClass : OctetCut short.esmClass long.esmClass
  protocolId : OctetCut short.protocolId long.protocolId
  priorityFlag : OctetCut short.priorityFlag long.priorityFlag
  scheduleDeliveryTime :
    short.scheduleDeliveryTime <+: long.scheduleDeliveryTime
  validityPeriod : short.validityPeriod <+: long.validityPeriod
  registeredDelivery :
    OctetCut short.registeredDelivery long.registeredDelivery
  replaceIfPresent : OctetCut short.replaceIfPresent long.replaceIfPresent
  dataCoding : OctetCut short.dataCoding long.dataCoding
  smDefaultMsgId : OctetCut short.smDefaultMsgId long.smDefaultMsgId
  shortMessage : short.shortMessage <+: long.shortMessage

theorem cstr_shortens : Shortens (· <+: ·) cstr cstr :=
  field_shortens 0 65

theorem octet_shortens : Shortens OctetCut octet octet :=
  single_shortens 0

theorem counted_shortens : Shortens (· <+: ·) counted counted := by
  intro short long front
  cases short with
  | nil => exact ⟨List.nil_prefix, List.nil_prefix⟩
  | cons smLen rest =>
      obtain ⟨tail, isLong⟩ := front
      rw [← isLong]
      exact block_shortens smLen.toNat rest (rest ++ tail)
        (List.prefix_append rest tail)

/-- The two runs stay in step until the shorter body ends; from there on the
shorter run reads nothing. -/
theorem readSubmitSm_shortens :
    Shortens SubmitSm.Cut readSubmitSm readSubmitSm := by
  unfold readSubmitSm
  refine cstr_shortens.bind fun _ _ serviceType => ?_
  refine octet_shortens.bind fun _ _ srcTon => ?_
  refine octet_shortens.bind fun _ _ srcNpi => ?_
  refine cstr_shortens.bind fun _ _ srcAddr => ?_
  refine octet_shortens.bind fun _ _ dstTon => ?_
  refine octet_shortens.bind fun _ _ dstNpi => ?_
  refine cstr_shortens.bind fun _ _ dstAddr => ?_
  refine octet_shortens.bind fun _ _ esmClass => ?_
  refine octet_shortens.bind fun _ _ protocolId => ?_
  refine octet_shortens.bind fun _ _ priorityFlag => ?_
  refine cstr_shortens.bind fun _ _ scheduleDeliveryTime => ?_
  refine cstr_shortens.bind fun _ _ validityPeriod => ?_
  refine octet_shortens.bind fun _ _ registeredDelivery => ?_
  refine octet_shortens.bind fun _ _ replaceIfPresent => ?_
  refine octet_shortens.bind fun _ _ dataCoding => ?_
  refine octet_shortens.bind fun _ _ smDefaultMsgId => ?_
  refine counted_shortens.bind fun _ _ shortMessage => ?_
  apply Shortens.pure
  exact
    { serviceType, srcTon, srcNpi, srcAddr, dstTon, dstNpi, dstAddr,
      esmClass, protocolId, priorityFlag, scheduleDeliveryTime,
      validityPeriod, registeredDelivery, replaceIfPresent, dataCoding,
      smDefaultMsgId, shortMessage }

/-- A body that breaks off is read without leaving it, and what is read is a
front part of what the whole body holds. -/
theorem parseSubmitSm_cut (whole body : Octets) (front : body <+: whole) :
    parseSubmitSmChecked body = some (parseSubmitSm body) ∧
      (parseSubmitSm body).Cut (parseSubmitSm whole) := by
  refine ⟨parseSubmitSmChecked_eq body, ?_⟩
  rw [parseSubmitSm_eq, parseSubmitSm_eq]
  exact (readSubmitSm_shortens body whole front).1

theorem parseSubmitSm_cut_address :
    let whole : Octets :=
      [0, 1, 2] ++ text "1234" ++ [0, 3, 4] ++ text "56" ++
        [0, 0, 0, 0, 0, 0, 0, 0, 0, 0, 2, 104, 105]
    let body := whole.take 5
    body <+: whole ∧ parseSubmitSmChecked body = some (parseSubmitSm body) ∧
      (parseSubmitSm body).Cut (parseSubmitSm whole) := by
  intro whole body
  have front : body <+: whole := List.take_prefix 5 whole
  exact ⟨front, parseSubmitSm_cut whole body front⟩

end OpenSmsc.Smpp
