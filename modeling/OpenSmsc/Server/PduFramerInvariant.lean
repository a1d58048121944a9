/-
The representation invariant of the PDU framer.

State, buffer and parsed length are set in different places of `feed_bytes`.
The invariant says how they belong together after any calls of `feed_bytes`
and `reset`; the differences in `bytes_needed` are true ones because of it.
-/

import OpenSmsc.Server.PduFramer

namespace OpenSmsc.SmppPduFramer

open Foundation Smpp

inductive Call where
  | feedBytes (data : Octets)
  | reset
  deriving DecidableEq, Repr

/-- A framer under any calls of its two mutators; an output is an answer of
`feed_bytes`. -/
def calling : Machine Framer Call Bool where
  step f
    | .feedBytes data => ((feedBytes data f).2, [(feedBytes data f).1])
    | .reset => (reset f, [])

/-! ### The invariant -/

def bigEndian (octets : Octets) : Nat :=
  octets.foldl (fun number octet => number * 256 + octet.toNat) 0

structure HeaderRead (f : Framer) : Prop where
  commandLength :
    f.header.commandLength.toNat = bigEndian (f.fullPdu.take 4)
  commandId :
    f.header.commandId.toNat = bigEndian ((f.fullPdu.drop 4).take 4)
  commandStatus :
    f.header.commandStatus.toNat = bigEndian ((f.fullPdu.drop 8).take 4)
  sequenceNumber :
    f.header.sequenceNumber.toNat = bigEndian ((f.fullPdu.drop 12).take 4)

def Represents (f : Framer) : Prop :=
  match f.state with
  | .waitingHeader => f.fullPdu.length ≤ 16
  | .waitingBody =>
      16 ≤ f.fullPdu.length ∧
        f.fullPdu.length ≤ f.header.commandLength.toNat ∧
        16 ≤ f.header.commandLength.toNat ∧ HeaderRead f
  | .pduComplete =>
      f.fullPdu.length = f.header.commandLength.toNat ∧
        16 ≤ f.header.commandLength.toNat ∧ HeaderRead f

/-- What the invariant is for.  A header that announces less than itself is
kept whole, so the buffer is bounded by the announced length or by the length
of a header, whichever is larger; a buffer with a whole header grows only
within the announced length. -/
structure FeedsSafely (f : Framer) : Prop where
  headerNeeds : f.state = .waitingHeader →
    bytesNeeded f + f.fullPdu.length = 16
  bodyNeeds : f.state = .waitingBody →
    bytesNeeded f + f.fullPdu.length = f.header.commandLength.toNat
  takes : ∀ data, (feedBytes data f).2.fullPdu =
    f.fullPdu ++ data.take (min data.length (bytesNeeded f))
  bounded : f.fullPdu.length ≤ max 16 f.header.commandLength.toNat
  growsWithin : 16 ≤ f.fullPdu.length → ∀ data,
    (feedBytes data f).2.fullPdu = f.fullPdu ∨
      (feedBytes data f).2.fullPdu.length ≤ f.header.commandLength.toNat
  keepsComplete : f.state = .pduComplete →
    ∀ reads, feeding.final f reads = f

inductive Phase (f : Framer) : Prop
  | header (isState : f.state = .waitingHeader)
      (upTo : f.fullPdu.length ≤ 16)
  | body (inBody : InBody f)
  | complete (isState : f.state = .pduComplete)
      (isHeader : f.header = decodeHeader f.fullPdu)
      (whole : 16 ≤ f.fullPdu.length)
      (filled : f.fullPdu.length = f.header.commandLength.toNat)

theorem readU32_bigEndian (p : Octets) (long : 4 ≤ p.length) :
    (readU32 p).toNat = bigEndian (p.take 4) := by
  match p, long with
  | a :: b :: c :: d :: rest, _ =>
      rw [readU32_toNat]
      simp only [bigEndian, List.take_succ_cons, List.take_zero,
        List.foldl_cons, List.foldl_nil]
      omega

theorem headerRead_of_decoded {f : Framer}
    (isHeader : f.header = decodeHeader f.fullPdu)
    (whole : 16 ≤ f.fullPdu.length) : HeaderRead f := by
  have word (index : Nat) (inside : index + 4 ≤ 16) :
      (readU32 (f.fullPdu.drop index)).toNat =
        bigEndian ((f.fullPdu.drop index).take 4) := by
    apply readU32_bigEndian
    rw [List.length_drop]
    omega
  constructor
  · rw [isHeader]
    exact word 0 (by decide)
  · rw [isHeader]
    exact word 4 (by decide)
  · rw [isHeader]
    exact word 8 (by decide)
  · rw [isHeader]
    exact word 12 (by decide)

theorem Phase.represents {f : Framer} (phase : Phase f) : Represents f := by
  unfold Represents
  cases phase with
  | header isState upTo =>
      rw [isState]
      exact upTo
  | body inBody =>
      rw [inBody.isState]
      exact ⟨inBody.whole, inBody.announced,
        Nat.le_trans inBody.whole inBody.announced,
        headerRead_of_decoded inBody.isHeader inBody.whole⟩
  | complete isState isHeader whole filled =>
      rw [isState]
      exact ⟨filled, filled ▸ whole, headerRead_of_decoded isHeader whole⟩

/-! ### One call -/

theorem feedBytes_complete {f : Framer} (isState : f.state = .pduComplete)
    (data : Octets) : feedBytes data f = (false, f) := by
  have needsNothing : bytesNeeded f = 0 := by
    unfold bytesNeeded
    rw [isState]
  obtain ⟨state, fullPdu, header⟩ := f
  cases isState
  unfold feedBytes
  dsimp only
  rw [needsNothing, Nat.min_zero, List.take_zero, List.append_nil]
  split <;> rfl

theorem taken_length (f : Framer) (data : Octets) :
    (f.fullPdu ++ data.take (min data.length (bytesNeeded f))).length ≤
      f.fullPdu.length + bytesNeeded f := by
  rw [List.length_append, List.length_take]
  omega

theorem Phase.feed_header {f : Framer} (isState : f.state = .waitingHeader)
    (upTo : f.fullPdu.length ≤ 16) {data : Octets} (nonempty : data ≠ []) :
    Phase (feedBytes data f).2 := by
  have fed := feedBytes_header isState nonempty rfl
  have taken := taken_length f data
  have needs := header_bytesNeeded isState upTo
  rw [fed]
  generalize f.fullPdu ++ data.take (min data.length (bytesNeeded f)) =
    buffer at taken
  have bufferUpTo : buffer.length ≤ 16 := by omega
  by_cases whole : 16 ≤ buffer.length
  · rw [if_pos whole]
    have atEnd : buffer.length = 16 := Nat.le_antisymm bufferUpTo whole
    by_cases announced : 16 ≤ (decodeHeader buffer).commandLength.toNat
    · rw [if_pos announced]
      exact .body (inBody_start atEnd announced)
    · -- the invalid header stays in the buffer
      rw [if_neg announced]
      exact .header isState bufferUpTo
  · rw [if_neg whole]
    exact .header isState bufferUpTo

theorem Phase.feed_body {f : Framer} (inBody : InBody f) {data : Octets}
    (nonempty : data ≠ []) : Phase (feedBytes data f).2 := by
  have fed := feedBytes_body inBody.isState nonempty rfl
  have taken := taken_length f data
  have announced := inBody.announced
  have needs := inBody.bytesNeeded_eq
  have upTo : (f.fullPdu ++
      data.take (min data.length (bytesNeeded f))).length ≤
        f.header.commandLength.toNat := by
    omega
  have extended := inBody.extend upTo
  rw [fed]
  split
  · rename_i filled
    exact .complete rfl extended.isHeader extended.whole
      (Nat.le_antisymm upTo filled)
  · exact .body extended

theorem Phase.feed {f : Framer} (phase : Phase f) (data : Octets) :
    Phase (feedBytes data f).2 := by
  by_cases empty : data = []
  · rw [empty, feedBytes_nil]
    exact phase
  · cases phase with
    | header isState upTo => exact feed_header isState upTo empty
    | body inBody => exact feed_body inBody empty
    | complete isState isHeader whole filled =>
        rw [feedBytes_complete isState]
        exact .complete isState isHeader whole filled

theorem complete_unchanged {f : Framer} (isState : f.state = .pduComplete)
    (reads : List Octets) : feeding.final f reads = f := by
  induction reads with
  | nil => rfl
  | cons data later ih =>
      have unchanged : (feeding.step f data).1 = f :=
        congrArg Prod.snd (feedBytes_complete isState data)
      simp only [Machine.final]
      rw [unchanged]
      exact ih

theorem Phase.growsWithin {f : Framer} (phase : Phase f)
    (whole : 16 ≤ f.fullPdu.length) (data : Octets) :
    (feedBytes data f).2.fullPdu = f.fullPdu ∨
      (feedBytes data f).2.fullPdu.length ≤
        f.header.commandLength.toNat := by
  rw [feedBytes_fullPdu]
  cases phase with
  | header isState upTo =>
      have needsNothing : bytesNeeded f = 0 := by
        rw [header_bytesNeeded isState upTo]
        omega
      rw [needsNothing, Nat.min_zero, List.take_zero, List.append_nil]
      exact Or.inl rfl
  | body inBody =>
      have taken := taken_length f data
      have needs := inBody.bytesNeeded_eq
      have announced := inBody.announced
      right
      omega
  | complete isState isHeader whole filled =>
      rw [← feedBytes_fullPdu, feedBytes_complete isState]
      exact Or.inl rfl

theorem Phase.feedsSafely {f : Framer} (phase : Phase f) :
    FeedsSafely f := by
  constructor
  · intro waits
    cases phase with
    | header isState upTo =>
        rw [header_bytesNeeded isState upTo]
        omega
    | body inBody => cases waits.symm.trans inBody.isState
    | complete isState _ _ _ => cases waits.symm.trans isState
  · intro waits
    cases phase with
    | header isState upTo => cases waits.symm.trans isState
    | body inBody =>
        have announced := inBody.announced
        rw [inBody.bytesNeeded_eq]
        omega
    | complete isState _ _ _ => cases waits.symm.trans isState
  · intro data
    exact feedBytes_fullPdu data f
  · cases phase with
    | header isState upTo => omega
    | body inBody =>
        have announced := inBody.announced
        omega
    | complete isState isHeader whole filled => omega
  · exact phase.growsWithin
  · exact complete_unchanged

/-! ### All calls -/

theorem phase_of_calls (calls : List Call) :
    Phase (calling.final {} calls) := by
  apply calling.invariant_rule Phase
  · exact .header rfl (by decide)
  · intro f call phase
    cases call with
    | feedBytes data => exact phase.feed data
    | reset => exact .header rfl (Nat.zero_le 16)

/-- The invariant holds after any calls, with what follows from it. -/
theorem framer_represents (calls : List Call) :
    Represents (calling.final {} calls) ∧
      FeedsSafely (calling.final {} calls) :=
  ⟨(phase_of_calls calls).represents, (phase_of_calls calls).feedsSafely⟩

/-- Four octets announce a PDU of four, and the buffer grows to sixteen. -/
theorem short_announcement_outgrown :
    let announced := calling.final {} [.feedBytes [0, 0, 0, 4]]
    let after := calling.final {}
      [.feedBytes [0, 0, 0, 4], .feedBytes (List.replicate 12 0)]
    bigEndian (announced.fullPdu.take 4) = 4 ∧
      announced.fullPdu.length = 4 ∧ after.header.commandLength = 4 ∧
      after.fullPdu.length = 16 := by
  decide

end OpenSmsc.SmppPduFramer
