/-
The PDU framer of the server.

`feed_bytes` takes no more octets of a read than its current phase still
needs, and changes phase at most once per call.  What is left of the read is
dropped, so the octets arrive whole only if the reads stop at every phase
boundary.
-/

import Mathlib.Algebra.Ring.Nat
import OpenSmsc.Client.Pdu
import OpenSmsc.Foundation.Machine

namespace OpenSmsc.SmppPduFramer

open Foundation Smpp

inductive State where
  | waitingHeader
  | waitingBody
  | pduComplete
  deriving DecidableEq, Repr

/-- `header` holds the four fields `parse_header` sets together. -/
structure Framer where
  state : State := .waitingHeader
  fullPdu : Octets := []
  header : Header :=
    { commandLength := 0, commandId := 0, commandStatus := 0,
      sequenceNumber := 0 }
  deriving DecidableEq, Repr

def reset (_f : Framer) : Framer := {}

def parseHeader (f : Framer) : Framer :=
  if f.fullPdu.length < 16 then f
  else { f with header := decodeHeader f.fullPdu }

/-- A difference of two `size_t` values. -/
def sizeSub (left right : Nat) : Nat :=
  (left + (2 ^ 64 - right % 2 ^ 64)) % 2 ^ 64

def bytesNeeded (f : Framer) : Nat :=
  match f.state with
  | .waitingHeader => sizeSub 16 f.fullPdu.length
  | .waitingBody => sizeSub f.header.commandLength.toNat f.fullPdu.length
  | .pduComplete => 0

def feedBytes (data : Octets) (f : Framer) : Bool × Framer :=
  if data.length = 0 then (false, f)
  else
    let canRead := min data.length (bytesNeeded f)
    let f := { f with fullPdu := f.fullPdu ++ data.take canRead }
    match f.state with
    | .waitingHeader =>
        if 16 ≤ f.fullPdu.length then
          let f := parseHeader f
          if 16 ≤ f.header.commandLength.toNat then
            (false, { f with state := .waitingBody })
          else (false, f)
        else (false, f)
    | .waitingBody =>
        if f.header.commandLength.toNat ≤ f.fullPdu.length then
          (true, { f with state := .pduComplete })
        else (false, f)
    | .pduComplete => (false, f)

/-- A read as `on_read` treats it; an output is a PDU it dispatches.  The
loop over complete PDUs ends after one round, since `reset` leaves the
complete state. -/
def reading : Machine Framer Octets Octets where
  step f data :=
    let f := (feedBytes data f).2
    if f.state = .pduComplete then (reset f, [f.fullPdu]) else (f, [])

/-! ### Phases -/

theorem sizeSub_eq (left right : Nat) (ordered : right ≤ left)
    (small : left < 2 ^ 64) : sizeSub left right = left - right := by
  unfold sizeSub
  rw [Nat.mod_eq_of_lt (Nat.lt_of_le_of_lt ordered small)]
  omega

/-- The framer between two PDUs or inside a header. -/
structure InHeader (f : Framer) : Prop where
  isState : f.state = .waitingHeader
  short : f.fullPdu.length < 16

/-- The framer behind a header that announces at least itself. -/
structure InBody (f : Framer) : Prop where
  isState : f.state = .waitingBody
  isHeader : f.header = decodeHeader f.fullPdu
  whole : 16 ≤ f.fullPdu.length
  announced : f.fullPdu.length ≤ f.header.commandLength.toNat

/-- The framer behind a header that announces less than itself. -/
structure Stuck (f : Framer) : Prop where
  isState : f.state = .waitingHeader
  whole : f.fullPdu.length = 16
  announced : (decodeHeader f.fullPdu).commandLength.toNat < 16

theorem header_bytesNeeded {f : Framer} (isState : f.state = .waitingHeader)
    (upTo : f.fullPdu.length ≤ 16) :
    bytesNeeded f = 16 - f.fullPdu.length := by
  unfold bytesNeeded
  rw [isState]
  exact sizeSub_eq 16 _ upTo (by decide)

theorem InHeader.bytesNeeded_eq {f : Framer} (inHeader : InHeader f) :
    bytesNeeded f = 16 - f.fullPdu.length :=
  header_bytesNeeded inHeader.isState (Nat.le_of_lt inHeader.short)

theorem InBody.bytesNeeded_eq {f : Framer} (inBody : InBody f) :
    bytesNeeded f =
      f.header.commandLength.toNat - f.fullPdu.length := by
  have small := f.header.commandLength.toNat_lt
  unfold bytesNeeded
  rw [inBody.isState]
  exact sizeSub_eq _ _ inBody.announced (by omega)

theorem Stuck.bytesNeeded_eq {f : Framer} (stuck : Stuck f) :
    bytesNeeded f = 0 := by
  rw [header_bytesNeeded stuck.isState (Nat.le_of_eq stuck.whole),
    stuck.whole]

/-! ### One read -/

theorem feedBytes_nil (f : Framer) : feedBytes [] f = (false, f) := rfl

theorem feedBytes_header {f : Framer} {data buffer : Octets}
    (isState : f.state = .waitingHeader) (nonempty : data ≠ [])
    (isBuffer :
      f.fullPdu ++ data.take (min data.length (bytesNeeded f)) = buffer) :
    feedBytes data f =
      if 16 ≤ buffer.length then
        if 16 ≤ (decodeHeader buffer).commandLength.toNat then
          (false,
            { state := .waitingBody
              fullPdu := buffer
              header := decodeHeader buffer })
        else
          (false, { f with fullPdu := buffer, header := decodeHeader buffer })
      else (false, { f with fullPdu := buffer }) := by
  have someData : data.length ≠ 0 :=
    fun none => nonempty (List.eq_nil_of_length_eq_zero none)
  unfold feedBytes
  dsimp only
  rw [if_neg someData, isBuffer, isState]
  dsimp only
  by_cases whole : 16 ≤ buffer.length
  · have parsed : parseHeader
        { state := .waitingHeader, fullPdu := buffer, header := f.header } =
          { state := .waitingHeader, fullPdu := buffer,
            header := decodeHeader buffer } := by
      unfold parseHeader
      rw [if_neg (Nat.not_lt.mpr whole)]
    rw [if_pos whole, if_pos whole, parsed]
  · rw [if_neg whole, if_neg whole]

theorem feedBytes_body {f : Framer} {data buffer : Octets}
    (isState : f.state = .waitingBody) (nonempty : data ≠ [])
    (isBuffer :
      f.fullPdu ++ data.take (min data.length (bytesNeeded f)) = buffer) :
    feedBytes data f =
      if f.header.commandLength.toNat ≤ buffer.length then
        (true, { f with fullPdu := buffer, state := .pduComplete })
      else (false, { f with fullPdu := buffer }) := by
  have someData : data.length ≠ 0 :=
    fun none => nonempty (List.eq_nil_of_length_eq_zero none)
  unfold feedBytes
  dsimp only
  rw [if_neg someData, isBuffer, isState]

theorem taken_whole {f : Framer} {data : Octets}
    (fits : data.length ≤ bytesNeeded f) :
    f.fullPdu ++ data.take (min data.length (bytesNeeded f)) =
      f.fullPdu ++ data := by
  rw [Nat.min_eq_left fits, List.take_length]

theorem reading_step_waiting {f after : Framer} {data : Octets}
    {answer : Bool} (fed : feedBytes data f = (answer, after))
    (waits : after.state ≠ .pduComplete) :
    reading.step f data = (after, []) := by
  unfold reading
  dsimp only
  rw [fed]
  exact if_neg waits

theorem reading_step_complete {f after : Framer} {data : Octets}
    {answer : Bool} (fed : feedBytes data f = (answer, after))
    (complete : after.state = .pduComplete) :
    reading.step f data = ({}, [after.fullPdu]) := by
  unfold reading
  dsimp only
  rw [fed]
  exact if_pos complete

theorem InHeader.step_partial {f : Framer} (inHeader : InHeader f)
    {data : Octets} (nonempty : data ≠ [])
    (inside : (f.fullPdu ++ data).length < 16) :
    reading.step f data = ({ f with fullPdu := f.fullPdu ++ data }, []) := by
  have fits : data.length ≤ bytesNeeded f := by
    rw [inHeader.bytesNeeded_eq]
    rw [List.length_append] at inside
    omega
  have fed := feedBytes_header inHeader.isState nonempty (taken_whole fits)
  rw [if_neg (Nat.not_le.mpr inside)] at fed
  exact reading_step_waiting fed (by rw [inHeader.isState]; decide)

theorem InHeader.step_whole {f : Framer} (inHeader : InHeader f)
    {data : Octets} (nonempty : data ≠ [])
    (atEnd : (f.fullPdu ++ data).length = 16) :
    reading.step f data =
      (if 16 ≤ (decodeHeader (f.fullPdu ++ data)).commandLength.toNat then
          { state := .waitingBody
            fullPdu := f.fullPdu ++ data
            header := decodeHeader (f.fullPdu ++ data) }
        else
          { f with
            fullPdu := f.fullPdu ++ data
            header := decodeHeader (f.fullPdu ++ data) },
        []) := by
  have fits : data.length ≤ bytesNeeded f := by
    rw [inHeader.bytesNeeded_eq]
    rw [List.length_append] at atEnd
    omega
  have fed := feedBytes_header inHeader.isState nonempty (taken_whole fits)
  rw [if_pos (Nat.le_of_eq atEnd.symm)] at fed
  by_cases announced :
      16 ≤ (decodeHeader (f.fullPdu ++ data)).commandLength.toNat
  · rw [if_pos announced] at fed ⊢
    exact reading_step_waiting fed
      (by decide : State.waitingBody ≠ .pduComplete)
  · rw [if_neg announced] at fed ⊢
    exact reading_step_waiting fed (by rw [inHeader.isState]; decide)

theorem InBody.step_partial {f : Framer} (inBody : InBody f)
    {data : Octets} (nonempty : data ≠ [])
    (inside : (f.fullPdu ++ data).length <
      f.header.commandLength.toNat) :
    reading.step f data = ({ f with fullPdu := f.fullPdu ++ data }, []) := by
  have fits : data.length ≤ bytesNeeded f := by
    rw [inBody.bytesNeeded_eq]
    rw [List.length_append] at inside
    omega
  have fed := feedBytes_body inBody.isState nonempty (taken_whole fits)
  rw [if_neg (Nat.not_le.mpr inside)] at fed
  exact reading_step_waiting fed (by rw [inBody.isState]; decide)

theorem InBody.step_whole {f : Framer} (inBody : InBody f)
    {data : Octets} (nonempty : data ≠ [])
    (atEnd : (f.fullPdu ++ data).length = f.header.commandLength.toNat) :
    reading.step f data = ({}, [f.fullPdu ++ data]) := by
  have fits : data.length ≤ bytesNeeded f := by
    rw [inBody.bytesNeeded_eq]
    rw [List.length_append] at atEnd
    omega
  have fed := feedBytes_body inBody.isState nonempty (taken_whole fits)
  rw [if_pos (Nat.le_of_eq atEnd.symm)] at fed
  exact reading_step_complete fed rfl

theorem Stuck.step {f : Framer} (stuck : Stuck f) (data : Octets) :
    Stuck (reading.step f data).1 := by
  have waits : f.state ≠ .pduComplete := by
    rw [stuck.isState]
    decide
  by_cases empty : data = []
  · rw [empty, reading_step_waiting (feedBytes_nil f) waits]
    exact stuck
  · have nothing :
        f.fullPdu ++ data.take (min data.length (bytesNeeded f)) =
          f.fullPdu := by
      rw [stuck.bytesNeeded_eq, Nat.min_zero, List.take_zero,
        List.append_nil]
    have fed := feedBytes_header stuck.isState empty nothing
    rw [if_pos (Nat.le_of_eq stuck.whole.symm),
      if_neg (Nat.not_le.mpr stuck.announced)] at fed
    rw [reading_step_waiting fed waits]
    exact ⟨stuck.isState, stuck.whole, stuck.announced⟩

theorem Stuck.run {f : Framer} (stuck : Stuck f) (reads : List Octets) :
    (reading.final f reads).fullPdu.length = 16 := by
  have atEnd := reading.invariant_rule Stuck f stuck
    (fun _ data before => before.step data) reads
  exact atEnd.whole

/-! ### Octets lost -/

def lost (f : Framer) : List Octets → Nat
  | [] => 0
  | data :: later =>
      (data.length - min data.length (bytesNeeded f)) +
        lost (reading.step f data).1 later

theorem feedBytes_fullPdu (data : Octets) (f : Framer) :
    (feedBytes data f).2.fullPdu =
      f.fullPdu ++ data.take (min data.length (bytesNeeded f)) := by
  unfold feedBytes parseHeader
  dsimp only
  split
  · rename_i empty
    rw [List.eq_nil_of_length_eq_zero empty, List.take_nil,
      List.append_nil]
  · split
    · split
      · split <;> split <;> rfl
      · rfl
    · split <;> rfl
    · rfl

theorem step_conserves (f : Framer) (data : Octets) :
    (reading.step f data).2.flatten.length +
          (reading.step f data).1.fullPdu.length +
        (data.length - min data.length (bytesNeeded f)) =
      f.fullPdu.length + data.length := by
  have length := congrArg List.length (feedBytes_fullPdu data f)
  rw [List.length_append, List.length_take] at length
  unfold reading
  dsimp only
  split
  · simp only [List.flatten_cons, List.flatten_nil, List.append_nil, reset,
      List.length_nil]
    omega
  · simp only [List.flatten_nil, List.length_nil]
    omega

theorem run_conserves (f : Framer) (reads : List Octets) :
    (reading.emitted f reads).flatten.length +
          (reading.final f reads).fullPdu.length + lost f reads =
      f.fullPdu.length + reads.flatten.length := by
  induction reads generalizing f with
  | nil => simp [Machine.emitted, Machine.history, Machine.final, lost]
  | cons data later ih =>
      have first := step_conserves f data
      have rest := ih (reading.step f data).1
      rw [Machine.emitted_cons, List.flatten_append, List.length_append,
        List.flatten_cons, List.length_append]
      unfold Machine.final lost
      omega

/-! ### Reads that stop at every boundary -/

/-- With `buffer` read of the first header, the reads divide into the rest of
that header and a body each, and no body is empty. -/
inductive Aligned : Octets → List Octets → List Octets → Prop
  | nil : Aligned [] [] []
  | cons {buffer pdu : Octets} {pdus headerReads bodyReads reads : List Octets}
      (isHeader : buffer ++ headerReads.flatten = pdu.take 16)
      (isBody : bodyReads.flatten = pdu.drop 16)
      (hasBody : 16 < pdu.length)
      (rest : Aligned [] pdus reads) :
      Aligned buffer (pdu :: pdus) (headerReads ++ (bodyReads ++ reads))

theorem Aligned.prepend {buffer data : Octets} {pdus reads : List Octets}
    (nonempty : data ≠ []) (aligned : Aligned (buffer ++ data) pdus reads) :
    Aligned buffer pdus (data :: reads) := by
  generalize isBuffer : buffer ++ data = longer at aligned
  cases aligned with
  | nil => exact absurd (List.append_eq_nil_iff.mp isBuffer).2 nonempty
  | @cons _ pdu pdus headerReads bodyReads reads isHeader isBody hasBody
      rest =>
      refine @Aligned.cons buffer pdu pdus (data :: headerReads) bodyReads
        reads ?_ isBody hasBody rest
      rw [List.flatten_cons, ← List.append_assoc, isBuffer, isHeader]

def BodyAligned (f : Framer) (reads : List Octets) : Prop :=
  ∃ bodyReads later pdu pdus,
    reads = bodyReads ++ later ∧
      reading.emitted f reads = pdu :: pdus ∧
      f.fullPdu ++ bodyReads.flatten = pdu ∧
      f.fullPdu.length < pdu.length ∧ Aligned [] pdus later

theorem inHeader_fresh : InHeader {} :=
  ⟨rfl, by decide⟩

theorem InHeader.extend {f : Framer} (inHeader : InHeader f)
    {data : Octets} (inside : (f.fullPdu ++ data).length < 16) :
    InHeader { f with fullPdu := f.fullPdu ++ data } :=
  ⟨inHeader.isState, inside⟩

theorem inBody_start {buffer : Octets} (whole : buffer.length = 16)
    (announced : 16 ≤ (decodeHeader buffer).commandLength.toNat) :
    InBody
      { state := .waitingBody
        fullPdu := buffer
        header := decodeHeader buffer } :=
  ⟨rfl, rfl, Nat.le_of_eq whole.symm, by rw [whole]; exact announced⟩

theorem InBody.extend {f : Framer} (inBody : InBody f) {data : Octets}
    (inside : (f.fullPdu ++ data).length ≤ f.header.commandLength.toNat) :
    InBody { f with fullPdu := f.fullPdu ++ data } := by
  refine ⟨inBody.isState, ?_, ?_, inside⟩
  · rw [decodeHeader_append _ _ inBody.whole]
    exact inBody.isHeader
  · have whole := inBody.whole
    rw [List.length_append]
    omega

structure CutAt (f : Framer) (reads : List Octets) : Prop where
  ofHeader : InHeader f →
    Aligned f.fullPdu (reading.emitted f reads) reads
  ofBody : InBody f → BodyAligned f reads

theorem InHeader.announces {f : Framer} (inHeader : InHeader f)
    {data : Octets} (someData : data ≠ [])
    (atEnd : (f.fullPdu ++ data).length = 16) {later : List Octets}
    (nothingLeft : (reading.final f (data :: later)).fullPdu = []) :
    16 ≤ (decodeHeader (f.fullPdu ++ data)).commandLength.toNat := by
  by_contra announced
  unfold Machine.final at nothingLeft
  rw [inHeader.step_whole someData atEnd, if_neg announced] at nothingLeft
  have stuck : Stuck
      { f with
        fullPdu := f.fullPdu ++ data
        header := decodeHeader (f.fullPdu ++ data) } :=
    ⟨inHeader.isState, atEnd, Nat.lt_of_not_le announced⟩
  have length := stuck.run later
  rw [nothingLeft] at length
  contradiction

theorem InHeader.aligned {f : Framer} (inHeader : InHeader f)
    {data : Octets} {later : List Octets} (someData : data ≠ [])
    (fits : data.length ≤ bytesNeeded f)
    (nothingLeft : (reading.final f (data :: later)).fullPdu = [])
    (inner : CutAt (reading.step f data).1 later) :
    Aligned f.fullPdu (reading.emitted f (data :: later))
      (data :: later) := by
  rw [inHeader.bytesNeeded_eq] at fits
  have short := inHeader.short
  have upTo : (f.fullPdu ++ data).length ≤ 16 := by
    rw [List.length_append]
    omega
  rw [Machine.emitted_cons]
  rcases Nat.lt_or_eq_of_le upTo with inside | atEnd
  · rw [inHeader.step_partial someData inside] at inner ⊢
    exact (inner.ofHeader (inHeader.extend inside)).prepend someData
  · have announced := inHeader.announces someData atEnd nothingLeft
    rw [inHeader.step_whole someData atEnd, if_pos announced] at inner ⊢
    obtain ⟨bodyReads, rest, pdu, pdus, isReads, emitted, isPdu, hasBody,
      aligned⟩ := inner.ofBody (inBody_start atEnd announced)
    rw [emitted, isReads]
    refine @Aligned.cons f.fullPdu pdu pdus [data] bodyReads rest ?_ ?_ ?_
      aligned
    · rw [← isPdu, List.take_left' atEnd]
      simp
    · rw [← isPdu, List.drop_left' atEnd]
    · rw [← atEnd]
      exact hasBody

theorem InBody.aligned {f : Framer} (inBody : InBody f) {data : Octets}
    {later : List Octets} (someData : data ≠ [])
    (fits : data.length ≤ bytesNeeded f)
    (inner : CutAt (reading.step f data).1 later) :
    BodyAligned f (data :: later) := by
  rw [inBody.bytesNeeded_eq] at fits
  have announced := inBody.announced
  have positive := List.length_pos_iff.mpr someData
  have upTo : (f.fullPdu ++ data).length ≤
      f.header.commandLength.toNat := by
    rw [List.length_append]
    omega
  unfold BodyAligned
  rw [Machine.emitted_cons]
  rcases Nat.lt_or_eq_of_le upTo with inside | atEnd
  · rw [inBody.step_partial someData inside] at inner ⊢
    obtain ⟨bodyReads, rest, pdu, pdus, isReads, emitted, isPdu, more,
      aligned⟩ := inner.ofBody (inBody.extend upTo)
    refine ⟨data :: bodyReads, rest, pdu, pdus, ?_, emitted, ?_, ?_,
      aligned⟩
    · rw [isReads]
      rfl
    · rw [List.flatten_cons, ← List.append_assoc]
      exact isPdu
    · have longer : f.fullPdu.length ≤ (f.fullPdu ++ data).length := by
        rw [List.length_append]
        omega
      exact Nat.lt_of_le_of_lt longer more
  · rw [inBody.step_whole someData atEnd] at inner ⊢
    refine ⟨[data], later, f.fullPdu ++ data, _, rfl, rfl, ?_, ?_,
      inner.ofHeader inHeader_fresh⟩
    · simp
    · rw [List.length_append]
      omega

/-- A run that loses no octet and ends with none buffered was cut at every
boundary, by induction on the reads: none is longer than what its phase
needs. -/
theorem cutAt_of_lossless (reads : List Octets)
    (nonempty : ∀ data ∈ reads, data ≠ []) (f : Framer)
    (lossless : lost f reads = 0)
    (nothingLeft : (reading.final f reads).fullPdu = []) :
    CutAt f reads := by
  induction reads generalizing f with
  | nil =>
      change f.fullPdu = [] at nothingLeft
      refine ⟨?_, ?_⟩
      · intro _
        rw [nothingLeft]
        exact .nil
      · intro inBody
        have whole := inBody.whole
        rw [nothingLeft] at whole
        contradiction
  | cons data later ih =>
      rw [List.forall_mem_cons] at nonempty
      obtain ⟨someData, laterNonempty⟩ := nonempty
      unfold lost at lossless
      rw [Nat.add_eq_zero_iff] at lossless
      obtain ⟨taken, laterLossless⟩ := lossless
      have fits : data.length ≤ bytesNeeded f := by omega
      have inner := ih laterNonempty (reading.step f data).1 laterLossless
        nothingLeft
      exact
        { ofHeader := fun inHeader =>
            inHeader.aligned someData fits nothingLeft inner
          ofBody := fun inBody => inBody.aligned someData fits inner }

theorem eq_nil_of_flatten {reads : List Octets}
    (nonempty : ∀ data ∈ reads, data ≠ []) (empty : reads.flatten = []) :
    reads = [] := by
  cases reads with
  | nil => rfl
  | cons data later =>
      have first := (List.append_eq_nil_iff.mp empty).1
      exact absurd first (nonempty data (by simp))

theorem InHeader.run {f : Framer} (inHeader : InHeader f)
    (reads : List Octets) (nonempty : ∀ data ∈ reads, data ≠ [])
    (atEnd : (f.fullPdu ++ reads.flatten).length = 16)
    (announced : 16 ≤
      (decodeHeader (f.fullPdu ++ reads.flatten)).commandLength.toNat) :
    reading.emitted f reads = [] ∧
      reading.final f reads =
        { state := .waitingBody
          fullPdu := f.fullPdu ++ reads.flatten
          header := decodeHeader (f.fullPdu ++ reads.flatten) } := by
  induction reads generalizing f with
  | nil =>
      have short := inHeader.short
      rw [List.flatten_nil, List.append_nil] at atEnd
      omega
  | cons data later ih =>
      rw [List.forall_mem_cons] at nonempty
      obtain ⟨someData, laterNonempty⟩ := nonempty
      rw [List.flatten_cons, ← List.append_assoc] at atEnd announced ⊢
      rw [Machine.emitted_cons]
      unfold Machine.final
      by_cases last : later.flatten = []
      · rw [last, List.append_nil] at atEnd announced ⊢
        rw [eq_nil_of_flatten laterNonempty last,
          inHeader.step_whole someData atEnd, if_pos announced]
        exact ⟨rfl, rfl⟩
      · have inside : (f.fullPdu ++ data).length < 16 := by
          have more := List.length_pos_iff.mpr last
          rw [List.length_append] at atEnd
          omega
        rw [inHeader.step_partial someData inside]
        exact ih (inHeader.extend inside) laterNonempty atEnd announced

theorem InBody.run {f : Framer} (inBody : InBody f)
    (reads : List Octets) (nonempty : ∀ data ∈ reads, data ≠ [])
    (more : f.fullPdu.length < f.header.commandLength.toNat)
    (atEnd : (f.fullPdu ++ reads.flatten).length =
      f.header.commandLength.toNat) :
    reading.emitted f reads = [f.fullPdu ++ reads.flatten] ∧
      reading.final f reads = {} := by
  induction reads generalizing f with
  | nil =>
      rw [List.flatten_nil, List.append_nil] at atEnd
      omega
  | cons data later ih =>
      rw [List.forall_mem_cons] at nonempty
      obtain ⟨someData, laterNonempty⟩ := nonempty
      rw [List.flatten_cons, ← List.append_assoc] at atEnd ⊢
      rw [Machine.emitted_cons]
      unfold Machine.final
      by_cases last : later.flatten = []
      · rw [last, List.append_nil] at atEnd ⊢
        rw [eq_nil_of_flatten laterNonempty last,
          inBody.step_whole someData atEnd]
        exact ⟨rfl, rfl⟩
      · have inside : (f.fullPdu ++ data).length <
            f.header.commandLength.toNat := by
          have positive := List.length_pos_iff.mpr last
          rw [List.length_append] at atEnd
          omega
        rw [inBody.step_partial someData inside]
        exact ih (inBody.extend (Nat.le_of_lt inside)) laterNonempty inside
          atEnd

def IsPdu (pdu : Octets) : Prop :=
  16 ≤ pdu.length ∧ (decodeHeader pdu).commandLength.toNat = pdu.length

instance (pdu : Octets) : Decidable (IsPdu pdu) :=
  inferInstanceAs (Decidable (_ ∧ _))

theorem InHeader.reads_pdu {f : Framer} (inHeader : InHeader f)
    {pdu : Octets} {headerReads bodyReads : List Octets}
    (isHeader : f.fullPdu ++ headerReads.flatten = pdu.take 16)
    (isBody : bodyReads.flatten = pdu.drop 16) (hasBody : 16 < pdu.length)
    (valid : IsPdu pdu) (headerNonempty : ∀ data ∈ headerReads, data ≠ [])
    (bodyNonempty : ∀ data ∈ bodyReads, data ≠ []) :
    reading.emitted f (headerReads ++ bodyReads) = [pdu] ∧
      reading.final f (headerReads ++ bodyReads) = {} := by
  have frontLength : (pdu.take 16).length = 16 := by
    rw [List.length_take]
    omega
  have announced :
      (decodeHeader (pdu.take 16)).commandLength.toNat = pdu.length := by
    have whole := decodeHeader_append (pdu.take 16) (pdu.drop 16)
      (Nat.le_of_eq frontLength.symm)
    rw [List.take_append_drop] at whole
    rw [← whole]
    exact valid.2
  have upTo : 16 ≤ (decodeHeader (pdu.take 16)).commandLength.toNat := by
    rw [announced]
    exact Nat.le_of_lt hasBody
  obtain ⟨silent, inBodyNow⟩ := inHeader.run headerReads headerNonempty
    (by rw [isHeader, frontLength]) (by rw [isHeader]; exact upTo)
  rw [isHeader] at inBodyNow
  have whole : pdu.take 16 ++ bodyReads.flatten = pdu := by
    rw [isBody, List.take_append_drop]
  obtain ⟨dispatched, backAtStart⟩ :=
    (inBody_start frontLength upTo).run bodyReads bodyNonempty
      (by dsimp only; rw [frontLength, announced]; exact hasBody)
      (by dsimp only; rw [whole, announced])
  dsimp only at dispatched
  rw [whole] at dispatched
  rw [Machine.emitted_append, Machine.final_append, silent, inBodyNow,
    dispatched, backAtStart]
  exact ⟨rfl, rfl⟩

theorem emitted_of_aligned {buffer : Octets} {pdus reads : List Octets}
    (aligned : Aligned buffer pdus reads) (valid : ∀ pdu ∈ pdus, IsPdu pdu)
    (nonempty : ∀ data ∈ reads, data ≠ []) (f : Framer)
    (inHeader : InHeader f) (isBuffer : f.fullPdu = buffer) :
    reading.emitted f reads = pdus := by
  induction aligned generalizing f with
  | nil => rfl
  | @cons buffer pdu pdus headerReads bodyReads reads isHeader isBody hasBody
      rest ih =>
      rw [List.forall_mem_cons] at valid
      rw [List.forall_mem_append, List.forall_mem_append] at nonempty
      obtain ⟨headerNonempty, bodyNonempty, restNonempty⟩ := nonempty
      rw [← isBuffer] at isHeader
      obtain ⟨dispatched, backAtStart⟩ := inHeader.reads_pdu isHeader isBody
        hasBody valid.1 headerNonempty bodyNonempty
      rw [← List.append_assoc, Machine.emitted_append, dispatched,
        backAtStart, ih valid.2 restNonempty {} inHeader_fresh rfl]
      rfl

/-- A fresh framer dispatches exactly the PDUs whose octets it reads, in order,
if and only if no read crosses the end of a header or of a PDU and no PDU is a
bare header. -/
theorem reading_emitted_iff (pdus reads : List Octets)
    (valid : ∀ pdu ∈ pdus, IsPdu pdu)
    (nonempty : ∀ data ∈ reads, data ≠ [])
    (division : reads.flatten = pdus.flatten) :
    reading.emitted {} reads = pdus ↔ Aligned [] pdus reads := by
  constructor
  · intro emitted
    have conserved := run_conserves {} reads
    rw [emitted, division] at conserved
    have start : ({} : Framer).fullPdu.length = 0 := rfl
    have lossless : lost {} reads = 0 := by omega
    have nothingLeft : (reading.final {} reads).fullPdu = [] := by
      refine List.eq_nil_of_length_eq_zero ?_
      omega
    have aligned := (cutAt_of_lossless reads nonempty {} lossless
      nothingLeft).ofHeader inHeader_fresh
    rw [emitted] at aligned
    exact aligned
  · intro aligned
    exact emitted_of_aligned aligned valid nonempty {} inHeader_fresh rfl

/-! ### Driven by the announced need -/

/-- `feed_bytes` alone, without the reset of `on_read`; an output is what the
call returns. -/
def feeding : Machine Framer Octets Bool where
  step f data := ((feedBytes data f).2, [(feedBytes data f).1])

/-- The chunks are non-empty, and none is longer than `bytes_needed` when it
is fed. -/
def Driven (f : Framer) : List Octets → Prop
  | [] => True
  | data :: later =>
      data ≠ [] ∧ data.length ≤ bytesNeeded f ∧
        Driven (feedBytes data f).2 later

instance decidableDriven (f : Framer) :
    (chunks : List Octets) → Decidable (Driven f chunks)
  | [] => .isTrue True.intro
  | data :: later =>
      have : Decidable (Driven (feedBytes data f).2 later) :=
        decidableDriven (feedBytes data f).2 later
      inferInstanceAs (Decidable (_ ∧ _ ∧ _))

theorem Driven.append {f : Framer} {first second : List Octets}
    (driven : Driven f (first ++ second)) :
    Driven f first ∧ Driven (feeding.final f first) second := by
  induction first generalizing f with
  | nil => exact ⟨True.intro, driven⟩
  | cons data later ih =>
      obtain ⟨nonempty, fits, rest⟩ := driven
      obtain ⟨laterDriven, secondDriven⟩ := ih rest
      exact ⟨⟨nonempty, fits, laterDriven⟩, secondDriven⟩

/-- The framer that has been fed `fed`, the first octets of `pdu`.  The length
is only compared behind the header, so a PDU that is all header stays in the
body phase. -/
def progress (pdu fed : Octets) : Framer :=
  if fed.length < 16 then { fullPdu := fed }
  else
    { state :=
        if fed.length = pdu.length ∧ 16 < pdu.length then .pduComplete
        else .waitingBody
      fullPdu := fed
      header := decodeHeader pdu }

theorem progress_fullPdu (pdu fed : Octets) :
    (progress pdu fed).fullPdu = fed := by
  unfold progress
  split
  · rfl
  · rfl

theorem progress_complete_iff (pdu fed : Octets) :
    (progress pdu fed).state = .pduComplete ↔
      fed.length = pdu.length ∧ 16 < pdu.length := by
  unfold progress
  split
  · next short =>
      constructor
      · intro complete
        contradiction
      · intro atEnd
        omega
  · dsimp only
    split
    · next atEnd => exact iff_of_true rfl atEnd
    · next inside => exact iff_of_false (by decide) inside

theorem progress_inHeader (pdu : Octets) {fed : Octets}
    (short : fed.length < 16) : InHeader (progress pdu fed) := by
  refine ⟨?_, ?_⟩
  · unfold progress
    rw [if_pos short]
  · rw [progress_fullPdu]
    exact short

theorem progress_body {pdu fed : Octets} (whole : 16 ≤ fed.length)
    (more : fed.length < pdu.length) :
    progress pdu fed =
      { state := .waitingBody
        fullPdu := fed
        header := decodeHeader pdu } := by
  unfold progress
  rw [if_neg (Nat.not_lt.mpr whole),
    if_neg (fun atEnd => Nat.ne_of_lt more atEnd.1)]

theorem decodeHeader_front {pdu fed : Octets} (front : fed <+: pdu)
    (whole : 16 ≤ fed.length) : decodeHeader fed = decodeHeader pdu := by
  obtain ⟨rest, isPdu⟩ := front
  rw [← isPdu]
  exact (decodeHeader_append fed rest whole).symm

/-- A chunk that fits the header: the sixteenth octet starts the body phase,
also when no body is announced. -/
theorem feedBytes_progress_header {pdu fed data : Octets} (valid : IsPdu pdu)
    (front : fed ++ data <+: pdu) (nonempty : data ≠ [])
    (short : fed.length < 16)
    (fits : data.length ≤ bytesNeeded (progress pdu fed)) :
    feedBytes data (progress pdu fed) =
      (false, progress pdu (fed ++ data)) := by
  have inHeader := progress_inHeader pdu short
  have isFed := feedBytes_header inHeader.isState nonempty (taken_whole fits)
  rw [progress_fullPdu] at isFed
  rw [inHeader.bytesNeeded_eq, progress_fullPdu] at fits
  have upTo : (fed ++ data).length ≤ 16 := by
    rw [List.length_append]
    omega
  rw [isFed]
  rcases Nat.lt_or_eq_of_le upTo with inside | atEnd
  · rw [if_neg (Nat.not_le.mpr inside)]
    unfold progress
    rw [if_pos short, if_pos inside]
  · have whole : 16 ≤ (fed ++ data).length := Nat.le_of_eq atEnd.symm
    have isHeader := decodeHeader_front front whole
    have announced : 16 ≤ (decodeHeader pdu).commandLength.toNat := by
      rw [valid.2]
      exact valid.1
    rw [if_pos whole, isHeader, if_pos announced]
    unfold progress
    rw [if_neg (Nat.not_lt.mpr whole), if_neg (by omega)]

theorem feedBytes_progress_body {pdu fed data : Octets} (valid : IsPdu pdu)
    (front : fed ++ data <+: pdu) (nonempty : data ≠ [])
    (whole : 16 ≤ fed.length) :
    feedBytes data (progress pdu fed) =
      (decide ((fed ++ data).length = pdu.length),
        progress pdu (fed ++ data)) := by
  have upTo := front.length_le
  have positive := List.length_pos_iff.mpr nonempty
  rw [List.length_append] at upTo
  have more : fed.length < pdu.length := by omega
  have isBody := progress_body whole more
  have fedFront : fed <+: pdu := (List.prefix_append fed data).trans front
  have inBody : InBody (progress pdu fed) := by
    rw [isBody]
    refine ⟨rfl, (decodeHeader_front fedFront whole).symm, whole, ?_⟩
    exact Nat.le_of_lt (by rw [valid.2]; exact more)
  have fits : data.length ≤ bytesNeeded (progress pdu fed) := by
    rw [inBody.bytesNeeded_eq, isBody]
    dsimp only
    rw [valid.2]
    omega
  have isFed := feedBytes_body inBody.isState nonempty (taken_whole fits)
  rw [progress_fullPdu] at isFed
  rw [isFed, isBody]
  dsimp only
  rw [valid.2]
  have wholeNow : 16 ≤ (fed ++ data).length := by
    rw [List.length_append]
    omega
  by_cases atEnd : (fed ++ data).length = pdu.length
  · rw [if_pos (Nat.le_of_eq atEnd.symm), decide_eq_true atEnd]
    unfold progress
    rw [if_neg (Nat.not_lt.mpr wholeNow), if_pos ⟨atEnd, by omega⟩]
  · have inside : (fed ++ data).length < pdu.length :=
      Nat.lt_of_le_of_ne front.length_le atEnd
    rw [if_neg (Nat.not_le.mpr inside), decide_eq_false atEnd,
      progress_body wholeNow inside]

theorem feedBytes_progress {pdu fed data : Octets} (valid : IsPdu pdu)
    (front : fed ++ data <+: pdu) (nonempty : data ≠ [])
    (fits : data.length ≤ bytesNeeded (progress pdu fed)) :
    feedBytes data (progress pdu fed) =
      (decide ((fed ++ data).length = pdu.length ∧ 16 < pdu.length),
        progress pdu (fed ++ data)) := by
  by_cases short : fed.length < 16
  · have unfinished :
        ¬((fed ++ data).length = pdu.length ∧ 16 < pdu.length) := by
      have needed := (progress_inHeader pdu short).bytesNeeded_eq
      rw [progress_fullPdu] at needed
      rw [List.length_append]
      omega
    rw [decide_eq_false unfinished]
    exact feedBytes_progress_header valid front nonempty short fits
  · have whole : 16 ≤ fed.length := Nat.not_lt.mp short
    have long : 16 < pdu.length := by
      have upTo := front.length_le
      have positive := List.length_pos_iff.mpr nonempty
      rw [List.length_append] at upTo
      omega
    rw [feedBytes_progress_body valid front nonempty whole]
    simp only [long, and_true]

theorem feeding_final {pdu : Octets} (valid : IsPdu pdu)
    (chunks : List Octets) (fed : Octets)
    (front : fed ++ chunks.flatten <+: pdu)
    (driven : Driven (progress pdu fed) chunks) :
    feeding.final (progress pdu fed) chunks =
      progress pdu (fed ++ chunks.flatten) := by
  induction chunks generalizing fed with
  | nil =>
      rw [List.flatten_nil, List.append_nil]
      rfl
  | cons data later ih =>
      obtain ⟨nonempty, fits, laterDriven⟩ := driven
      rw [List.flatten_cons, ← List.append_assoc] at front ⊢
      have dataFront : fed ++ data <+: pdu :=
        (List.prefix_append _ later.flatten).trans front
      have isFed := feedBytes_progress valid dataFront nonempty fits
      rw [isFed] at laterDriven
      unfold Machine.final
      dsimp only [feeding]
      rw [isFed]
      exact ih (fed ++ data) front laterDriven

theorem feeding_returns_false {pdu : Octets} (valid : IsPdu pdu)
    (chunks : List Octets) (fed : Octets)
    (front : fed ++ chunks.flatten <+: pdu)
    (inside : (fed ++ chunks.flatten).length < pdu.length)
    (driven : Driven (progress pdu fed) chunks) :
    ∀ answer ∈ feeding.emitted (progress pdu fed) chunks, answer = false := by
  induction chunks generalizing fed with
  | nil => nofun
  | cons data later ih =>
      obtain ⟨nonempty, fits, laterDriven⟩ := driven
      rw [List.flatten_cons, ← List.append_assoc] at front inside
      have dataFront : fed ++ data <+: pdu :=
        (List.prefix_append _ later.flatten).trans front
      have isFed := feedBytes_progress valid dataFront nonempty fits
      have unfinished :
          ¬((fed ++ data).length = pdu.length ∧ 16 < pdu.length) := by
        rw [List.length_append] at inside
        omega
      rw [decide_eq_false unfinished] at isFed
      rw [isFed] at laterDriven
      rw [Machine.emitted_cons]
      dsimp only [feeding]
      rw [isFed]
      exact List.forall_mem_cons.mpr
        ⟨rfl, ih (fed ++ data) front inside laterDriven⟩

structure CompletesWith (f : Framer) (pdu : Octets) (chunks : List Octets) :
    Prop where
  complete : (feeding.final (reset f) chunks).state = .pduComplete
  fullPdu : (feeding.final (reset f) chunks).fullPdu = pdu
  returns : ∃ earlier last, chunks = earlier ++ [last] ∧
    (feedBytes last (feeding.final (reset f) earlier)).1 = true
  notBefore : ∀ earlier later, chunks = earlier ++ later → later ≠ [] →
    (feeding.final (reset f) earlier).state ≠ .pduComplete ∧
      ∀ answer ∈ feeding.emitted (reset f) earlier, answer = false

section FreshlyReset

variable {f : Framer} {pdu : Octets} {chunks : List Octets}

theorem Driven.progress (valid : IsPdu pdu)
    (driven : Driven (reset f) chunks) (division : chunks.flatten <+: pdu) :
    feeding.final (reset f) chunks =
      SmppPduFramer.progress pdu chunks.flatten := by
  exact feeding_final valid chunks [] division driven

theorem Driven.unfinished (valid : IsPdu pdu) {earlier later : List Octets}
    (driven : Driven (reset f) (earlier ++ later))
    (division : (earlier ++ later).flatten = pdu) (more : later ≠ []) :
    (feeding.final (reset f) earlier).state ≠ .pduComplete ∧
      ∀ answer ∈ feeding.emitted (reset f) earlier, answer = false := by
  obtain ⟨earlierDriven, laterDriven⟩ := driven.append
  rw [List.flatten_append] at division
  have front : earlier.flatten <+: pdu := ⟨later.flatten, division⟩
  have inside : earlier.flatten.length < pdu.length := by
    cases later with
    | nil => contradiction
    | cons data rest =>
        have positive := List.length_pos_iff.mpr laterDriven.1
        rw [← division, List.length_append, List.flatten_cons,
          List.length_append]
        omega
  refine ⟨?_, feeding_returns_false valid earlier [] front inside
    earlierDriven⟩
  rw [earlierDriven.progress valid front, Ne, progress_complete_iff]
  omega

theorem Driven.returns (valid : IsPdu pdu)
    (driven : Driven (reset f) chunks) (division : chunks.flatten = pdu)
    (hasBody : 16 < pdu.length) :
    ∃ earlier last, chunks = earlier ++ [last] ∧
      (feedBytes last (feeding.final (reset f) earlier)).1 = true := by
  rcases List.eq_nil_or_concat' chunks with none | ⟨earlier, last, isChunks⟩
  · rw [none] at division
    rw [← division] at hasBody
    contradiction
  · refine ⟨earlier, last, isChunks, ?_⟩
    rw [isChunks] at driven division
    obtain ⟨earlierDriven, lastDriven⟩ := driven.append
    rw [List.flatten_append, List.flatten_singleton] at division
    have front : earlier.flatten <+: pdu := ⟨last, division⟩
    rw [earlierDriven.progress valid front] at lastDriven ⊢
    obtain ⟨nonempty, fits, _⟩ := lastDriven
    have whole : earlier.flatten ++ last <+: pdu := by
      rw [division]
    rw [feedBytes_progress valid whole nonempty fits, division]
    exact decide_eq_true ⟨rfl, hasBody⟩

/-- Chunks that follow `bytes_needed` complete a PDU with its last octet if
and only if it has a body. -/
theorem driven_completes_iff (f : Framer) (pdu : Octets)
    (chunks : List Octets) (valid : IsPdu pdu)
    (driven : Driven (reset f) chunks) (division : chunks.flatten = pdu) :
    CompletesWith f pdu chunks ↔ 16 < pdu.length := by
  have atEnd : feeding.final (reset f) chunks =
      SmppPduFramer.progress pdu pdu := by
    have whole : chunks.flatten <+: pdu := by
      rw [division]
    rw [driven.progress valid whole, division]
  constructor
  · intro completes
    have complete := completes.complete
    rw [atEnd, progress_complete_iff] at complete
    exact complete.2
  · intro hasBody
    refine
      { complete := ?_
        fullPdu := ?_
        returns := driven.returns valid division hasBody
        notBefore := ?_ }
    · rw [atEnd, progress_complete_iff]
      exact ⟨rfl, hasBody⟩
    · rw [atEnd, progress_fullPdu]
    · intro earlier later isChunks more
      rw [isChunks] at driven division
      exact driven.unfinished valid division more

end FreshlyReset

theorem driven_completes_split :
    let pdu := writeHeader
        { commandLength := 18
          commandId := 0x00000002
          commandStatus := 0
          sequenceNumber := 1 } ++
      [0, 0]
    CompletesWith {} pdu
      [pdu.take 5, (pdu.drop 5).take 11, [0], [0]] :=
  (driven_completes_iff {} _ _ (by decide) (by decide) (by decide)).mpr
    (by decide)

/-- An ENQUIRE_LINK of sixteen octets is wholly fed and not complete, and the
framer asks for nothing more. -/
theorem driven_header_only :
    let pdu := writeHeader
      { commandLength := 16
        commandId := 0x00000015
        commandStatus := 0
        sequenceNumber := 1 }
    IsPdu pdu ∧ Driven (reset {}) [pdu] ∧ [pdu].flatten = pdu ∧
      (feedBytes pdu (reset {})).1 = false ∧
      (feedBytes pdu (reset {})).2.state = .waitingBody ∧
      bytesNeeded (feedBytes pdu (reset {})).2 = 0 := by
  decide

end OpenSmsc.SmppPduFramer
