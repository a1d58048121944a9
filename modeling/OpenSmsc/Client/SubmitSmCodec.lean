/-
The submit_sm body format and the parser that reads it.

`SubmitSm.layout` writes a record in the field order of SMPP 3.4 §4.4.1.  The
parser is shown to follow a reader of that format, from which both round trips
and the exact condition for relaying a message unchanged are obtained.
-/

import OpenSmsc.Client.Pdu

namespace OpenSmsc.Smpp

open Foundation Reader

/-! ### The format -/

def SubmitSm.layout (sm : SubmitSm) : Octets :=
  sm.serviceType ++ 0 :: sm.srcTon :: sm.srcNpi ::
    (sm.srcAddr ++ 0 :: sm.dstTon :: sm.dstNpi ::
      (sm.dstAddr ++ 0 :: sm.esmClass :: sm.protocolId :: sm.priorityFlag ::
        (sm.scheduleDeliveryTime ++ 0 ::
          (sm.validityPeriod ++ 0 ::
            sm.registeredDelivery :: sm.replaceIfPresent ::
            sm.dataCoding :: sm.smDefaultMsgId ::
            UInt8.ofNat sm.shortMessage.length :: sm.shortMessage))))

/-- A C-octet string that fits the reader together with its terminator. -/
def TerminatedCstr (value : Octets) : Prop :=
  0 ∉ value ∧ value.length ≤ 64

instance (value : Octets) : Decidable (TerminatedCstr value) :=
  inferInstanceAs (Decidable (_ ∧ _))

structure SubmitSm.Encodable (sm : SubmitSm) : Prop where
  serviceType : TerminatedCstr sm.serviceType
  srcAddr : TerminatedCstr sm.srcAddr
  dstAddr : TerminatedCstr sm.dstAddr
  scheduleDeliveryTime : TerminatedCstr sm.scheduleDeliveryTime
  validityPeriod : TerminatedCstr sm.validityPeriod
  shortMessage : sm.shortMessage.length ≤ 255

/-! ### Readers of the format -/

def cstr : Reader UInt8 Octets := field 0 65

def octet : Reader UInt8 UInt8 := single 0

def counted : Reader UInt8 Octets
  | [] => ([], [])
  | smLen :: rest => block smLen.toNat rest

def readSubmitSm : Reader UInt8 SubmitSm := do
  let serviceType ← cstr
  let srcTon ← octet
  let srcNpi ← octet
  let srcAddr ← cstr
  let dstTon ← octet
  let dstNpi ← octet
  let dstAddr ← cstr
  let esmClass ← octet
  let protocolId ← octet
  let priorityFlag ← octet
  let scheduleDeliveryTime ← cstr
  let validityPeriod ← cstr
  let registeredDelivery ← octet
  let replaceIfPresent ← octet
  let dataCoding ← octet
  let smDefaultMsgId ← octet
  let shortMessage ← counted
  pure
    { serviceType, srcTon, srcNpi, srcAddr, dstTon, dstNpi, dstAddr,
      esmClass, protocolId, priorityFlag, scheduleDeliveryTime,
      validityPeriod, registeredDelivery, replaceIfPresent, dataCoding,
      smDefaultMsgId, shortMessage }

/-! ### The parser follows the reader -/

private theorem readCstrLoop_tracks (buf : Octets) (room : Nat)
    (s : Octets) (off : Nat) :
    (readCstrLoop buf room s off).1 =
        s ++ (field 0 room (buf.drop off)).1 ∧
      buf.drop (readCstrLoop buf room s off).2 =
        (field 0 room (buf.drop off)).2 := by
  induction room generalizing s off with
  | zero => simp [readCstrLoop, field]
  | succ room ih =>
      by_cases inside : off < buf.length
      · rw [List.drop_eq_getElem_cons inside]
        simp only [readCstrLoop, List.getElem?_eq_getElem inside, field]
        by_cases terminator : buf[off] = 0
        · simp [terminator]
        · simp only [if_neg terminator]
          have later := ih (s ++ [buf[off]]) (off + 1)
          refine ⟨?_, later.2⟩
          rw [later.1]
          simp
      · have past : buf.length ≤ off := by omega
        simp [readCstrLoop, List.getElem?_eq_none past,
          List.drop_eq_nil_of_le past, field]

theorem readCstr_tracks (buf : Octets) :
    Tracks buf (readCstr buf) cstr := by
  intro off
  exact readCstrLoop_tracks buf 65 [] off

theorem readOctet_tracks (body : Octets) :
    Tracks body (readOctet body) octet := by
  intro off
  by_cases inside : off < body.length
  · rw [List.drop_eq_getElem_cons inside]
    simp [readOctet, List.getElem?_eq_getElem inside, octet, single]
  · have past : body.length ≤ off := by omega
    simp [readOctet, List.getElem?_eq_none past,
      List.drop_eq_nil_of_le past, octet, single]

theorem readShortMessage_tracks (body : Octets) :
    Tracks body (readShortMessage body) counted := by
  intro off
  by_cases inside : off < body.length
  · rw [List.drop_eq_getElem_cons inside]
    simp only [readShortMessage, List.getElem?_eq_getElem inside, counted,
      block]
    have available :
        (body.drop (off + 1)).length = body.length - (off + 1) :=
      List.length_drop ..
    constructor
    · rw [← available]
      exact List.take_eq_take_min.symm
    · rw [← List.drop_drop, ← available]
      rcases Nat.le_total body[off].toNat (body.drop (off + 1)).length with
        short | long
      · rw [Nat.min_eq_left short]
      · rw [Nat.min_eq_right long, List.drop_length,
          List.drop_eq_nil_of_le long]
  · have past : body.length ≤ off := by omega
    simp [readShortMessage, List.getElem?_eq_none past,
      List.drop_eq_nil_of_le past, counted]

theorem scanSubmitSm_tracks (body : Octets) :
    Tracks body (scanSubmitSm body) readSubmitSm := by
  unfold scanSubmitSm readSubmitSm
  repeat'
    first
    | exact Tracks.pure _ _
    | refine Tracks.bind (readCstr_tracks body) (fun _ => ?_)
    | refine Tracks.bind (readOctet_tracks body) (fun _ => ?_)
    | refine Tracks.bind (readShortMessage_tracks body) (fun _ => ?_)

/-- The parsed record is the one the reader finds; an empty body gives the
default record either way. -/
theorem parseSubmitSm_eq (body : Octets) :
    parseSubmitSm body = (readSubmitSm body).1 := by
  cases body with
  | nil => rfl
  | cons head rest =>
      simp only [parseSubmitSm, List.isEmpty_cons, Bool.false_eq_true,
        if_false]
      exact (scanSubmitSm_tracks (head :: rest)).value_eq

/-! ### Round trips -/

theorem cstr_terminated (value rest : Octets)
    (terminated : TerminatedCstr value) :
    cstr (value ++ 0 :: rest) = (value, rest) :=
  field_terminated 0 65 value rest terminated.1
    (Nat.lt_succ_of_le terminated.2)

theorem cstr_overlong (value rest : Octets) (free : 0 ∉ value)
    (overlong : value.length = 65) :
    cstr (value ++ rest) = (value, rest) := by
  have full := field_full 0 value rest free
  rwa [overlong] at full

/-- What is read of a terminated string of any length, and what the next
field starts with: the rest of the string, if it was too long. -/
theorem cstr_of_long (value rest : Octets) (free : 0 ∉ value)
    (long : 65 ≤ value.length) :
    cstr (value ++ 0 :: rest) = (value.take 65, value.drop 65 ++ 0 :: rest) := by
  have frontFree : 0 ∉ value.take 65 :=
    fun member => free (List.mem_of_mem_take member)
  have frontLength : (value.take 65).length = 65 := by
    rw [List.length_take, Nat.min_eq_left long]
  have read := cstr_overlong (value.take 65) (value.drop 65 ++ 0 :: rest)
    frontFree frontLength
  rwa [← List.append_assoc, List.take_append_drop] at read

theorem cstr_value (value rest : Octets) (free : 0 ∉ value) :
    (cstr (value ++ 0 :: rest)).1 = value.take 65 := by
  rcases Nat.lt_or_ge value.length 65 with short | long
  · rw [cstr_terminated value rest ⟨free, Nat.le_of_lt_succ short⟩,
      List.take_of_length_le (Nat.le_of_lt short)]
  · rw [cstr_of_long value rest free long]

theorem cstr_nul (rest : Octets) : cstr (0 :: rest) = ([], rest) := rfl

theorem octet_cons (value : UInt8) (rest : Octets) :
    octet (value :: rest) = (value, rest) := rfl

theorem counted_message (message trailing : Octets)
    (short : message.length ≤ 255) :
    counted (UInt8.ofNat message.length :: (message ++ trailing)) =
      (message, trailing) := by
  have lengthEq := (narrowed_length_iff message).mpr short
  simp only [counted, block]
  rw [lengthEq, List.take_left, List.drop_left]

theorem readSubmitSm_layout (sm : SubmitSm) (encodable : sm.Encodable)
    (trailing : Octets) :
    readSubmitSm (sm.layout ++ trailing) = (sm, trailing) := by
  unfold readSubmitSm SubmitSm.layout
  simp only [List.append_assoc, List.cons_append]
  rw [bind_eq (cstr_terminated _ _ encodable.serviceType),
    bind_eq (octet_cons _ _), bind_eq (octet_cons _ _),
    bind_eq (cstr_terminated _ _ encodable.srcAddr),
    bind_eq (octet_cons _ _), bind_eq (octet_cons _ _),
    bind_eq (cstr_terminated _ _ encodable.dstAddr),
    bind_eq (octet_cons _ _), bind_eq (octet_cons _ _),
    bind_eq (octet_cons _ _),
    bind_eq (cstr_terminated _ _ encodable.scheduleDeliveryTime),
    bind_eq (cstr_terminated _ _ encodable.validityPeriod),
    bind_eq (octet_cons _ _), bind_eq (octet_cons _ _),
    bind_eq (octet_cons _ _), bind_eq (octet_cons _ _),
    bind_eq (counted_message _ _ encodable.shortMessage)]
  rfl

/-- The parser decodes the whole format: every encodable record is returned
unchanged, whatever optional parameters follow it. -/
theorem parseSubmitSm_layout (sm : SubmitSm) (encodable : sm.Encodable)
    (trailing : Octets) :
    parseSubmitSm (sm.layout ++ trailing) = sm := by
  rw [parseSubmitSm_eq, readSubmitSm_layout sm encodable trailing]

theorem parseSubmitSm_layout_hello :
    let sm : SubmitSm :=
      { srcTon := 1, srcNpi := 1, srcAddr := text "441234", dstNpi := 1,
        dstAddr := text "esme1", dataCoding := 8,
        shortMessage := text "Hello" }
    sm.Encodable ∧
      parseSubmitSm (sm.layout ++ [0x02, 0x04, 0x00, 0x01, 0x07]) = sm :=
  have encodable : SubmitSm.Encodable
      { srcTon := 1, srcNpi := 1, srcAddr := text "441234", dstNpi := 1,
        dstAddr := text "esme1", dataCoding := 8,
        shortMessage := text "Hello" } :=
    { serviceType := by decide
      srcAddr := by decide
      dstAddr := by decide
      scheduleDeliveryTime := by decide
      validityPeriod := by decide
      shortMessage := by decide }
  ⟨encodable, parseSubmitSm_layout _ encodable _⟩

/-- The fields `make_deliver_sm` writes, as a record of the format. -/
def deliverRecord (srcAddr dstAddr shortMessage : Octets)
    (srcTon srcNpi dstTon dstNpi : UInt8) : SubmitSm :=
  { srcTon, srcNpi, srcAddr, dstTon, dstNpi, dstAddr, shortMessage }

theorem deliverSmBody_eq_layout (srcAddr dstAddr shortMessage : Octets)
    (srcTon srcNpi dstTon dstNpi : UInt8) :
    deliverSmBody srcAddr dstAddr shortMessage srcTon srcNpi dstTon dstNpi =
      (deliverRecord srcAddr dstAddr shortMessage
        srcTon srcNpi dstTon dstNpi).layout := by
  simp [deliverSmBody, deliverRecord, SubmitSm.layout]

theorem deliverSmBody_length (srcAddr dstAddr shortMessage : Octets)
    (srcTon srcNpi dstTon dstNpi : UInt8) :
    (deliverSmBody srcAddr dstAddr shortMessage
        srcTon srcNpi dstTon dstNpi).length =
      srcAddr.length + dstAddr.length + shortMessage.length + 17 := by
  simp [deliverSmBody]
  omega

theorem deliverRecord_encodable (srcAddr dstAddr shortMessage : Octets)
    (srcTon srcNpi dstTon dstNpi : UInt8)
    (srcFits : TerminatedCstr srcAddr) (dstFits : TerminatedCstr dstAddr)
    (short : shortMessage.length ≤ 255) :
    (deliverRecord srcAddr dstAddr shortMessage
      srcTon srcNpi dstTon dstNpi).Encodable :=
  have empty : TerminatedCstr [] := by decide
  { serviceType := empty
    srcAddr := srcFits
    dstAddr := dstFits
    scheduleDeliveryTime := empty
    validityPeriod := empty
    shortMessage := short }

theorem parseSubmitSm_deliverSmBody (srcAddr dstAddr shortMessage : Octets)
    (srcTon srcNpi dstTon dstNpi : UInt8)
    (srcFits : TerminatedCstr srcAddr) (dstFits : TerminatedCstr dstAddr)
    (short : shortMessage.length ≤ 255) :
    parseSubmitSm (deliverSmBody srcAddr dstAddr shortMessage
        srcTon srcNpi dstTon dstNpi) =
      deliverRecord srcAddr dstAddr shortMessage
        srcTon srcNpi dstTon dstNpi := by
  have encodable := deliverRecord_encodable srcAddr dstAddr shortMessage
    srcTon srcNpi dstTon dstNpi srcFits dstFits short
  have parsed := readSubmitSm_layout _ encodable []
  rw [List.append_nil, ← deliverSmBody_eq_layout] at parsed
  rw [parseSubmitSm_eq, parsed]

theorem makeDeliverSm_drop (sequenceNumber : UInt32)
    (srcAddr dstAddr shortMessage : Octets)
    (srcTon srcNpi dstTon dstNpi : UInt8) :
    (makeDeliverSm sequenceNumber srcAddr dstAddr shortMessage
        srcTon srcNpi dstTon dstNpi).drop 16 =
      deliverSmBody srcAddr dstAddr shortMessage
        srcTon srcNpi dstTon dstNpi := rfl

theorem makeDeliverSm_length (sequenceNumber : UInt32)
    (srcAddr dstAddr shortMessage : Octets)
    (srcTon srcNpi dstTon dstNpi : UInt8) :
    (makeDeliverSm sequenceNumber srcAddr dstAddr shortMessage
        srcTon srcNpi dstTon dstNpi).length =
      16 + (deliverSmBody srcAddr dstAddr shortMessage
        srcTon srcNpi dstTon dstNpi).length := by
  simp [makeDeliverSm]

/-- Encoding a deliver_sm and decoding it gives back the header and every
field, for addresses up to the longest the reader takes with a terminator. -/
theorem makeDeliverSm_roundTrip (sequenceNumber : UInt32)
    (srcAddr dstAddr shortMessage : Octets)
    (srcTon srcNpi dstTon dstNpi : UInt8)
    (srcFits : TerminatedCstr srcAddr) (dstFits : TerminatedCstr dstAddr)
    (short : shortMessage.length ≤ 255) :
    let pdu := makeDeliverSm sequenceNumber srcAddr dstAddr shortMessage
      srcTon srcNpi dstTon dstNpi
    decodeHeader pdu =
        { commandLength := UInt32.ofNat pdu.length
          commandId := deliverSm
          commandStatus := esmeRok
          sequenceNumber := sequenceNumber } ∧
      (decodeHeader pdu).commandLength.toNat = pdu.length ∧
      parseSubmitSm (pdu.drop 16) =
        { srcTon, srcNpi, srcAddr, dstTon, dstNpi, dstAddr,
          shortMessage } := by
  intro pdu
  have pduLength : pdu.length = 16 + (deliverSmBody srcAddr dstAddr
      shortMessage srcTon srcNpi dstTon dstNpi).length :=
    makeDeliverSm_length ..
  have bodyLength := deliverSmBody_length srcAddr dstAddr shortMessage
    srcTon srcNpi dstTon dstNpi
  have srcBound := srcFits.2
  have dstBound := dstFits.2
  have lengthWord :
      16 + UInt32.ofNat (deliverSmBody srcAddr dstAddr shortMessage
        srcTon srcNpi dstTon dstNpi).length = UInt32.ofNat pdu.length := by
    rw [pduLength, UInt32.ofNat_add]
    rfl
  have header : decodeHeader pdu =
      { commandLength := UInt32.ofNat pdu.length
        commandId := deliverSm
        commandStatus := esmeRok
        sequenceNumber := sequenceNumber } := by
    rw [← lengthWord]
    exact decodeHeader_makeDeliverSm ..
  refine ⟨header, ?_, ?_⟩
  · rw [header]
    simp only [UInt32.toNat_ofNat']
    omega
  · rw [makeDeliverSm_drop]
    exact parseSubmitSm_deliverSmBody srcAddr dstAddr shortMessage
      srcTon srcNpi dstTon dstNpi srcFits dstFits short

theorem makeDeliverSm_roundTrip_hi :
    TerminatedCstr (text "441234") ∧ TerminatedCstr (text "esme1") ∧
      (text "Hi").length ≤ 255 ∧
      parseSubmitSm
          ((makeDeliverSm 0x20000000 (text "441234") (text "esme1")
            (text "Hi") 1 1 0 1).drop 16) =
        { srcTon := 1, srcNpi := 1, srcAddr := text "441234", dstTon := 0,
          dstNpi := 1, dstAddr := text "esme1",
          shortMessage := text "Hi" } :=
  ⟨by decide, by decide, by decide,
    (makeDeliverSm_roundTrip 0x20000000 (text "441234") (text "esme1")
      (text "Hi") 1 1 0 1 (by decide) (by decide) (by decide)).2.2⟩

/-! ### Relaying -/

/-- What the parser guarantees of the three relayed fields, for any body. -/
structure SubmitSm.Relayed (sm : SubmitSm) : Prop where
  srcFree : 0 ∉ sm.srcAddr
  srcLength : sm.srcAddr.length ≤ 65
  dstFree : 0 ∉ sm.dstAddr
  dstLength : sm.dstAddr.length ≤ 65
  messageLength : sm.shortMessage.length ≤ 255

private theorem cstr_ensures :
    Ensures cstr (fun value => 0 ∉ value ∧ value.length ≤ 65) :=
  fun items => ⟨field_value_free 0 65 items, field_value_length_le 0 65 items⟩

private theorem counted_ensures :
    Ensures counted (fun message => message.length ≤ 255) := by
  intro items
  cases items with
  | nil => simp [counted]
  | cons smLen rest =>
      have bound := smLen.toNat_lt
      simp only [counted, block, List.length_take]
      omega

theorem readSubmitSm_relayed :
    Ensures readSubmitSm SubmitSm.Relayed := by
  unfold readSubmitSm
  refine Ensures.bind (Ensures.trivial cstr) (fun _ _ => ?_)
  refine Ensures.bind (Ensures.trivial octet) (fun _ _ => ?_)
  refine Ensures.bind (Ensures.trivial octet) (fun _ _ => ?_)
  refine Ensures.bind cstr_ensures (fun srcAddr src => ?_)
  refine Ensures.bind (Ensures.trivial octet) (fun _ _ => ?_)
  refine Ensures.bind (Ensures.trivial octet) (fun _ _ => ?_)
  refine Ensures.bind cstr_ensures (fun dstAddr dst => ?_)
  iterate 3 refine Ensures.bind (Ensures.trivial octet) (fun _ _ => ?_)
  iterate 2 refine Ensures.bind (Ensures.trivial cstr) (fun _ _ => ?_)
  iterate 4 refine Ensures.bind (Ensures.trivial octet) (fun _ _ => ?_)
  refine Ensures.bind counted_ensures (fun shortMessage short => ?_)
  exact Ensures.pure
    { srcFree := src.1
      srcLength := src.2
      dstFree := dst.1
      dstLength := dst.2
      messageLength := short }

theorem parseSubmitSm_relayed (body : Octets) :
    (parseSubmitSm body).Relayed := by
  rw [parseSubmitSm_eq]
  exact readSubmitSm_relayed body

/-- Behind a 65-octet source address every later field starts one octet early:
the destination is read as empty, and so is the message behind an empty
destination. -/
private theorem reread_overlong_source (srcAddr dstAddr shortMessage : Octets)
    (free : 0 ∉ srcAddr) (overlong : srcAddr.length = 65) :
    let back := parseSubmitSm
      (deliverSmBody srcAddr dstAddr shortMessage 0 0 0 0)
    back.srcAddr = srcAddr ∧ back.dstAddr = [] ∧
      (dstAddr = [] → back.shortMessage = []) := by
  intro back
  have backEq : back = (readSubmitSm
      (deliverSmBody srcAddr dstAddr shortMessage 0 0 0 0)).1 :=
    parseSubmitSm_eq _
  rw [backEq]
  unfold readSubmitSm deliverSmBody
  simp only [List.append_assoc, List.cons_append, List.nil_append]
  rw [bind_eq (cstr_nul _), bind_eq (octet_cons _ _),
    bind_eq (octet_cons _ _), bind_eq (cstr_overlong _ _ free overlong),
    bind_eq (octet_cons _ _), bind_eq (octet_cons _ _),
    bind_eq (cstr_nul _)]
  rw [← and_assoc]
  constructor
  · suffices keeps : Ensures _ (fun sm : SubmitSm =>
        sm.srcAddr = srcAddr ∧ sm.dstAddr = []) from keeps _
    iterate 3 refine Ensures.bind (Ensures.trivial octet) (fun _ _ => ?_)
    iterate 2 refine Ensures.bind (Ensures.trivial cstr) (fun _ _ => ?_)
    iterate 4 refine Ensures.bind (Ensures.trivial octet) (fun _ _ => ?_)
    refine Ensures.bind (Ensures.trivial counted) (fun _ _ => ?_)
    exact Ensures.pure ⟨rfl, rfl⟩
  · intro noDestination
    rw [noDestination]
    rfl

private theorem reread_overlong_destination
    (srcAddr dstAddr shortMessage : Octets)
    (srcFits : TerminatedCstr srcAddr)
    (free : 0 ∉ dstAddr) (overlong : dstAddr.length = 65) :
    let back := parseSubmitSm
      (deliverSmBody srcAddr dstAddr shortMessage 0 0 0 0)
    back.srcAddr = srcAddr ∧ back.dstAddr = dstAddr ∧
      back.shortMessage = [] := by
  intro back
  have backEq : back = (readSubmitSm
      (deliverSmBody srcAddr dstAddr shortMessage 0 0 0 0)).1 :=
    parseSubmitSm_eq _
  rw [backEq]
  unfold readSubmitSm deliverSmBody
  simp only [List.append_assoc, List.cons_append, List.nil_append]
  rw [bind_eq (cstr_nul _), bind_eq (octet_cons _ _),
    bind_eq (octet_cons _ _), bind_eq (cstr_terminated _ _ srcFits),
    bind_eq (octet_cons _ _), bind_eq (octet_cons _ _),
    bind_eq (cstr_overlong _ _ free overlong)]
  exact ⟨rfl, rfl, rfl⟩

/-- The three fields of a submitted message survive the trip through a
deliver_sm exactly when no 65-octet address precedes something that its
unread terminator would displace. -/
theorem relay_preserves_iff (body : Octets) (sequenceNumber : UInt32) :
    let sm := parseSubmitSm body
    let back := parseSubmitSm
      ((makeDeliverSm sequenceNumber sm.srcAddr sm.dstAddr
        sm.shortMessage).drop 16)
    (back.srcAddr = sm.srcAddr ∧ back.dstAddr = sm.dstAddr ∧
        back.shortMessage = sm.shortMessage) ↔
      (sm.srcAddr.length ≤ 64 ∨
          (sm.dstAddr = [] ∧ sm.shortMessage = [])) ∧
        (sm.dstAddr.length ≤ 64 ∨ sm.shortMessage = []) := by
  intro sm back
  have relayed : sm.Relayed := parseSubmitSm_relayed body
  have srcLength := relayed.srcLength
  have dstLength := relayed.dstLength
  have backEq : back = parseSubmitSm
      (deliverSmBody sm.srcAddr sm.dstAddr sm.shortMessage 0 0 0 0) := by
    change parseSubmitSm _ = _
    rw [makeDeliverSm_drop]
  rw [backEq]
  by_cases srcFits : sm.srcAddr.length ≤ 64
  · by_cases dstFits : sm.dstAddr.length ≤ 64
    · rw [parseSubmitSm_deliverSmBody _ _ _ 0 0 0 0
        ⟨relayed.srcFree, srcFits⟩
        ⟨relayed.dstFree, dstFits⟩ relayed.messageLength]
      simp [srcFits, dstFits, deliverRecord]
    · obtain ⟨src, dst, message⟩ := reread_overlong_destination
        sm.srcAddr sm.dstAddr sm.shortMessage ⟨relayed.srcFree, srcFits⟩
        relayed.dstFree (by omega)
      rw [src, dst, message]
      simp only [srcFits, dstFits, true_or, true_and, false_or]
      exact eq_comm
  · obtain ⟨src, dst, message⟩ := reread_overlong_source
      sm.srcAddr sm.dstAddr sm.shortMessage relayed.srcFree (by omega)
    rw [src, dst]
    constructor
    · rintro ⟨_, noDestination, sameMessage⟩
      have noMessage : sm.shortMessage = [] := by
        rw [← sameMessage]
        exact message noDestination.symm
      exact ⟨Or.inr ⟨noDestination.symm, noMessage⟩, Or.inr noMessage⟩
    · rintro ⟨unshifted, _⟩
      rcases unshifted with short | ⟨noDestination, noMessage⟩
      · exact absurd short srcFits
      · exact ⟨rfl, noDestination.symm,
          (message noDestination).trans noMessage.symm⟩

/-- A 65-octet source address is accepted and displaces the destination and
the message of the relayed PDU. -/
theorem relay_loses_destination :
    let body : Octets := [0, 0, 0] ++ List.replicate 65 49 ++ [0, 0] ++
      [50, 0] ++ [0, 0, 0] ++ [0, 0] ++ [0, 0, 0, 0] ++ [1, 120]
    let sm := parseSubmitSm body
    let back := parseSubmitSm
      ((makeDeliverSm 1 sm.srcAddr sm.dstAddr sm.shortMessage).drop 16)
    (sm.srcAddr = List.replicate 65 49 ∧ sm.dstAddr = [50] ∧
        sm.shortMessage = [120]) ∧
      ¬(back.srcAddr = sm.srcAddr ∧ back.dstAddr = sm.dstAddr ∧
        back.shortMessage = sm.shortMessage) := by
  decide

end OpenSmsc.Smpp
