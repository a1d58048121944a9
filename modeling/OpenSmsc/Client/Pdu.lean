/-
The PDU layer of the client handler: command identifiers, status codes, the
16-octet header, the field readers and the two PDU builders.

The readers keep the source's discipline of one offset passed by reference, so
they are scanners over the whole body.
-/

import OpenSmsc.Foundation.Reader
import OpenSmsc.Octets

namespace OpenSmsc.Smpp

open Foundation

/-! ### Command identifiers and status codes -/

def bindTransmitter : UInt32 := 0x00000002
def bindReceiver : UInt32 := 0x00000003
def bindTransceiver : UInt32 := 0x00000009
def unbind : UInt32 := 0x00000006
def unbindResp : UInt32 := 0x80000006
def enquireLink : UInt32 := 0x00000015
def enquireLinkResp : UInt32 := 0x80000015
def submitSm : UInt32 := 0x00000004
def submitSmResp : UInt32 := 0x80000004
def deliverSm : UInt32 := 0x00000005
def deliverSmResp : UInt32 := 0x80000005
def genericNack : UInt32 := 0x80000000

def esmeRok : UInt32 := 0x00000000
def esmeRinvbndsts : UInt32 := 0x00000004
def esmeRalybnd : UInt32 := 0x00000005
def esmeRinvsysid : UInt32 := 0x0000000F
def esmeRinvcmdid : UInt32 := 0x00000003
def esmeRthrottled : UInt32 := 0x00000058

def bindRespId (reqId : UInt32) : UInt32 := reqId ||| 0x80000000

/-! ### Header -/

structure Header where
  commandLength : UInt32
  commandId : UInt32
  commandStatus : UInt32
  sequenceNumber : UInt32
  deriving DecidableEq, Repr

def decodeHeader (buf : Octets) : Header :=
  { commandLength := readU32 buf
    commandId := readU32 (buf.drop 4)
    commandStatus := readU32 (buf.drop 8)
    sequenceNumber := readU32 (buf.drop 12) }

/-- The octets are one PDU: their header announces how many they are. -/
def IsOnePdu (octets : Octets) : Prop :=
  16 ≤ octets.length ∧
    (decodeHeader octets).commandLength.toNat = octets.length

instance (octets : Octets) : Decidable (IsOnePdu octets) :=
  inferInstanceAs (Decidable (_ ∧ _))

abbrev Pdu := { octets : Octets // IsOnePdu octets }

/-- The four words both builders write at the front of a PDU. -/
def writeHeader (header : Header) : Octets :=
  writeU32 header.commandLength ++ writeU32 header.commandId ++
    writeU32 header.commandStatus ++ writeU32 header.sequenceNumber

@[simp] theorem writeHeader_length (header : Header) :
    (writeHeader header).length = 16 := rfl

@[simp] theorem decodeHeader_writeHeader (header : Header) (body : Octets) :
    decodeHeader (writeHeader header ++ body) = header := by
  have idAt :
      (writeHeader header ++ body).drop 4 =
        writeU32 header.commandId ++ (writeU32 header.commandStatus ++
          (writeU32 header.sequenceNumber ++ body)) := rfl
  have statusAt :
      (writeHeader header ++ body).drop 8 =
        writeU32 header.commandStatus ++
          (writeU32 header.sequenceNumber ++ body) := rfl
  have sequenceAt :
      (writeHeader header ++ body).drop 12 =
        writeU32 header.sequenceNumber ++ body := rfl
  have lengthAt :
      readU32 (writeHeader header ++ body) = header.commandLength :=
    readU32_writeU32 header.commandLength
      (writeU32 header.commandId ++ (writeU32 header.commandStatus ++
        (writeU32 header.sequenceNumber ++ body)))
  unfold decodeHeader
  rw [lengthAt, idAt, statusAt, sequenceAt, readU32_writeU32,
    readU32_writeU32, readU32_writeU32]

theorem writeHeader_decodeHeader (buf : Octets) (whole : buf.length = 16) :
    writeHeader (decodeHeader buf) = buf := by
  have word (index : Nat) (inside : index + 4 ≤ 16) :
      writeU32 (readU32 (buf.drop index)) = (buf.drop index).take 4 :=
    writeU32_readU32 _ (by rw [List.length_drop]; omega)
  have first := word 0 (by decide)
  rw [List.drop_zero] at first
  unfold writeHeader decodeHeader
  dsimp only
  rw [first, word 4 (by decide), word 8 (by decide), word 12 (by decide)]
  have joined (index : Nat) :
      buf.take index ++ (buf.drop index).take 4 = buf.take (index + 4) :=
    (List.take_add).symm
  rw [joined 4, joined 8, joined 12]
  exact List.take_of_length_le (Nat.le_of_eq whole)

@[simp] theorem drop_writeHeader (header : Header) (body : Octets) :
    (writeHeader header ++ body).drop 16 = body := rfl

theorem decodeHeader_append (buf rest : Octets) (whole : 16 ≤ buf.length) :
    decodeHeader (buf ++ rest) = decodeHeader buf := by
  have frontLength : (buf.take 16).length = 16 := by
    rw [List.length_take, Nat.min_eq_left whole]
  have front := writeHeader_decodeHeader (buf.take 16) frontLength
  have ofFront (later : Octets) :
      decodeHeader (buf.take 16 ++ later) = decodeHeader (buf.take 16) := by
    rw [← front, decodeHeader_writeHeader, front]
  have bufEq := ofFront (buf.drop 16)
  have appendEq := ofFront (buf.drop 16 ++ rest)
  rw [List.take_append_drop] at bufEq
  rw [← List.append_assoc, List.take_append_drop] at appendEq
  rw [appendEq, bufEq]

/-! ### Field readers -/

/-- The loop of `read_cstr`.  `room` is what `s.size() < max_len` still
allows. -/
def readCstrLoop (buf : Octets) : Nat → Octets → Scanner Octets
  | 0, s, off => (s, off)
  | room + 1, s, off =>
      match buf[off]? with
      | none => (s, off)
      | some c =>
          if c = 0 then (s, off + 1)
          else readCstrLoop buf room (s ++ [c]) (off + 1)

def readCstr (buf : Octets) (maxLen : Nat := 65) : Scanner Octets :=
  readCstrLoop buf maxLen []

/-- `if (off < body.size()) field = body[off++]`, for a field that starts at
zero. -/
def readOctet (body : Octets) : Scanner UInt8 := fun off =>
  match body[off]? with
  | none => (0, off)
  | some octet => (octet, off + 1)

/-- The `sm_length` octet and the message octets it announces, cut to what the
body still holds. -/
def readShortMessage (body : Octets) : Scanner Octets := fun off =>
  match body[off]? with
  | none => ([], off)
  | some smLen =>
      let avail := min smLen.toNat (body.length - (off + 1))
      ((body.drop (off + 1)).take avail, off + 1 + avail)

structure SubmitSm where
  serviceType : Octets := []
  srcTon : UInt8 := 0
  srcNpi : UInt8 := 0
  srcAddr : Octets := []
  dstTon : UInt8 := 0
  dstNpi : UInt8 := 0
  dstAddr : Octets := []
  esmClass : UInt8 := 0
  protocolId : UInt8 := 0
  priorityFlag : UInt8 := 0
  scheduleDeliveryTime : Octets := []
  validityPeriod : Octets := []
  registeredDelivery : UInt8 := 0
  replaceIfPresent : UInt8 := 0
  dataCoding : UInt8 := 0
  smDefaultMsgId : UInt8 := 0
  shortMessage : Octets := []
  deriving DecidableEq, Repr

def scanSubmitSm (body : Octets) : Scanner SubmitSm := do
  let serviceType ← readCstr body
  let srcTon ← readOctet body
  let srcNpi ← readOctet body
  let srcAddr ← readCstr body
  let dstTon ← readOctet body
  let dstNpi ← readOctet body
  let dstAddr ← readCstr body
  let esmClass ← readOctet body
  let protocolId ← readOctet body
  let priorityFlag ← readOctet body
  let scheduleDeliveryTime ← readCstr body
  let validityPeriod ← readCstr body
  let registeredDelivery ← readOctet body
  let replaceIfPresent ← readOctet body
  let dataCoding ← readOctet body
  let smDefaultMsgId ← readOctet body
  let shortMessage ← readShortMessage body
  pure
    { serviceType, srcTon, srcNpi, srcAddr, dstTon, dstNpi, dstAddr,
      esmClass, protocolId, priorityFlag, scheduleDeliveryTime,
      validityPeriod, registeredDelivery, replaceIfPresent, dataCoding,
      smDefaultMsgId, shortMessage }

def parseSubmitSm (body : Octets) : SubmitSm :=
  if body.isEmpty then {} else (scanSubmitSm body 0).1

/-- The part of a SUBMIT_SM that is relayed. -/
structure Message where
  srcAddr : Octets
  dstAddr : Octets
  shortMessage : Octets
  deriving DecidableEq, Repr

def messageOf (sm : SubmitSm) : Message :=
  { srcAddr := sm.srcAddr
    dstAddr := sm.dstAddr
    shortMessage := sm.shortMessage }

/-! ### PDU builders -/

/-- `total` is computed in `uint32_t`, as in the source. -/
def makeResponse (commandId commandStatus sequenceNumber : UInt32)
    (systemId : Octets := []) : Octets :=
  let bodyLen := if systemId.isEmpty then 0 else systemId.length + 1
  let total := 16 + UInt32.ofNat bodyLen
  writeHeader
      { commandLength := total
        commandId := commandId
        commandStatus := commandStatus
        sequenceNumber := sequenceNumber } ++
    (if systemId.isEmpty then [] else systemId ++ [0])

def deliverSmBody (srcAddr dstAddr shortMessage : Octets)
    (srcTon srcNpi dstTon dstNpi : UInt8) : Octets :=
  [0] ++ [srcTon, srcNpi] ++ srcAddr ++ [0] ++ [dstTon, dstNpi] ++
    dstAddr ++ [0] ++ [0, 0, 0] ++ [0, 0] ++ [0, 0, 0, 0] ++
    [UInt8.ofNat shortMessage.length] ++ shortMessage

def Message.body (message : Message) : Octets :=
  deliverSmBody message.srcAddr message.dstAddr message.shortMessage 0 0 0 0

def makeDeliverSm (sequenceNumber : UInt32)
    (srcAddr dstAddr shortMessage : Octets)
    (srcTon srcNpi dstTon dstNpi : UInt8 := 0) : Octets :=
  let body :=
    deliverSmBody srcAddr dstAddr shortMessage srcTon srcNpi dstTon dstNpi
  writeHeader
      { commandLength := 16 + UInt32.ofNat body.length
        commandId := deliverSm
        commandStatus := esmeRok
        sequenceNumber := sequenceNumber } ++
    body

@[simp] theorem decodeHeader_makeResponse
    (commandId commandStatus sequenceNumber : UInt32) (systemId : Octets) :
    decodeHeader
        (makeResponse commandId commandStatus sequenceNumber systemId) =
      { commandLength := 16 + UInt32.ofNat
          (if systemId.isEmpty then 0 else systemId.length + 1)
        commandId := commandId
        commandStatus := commandStatus
        sequenceNumber := sequenceNumber } :=
  decodeHeader_writeHeader _ _

@[simp] theorem decodeHeader_makeDeliverSm (sequenceNumber : UInt32)
    (srcAddr dstAddr shortMessage : Octets)
    (srcTon srcNpi dstTon dstNpi : UInt8) :
    decodeHeader
        (makeDeliverSm sequenceNumber srcAddr dstAddr shortMessage
          srcTon srcNpi dstTon dstNpi) =
      { commandLength := 16 + UInt32.ofNat
          (deliverSmBody srcAddr dstAddr shortMessage
            srcTon srcNpi dstTon dstNpi).length
        commandId := deliverSm
        commandStatus := esmeRok
        sequenceNumber := sequenceNumber } :=
  decodeHeader_writeHeader _ _

theorem narrowed_length_iff (message : Octets) :
    (UInt8.ofNat message.length).toNat = message.length ↔
      message.length ≤ 255 := by
  rw [UInt8.toNat_ofNat']
  omega

theorem makeDeliverSm_message (sequenceNumber : UInt32)
    (srcAddr dstAddr shortMessage : Octets)
    (srcTon srcNpi dstTon dstNpi : UInt8) :
    (makeDeliverSm sequenceNumber srcAddr dstAddr shortMessage
        srcTon srcNpi dstTon dstNpi).drop
          (32 + srcAddr.length + dstAddr.length) =
      UInt8.ofNat shortMessage.length :: shortMessage := by
  unfold makeDeliverSm deliverSmBody
  dsimp only
  rw [List.append_assoc _ [UInt8.ofNat shortMessage.length],
    ← List.append_assoc (writeHeader _)]
  refine List.drop_left' ?_
  simp only [List.length_append, List.length_cons, List.length_nil,
    writeHeader_length]
  omega

end OpenSmsc.Smpp
