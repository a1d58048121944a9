/-
The connection handler of the server (`smpp_client_handler.cpp`).

Each method is a function from the handler to the handler afterwards and the
operations it started or the calls it made, in order.  All of them run on one
strand, so an event is one completion or one call of `send_pdu`.  Log output is
left out.
-/

import OpenSmsc.Server.PduFramer
import OpenSmsc.Server.SmppHandler

namespace OpenSmsc.SmppClientHandler

open Foundation Smpp SmppHandler SmppPduFramer

structure Handler where
  sessionId : Octets
  framer : Framer := {}
  session : Session := {}
  writeQueue : List Octets := []
  writeInProgress : Bool := false
  closeAfterWrite : Bool := false
  deriving DecidableEq, Repr

/-- The calls of `dispatch_pdu`, `enqueue_pdu` and `close` are recorded beside
the operations on the socket. -/
inductive Effect where
  | asyncReadSome
  | dispatchPdu (fullPdu : Octets)
  | enqueuePdu (pdu : Octets)
  | asyncWrite (pdu : Octets)
  | close (reason : Octets)
  | stopAuthenticator (sessionId : Octets)
  | closeSocket
  deriving DecidableEq, Repr

abbrev Result := Handler × List Effect

def doRead (h : Handler) : Result := (h, [.asyncReadSome])

def start (h : Handler) : Result := doRead h

def close (reason : Octets) (h : Handler) : Result :=
  (h, [.close reason, .stopAuthenticator h.sessionId, .closeSocket])

/-! ### Writing -/

def doWrite (h : Handler) : Result :=
  match h.writeQueue with
  | [] => ({ h with writeInProgress := false }, [])
  | pdu :: _ => (h, [.asyncWrite pdu])

def enqueuePdu (pdu : Octets) (h : Handler) : Result :=
  let h := { h with writeQueue := h.writeQueue ++ [pdu] }
  andThen (h, [.enqueuePdu pdu]) fun h =>
    if h.writeInProgress = false then
      doWrite { h with writeInProgress := true }
    else (h, [])

def sendPdu (pdu : Octets) (h : Handler) : Result := enqueuePdu pdu h

/-- `error` is the message of the error code, if there is one. -/
def onWrite (error : Option Octets) (h : Handler) : Result :=
  match error with
  | some message => close (text "write error: " ++ message) h
  | none =>
      let h := { h with writeQueue := h.writeQueue.tail }
      if h.closeAfterWrite then close (text "UNBIND complete") h
      else if h.writeQueue ≠ [] then doWrite h
      else ({ h with writeInProgress := false }, [])

/-! ### Dispatch -/

/-- The failure of the decoder is handled in `build_bind_resp`, and building a
response is assumed not to throw: under that assumption the `catch`, which
answers with a `generic_nack`, is never reached. -/
def handleBind (decoder : BindDecoder) (commandId : UInt32) (rawPdu : Octets)
    (sequenceNumber : UInt32) (h : Handler) : Result :=
  let resp := buildBindResp decoder commandId rawPdu sequenceNumber h.session
  sendPdu resp.1 { h with session := resp.2 }

def handleUnbind (sequenceNumber : UInt32) (h : Handler) : Result :=
  if isBound h.session = false then
    sendPdu (buildUnbindResp 0x0000000D sequenceNumber) h
  else
    andThen
      (sendPdu (buildUnbindResp 0x00000000 sequenceNumber)
        { h with closeAfterWrite := true })
      fun h => ({ h with session := { h.session with state := .unbound } }, [])

def handleEnquireLink (sequenceNumber : UInt32) (h : Handler) : Result :=
  if isBound h.session = false then
    sendPdu (buildEnquireLinkResp 0x0000000D sequenceNumber) h
  else sendPdu (buildEnquireLinkResp 0x00000000 sequenceNumber) h

def handleUnknown (_commandId sequenceNumber : UInt32) (h : Handler) :
    Result :=
  sendPdu (buildGenericNack 0x00000003 sequenceNumber) h

def dispatchPdu (decoder : BindDecoder) (fullPdu : Octets) (h : Handler) :
    Result :=
  andThen (h, [.dispatchPdu fullPdu]) fun h =>
    if fullPdu.length < 16 then (h, [])
    else
      let commandId := readU32 (fullPdu.drop 4)
      let sequenceNumber := readU32 (fullPdu.drop 12)
      if commandId = cmdBindReceiver ∨ commandId = cmdBindTransmitter ∨
          commandId = cmdBindTransceiver then
        handleBind decoder commandId fullPdu sequenceNumber h
      else if commandId = cmdUnbind then handleUnbind sequenceNumber h
      else if commandId = cmdEnquireLink then
        handleEnquireLink sequenceNumber h
      else handleUnknown commandId sequenceNumber h

/-- The loop over complete PDUs ends after one round, since `reset` leaves the
complete state. -/
def dispatchComplete (decoder : BindDecoder) (h : Handler) : Result :=
  if h.framer.state = .pduComplete then
    andThen (dispatchPdu decoder h.framer.fullPdu h) fun h =>
      ({ h with framer := reset h.framer }, [])
  else (h, [])

abbrev ReadResult := Except Octets Octets

def onRead (decoder : BindDecoder) (completion : ReadResult) (h : Handler) :
    Result :=
  match completion with
  | .error message => close (text "read error: " ++ message) h
  | .ok data =>
      andThen
        (dispatchComplete decoder
          { h with framer := (feedBytes data h.framer).2 })
        doRead

inductive Event where
  | onRead (completion : ReadResult)
  | onWrite (error : Option Octets)
  | sendPdu (pdu : Octets)

def step (decoder : BindDecoder) (h : Handler) : Event → Result
  | .onRead completion => onRead decoder completion h
  | .onWrite error => onWrite error h
  | .sendPdu pdu => sendPdu pdu h

def machine (decoder : BindDecoder) : Machine Handler Event Effect where
  step := step decoder

/-! ### Framing -/

def dispatchedPdus (effects : List Effect) : List Octets :=
  effects.filterMap fun
    | .dispatchPdu fullPdu => some fullPdu
    | _ => none

def readsOf (events : List Event) : List Octets :=
  events.filterMap fun
    | .onRead (.ok data) => some data
    | _ => none

structure LeavesFramer (h : Handler) (result : Result) : Prop where
  framer_eq : result.1.framer = h.framer
  silent : dispatchedPdus result.2 = []

theorem dispatchedPdus_append (first second : List Effect) :
    dispatchedPdus (first ++ second) =
      dispatchedPdus first ++ dispatchedPdus second :=
  List.filterMap_append

theorem LeavesFramer.of_framer {h other : Handler} {result : Result}
    (leaves : LeavesFramer other result) (same : other.framer = h.framer) :
    LeavesFramer h result :=
  ⟨leaves.framer_eq.trans same, leaves.silent⟩

theorem LeavesFramer.andThen {h : Handler} {first : Result}
    {next : Handler → Result} (before : LeavesFramer h first)
    (after : LeavesFramer first.1 (next first.1)) :
    LeavesFramer h (andThen first next) where
  framer_eq := after.framer_eq.trans before.framer_eq
  silent := by
    unfold Foundation.andThen
    rw [dispatchedPdus_append, before.silent, after.silent]
    rfl

theorem doWrite_leaves (h : Handler) : LeavesFramer h (doWrite h) := by
  unfold doWrite
  split
  · exact ⟨rfl, rfl⟩
  · exact ⟨rfl, rfl⟩

theorem sendPdu_leaves (pdu : Octets) (h : Handler) :
    LeavesFramer h (sendPdu pdu h) := by
  unfold sendPdu enqueuePdu
  refine LeavesFramer.andThen ⟨rfl, rfl⟩ ?_
  split
  · exact (doWrite_leaves _).of_framer rfl
  · exact ⟨rfl, rfl⟩

theorem onWrite_leaves (error : Option Octets) (h : Handler) :
    LeavesFramer h (onWrite error h) := by
  cases error with
  | some message => exact ⟨rfl, rfl⟩
  | none =>
      unfold onWrite
      dsimp only
      split
      · exact ⟨rfl, rfl⟩
      · split
        · exact (doWrite_leaves _).of_framer rfl
        · exact ⟨rfl, rfl⟩

theorem handleBind_leaves (decoder : BindDecoder) (commandId : UInt32)
    (rawPdu : Octets) (sequenceNumber : UInt32) (h : Handler) :
    LeavesFramer h
      (handleBind decoder commandId rawPdu sequenceNumber h) := by
  unfold handleBind
  exact (sendPdu_leaves _ _).of_framer rfl

theorem handleUnbind_leaves (sequenceNumber : UInt32) (h : Handler) :
    LeavesFramer h (handleUnbind sequenceNumber h) := by
  unfold handleUnbind
  split
  · exact sendPdu_leaves _ h
  · have sends := sendPdu_leaves
      (buildUnbindResp 0x00000000 sequenceNumber)
      { h with closeAfterWrite := true }
    exact LeavesFramer.andThen (sends.of_framer rfl) ⟨rfl, rfl⟩

theorem handleEnquireLink_leaves (sequenceNumber : UInt32) (h : Handler) :
    LeavesFramer h (handleEnquireLink sequenceNumber h) := by
  unfold handleEnquireLink
  split
  · exact sendPdu_leaves _ h
  · exact sendPdu_leaves _ h

theorem dispatchPdu_dispatches (decoder : BindDecoder) (fullPdu : Octets)
    (h : Handler) :
    (dispatchPdu decoder fullPdu h).1.framer = h.framer ∧
      dispatchedPdus (dispatchPdu decoder fullPdu h).2 = [fullPdu] := by
  have handled : ∀ result, LeavesFramer h result →
      (andThen (h, [.dispatchPdu fullPdu]) fun _ => result).1.framer =
          h.framer ∧
        dispatchedPdus
            (andThen (h, [Effect.dispatchPdu fullPdu]) fun _ => result).2 =
          [fullPdu] := by
    intro result leaves
    refine ⟨leaves.framer_eq, ?_⟩
    unfold andThen
    rw [dispatchedPdus_append, leaves.silent]
    rfl
  apply handled
  dsimp only
  split
  · exact ⟨rfl, rfl⟩
  · split
    · exact handleBind_leaves decoder _ fullPdu _ h
    · split
      · exact handleUnbind_leaves _ h
      · split
        · exact handleEnquireLink_leaves _ h
        · exact sendPdu_leaves _ h

theorem onRead_reads (decoder : BindDecoder) (data : Octets) (h : Handler) :
    let result := onRead decoder (.ok data) h
    let read := reading.step h.framer data
    result.1.framer = read.1 ∧ dispatchedPdus result.2 = read.2 := by
  unfold onRead dispatchComplete
  dsimp only [reading]
  split
  · obtain ⟨_, dispatched⟩ := dispatchPdu_dispatches decoder
      (feedBytes data h.framer).2.fullPdu
      { h with framer := (feedBytes data h.framer).2 }
    refine ⟨rfl, ?_⟩
    unfold andThen
    dsimp only
    rw [dispatchedPdus_append, dispatchedPdus_append, dispatched]
    rfl
  · exact ⟨rfl, rfl⟩

theorem dispatchedPdus_emitted (decoder : BindDecoder) (h : Handler)
    (events : List Event) :
    dispatchedPdus ((machine decoder).emitted h events) =
      reading.emitted h.framer (readsOf events) := by
  induction events generalizing h with
  | nil => rfl
  | cons event events ih =>
      rw [Machine.emitted_cons, dispatchedPdus_append, ih]
      have other (leaves : LeavesFramer h ((machine decoder).step h event))
          (noRead : readsOf (event :: events) = readsOf events) :
          dispatchedPdus ((machine decoder).step h event).2 ++
              reading.emitted ((machine decoder).step h event).1.framer
                (readsOf events) =
            reading.emitted h.framer (readsOf (event :: events)) := by
        rw [leaves.silent, leaves.framer_eq, noRead]
        rfl
      cases event with
      | onRead completion =>
          cases completion with
          | error message => exact other ⟨rfl, rfl⟩ rfl
          | ok data =>
              obtain ⟨framer, dispatched⟩ := onRead_reads decoder data h
              have isRead : readsOf (.onRead (.ok data) :: events) =
                  data :: readsOf events := rfl
              rw [isRead, Machine.emitted_cons, ← framer, ← dispatched]
              rfl
      | onWrite error => exact other (onWrite_leaves error h) rfl
      | sendPdu pdu => exact other (sendPdu_leaves pdu h) rfl

/-- Whatever else happens on the strand, the PDUs of the stream are dispatched
exactly, in order and once each, if and only if no read crosses the end of a
header or of a PDU and no PDU is a bare header. -/
theorem dispatchedPdus_iff_aligned (decoder : BindDecoder)
    (sessionId : Octets) (pdus : List Octets) (events : List Event)
    (valid : ∀ pdu ∈ pdus, IsPdu pdu)
    (nonempty : ∀ data ∈ readsOf events, data ≠ [])
    (division : (readsOf events).flatten = pdus.flatten) :
    dispatchedPdus ((machine decoder).emitted { sessionId } events) = pdus ↔
      Aligned [] pdus (readsOf events) := by
  rw [dispatchedPdus_emitted]
  exact reading_emitted_iff pdus (readsOf events) valid nonempty division

def shortBind : Octets :=
  writeHeader
      { commandLength := 18
        commandId := cmdBindTransmitter
        commandStatus := 0
        sequenceNumber := 1 } ++
    [0, 0]

theorem dispatchedPdus_split_reads :
    dispatchedPdus
        ((machine fun _ _ => none).emitted { sessionId := text "a" }
          [.onRead (.ok (shortBind.take 3)),
            .onRead (.ok ((shortBind.take 16).drop 3)),
            .onRead (.ok (shortBind.drop 16)), .onWrite none]) =
      [shortBind] :=
  (dispatchedPdus_iff_aligned (fun _ _ => none) (text "a") [shortBind]
    [.onRead (.ok (shortBind.take 3)),
      .onRead (.ok ((shortBind.take 16).drop 3)),
      .onRead (.ok (shortBind.drop 16)), .onWrite none]
    (by decide) (by decide) (by decide)).mpr
    (@Aligned.cons [] shortBind []
      [shortBind.take 3, (shortBind.take 16).drop 3] [shortBind.drop 16] []
      (by decide) (by decide) (by decide) .nil)

/-- A PDU that arrives in one read: the framer takes its header only. -/
theorem dispatchedPdus_whole_read :
    IsPdu shortBind ∧ shortBind.length ≤ 4096 ∧
      (readsOf [.onRead (.ok shortBind)]).flatten = [shortBind].flatten ∧
      dispatchedPdus
          ((machine fun _ _ => none).emitted { sessionId := text "a" }
            [.onRead (.ok shortBind)]) =
        [] := by
  decide

end OpenSmsc.SmppClientHandler
