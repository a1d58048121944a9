/-
The session record of the server and the responses it builds
(`smpp_handler.cpp`).

A bind is decoded by a library; the decoder is a parameter, which may fail.
The responses are objects of the same library, whose sources are not part of
the repository: their constructors and setters are assumed not to throw.  Every
response goes through `encode_pdu`, which returns no octets at all.
-/

import OpenSmsc.Octets

namespace OpenSmsc.SmppHandler

/-! ### Session -/

inductive State where
  | unbound
  | boundTransmitter
  | boundReceiver
  | boundTransceiver
  deriving DecidableEq, Repr

structure Session where
  state : State := .unbound
  systemId : Octets := []
  deriving DecidableEq, Repr

def isBound (session : Session) : Bool := session.state != .unbound

/-! ### Responses -/

def cmdBindReceiver : UInt32 := 0x00000001
def cmdBindTransmitter : UInt32 := 0x00000002
def cmdBindTransceiver : UInt32 := 0x00000009
def cmdUnbind : UInt32 := 0x00000006
def cmdEnquireLink : UInt32 := 0x0000000F

inductive BindKind where
  | receiver
  | transmitter
  | transceiver
  deriving DecidableEq, Repr

/-- The chain that `build_bind_resp` goes through in each of its parts. -/
def bindKind (commandId : UInt32) : BindKind :=
  if commandId = cmdBindReceiver then .receiver
  else if commandId = cmdBindTransmitter then .transmitter
  else .transceiver

def BindKind.boundState : BindKind → State
  | .receiver => .boundReceiver
  | .transmitter => .boundTransmitter
  | .transceiver => .boundTransceiver

inductive ResponseKind where
  | bindResp (kind : BindKind)
  | unbindResp
  | enquireLinkResp
  | genericNack
  deriving DecidableEq, Repr

/-- A response with the fields `build_*_resp` sets.  Building one is assumed
not to throw. -/
structure Response where
  kind : ResponseKind
  commandStatus : UInt32
  sequenceNumber : UInt32
  systemId : Octets := []
  deriving DecidableEq, Repr

def encodePdu (_resp : Response) : Octets := []

def validateCredentials (username password : Octets) : Bool :=
  username == text "test" && password == text "test"

/-- The system id and the password of a bind, `none` where the library
throws. -/
abbrev BindDecoder := BindKind → Octets → Option (Octets × Octets)

/-- The response of `build_bind_resp` before it is encoded. -/
def bindResponse (decoder : BindDecoder) (commandId : UInt32)
    (rawPdu : Octets) (sequenceNumber : UInt32) (session : Session) :
    Response × Session :=
  let kind := bindKind commandId
  let error (status : UInt32) : Response :=
    { kind := .bindResp kind
      commandStatus := status
      sequenceNumber := sequenceNumber }
  if isBound session then (error 0x00000005, session)
  else
    match decoder kind rawPdu with
    | none => (error 0x0000000E, session)
    | some (username, password) =>
        if validateCredentials username password then
          ({ kind := .bindResp kind
             commandStatus := 0x00000000
             sequenceNumber := sequenceNumber
             systemId := text "TestServer" },
            { state := kind.boundState, systemId := username })
        else (error 0x0000000E, session)

def buildBindResp (decoder : BindDecoder) (commandId : UInt32)
    (rawPdu : Octets) (sequenceNumber : UInt32) (session : Session) :
    Octets × Session :=
  let result := bindResponse decoder commandId rawPdu sequenceNumber session
  (encodePdu result.1, result.2)

def buildResp (kind : ResponseKind) (status sequenceNumber : UInt32) :
    Octets :=
  encodePdu
    { kind := kind
      commandStatus := status
      sequenceNumber := sequenceNumber }

def buildUnbindResp (status sequenceNumber : UInt32) : Octets :=
  buildResp .unbindResp status sequenceNumber

def buildEnquireLinkResp (status sequenceNumber : UInt32) : Octets :=
  buildResp .enquireLinkResp status sequenceNumber

def buildGenericNack (status sequenceNumber : UInt32) : Octets :=
  buildResp .genericNack status sequenceNumber

/-- A bind binds as its own kind, and only with the credentials the server
allows; every other bind leaves the session as it was. -/
theorem bindResponse_session (decoder : BindDecoder) (commandId : UInt32)
    (rawPdu : Octets) (sequenceNumber : UInt32) (session : Session) :
    let result := bindResponse decoder commandId rawPdu sequenceNumber session
    (result.1.commandStatus ≠ 0 ∧ result.2 = session) ∨
      (result.1.commandStatus = 0 ∧ isBound session = false ∧
        decoder (bindKind commandId) rawPdu =
          some (text "test", text "test") ∧
        result.2.state = (bindKind commandId).boundState ∧
        result.2.systemId = text "test") := by
  unfold bindResponse
  dsimp only
  split
  · exact .inl ⟨by dsimp only; decide, rfl⟩
  · rename_i bound
    split
    · exact .inl ⟨by dsimp only; decide, rfl⟩
    · rename_i username password decoded
      split
      · rename_i valid
        unfold validateCredentials at valid
        rw [Bool.and_eq_true, beq_iff_eq, beq_iff_eq] at valid
        obtain ⟨rfl, rfl⟩ := valid
        exact .inr
          ⟨rfl, Bool.eq_false_iff.mpr bound, decoded, rfl, rfl⟩
      · exact .inl ⟨by dsimp only; decide, rfl⟩

end OpenSmsc.SmppHandler
