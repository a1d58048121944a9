/-
The TCP side of the server: accepted connections, the whitelist check and the
launch of a client handler for each session.
-/

import Mathlib.Data.List.TakeWhile
import OpenSmsc.Server.IpValidator
import OpenSmsc.Server.Service

namespace OpenSmsc.TcpServer

open Foundation TextInput SmppServerService

/-! ### Launching a client handler -/

/-- What the TCP side does besides changing the service.  `system` carries the
answer of `std::system`; a socket that is not released is closed when its last
owner is gone. -/
inductive Effect where
  | service (effect : SmppServerService.Effect)
  | system (command : Octets) (rc : Int)
  | closeSocket (fd : Int)
  deriving DecidableEq, Repr

def handlerBin : Octets := text "/usr/local/bin/smpp_client_handler"

def buildLaunchCommand (uuid clientIp : Octets) : Octets :=
  text "systemd-run" ++ text " --unit=smpp-client-" ++ uuid ++
    text " --collect" ++ text " --property=User=smpp-client" ++
    text " " ++ handlerBin ++ text " --uuid=" ++ uuid ++
    text " --client-ip=" ++ clientIp

def launchClientHandler (system : Octets → Int) (uuid clientIp : Octets) :
    Bool × List Effect :=
  let cmd := buildLaunchCommand uuid clientIp
  let rc := system (cStr cmd)
  if rc ≠ 0 then (false, [.system cmd rc]) else (true, [.system cmd rc])

/-! ### Accepted connections -/

/-- An accepted socket and what the outside answers while it is handled.
`remoteEndpoint` is the text of the peer's address, `none` when the socket has
no peer any more; `ts` and `rnd` go into the session id. -/
structure Accepted where
  remoteEndpoint : Option Octets
  nativeHandle : Int
  ts : UInt64
  rnd : UInt64
  system : Octets → Int

def Accepted.uuid (accepted : Accepted) : Octets :=
  generateSessionId accepted.ts accepted.rnd

def handleConnection (validator : IpValidator.Validator)
    (accepted : Accepted) (svc : Service) : Service × List Effect :=
  match accepted.remoteEndpoint with
  | none => (svc, [.closeSocket accepted.nativeHandle])
  | some clientIp =>
      if !IpValidator.isAllowed clientIp validator then
        (svc, [.closeSocket accepted.nativeHandle])
      else
        let uuid := accepted.uuid
        let rawFd := accepted.nativeHandle
        -- No result says whether the session was registered, and the socket
        -- is released in either case.
        let (svc, outputs) := registerSession uuid rawFd clientIp svc
        -- A failed launch is only logged.
        let (_, launch) := launchClientHandler accepted.system uuid clientIp
        (svc, outputs.map .service ++ launch)

def admissible (validator : IpValidator.Validator) (accepted : Accepted) :
    Option Octets :=
  accepted.remoteEndpoint.filter fun clientIp =>
    IpValidator.isAllowed clientIp validator

theorem handleConnection_rejected (validator : IpValidator.Validator)
    (accepted : Accepted) (svc : Service)
    (rejected : admissible validator accepted = none) :
    handleConnection validator accepted svc =
      (svc, [.closeSocket accepted.nativeHandle]) := by
  unfold handleConnection
  unfold admissible at rejected
  cases peer : accepted.remoteEndpoint with
  | none => rfl
  | some clientIp =>
      rw [peer] at rejected
      have refused : IpValidator.isAllowed clientIp validator = false := by
        simpa using rejected
      dsimp only
      rw [refused]
      rfl

theorem handleConnection_passed (validator : IpValidator.Validator)
    (accepted : Accepted) (svc : Service) (clientIp : Octets)
    (passed : admissible validator accepted = some clientIp) :
    handleConnection validator accepted svc =
      ((registerSession accepted.uuid accepted.nativeHandle clientIp svc).1,
        (registerSession accepted.uuid accepted.nativeHandle clientIp
            svc).2.map .service ++
          [.system (buildLaunchCommand accepted.uuid clientIp)
            (accepted.system
              (cStr (buildLaunchCommand accepted.uuid clientIp)))]) := by
  unfold admissible at passed
  obtain ⟨peer, allowed⟩ := Option.filter_eq_some_iff.mp passed
  unfold handleConnection launchClientHandler
  rw [peer]
  dsimp only
  rw [allowed]
  split
  · contradiction
  · split <;> rfl

/-! ### IPv4 peers of the dual-stack listener -/

/-- How the v6 acceptor prints the address of an IPv4 peer. -/
def v4Mapped (address : UInt32) : Octets :=
  text "::ffff:" ++ dottedDecimal address

theorem cStr_dottedDecimal (address : UInt32) :
    cStr (dottedDecimal address) = dottedDecimal address := by
  refine List.takeWhile_eq_self_iff.mpr ?_
  intro character member
  rcases inetPton4_characters (inetPton4_dottedDecimal address) character
    member with rfl | isDigit
  · decide
  · rw [bne_iff_ne]
    rintro rfl
    exact absurd isDigit (by decide)

theorem parseIpv4_dottedDecimal (address : UInt32) :
    IpValidator.parseIpv4 (dottedDecimal address) = some address := by
  unfold IpValidator.parseIpv4
  rw [cStr_dottedDecimal, inetPton4_dottedDecimal]

theorem parseIpv4_v4Mapped (address : UInt32) :
    IpValidator.parseIpv4 (v4Mapped address) = none := by
  have colon : 58 ∈ cStr (v4Mapped address) := List.mem_cons_self
  cases parsed : IpValidator.parseIpv4 (v4Mapped address) with
  | none => rfl
  | some number =>
      rcases inetPton4_characters parsed 58 colon with isDot | isDigit
      · exact absurd isDot (by decide)
      · exact absurd isDigit (by decide)

/-- An IPv4 peer passes exactly when its mapped form is listed as text.  What
the file lists in dotted decimal, as an entry or as a range, allows the dotted
form of the address and has no part in it. -/
theorem v4_peer_passes_iff (v : IpValidator.Validator) (contents : Octets)
    (completes : (IpValidator.loadConfig (some contents) v).2 = none)
    (address : UInt32) (accepted : Accepted)
    (peer : accepted.remoteEndpoint = some (v4Mapped address)) :
    let validator := (IpValidator.loadConfig (some contents) v).1
    let lines := getlines contents
    (IpValidator.isAllowed (dottedDecimal address) validator = true ↔
        (∃ line ∈ lines,
            IpValidator.ListsExact line (dottedDecimal address)) ∨
          ∃ line ∈ lines, IpValidator.Covers line address) ∧
      ∀ svc,
        (Effect.closeSocket accepted.nativeHandle ∉
            (handleConnection validator accepted svc).2 ↔
          ∃ line ∈ lines,
            IpValidator.ListsExact line (v4Mapped address)) := by
  intro validator lines
  have means : ∀ ip, IpValidator.isAllowed ip validator = true ↔
      IpValidator.Permits lines ip :=
    IpValidator.isAllowed_iff_permits v contents completes
  refine ⟨?_, ?_⟩
  · rw [means, IpValidator.Permits, parseIpv4_dottedDecimal]
    simp
  · intro svc
    have passes : IpValidator.isAllowed (v4Mapped address) validator = true ↔
        ∃ line ∈ lines, IpValidator.ListsExact line (v4Mapped address) := by
      rw [means, IpValidator.Permits, parseIpv4_v4Mapped]
      simp
    rw [← passes]
    cases checked : admissible validator accepted with
    | none =>
        rw [handleConnection_rejected validator accepted svc checked]
        unfold admissible at checked
        rw [peer] at checked
        simpa using checked
    | some clientIp =>
        rw [handleConnection_passed validator accepted svc clientIp checked]
        unfold admissible at checked
        rw [peer] at checked
        obtain ⟨isPeer, allowed⟩ := Option.filter_eq_some_iff.mp checked
        cases isPeer
        refine iff_of_true ?_ allowed
        simp

def connectionFrom (peer : Octets) (fd : Int) (rnd : UInt64) (rc : Int) :
    Accepted :=
  { remoteEndpoint := some peer
    nativeHandle := fd
    ts := 0xa00000000000
    rnd := rnd
    system := fun _ => rc }

theorem v4_peer_passes_listed_mapped :
    let v : IpValidator.Validator := { configFile := text "allowed_ips.conf" }
    let file := text "10.0.0.0/8\n::ffff:10.0.0.1\n"
    let accepted := connectionFrom (v4Mapped 0x0a000001) 7 1 0
    (IpValidator.loadConfig (some file) v).2 = none ∧
      ∀ svc,
        (Effect.closeSocket 7 ∉
            (handleConnection (IpValidator.loadConfig (some file) v).1
              accepted svc).2 ↔
          ∃ line ∈ getlines file,
            IpValidator.ListsExact line (v4Mapped 0x0a000001)) := by
  intro v file accepted
  have completes : (IpValidator.loadConfig (some file) v).2 = none := by
    decide
  exact ⟨completes,
    (v4_peer_passes_iff v file completes 0x0a000001 accepted rfl).2⟩

/-- Both the address 192.168.1.5 and its range are listed, in dotted decimal;
the connection is rejected. -/
theorem v4_peer_rejected :
    let v : IpValidator.Validator := { configFile := text "allowed_ips.conf" }
    let file := text "192.168.1.5\n192.168.1.0/24\n"
    let validator := (IpValidator.loadConfig (some file) v).1
    (IpValidator.loadConfig (some file) v).2 = none ∧
      (∃ line ∈ getlines file,
        IpValidator.ListsExact line (dottedDecimal 0xc0a80105)) ∧
      (∃ line ∈ getlines file, IpValidator.Covers line 0xc0a80105) ∧
      ∀ svc,
        handleConnection validator
            (connectionFrom (v4Mapped 0xc0a80105) 7 1 0) svc =
          (svc, [.closeSocket 7]) := by
  intro v file validator
  refine ⟨by decide, ?_, ?_, ?_⟩
  · refine ⟨text "192.168.1.5", by decide, ?_⟩
    exact ⟨⟨by decide, by decide, by decide⟩, by decide⟩
  · refine ⟨text "192.168.1.0/24", by decide, 0xc0a80100, 24, ?_, rfl⟩
    exact ⟨text "192.168.1.0", text "24",
      ⟨⟨by decide, by decide, by decide⟩, by decide⟩, by decide, by decide,
      by decide⟩
  · intro svc
    exact handleConnection_rejected validator _ svc (by decide)

end OpenSmsc.TcpServer
