/-
The descriptors of accepted sockets that the server process holds open.

`handle_connection` releases the descriptor of a connection that passes the
whitelist, so that nothing closes it by itself any more.  `UnixFd` sends a
duplicate of a claimed descriptor and closes only that.
-/

import OpenSmsc.Foundation.Ownership
import OpenSmsc.Server.TcpServer

namespace OpenSmsc.TcpServer

open Foundation SmppServerService

structure Server where
  validator : IpValidator.Validator
  svc : Service
  openFds : List Int := []

inductive ServerEvent where
  | accept (accepted : Accepted)
  | call (event : SmppServerService.Event)
  | remove (uuid : Octets)

/-- The kernel gives a descriptor that is not open, and the session id is not
that of a pending session. -/
def Server.CanAccept (srv : Server) (accepted : Accepted) : Prop :=
  accepted.nativeHandle ∉ srv.openFds ∧
    srv.svc.registry.sessions[accepted.uuid]? = none

instance (srv : Server) (accepted : Accepted) :
    Decidable (srv.CanAccept accepted) :=
  inferInstanceAs (Decidable (_ ∧ _))

def closeFd (openFds : List Int) : Effect → List Int
  | .closeSocket fd => openFds.filter (· != fd)
  | _ => openFds

def Server.accept (srv : Server) (accepted : Accepted) :
    Server × List Effect :=
  let (svc, outputs) := handleConnection srv.validator accepted srv.svc
  ({ srv with
      svc := svc
      openFds :=
        outputs.foldl closeFd (accepted.nativeHandle :: srv.openFds) },
    outputs)

def Server.call (srv : Server) (event : SmppServerService.Event) :
    Server × List Effect :=
  let (svc, outputs) := SmppServerService.step srv.svc event
  ({ srv with svc := svc }, outputs.map .service)

/-- `register_session` is called by `handle_connection` only, with the
descriptor of the connection. -/
def server : Machine Server ServerEvent Effect :=
  { step := fun srv event =>
      match event with
      | .accept accepted =>
          if srv.CanAccept accepted then srv.accept accepted else (srv, [])
      | .call (.registerSession _ _ _) => (srv, [])
      | .call event => srv.call event
      | .remove uuid =>
          ({ srv with
              svc := { srv.svc with
                registry :=
                  ConnectionRegistry.remove uuid srv.svc.registry } },
            []) }

def startServer (validator : IpValidator.Validator) (maxPerIp : UInt32) :
    Server :=
  { validator := validator
    svc := SmppServerService.create (ConnectionRegistry.create maxPerIp) }

def Server.Stores (srv : Server) (fd : Int) : Prop :=
  Ownership.Held ConnectionRegistry.SessionEntry.fd
    srv.svc.registry.sessions fd

/-- The descriptor that a step leaves open without a pending session: that of
a connection refused at the limit, of a claimed socket, of a removed entry. -/
def abandoned (srv : Server) : ServerEvent → Option Int
  | .accept accepted =>
      match admissible srv.validator accepted with
      | none => none
      | some clientIp =>
          if srv.CanAccept accepted ∧ srv.svc.registry.maxPerIp ≤
              ConnectionRegistry.count clientIp srv.svc.registry then
            some accepted.nativeHandle
          else none
  | .call (.getSocket uuid) =>
      srv.svc.registry.sessions[uuid]?.map (·.fd)
  | .call _ => none
  | .remove uuid => srv.svc.registry.sessions[uuid]?.map (·.fd)

abbrev ServerHistory := List (Machine.Entry Server ServerEvent Effect)

def abandonedFds (past : ServerHistory) : List Int :=
  past.filterMap fun entry => abandoned entry.before entry.event

/-! ### Steps -/

def Server.Accounts (srv : Server) (lost : List Int) : Prop :=
  Ownership.Accounted ConnectionRegistry.SessionEntry.fd
    srv.svc.registry.sessions srv.openFds lost

theorem foldl_closeFd_service (openFds : List Int)
    (outputs : List SmppServerService.Effect) (command : Octets)
    (rc : Int) :
    (outputs.map Effect.service ++ [Effect.system command rc]).foldl
      closeFd openFds = openFds := by
  rw [List.foldl_append]
  change (outputs.map Effect.service).foldl closeFd openFds = openFds
  induction outputs with
  | nil => rfl
  | cons effect rest ih => exact ih

theorem accept_rejected_accounts (srv : Server) (accepted : Accepted)
    (lost : List Int) (accounts : srv.Accounts lost)
    (can : srv.CanAccept accepted)
    (rejected : admissible srv.validator accepted = none) :
    (srv.accept accepted).1.Accounts lost := by
  have unchanged : (srv.accept accepted).1 = srv := by
    unfold Server.accept
    rw [handleConnection_rejected srv.validator accepted srv.svc rejected]
    have others : srv.openFds.filter (· != accepted.nativeHandle) =
        srv.openFds := by
      rw [List.filter_eq_self]
      intro fd member
      rw [bne_iff_ne]
      rintro rfl
      exact can.1 member
    simp [closeFd, others]
  rw [unchanged]
  exact accounts

theorem accept_passed (srv : Server) (accepted : Accepted)
    (clientIp : Octets)
    (passed : admissible srv.validator accepted = some clientIp) :
    (srv.accept accepted).1 =
      { srv with
        svc := (registerSession accepted.uuid accepted.nativeHandle clientIp
          srv.svc).1
        openFds := accepted.nativeHandle :: srv.openFds } := by
  unfold Server.accept
  rw [handleConnection_passed srv.validator accepted srv.svc clientIp passed]
  dsimp only
  rw [foldl_closeFd_service]

theorem accept_accounts (srv : Server) (accepted : Accepted)
    (lost : List Int) (accounts : srv.Accounts lost)
    (can : srv.CanAccept accepted) :
    (srv.accept accepted).1.Accounts
      (lost ++ (abandoned srv (.accept accepted)).toList) := by
  cases checked : admissible srv.validator accepted with
  | none =>
      have kept : abandoned srv (.accept accepted) = none := by
        simp only [abandoned, checked]
      rw [kept, Option.toList_none, List.append_nil]
      exact accept_rejected_accounts srv accepted lost accounts can checked
  | some clientIp =>
      rw [accept_passed srv accepted clientIp checked]
      unfold Server.Accounts
      by_cases full : srv.svc.registry.maxPerIp ≤
          ConnectionRegistry.count clientIp srv.svc.registry
      · have left : abandoned srv (.accept accepted) =
            some accepted.nativeHandle := by
          simp only [abandoned, checked]
          exact if_pos ⟨can, full⟩
        rw [left, Option.toList_some]
        dsimp only
        rw [(registerSession_refused accepted.uuid accepted.nativeHandle
          clientIp srv.svc full).2]
        exact accounts.abandon accepted.nativeHandle can.1
      · have kept : abandoned srv (.accept accepted) = none := by
          simp only [abandoned, checked]
          exact if_neg fun both => full both.2
        rw [kept, Option.toList_none, List.append_nil]
        dsimp only
        rw [(registerSession_admitted accepted.uuid accepted.nativeHandle
          clientIp srv.svc (UInt32.not_le.mp full)).2]
        exact accounts.acquire accepted.uuid
          { fd := accepted.nativeHandle
            clientIp := clientIp } can.2 can.1

theorem release_accounts (srv : Server) (lost : List Int)
    (accounts : srv.Accounts lost) (uuid : Octets)
    (after : Server) (sameOpen : after.openFds = srv.openFds)
    (taken : after.svc.registry.sessions =
      match srv.svc.registry.sessions[uuid]? with
      | none => srv.svc.registry.sessions
      | some _ => srv.svc.registry.sessions.erase uuid) :
    after.Accounts
      (lost ++
        (srv.svc.registry.sessions[uuid]?.map (·.fd)).toList) := by
  unfold Server.Accounts
  rw [sameOpen, taken]
  cases found : srv.svc.registry.sessions[uuid]? with
  | none =>
      rw [Option.map_none, Option.toList_none, List.append_nil]
      exact accounts
  | some entry => exact accounts.forget found

theorem call_accounts (srv : Server) (event : SmppServerService.Event)
    (lost : List Int) (accounts : srv.Accounts lost) :
    (server.step srv (.call event)).1.Accounts
      (lost ++ (abandoned srv (.call event)).toList) := by
  cases event with
  | getSocket uuid =>
      refine release_accounts srv lost accounts uuid _ rfl ?_
      change (getSocket uuid srv.svc).1.registry.sessions = _
      cases getSocket_claimed uuid srv.svc with
      | unknown absent isResult => rw [isResult, absent]
      | handed entry found isResult =>
          rw [isResult, found]
          rfl
  | updateSessionDetails uuid systemId state =>
      change Ownership.Accounted _
        (updateSessionDetails uuid systemId state
          srv.svc).registry.sessions srv.openFds (lost ++ [])
      rw [updateSessionDetails_registry, List.append_nil]
      exact accounts
  | _ =>
      -- The other calls do not reach the registry's entries.
      change Server.Accounts _ (lost ++ [])
      rw [List.append_nil]
      exact accounts

theorem server_step_accounts (srv : Server) (event : ServerEvent)
    (lost : List Int) (accounts : srv.Accounts lost) :
    (server.step srv event).1.Accounts
      (lost ++ (abandoned srv event).toList) := by
  cases event with
  | accept accepted =>
      by_cases can : srv.CanAccept accepted
      · have isStep : server.step srv (.accept accepted) =
            srv.accept accepted := if_pos can
        rw [isStep]
        exact accept_accounts srv accepted lost accounts can
      · have isStep : server.step srv (.accept accepted) = (srv, []) :=
          if_neg can
        have kept : abandoned srv (.accept accepted) = none := by
          simp only [abandoned, can, false_and, if_false]
          split <;> rfl
        rw [isStep, kept, Option.toList_none, List.append_nil]
        exact accounts
  | call event => exact call_accounts srv event lost accounts
  | remove uuid =>
      refine release_accounts srv lost accounts uuid _ rfl ?_
      change (ConnectionRegistry.remove uuid
        srv.svc.registry).sessions = _
      unfold ConnectionRegistry.remove
      cases srv.svc.registry.sessions[uuid]? with
      | none => rfl
      | some entry => rfl

/-! ### Runs -/

theorem server_accounts (validator : IpValidator.Validator)
    (maxPerIp : UInt32) (events : List ServerEvent) :
    (server.final (startServer validator maxPerIp) events).Accounts
      (abandonedFds
        (server.history (startServer validator maxPerIp) events)) := by
  refine server.history_rule
    (fun srv past => srv.Accounts (abandonedFds past))
    (startServer validator maxPerIp) Ownership.Accounted.empty ?_ events
  intro srv past event accounts
  have recorded : abandonedFds (past ++ [server.entry srv event]) =
      abandonedFds past ++ (abandoned srv event).toList := by
    rw [abandonedFds, List.filterMap_append, List.filterMap_cons]
    change abandonedFds past ++ _ = _
    cases here : abandoned srv event <;> simp [Machine.entry, here]
  rw [recorded]
  exact server_step_accounts srv event _ accounts

/-- In every state the open descriptors are those of the pending sessions and
those abandoned on the way.  So they are those of the pending sessions exactly
as long as no connection has been refused at the limit, no socket claimed and
no entry removed. -/
theorem open_descriptors_iff (validator : IpValidator.Validator)
    (maxPerIp : UInt32) (events : List ServerEvent) :
    let srv := server.final (startServer validator maxPerIp) events
    let past := server.history (startServer validator maxPerIp) events
    (∀ fd, fd ∈ srv.openFds ↔ srv.Stores fd ∨ fd ∈ abandonedFds past) ∧
      ((∀ fd, fd ∈ srv.openFds ↔ srv.Stores fd) ↔
        ∀ entry ∈ past, abandoned entry.before entry.event = none) := by
  intro srv past
  have accounts := server_accounts validator maxPerIp events
  refine ⟨accounts.covered, accounts.owned_iff.trans ?_⟩
  exact List.filterMap_eq_nil_iff

/-- One slot per address: the first connection is claimed, the second refused.
No session is pending, and both descriptors stay open. -/
theorem claimed_and_refused_stay_open :
    let validator : IpValidator.Validator :=
      (IpValidator.loadConfig (some (text "::1\n"))
        { configFile := text "allowed_ips.conf" }).1
    let first := connectionFrom (text "::1") 7 1 0
    let second := connectionFrom (text "::1") 8 2 0
    let srv := server.final (startServer validator 1)
      [.accept first, .accept second, .call (.getSocket first.uuid)]
    srv.openFds = [8, 7] ∧ srv.svc.registry.sessions.toList = [] := by
  decide

end OpenSmsc.TcpServer
