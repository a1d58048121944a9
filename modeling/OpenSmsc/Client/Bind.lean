/-
A bind, end to end: the PDU, the credential store behind the D-Bus call, the
answer and the session afterwards agree.
-/

import Mathlib.Data.List.TakeDrop
import OpenSmsc.Authenticator.CredentialsStore
import OpenSmsc.Client.Authorisation
import OpenSmsc.Client.SubmitSmCodec

namespace OpenSmsc.SmppSession

open Foundation Smpp

variable {Number : Type}

/-- The outside of a session whose `IAuth.Authenticate` is answered by the
authenticator holding `store`, or throws. -/
def authenticatorEnv (store : CredentialsStore.Credentials) (thrown : Bool)
    (systemClock : UInt64) (steadyClock : Int) : Env :=
  { authenticate := fun uuid systemId password sourceIp =>
      if thrown then none
      else some (AuthService.authenticate store uuid systemId password
        sourceIp)
    systemClock := systemClock
    steadyClock := steadyClock }

theorem bindAnswer_authenticator (store : CredentialsStore.Credentials)
    (thrown : Bool) (systemClock : UInt64) (steadyClock : Int)
    (body : Octets) (s : Session Number) :
    let answer := (bindAnswer
      (authenticatorEnv store thrown systemClock steadyClock) body s).getD
        (false, Smpp.esmeRinvsysid)
    (answer.1 = true ↔
        store[(bindCredentials body 0).1.1]? =
            some (bindCredentials body 0).1.2 ∧
          thrown = false) ∧
      (answer.1 = false → answer.2 ≠ esmeRok) := by
  cases thrown with
  | true =>
      have isError : esmeRinvsysid ≠ esmeRok := by decide
      exact ⟨by simp [bindAnswer, authenticatorEnv], fun _ => isError⟩
  | false =>
      constructor
      · simpa [bindAnswer, authenticatorEnv, AuthService.authenticate]
          using CredentialsStore.authenticate_ok_iff store
            (bindCredentials body 0).1.1 (bindCredentials body 0).1.2
      · exact CredentialsStore.authenticate_refusal_ne_ok store
          (bindCredentials body 0).1.1 (bindCredentials body 0).1.2

section Handlers

variable [TokenArith Number]

theorem dispatch_bind (env : Env) (hdr : Header) (body : Octets)
    (s : Session Number) (kind : BindKind)
    (isKind : hdr.commandId = kind.commandId) :
    dispatch env hdr body s = handleBind env hdr body s := by
  have isBind : IsBind hdr.commandId := isKind ▸ kind.isBind
  unfold dispatch
  exact if_pos isBind

/-- The answer to a bind in the open state, the state afterwards and the
credential store agree, for every store, body and outcome of the call. -/
theorem bind_agrees_with_store (config : Config) (events : List Event)
    (store : CredentialsStore.Credentials) (thrown : Bool)
    (systemClock : UInt64) (steadyClock : Int) (kind : BindKind)
    (hdr : Header) (body : Octets)
    (isOpen : (machine.final (create config : Session Number)
      events).state = .opened)
    (isKind : hdr.commandId = kind.commandId) :
    let s : Session Number := machine.final (create config) events
    let env := authenticatorEnv store thrown systemClock steadyClock
    let sid := (bindCredentials body 0).1.1
    let pass := (bindCredentials body 0).1.2
    let after := (dispatch env hdr body s).1
    let outputs := (dispatch env hdr body s).2
    ∃ pdu,
      sentPdus outputs = [pdu] ∧
        (decodeHeader pdu).commandId = hdr.commandId ||| 0x80000000 ∧
        (decodeHeader pdu).sequenceNumber = hdr.sequenceNumber ∧
        ((decodeHeader pdu).commandStatus = esmeRok ↔
          store[sid]? = some pass ∧ thrown = false) ∧
        ((decodeHeader pdu).commandStatus = esmeRok ↔
          after.state = kind.state ∧ after.systemId = sid) ∧
        (¬(store[sid]? = some pass ∧ thrown = false) →
          (decodeHeader pdu).commandStatus ≠ 0 ∧ after.systemId = [] ∧
            after.state = .unbound ∧
            ∃ reason, Effect.emitSessionExited config.uuid reason ∈
              outputs) := by
  intro s env sid pass after outputs
  obtain ⟨succeeds, refuses⟩ := bindAnswer_authenticator store thrown
    systemClock steadyClock body s
  have anonymous : s.systemId = [] :=
    ((authorised_of_run config events).opened isOpen).1
  have sameUuid : s.uuid = config.uuid :=
    congrArg (·.1) (final_fixed (create config : Session Number) events)
  have answered : BindAnswered env hdr body s (after, outputs) := by
    have result := handleBind_answered env hdr body s
    rw [← dispatch_bind env hdr body s kind isKind] at result
    exact result
  cases answered with
  | alreadyBound notOpen isResult => exact absurd isOpen notOpen
  | refused code wasOpen answer isResult =>
      obtain ⟨afterEq, outputsEq⟩ := Prod.mk.inj isResult
      rw [answer] at succeeds refuses
      have notStored : ¬(store[sid]? = some pass ∧ thrown = false) := by
        intro stored
        have contrary := succeeds.mpr stored
        contradiction
      have isError : code ≠ esmeRok := refuses rfl
      refine ⟨makeResponse (bindRespId hdr.commandId) code
        hdr.sequenceNumber, ?_, ?_⟩
      · rw [outputsEq]
        rfl
      rw [decodeHeader_makeResponse, afterEq, outputsEq]
      refine ⟨rfl, rfl, ?_, ?_, ?_⟩
      · exact iff_of_false isError notStored
      · refine iff_of_false isError ?_
        rintro ⟨atKind, _⟩
        exact kind.state_ne_unbound atKind.symm
      · intro _
        refine ⟨isError, anonymous, rfl, text "auth failed", ?_⟩
        rw [← sameUuid]
        simp
  | accepted code wasOpen answer isResult =>
      obtain ⟨afterEq, outputsEq⟩ := Prod.mk.inj isResult
      rw [answer] at succeeds
      have stored := succeeds.mp rfl
      refine ⟨makeResponse (bindRespId hdr.commandId) esmeRok
        hdr.sequenceNumber (text "smpp-server"), ?_, ?_⟩
      · rw [outputsEq]
        rfl
      rw [decodeHeader_makeResponse, afterEq]
      refine ⟨rfl, rfl, iff_of_true rfl stored, ?_,
        fun notStored => absurd stored notStored⟩
      refine iff_of_true rfl ⟨?_, rfl⟩
      rw [isKind]
      exact kind.boundState_eq .opened

end Handlers

theorem bind_agrees_with_store_user :
    let store : CredentialsStore.Credentials :=
      (∅ : CredentialsStore.Credentials).insert (text "user")
        (text "secret")
    let config : Config :=
      { uuid := text "c1"
        clientIp := text "10.0.0.1" }
    let hdr : Header :=
      { commandLength := 31
        commandId := bindTransmitter
        commandStatus := 0
        sequenceNumber := 7 }
    let body := text "user" ++ [0] ++ text "secret" ++ [0, 0, 0x34]
    let result := dispatch (authenticatorEnv store false 100 0) hdr body
      (create config : Session Float)
    ∃ pdu,
      sentPdus result.2 = [pdu] ∧
        (decodeHeader pdu).commandStatus = esmeRok ∧
        result.1.state = .boundTx ∧ result.1.systemId = text "user" := by
  intro store config hdr body result
  obtain ⟨pdu, sent, _, _, okIffStored, okIffBound, _⟩ :=
    @bind_agrees_with_store Float _ config [] store false 100 0
      .transmitter hdr body rfl rfl
  have isOk := okIffStored.mpr (by decide)
  have isBound := okIffBound.mp isOk
  exact ⟨pdu, sent, isOk, isBound.1, isBound.2⟩

/-! ### Credentials -/

theorem bindCredentials_eq (body : Octets) :
    (bindCredentials body 0).1 =
      ((cstr body).1, (cstr (cstr body).2).1) := by
  have tracks : Reader.Tracks body (bindCredentials body)
      (do
        let sid ← cstr
        let pass ← cstr
        pure (sid, pass)) := by
    unfold bindCredentials
    refine Reader.Tracks.bind (readCstr_tracks body) (fun sid => ?_)
    refine Reader.Tracks.bind (readCstr_tracks body) (fun pass => ?_)
    exact Reader.Tracks.pure body (sid, pass)
  exact tracks.value_eq

/-- The two fields of a bind as `handle_bind` reads them.  Behind a system id
of 65 octets or more the password is read from where the first read stopped,
inside the system id. -/
theorem bindCredentials_fields (systemId password trailing : Octets)
    (systemIdFree : 0 ∉ systemId) (passwordFree : 0 ∉ password) :
    (bindCredentials (systemId ++ 0 :: (password ++ 0 :: trailing)) 0).1 =
      (systemId.take 65,
        if systemId.length ≤ 64 then password.take 65
        else (systemId.drop 65).take 65) := by
  rw [bindCredentials_eq, cstr_value systemId _ systemIdFree]
  by_cases short : systemId.length ≤ 64
  · rw [if_pos short, cstr_terminated systemId _ ⟨systemIdFree, short⟩,
      cstr_value password trailing passwordFree]
  · have restFree : 0 ∉ systemId.drop 65 :=
      fun member => systemIdFree (List.mem_of_mem_drop member)
    rw [if_neg short,
      cstr_of_long systemId _ systemIdFree (Nat.lt_of_not_le short),
      cstr_value _ _ restFree]

theorem handleBind_calls_iff (env : Env) (hdr : Header) (body : Octets)
    (s : Session Number) (isOpen : s.state = .opened)
    (uuid sid pass sourceIp : Octets) (answer : Option (Bool × UInt32)) :
    Effect.callAuthenticate uuid sid pass sourceIp answer ∈
        (handleBind env hdr body s).2 ↔
      Effect.callAuthenticate uuid sid pass sourceIp answer =
        bindCall env body s := by
  cases handleBind_answered env hdr body s with
  | alreadyBound notOpen isResult => exact absurd isOpen notOpen
  | refused code wasOpen answered isResult => rw [isResult]; simp
  | accepted code wasOpen answered isResult => rw [isResult]; simp

/-- `handle_bind` passes the two fields on unchanged exactly when neither
exceeds the reader's bound; a system id of 65 octets leaves its terminator
behind, which then is the empty password. -/
theorem handleBind_credentials_iff (env : Env) (hdr : Header)
    (s : Session Number) (isOpen : s.state = .opened)
    (systemId password trailing : Octets)
    (systemIdFree : 0 ∉ systemId) (passwordFree : 0 ∉ password) :
    (∀ uuid sid pass sourceIp answer,
        Effect.callAuthenticate uuid sid pass sourceIp answer ∈
            (handleBind env hdr
              (systemId ++ 0 :: (password ++ 0 :: trailing)) s).2 →
          sid = systemId ∧ pass = password) ↔
      (systemId.length ≤ 64 ∧ password.length ≤ 65) ∨
        (systemId.length = 65 ∧ password = []) := by
  have calls := handleBind_calls_iff env hdr
    (systemId ++ 0 :: (password ++ 0 :: trailing)) s isOpen
  have fields := bindCredentials_fields systemId password trailing
    systemIdFree passwordFree
  have passedOn :
      (∀ uuid sid pass sourceIp answer,
          Effect.callAuthenticate uuid sid pass sourceIp answer ∈
              (handleBind env hdr
                (systemId ++ 0 :: (password ++ 0 :: trailing)) s).2 →
            sid = systemId ∧ pass = password) ↔
        systemId.take 65 = systemId ∧
          (if systemId.length ≤ 64 then password.take 65
            else (systemId.drop 65).take 65) = password := by
    constructor
    · intro exact
      have called := exact _ _ _ _ _ ((calls _ _ _ _ _).mpr rfl)
      rw [fields] at called
      exact called
    · intro kept uuid sid pass sourceIp answer member
      have isCall := (calls uuid sid pass sourceIp answer).mp member
      unfold bindCall at isCall
      rw [fields] at isCall
      injection isCall with _ sidEq passEq
      rw [sidEq, passEq]
      exact kept
  rw [passedOn, List.take_eq_self_iff]
  by_cases short : systemId.length ≤ 64
  · rw [if_pos short, List.take_eq_self_iff]
    omega
  · rw [if_neg short]
    constructor
    · rintro ⟨bounded, isRest⟩
      have isBound : systemId.length = 65 := by omega
      rw [List.drop_eq_nil_of_le (Nat.le_of_eq isBound)] at isRest
      exact Or.inr ⟨isBound, isRest.symm⟩
    · rintro (⟨contrary, _⟩ | ⟨isBound, rfl⟩)
      · exact absurd contrary short
      · refine ⟨Nat.le_of_eq isBound, ?_⟩
        rw [List.drop_eq_nil_of_le (Nat.le_of_eq isBound)]
        rfl

theorem handleBind_credentials_user :
    let s : Session Float :=
      create { uuid := text "c1", clientIp := text "10.0.0.1" }
    let env : Env :=
      { authenticate := fun _ _ _ _ => none
        systemClock := 0
        steadyClock := 0 }
    let hdr : Header :=
      { commandLength := 31
        commandId := bindTransmitter
        commandStatus := 0
        sequenceNumber := 7 }
    s.state = .opened ∧ 0 ∉ text "user" ∧ 0 ∉ text "secret" ∧
      ∀ uuid sid pass sourceIp answer,
        Effect.callAuthenticate uuid sid pass sourceIp answer ∈
            (handleBind env hdr
              (text "user" ++ 0 :: (text "secret" ++ 0 :: [0x34])) s).2 →
          sid = text "user" ∧ pass = text "secret" := by
  intro s env hdr
  refine ⟨rfl, by decide, by decide, ?_⟩
  exact (handleBind_credentials_iff env hdr s rfl (text "user")
    (text "secret") [0x34] (by decide) (by decide)).mpr
      (Or.inl (by decide))

/-- Of a system id of 71 octets the last six are sent as the password, in
place of the password of the PDU. -/
theorem handleBind_credentials_cross :
    let s : Session Float :=
      create { uuid := text "c1", clientIp := text "10.0.0.1" }
    let env : Env :=
      { authenticate := fun _ _ _ _ => none
        systemClock := 0
        steadyClock := 0 }
    let hdr : Header :=
      { commandLength := 93
        commandId := bindTransmitter
        commandStatus := 0
        sequenceNumber := 7 }
    let systemId := List.replicate 65 0x61 ++ text "secret"
    Effect.callAuthenticate (text "c1") (List.replicate 65 0x61)
        (text "secret") (text "10.0.0.1") none ∈
      (handleBind env hdr
        (systemId ++ 0 :: (text "other" ++ 0 :: [])) s).2 := by
  decide

end OpenSmsc.SmppSession
