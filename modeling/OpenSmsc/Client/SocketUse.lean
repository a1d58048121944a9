/-
What a step of a session asks of its socket: at most one write, at most one
close, and the write first.
-/

import OpenSmsc.Client.Outputs

namespace OpenSmsc.SmppSession

open Foundation Smpp

variable {Number : Type}

def isSocketEffect : Effect → Bool
  | .sendPdu _ => true
  | .closeSocket => true
  | _ => false

def socketEffects (outputs : List Effect) : List Effect :=
  outputs.filter isSocketEffect

theorem socketEffects_append (first second : List Effect) :
    socketEffects (first ++ second) =
      socketEffects first ++ socketEffects second :=
  List.filter_append first second

theorem sentPdus_socketEffects (outputs : List Effect) :
    sentPdus (socketEffects outputs) = sentPdus outputs := by
  unfold sentPdus socketEffects
  rw [List.filterMap_filter]
  refine List.filterMap_congr ?_
  intro effect _
  cases effect <;> rfl

theorem closeSocket_mem_socketEffects (outputs : List Effect) :
    Effect.closeSocket ∈ socketEffects outputs ↔
      Effect.closeSocket ∈ outputs := by
  unfold socketEffects
  rw [List.mem_filter]
  exact and_iff_left rfl

/-- The socket is closed by the step that ends the session, after the answer
if there is one. -/
inductive SocketUse (s after : Session Number) (used : List Effect) : Prop
  | nothing (same : after.state = .unbound ↔ s.state = .unbound)
      (isUsed : used = [])
  | sends (pdu : Octets) (same : after.state = .unbound ↔ s.state = .unbound)
      (isUsed : used = [.sendPdu pdu])
  | closes (wasLive : s.state ≠ .unbound) (ended : after.state = .unbound)
      (isUsed : used = [.closeSocket])
  | answersAndCloses (pdu : Octets) (wasLive : s.state ≠ .unbound)
      (ended : after.state = .unbound)
      (isUsed : used = [.sendPdu pdu, .closeSocket])

theorem doDisconnect_socketUse (reason : Octets) (s : Session Number) :
    SocketUse s (doDisconnect reason s).1
      (socketEffects (doDisconnect reason s).2) := by
  unfold doDisconnect
  by_cases ended : s.state = .unbound
  · rw [if_pos ended]
    exact .nothing Iff.rfl rfl
  · rw [if_neg ended]
    exact .closes ended rfl rfl

theorem handleUnbind_socketUse (hdr : Header) (s : Session Number) :
    SocketUse s (handleUnbind hdr s).1
      (socketEffects (handleUnbind hdr s).2) := by
  unfold handleUnbind doDisconnect
  by_cases ended : s.state = .unbound
  · simp only [if_pos ended]
    exact .sends _ Iff.rfl rfl
  · simp only [if_neg ended]
    exact .answersAndCloses _ ended rfl rfl

theorem handleBind_socketUse (env : Env) (hdr : Header) (body : Octets)
    (s : Session Number) (isBind : IsBind hdr.commandId) :
    SocketUse s (handleBind env hdr body s).1
      (socketEffects (handleBind env hdr body s).2) := by
  cases handleBind_answered env hdr body s with
  | alreadyBound notOpen isResult =>
      rw [isResult]
      exact .sends _ Iff.rfl rfl
  | refused code wasOpen answered isResult =>
      rw [isResult]
      refine .answersAndCloses _ ?_ rfl rfl
      rw [wasOpen]
      decide
  | accepted code wasOpen answered isResult =>
      rw [isResult]
      refine .sends _ (iff_of_false ?_ ?_) rfl
      · exact boundState_live hdr.commandId isBind .opened
      · rw [wasOpen]
        decide

theorem handleSubmitSm_socketUse [TokenArith Number] (env : Env)
    (hdr : Header) (body : Octets) (s : Session Number) :
    SocketUse s (handleSubmitSm env hdr body s).1
      (socketEffects (handleSubmitSm env hdr body s).2) := by
  cases handleSubmitSm_submitted env hdr body s with
  | accepted tokens lastRefill mayTransmit isResult =>
      rw [isResult]
      exact .sends _ Iff.rfl rfl
  | refused tokens lastRefill status isError isResult =>
      rw [isResult]
      exact .sends _ Iff.rfl rfl

theorem handleEnquireLinkResp_socketUse (hdr : Header)
    (s : Session Number) :
    SocketUse s (handleEnquireLinkResp hdr s).1
      (socketEffects (handleEnquireLinkResp hdr s).2) := by
  unfold handleEnquireLinkResp
  split <;> exact .nothing Iff.rfl rfl

section Steps

variable [TokenArith Number]

theorem dispatch_socketUse (env : Env) (hdr : Header) (body : Octets)
    (s : Session Number) :
    SocketUse s (dispatch env hdr body s).1
      (socketEffects (dispatch env hdr body s).2) := by
  cases dispatch_dispatchedTo env hdr body s with
  | bind isBind isResult =>
      rw [isResult]
      exact handleBind_socketUse env hdr body s isBind
  | unbind isUnbind isResult =>
      rw [isResult]
      exact handleUnbind_socketUse hdr s
  | enquireLink isEnquiry isResult =>
      rw [isResult]
      exact .sends _ Iff.rfl rfl
  | submitSm isSubmit isResult =>
      rw [isResult]
      exact handleSubmitSm_socketUse env hdr body s
  | enquireLinkResp isResponse isResult =>
      rw [isResult]
      exact handleEnquireLinkResp_socketUse hdr s
  | deliverSmResp isResponse isResult =>
      rw [isResult]
      exact .nothing Iff.rfl rfl
  | unknown _ _ _ _ _ _ isResult =>
      rw [isResult]
      exact .sends _ Iff.rfl rfl

theorem dispatchAndRead_socketEffects (env : Env) (hdr : Header)
    (body : Octets) (s : Session Number) :
    socketEffects (dispatchAndRead env hdr body s).2 =
      socketEffects (dispatch env hdr body s).2 := by
  rw [dispatchAndRead, socketEffects_append]
  exact List.append_nil _

theorem step_socketUse (s : Session Number) (event : Event) :
    SocketUse s (step s event).1 (socketEffects (step s event).2) := by
  cases step_handled s event with
  | idle outputs quiet isResult =>
      rw [isResult]
      refine .nothing Iff.rfl (List.filter_eq_nil_iff.mpr ?_)
      intro effect member
      rcases quiet effect member with ⟨hdr, rfl⟩ | ⟨name, message, rfl⟩ | rfl
      all_goals simp [isSocketEffect]
  | disconnects reason isResult =>
      rw [isResult]
      exact doDisconnect_socketUse reason s
  | dispatches env hdr body pdu isResult =>
      rw [isResult, dispatchAndRead_socketEffects]
      exact dispatch_socketUse env hdr body s
  | enquires elSeq live isResult =>
      rw [isResult]
      exact .sends _ Iff.rfl rfl
  | delivers srcAddr dstAddr shortMessage mayReceive isResult =>
      rw [isResult]
      exact .sends _ Iff.rfl rfl

/-- The descriptor is closed exactly by the step that ends the session. -/
theorem step_closes_iff (s : Session Number) (event : Event) :
    Effect.closeSocket ∈ (step s event).2 ↔
      s.state ≠ .unbound ∧ (step s event).1.state = .unbound := by
  rw [← closeSocket_mem_socketEffects]
  cases step_socketUse s event with
  | nothing same isUsed =>
      rw [isUsed, same]
      simp
  | sends pdu same isUsed =>
      rw [isUsed, same]
      simp
  | closes wasLive ended isUsed =>
      rw [isUsed]
      exact iff_of_true (by simp) ⟨wasLive, ended⟩
  | answersAndCloses pdu wasLive ended isUsed =>
      rw [isUsed]
      exact iff_of_true (by simp) ⟨wasLive, ended⟩

end Steps

end OpenSmsc.SmppSession
