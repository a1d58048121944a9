/-
The credential store of the authenticator and the service in front of it.

The store's hash map is only ever searched, never iterated, so it is modelled
by a map with a defined order.
-/

import OpenSmsc.Octets

namespace OpenSmsc.CredentialsStore

def ok : UInt32 := 0x00000000
def esmeRinvsysid : UInt32 := 0x0000000F
def esmeRinvpaswd : UInt32 := 0x0000000E

abbrev Credentials := Std.TreeMap Octets Octets

def authenticate (credentials : Credentials) (systemId password : Octets) :
    Bool × UInt32 :=
  match credentials[systemId]? with
  | none => (false, esmeRinvsysid)
  | some stored =>
      if stored ≠ password then (false, esmeRinvpaswd) else (true, ok)

theorem authenticate_ok_iff (credentials : Credentials)
    (systemId password : Octets) :
    (authenticate credentials systemId password).1 = true ↔
      credentials[systemId]? = some password := by
  unfold authenticate
  cases found : credentials[systemId]? with
  | none => simp
  | some stored =>
      by_cases same : stored = password
      · simp [same]
      · simp [same]

theorem authenticate_refusal_ne_ok (credentials : Credentials)
    (systemId password : Octets)
    (refused : (authenticate credentials systemId password).1 = false) :
    (authenticate credentials systemId password).2 ≠ ok := by
  unfold authenticate at refused ⊢
  cases found : credentials[systemId]? with
  | none => simp [esmeRinvsysid, ok]
  | some stored =>
      by_cases same : stored = password
      · simp [found, same] at refused
      · simp [same, esmeRinvpaswd, ok]

end OpenSmsc.CredentialsStore

namespace OpenSmsc.AuthService

/-- `AuthService::Authenticate`; the session id and the address are only
logged. -/
def authenticate (store : CredentialsStore.Credentials)
    (_uuid systemId password _sourceIp : Octets) : Bool × UInt32 :=
  CredentialsStore.authenticate store systemId password

end OpenSmsc.AuthService
