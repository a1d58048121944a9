/-
Loading and reloading the credentials.

`load` fills a map of its own and only then replaces the store's, so a file
that does not parse leaves the store as it was.  Entries without both strings
are skipped, and a later entry of a system id replaces an earlier one.
-/

import OpenSmsc.Authenticator.CredentialsStore
import OpenSmsc.Foundation.Collections
import OpenSmsc.Foundation.Machine
import OpenSmsc.Foundation.Standing

namespace OpenSmsc.CredentialsStore

open Foundation

/-- An element of the `credentials` array: a table with those of its two
values that are strings, or something else. -/
inductive Element where
  | table (systemId password : Option Octets)
  | other
  deriving DecidableEq, Repr

/-- A parsed file, as far as `load` reads it: the array `credentials`, if
there is one. -/
structure Document where
  credentials : Option (List Element)
  deriving DecidableEq, Repr

inductive Outcome where
  | loaded
  | threw
  deriving DecidableEq, Repr

def loadElement (tmp : Credentials) : Element → Credentials
  | .table (some sid) (some pwd) => tmp.insert sid pwd
  | _ => tmp

def Document.elements (document : Document) : List Element :=
  document.credentials.getD []

def Document.table (document : Document) : Credentials :=
  document.elements.foldl loadElement ∅

/-- `file` is what `toml::parse_file` returns, `none` when it throws. -/
def load (file : Option Document) (credentials : Credentials) :
    Outcome × Credentials :=
  match file with
  | none => (.threw, credentials)
  | some document => (.loaded, document.table)

/-- The constructor: there is no store if `load` throws. -/
def create (file : Option Document) : Option Credentials :=
  match load file ∅ with
  | (.loaded, credentials) => some credentials
  | (.threw, _) => none

def reload (file : Option Document) (credentials : Credentials) :
    Outcome × Credentials :=
  load file credentials

end OpenSmsc.CredentialsStore

namespace OpenSmsc.AuthService

open Foundation CredentialsStore

def reloadCredentials (file : Option Document) (store : Credentials) :
    Outcome × Credentials :=
  reload file store

inductive Event where
  | authenticate (uuid systemId password sourceIp : Octets)
  | reloadCredentials (file : Option Document)

inductive Output where
  | answer (ok : Bool) (code : UInt32)
  | reloaded (outcome : Outcome)
  deriving DecidableEq, Repr

def machine : Machine Credentials Event Output where
  step store
    | .authenticate uuid systemId password sourceIp =>
        let (ok, code) := authenticate store uuid systemId password sourceIp
        (store, [.answer ok code])
    | .reloadCredentials file =>
        let (outcome, store) := reloadCredentials file store
        (store, [.reloaded outcome])

end OpenSmsc.AuthService

namespace OpenSmsc.CredentialsStore

open Foundation

/-! ### One file -/

def IsEntry (systemId password : Octets) (element : Element) : Prop :=
  element = .table (some systemId) (some password)

/-- The last complete entry of `systemId` has `password`. -/
def LastEntry (systemId password : Octets) (document : Document) : Prop :=
  Stands (IsEntry systemId password)
    (fun element => ∃ other, IsEntry systemId other element)
    document.elements

theorem lookup_loadElement (tmp : Credentials) (element : Element)
    (systemId password : Octets) :
    (loadElement tmp element)[systemId]? = some password ↔
      IsEntry systemId password element ∨
        (tmp[systemId]? = some password ∧
          ¬∃ other, IsEntry systemId other element) := by
  have skipped (notEntry : ∀ other, ¬IsEntry systemId other element)
      (same : (loadElement tmp element)[systemId]? = tmp[systemId]?) :
      (loadElement tmp element)[systemId]? = some password ↔
        IsEntry systemId password element ∨
          (tmp[systemId]? = some password ∧
            ¬∃ other, IsEntry systemId other element) := by
    rw [same]
    simp [notEntry]
  cases element with
  | other => exact skipped nofun rfl
  | table sid pwd =>
      cases sid with
      | none => exact skipped nofun rfl
      | some sid =>
          cases pwd with
          | none => exact skipped nofun rfl
          | some pwd =>
              change (tmp.insert sid pwd)[systemId]? = some password ↔ _
              by_cases same : sid = systemId
              · subst same
                rw [Table.lookup_insert_self]
                simp [IsEntry]
              · refine skipped ?_ (Table.lookup_insert_ne tmp pwd same)
                intro other isEntry
                obtain ⟨sameId, _⟩ := Element.table.inj isEntry
                exact same (Option.some.inj sameId)

theorem lookup_table_iff (document : Document)
    (systemId password : Octets) :
    document.table[systemId]? = some password ↔
      LastEntry systemId password document := by
  unfold Document.table LastEntry
  induction document.elements using List.reverseRecOn with
  | nil => exact iff_of_false nofun not_stands_nil
  | append_singleton earlier element ih =>
      rw [List.foldl_append, stands_concat, ← ih]
      exact lookup_loadElement _ element systemId password

theorem exists_lastEntry_iff (document : Document) (systemId : Octets) :
    (∃ password, LastEntry systemId password document) ↔
      ∃ element ∈ document.elements, ∃ password,
        IsEntry systemId password element :=
  exists_stands_iff document.elements

/-! ### Answers -/

theorem authenticate_found {credentials : Credentials}
    {systemId stored : Octets}
    (found : credentials[systemId]? = some stored) (password : Octets) :
    authenticate credentials systemId password =
      if stored = password then (true, ok) else (false, esmeRinvpaswd) := by
  unfold authenticate
  rw [found]
  by_cases same : stored = password
  · simp [same]
  · simp [same]

theorem authenticate_missing {credentials : Credentials} {systemId : Octets}
    (missing : credentials[systemId]? = none) (password : Octets) :
    authenticate credentials systemId password =
      (false, esmeRinvsysid) := by
  unfold authenticate
  rw [missing]

structure AnswersBy (credentials : Credentials) (document : Document)
    (systemId password : Octets) : Prop where
  accepted : authenticate credentials systemId password = (true, ok) ↔
    LastEntry systemId password document
  wrongPassword :
    authenticate credentials systemId password = (false, esmeRinvpaswd) ↔
      (∃ element ∈ document.elements, ∃ other,
          IsEntry systemId other element) ∧
        ¬LastEntry systemId password document
  unknown :
    authenticate credentials systemId password = (false, esmeRinvsysid) ↔
      ¬∃ element ∈ document.elements, ∃ other,
        IsEntry systemId other element

theorem table_answers (document : Document) (systemId password : Octets) :
    AnswersBy document.table document systemId password := by
  have known := exists_lastEntry_iff document systemId
  simp only [← lookup_table_iff] at known
  cases found : document.table[systemId]? with
  | none =>
      have isAnswer := authenticate_missing found password
      rw [found] at known
      have nobody : ¬∃ element ∈ document.elements, ∃ other,
          IsEntry systemId other element := by
        rw [← known]
        nofun
      refine ⟨?_, ?_, ?_⟩
      · rw [isAnswer, ← lookup_table_iff, found]
        exact iff_of_false (by decide) nofun
      · rw [isAnswer]
        exact iff_of_false (by decide) (fun both => nobody both.1)
      · exact iff_of_true isAnswer nobody
  | some stored =>
      have isAnswer := authenticate_found found password
      rw [found] at known
      have somebody := known.mp ⟨stored, rfl⟩
      have last_iff : LastEntry systemId password document ↔
          stored = password := by
        rw [← lookup_table_iff, found, Option.some.injEq]
      by_cases same : stored = password
      · rw [if_pos same] at isAnswer
        refine ⟨?_, ?_, ?_⟩
        · exact iff_of_true isAnswer (last_iff.mpr same)
        · rw [isAnswer]
          exact iff_of_false (by decide)
            (fun both => both.2 (last_iff.mpr same))
        · rw [isAnswer]
          exact iff_of_false (by decide) (not_not.mpr somebody)
      · rw [if_neg same] at isAnswer
        refine ⟨?_, ?_, ?_⟩
        · rw [isAnswer]
          exact iff_of_false (by decide) (fun last => same (last_iff.mp last))
        · exact iff_of_true isAnswer
            ⟨somebody, fun last => same (last_iff.mp last)⟩
        · rw [isAnswer]
          exact iff_of_false (by decide) (not_not.mpr somebody)

end OpenSmsc.CredentialsStore

namespace OpenSmsc.AuthService

open Foundation CredentialsStore

/-! ### Runs -/

def goodFiles (events : List Event) : List Document :=
  events.filterMap fun
    | .reloadCredentials file => file
    | .authenticate _ _ _ _ => none

/-- The last file that parsed, the first one if no reload succeeded. -/
def lastGoodFile (initial : Document) (events : List Event) : Document :=
  (goodFiles events).getLastD initial

theorem lastGoodFile_concat (initial : Document) (events : List Event)
    (event : Event) :
    lastGoodFile initial (events ++ [event]) =
      match event with
      | .reloadCredentials (some document) => document
      | _ => lastGoodFile initial events := by
  unfold lastGoodFile goodFiles
  rw [List.filterMap_append]
  cases event with
  | authenticate uuid systemId password sourceIp => simp
  | reloadCredentials file =>
      cases file with
      | none => simp
      | some document => simp

theorem store_follows_lastGoodFile (initial : Document)
    (events : List Event) :
    machine.final initial.table events =
      (lastGoodFile initial events).table := by
  induction events using List.reverseRecOn with
  | nil => rfl
  | append_singleton earlier event ih =>
      rw [Machine.final_concat, ih, lastGoodFile_concat]
      cases event with
      | authenticate uuid systemId password sourceIp => rfl
      | reloadCredentials file =>
          cases file with
          | none => rfl
          | some document => rfl

/-- Whatever was loaded and asked before, a login is answered by the last file
that parsed, and a reload that fails leaves all answers as they were. -/
theorem authenticate_follows_lastGoodFile (initial : Document)
    (events : List Event) (uuid systemId password sourceIp : Octets) :
    let store := machine.final initial.table events
    CredentialsStore.create (some initial) = some initial.table ∧
      authenticate store uuid systemId password sourceIp =
        CredentialsStore.authenticate store systemId password ∧
      AnswersBy store (lastGoodFile initial events) systemId password ∧
      machine.final initial.table (events ++ [.reloadCredentials none]) =
        store := by
  dsimp only
  refine ⟨rfl, rfl, ?_, ?_⟩
  · rw [store_follows_lastGoodFile]
    exact table_answers _ systemId password
  · rw [Machine.final_concat]
    rfl

/-- An incomplete entry neither counts nor hides a complete one, and the later
of two complete ones counts. -/
example :
    let document : Document :=
      { credentials := some
          [.table (some (text "a")) (some (text "1")),
            .table (some (text "a")) (some (text "2")),
            .table (some (text "a")) none, .other] }
    CredentialsStore.authenticate document.table (text "a") (text "2") =
        (true, CredentialsStore.ok) ∧
      CredentialsStore.authenticate document.table (text "a") (text "1") =
        (false, CredentialsStore.esmeRinvpaswd) := by
  decide +kernel

end OpenSmsc.AuthService
