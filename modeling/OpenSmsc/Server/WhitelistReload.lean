/-
What a whitelist file leaves behind when a line of it cannot be read.

`load_config` empties both containers before it opens the file and `stoi`
throws out of its loop, so after a failed load the validator answers for the
lines read so far.  Lines that are skipped with a warning cost nothing.
-/

import Mathlib.Data.List.TakeWhile
import OpenSmsc.Server.IpValidator

namespace OpenSmsc.IpValidator

open TextInput

/-! ### Reading a line, decided -/

instance : DecidablePred Readable := fun line =>
  decidable_of_iff
    ((loadLine line { configFile := [] }).toOption.isSome = true) <| by
    rw [← loadLine_ok_iff line { configFile := [] }]
    cases loadLine line { configFile := [] } <;> simp [Except.toOption]

/-- A range entry that lists no range. -/
def Malformed (line : Octets) : Prop :=
  (∃ networkStr suffix, SplitsAt line networkStr suffix) ∧
    ∀ net prefixLen, ¬ListsRange line net prefixLen

/-- The range `load_config` gains from a line; none when it throws. -/
def rangesOf (line : Octets) : List CidrV4 :=
  match loadLine line { configFile := [] } with
  | .error _ => []
  | .ok v => v.cidrs

theorem SplitsAt.slash_mem {line networkStr suffix : Octets}
    (splits : SplitsAt line networkStr suffix) :
    47 ∈ trim line ∧ (trim line).head? ≠ some 35 := by
  obtain ⟨⟨isEntry, _, noComment⟩, _⟩ := splits
  rw [isEntry]
  exact ⟨by simp, noComment⟩

theorem malformed_iff (line : Octets) :
    (47 ∈ trim line ∧ (trim line).head? ≠ some 35 ∧ rangesOf line = []) ↔
      Malformed line := by
  unfold rangesOf
  cases loadLine_loaded line { configFile := [] } with
  | skipped noEntry isResult =>
      refine iff_of_false ?_ ?_
      · rintro ⟨slash, noComment, _⟩
        exact noEntry (trim line)
          ⟨rfl, List.ne_nil_of_mem slash, noComment⟩
      · rintro ⟨⟨_, _, splits⟩, _⟩
        exact noEntry _ splits.1
  | exact ip lists isResult =>
      refine iff_of_false ?_ ?_
      · rintro ⟨slash, _⟩
        rw [lists.1.1] at slash
        exact lists.2 slash
      · rintro ⟨⟨_, _, splits⟩, _⟩
        exact lists.not_splitsAt splits
  | failed networkStr suffix error splits noNumber isResult =>
      refine iff_of_true ?_ ?_
      · rw [isResult]
        exact ⟨splits.slash_mem.1, splits.slash_mem.2, rfl⟩
      · refine ⟨⟨_, _, splits⟩, ?_⟩
        intro net prefixLen lists
        have number := (splits.of_listsRange lists).2.1
        rw [noNumber] at number
        contradiction
  | unusable networkStr suffix prefixLen splits isNumber notRange isResult =>
      refine iff_of_true ?_ ?_
      · rw [isResult]
        exact ⟨splits.slash_mem.1, splits.slash_mem.2, rfl⟩
      · exact ⟨⟨_, _, splits⟩, splits.not_listsRange isNumber notRange⟩
  | range net prefixLen lists isResult =>
      refine iff_of_false ?_ ?_
      · rw [isResult]
        rintro ⟨_, _, empty⟩
        simp at empty
      · rintro ⟨_, noRange⟩
        exact noRange net prefixLen lists

instance : DecidablePred Malformed := fun line =>
  decidable_of_iff _ (malformed_iff line)

theorem Malformed.lists_nothing {line : Octets} (malformed : Malformed line) :
    (∀ ip, ¬ListsExact line ip) ∧ ∀ addr, ¬Covers line addr := by
  obtain ⟨⟨networkStr, suffix, splits⟩, noRange⟩ := malformed
  refine ⟨?_, ?_⟩
  · intro ip lists
    exact lists.not_splitsAt splits
  · rintro addr ⟨net, prefixLen, lists, _⟩
    exact noRange net prefixLen lists

theorem readable_of_not_malformed {line : Octets}
    (wellFormed : ¬Malformed line) : Readable line := by
  intro networkStr suffix splits
  by_contra unread
  apply wellFormed
  refine ⟨⟨networkStr, suffix, splits⟩, ?_⟩
  intro net prefixLen lists
  exact unread ⟨prefixLen, (splits.of_listsRange lists).2.1⟩

/-! ### The lines read before an exception -/

/-- The lines `load_config` has gone through when it returns or throws. -/
def linesRead : Option Octets → List Octets
  | none => []
  | some contents => (getlines contents).takeWhile fun line => Readable line

theorem loadLines_adds_read (lines : List Octets) (v : Validator) :
    Adds (lines.takeWhile fun line => Readable line) v
      (loadLines lines v).1 := by
  induction lines generalizing v with
  | nil => exact Adds.refl v
  | cons line rest ih =>
      have readable := loadLine_ok_iff line v
      unfold loadLines
      cases loaded : loadLine line v with
      | error error =>
          have unread : ¬Readable line := by
            rw [← readable, loaded]
            simp
          rw [List.takeWhile_cons_of_neg (by simpa using unread)]
          exact Adds.refl v
      | ok middle =>
          have isRead : Readable line := readable.mp ⟨middle, loaded⟩
          rw [List.takeWhile_cons_of_pos (by simpa using isRead)]
          exact (loadLine_adds loaded).cons (ih middle)

theorem isAllowed_reload_iff (contents : Option Octets) (v : Validator)
    (ip : Octets) :
    isAllowed ip (reload contents v).1 = true ↔
      Permits (linesRead contents) ip := by
  cases contents with
  | none => exact isAllowed_of_adds (Adds.refl _) rfl rfl ip
  | some contents =>
      exact isAllowed_of_adds (loadLines_adds_read (getlines contents) _)
        rfl rfl ip

theorem linesRead_of_completes (contents : Octets) (v : Validator)
    (completes : (loadConfig (some contents) v).2 = none) :
    linesRead (some contents) = getlines contents := by
  have readable := (loadLines_completes_iff _ _).mp completes
  refine List.takeWhile_eq_self_iff.mpr ?_
  intro line member
  exact decide_eq_true (readable line member)

/-- `reload` returns exactly when the file opens and every line of it can be
read. -/
theorem reload_returns_iff (contents : Option Octets) (v : Validator) :
    (reload contents v).2 = none ↔
      ∃ file, contents = some file ∧
        ∀ line ∈ getlines file, Readable line := by
  cases contents with
  | none =>
      refine iff_of_false nofun ?_
      rintro ⟨file, impossible, _⟩
      cases impossible
  | some file =>
      have completes : (reload (some file) v).2 = none ↔
          ∀ line ∈ getlines file, Readable line :=
        loadLines_completes_iff _ _
      rw [completes]
      constructor
      · intro readable
        exact ⟨file, rfl, readable⟩
      · rintro ⟨_, same, readable⟩
        cases same
        exact readable

/-- `reload` starts from nothing, so a reload that throws keeps the answers
exactly when the validator allowed before what the lines in front of the
failing one list.  Of a file that cannot be opened these are none. -/
theorem reload_keeps_answers_iff (contents : Option Octets) (v : Validator) :
    (((reload contents v).2 ≠ none →
          ∀ ip, isAllowed ip (reload contents v).1 = isAllowed ip v) ∧
        ((reload contents v).2 = none →
          ∃ file, contents = some file ∧
            ∀ ip, isAllowed ip (reload contents v).1 = true ↔
              Permits (getlines file) ip)) ↔
      ((∃ file, contents = some file ∧
          ∀ line ∈ getlines file, Readable line) ∨
        ∀ ip, isAllowed ip v = true ↔ Permits (linesRead contents) ip) := by
  have answers := isAllowed_reload_iff contents v
  have kept :
      (∀ ip, isAllowed ip (reload contents v).1 = isAllowed ip v) ↔
        ∀ ip, isAllowed ip v = true ↔ Permits (linesRead contents) ip := by
    refine forall_congr' fun ip => ?_
    rw [Bool.eq_iff_iff, answers ip]
    exact Iff.comm
  rw [← reload_returns_iff contents v]
  constructor
  · rintro ⟨onFailure, _⟩
    by_cases returns : (reload contents v).2 = none
    · exact Or.inl returns
    · exact Or.inr (kept.mp (onFailure returns))
  · intro condition
    refine ⟨?_, ?_⟩
    · intro throws
      exact kept.mpr (condition.resolve_left throws)
    · intro returns
      cases contents with
      | none => contradiction
      | some file =>
          refine ⟨file, rfl, ?_⟩
          rw [← linesRead_of_completes file v returns]
          exact answers

/-- The second line of the new file cannot be read, and the first lists what
the validator allowed before. -/
theorem reload_keeps_same_front :
    let v : Validator :=
      (loadConfig (some (text "10.0.0.7\n")) { configFile := text "w.conf" }).1
    let file := some (text "10.0.0.7\n10.0.0.0/x\n::1\n")
    (reload file v).2 = some (.stoi .invalidArgument) ∧
      ∀ ip, isAllowed ip (reload file v).1 = isAllowed ip v := by
  intro v file
  have throws : (reload file v).2 = some (.stoi .invalidArgument) := by
    decide +kernel
  have front : linesRead file = getlines (text "10.0.0.7\n") := by
    decide +kernel
  refine ⟨throws, ?_⟩
  refine ((reload_keeps_answers_iff file v).mpr (Or.inr ?_)).1 ?_
  · rw [front]
    exact isAllowed_iff_permits { configFile := text "w.conf" } _
      (by decide +kernel)
  · rw [throws]
    exact Option.some_ne_none _

/-- A validator that allows `::1` allows nothing after its file became
unreadable, and only the first of three lines when the second has no
number. -/
theorem reload_loses_answers :
    let v : Validator :=
      (loadConfig (some (text "::1\n")) { configFile := text "w.conf" }).1
    let file := some (text "10.0.0.7\n10.0.0.0/x\n::1\n")
    isAllowed (text "::1") v = true ∧
      (reload none v).2 = some (.cannotOpen
        (text "IpValidator: cannot open config file: w.conf")) ∧
      isAllowed (text "::1") (reload none v).1 = false ∧
      (reload file v).2 = some (.stoi .invalidArgument) ∧
      isAllowed (text "::1") (reload file v).1 = false ∧
      isAllowed (text "10.0.0.7") v = false ∧
      isAllowed (text "10.0.0.7") (reload file v).1 = true := by
  decide +kernel

/-! ### Malformed lines -/

def withoutMalformed (contents : Octets) : Octets :=
  unlines ((getlines contents).filter fun line => ¬Malformed line)

theorem getlines_withoutMalformed (contents : Octets) :
    getlines (withoutMalformed contents) =
      (getlines contents).filter fun line => ¬Malformed line := by
  refine getlines_unlines _ ?_
  intro line member
  exact getlines_free contents line (List.mem_of_mem_filter member)

theorem permits_withoutMalformed (contents ip : Octets) :
    Permits (getlines (withoutMalformed contents)) ip ↔
      Permits (getlines contents) ip := by
  have same (lists : Octets → Prop)
      (notMalformed : ∀ line, lists line → ¬Malformed line) :
      (∃ line ∈ getlines (withoutMalformed contents), lists line) ↔
        ∃ line ∈ getlines contents, lists line := by
    refine exists_congr fun line => ?_
    rw [getlines_withoutMalformed, List.mem_filter, decide_eq_true_iff,
      and_assoc]
    refine and_congr_right fun _ => and_iff_right_of_imp ?_
    exact notMalformed line
  unfold Permits
  rw [same (ListsExact · ip) fun line lists malformed =>
    malformed.lists_nothing.1 ip lists]
  refine or_congr_right (exists_congr fun addr => and_congr_right fun _ => ?_)
  exact same (Covers · addr) fun line covers malformed =>
    malformed.lists_nothing.2 addr covers

theorem withoutMalformed_completes (contents : Octets) (v : Validator) :
    (loadConfig (some (withoutMalformed contents)) v).2 = none := by
  refine (loadLines_completes_iff _ _).mpr ?_
  rw [getlines_withoutMalformed]
  intro line member
  have kept := (List.mem_filter.mp member).2
  exact readable_of_not_malformed (of_decide_eq_true kept)

/-- A file loads like the file without its malformed lines exactly when `stoi`
finds a number after the slash of every range entry.  A number outside 0..32
or a network that is no address is skipped. -/
theorem loadConfig_skips_malformed_iff (contents : Octets) (v : Validator) :
    ((loadConfig (some contents) v).2 = none ∧
        ∀ ip, isAllowed ip (loadConfig (some contents) v).1 =
          isAllowed ip
            (loadConfig (some (withoutMalformed contents)) v).1) ↔
      ∀ line ∈ getlines contents, Readable line := by
  have completes :
      (loadConfig (some contents) v).2 = none ↔
        ∀ line ∈ getlines contents, Readable line :=
    loadLines_completes_iff _ _
  rw [completes]
  refine and_iff_left_of_imp ?_
  intro readable ip
  rw [Bool.eq_iff_iff,
    isAllowed_iff_permits v contents (completes.mpr readable) ip,
    isAllowed_iff_permits v (withoutMalformed contents)
      (withoutMalformed_completes contents v) ip,
    permits_withoutMalformed contents ip]

/-- A range entry without a number costs the line after it. -/
theorem loadConfig_stops_at_malformed :
    let v : Validator := { configFile := text "w.conf" }
    let file := text "10.0.0.0/x\n127.0.0.1\n"
    withoutMalformed file = text "127.0.0.1\n" ∧
      (loadConfig (some file) v).2 = some (.stoi .invalidArgument) ∧
      isAllowed (text "127.0.0.1") (loadConfig (some file) v).1 = false ∧
      isAllowed (text "127.0.0.1")
        (loadConfig (some (withoutMalformed file)) v).1 = true := by
  decide +kernel

end OpenSmsc.IpValidator
