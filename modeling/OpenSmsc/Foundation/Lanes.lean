/-
A list of items under way, seen as one queue for each key.

Items enter at the end.  The next item of a key can leave at any time, past the
items of other keys, so each key's items stay in order and nothing is said
about the order between keys.
-/

import Mathlib.Data.List.Basic

namespace OpenSmsc.Foundation.Lanes

universe u v

variable {Item : Type u} {Key : Type v} [DecidableEq Key] (key : Item → Key)

/-- The items of one key. -/
def lane (owner : Key) (items : List Item) : List Item :=
  items.filter fun item => decide (key item = owner)

/-- The first item of a key, and what is left without it. -/
def takeNext (owner : Key) : List Item → Option (Item × List Item)
  | [] => none
  | item :: rest =>
      if key item = owner then some (item, rest)
      else (takeNext owner rest).map fun taken => (taken.1, item :: taken.2)

variable {key}

@[simp] theorem lane_append (owner : Key) (first second : List Item) :
    lane key owner (first ++ second) =
      lane key owner first ++ lane key owner second :=
  List.filter_append _ _

theorem lane_singleton_self {item : Item} {owner : Key}
    (own : key item = owner) : lane key owner [item] = [item] := by
  simp [lane, own]

theorem lane_singleton_other {item : Item} {owner : Key}
    (foreign : key item ≠ owner) : lane key owner [item] = [] := by
  simp [lane, foreign]

variable (key) in
structure Taken (owner : Key) (items : List Item) (item : Item)
    (rest : List Item) : Prop where
  own : key item = owner
  same : lane key owner items = item :: lane key owner rest
  others : ∀ other, other ≠ owner → lane key other rest = lane key other items
  perm : items.Perm (item :: rest)

theorem takeNext_some {owner : Key} {items rest : List Item} {item : Item}
    (found : takeNext key owner items = some (item, rest)) :
    Taken key owner items item rest := by
  induction items generalizing rest with
  | nil => cases found
  | cons first later ih =>
      by_cases own : key first = owner
      · rw [takeNext, if_pos own] at found
        cases found
        refine ⟨own, ?_, ?_, List.Perm.refl _⟩
        · simp [lane, own]
        · intro other different
          have foreign : key item ≠ other := by
            rw [own]
            exact different.symm
          simp [lane, foreign]
      · rw [takeNext, if_neg own, Option.map_eq_some_iff] at found
        obtain ⟨⟨taken, left⟩, inLater, isPair⟩ := found
        cases isPair
        have earlier := ih inLater
        refine ⟨earlier.own, ?_, ?_, ?_⟩
        · have same := earlier.same
          simp only [lane, List.filter_cons, own, decide_false] at same ⊢
          exact same
        · intro other different
          have others := earlier.others other different
          simp only [lane, List.filter_cons] at others ⊢
          rw [others]
        · exact (earlier.perm.cons first).trans (List.Perm.swap _ _ _)

theorem Taken.split {owner : Key} {items rest : List Item} {item : Item}
    (taken : Taken key owner items item rest) (other : Key) :
    lane key other items =
      lane key other [item] ++ lane key other rest := by
  by_cases own : key item = other
  · have isOwner : other = owner := own.symm.trans taken.own
    rw [lane_singleton_self own, isOwner]
    exact taken.same
  · have different : other ≠ owner := by
      rintro rfl
      exact own taken.own
    rw [lane_singleton_other own, taken.others other different]
    rfl

variable (key) in
theorem takeNext_isSome {owner : Key} {items : List Item} {item : Item}
    (member : item ∈ items) (own : key item = owner) :
    ∃ taken, takeNext key owner items = some taken := by
  induction items with
  | nil => cases member
  | cons first later ih =>
      by_cases here : key first = owner
      · exact ⟨(first, later), if_pos here⟩
      · have inLater : item ∈ later := by
          rcases List.mem_cons.mp member with same | behind
          · rw [← same] at here
            exact absurd own here
          · exact behind
        obtain ⟨taken, found⟩ := ih inLater
        refine ⟨(taken.1, first :: taken.2), ?_⟩
        rw [takeNext, if_neg here, found]
        rfl

end OpenSmsc.Foundation.Lanes
