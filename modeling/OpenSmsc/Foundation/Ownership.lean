/-
Resources, the table that owns them, and those nobody owns any more.

A resource is acquired together with its table entry, acquired without one, or
loses its entry.  None is ever given back here, so the open ones are always the
owned ones and the abandoned ones.
-/

import OpenSmsc.Foundation.Collections

namespace OpenSmsc.Foundation.Ownership

universe u v w

variable {Key : Type u} {Value : Type v} {Item : Type w}
  {cmp : Key → Key → Ordering} [Std.TransCmp cmp] [Std.LawfulEqCmp cmp]
  (item : Value → Item)

def Held (table : Std.TreeMap Key Value cmp) (resource : Item) : Prop :=
  ∃ (key : Key) (value : Value),
    table[key]? = some value ∧ item value = resource

def Distinct (table : Std.TreeMap Key Value cmp) : Prop :=
  ∀ (key other : Key) (value content : Value),
    table[key]? = some value → table[other]? = some content →
    item value = item content → key = other

variable {item} {table : Std.TreeMap Key Value cmp}

theorem held_insert (key : Key) (value : Value)
    (fresh : table[key]? = none) (resource : Item) :
    Held item (table.insert key value) resource ↔
      resource = item value ∨ Held item table resource := by
  constructor
  · rintro ⟨other, content, found, holds⟩
    by_cases same : key = other
    · subst same
      rw [Table.lookup_insert_self] at found
      cases found
      exact Or.inl holds.symm
    · rw [Table.lookup_insert_ne table value same] at found
      exact Or.inr ⟨other, content, found, holds⟩
  · rintro (rfl | ⟨other, content, found, holds⟩)
    · exact ⟨key, value, Table.lookup_insert_self table key value, rfl⟩
    · have different : key ≠ other := by
        rintro rfl
        rw [fresh] at found
        contradiction
      refine ⟨other, content, ?_, holds⟩
      rw [Table.lookup_insert_ne table value different]
      exact found

theorem held_erase {key : Key} {value : Value} (distinct : Distinct item table)
    (found : table[key]? = some value) (resource : Item) :
    Held item (table.erase key) resource ↔
      Held item table resource ∧ resource ≠ item value := by
  constructor
  · rintro ⟨other, content, present, rfl⟩
    obtain ⟨different, held⟩ := Table.lookup_of_erase present
    refine ⟨⟨other, content, held, rfl⟩, ?_⟩
    intro same
    exact different (distinct other key content value held found same).symm
  · rintro ⟨⟨other, content, held, rfl⟩, notValue⟩
    have different : key ≠ other := by
      rintro rfl
      rw [found] at held
      cases held
      exact notValue rfl
    refine ⟨other, content, ?_, rfl⟩
    rw [Table.lookup_erase_ne table different]
    exact held

theorem Distinct.insert (distinct : Distinct item table) (key : Key)
    (value : Value) (new : ¬Held item table (item value)) :
    Distinct item (table.insert key value) := by
  intro left right leftValue rightValue isLeft isRight same
  by_cases leftNew : key = left
  · by_cases rightNew : key = right
    · exact leftNew.symm.trans rightNew
    · subst leftNew
      rw [Table.lookup_insert_self] at isLeft
      rw [Table.lookup_insert_ne table value rightNew] at isRight
      cases isLeft
      exact absurd ⟨right, rightValue, isRight, same.symm⟩ new
  · rw [Table.lookup_insert_ne table value leftNew] at isLeft
    by_cases rightNew : key = right
    · subst rightNew
      rw [Table.lookup_insert_self] at isRight
      cases isRight
      exact absurd ⟨left, leftValue, isLeft, same⟩ new
    · rw [Table.lookup_insert_ne table value rightNew] at isRight
      exact distinct left right leftValue rightValue isLeft isRight same

theorem Distinct.erase (distinct : Distinct item table) (key : Key) :
    Distinct item (table.erase key) := by
  intro left right leftValue rightValue isLeft isRight same
  exact distinct left right leftValue rightValue (Table.lookup_of_erase isLeft).2
    (Table.lookup_of_erase isRight).2 same

/-! ### Accounts -/

/-- Every open resource is owned by one entry or has been abandoned. -/
structure Accounted (item : Value → Item) (table : Std.TreeMap Key Value cmp)
    (opened abandoned : List Item) : Prop where
  covered : ∀ resource, resource ∈ opened ↔
    Held item table resource ∨ resource ∈ abandoned
  apart : ∀ resource, Held item table resource → resource ∉ abandoned
  distinct : Distinct item table

variable {opened abandoned : List Item}

omit [Std.LawfulEqCmp cmp] in
theorem Accounted.empty :
    Accounted item (∅ : Std.TreeMap Key Value cmp) [] [] := by
  have nothing (resource : Item) :
      ¬Held item (∅ : Std.TreeMap Key Value cmp) resource := by
    rintro ⟨key, value, found, _⟩
    simp at found
  refine ⟨?_, ?_, ?_⟩
  · intro resource
    simp [nothing]
  · intro resource held
    exact absurd held (nothing resource)
  · intro left right leftValue rightValue isLeft
    simp at isLeft

theorem Accounted.acquire (accounted : Accounted item table opened abandoned)
    (key : Key) (value : Value) (fresh : table[key]? = none)
    (new : item value ∉ opened) :
    Accounted item (table.insert key value) (item value :: opened)
      abandoned := by
  rw [accounted.covered, not_or] at new
  refine ⟨?_, ?_, accounted.distinct.insert key value new.1⟩
  · intro resource
    rw [List.mem_cons, accounted.covered, held_insert key value fresh,
      or_assoc]
  · intro resource held
    rcases (held_insert key value fresh resource).mp held with rfl | older
    · exact new.2
    · exact accounted.apart resource older

omit [Std.TransCmp cmp] [Std.LawfulEqCmp cmp] in
theorem Accounted.abandon (accounted : Accounted item table opened abandoned)
    (resource : Item) (new : resource ∉ opened) :
    Accounted item table (resource :: opened)
      (abandoned ++ [resource]) := by
  rw [accounted.covered, not_or] at new
  refine ⟨?_, ?_, accounted.distinct⟩
  · intro other
    rw [List.mem_cons, accounted.covered, List.mem_append,
      List.mem_singleton]
    constructor
    · rintro (isNew | held | older)
      · exact Or.inr (Or.inr isNew)
      · exact Or.inl held
      · exact Or.inr (Or.inl older)
    · rintro (held | older | isNew)
      · exact Or.inr (Or.inl held)
      · exact Or.inr (Or.inr older)
      · exact Or.inl isNew
  · intro other held
    rw [List.mem_append, List.mem_singleton, not_or]
    refine ⟨accounted.apart other held, ?_⟩
    rintro rfl
    exact new.1 held

theorem Accounted.forget (accounted : Accounted item table opened abandoned)
    {key : Key} {value : Value} (found : table[key]? = some value) :
    Accounted item (table.erase key) opened
      (abandoned ++ [item value]) := by
  have others := held_erase accounted.distinct found
  refine ⟨?_, ?_, accounted.distinct.erase key⟩
  · intro resource
    rw [accounted.covered, others, List.mem_append, List.mem_singleton]
    constructor
    · rintro (held | older)
      · by_cases same : resource = item value
        · exact Or.inr (Or.inr same)
        · exact Or.inl ⟨held, same⟩
      · exact Or.inr (Or.inl older)
    · rintro (⟨held, _⟩ | older | rfl)
      · exact Or.inl held
      · exact Or.inr older
      · exact Or.inl ⟨key, value, found, rfl⟩
  · intro resource held
    obtain ⟨held, notValue⟩ := (others resource).mp held
    rw [List.mem_append, List.mem_singleton, not_or]
    exact ⟨accounted.apart resource held, notValue⟩

omit [Std.TransCmp cmp] [Std.LawfulEqCmp cmp] in
theorem Accounted.owned_iff
    (accounted : Accounted item table opened abandoned) :
    (∀ resource, resource ∈ opened ↔ Held item table resource) ↔
      abandoned = [] := by
  constructor
  · intro owned
    rw [List.eq_nil_iff_forall_not_mem]
    intro resource lost
    have isOpen := (accounted.covered resource).mpr (Or.inr lost)
    exact accounted.apart resource ((owned resource).mp isOpen) lost
  · rintro rfl resource
    rw [accounted.covered]
    simp

end OpenSmsc.Foundation.Ownership
