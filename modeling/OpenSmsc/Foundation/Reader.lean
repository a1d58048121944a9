/-
Readers over the items of a finite sequence that are still to be consumed.

A reader returns a value and the items it leaves.  A scanner works on the
whole sequence and moves an offset instead.  `Tracks` relates the two: the
scanner returns the reader's value and stops where the reader's rest begins,
so a property of the layout is proved about readers and holds of scanners.
`Shortens` compares a reader on two inputs of which one breaks off earlier, and
`Guards` says that a scanner never leaves its buffer.
-/

import Mathlib.Data.List.Basic
import Mathlib.Data.List.Infix

namespace OpenSmsc.Foundation

/-- A computation over one buffer that moves an offset. -/
abbrev Scanner (Value : Type) := StateM Nat Value

/-- A computation over one buffer that moves an offset and stops dead when it
leaves the buffer. -/
abbrev CheckedScanner (Value : Type) := StateT Nat Option Value

/-- A computation that consumes the front of a list. -/
abbrev Reader (Item : Type) (Value : Type) := StateM (List Item) Value

namespace Reader

variable {Item Value Next : Type}

/-- Read up to `room` items that precede a `stop` item.  The stop item is
consumed and not returned; when the room is used up first, it is left. -/
def field [DecidableEq Item] (stop : Item) :
    Nat → Reader Item (List Item)
  | 0, rest => ([], rest)
  | _ + 1, [] => ([], [])
  | room + 1, item :: rest =>
      if item = stop then ([], rest)
      else
        (item :: (field stop room rest).1, (field stop room rest).2)

/-- Read one item, or `absent` when none is left. -/
def single (absent : Item) : Reader Item Item
  | [] => (absent, [])
  | item :: rest => (item, rest)

def block (count : Nat) : Reader Item (List Item) :=
  fun items => (items.take count, items.drop count)

section Field

variable [DecidableEq Item] (stop : Item)

theorem field_terminated (room : Nat) (value rest : List Item)
    (free : stop ∉ value) (fits : value.length < room) :
    field stop room (value ++ stop :: rest) = (value, rest) := by
  induction value generalizing room with
  | nil =>
      cases room with
      | zero => simp at fits
      | succ room => simp [field]
  | cons item tail ih =>
      cases room with
      | zero => simp at fits
      | succ room =>
          have itemNe : item ≠ stop := fun same => free (by simp [same])
          have tailFree : stop ∉ tail := fun member => free (by simp [member])
          have tailFits : tail.length < room := by
            simpa using fits
          simp [field, itemNe, ih room tailFree tailFits]

/-- A field that uses the whole room stops there: whatever follows, a
terminator included, is left unread. -/
theorem field_full (value rest : List Item) (free : stop ∉ value) :
    field stop value.length (value ++ rest) = (value, rest) := by
  induction value with
  | nil => simp [field]
  | cons item tail ih =>
      have itemNe : item ≠ stop := fun same => free (by simp [same])
      have tailFree : stop ∉ tail := fun member => free (by simp [member])
      simp [field, itemNe, ih tailFree]

theorem field_value_free (room : Nat) (items : List Item) :
    stop ∉ (field stop room items).1 := by
  induction items generalizing room with
  | nil => cases room <;> simp [field]
  | cons item rest ih =>
      cases room with
      | zero => simp [field]
      | succ room =>
          by_cases same : item = stop
          · simp [field, same]
          · have restFree := ih room
            simp only [field, if_neg same, List.mem_cons, not_or]
            exact ⟨fun equal => same equal.symm, restFree⟩

theorem field_value_length_le (room : Nat) (items : List Item) :
    (field stop room items).1.length ≤ room := by
  induction items generalizing room with
  | nil => cases room <;> simp [field]
  | cons item rest ih =>
      cases room with
      | zero => simp [field]
      | succ room =>
          by_cases same : item = stop
          · simp [field, same]
          · have bound := ih room
            simpa [field, same] using bound

end Field

/-! ### Sequencing -/

theorem bind_apply (reader : Reader Item Value)
    (next : Value → Reader Item Next) (items : List Item) :
    (reader >>= next) items = next (reader items).1 (reader items).2 := rfl

theorem bind_eq {reader : Reader Item Value} {items rest : List Item}
    {value : Value} (read : reader items = (value, rest))
    (next : Value → Reader Item Next) :
    (reader >>= next) items = next value rest := by
  rw [bind_apply, read]

/-- Every value the reader can return satisfies `good`. -/
def Ensures (reader : Reader Item Value) (good : Value → Prop) : Prop :=
  ∀ items, good (reader items).1

theorem Ensures.bind {reader : Reader Item Value}
    {next : Value → Reader Item Next} {first : Value → Prop}
    {good : Next → Prop} (ensures : Ensures reader first)
    (later : ∀ value, first value → Ensures (next value) good) :
    Ensures (reader >>= next) good := by
  intro items
  rw [bind_apply]
  exact later _ (ensures items) _

theorem Ensures.pure {value : Value} {good : Value → Prop}
    (holds : good value) :
    Ensures (Pure.pure value : Reader Item Value) good :=
  fun _ => holds

theorem Ensures.trivial (reader : Reader Item Value) :
    Ensures reader (fun _ => True) :=
  fun _ => True.intro

/-! ### Scanners that follow readers -/

/-- `scan`, started at `offset` in `buffer`, does what `reader` does on the
items from `offset` on. -/
def Tracks (buffer : List Item) (scan : Scanner Value)
    (reader : Reader Item Value) : Prop :=
  ∀ offset : Nat,
    (scan offset).1 = (reader (buffer.drop offset)).1 ∧
      buffer.drop (scan offset).2 = (reader (buffer.drop offset)).2

theorem Tracks.pure (buffer : List Item) (value : Value) :
    Tracks buffer (Pure.pure value) (Pure.pure value) := by
  intro offset
  exact ⟨rfl, rfl⟩

theorem Tracks.bind {buffer : List Item} {scan : Scanner Value}
    {reader : Reader Item Value} {scanNext : Value → Scanner Next}
    {readerNext : Value → Reader Item Next}
    (first : Tracks buffer scan reader)
    (next : ∀ value, Tracks buffer (scanNext value) (readerNext value)) :
    Tracks buffer (scan >>= scanNext) (reader >>= readerNext) := by
  intro offset
  obtain ⟨valueEq, restEq⟩ := first offset
  have later := next (scan offset).1 (scan offset).2
  rw [restEq] at later
  rw [valueEq] at later
  change
    (scanNext (scan offset).1 (scan offset).2).1 =
        (readerNext (reader (buffer.drop offset)).1
          (reader (buffer.drop offset)).2).1 ∧
      buffer.drop (scanNext (scan offset).1 (scan offset).2).2 =
        (readerNext (reader (buffer.drop offset)).1
          (reader (buffer.drop offset)).2).2
  rw [valueEq]
  exact later

theorem Tracks.value_eq {buffer : List Item} {scan : Scanner Value}
    {reader : Reader Item Value} (tracks : Tracks buffer scan reader) :
    (scan 0).1 = (reader buffer).1 := by
  simpa using (tracks 0).1

/-! ### Inputs that break off -/

/-- On an input that breaks off earlier, `left` returns what is `related` to
the value of `right` and leaves a front part of its rest. -/
def Shortens (related : Value → Value → Prop)
    (left right : Reader Item Value) : Prop :=
  ∀ short long, short <+: long →
    related (left short).1 (right long).1 ∧
      (left short).2 <+: (right long).2

theorem Shortens.pure {related : Value → Value → Prop} {left right : Value}
    (holds : related left right) :
    Shortens related (Pure.pure left : Reader Item Value)
      (Pure.pure right) :=
  fun _ _ front => ⟨holds, front⟩

theorem Shortens.bind {related : Value → Value → Prop}
    {relatedNext : Next → Next → Prop} {left right : Reader Item Value}
    {leftNext rightNext : Value → Reader Item Next}
    (first : Shortens related left right)
    (next : ∀ leftValue rightValue, related leftValue rightValue →
      Shortens relatedNext (leftNext leftValue) (rightNext rightValue)) :
    Shortens relatedNext (left >>= leftNext) (right >>= rightNext) := by
  intro short long front
  obtain ⟨values, rests⟩ := first short long front
  rw [bind_apply, bind_apply]
  exact next _ _ values _ _ rests

theorem field_shortens [DecidableEq Item] (stop : Item) (room : Nat) :
    Shortens (· <+: ·) (field stop room) (field stop room) := by
  intro short long front
  induction short generalizing room long with
  | nil =>
      have nothing : field stop room ([] : List Item) = ([], []) := by
        cases room <;> rfl
      rw [nothing]
      exact ⟨List.nil_prefix, List.nil_prefix⟩
  | cons item rest ih =>
      obtain ⟨tail, isLong⟩ := front
      rw [← isLong, List.cons_append]
      cases room with
      | zero => exact ⟨List.prefix_rfl, List.prefix_append (item :: rest) tail⟩
      | succ room =>
          unfold field
          by_cases isStop : item = stop
          · rw [if_pos isStop, if_pos isStop]
            exact ⟨List.prefix_rfl, List.prefix_append rest tail⟩
          · rw [if_neg isStop, if_neg isStop]
            obtain ⟨values, rests⟩ :=
              ih room (rest ++ tail) (List.prefix_append rest tail)
            exact ⟨List.cons_prefix_cons.mpr ⟨rfl, values⟩, rests⟩

theorem single_shortens (absent : Item) :
    Shortens (fun short long => short = absent ∨ short = long)
      (single absent) (single absent) := by
  intro short long front
  cases short with
  | nil => exact ⟨.inl rfl, List.nil_prefix⟩
  | cons item rest =>
      obtain ⟨tail, isLong⟩ := front
      rw [← isLong]
      exact ⟨.inr rfl, List.prefix_append rest tail⟩

theorem block_shortens (count : Nat) :
    Shortens (· <+: ·) (block count : Reader Item (List Item))
      (block count) := by
  intro short long front
  exact ⟨List.IsPrefix.take front count, List.IsPrefix.drop front count⟩

/-! ### Scanners that stay inside their buffer -/

/-- `checked` never stops and does what `scan` does. -/
def Guards (checked : CheckedScanner Value) (scan : Scanner Value) : Prop :=
  ∀ offset, checked offset = some (scan offset)

theorem Guards.pure (value : Value) :
    Guards (Pure.pure value) (Pure.pure value) :=
  fun _ => rfl

theorem Guards.bind {checked : CheckedScanner Value} {scan : Scanner Value}
    {checkedNext : Value → CheckedScanner Next}
    {scanNext : Value → Scanner Next} (first : Guards checked scan)
    (next : ∀ value, Guards (checkedNext value) (scanNext value)) :
    Guards (checked >>= checkedNext) (scan >>= scanNext) := by
  intro offset
  change (checked offset).bind (fun result =>
    checkedNext result.1 result.2) = _
  rw [first offset]
  exact next _ _

end Reader

end OpenSmsc.Foundation
