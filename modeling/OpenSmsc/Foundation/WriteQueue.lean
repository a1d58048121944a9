/-
Buffers on their way to a descriptor that takes them in parts.

Each write operation is a loop: it hands over some of its buffer and queues
itself again, behind all others, for the rest.  The operations share one
first-in first-out queue.  Closing the descriptor cancels what is left.
-/

import Mathlib.Data.List.Basic

namespace OpenSmsc.Foundation

universe u

structure WriteQueue (Item : Type u) where
  /-- What has been handed over. -/
  wire : List Item := []
  /-- The unwritten parts, the next operation first. -/
  pending : List (List Item) := []
  /-- The unwritten parts at the close. -/
  cancelled : List (List Item) := []
  isOpen : Bool := true
  deriving DecidableEq, Repr

namespace WriteQueue

variable {Item : Type u}

def requeue : List Item → List (List Item)
  | [] => []
  | rest => [rest]

@[simp] theorem flatten_requeue (rest : List Item) :
    (requeue rest).flatten = rest := by
  cases rest with
  | nil => rfl
  | cons item tail => simp [requeue]

theorem requeue_eq_nil (rest : List Item) :
    requeue rest = [] ↔ rest = [] := by
  cases rest <;> simp [requeue]

/-- Hand over the first `count` items of a buffer that is in front of
`others`. -/
def writePart (count : Nat) (buffer : List Item) (others : List (List Item))
    (q : WriteQueue Item) : WriteQueue Item :=
  { q with
    wire := q.wire ++ buffer.take count
    pending := others ++ requeue (buffer.drop count) }

/-- Start an operation.  On an idle descriptor it makes an attempt at once,
which hands over `attempt` items, none when the descriptor is not ready. -/
def enqueue (buffer : List Item) (attempt : Nat) (q : WriteQueue Item) :
    WriteQueue Item :=
  if q.isOpen = false then q
  else if q.pending.isEmpty then q.writePart attempt buffer []
  else { q with pending := q.pending ++ [buffer] }

/-- The descriptor takes `count` more items, all from the first operation. -/
def advance (count : Nat) (q : WriteQueue Item) : WriteQueue Item :=
  match q.pending with
  | [] => q
  | buffer :: others =>
      if count = 0 then q else q.writePart count buffer others

def close (q : WriteQueue Item) : WriteQueue Item :=
  { q with
    pending := []
    cancelled := q.cancelled ++ q.pending
    isOpen := false }

@[simp] theorem enqueue_isOpen (buffer : List Item) (attempt : Nat)
    (q : WriteQueue Item) : (q.enqueue buffer attempt).isOpen = q.isOpen := by
  unfold enqueue
  split
  · rfl
  · split <;> rfl

@[simp] theorem enqueue_cancelled (buffer : List Item) (attempt : Nat)
    (q : WriteQueue Item) :
    (q.enqueue buffer attempt).cancelled = q.cancelled := by
  unfold enqueue
  split
  · rfl
  · split <;> rfl

@[simp] theorem advance_isOpen (count : Nat) (q : WriteQueue Item) :
    (q.advance count).isOpen = q.isOpen := by
  unfold advance
  split
  · rfl
  · split <;> rfl

@[simp] theorem advance_cancelled (count : Nat) (q : WriteQueue Item) :
    (q.advance count).cancelled = q.cancelled := by
  unfold advance
  split
  · rfl
  · split <;> rfl

/-- A part of the first buffer is taken while another one waits. -/
def tears (count : Nat) (q : WriteQueue Item) : Bool :=
  match q.pending with
  | buffer :: _ :: _ => decide (0 < count ∧ count < buffer.length)
  | _ => false

/-! ### Order -/

/-- What was sent is what is on the wire and what is still to come, in this
order.  Nothing more comes from a closed descriptor. -/
structure InOrder (sent : List Item) (q : WriteQueue Item) : Prop where
  ordered : ∃ rest, q.wire ++ rest = sent ∧
    (q.isOpen = true → rest = q.pending.flatten)
  drained : q.isOpen = false → q.pending = []

theorem inOrder_empty : InOrder [] ({} : WriteQueue Item) :=
  ⟨⟨[], rfl, fun _ => rfl⟩, fun _ => rfl⟩

theorem InOrder.wire_prefix_sent {sent : List Item} {q : WriteQueue Item}
    (inOrder : InOrder sent q) : q.wire <+: sent := by
  obtain ⟨rest, whole, _⟩ := inOrder.ordered
  exact ⟨rest, whole⟩

theorem writePart_keeps (count : Nat) (buffer : List Item)
    (others : List (List Item)) (q : WriteQueue Item)
    (inPlace : others = [] ∨ buffer.length ≤ count) :
    (q.writePart count buffer others).wire ++
        (q.writePart count buffer others).pending.flatten =
      q.wire ++ (buffer :: others).flatten := by
  simp only [writePart, List.flatten_append, flatten_requeue,
    List.flatten_cons, List.append_assoc]
  rcases inPlace with alone | whole
  · rw [alone, List.flatten_nil, List.nil_append, List.append_nil,
      List.take_append_drop]
  · rw [List.drop_of_length_le whole, List.take_of_length_le whole,
      List.append_nil]

theorem InOrder.whole {sent : List Item} {q : WriteQueue Item}
    (inOrder : InOrder sent q) (isOpen : q.isOpen = true) :
    q.wire ++ q.pending.flatten = sent := by
  obtain ⟨rest, whole, isRest⟩ := inOrder.ordered
  rw [← isRest isOpen]
  exact whole

theorem inOrder_of_open {sent : List Item} {q : WriteQueue Item}
    (isOpen : q.isOpen = true)
    (whole : q.wire ++ q.pending.flatten = sent) : InOrder sent q := by
  refine ⟨⟨_, whole, fun _ => rfl⟩, ?_⟩
  intro closed
  rw [isOpen] at closed
  contradiction

theorem InOrder.enqueue {sent : List Item} {q : WriteQueue Item}
    (inOrder : InOrder sent q) (buffer : List Item) (attempt : Nat) :
    InOrder (sent ++ buffer) (q.enqueue buffer attempt) := by
  cases isOpen : q.isOpen with
  | false =>
      have unchanged : q.enqueue buffer attempt = q := if_pos isOpen
      obtain ⟨rest, whole, _⟩ := inOrder.ordered
      rw [unchanged]
      refine ⟨⟨rest ++ buffer, ?_, ?_⟩, inOrder.drained⟩
      · rw [← List.append_assoc, whole]
      · intro opened
        rw [isOpen] at opened
        contradiction
  | true =>
      have whole := inOrder.whole isOpen
      refine inOrder_of_open ((enqueue_isOpen buffer attempt q).trans isOpen)
        ?_
      unfold WriteQueue.enqueue
      rw [if_neg (by rw [isOpen]; decide)]
      split
      · rename_i idle
        rw [List.isEmpty_iff.mp idle, List.flatten_nil,
          List.append_nil] at whole
        rw [writePart_keeps attempt buffer [] q (Or.inl rfl), whole,
          List.flatten_cons, List.flatten_nil, List.append_nil]
      · rw [List.flatten_append, ← List.append_assoc, whole,
          List.flatten_cons, List.flatten_nil, List.append_nil]

theorem InOrder.advance {sent : List Item} {q : WriteQueue Item}
    (inOrder : InOrder sent q) (count : Nat)
    (whole : q.tears count = false) : InOrder sent (q.advance count) := by
  unfold WriteQueue.advance
  cases pending : q.pending with
  | nil => exact inOrder
  | cons buffer others =>
      dsimp only
      by_cases none : count = 0
      · rw [if_pos none]
        exact inOrder
      · rw [if_neg none]
        have isOpen : q.isOpen = true := by
          by_contra notOpen
          have drained := inOrder.drained (Bool.eq_false_iff.mpr notOpen)
          rw [pending] at drained
          contradiction
        have inPlace : others = [] ∨ buffer.length ≤ count := by
          cases others with
          | nil => exact Or.inl rfl
          | cons next more =>
              simp only [tears, pending, decide_eq_false_iff_not] at whole
              omega
        refine inOrder_of_open isOpen ?_
        rw [writePart_keeps count buffer others q inPlace, ← pending]
        exact inOrder.whole isOpen

theorem InOrder.close {sent : List Item} {q : WriteQueue Item}
    (inOrder : InOrder sent q) : InOrder sent q.close := by
  obtain ⟨rest, whole, _⟩ := inOrder.ordered
  exact ⟨⟨rest, whole, fun opened => absurd opened Bool.false_ne_true⟩,
    fun _ => rfl⟩

/-! ### Closing -/

/-- An operation started right before the close is complete exactly when the
descriptor was idle and took the whole buffer at once. -/
theorem enqueue_pending_eq_nil (buffer : List Item) (attempt : Nat)
    (q : WriteQueue Item) (isOpen : q.isOpen = true) :
    (q.enqueue buffer attempt).pending = [] ↔
      q.pending = [] ∧ buffer.length ≤ attempt := by
  unfold enqueue
  rw [if_neg (by rw [isOpen]; decide)]
  by_cases idle : q.pending = []
  · rw [if_pos (List.isEmpty_iff.mpr idle)]
    simp only [writePart, List.nil_append, requeue_eq_nil,
      List.drop_eq_nil_iff, idle, true_and]
  · rw [if_neg (fun empty => idle (List.isEmpty_iff.mp empty))]
    simp [idle]

end WriteQueue

end OpenSmsc.Foundation
