import Mathlib.Tactic.Common
import Zet.Core.Bytes

/-!
# The byte queue

`src/app/byte_queue.cpp`: bytes waiting for a descriptor that took less than all of them. The front is
consumed from an offset and the storage compacted once the front has passed half of it. A queue is its
limit and what waits in it (`front`): `appendTo_eq_some` and `front_consume` say what the two operations
do in those terms, and nothing above looks at the storage.
-/

namespace Zet.App
open Zet.Core

/-- `ByteQueue`: the offset of the front never passes the storage. -/
structure ByteQueue where
  limit : Nat
  bytes : Bytes
  head : Nat
  head_le : head ≤ bytes.length
deriving DecidableEq, Repr

namespace ByteQueue

/-- `ByteQueue::ByteQueue`. -/
def create (limit : Nat) : ByteQueue := ⟨limit, [], 0, Nat.le_refl _⟩

/-- `ByteQueue::Front`: what is waiting, in order. -/
def front (q : ByteQueue) : Bytes := q.bytes.drop q.head

/-- `ByteQueue::Size`. -/
def size (q : ByteQueue) : Nat := q.bytes.length - q.head

/-- `ByteQueue::Room`. -/
def room (q : ByteQueue) : Nat := if q.size < q.limit then q.limit - q.size else 0

/-- `ByteQueue::Append` with a ceiling: all of `more`, or nothing. -/
def appendTo (q : ByteQueue) (more : Bytes) (ceiling : Nat) : Option ByteQueue :=
  if q.size > ceiling ∨ more.length > ceiling - q.size then none
  else some { q with
    bytes := q.bytes ++ more
    head_le := q.head_le.trans (by rw [List.length_append]; exact Nat.le_add_right _ _) }

/-- `ByteQueue::Append`. -/
def append (q : ByteQueue) (more : Bytes) : Option ByteQueue := q.appendTo more q.limit

/-- The head never passes the end. -/
lemma advance_le (q : ByteQueue) (count : Nat) : q.head + min count q.size ≤ q.bytes.length := by
  have := q.head_le
  rw [size]
  omega

/-- `ByteQueue::Consume`: drops the first `count` bytes of the front. -/
def consume (q : ByteQueue) (count : Nat) : ByteQueue :=
  let head := q.head + min count q.size
  if head = q.bytes.length then ⟨q.limit, [], 0, Nat.le_refl _⟩
  else if head > q.bytes.length / 2 then ⟨q.limit, q.bytes.drop head, 0, Nat.zero_le _⟩
  else ⟨q.limit, q.bytes, head, q.advance_le count⟩

variable {q r : ByteQueue} {more : Bytes} {ceiling : Nat}

/-- A new queue is empty. -/
@[simp] lemma front_create (limit : Nat) : (create limit).front = [] := rfl

/-- A new queue has the limit it was given. -/
@[simp] lemma limit_create (limit : Nat) : (create limit).limit = limit := rfl

/-- The size is the number of bytes in front. -/
@[simp] lemma length_front (q : ByteQueue) : q.front.length = q.size := List.length_drop

/-- An append takes all of the bytes, where they stay within the ceiling. -/
lemma appendTo_eq_some (fits : q.size + more.length ≤ ceiling) :
    ∃ r, q.appendTo more ceiling = some r ∧ r.front = q.front ++ more ∧ r.limit = q.limit := by
  refine ⟨_, if_neg (by omega), ?_, rfl⟩
  exact List.drop_append_of_le_length q.head_le

/-- An append that is taken puts the bytes behind what was queued. -/
lemma appendTo_some (h : q.appendTo more ceiling = some r) :
    r.front = q.front ++ more ∧ r.limit = q.limit ∧ r.size = q.size + more.length := by
  unfold appendTo at h
  split at h
  · cases h
  · cases h
    refine ⟨List.drop_append_of_le_length q.head_le, rfl, ?_⟩
    have := q.head_le
    simp only [size, List.length_append]
    omega

/-- An append that is taken stays within its ceiling. -/
lemma appendTo_fits (h : q.appendTo more ceiling = some r) : r.size ≤ ceiling := by
  obtain ⟨-, -, hsize⟩ := appendTo_some h
  unfold appendTo at h
  split at h
  · cases h
  · next hroom => omega

/-- What is consumed is the front of what was waiting. -/
lemma front_consume (q : ByteQueue) (count : Nat) : (q.consume count).front = q.front.drop count := by
  have hdrop : q.front.drop count = q.bytes.drop (q.head + min count q.size) := by
    rw [front, List.drop_drop]
    rcases Nat.le_total count q.size with hcount | hcount
    · rw [Nat.min_eq_left hcount]
    · rw [Nat.min_eq_right hcount, List.drop_of_length_le (by rw [size] at hcount; omega),
        List.drop_of_length_le (by rw [size]; omega)]
  rw [hdrop, consume]
  split
  · next hall => rw [hall, List.drop_length]; rfl
  · split <;> rfl

/-- Consuming keeps the limit. -/
@[simp] lemma limit_consume (q : ByteQueue) (count : Nat) : (q.consume count).limit = q.limit := by
  unfold consume
  dsimp only
  split
  · rfl
  · split <;> rfl

/-- Consuming takes as many bytes off the size as there were. -/
lemma size_consume (q : ByteQueue) (count : Nat) : (q.consume count).size = q.size - count := by
  rw [← length_front, front_consume, List.length_drop, length_front]

end ByteQueue

end Zet.App
