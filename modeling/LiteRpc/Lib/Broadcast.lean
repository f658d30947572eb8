import Mathlib.Data.List.Basic

/-!
A receiver of a `tokio::sync::broadcast` channel. The channel is the list of the messages sent to
it while it had receivers, in order, of which it keeps the last `capacity`; `broadcast::channel`
rounds the capacity up to a power of two. A receiver is its position in that list. A receive gives
the message there; a receiver that fell behind what is kept gets `Lagged` with the number of
messages it skipped and jumps to the oldest message kept; with nothing left it gets `Closed` once
every sender is dropped, and otherwise nothing yet (`try_recv` returns `Empty`, `recv` waits).

A receiver reads, in their order, a sublist of the messages before its position (`Reader`), and
no receive or send breaks that. Nothing here is specific to one program.
-/

namespace Broadcast

/-- What `recv` and `try_recv` give. -/
inductive Recv (α : Type) where
  | ok (a : α)
  | lagged (skipped : Nat)
  | closed
  | empty
deriving DecidableEq, Repr

/-- The message a receive gives, if any. -/
def Recv.toList {α : Type} : Recv α → List α
  | .ok a => [a]
  | .lagged _ => []
  | .closed => []
  | .empty => []

variable {α : Type}

/-- A receive on a receiver at position `next` of the messages `log`, of a channel keeping the last
`capacity` of them, with the receiver's new position. -/
def recv (capacity : Nat) (log : List α) (senderAlive : Bool) (next : Nat) : Recv α × Nat :=
  if next + capacity < log.length then
    (.lagged (log.length - capacity - next), log.length - capacity)
  else
    match log[next]? with
    | some a => (.ok a, next + 1)
    | none => if senderAlive then (.empty, next) else (.closed, next)

section Recv

variable {capacity : Nat} {log : List α} {senderAlive : Bool} {next : Nat}

theorem recv_of_lagged (h : next + capacity < log.length) :
    recv capacity log senderAlive next =
      (.lagged (log.length - capacity - next), log.length - capacity) := by
  rw [recv, if_pos h]

theorem recv_of_getElem? {a : α} (h : ¬next + capacity < log.length) (ha : log[next]? = some a) :
    recv capacity log senderAlive next = (.ok a, next + 1) := by
  rw [recv, if_neg h, ha]

end Recv

/-- A receiver at `next` that has kept `read` of the messages before its position, in their
order. -/
structure Reader (log : List α) (next : Nat) (read : List α) : Prop where
  next_le : next ≤ log.length
  sublist : read.Sublist (log.take next)

variable {log : List α} {next : Nat} {read : List α}

theorem reader_subscribe (log : List α) : Reader log log.length [] :=
  ⟨Nat.le_refl _, List.nil_sublist _⟩

theorem Reader.send (h : Reader log next read) (a : α) : Reader (log ++ [a]) next read where
  next_le := by
    rw [List.length_append]
    exact Nat.le_succ_of_le h.next_le
  sublist := by
    rw [List.take_append_of_le_length h.next_le]
    exact h.sublist

theorem Reader.receive (h : Reader log next read) (capacity : Nat) (senderAlive : Bool) :
    Reader log (recv capacity log senderAlive next).2
      (read ++ (recv capacity log senderAlive next).1.toList) := by
  by_cases hlag : next + capacity < log.length
  · -- the receiver skips to the oldest message kept, and reads nothing
    rw [recv_of_lagged hlag]
    exact ⟨Nat.sub_le _ _, by
      simpa [Recv.toList] using h.sublist.trans (List.take_sublist_take_left (by omega))⟩
  rcases ha : log[next]? with _ | a
  · have hnone : (recv capacity log senderAlive next).1.toList = [] ∧
        (recv capacity log senderAlive next).2 = next := by
      unfold recv
      rw [if_neg hlag, ha]
      cases senderAlive <;> exact ⟨rfl, rfl⟩
    rw [hnone.1, hnone.2, List.append_nil]
    exact h
  · rw [recv_of_getElem? hlag ha]
    have hlt : next < log.length := (List.getElem?_eq_some_iff.mp ha).1
    refine ⟨hlt, ?_⟩
    rw [List.take_add_one, ha]
    exact h.sublist.append (List.Sublist.refl [a])

end Broadcast
