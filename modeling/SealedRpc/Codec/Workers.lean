/-!
# Work on many chunks

Applying a task to every item of a list and collecting the results in the order of the
items, either one after the other or with several workers at a time. Workers may finish
in any order; the collector waits for each result in turn, so it meets the first failure
by position even if a later item failed before it.

There is no schedule in this file: a pool is told which tasks have finished by the time the
collector starts, and `Pool.collect` computes a result that is missing when it gets there. How
workers take up the items, and who waits for whom, is in `SealedRpc.Codec.Crew`. The two come to
the same: `Pool.comesTo_iff` says it of a crew, and `Codec.encryptsTo_iff` and
`Codec.decryptsTo_iff` of what is encrypted and decrypted with a pool.

## Main results

* `Pool.map_eq_inOrder`: whatever the number of workers and whatever the order in which
  they finish, the outcome is that of working one item after the other.
-/

namespace SealedRpc

/-- How work is spread: the number of workers that was asked for, and the order in which
the tasks finish, by position. -/
structure Pool where
  workers : Option Int
  finishing : List Nat
  deriving Repr

namespace Pool

variable {ε α β : Type}

/-- One worker, one item after the other. -/
def single : Pool := ⟨none, []⟩

/-- Whether more than one worker is at hand. -/
def isParallel (pool : Pool) : Bool :=
  pool.workers.any (1 < ·)

/-- Applies `task` to the items from position `start` on, up to the first failure. -/
def inOrder (task : Nat → α → Except ε β) (start : Nat) : List α → Except ε (List β)
  | [] => .ok []
  | item :: rest => do
      let result ← task start item
      let results ← inOrder task (start + 1) rest
      return result :: results

/-- The results of the tasks that have finished, by position and latest last. -/
def finished (task : Nat → α → Except ε β) (items : List α) (order : List Nat) :
    List (Nat × Except ε β) :=
  order.filterMap fun i => (items[i]?).map fun item => (i, task i item)

/-- Collects the results in the order of the items. A result that is not there yet is
waited for. -/
def collect (task : Nat → α → Except ε β) (done : List (Nat × Except ε β)) (start : Nat) :
    List α → Except ε (List β)
  | [] => .ok []
  | item :: rest => do
      let result ← (done.lookup start).getD (task start item)
      let results ← collect task done (start + 1) rest
      return result :: results

/-- Applies `task` to every item with its position. -/
def map (pool : Pool) (task : Nat → α → Except ε β) (items : List α) : Except ε (List β) :=
  if pool.isParallel && 1 < items.length then
    collect task (finished task items pool.finishing) 0 items
  else inOrder task 0 items

/-- What has finished at some position is the result of the task there. -/
theorem eq_task_of_lookup_finished {task : Nat → α → Except ε β} {items : List α}
    {order : List Nat} {i : Nat} {result : Except ε β} {item : α}
    (h : (finished task items order).lookup i = some result) (hitem : items[i]? = some item) :
    result = task i item := by
  induction order with
  | nil => simp [finished] at h
  | cons j order ih =>
      cases hj : items[j]? with
      | none => exact ih (by simpa [finished, hj] using h)
      | some other =>
          simp only [finished, List.filterMap_cons, hj, Option.map_some, List.lookup_cons] at h
          split at h
          · rename_i hij
            have hij : i = j := by simpa using hij
            subst hij
            rw [hitem] at hj
            cases hj
            exact (Option.some.inj h).symm
          · exact ih h

/-- Collecting finished results gives what working in order gives. -/
theorem collect_eq_inOrder {task : Nat → α → Except ε β} {done : List (Nat × Except ε β)}
    {start : Nat} {items : List α}
    (h : ∀ j item result, items[j]? = some item → done.lookup (start + j) = some result →
      result = task (start + j) item) :
    collect task done start items = inOrder task start items := by
  induction items generalizing start with
  | nil => rfl
  | cons item rest ih =>
      have hfirst : (done.lookup start).getD (task start item) = task start item := by
        cases hd : done.lookup start with
        | none => rfl
        | some result => exact h 0 item result rfl hd
      have hrest : collect task done (start + 1) rest = inOrder task (start + 1) rest := by
        apply ih
        intro j item result hitem hlookup
        have := h (j + 1) item result (by simpa using hitem)
          (by rwa [Nat.add_assoc, Nat.add_comm 1] at hlookup)
        rwa [Nat.add_assoc, Nat.add_comm 1]
      rw [collect, inOrder, hfirst, hrest]

/-- Neither the number of workers nor the order in which they finish shows in the outcome. -/
theorem map_eq_inOrder (pool : Pool) (task : Nat → α → Except ε β) (items : List α) :
    pool.map task items = inOrder task 0 items := by
  unfold map
  split
  · apply collect_eq_inOrder
    intro j item result hitem hlookup
    rw [Nat.zero_add] at hlookup ⊢
    exact eq_task_of_lookup_finished hlookup hitem
  · rfl

end Pool

end SealedRpc
