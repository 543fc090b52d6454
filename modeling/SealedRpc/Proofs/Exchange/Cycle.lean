import SealedRpc.Exchange.Cycle

/-!
# What a rejected move leaves behind

An operation on a cycle first records the error that it brings with it, and then the cycle moves
if it may. So a rejected operation leaves the state and the history alone, but a rejected failure
leaves its error behind, on a cycle that was decoded as on one that had failed with another error.

The error of a cycle is therefore that of the last failure of its run, whether that failure was
allowed or not. It tells that the cycle is over, and no more. Two inductions on the run carry this:
one for the error, and one for what is over and stays so.

## Main results

* `apply_eq`: what an operation does.
* `error_after`: the error after a run is that of its last failure.
* `after_of_isTerminal`: a run of a cycle that is over changes nothing but the error.
* `rejected_keeps_history`: all of this for every cycle that a run comes to.
* `rejected_replaces_error`: rejected failures whose errors are recorded.
-/

namespace SealedRpc

namespace State

/-- A cycle may fail exactly from the states that are not final. -/
theorem mayMove_failed (s : State) : s.mayMove .failed = !s.isTerminal := by
  cases s <;> rfl

/-- No move leads out of a final state. -/
theorem mayMove_of_isTerminal {s : State} (h : s.isTerminal = true) (target : State) :
    s.mayMove target = false := by
  cases s <;> cases target <;> first | rfl | cases h

end State

namespace Cycle

variable {ε : Type} {c : Cycle ε} {op : Operation ε}

/-! ### One operation -/

/-- An operation records the error that it brings with it, and then moves the cycle if it may. -/
theorem apply_eq (c : Cycle ε) (op : Operation ε) : c.apply op =
    if c.state.mayMove op.target then
      (⟨op.target, c.states ++ [op.target], op.error?.or c.error⟩, none)
    else (⟨c.state, c.states, op.error?.or c.error⟩, some ⟨c.state, op.target⟩) := by
  cases op with
  | advance target =>
      rw [apply, advance, Operation.target]
      cases c.state.mayMove target <;> rfl
  | fail error =>
      rw [apply, fail, advance, Operation.target]
      cases c.state.mayMove .failed <;> rfl

/-- A rejected operation names the move, and leaves no more than its error behind. -/
theorem apply_of_rejected (op : Operation ε) (h : c.state.mayMove op.target = false) :
    c.apply op = ({ c with error := op.error?.or c.error }, some ⟨c.state, op.target⟩) := by
  rw [apply_eq, h]
  rfl

/-- An operation that is allowed leads to its target and records it. -/
theorem apply_of_allowed (op : Operation ε) (h : c.state.mayMove op.target = true) :
    c.apply op = (⟨op.target, c.states ++ [op.target], op.error?.or c.error⟩, none) := by
  rw [apply_eq, h]
  rfl

/-- Exactly the operations whose moves are not allowed are rejected. -/
theorem rejected_iff {t : InvalidTransition} :
    (c.apply op).2 = some t ↔ c.state.mayMove op.target = false ∧ t = ⟨c.state, op.target⟩ := by
  cases h : c.state.mayMove op.target with
  | false => simp [apply_of_rejected op h, eq_comm]
  | true => simp [apply_of_allowed op h]

/-- Allowed or not, an operation records the error that it brings with it. -/
theorem error_apply (c : Cycle ε) (op : Operation ε) :
    (c.apply op).1.error = op.error?.or c.error := by
  rw [apply_eq]
  split <;> rfl

/-- An operation that brings an error leaves a cycle that is over. -/
theorem isTerminal_apply_fail (c : Cycle ε) (e : ε) :
    (c.apply (.fail e)).1.isTerminal = true := by
  cases h : c.state.mayMove .failed with
  | true =>
      rw [apply_of_allowed (.fail e) h]
      rfl
  | false =>
      rw [apply_of_rejected (.fail e) h]
      rw [State.mayMove_failed, Bool.not_eq_false'] at h
      exact h

/-- Recording what an operation brings changes nothing exactly if that is nothing, or what is
recorded already. -/
theorem record_eq_self_iff : ({ c with error := op.error?.or c.error } : Cycle ε) = c ↔
    op.error? = none ∨ op.error? = c.error := by
  obtain ⟨state, states, error⟩ := c
  cases op.error? <;> simp [eq_comm]

/-- A cycle that is over stays as it is but for its error. -/
theorem apply_of_isTerminal (h : c.isTerminal = true) (op : Operation ε) :
    (c.apply op).1 = { c with error := op.error?.or c.error } := by
  rw [apply_of_rejected op (State.mayMove_of_isTerminal h op.target)]

/-! ### Runs -/

/-- A run is its first operation and the others after it. -/
theorem after_cons (c : Cycle ε) (op : Operation ε) (ops : List (Operation ε)) :
    c.after (op :: ops) = (c.apply op).1.after ops := rfl

/-- A run in two parts goes on where the first one ended. -/
theorem after_append (c : Cycle ε) (earlier later : List (Operation ε)) :
    c.after (earlier ++ later) = (c.after earlier).after later :=
  List.foldl_append

/-- The error that a run brings last. -/
def lastError? (ops : List (Operation ε)) : Option ε :=
  (ops.filterMap Operation.error?).getLast?

/-- The last error of a run is that of its first operation only if no other brings one. -/
theorem lastError?_cons (op : Operation ε) (ops : List (Operation ε)) :
    lastError? (op :: ops) = (lastError? ops).or op.error? := by
  rw [lastError?, lastError?, List.filterMap_cons]
  cases op.error? with
  | none => exact (Option.or_none).symm
  | some e =>
      rw [List.getLast?_cons]
      cases (ops.filterMap Operation.error?).getLast? <;> rfl

/-- The error after a run is the last that the run brought, or else the one before it. -/
theorem error_after (c : Cycle ε) (ops : List (Operation ε)) :
    (c.after ops).error = (lastError? ops).or c.error := by
  induction ops generalizing c with
  | nil => rfl
  | cons op ops ih => rw [after_cons, ih, error_apply, lastError?_cons, Option.or_assoc]

/-- A run of a cycle that is over changes nothing but the error. -/
theorem after_of_isTerminal (h : c.isTerminal = true) (ops : List (Operation ε)) :
    c.after ops = { c with error := (lastError? ops).or c.error } := by
  induction ops generalizing c with
  | nil => rfl
  | cons op ops ih =>
      have hstays : ({ c with error := op.error?.or c.error } : Cycle ε).isTerminal = true := h
      rw [after_cons, apply_of_isTerminal h, ih hstays, lastError?_cons, Option.or_assoc]

/-- A run that brings an error ends in a cycle that is over. -/
theorem isTerminal_after {ops : List (Operation ε)} {e : ε} (h : lastError? ops = some e)
    (c : Cycle ε) : (c.after ops).isTerminal = true := by
  induction ops generalizing c e with
  | nil => cases h
  | cons op ops ih =>
      rw [after_cons]
      rw [lastError?_cons] at h
      cases hlater : lastError? ops with
      | some e' => exact ih hlater _
      | none =>
          -- Only the first operation brings an error; the others find the cycle over.
          rw [hlater, Option.none_or] at h
          cases op with
          | advance target => cases h
          | fail e' =>
              have hover := isTerminal_apply_fail c e'
              rw [after_of_isTerminal hover]
              exact hover

/-- A failure that is allowed leaves the cycle failed for good, with the error of the last failure
of the run. -/
theorem after_fail {earlier : List (Operation ε)} (h : (c.after earlier).isTerminal = false)
    (e : ε) (later : List (Operation ε)) : c.after (earlier ++ .fail e :: later)
      = ⟨.failed, (c.after earlier).states ++ [.failed], (lastError? later).or (some e)⟩ := by
  have hallowed : (c.after earlier).state.mayMove .failed = true := by
    rw [State.mayMove_failed, ← isTerminal, h]
    rfl
  have hover := isTerminal_apply_fail (c.after earlier) e
  rw [after_append, after_cons, after_of_isTerminal hover,
    apply_of_allowed (.fail e) hallowed]
  rfl

/-- **Rejected moves keep the history and may replace the error.** Take any run of a cycle, from
any state. An operation is rejected exactly if its move is not allowed. Then the state and the
history stay what they were; the cycle as a whole does exactly if the operation brings no error,
or the one that is recorded already.

The recorded error is that of the last failure of the run, allowed or not, so there is one only
in a cycle that is over. A failure that is allowed leaves the cycle failed for good, and its error
stays until the next failure. -/
theorem rejected_keeps_history (start : State) (ops : List (Operation ε)) :
    let c : Cycle ε := (ofState start).after ops
    (∀ op t, (c.apply op).2 = some t ↔
      c.state.mayMove op.target = false ∧ t = ⟨c.state, op.target⟩) ∧
    (∀ op t, (c.apply op).2 = some t →
      (c.apply op).1.states = c.states ∧ (c.apply op).1.state = c.state ∧
        ((c.apply op).1 = c ↔ op.error? = none ∨ op.error? = c.error)) ∧
    c.error = lastError? ops ∧
    (∀ e, c.error = some e → c.state = .failed ∨ c.state = .decoded) ∧
    ∀ earlier e later, ops = earlier ++ .fail e :: later →
      ((ofState start : Cycle ε).after earlier).isTerminal = false →
        c.state = .failed ∧
          c.states = ((ofState start : Cycle ε).after earlier).states ++ [.failed] ∧
          c.error = (lastError? later).or (some e) := by
  intro c
  have herror : c.error = lastError? ops := (error_after _ ops).trans Option.or_none
  refine ⟨fun op t => rejected_iff, fun op t h => ?_, herror, fun e he => ?_, ?_⟩
  · rw [apply_of_rejected op (rejected_iff.mp h).1]
    exact ⟨rfl, rfl, record_eq_self_iff⟩
  · have hover : c.state.isTerminal = true := isTerminal_after (herror ▸ he) _
    cases hstate : c.state <;> simp [hstate, State.isTerminal] at hover ⊢
  · rintro earlier e later rfl hearlier
    have hc : c = _ := after_fail hearlier e later
    rw [hc]
    exact ⟨rfl, rfl, rfl⟩

/-- A second failure is rejected and its error takes the place of the first one; and a failure is
rejected after the response was decoded, and its error is recorded all the same. -/
theorem rejected_replaces_error :
    let failed : Cycle String := fresh.after [.fail "boom"]
    let decoded : Cycle String := fresh.after
      [.advance .encoding, .advance .sent, .advance .awaitingResponse, .advance .decoded]
    (failed.error = some "boom" ∧ (failed.apply (.fail "again")).2 = some ⟨.failed, .failed⟩ ∧
      (failed.apply (.fail "again")).1.error = some "again") ∧
    decoded.error = none ∧ (decoded.apply (.fail "late")).2 = some ⟨.decoded, .failed⟩ ∧
      (decoded.apply (.fail "late")).1.state = .decoded ∧
      (decoded.apply (.fail "late")).1.error = some "late" :=
  ⟨⟨rfl, rfl, rfl⟩, rfl, rfl, rfl, rfl⟩

end Cycle

end SealedRpc
