import Mathlib.Data.List.Chain
import SealedRpc.Proofs.Exchange.Cycle

/-!
# Histories of cycles

The history of a cycle is a path of allowed moves, from the state that the cycle started in to the
one it is in, and every such path is the history of some run. What a run asks for that is not
allowed leaves no trace in it.

A cycle stores its state and its history side by side, and nothing in the type keeps them together.
What does is an invariant of runs, `IsHistory`: it holds of a new cycle, every operation keeps it,
whether its move is allowed or not, and so it holds of whatever a run comes to.

A path cannot be long. Let a state that is not failed look at the order of a life from its own place
on: every move makes what it sees shorter, and a path that leaves failure out runs along it without
a gap. So the shape of all histories comes from two inductions on paths, in which runs do not
occur, and a run is tied to its path by one induction on its operations.

## Main results

* `State.mayMove_iff`: a move is a step in the order of a life, or a failure before its end.
* `State.IsPath.filter_prefix`: a path keeps to the order.
* `isHistory_after`: after every run the stored history is a path to the stored state.
* `after_advances`: every path is the history of a run.
* `histories_are_paths`: all of this for every run from every state.
-/

namespace SealedRpc

namespace State

/-! ### Paths -/

/-- The states of a life that does not fail, in order. -/
def order : List State := [.idle, .encoding, .sent, .awaitingResponse, .decoded]

/-- The order of a life from a state on; nothing is left of it after a failure. -/
def onward (s : State) : List State := order.dropWhile (· ≠ s)

/-- How many moves may still come after a state. -/
def movesLeft (s : State) : Nat := s.onward.length - 1

/-- States each of which a cycle may move to from the one before. -/
def IsPath (states : List State) : Prop := states.IsChain fun s t => s.mayMove t = true

/-- The allowed moves are the steps in the order of a life, and failure from every state that is
not final. -/
theorem mayMove_iff (s t : State) : s.mayMove t = true ↔
    [s, t] <:+: order ∨ t = .failed ∧ s.isTerminal = false := by
  cases s <;> cases t <;> decide

/-- A move that does not fail goes one place further in the order. -/
theorem onward_of_mayMove {s t : State} (h : s.mayMove t = true) (hfailed : t ≠ .failed) :
    s.onward = s :: t.onward := by
  cases s <;> cases t <;> first | exact absurd rfl hfailed | rfl | cases h

/-- The order goes on with the state itself unless that is failure. -/
theorem exists_onward_eq {s : State} (h : s ≠ .failed) : ∃ rest, s.onward = s :: rest := by
  cases s <;> first | exact ⟨_, rfl⟩ | exact absurd rfl h

/-- Every move leaves fewer moves. -/
theorem movesLeft_lt {s t : State} (h : s.mayMove t = true) : t.movesLeft < s.movesLeft := by
  cases s <;> cases t <;> first | decide | cases h

/-- No more than four moves may come after a state. -/
theorem movesLeft_le (s : State) : s.movesLeft ≤ 4 := by
  cases s <;> decide

/-- Nothing follows a final state on a path. -/
theorem IsPath.eq_nil_of_isTerminal {s : State} {path : List State} (h : IsPath (s :: path))
    (hs : s.isTerminal = true) : path = [] := by
  cases path with
  | nil => rfl
  | cons t path =>
      rw [IsPath, List.isChain_cons_cons, mayMove_of_isTerminal hs] at h
      cases h.1

/-- A path is no longer than the moves that are left where it begins. -/
theorem IsPath.length_le {s : State} {path : List State} (h : IsPath (s :: path)) :
    path.length ≤ s.movesLeft := by
  induction path generalizing s with
  | nil => exact Nat.zero_le _
  | cons t path ih =>
      obtain ⟨hmove, hpath⟩ := List.isChain_cons_cons.mp h
      have hrest : path.length ≤ t.movesLeft := ih hpath
      exact Nat.lt_of_le_of_lt hrest (movesLeft_lt hmove)

/-- Without failure, a path is a beginning of the order from its first state on. -/
theorem IsPath.filter_prefix {s : State} {path : List State} (h : IsPath (s :: path)) :
    (s :: path).filter (· ≠ .failed) <+: s.onward := by
  induction path generalizing s with
  | nil =>
      by_cases hs : s = .failed
      · simp [hs]
      · obtain ⟨rest, hrest⟩ := exists_onward_eq hs
        rw [hrest, List.filter_cons_of_pos (by simpa using hs)]
        exact ⟨rest, rfl⟩
  | cons t path ih =>
      obtain ⟨hmove, hpath⟩ := List.isChain_cons_cons.mp h
      have hs : s ≠ .failed := by
        rintro rfl
        exact absurd (h.eq_nil_of_isTerminal rfl) (List.cons_ne_nil t path)
      rw [List.filter_cons_of_pos (by simpa using hs)]
      by_cases ht : t = .failed
      · subst ht
        obtain rfl := IsPath.eq_nil_of_isTerminal hpath rfl
        obtain ⟨rest, hrest⟩ := exists_onward_eq hs
        exact ⟨rest, hrest.symm⟩
      · rw [onward_of_mayMove hmove ht]
        exact (List.prefix_cons_inj s).mpr (ih hpath)

/-- A path that ends where another state may be moved to goes on with it. -/
theorem IsPath.concat {states : List State} {s t : State} (h : IsPath states)
    (hlast : states.getLast? = some s) (hmove : s.mayMove t = true) : IsPath (states ++ [t]) := by
  refine List.isChain_append.mpr ⟨h, List.isChain_singleton t, fun s' hs' t' ht' => ?_⟩
  obtain rfl := Option.some.inj (hlast.symm.trans hs')
  obtain rfl := Option.some.inj ht'
  exact hmove

/-- A final state is the last one of its path. -/
theorem IsPath.isTerminal_of_mem_dropLast {states : List State} (h : IsPath states) {s : State}
    (hs : s ∈ states.dropLast) : s.isTerminal = false := by
  induction states with
  | nil => cases hs
  | cons first path ih =>
      cases path with
      | nil => cases hs
      | cons t path =>
          obtain hfirst | hlater := List.mem_cons.mp hs
          · subst hfirst
            by_contra hfinal
            exact List.cons_ne_nil t path
              (h.eq_nil_of_isTerminal ((Bool.not_eq_false _).mp hfinal))
          · exact ih (List.isChain_cons_cons.mp h).2 hlater

end State

namespace Cycle

variable {ε : Type}

/-! ### Runs -/

/-- What the operations of a run are told, one after the other: nothing if the move was made, or
which move is not allowed. -/
def outcomes (c : Cycle ε) : List (Operation ε) → List (Option InvalidTransition)
  | [] => []
  | op :: ops => (c.apply op).2 :: (c.apply op).1.outcomes ops

/-- How many operations of a run succeed. -/
def successes (c : Cycle ε) (ops : List (Operation ε)) : Nat := (c.outcomes ops).count none

/-- An operation either succeeds, and then it stores the state that it leads to and adds it to the
history, or it is told which move is not allowed, and then it touches neither. -/
theorem apply_cases (c : Cycle ε) (op : Operation ε) :
    (c.state.mayMove op.target = true ∧ (c.apply op).2 = none ∧
      (c.apply op).1.state = op.target ∧ (c.apply op).1.states = c.states ++ [op.target]) ∨
    (c.state.mayMove op.target = false ∧ (c.apply op).2 = some ⟨c.state, op.target⟩ ∧
      (c.apply op).1.state = c.state ∧ (c.apply op).1.states = c.states) := by
  cases h : c.state.mayMove op.target with
  | true =>
      rw [apply_of_allowed op h]
      exact .inl ⟨rfl, rfl, rfl, rfl⟩
  | false =>
      rw [apply_of_rejected op h]
      exact .inr ⟨rfl, rfl, rfl, rfl⟩

/-- Whether what a cycle has recorded is how it came from a state to the one that it is in. -/
structure IsHistory (start : State) (c : Cycle ε) : Prop where
  starts : c.states.head? = some start
  ends : c.states.getLast? = some c.state
  path : State.IsPath c.states

variable {start : State}

/-- A new cycle has recorded the state that it is in. -/
theorem isHistory_ofState (start : State) : IsHistory start (ofState start : Cycle ε) :=
  ⟨rfl, rfl, List.isChain_singleton start⟩

/-- An operation leaves a history that is one, whether its move is allowed or not. -/
theorem isHistory_apply {c : Cycle ε} (h : IsHistory start c) (op : Operation ε) :
    IsHistory start (c.apply op).1 := by
  obtain ⟨hmove, -, hstate, hstates⟩ | ⟨-, -, hstate, hstates⟩ := apply_cases c op
  · constructor
    case starts => rw [hstates, List.head?_append, h.starts, Option.some_or]
    case ends => rw [hstates, hstate, List.getLast?_concat]
    case path =>
      rw [hstates]
      exact h.path.concat h.ends hmove
  · constructor
    case starts => rw [hstates, h.starts]
    case ends => rw [hstates, hstate, h.ends]
    case path =>
      rw [hstates]
      exact h.path

/-- And so does a run. -/
theorem isHistory_after {c : Cycle ε} (h : IsHistory start c) (ops : List (Operation ε)) :
    IsHistory start (c.after ops) := by
  induction ops generalizing c with
  | nil => exact h
  | cons op ops ih => exact ih (isHistory_apply h op)

/-- A history grows by one state for each success. -/
theorem length_states_after (c : Cycle ε) (ops : List (Operation ε)) :
    (c.after ops).states.length = c.states.length + c.successes ops := by
  induction ops generalizing c with
  | nil => rfl
  | cons op ops ih =>
      rw [after_cons, ih, successes, successes, outcomes, List.count_cons]
      obtain ⟨-, houtcome, -, hstates⟩ | ⟨-, houtcome, -, hstates⟩ := apply_cases c op
      · rw [houtcome, hstates, List.length_append, List.length_singleton,
          if_pos (beq_self_eq_true _)]
        omega
      · rw [houtcome, hstates, if_neg (by simp)]
        omega

/-- Moving along a path makes it the history, and every move succeeds. -/
theorem after_advances {c : Cycle ε} {path : List State} (h : State.IsPath (c.state :: path)) :
    (c.after (path.map .advance)).states = c.states ++ path ∧
      c.successes (path.map .advance) = path.length := by
  induction path generalizing c with
  | nil => exact ⟨(List.append_nil _).symm, rfl⟩
  | cons t path ih =>
      obtain ⟨hmove, hpath⟩ := List.isChain_cons_cons.mp h
      have hmoved := apply_of_allowed (.advance t) hmove
      have hstate : (c.apply (.advance t)).1.state = t := by
        rw [hmoved]
        rfl
      have hstates : (c.apply (.advance t)).1.states = c.states ++ [t] := by
        rw [hmoved]
        rfl
      obtain ⟨hafter, hcount⟩ := ih (c := (c.apply (.advance t)).1) (by rwa [hstate])
      constructor
      · rw [List.map_cons, after_cons, hafter, hstates, List.append_assoc, List.singleton_append]
      · rw [successes] at hcount ⊢
        rw [List.map_cons, outcomes, hmoved, List.count_cons_self, ← hmoved, hcount,
          List.length_cons]

/-- A run never leaves a final state, and nothing that is asked for after it succeeds. -/
theorem apply_after_of_isTerminal {c : Cycle ε} (h : c.isTerminal = true)
    (later : List (Operation ε)) (op : Operation ε) : ((c.after later).apply op).2 ≠ none := by
  have hover : (c.after later).state.isTerminal = true := by
    rw [after_of_isTerminal h]
    exact h
  rw [apply_of_rejected op (State.mayMove_of_isTerminal hover op.target)]
  exact Option.some_ne_none _

/-- **Histories are exactly the paths.** Take any run from any state, whatever it asks for. The
history that is stored is a path of allowed moves from the state it started in to the one that is
stored beside it, and all paths from there are histories of runs, of which every operation succeeds.
The allowed moves are the steps in the order of a life and failure from every state that is not
final.

Each operation stores its target and adds it to the history, or is told that its move is not
allowed, and then leaves both as they were. Without failure the history is a stretch of the order
with no gap. Only its last state can be final, and once it is, nothing succeeds any more; until then
a failure does. So there is one more state than there are successes, and there are no more than four
successes. -/
theorem histories_are_paths (start : State) (ops : List (Operation ε)) :
    let c : Cycle ε := (ofState start).after ops
    (c.states.head? = some start ∧ c.states.getLast? = some c.state ∧ State.IsPath c.states) ∧
    (∀ path, State.IsPath (start :: path) → ∃ ops' : List (Operation ε),
      ((ofState start).after ops').states = start :: path ∧
        (ofState start).successes ops' = ops'.length) ∧
    (∀ s t : State, s.mayMove t = true ↔
      [s, t] <:+: State.order ∨ t = .failed ∧ s.isTerminal = false) ∧
    (∀ op, ((c.apply op).2 = none ∧ (c.apply op).1.state = op.target ∧
        (c.apply op).1.states = c.states ++ [op.target]) ∨
      ((c.apply op).2 = some ⟨c.state, op.target⟩ ∧ (c.apply op).1.state = c.state ∧
        (c.apply op).1.states = c.states)) ∧
    c.states.filter (· ≠ .failed) <:+: State.order ∧
    (∀ s ∈ c.states.dropLast, s.isTerminal = false) ∧
    (c.isTerminal = true → ∀ later op, ((c.after later).apply op).2 ≠ none) ∧
    (c.isTerminal = false → ∀ e, (c.apply (.fail e)).2 = none) ∧
    c.states.length = (ofState start : Cycle ε).successes ops + 1 ∧
    (ofState start : Cycle ε).successes ops ≤ 4 := by
  intro c
  have hhistory : IsHistory start c := isHistory_after (isHistory_ofState start) ops
  have hpath : State.IsPath c.states := hhistory.path
  have hlength : c.states.length = (ofState start : Cycle ε).successes ops + 1 :=
    (length_states_after _ ops).trans (Nat.add_comm 1 _)
  obtain ⟨path, hstates⟩ : ∃ path, c.states = start :: path := by
    obtain ⟨first, path, hstates⟩ := List.exists_cons_of_length_eq_add_one hlength
    obtain rfl := Option.some.inj (hhistory.starts.symm.trans (congrArg List.head? hstates))
    exact ⟨path, hstates⟩
  have hfrom : State.IsPath (start :: path) := hstates ▸ hpath
  refine ⟨⟨hhistory.starts, hhistory.ends, hpath⟩, fun path h => ?_, State.mayMove_iff,
    fun op => ?_, ?_, fun s hs => hpath.isTerminal_of_mem_dropLast hs,
    fun hover later op => apply_after_of_isTerminal hover later op, fun hopen e => ?_, hlength, ?_⟩
  · obtain ⟨hstates, hcount⟩ := after_advances (c := (ofState start : Cycle ε)) h
    exact ⟨path.map .advance, hstates, hcount.trans (List.length_map _).symm⟩
  · exact (apply_cases c op).imp And.right And.right
  · rw [hstates]
    exact hfrom.filter_prefix.isInfix.trans (List.dropWhile_suffix _).isInfix
  · rw [isTerminal] at hopen
    rw [apply_of_allowed (.fail e) (by rw [Operation.target, State.mayMove_failed, hopen]; rfl)]
  · have hcount : path.length + 1 = (ofState start : Cycle ε).successes ops + 1 :=
      (congrArg List.length hstates).symm.trans hlength
    have hle := hfrom.length_le.trans (State.movesLeft_le start)
    omega

/-- Of four operations two succeed: nothing is sent before it is encoded, and nothing follows a
failure. -/
example : ((ofState .idle : Cycle String).after
    [.advance .sent, .advance .encoding, .fail "boom", .advance .idle]).states
      = [.idle, .encoding, .failed] := rfl

end Cycle

end SealedRpc
