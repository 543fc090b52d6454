import SealedRpc.Codec.Workers

/-!
# A crew at work

How several workers share the work on many items. One after the other the items are handed in; a
worker who is free takes up one that waits, and is done with it some time later, with a result or a
failure. Once all items are handed in, a collector waits for the result of each of them in turn. At
the first failure that he meets he stops: the items that still wait are called off, and the workers
who are busy finish what they are at. The work is over when the collector has stopped and nobody is
busy.

A schedule is a list of such events. Workers may be of any speed, so that items are finished in any
order, also one that was handed in last before all others.
-/

namespace SealedRpc

namespace Crew

/-- How far the work on an item has come. -/
inductive Stage (ε β : Type) where
  | waiting
  | taken
  | finished (result : Except ε β)
  | calledOff

namespace Stage

variable {ε β : Type}

/-- Whether a worker is at an item. -/
def isTaken : Stage ε β → Bool
  | .taken => true
  | .waiting | .finished _ | .calledOff => false

/-- Whether nothing more is done about an item. -/
def isOver : Stage ε β → Bool
  | .finished _ | .calledOff => true
  | .waiting | .taken => false

/-- Calls an item off, if nobody has taken it. -/
def callOff : Stage ε β → Stage ε β
  | .waiting => .calledOff
  | stage => stage

end Stage

/-- Something that happens at work: the next item is handed in, a worker takes up an item or
finishes it, or the collector goes on. -/
inductive Event where
  | handsIn
  | takes (i : Nat)
  | finishes (i : Nat)
  | collects
  deriving DecidableEq, Repr

end Crew

/-- The state of a crew: how far each item has come that was handed in, what the collector has so
far, and what he stopped with. -/
structure Crew (ε β : Type) where
  stages : List (Crew.Stage ε β)
  collected : List β
  outcome? : Option (Except ε (List β))

namespace Crew

variable {ε α β : Type}

/-- A crew that nothing has been handed to. -/
def start : Crew ε β := ⟨[], [], none⟩

/-- How many workers are busy. -/
def busy (c : Crew ε β) : Nat := c.stages.countP (·.isTaken)

/-- Whether the work is over, and with which outcome. -/
def EndsWith (c : Crew ε β) (outcome : Except ε (List β)) : Prop :=
  c.outcome? = some outcome ∧ ∀ stage ∈ c.stages, stage.isOver = true

/-- The crew after the collector has gone on, if all items are handed in, he has not stopped, and
the result that he waits for is there. -/
def collect? (items : List α) (c : Crew ε β) : Option (Crew ε β) :=
  if c.stages.length < items.length ∨ c.outcome?.isSome then none
  else match c.stages[c.collected.length]? with
    | none => some { c with outcome? := some (.ok c.collected) }
    | some (.finished (.ok result)) => some { c with collected := c.collected ++ [result] }
    | some (.finished (.error e)) =>
        some { c with stages := c.stages.map Stage.callOff, outcome? := some (.error e) }
    | some _ => none

/-- The crew after an event, if that can happen: a worker takes up an item only if it waits and not
all of them are busy. -/
def next? (workers : Nat) (task : Nat → α → Except ε β) (items : List α) (c : Crew ε β) :
    Event → Option (Crew ε β)
  | .handsIn =>
      if c.stages.length < items.length then some { c with stages := c.stages ++ [.waiting] }
      else none
  | .takes i =>
      match c.stages[i]? with
      | some .waiting =>
          if c.busy < workers then some { c with stages := c.stages.set i .taken } else none
      | _ => none
  | .finishes i =>
      match c.stages[i]?, items[i]? with
      | some .taken, some item =>
          some { c with stages := c.stages.set i (.finished (task i item)) }
      | _, _ => none
  | .collects => c.collect? items

/-- The crew after a schedule, if all of its events can happen. -/
def run? (workers : Nat) (task : Nat → α → Except ε β) (items : List α) (c : Crew ε β) :
    List Event → Option (Crew ε β)
  | [] => some c
  | event :: rest => (c.next? workers task items event).bind fun d => d.run? workers task items rest

end Crew

namespace Pool

variable {ε α β : Type}

/-- Whether work on items may come to an outcome. More than one worker share the work on more than
one item, in any schedule; otherwise the items are worked on one after the other. -/
def ComesTo (workers : Option Int) (task : Nat → α → Except ε β) (items : List α)
    (outcome : Except ε (List β)) : Prop :=
  if workers.any (1 < ·) && 1 < items.length then
    ∃ events c, Crew.start.run? (workers.getD 1).toNat task items events = some c ∧
      c.EndsWith outcome
  else outcome = inOrder task 0 items

end Pool

end SealedRpc
