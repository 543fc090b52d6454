import Mathlib.Algebra.Order.BigOperators.Group.List
import SealedRpc.Codec.Crew
import SealedRpc.Proofs.Codec.Blocks

/-!
# The schedule does not show

However fast its workers are, a crew comes to what one worker comes to who takes the items in order.
An item that is finished has the result of its task, whoever did it and whenever; and the collector,
who takes the results in turn, has those of a row of items from the first one on, so that the first
failure he meets is the one at the least position.

This is an invariant of schedules. That the work comes to its end at all is another matter: there is
always something that can happen until it is over, and whatever happens leaves less to do, since an
item is handed in, taken, finished and collected once. So no schedule is stuck, and none goes on
forever.

## Main results

* `next?_eq_some_iff`: what can happen, and what it changes.
* `Invariant.step`, `Invariant.run?`: the invariant, for one event and for schedules.
* `Invariant.exists_step`: until the work is over, something can happen.
* `Invariant.left_lt`: whatever happens leaves less to do.
* `settles`: every schedule is short, and it leads to the outcome of work in order.
* `Pool.comesTo_iff`: work comes to that outcome and to no other.
-/

namespace SealedRpc

/-! ### Work in order -/

/-- Work in order succeeds with results that are those of the tasks, position by position. -/
theorem Pool.inOrder_eq_ok_of_forall {ε α β : Type} {task : Nat → α → Except ε β} {start : Nat}
    {items : List α} {results : List β} (hlength : results.length = items.length)
    (h : ∀ i item result, items[i]? = some item → results[i]? = some result →
      task (start + i) item = .ok result) : inOrder task start items = .ok results := by
  induction items generalizing start results with
  | nil =>
      obtain rfl := List.length_eq_zero_iff.mp hlength
      rfl
  | cons item rest ih =>
      obtain ⟨result, results, rfl⟩ := List.exists_cons_of_length_eq_add_one hlength
      have hrest : inOrder task (start + 1) rest = .ok results := by
        refine ih (by simpa using hlength) fun i other found hother hfound => ?_
        have := h (i + 1) other found (by simpa using hother) (by simpa using hfound)
        rwa [Nat.add_assoc, Nat.add_comm 1]
      have hfirst : task start item = .ok result := h 0 item result rfl rfl
      rw [inOrder_cons, hfirst, Except.bind, hrest]
      rfl

namespace Crew

variable {ε α β : Type} {workers : Nat} {task : Nat → α → Except ε β} {items : List α}
  {c d : Crew ε β} {event : Event}

/-! ### What can happen -/

/-- What can happen at work, and what it changes. The collector goes on in three ways: he takes the
next result, he stops at a failure, or he has all results. -/
inductive Step (workers : Nat) (task : Nat → α → Except ε β) (items : List α) (c : Crew ε β) :
    Event → Crew ε β → Prop
  | handsIn (hleft : c.stages.length < items.length) :
      Step workers task items c .handsIn { c with stages := c.stages ++ [.waiting] }
  | takes {i : Nat} (hwaits : c.stages[i]? = some .waiting) (hfree : c.busy < workers) :
      Step workers task items c (.takes i) { c with stages := c.stages.set i .taken }
  | finishes {i : Nat} {item : α} (htaken : c.stages[i]? = some .taken)
      (hitem : items[i]? = some item) :
      Step workers task items c (.finishes i)
        { c with stages := c.stages.set i (.finished (task i item)) }
  | gathers {result : β} (hall : items.length ≤ c.stages.length) (hopen : c.outcome? = none)
      (hnext : c.stages[c.collected.length]? = some (.finished (.ok result))) :
      Step workers task items c .collects { c with collected := c.collected ++ [result] }
  | stops {e : ε} (hall : items.length ≤ c.stages.length) (hopen : c.outcome? = none)
      (hnext : c.stages[c.collected.length]? = some (.finished (.error e))) :
      Step workers task items c .collects
        { c with stages := c.stages.map Stage.callOff, outcome? := some (.error e) }
  | completes (hall : items.length ≤ c.stages.length) (hopen : c.outcome? = none)
      (hnone : c.stages[c.collected.length]? = none) :
      Step workers task items c .collects { c with outcome? := some (.ok c.collected) }

/-- The collector goes on in one of these three ways. -/
theorem collect?_eq_some_iff :
    c.collect? items = some d ↔ Step workers task items c .collects d := by
  rw [collect?]
  constructor
  · intro h
    split at h
    · cases h
    rename_i hready
    rw [not_or, Nat.not_lt, Bool.not_eq_true, Option.isSome_eq_false_iff,
      Option.isNone_iff_eq_none] at hready
    split at h
    · obtain rfl := Option.some.inj h
      exact .completes hready.1 hready.2 ‹_›
    · obtain rfl := Option.some.inj h
      exact .gathers hready.1 hready.2 ‹_›
    · obtain rfl := Option.some.inj h
      exact .stops hready.1 hready.2 ‹_›
    · cases h
  · intro h
    cases h with
    | gathers hall hopen hnext | stops hall hopen hnext =>
        simp [hnext, hopen, Nat.not_lt.mpr hall]
    | completes hall hopen hnone => simp [hnone, hopen, Nat.not_lt.mpr hall]

/-- What can happen at work, and what it changes. -/
theorem next?_eq_some_iff :
    c.next? workers task items event = some d ↔ Step workers task items c event d := by
  cases event with
  | handsIn =>
      rw [next?]
      constructor
      · intro h
        split at h
        · obtain rfl := Option.some.inj h
          exact .handsIn ‹_›
        · cases h
      · rintro ⟨hleft⟩
        rw [if_pos hleft]
  | takes i =>
      rw [next?]
      constructor
      · intro h
        split at h
        · split at h
          · obtain rfl := Option.some.inj h
            exact .takes ‹_› ‹_›
          · cases h
        · cases h
      · intro h
        cases h with
        | takes hwaits hfree => simp only [hwaits, if_pos hfree]
  | finishes i =>
      rw [next?]
      constructor
      · intro h
        split at h
        · obtain rfl := Option.some.inj h
          exact .finishes ‹_› ‹_›
        · cases h
      · intro h
        cases h with
        | finishes htaken hitem => simp only [htaken, hitem]
  | collects => exact collect?_eq_some_iff

/-! ### What holds at work -/

/-- What holds of a crew at every point of a schedule. No more items are handed in than there are,
and no more workers are busy than there are; a finished item has the result of its task; what is
collected are the results of the first items; nothing is called off before the collector stops; and
when he has stopped, it is with the outcome of work in order, all items are handed in, and none of
them waits any more. -/
structure Invariant (workers : Nat) (task : Nat → α → Except ε β) (items : List α)
    (c : Crew ε β) : Prop where
  length_le : c.stages.length ≤ items.length
  busy_le : c.busy ≤ workers
  finished : ∀ (i : Nat) (result : Except ε β), c.stages[i]? = some (.finished result) →
    ∀ item, items[i]? = some item → result = task i item
  collected : ∀ (i : Nat) (result : β), c.collected[i]? = some result →
    c.stages[i]? = some (.finished (.ok result))
  called : c.outcome? = none → ∀ stage ∈ c.stages, stage ≠ .calledOff
  stopped : ∀ outcome, c.outcome? = some outcome → outcome = Pool.inOrder task 0 items ∧
    c.stages.length = items.length ∧ ∀ stage ∈ c.stages, stage ≠ .waiting

/-- Nothing has happened to a crew that nothing was handed to. -/
theorem invariant_start : Invariant workers task items start where
  length_le := Nat.zero_le _
  busy_le := Nat.zero_le _
  finished _ _ := nofun
  collected _ _ := nofun
  called _ := nofun
  stopped _ := nofun

section Collecting

variable (h : Invariant workers task items c)
include h

/-- An item that is at some stage is one of the items. -/
theorem Invariant.exists_item {i : Nat} {stage : Stage ε β} (hstage : c.stages[i]? = some stage) :
    ∃ item, items[i]? = some item := by
  obtain ⟨hlt, -⟩ := List.getElem?_eq_some_iff.mp hstage
  exact ⟨_, List.getElem?_eq_getElem (Nat.lt_of_lt_of_le hlt h.length_le)⟩

/-- No more is collected than has been handed in. -/
theorem Invariant.collected_le : c.collected.length ≤ c.stages.length := by
  by_contra hlt
  have hlast := h.collected _ _ (List.getElem?_eq_getElem (Nat.lt_of_not_le hlt))
  rw [List.getElem?_eq_none (Nat.le_refl _)] at hlast
  cases hlast

/-- What is collected for an item is what its task succeeds with. -/
theorem Invariant.task_eq_ok {i : Nat} {item : α} {result : β} (hitem : items[i]? = some item)
    (hresult : c.collected[i]? = some result) : task i item = .ok result :=
  (h.finished i _ (h.collected i result hresult) item hitem).symm

/-- If nothing is left to wait for, as much is collected as there are items. -/
theorem Invariant.collected_eq (hall : items.length ≤ c.stages.length)
    (hnone : c.stages[c.collected.length]? = none) :
    c.collected.length = items.length ∧ c.stages.length = items.length := by
  have hlast := List.getElem?_eq_none_iff.mp hnone
  have hcollected := h.collected_le
  have hlength := h.length_le
  omega

/-- If nothing is left to wait for, work in order comes to what is collected. -/
theorem Invariant.inOrder_eq_ok (hall : items.length ≤ c.stages.length)
    (hnone : c.stages[c.collected.length]? = none) :
    Pool.inOrder task 0 items = .ok c.collected := by
  refine Pool.inOrder_eq_ok_of_forall (h.collected_eq hall hnone).1 ?_
  intro i item result hitem hresult
  rw [Nat.zero_add, h.task_eq_ok hitem hresult]

/-- A failure that the collector meets is the one that work in order stops at. -/
theorem Invariant.inOrder_eq_error {e : ε}
    (hnext : c.stages[c.collected.length]? = some (.finished (.error e))) :
    Pool.inOrder task 0 items = .error e := by
  obtain ⟨item, hitem⟩ := h.exists_item hnext
  have hfails : .error e = task c.collected.length item := h.finished _ _ hnext item hitem
  refine Pool.inOrder_eq_error_iff.mpr ⟨c.collected.length, item, hitem, ?_, ?_⟩
  · rw [Nat.zero_add, hfails]
  · intro j hj other hother
    rw [Nat.zero_add]
    exact ⟨_, h.task_eq_ok hother (List.getElem?_eq_getElem hj)⟩

end Collecting

/-- The invariant survives a change to one item that was not over, if the item has the result of
its task should it be finished now, and not too many workers are busy. -/
theorem Invariant.changes (h : Invariant workers task items c) {i : Nat} {before after : Stage ε β}
    (hbefore : c.stages[i]? = some before) (hover : before.isOver = false)
    (hbusy : (c.stages.set i after).countP (·.isTaken) ≤ workers)
    (hresult : ∀ result, after = .finished result → ∀ item, items[i]? = some item →
      result = task i item)
    (hcalled : after ≠ .calledOff) (hwaiting : after ≠ .waiting) :
    Invariant workers task items { c with stages := c.stages.set i after } where
  length_le := by
    rw [List.length_set]
    exact h.length_le
  busy_le := hbusy
  finished j result hfinished := by
    by_cases hij : i = j
    · subst hij
      obtain ⟨hlt, -⟩ := List.getElem?_eq_some_iff.mp hbefore
      rw [List.getElem?_set_self hlt] at hfinished
      exact hresult result (Option.some.inj hfinished)
    · rw [List.getElem?_set_ne hij] at hfinished
      exact h.finished j result hfinished
  collected j result hcollected := by
    have hfinished := h.collected j result hcollected
    rw [List.getElem?_set_ne, hfinished]
    rintro rfl
    obtain rfl := Option.some.inj (hbefore.symm.trans hfinished)
    cases hover
  called hopen stage hstage := by
    rcases List.mem_or_eq_of_mem_set hstage with hkept | rfl
    · exact h.called hopen stage hkept
    · exact hcalled
  stopped outcome houtcome := by
    obtain ⟨hinOrder, hlength, hnone⟩ := h.stopped outcome houtcome
    refine ⟨hinOrder, by rw [List.length_set, hlength], fun stage hstage => ?_⟩
    rcases List.mem_or_eq_of_mem_set hstage with hkept | rfl
    · exact hnone stage hkept
    · exact hwaiting

/-- The invariant survives everything that can happen. -/
theorem Invariant.step (h : Invariant workers task items c)
    (hstep : Step workers task items c event d) : Invariant workers task items d := by
  cases hstep with
  | handsIn hleft =>
      refine ⟨?_, ?_, ?_, ?_, ?_, ?_⟩
      · rw [List.length_append]
        exact hleft
      · rw [busy, List.countP_append]
        exact h.busy_le
      · intro i result hfinished item hitem
        rw [List.getElem?_append] at hfinished
        split at hfinished
        · exact h.finished i result hfinished item hitem
        · simp [List.getElem?_singleton] at hfinished
      · intro i result hresult
        have hfinished := h.collected i result hresult
        rw [List.getElem?_append_left (List.getElem?_eq_some_iff.mp hfinished).1, hfinished]
      · intro hopen stage hstage
        rcases List.mem_append.mp hstage with hkept | hnew
        · exact h.called hopen stage hkept
        · rw [List.mem_singleton.mp hnew]
          exact nofun
      · intro outcome houtcome
        have hlength := (h.stopped outcome houtcome).2.1
        omega
  | takes hwaits hfree =>
      refine h.changes hwaits rfl ?_ nofun nofun nofun
      obtain ⟨hlt, hget⟩ := List.getElem?_eq_some_iff.mp hwaits
      rw [List.countP_set hlt, hget]
      exact hfree
  | finishes htaken hitem =>
      refine h.changes htaken rfl ?_ ?_ nofun nofun
      · obtain ⟨hlt, hget⟩ := List.getElem?_eq_some_iff.mp htaken
        rw [List.countP_set hlt, hget]
        exact (Nat.sub_le _ _).trans h.busy_le
      · rintro _ ⟨⟩ other hother
        rw [Option.some.inj (hitem.symm.trans hother)]
  | gathers hall hopen hnext =>
      refine ⟨h.length_le, h.busy_le, h.finished, fun i found hfound => ?_, h.called, ?_⟩
      · rw [List.getElem?_append] at hfound
        split at hfound
        · exact h.collected i found hfound
        · rw [List.getElem?_singleton] at hfound
          split at hfound
          · obtain rfl := Option.some.inj hfound
            obtain rfl : i = c.collected.length := by omega
            exact hnext
          · cases hfound
      · intro outcome houtcome
        cases hopen.symm.trans houtcome
  | stops hall hopen hnext =>
      refine ⟨?_, ?_, ?_, ?_, nofun, ?_⟩
      · rw [List.length_map]
        exact h.length_le
      · rw [busy, List.countP_map]
        refine (List.countP_mono_left fun stage _ htaken => ?_).trans h.busy_le
        cases stage <;> exact htaken
      · intro i result hfinished item hitem
        rw [List.getElem?_map, Option.map_eq_some_iff] at hfinished
        obtain ⟨stage, hstage, hoff⟩ := hfinished
        cases stage <;> cases hoff
        exact h.finished i result hstage item hitem
      · intro i result hresult
        rw [List.getElem?_map, h.collected i result hresult]
        rfl
      · rintro _ ⟨⟩
        refine ⟨(h.inOrder_eq_error hnext).symm, ?_, fun stage hstage => ?_⟩
        · rw [List.length_map]
          exact Nat.le_antisymm h.length_le hall
        · obtain ⟨before, -, rfl⟩ := List.mem_map.mp hstage
          cases before <;> exact nofun
  | completes hall hopen hnone =>
      refine ⟨h.length_le, h.busy_le, h.finished, h.collected, nofun, ?_⟩
      rintro _ ⟨⟩
      obtain ⟨hcollected, hlength⟩ := h.collected_eq hall hnone
      refine ⟨(h.inOrder_eq_ok hall hnone).symm, hlength, fun stage hstage => ?_⟩
      obtain ⟨i, hi⟩ := List.mem_iff_getElem?.mp hstage
      have hlt : i < c.collected.length := by
        have : i < c.stages.length := (List.getElem?_eq_some_iff.mp hi).1
        omega
      have hfinished := h.collected i _ (List.getElem?_eq_getElem hlt)
      rw [Option.some.inj (hi.symm.trans hfinished)]
      exact nofun

/-- The invariant survives every schedule. -/
theorem Invariant.run? (h : Invariant workers task items c) {events : List Event}
    (hrun : c.run? workers task items events = some d) : Invariant workers task items d := by
  induction events generalizing c with
  | nil =>
      obtain rfl := Option.some.inj hrun
      exact h
  | cons event rest ih =>
      obtain ⟨next, hnext, hrest⟩ := Option.bind_eq_some_iff.mp hrun
      exact ih (h.step (next?_eq_some_iff.mp hnext)) hrest

/-! ### The work comes to its end -/

/-- Until the work is over, something can happen, if there are any workers. -/
theorem Invariant.exists_step (h : Invariant workers task items c) (hworkers : 0 < workers)
    (hnot : ∀ outcome, ¬ c.EndsWith outcome) :
    ∃ event d, Step workers task items c event d := by
  by_cases hleft : c.stages.length < items.length
  · exact ⟨_, _, .handsIn hleft⟩
  have hall := Nat.le_of_not_lt hleft
  by_cases htaken : ∃ i : Nat, c.stages[i]? = some .taken
  · obtain ⟨i, hi⟩ := htaken
    obtain ⟨item, hitem⟩ := h.exists_item hi
    exact ⟨_, _, .finishes hi hitem⟩
  have hnone : ∀ stage ∈ c.stages, stage.isTaken = false := by
    intro stage hstage
    obtain ⟨i, hi⟩ := List.mem_iff_getElem?.mp hstage
    cases stage with
    | taken => exact absurd ⟨i, hi⟩ htaken
    | waiting | finished | calledOff => rfl
  have hidle : c.busy = 0 := by
    refine List.countP_eq_zero.mpr fun stage hstage => ?_
    rw [hnone stage hstage]
    decide
  by_cases hwaits : ∃ i : Nat, c.stages[i]? = some .waiting
  · obtain ⟨i, hi⟩ := hwaits
    exact ⟨_, _, .takes hi (hidle ▸ hworkers)⟩
  have hover : ∀ stage ∈ c.stages, stage.isOver = true := by
    intro stage hstage
    obtain ⟨i, hi⟩ := List.mem_iff_getElem?.mp hstage
    cases stage with
    | taken => exact absurd ⟨i, hi⟩ htaken
    | waiting => exact absurd ⟨i, hi⟩ hwaits
    | finished | calledOff => rfl
  cases hopen : c.outcome? with
  | some outcome => exact absurd ⟨hopen, hover⟩ (hnot outcome)
  | none =>
      -- all that is left is for the collector to go on
      cases hnext : c.stages[c.collected.length]? with
      | none => exact ⟨_, _, .completes hall hopen hnext⟩
      | some stage =>
          have hmem := List.mem_of_getElem? hnext
          cases stage with
          | waiting | taken => cases hover _ hmem
          | calledOff => exact absurd rfl (h.called hopen _ hmem)
          | finished result =>
              cases result with
              | ok result => exact ⟨_, _, .gathers hall hopen hnext⟩
              | error e => exact ⟨_, _, .stops hall hopen hnext⟩

/-- How much is left to do about an item that was handed in. -/
def Stage.left : Stage ε β → Nat
  | .waiting => 2
  | .taken => 1
  | .finished _ | .calledOff => 0

/-- How much is left to do: about the items that were handed in, about those that were not, and for
the collector. -/
def left (items : List α) (c : Crew ε β) : Nat :=
  (c.stages.map Stage.left).sum + 3 * (items.length - c.stages.length)
    + (items.length - c.collected.length) + if c.outcome?.isSome then 0 else 1

/-- What is left to do after a change to one item. -/
theorem sum_left_set {stages : List (Stage ε β)} {i : Nat} {before : Stage ε β}
    (after : Stage ε β) (hbefore : stages[i]? = some before) :
    ((stages.set i after).map Stage.left).sum + before.left
      = (stages.map Stage.left).sum + after.left := by
  induction stages generalizing i with
  | nil => cases hbefore
  | cons stage rest ih =>
      cases i with
      | zero =>
          obtain rfl := Option.some.inj hbefore
          simp only [List.set_cons_zero, List.map_cons, List.sum_cons]
          omega
      | succ i =>
          have := ih hbefore
          simp only [List.set_cons_succ, List.map_cons, List.sum_cons]
          omega

/-- Whatever happens leaves less to do. -/
theorem Invariant.left_lt (h : Invariant workers task items c)
    (hstep : Step workers task items c event d) : d.left items < c.left items := by
  cases hstep with
  | handsIn hleft =>
      simp only [left, List.map_append, List.sum_append, List.length_append, List.map_singleton,
        List.sum_singleton, List.length_singleton, Stage.left]
      omega
  | takes hwaits _ =>
      have := sum_left_set .taken hwaits
      simp only [left, List.length_set, Stage.left] at this ⊢
      omega
  | @finishes i item htaken _ =>
      have := sum_left_set (.finished (task i item)) htaken
      simp only [left, List.length_set, Stage.left] at this ⊢
      omega
  | gathers hall hopen hnext =>
      have hlt := (List.getElem?_eq_some_iff.mp hnext).1
      have hle := h.length_le
      simp only [left, List.length_append, List.length_singleton]
      omega
  | stops hall hopen hnext =>
      have hoff : ((c.stages.map Stage.callOff).map Stage.left).sum
          ≤ (c.stages.map Stage.left).sum := by
        rw [List.map_map]
        refine List.sum_le_sum fun stage _ => ?_
        cases stage <;> simp [Stage.callOff, Stage.left]
      simp only [left, List.length_map, hopen, Option.isSome_some, Option.isSome_none]
      simp only [if_true, Bool.false_eq_true, if_false]
      omega
  | completes hall hopen hnone =>
      simp only [left, hopen, Option.isSome_some, Option.isSome_none]
      simp only [if_true, Bool.false_eq_true, if_false]
      omega

/-- A schedule takes no more events than there was to do. -/
theorem Invariant.length_add_left_le (h : Invariant workers task items c) {events : List Event}
    (hrun : c.run? workers task items events = some d) :
    events.length + d.left items ≤ c.left items := by
  induction events generalizing c with
  | nil =>
      obtain rfl := Option.some.inj hrun
      exact (Nat.zero_add _).le
  | cons event rest ih =>
      obtain ⟨next, hnext, hrest⟩ := Option.bind_eq_some_iff.mp hrun
      have hstep := next?_eq_some_iff.mp hnext
      have hless := h.left_lt hstep
      have hafter := ih (h.step hstep) hrest
      rw [List.length_cons]
      omega

/-- From every point of a schedule the work can be brought to its end. -/
theorem Invariant.exists_run? (h : Invariant workers task items c) (hworkers : 0 < workers) :
    ∃ events d, c.run? workers task items events = some d ∧
      d.EndsWith (Pool.inOrder task 0 items) := by
  induction hleft : c.left items using Nat.strong_induction_on generalizing c with
  | h n ih =>
      by_cases hends : ∃ outcome, c.EndsWith outcome
      · obtain ⟨outcome, hends⟩ := hends
        obtain ⟨rfl, -⟩ := h.stopped outcome hends.1
        exact ⟨[], c, rfl, hends⟩
      · obtain ⟨event, next, hstep⟩ := h.exists_step hworkers (not_exists.mp hends)
        obtain ⟨events, d, hrun, hd⟩ := ih _ (hleft ▸ h.left_lt hstep) (h.step hstep) rfl
        refine ⟨event :: events, d, ?_, hd⟩
        rw [Crew.run?, next?_eq_some_iff.mpr hstep]
        exact hrun

/-- What there is to do for a crew that nothing was handed to. -/
theorem left_start (items : List α) : (start : Crew ε β).left items = 4 * items.length + 1 := by
  simp only [left, start, List.map_nil, List.sum_nil, List.length_nil, Option.isSome_none]
  simp only [Bool.false_eq_true, if_false]
  omega

/-- Whether all schedules of a crew lead to an outcome: none takes more than four events for each
item and one more, each can be gone on with until the work is over with that outcome, and the work
is never over with another one. -/
def Settles (workers : Nat) (task : Nat → α → Except ε β) (items : List α)
    (outcome : Except ε (List β)) : Prop :=
  ∀ events c, start.run? workers task items events = some c →
    events.length ≤ 4 * items.length + 1 ∧
    (∃ more d, c.run? workers task items more = some d ∧ d.EndsWith outcome) ∧
    ∀ other, c.EndsWith other → other = outcome

/-- **The schedule does not show.** All schedules of a crew lead to the outcome of work in order. -/
theorem settles (hworkers : 0 < workers) (task : Nat → α → Except ε β) (items : List α) :
    Settles workers task items (Pool.inOrder task 0 items) := by
  intro events c hrun
  have h := invariant_start.run? hrun
  have hshort := invariant_start.length_add_left_le hrun
  rw [left_start] at hshort
  refine ⟨by omega, h.exists_run? hworkers, ?_⟩
  exact fun outcome hends => (h.stopped outcome hends.1).1

end Crew

/-- Work comes to the outcome of work in order and to no other, whatever the number of workers. -/
theorem Pool.comesTo_iff {ε α β : Type} {workers : Option Int} {task : Nat → α → Except ε β}
    {items : List α} {outcome : Except ε (List β)} :
    ComesTo workers task items outcome ↔ outcome = inOrder task 0 items := by
  rw [ComesTo]
  split
  · rename_i hmany
    have hworkers : 0 < (workers.getD 1).toNat := by
      cases workers <;> simp at hmany ⊢
      omega
    constructor
    · rintro ⟨events, c, hrun, hends⟩
      exact (Crew.settles hworkers task items events c hrun).2.2 outcome hends
    · rintro rfl
      exact Crew.invariant_start.exists_run? hworkers
  · exact Iff.rfl

end SealedRpc
