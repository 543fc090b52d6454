import SealedRpc.Exchange.Session
import SealedRpc.Proofs.Exchange.EndToEnd
import SealedRpc.Proofs.Exchange.Outcome

/-!
# Calls under way at a time do not interfere

Calls that run at a time share a client: whether its keys count as checked, and its list of
cycles. Neither lets one call disturb another. The keys pass for one call exactly if they pass for
all of them, so that it does not matter who checks them; and each call has a position of its own
in the list, which is the only one it ever writes to.

The argument is an invariant of schedules. It says of every call that how far it has come, its
cycle and its posts fit together as they would if the call ran alone, and it is preserved by each
event because an event changes one call and leaves the others as they are.

## Main results

* `Fits.eq_alone`: a call that fits and has ended did what it would have done alone.
* `Invariant.next?`, `Invariant.run?`: the invariant, for one event and for schedules.
* `interleaved_eq_alone`: in every schedule every call does what it would have done alone.
-/

namespace SealedRpc.Client

variable {c : Client} {coins : Coins}

/-- Whether the keys have been checked or pass now does not depend on random choices. -/
theorem admits_iff : c.Admits coins ↔ c.validated = true ∨ c.deployment.Ready :=
  or_congr Iff.rfl Deployment.validate_eq_ok_iff

/-! ### A call on its own -/

section

variable [Json.NestingLimit]

/-- How far a call has come, its cycle and its posts fit together as they do if the call runs
alone. -/
inductive Fits (c : Client) (call : Invocation) :
    Stage → Option (Cycle CallError) → List (Via × EncodedRequest) → Prop
  | idle : Fits c call .idle none []
  | refused {ticket : Nat} {e : CallError} (hnot : ¬ c.Admits call.coins)
      (hcheck : c.deployment.validate call.coins = .error e) :
      Fits c call (.ended ticket (.error e)) (some (failedAfter [] e)) []
  | unencoded {ticket : Nat} {e : CallError} (hadmits : c.Admits call.coins)
      (hencode : c.deployment.encode call.coins call.request = .error e) :
      Fits c call (.ended ticket (.error e)) (some (failedAfter [.encoding] e)) []
  | waiting {ticket : Nat} {encoded : EncodedRequest} (hadmits : c.Admits call.coins)
      (hencode : c.deployment.encode call.coins call.request = .ok encoded) :
      Fits c call (.waiting ⟨ticket, encoded⟩) (some waiting) [(call.via, encoded)]
  | answered {ticket : Nat} {encoded : EncodedRequest} (hadmits : c.Admits call.coins)
      (hencode : c.deployment.encode call.coins call.request = .ok encoded) :
      Fits c call (.answered ⟨ticket, encoded⟩ (call.outcome encoded)) (some waiting)
        [(call.via, encoded)]
  | concluded {ticket : Nat} {encoded : EncodedRequest} (hadmits : c.Admits call.coins)
      (hencode : c.deployment.encode call.coins call.request = .ok encoded) :
      Fits c call
        (.ended ticket (conclude c.deployment call.coins Client.waiting (call.outcome encoded)).2)
        (some (conclude c.deployment call.coins Client.waiting (call.outcome encoded)).1)
        [(call.via, encoded)]

/-- A call that fits and has ended has the result, the posts and the cycle that it would have
had alone. -/
theorem Fits.eq_alone {call : Invocation} {ticket : Nat} {result : Except CallError Bytes}
    {cycle? : Option (Cycle CallError)} {posts : List (Via × EncodedRequest)}
    (h : Fits c call (.ended ticket result) cycle? posts) :
    result = (call.alone c).result ∧ posts = (call.alone c).posts ∧
      cycle? = (call.alone c).client.lastCycle? := by
  rw [Invocation.alone, callAsync_eq_callVia, callVia]
  cases h with
  | refused hnot hcheck =>
      simp only [begin_of_refused hnot hcheck, lastCycle?, List.getLast?_concat, and_self]
  | unencoded hadmits hencode =>
      simp only [begin_of_unencoded hadmits hencode, lastCycle?, List.getLast?_concat, and_self]
  | concluded hadmits hencode =>
      simp only [begin_of_encoded hadmits hencode, finish_waits, lastCycle?, List.getLast?_concat]
      exact ⟨rfl, rfl, rfl⟩

/-- A call that has begun has posted its request once, if it is encoded. -/
theorem Fits.posts_of_encoded {call : Invocation} {stage : Stage}
    {cycle? : Option (Cycle CallError)} {posts : List (Via × EncodedRequest)}
    (h : Fits c call stage cycle? posts) (hbegun : stage ≠ .idle) (hadmits : c.Admits call.coins)
    {encoded : EncodedRequest}
    (hencode : c.deployment.encode call.coins call.request = .ok encoded) :
    posts = [(call.via, encoded)] := by
  cases h with
  | idle => exact absurd rfl hbegun
  | refused hnot hcheck => exact absurd hadmits hnot
  | unencoded _ hfails => cases hfails.symm.trans hencode
  | waiting _ hencode' | answered _ hencode' | concluded _ hencode' =>
      rw [Except.ok.inj (hencode.symm.trans hencode')]

/-- A call posts nothing if its request is not encoded. -/
theorem Fits.posts_of_not_encoded {call : Invocation} {stage : Stage}
    {cycle? : Option (Cycle CallError)} {posts : List (Via × EncodedRequest)}
    (h : Fits c call stage cycle? posts)
    (hnot : c.Admits call.coins →
      ∀ encoded, c.deployment.encode call.coins call.request ≠ .ok encoded) : posts = [] := by
  cases h with
  | idle | refused | unencoded => rfl
  | waiting hadmits hencode | answered hadmits hencode | concluded hadmits hencode =>
      exact absurd hencode (hnot hadmits _)

/-- A call that has not begun has posted nothing. -/
theorem Fits.posts_of_idle {call : Invocation} {cycle? : Option (Cycle CallError)}
    {posts : List (Via × EncodedRequest)} (h : Fits c call .idle cycle? posts) : posts = [] := by
  cases h
  rfl

/-- A call that waits has posted its request, and its cycle waits. -/
theorem Fits.of_waiting {call : Invocation} {pending : Pending}
    {cycle? : Option (Cycle CallError)} {posts : List (Via × EncodedRequest)}
    (h : Fits c call (.waiting pending) cycle? posts) :
    c.Admits call.coins ∧ c.deployment.encode call.coins call.request = .ok pending.encoded ∧
      cycle? = some Client.waiting ∧ posts = [(call.via, pending.encoded)] := by
  cases h with
  | waiting hadmits hencode => exact ⟨hadmits, hencode, rfl, rfl⟩

/-- A call whose post was answered got the answer to that post, and its cycle still waits. -/
theorem Fits.of_answered {call : Invocation} {pending : Pending}
    {outcome : Except Http.Fault Http.Response} {cycle? : Option (Cycle CallError)}
    {posts : List (Via × EncodedRequest)}
    (h : Fits c call (.answered pending outcome) cycle? posts) :
    c.Admits call.coins ∧ c.deployment.encode call.coins call.request = .ok pending.encoded ∧
      outcome = call.outcome pending.encoded ∧ cycle? = some Client.waiting ∧
      posts = [(call.via, pending.encoded)] := by
  cases h with
  | answered hadmits hencode => exact ⟨hadmits, hencode, rfl, rfl, rfl⟩

/-! ### The invariant of schedules -/

section Schedules

variable {ι : Type} {calls : ι → Invocation} {s t : Session ι} {last? : Option ι} {i : ι}

/-- What holds of a client and its calls at every point of a schedule. The deployment, the
readiness of the keys and the cycles from before are as they were; every call that has begun has a
cycle of its own; every call fits; and the last cycle is that of the call that began last. -/
structure Invariant (c : Client) (calls : ι → Invocation) (s : Session ι) (last? : Option ι) :
    Prop where
  deployment_eq : s.client.deployment = c.deployment
  admits : ∀ coins, s.client.Admits coins ↔ c.Admits coins
  kept : s.client.cycles.take c.cycles.length = c.cycles
  ticket_mem : ∀ i ticket, (s.stage i).ticket? = some ticket →
    c.cycles.length ≤ ticket ∧ ticket < s.client.cycles.length
  apart : ∀ i j ticket, (s.stage i).ticket? = some ticket → (s.stage j).ticket? = some ticket →
    i = j
  fits : ∀ i, Fits c (calls i) (s.stage i) (s.cycle? i) (s.posts i)
  last : last?.elim (s.client.cycles = c.cycles) fun i =>
    (s.stage i).ticket? = some (s.client.cycles.length - 1)

/-- Nothing has happened to a client whose calls have not begun. -/
theorem invariant_start (c : Client) (calls : ι → Invocation) :
    Invariant c calls (Session.start c) none where
  deployment_eq := rfl
  admits _ := Iff.rfl
  kept := List.take_length
  ticket_mem _ _ := nofun
  apart _ _ _ := nofun
  fits _ := .idle
  last := rfl

/-- The cycles from before are never more than the cycles. -/
theorem Invariant.length_le (h : Invariant c calls s last?) :
    c.cycles.length ≤ s.client.cycles.length := by
  have hlength := congrArg List.length h.kept
  rw [List.length_take] at hlength
  omega

/-- The last cycle is that of the call that began last. -/
theorem Invariant.lastCycle?_eq (h : Invariant c calls s last?) :
    s.client.lastCycle? = last?.elim c.lastCycle? s.cycle? := by
  have hlast := h.last
  cases last? with
  | none => exact congrArg List.getLast? hlast
  | some i =>
      have hlast : (s.stage i).ticket? = some (s.client.cycles.length - 1) := hlast
      change s.client.cycles.getLast? = s.cycle? i
      rw [Session.cycle?, hlast, Option.bind_some, List.getLast?_eq_getElem?]

/-- The invariant survives a change to one call that has a cycle of its own afterwards and fits,
if the other calls, their cycles and the cycles from before stay as they are. -/
theorem Invariant.changes (h : Invariant c calls s last?) {last'? : Option ι} {ticket : Nat}
    (hothers : ∀ j, j ≠ i → t.stage j = s.stage j ∧ t.posts j = s.posts j)
    (hdeployment : t.client.deployment = c.deployment)
    (hadmits : ∀ coins, t.client.Admits coins ↔ c.Admits coins)
    (hkept : t.client.cycles.take c.cycles.length = c.cycles)
    (hlength : s.client.cycles.length ≤ t.client.cycles.length)
    (hcycles : ∀ other, other < s.client.cycles.length → other ≠ ticket →
      t.client.cycles[other]? = s.client.cycles[other]?)
    (hticket : (t.stage i).ticket? = some ticket)
    (hmem : c.cycles.length ≤ ticket ∧ ticket < t.client.cycles.length)
    (hapart : ∀ j, j ≠ i → (s.stage j).ticket? ≠ some ticket)
    (hfits : Fits c (calls i) (t.stage i) t.client.cycles[ticket]? (t.posts i))
    (hlast : last'?.elim (t.client.cycles = c.cycles) fun j =>
      (t.stage j).ticket? = some (t.client.cycles.length - 1)) : Invariant c calls t last'? where
  deployment_eq := hdeployment
  admits := hadmits
  kept := hkept
  ticket_mem j other hother := by
    by_cases hj : j = i
    · subst hj
      exact Option.some.inj (hticket.symm.trans hother) ▸ hmem
    · rw [(hothers j hj).1] at hother
      exact (h.ticket_mem j other hother).imp_right fun hlt => Nat.lt_of_lt_of_le hlt hlength
  apart j k other hj hk := by
    by_cases hji : j = i <;> by_cases hki : k = i
    · rw [hji, hki]
    · subst hji
      rw [(hothers k hki).1, ← hj, hticket] at hk
      exact absurd hk (hapart k hki)
    · subst hki
      rw [(hothers j hji).1, ← hk, hticket] at hj
      exact absurd hj (hapart j hji)
    · rw [(hothers j hji).1] at hj
      rw [(hothers k hki).1] at hk
      exact h.apart j k other hj hk
  fits j := by
    by_cases hj : j = i
    · subst hj
      rw [Session.cycle?, hticket]
      exact hfits
    · obtain ⟨hstage, hposts⟩ := hothers j hj
      have hcycle : t.cycle? j = s.cycle? j := by
        rw [Session.cycle?, Session.cycle?, hstage]
        refine Option.bind_congr fun other hother => ?_
        refine hcycles other (h.ticket_mem j other hother).2 ?_
        rintro rfl
        exact hapart j hj hother
      rw [hcycle, hstage, hposts]
      exact h.fits j
  last := hlast

/-- The invariant survives a new call, which adds its cycle to the client and fits. -/
theorem Invariant.adds (h : Invariant c calls s last?) {cycle : Cycle CallError}
    (hothers : ∀ j, j ≠ i → t.stage j = s.stage j ∧ t.posts j = s.posts j)
    (hdeployment : t.client.deployment = c.deployment)
    (hadmits : ∀ coins, t.client.Admits coins ↔ c.Admits coins)
    (hcycles : t.client.cycles = s.client.cycles ++ [cycle])
    (hticket : (t.stage i).ticket? = some s.client.cycles.length)
    (hfits : Fits c (calls i) (t.stage i) (some cycle) (t.posts i)) :
    Invariant c calls t (some i) := by
  have hlength : t.client.cycles.length = s.client.cycles.length + 1 := by
    rw [hcycles, List.length_append, List.length_singleton]
  refine h.changes hothers hdeployment hadmits ?_ (by omega) ?_ hticket ⟨h.length_le, by omega⟩
    ?_ ?_ ?_
  · rw [hcycles, List.take_append_of_le_length h.length_le, h.kept]
  · intro other hlt _
    rw [hcycles, List.getElem?_append_left hlt]
  · intro j _ hj
    exact Nat.lt_irrefl _ (h.ticket_mem j _ hj).2
  · rw [hcycles, List.getElem?_concat_length]
    exact hfits
  · change (t.stage i).ticket? = _
    rw [hticket, hlength, Nat.add_sub_cancel]

/-- The invariant survives a call that goes on, which changes its own cycle at most and fits. -/
theorem Invariant.stays (h : Invariant c calls s last?) {ticket : Nat} {cycle : Cycle CallError}
    (hbefore : (s.stage i).ticket? = some ticket)
    (hothers : ∀ j, j ≠ i → t.stage j = s.stage j ∧ t.posts j = s.posts j)
    (hdeployment : t.client.deployment = c.deployment)
    (hvalidated : t.client.validated = s.client.validated)
    (hcycles : t.client.cycles = s.client.cycles.set ticket cycle)
    (hticket : (t.stage i).ticket? = some ticket)
    (hfits : Fits c (calls i) (t.stage i) (some cycle) (t.posts i)) :
    Invariant c calls t last? := by
  obtain ⟨hle, hlt⟩ := h.ticket_mem i ticket hbefore
  have hlength : t.client.cycles.length = s.client.cycles.length := by
    rw [hcycles, List.length_set]
  refine h.changes hothers hdeployment (fun coins => ?_) ?_ hlength.ge ?_ hticket
    ⟨hle, by omega⟩ ?_ ?_ ?_
  · rw [← h.admits coins, Admits, Admits, hdeployment, h.deployment_eq, hvalidated]
  · rw [hcycles, List.take_set_of_le hle, h.kept]
  · intro other _ hother
    rw [hcycles, List.getElem?_set_ne (Ne.symm hother)]
  · exact fun j hj hj' => hj (h.apart j i ticket hj' hbefore)
  · rw [hcycles, List.getElem?_set_self hlt]
    exact hfits
  · have hlast := h.last
    cases last? with
    | none =>
        have hlast : s.client.cycles = c.cycles := hlast
        rw [hlast] at hlt
        omega
    | some j =>
        have hlast : (s.stage j).ticket? = some (s.client.cycles.length - 1) := hlast
        change (t.stage j).ticket? = _
        rw [hlength, ← hlast]
        by_cases hj : j = i
        · rw [hj, hticket, hbefore]
        · rw [(hothers j hj).1]

/-! ### Events -/

variable [DecidableEq ι]

/-- The invariant survives the beginning of a call. -/
theorem Invariant.begin (h : Invariant c calls s last?) (hidle : s.stage i = .idle) :
    Invariant c calls (s.begin calls i) (some i) := by
  have hposts : s.posts i = [] := (hidle ▸ h.fits i).posts_of_idle
  have hsame := h.admits (calls i).coins
  -- once the keys have passed for one call, they count as checked for all
  have hchecked : c.Admits (calls i).coins → ∀ client : Client, client.validated = true →
      ∀ coins, client.Admits coins ↔ c.Admits coins :=
    fun hadmits client hvalidated coins =>
      ⟨fun _ => admits_iff.mpr (admits_iff.mp hadmits), fun _ => .inl hvalidated⟩
  have hbegins := begins_begin s.client (calls i).coins (calls i).request
  rw [Session.begin]
  generalize s.client.begin (calls i).coins (calls i).request = begun at hbegins
  cases hbegins with
  | refused hnot hcheck =>
      rw [h.deployment_eq] at hcheck
      refine h.adds (fun j hj => ⟨Function.update_of_ne hj _ _, rfl⟩) h.deployment_eq h.admits rfl
        ?_ ?_
      · simp only [Function.update_self, Stage.ticket?]
      · simp only [Function.update_self, hposts]
        exact .refused (fun hadmits => hnot (hsame.mpr hadmits)) hcheck
  | unencoded hadmits hencode =>
      rw [h.deployment_eq] at hencode
      refine h.adds (fun j hj => ⟨Function.update_of_ne hj _ _, rfl⟩) h.deployment_eq
        (hchecked (hsame.mp hadmits) _ rfl) rfl ?_ ?_
      · simp only [Function.update_self, Stage.ticket?]
      · simp only [Function.update_self, hposts]
        exact .unencoded (hsame.mp hadmits) hencode
  | waits hadmits hencode =>
      rw [h.deployment_eq] at hencode
      refine h.adds (fun j hj => ⟨Function.update_of_ne hj _ _, Function.update_of_ne hj _ _⟩)
        h.deployment_eq (hchecked (hsame.mp hadmits) _ rfl) rfl ?_ ?_
      · simp only [Function.update_self, Stage.ticket?]
      · simp only [Function.update_self, hposts, List.nil_append]
        exact .waiting (hsame.mp hadmits) hencode

/-- The invariant survives the arrival of an answer. -/
theorem Invariant.arrive (h : Invariant c calls s last?) {pending : Pending}
    (hwaits : s.stage i = .waiting pending) :
    Invariant c calls
      { s with
        stage := Function.update s.stage i
          (.answered pending ((calls i).outcome pending.encoded)) } last? := by
  have hticket : (s.stage i).ticket? = some pending.ticket := by
    rw [hwaits]
    rfl
  obtain ⟨hadmits, hencode, hcycle, hposts⟩ := (hwaits ▸ h.fits i).of_waiting
  rw [Session.cycle?, hticket, Option.bind_some] at hcycle
  have hcycles : s.client.cycles = s.client.cycles.set pending.ticket waiting := by
    obtain ⟨hlt, hget⟩ := List.getElem?_eq_some_iff.mp hcycle
    rw [← hget, List.set_getElem_self]
  refine h.stays hticket (fun j hj => ⟨Function.update_of_ne hj _ _, rfl⟩) h.deployment_eq rfl
    hcycles ?_ ?_
  · simp only [Function.update_self, Stage.ticket?]
  · simp only [Function.update_self, hposts]
    exact .answered hadmits hencode

/-- The invariant survives the end of a call. -/
theorem Invariant.finish (h : Invariant c calls s last?) {pending : Pending}
    {outcome : Except Http.Fault Http.Response}
    (hanswered : s.stage i = .answered pending outcome) :
    Invariant c calls (s.finish calls i pending outcome) last? := by
  have hticket : (s.stage i).ticket? = some pending.ticket := by
    rw [hanswered]
    rfl
  obtain ⟨hadmits, hencode, rfl, hcycle, hposts⟩ := (hanswered ▸ h.fits i).of_answered
  rw [Session.cycle?, hticket, Option.bind_some] at hcycle
  rw [Session.finish]
  simp only [Client.finish, hcycle, Option.getD_some, h.deployment_eq]
  refine h.stays hticket (fun j hj => ⟨Function.update_of_ne hj _ _, rfl⟩) rfl rfl rfl ?_ ?_
  · simp only [Function.update_self, Stage.ticket?]
  · simp only [Function.update_self, hposts]
    exact .concluded hadmits hencode

/-- The invariant survives every event, and a call that begins in it began last. -/
theorem Invariant.next? (h : Invariant c calls s last?) {event : Event ι}
    (hnext : s.next? calls event = some t) : Invariant c calls t (event.begun?.or last?) := by
  cases event with
  | begins i =>
      simp only [Session.next?] at hnext
      split at hnext
      · obtain rfl := Option.some.inj hnext
        exact h.begin ‹_›
      · cases hnext
  | arrives i =>
      simp only [Session.next?] at hnext
      split at hnext
      · obtain rfl := Option.some.inj hnext
        exact h.arrive ‹_›
      · cases hnext
  | finishes i =>
      simp only [Session.next?] at hnext
      split at hnext
      · obtain rfl := Option.some.inj hnext
        exact h.finish ‹_›
      · cases hnext

/-- The invariant survives every schedule, and the call that began last in it is the last one. -/
theorem Invariant.run? (h : Invariant c calls s last?) {events : List (Event ι)}
    (hrun : s.run? calls events = some t) :
    Invariant c calls t ((events.filterMap Event.begun?).getLast?.or last?) := by
  induction events generalizing s last? with
  | nil =>
      obtain rfl := Option.some.inj hrun
      exact h
  | cons event rest ih =>
      obtain ⟨u, hnext, hrest⟩ := Option.bind_eq_some_iff.mp hrun
      have hinvariant := ih (h.next? hnext) hrest
      cases event with
      | begins i =>
          change Invariant c calls t ((i :: rest.filterMap Event.begun?).getLast?.or last?)
          rw [List.getLast?_cons]
          cases hlast : (rest.filterMap Event.begun?).getLast? <;> rw [hlast] at hinvariant <;>
            exact hinvariant
      | arrives i => exact hinvariant
      | finishes i => exact hinvariant

/-- **Calls do not interfere.** Take any number of calls of one client and any schedule of their
beginnings, of the arrival of what the network comes back with, and of their ends. A call that has
ended returned or raised what it would have alone, with the same posts and the same cycle. A call
that has begun posted once if its request was encoded; nothing else is ever posted, and what a
call goes on with is what its own post came back with. No two calls have one cycle, none touches
the cycles from before, and the last cycle is that of the call that began last. -/
theorem interleaved_eq_alone (c : Client) (calls : ι → Invocation) {events : List (Event ι)}
    (hrun : (Session.start c).run? calls events = some s) :
    (∀ i result, (s.stage i).result? = some result →
      result = ((calls i).alone c).result ∧ s.posts i = ((calls i).alone c).posts ∧
        s.cycle? i = ((calls i).alone c).client.lastCycle?) ∧
    (∀ i, s.stage i ≠ .idle → c.Admits (calls i).coins → ∀ encoded,
      c.deployment.encode (calls i).coins (calls i).request = .ok encoded →
        s.posts i = [((calls i).via, encoded)]) ∧
    (∀ i, (c.Admits (calls i).coins → ∀ encoded,
      c.deployment.encode (calls i).coins (calls i).request ≠ .ok encoded) → s.posts i = []) ∧
    (∀ i, s.stage i = .idle → s.posts i = []) ∧
    (∀ i pending outcome, s.stage i = .answered pending outcome →
      s.posts i = [((calls i).via, pending.encoded)] ∧
        outcome = (calls i).outcome pending.encoded) ∧
    (∀ i j, i ≠ j → s.stage i ≠ .idle → (s.stage i).ticket? ≠ (s.stage j).ticket?) ∧
    s.client.cycles.take c.cycles.length = c.cycles ∧
    s.client.lastCycle?
      = (events.filterMap Event.begun?).getLast?.elim c.lastCycle? s.cycle? := by
  have h := (invariant_start c calls).run? hrun
  rw [Option.or_none] at h
  refine ⟨?_, ?_, ?_, ?_, ?_, ?_, h.kept, h.lastCycle?_eq⟩
  · intro i result hresult
    have hfits := h.fits i
    cases hstage : s.stage i with
    | ended ticket result' =>
        rw [hstage] at hfits hresult
        obtain rfl := Option.some.inj hresult
        exact hfits.eq_alone
    | idle | waiting | answered =>
        rw [hstage] at hresult
        cases hresult
  · intro i hbegun hadmits encoded hencode
    exact (h.fits i).posts_of_encoded hbegun hadmits hencode
  · exact fun i hnot => (h.fits i).posts_of_not_encoded hnot
  · exact fun i hidle => (hidle ▸ h.fits i).posts_of_idle
  · intro i pending outcome hanswered
    obtain ⟨-, -, houtcome, -, hposts⟩ := (hanswered ▸ h.fits i).of_answered
    exact ⟨hposts, houtcome⟩
  · intro i j hij hbegun hsame
    cases hticket : (s.stage i).ticket? with
    | some ticket => exact hij (h.apart i j ticket hticket (hsame.symm.trans hticket))
    | none =>
        cases hstage : s.stage i with
        | idle => exact hbegun hstage
        | waiting | answered | ended =>
            rw [hstage] at hticket
            cases hticket

end Schedules

end

/-! ### Two calls at a time -/

/-- Two calls of the small client: the network fails for one and answers the other. -/
def sampleCalls : Bool → Invocation
  | false => ⟨.constant, ⟨fun _ => ⟨.error (.timeout "slow"), [], []⟩, none⟩, .text "one"⟩
  | true => ⟨.constant, ⟨fun _ => ⟨.error (.timeout "slow"), [], []⟩,
      some fun _ => ⟨.ok ⟨200, [], []⟩, [], []⟩⟩, .text "two"⟩

/-- The call that begins last ends first. -/
def sampleSchedule : List (Event Bool) :=
  [.begins false, .begins true, .arrives true, .finishes true, .arrives false, .finishes false]

/-- Both calls come to their end, each as it would have alone. -/
theorem interleaved_eq_alone_sample :
    ∃ s, (Session.start sampleClient).run? sampleCalls sampleSchedule = some s ∧
      ∀ i, ∃ result, (s.stage i).result? = some result ∧
        result = ((sampleCalls i).alone sampleClient).result ∧ (s.posts i).length = 1 := by
  have hends : ((Session.start sampleClient).run? sampleCalls sampleSchedule).any (fun s =>
      (s.stage false).result?.isSome && (s.stage true).result?.isSome &&
        (s.posts false).length == 1 && (s.posts true).length == 1) = true := by
    decide +kernel
  cases hrun : (Session.start sampleClient).run? sampleCalls sampleSchedule with
  | none =>
      rw [hrun] at hends
      cases hends
  | some s =>
      rw [hrun] at hends
      simp only [Option.any_some, Bool.and_eq_true, beq_iff_eq] at hends
      obtain ⟨⟨⟨hfalse, htrue⟩, honce⟩, honce'⟩ := hends
      obtain ⟨halone, -⟩ := interleaved_eq_alone sampleClient sampleCalls hrun
      refine ⟨s, rfl, fun i => ?_⟩
      cases i with
      | false =>
          obtain ⟨result, hresult⟩ := Option.isSome_iff_exists.mp hfalse
          exact ⟨result, hresult, (halone false result hresult).1, honce⟩
      | true =>
          obtain ⟨result, hresult⟩ := Option.isSome_iff_exists.mp htrue
          exact ⟨result, hresult, (halone true result hresult).1, honce'⟩

end SealedRpc.Client
