/-!
# Results that may be failures

When an operation in steps succeeds, and when one does whose failures were renamed; and what
all failures of an operation, or all its successes, have in common, step by step.
-/

namespace Except

variable {ε δ α β : Type}

/-- Two steps succeed exactly if the first does and the second does on its result. -/
theorem bind_eq_ok_iff {x : Except ε α} {f : α → Except ε β} {b : β} :
    x.bind f = .ok b ↔ ∃ a, x = .ok a ∧ f a = .ok b := by
  cases x <;> simp [Except.bind]

@[simp]
theorem mapError_ok (f : ε → δ) (a : α) : (.ok a : Except ε α).mapError f = .ok a := rfl

@[simp]
theorem mapError_error (f : ε → δ) (e : ε) : (.error e : Except ε α).mapError f = .error (f e) :=
  rfl

/-- Renaming failures does not make a success. -/
theorem mapError_eq_ok_iff {x : Except ε α} {f : ε → δ} {a : α} :
    x.mapError f = .ok a ↔ x = .ok a := by
  cases x <;> simp

/-- A mapped result is a success exactly if the result is one. -/
theorem map_eq_ok_iff {x : Except ε α} {f : α → β} {b : β} :
    x.map f = .ok b ↔ ∃ a, x = .ok a ∧ f a = b := by
  cases x <;> simp [Except.map]

/-- A mapped result fails as the result does. -/
theorem map_eq_error_iff {x : Except ε α} {f : α → β} {e : ε} :
    x.map f = .error e ↔ x = .error e := by
  cases x <;> simp [Except.map]

/-- A check as the last step succeeds exactly if it does not fail. -/
theorem ite_error_eq_ok_iff {p : Prop} [Decidable p] {e : ε} :
    (if p then .error e else pure () : Except ε Unit) = .ok () ↔ ¬ p := by
  by_cases hp : p
  · simp [hp]
  · simp [hp, pure, Except.pure]

/-- Steps after a check succeed exactly if the check does not fail and they do. -/
theorem ite_error_bind_eq_ok_iff {p : Prop} [Decidable p] {e : ε} {f : Unit → Except ε β} {b : β} :
    (if p then ((.error e : Except ε Unit) >>= f) else f ()) = .ok b ↔ ¬ p ∧ f () = .ok b := by
  by_cases hp : p
  · simp [hp, bind, Except.bind]
  · simp [hp]

/-! ### What failures have in common -/

/-- Whether all failures that a result may be satisfy `P`. -/
def FailsWith (P : ε → Prop) (x : Except ε α) : Prop :=
  ∀ e, x = .error e → P e

/-- A success is no failure. -/
theorem failsWith_ok {P : ε → Prop} (a : α) : FailsWith P (.ok a : Except ε α) :=
  nofun

/-- The failure itself. -/
theorem failsWith_error {P : ε → Prop} {e : ε} (h : P e) : FailsWith P (.error e : Except ε α) := by
  rintro _ ⟨⟩
  exact h

/-- Two steps fail as the first does, or as the second does on the result of the first. -/
theorem FailsWith.bind {P : ε → Prop} {x : Except ε α} {f : α → Except ε β} (hx : FailsWith P x)
    (hf : ∀ a, x = .ok a → FailsWith P (f a)) : FailsWith P (x.bind f) := by
  intro e he
  cases hxa : x with
  | error e' =>
      rw [hxa] at he
      obtain rfl : e' = e := Except.error.inj he
      exact hx e' hxa
  | ok a =>
      rw [hxa] at he
      exact hf a hxa e he

/-- A check and the steps after it fail with the failure of the check, or as the steps do. -/
theorem FailsWith.ite_error_bind {P : ε → Prop} {p : Prop} [Decidable p] {e : ε}
    {f : Unit → Except ε β} (he : P e) (hf : FailsWith P (f ())) :
    FailsWith P (if p then ((.error e : Except ε Unit) >>= f) else f ()) := by
  split
  · exact failsWith_error he
  · exact hf

/-- Renamed failures satisfy what the failures satisfy after renaming. -/
theorem FailsWith.mapError {P : δ → Prop} {f : ε → δ} {x : Except ε α}
    (h : FailsWith (fun e => P (f e)) x) : FailsWith P (x.mapError f) := by
  intro e he
  cases hx : x with
  | ok a =>
      rw [hx] at he
      cases he
  | error e' =>
      rw [hx] at he
      cases he
      exact h e' hx

/-- What a result fails with, a mapped result fails with. -/
theorem FailsWith.map {P : ε → Prop} {x : Except ε α} (h : FailsWith P x) (f : α → β) :
    FailsWith P (x.map f) := by
  intro e he
  cases hx : x with
  | ok a =>
      rw [hx] at he
      cases he
  | error e' =>
      rw [hx] at he
      cases he
      exact h e hx

/-! ### What successes have in common -/

/-- Whether all successes that a result may be satisfy `P`. -/
def Returns (P : α → Prop) (x : Except ε α) : Prop :=
  ∀ a, x = .ok a → P a

/-- The success itself. -/
theorem returns_ok {P : α → Prop} {a : α} (h : P a) : Returns P (.ok a : Except ε α) := by
  rintro _ ⟨⟩
  exact h

/-- A failure is no success. -/
theorem returns_error {P : α → Prop} (e : ε) : Returns P (.error e : Except ε α) :=
  nofun

/-- Two steps succeed as the second does on the result of the first. -/
theorem Returns.bind {P : α → Prop} {Q : β → Prop} {x : Except ε α} {f : α → Except ε β}
    (hx : Returns P x) (hf : ∀ a, P a → Returns Q (f a)) : Returns Q (x.bind f) := by
  intro b hb
  obtain ⟨a, ha, hb⟩ := bind_eq_ok_iff.mp hb
  exact hf a (hx a ha) b hb

/-- A mapped result succeeds with what the result is mapped to. -/
theorem Returns.map {P : α → Prop} {Q : β → Prop} {x : Except ε α} {f : α → β}
    (hx : Returns P x) (hf : ∀ a, P a → Q (f a)) : Returns Q (x.map f) := by
  intro b hb
  obtain ⟨a, ha, rfl⟩ := map_eq_ok_iff.mp hb
  exact hf a (hx a ha)

/-- Renaming failures leaves successes alone. -/
theorem Returns.mapError {P : α → Prop} {x : Except ε α} {f : ε → δ} (hx : Returns P x) :
    Returns P (x.mapError f) :=
  fun a ha => hx a (mapError_eq_ok_iff.mp ha)

end Except
