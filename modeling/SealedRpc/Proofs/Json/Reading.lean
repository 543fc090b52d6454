import SealedRpc.Proofs.Except
import SealedRpc.Proofs.Json.Token
import SealedRpc.Text.Utf8

/-!
# What JSON texts stand for

A reader lets only so much through: integers of a limited number of digits, in a dialect without
lone surrogates texts that hold none, objects whose names differ, and containers that nest to a
fixed depth. Whatever holds of atoms and texts that are let through, and of containers whose parts
have it, holds of all that is read.

The readers of values, of items and of fields call one another on a smaller budget of steps, so
the induction is on the budget, and each reader is a lemma about the others.

## Main results

* `Dialect.Keeps.of_parseIn`: what reading keeps holds of what was read.
* `every_of_parseIn`: what holds of all integers and texts that a dialect lets through holds of
  all those in a value that was read.
* `fits_of_parseIn`, `encodable_of_parseIn`: the two things that are asked most.
-/

namespace SealedRpc

/-- The number of decimal digits bounds the number. -/
theorem Number.ofDigits_lt (digits : Text) : Number.ofDigits digits < 10 ^ digits.length := by
  have hdigit : ∀ c : CodePoint, c.asciiDigit?.getD 0 < 10 := by
    intro c
    rw [CodePoint.asciiDigit?]
    split
    · rw [Option.getD_some]
      omega
    · exact Nat.zero_lt_succ 9
  have hfold : ∀ before, digits.foldl (fun n c => 10 * n + c.asciiDigit?.getD 0) before
      < (before + 1) * 10 ^ digits.length := by
    induction digits with
    | nil =>
        intro before
        simp
    | cons c rest ih =>
        intro before
        have hc := hdigit c
        calc rest.foldl (fun n c => 10 * n + c.asciiDigit?.getD 0)
              (10 * before + c.asciiDigit?.getD 0)
            < (10 * before + c.asciiDigit?.getD 0 + 1) * 10 ^ rest.length := ih _
          _ ≤ ((before + 1) * 10) * 10 ^ rest.length := Nat.mul_le_mul_right _ (by omega)
          _ = (before + 1) * 10 ^ (c :: rest).length := by
              rw [List.length_cons, Nat.pow_succ', Nat.mul_assoc]
  simpa [Number.ofDigits] using hfold 0

namespace Json

/-! ### What may be asked of a value -/

mutual

/-- Whether all integers and all texts in a value, the names of fields among them, are as
asked. -/
def every (int : Int → Bool) (text : Text → Bool) : Json → Bool
  | .null | .bool _ | .float _ => true
  | .int n => int n
  | .text t => text t
  | .array items => everyItem int text items
  | .object fields => everyField int text fields

/-- Whether all integers and all texts in items are as asked. -/
def everyItem (int : Int → Bool) (text : Text → Bool) : List Json → Bool
  | [] => true
  | item :: rest => item.every int text && everyItem int text rest

/-- Whether all integers and all texts in fields are as asked. -/
def everyField (int : Int → Bool) (text : Text → Bool) : List (Text × Json) → Bool
  | [] => true
  | (name, value) :: rest => text name && value.every int text && everyField int text rest

end

/-- Whether an integer has a decimal text that may be written. -/
def intFits (n : Int) : Bool :=
  n.natAbs < 10 ^ digitLimit

/-- Whether all integers in a value have texts that may be written. -/
def fits (j : Json) : Bool :=
  j.every intFits fun _ => true

/-- Whether all texts in a value have a UTF-8 form. -/
def encodable (j : Json) : Bool :=
  j.every (fun _ => true) Utf8.encodable

variable {int : Int → Bool} {text : Text → Bool} {dialect : Dialect}

/-- All integers and texts in items are as asked exactly if they are so in each item. -/
theorem everyItem_iff {items : List Json} :
    everyItem int text items = true ↔ ∀ item ∈ items, item.every int text = true := by
  induction items with
  | nil => simp [everyItem]
  | cons item rest ih => rw [everyItem, Bool.and_eq_true, ih, List.forall_mem_cons]

/-- All integers and texts in fields are as asked exactly if each name is and they are so in each
value. -/
theorem everyField_iff {fields : List (Text × Json)} : everyField int text fields = true ↔
    ∀ field ∈ fields, text field.1 = true ∧ field.2.every int text = true := by
  induction fields with
  | nil => simp [everyField]
  | cons field rest ih =>
      obtain ⟨name, value⟩ := field
      rw [everyField, Bool.and_eq_true, Bool.and_eq_true, ih, List.forall_mem_cons]

/-- A field that is found in a value is as asked if the value is. -/
theorem every_of_field? {name : Text} {j value : Json} (hj : j.every int text = true)
    (h : j.field? name = some value) : value.every int text = true := by
  cases j with
  | object fields =>
      rw [every] at hj
      rw [field?] at h
      induction fields with
      | nil => cases h
      | cons field rest ih =>
          obtain ⟨other, found⟩ := field
          simp only [everyField, Bool.and_eq_true] at hj
          rw [List.lookup_cons] at h
          split at h
          · exact Option.some.inj h ▸ hj.1.2
          · exact ih hj.2 h
  | _ => cases h

/-! ### Objects -/

/-- A field that is set is among the fields, or it was there before. -/
theorem mem_setField {name : Text} {value : Json} {fields : List (Text × Json)}
    {field : Text × Json} (h : field ∈ setField name value fields) :
    field = (name, value) ∨ field ∈ fields := by
  induction fields with
  | nil => exact .inl (List.mem_singleton.mp h)
  | cons first rest ih =>
      rw [setField] at h
      split at h
      · rename_i hname
        rcases List.mem_cons.mp h with rfl | hrest
        · exact .inl (by rw [hname])
        · exact .inr (List.mem_cons_of_mem _ hrest)
      · rcases List.mem_cons.mp h with rfl | hrest
        · exact .inr List.mem_cons_self
        · exact (ih hrest).imp id (List.mem_cons_of_mem _)

/-- The names of fields of which one is set are in their order; a new one comes last. -/
theorem map_fst_setField (name : Text) (value : Json) (fields : List (Text × Json)) :
    name ∈ fields.map Prod.fst ∧
        (setField name value fields).map Prod.fst = fields.map Prod.fst ∨
      name ∉ fields.map Prod.fst ∧
        (setField name value fields).map Prod.fst = fields.map Prod.fst ++ [name] := by
  induction fields with
  | nil => exact .inr ⟨List.not_mem_nil, rfl⟩
  | cons first rest ih =>
      by_cases hname : first.1 = name
      · exact .inl (by simp [setField, hname])
      · rw [setField, if_neg hname, List.map_cons, List.map_cons]
        rcases ih with ⟨hmem, heq⟩ | ⟨hnew, heq⟩
        · exact .inl ⟨List.mem_cons_of_mem _ hmem, congrArg _ heq⟩
        · refine .inr ⟨fun h => ?_, congrArg _ heq⟩
          exact (List.mem_cons.mp h).elim (fun h => hname h.symm) hnew

/-- The object of fields holds some of them, with different names. -/
theorem exists_ofFields_eq (fields : List (Text × Json)) : ∃ kept, ofFields fields = .object kept ∧
    kept ⊆ fields ∧ (kept.map Prod.fst).Nodup := by
  have hfold : ∀ before : List (Text × Json), (before.map Prod.fst).Nodup →
      (∀ field ∈ fields.foldl (fun acc f => setField f.1 f.2 acc) before,
        field ∈ before ∨ field ∈ fields) ∧
      ((fields.foldl (fun acc f => setField f.1 f.2 acc) before).map Prod.fst).Nodup := by
    induction fields with
    | nil => exact fun before hbefore => ⟨fun field hfield => .inl hfield, hbefore⟩
    | cons first rest ih =>
        intro before hbefore
        have hset : ((setField first.1 first.2 before).map Prod.fst).Nodup := by
          rcases map_fst_setField first.1 first.2 before with ⟨-, heq⟩ | ⟨hnew, heq⟩
          · exact heq ▸ hbefore
          · rw [heq]
            refine List.nodup_append.mpr ⟨hbefore, by simp, fun other hother _ hlast => ?_⟩
            rw [List.mem_singleton.mp hlast]
            exact fun heq => hnew (heq ▸ hother)
        obtain ⟨hfrom, hnodup⟩ := ih _ hset
        refine ⟨fun field hfield => ?_, hnodup⟩
        rcases hfrom field hfield with hmem | hmem
        · rcases mem_setField hmem with rfl | hmem
          · exact .inr List.mem_cons_self
          · exact .inl hmem
        · exact .inr (List.mem_cons_of_mem _ hmem)
  obtain ⟨hfrom, hnodup⟩ := hfold [] List.nodup_nil
  exact ⟨_, rfl, fun field hfield => (hfrom field hfield).resolve_left List.not_mem_nil, hnodup⟩

/-! ### Readers -/

/-- Texts that are read are admitted. -/
theorem returns_readText (start : Nat) (t : Text) :
    Except.Returns (fun r => dialect.Admits r.1) (readText dialect start t) := by
  intro r hr
  obtain ⟨⟨content, rest⟩, -, hr⟩ := Except.bind_eq_ok_iff.mp hr
  dsimp only at hr
  split at hr
  · cases hr
  · rename_i hadmitted
    obtain rfl := Except.ok.inj hr
    cases hlenient : dialect.loneSurrogates with
    | true => exact .inl hlenient
    | false =>
        refine .inr fun c hc => Bool.eq_false_iff.mpr fun hsurrogate => hadmitted ?_
        rw [hlenient]
        exact List.any_eq_true.mpr ⟨c, hc, hsurrogate⟩

/-- What is read where neither a string nor a container begins: a name, an integer that the
dialect admits, or any floating point number. -/
inductive Dialect.IsAtom (dialect : Dialect) : Json → Prop
  | null : dialect.IsAtom .null
  | bool (b : Bool) : dialect.IsAtom (.bool b)
  | int {n : Int} : dialect.AdmitsInt n → dialect.IsAtom (.int n)
  | float (x : Binary64) : dialect.IsAtom (.float x)

/-- A whole part that is read has a digit. -/
theorem length_pos_of_readWhole? {t whole rest : Text} (h : readWhole? t = some (whole, rest)) :
    0 < whole.length := by
  cases t with
  | nil => cases h
  | cons c more =>
      rw [readWhole?] at h
      split at h
      · obtain ⟨rfl, -⟩ := Prod.mk.inj (Option.some.inj h)
        exact Nat.zero_lt_one
      · split at h
        · obtain ⟨rfl, -⟩ := Prod.mk.inj (Option.some.inj h)
          exact Nat.zero_lt_succ _
        · cases h

/-- An integer has no more digits than the whole part that it is read from, so a dialect admits it
with either sign if it admits that. -/
theorem admitsInt_ofDigits {whole : Text} (hpos : 0 < whole.length)
    (hdigits : whole.length ≤ digitLimit)
    (hlimit : ∀ limit ∈ dialect.wholeLength?, whole.length ≤ limit) (negative : Bool) :
    dialect.AdmitsInt
      (if negative then -(Number.ofDigits whole : Int) else Number.ofDigits whole) := by
  have hlength : (Text.ofNat (Number.ofDigits whole)).length ≤ whole.length :=
    (Text.length_ofNat_le_iff hpos).mpr (Number.ofDigits_lt whole)
  have habs : (if negative then -(Number.ofDigits whole : Int) else Number.ofDigits whole).natAbs
      = Number.ofDigits whole := by
    cases negative <;> simp
  rw [Dialect.AdmitsInt, habs]
  exact ⟨Nat.le_trans hlength hdigits, fun limit h => Nat.le_trans hlength (hlimit limit h)⟩

/-- Numbers that are read are atoms. -/
theorem returns_readNumber (t : Text) :
    Except.Returns (fun r => dialect.IsAtom r.1) (readNumber dialect t) := by
  rw [readNumber.eq_def]
  dsimp only
  split
  · exact Except.returns_error _
  · rename_i whole rest hwhole
    split
    · exact Except.returns_error _
    · rename_i hlimit
      split
      · split
        · exact Except.returns_error _
        · rename_i hdigits
          refine Except.returns_ok (.int (admitsInt_ofDigits (length_pos_of_readWhole? hwhole)
            (Nat.le_of_not_lt hdigits) (fun limit hmem => ?_) _))
          refine Nat.le_of_not_lt fun hlt => hlimit ?_
          rw [Option.mem_def.mp hmem]
          exact decide_eq_true hlt
      · exact Except.returns_ok (.float _)

/-- Names and numbers that are read are atoms. -/
theorem returns_readAtom (t : Text) :
    Except.Returns (fun r => dialect.IsAtom r.1) (readAtom dialect t) := by
  unfold readAtom
  split
  · rename_i found hfound
    refine Except.returns_ok ?_
    obtain ⟨name, hname, hmap⟩ := List.exists_of_findSome?_eq_some hfound
    obtain ⟨rest, -, rfl⟩ := Option.map_eq_some_iff.mp hmap
    simp only [names, List.mem_cons, List.not_mem_nil, or_false] at hname
    rcases hname with rfl | rfl | rfl | rfl | rfl | rfl
    · exact .null
    · exact .bool true
    · exact .bool false
    · exact .float _
    · exact .float _
    · exact .float _
  · exact returns_readNumber t

/-- What reading keeps: a property of values, containers nested to some depth at most, that holds
of what is read for an atom or a text, and of a container if it holds of all that is in it. -/
structure Dialect.Keeps (dialect : Dialect) (P : Nat → Json → Prop) : Prop where
  atom : ∀ depth j, dialect.IsAtom j → P depth j
  text : ∀ depth t, dialect.Admits t → P depth (.text t)
  emptyArray : dialect.emptyNests = false → P 0 (.array [])
  emptyObject : dialect.emptyNests = false → P 0 (.object [])
  array : ∀ depth items, (∀ item ∈ items, P depth item) → P (depth + 1) (.array items)
  object : ∀ depth fields, (∀ field ∈ fields, dialect.Admits field.1 ∧ P depth field.2) →
    P (depth + 1) (ofFields fields)

section Keeping

variable {P : Nat → Json → Prop} (hkeeps : dialect.Keeps P)

/-- A container is closed at once at the limit of nesting only if the dialect lets it. -/
theorem emptyNests_of_emptyAtLimit? {closing : CodePoint} {t after : Text}
    (h : emptyAtLimit? dialect closing t = some after) : dialect.emptyNests = false := by
  rw [emptyAtLimit?] at h
  split at h
  · split at h
    · rename_i hclosed
      rw [Bool.and_eq_true, Bool.not_eq_true'] at hclosed
      exact hclosed.1
    · cases h
  · cases h

include hkeeps in
/-- A value that is read within a budget has what is kept, if the items and the fields have it
that are read within a smaller one. -/
theorem Dialect.Keeps.readValue_succ {steps : Nat}
    (hitems : ∀ depth t, Except.Returns (fun r => ∀ item ∈ r.1, P depth item)
      (readItems dialect steps depth t))
    (hfields : ∀ depth t, Except.Returns
      (fun r => ∀ field ∈ r.1, dialect.Admits field.1 ∧ P depth field.2)
      (readFields dialect steps depth t)) (depth : Nat) (t : Text) :
    Except.Returns (fun r => P depth r.1) (readValue dialect (steps + 1) depth t) := by
  rw [readValue.eq_def]
  dsimp only
  split
  · exact Except.returns_error _
  split
  · exact (returns_readText _ _).map fun r hr => hkeeps.text depth r.1 hr
  split
  · split
    · split
      · rename_i hempty
        exact Except.returns_ok (hkeeps.emptyArray (emptyNests_of_emptyAtLimit? hempty))
      · exact Except.returns_error _
    · split
      · split
        · exact Except.returns_ok (hkeeps.array _ [] (by simp))
        · exact (hitems _ _).map fun r hr => hkeeps.array _ r.1 hr
      · exact Except.returns_error _
  split
  · split
    · split
      · rename_i hempty
        exact Except.returns_ok (hkeeps.emptyObject (emptyNests_of_emptyAtLimit? hempty))
      · exact Except.returns_error _
    · split
      · split
        · exact Except.returns_ok (hkeeps.object _ [] (by simp))
        · exact (hfields _ _).map fun r hr => hkeeps.object _ r.1 hr
      · exact Except.returns_error _
  · exact fun r hr => hkeeps.atom depth r.1 (returns_readAtom _ r hr)

/-- Items that are read within a budget have what is kept, if values and items have it that are
read within a smaller one. -/
theorem returns_readItems_succ {steps : Nat}
    (hvalue : ∀ depth t, Except.Returns (fun r => P depth r.1) (readValue dialect steps depth t))
    (hitems : ∀ depth t, Except.Returns (fun r => ∀ item ∈ r.1, P depth item)
      (readItems dialect steps depth t)) (depth : Nat) (t : Text) :
    Except.Returns (fun r => ∀ item ∈ r.1, P depth item)
      (readItems dialect (steps + 1) depth t) := by
  rw [readItems.eq_def]
  refine (hvalue depth t).bind fun r hr => ?_
  dsimp only
  split
  · exact Except.returns_error _
  split
  · exact Except.returns_ok (List.forall_mem_singleton.mpr hr)
  split
  · exact (hitems depth _).bind fun r' hr' => Except.returns_ok (List.forall_mem_cons.mpr ⟨hr, hr'⟩)
  · exact Except.returns_error _

/-- Fields that are read within a budget have what is kept, if values and fields have it that are
read within a smaller one. -/
theorem returns_readFields_succ {steps : Nat}
    (hvalue : ∀ depth t, Except.Returns (fun r => P depth r.1) (readValue dialect steps depth t))
    (hfields : ∀ depth t, Except.Returns
      (fun r => ∀ field ∈ r.1, dialect.Admits field.1 ∧ P depth field.2)
      (readFields dialect steps depth t)) (depth : Nat) (t : Text) :
    Except.Returns (fun r => ∀ field ∈ r.1, dialect.Admits field.1 ∧ P depth field.2)
      (readFields dialect (steps + 1) depth t) := by
  rw [readFields.eq_def]
  dsimp only
  split
  · split
    · refine (returns_readText _ _).bind fun r hr => ?_
      split
      · split
        · refine (hvalue depth _).bind fun r' hr' => ?_
          split
          · exact Except.returns_error _
          split
          · exact Except.returns_ok (List.forall_mem_singleton.mpr ⟨hr, hr'⟩)
          split
          · exact (hfields depth _).bind fun r'' hr'' =>
              Except.returns_ok (List.forall_mem_cons.mpr ⟨⟨hr, hr'⟩, hr''⟩)
          · exact Except.returns_error _
        · exact Except.returns_error _
      · exact Except.returns_error _
    · exact Except.returns_error _
  · exact Except.returns_error _

include hkeeps in
/-- Whatever is read within a budget has what is kept. -/
theorem Dialect.Keeps.returns_read (steps : Nat) :
    (∀ depth t, Except.Returns (fun r => P depth r.1) (readValue dialect steps depth t)) ∧
    (∀ depth t, Except.Returns (fun r => ∀ item ∈ r.1, P depth item)
      (readItems dialect steps depth t)) ∧
    ∀ depth t, Except.Returns
      (fun r => ∀ field ∈ r.1, dialect.Admits field.1 ∧ P depth field.2)
      (readFields dialect steps depth t) := by
  induction steps with
  | zero =>
      refine ⟨fun depth t => ?_, fun depth t => ?_, fun depth t => ?_⟩
      · exact Except.returns_error _
      · exact Except.returns_error _
      · exact Except.returns_error _
  | succ steps ih =>
      obtain ⟨hvalue, hitems, hfields⟩ := ih
      exact ⟨hkeeps.readValue_succ hitems hfields, returns_readItems_succ hvalue hitems,
        returns_readFields_succ hvalue hfields⟩

include hkeeps in
/-- **What is read has what is kept.** A value that a text stands for in a dialect has every
property that reading in the dialect keeps, at the depth to which the dialect lets containers
nest. -/
theorem Dialect.Keeps.of_parseIn {t : Text} {j : Json} (h : parseIn dialect t = .ok j) :
    P dialect.nesting j := by
  have hwhole : Except.Returns (fun j => P dialect.nesting j) (readWholeText dialect t) := by
    refine ((hkeeps.returns_read _).1 _ _).bind fun r hr => ?_
    dsimp only
    split
    · exact Except.returns_ok hr
    · exact Except.returns_error _
  rw [parseIn] at h
  split at h
  · cases h
  · exact hwhole.mapError j h

end Keeping

/-! ### Integers and texts -/

variable (hint : ∀ n : Int, intFits n = true → int n = true)
  (htext : ∀ t, dialect.Admits t → text t = true)

/-- An integer that a dialect admits has a text that may be written. -/
theorem intFits_of_admitsInt {n : Int} (h : dialect.AdmitsInt n) : intFits n = true := by
  have hpos : 0 < digitLimit := by decide
  rw [intFits, decide_eq_true_iff]
  exact (Text.length_ofNat_le_iff hpos).mp h.1

include hint htext in
/-- That all integers and texts are as asked is kept, if it is so for all integers with a limited
number of digits and for all texts that the dialect admits. -/
theorem keeps_every : dialect.Keeps fun _ j => j.every int text = true where
  atom := by
    rintro _ _ (_ | _ | hadmits | _)
    · rfl
    · rfl
    · exact hint _ (intFits_of_admitsInt hadmits)
    · rfl
  text := fun _ t ht => htext t ht
  emptyArray := fun _ => rfl
  emptyObject := fun _ => rfl
  array := fun _ _ hitems => everyItem_iff.mpr hitems
  object := fun _ fields hfields => by
    obtain ⟨kept, hkept, hsubset, -⟩ := exists_ofFields_eq fields
    rw [hkept]
    exact everyField_iff.mpr fun field hfield =>
      ⟨htext _ (hfields field (hsubset hfield)).1, (hfields field (hsubset hfield)).2⟩

include hint htext in
/-- **What is read keeps within limits.** A value that a text stands for in a dialect is as asked,
if all integers with a limited number of digits and all texts that the dialect admits are. -/
theorem every_of_parseIn {t : Text} {j : Json} (h : parseIn dialect t = .ok j) :
    j.every int text = true :=
  (keeps_every hint htext).of_parseIn h

/-- All integers in a value that was read have texts that may be written. -/
theorem fits_of_parseIn {t : Text} {j : Json} (h : parseIn dialect t = .ok j) : j.fits = true :=
  every_of_parseIn (fun _ hn => hn) (fun _ _ => rfl) h

/-- All texts in a value that was read without lone surrogates have a UTF-8 form. -/
theorem encodable_of_parseIn (hdialect : dialect.loneSurrogates = false) {t : Text} {j : Json}
    (h : parseIn dialect t = .ok j) : j.encodable = true := by
  refine every_of_parseIn (fun _ _ => rfl) (fun text hadmits => ?_) h
  obtain hlenient | hnone := hadmits
  · cases hdialect.symm.trans hlenient
  · rw [Utf8.encodable, List.all_eq_true]
    exact fun c hc => by rw [hnone c hc]; rfl

end Json

end SealedRpc
