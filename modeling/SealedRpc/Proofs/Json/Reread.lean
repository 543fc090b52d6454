import SealedRpc.Proofs.Json.Float

/-!
# What was read can be written and read again

A JSON text that is read, written compactly and read again stands for the same value. Not every
value is read back from its text, but what stands between them cannot come out of a text: the
names in an object that was read differ, its integers have no more digits than are read, its texts
are admitted, and containers nest no deeper than is read. What is left are floating point numbers,
whose digits are chosen so that they are read back; here that is asked of those in the value.

## Main results

* `nesting_le_of_parseIn`: what was read nests no deeper than the dialect allows.
* `readable_of_parseIn`: what was read can be read back.
* `parseIn_render_of_parseIn`: it is read again as the same value.
-/

namespace SealedRpc.Json

variable {dialect : Dialect}

/-! ### Floating point numbers in a value -/

mutual

/-- The floating point numbers in a value. -/
def floats : Json → List Binary64
  | .float x => [x]
  | .array items => itemFloats items
  | .object fields => fieldFloats fields
  | _ => []

/-- The floating point numbers in items. -/
def itemFloats : List Json → List Binary64
  | [] => []
  | item :: rest => item.floats ++ itemFloats rest

/-- The floating point numbers in fields. -/
def fieldFloats : List (Text × Json) → List Binary64
  | [] => []
  | (_, value) :: rest => value.floats ++ fieldFloats rest

end

/-- Whether the texts of all floating point numbers in a value stand for the numbers. -/
def FloatsReadBack (dialect : Dialect) (j : Json) : Prop :=
  ∀ x ∈ j.floats, parseIn dialect (floatText x) = .ok (.float x)

/-- The numbers in an item are among those in the items. -/
theorem floats_subset_itemFloats {item : Json} {items : List Json} (h : item ∈ items) :
    item.floats ⊆ itemFloats items := by
  induction items with
  | nil => cases h
  | cons first rest ih =>
      rw [itemFloats]
      rcases List.mem_cons.mp h with rfl | hrest
      · exact List.subset_append_left _ _
      · exact fun x hx => List.mem_append_right _ (ih hrest hx)

/-- The numbers in the value of a field are among those in the fields. -/
theorem floats_subset_fieldFloats {field : Text × Json} {fields : List (Text × Json)}
    (h : field ∈ fields) : field.2.floats ⊆ fieldFloats fields := by
  induction fields with
  | nil => cases h
  | cons first rest ih =>
      obtain ⟨name, value⟩ := first
      rw [fieldFloats]
      rcases List.mem_cons.mp h with rfl | hrest
      · exact List.subset_append_left _ _
      · exact fun x hx => List.mem_append_right _ (ih hrest hx)

/-! ### What can be read back -/

/-- Items can be read back if each of them can. -/
theorem areReadable_of_forall {depth : Nat} {items : List Json}
    (h : ∀ item ∈ items, item.Readable dialect depth) : AreReadable dialect depth items := by
  induction items with
  | nil => exact True.intro
  | cons item rest ih =>
      obtain ⟨hitem, hrest⟩ := List.forall_mem_cons.mp h
      exact ⟨hitem, ih hrest⟩

/-- Fields can be read back if their names are admitted and their values can be read back. -/
theorem fieldsAreReadable_of_forall {depth : Nat} {fields : List (Text × Json)}
    (h : ∀ field ∈ fields, dialect.Admits field.1 ∧ field.2.Readable dialect depth) :
    FieldsAreReadable dialect depth fields := by
  induction fields with
  | nil => exact True.intro
  | cons field rest ih =>
      obtain ⟨name, value⟩ := field
      obtain ⟨⟨hname, hvalue⟩, hrest⟩ := List.forall_mem_cons.mp h
      exact ⟨hname, hvalue, ih hrest⟩

/-- That a value can be read back, if its floating point numbers are, is kept. -/
theorem keeps_readable :
    dialect.Keeps fun depth j => FloatsReadBack dialect j → j.Readable dialect depth where
  atom := by
    rintro _ _ (_ | _ | hadmits | x) hfloats
    · exact True.intro
    · exact True.intro
    · exact hadmits
    · exact readsFloat_of_parseIn (hfloats x List.mem_cons_self)
  text := fun _ _ hadmits _ => hadmits
  emptyArray := fun hempty _ => ⟨rfl, hempty⟩
  emptyObject := fun hempty _ => ⟨rfl, hempty⟩
  array := fun _ _ hitems hfloats => areReadable_of_forall fun item hitem =>
    hitems item hitem fun x hx => hfloats x (floats_subset_itemFloats hitem hx)
  object := fun depth fields hfields hfloats => by
    obtain ⟨kept, hkept, hsubset, hnodup⟩ := exists_ofFields_eq fields
    rw [hkept] at hfloats ⊢
    refine ⟨hnodup, fieldsAreReadable_of_forall fun field hfield => ?_⟩
    obtain ⟨hadmits, hvalue⟩ := hfields field (hsubset hfield)
    exact ⟨hadmits, hvalue fun x hx => hfloats x (floats_subset_fieldFloats hfield hx)⟩

/-- What was read can be read back, if its floating point numbers are. -/
theorem readable_of_parseIn {t : Text} {j : Json} (h : parseIn dialect t = .ok j)
    (hfloats : FloatsReadBack dialect j) : j.Readable dialect dialect.nesting :=
  keeps_readable.of_parseIn h hfloats

/-- **What was read is read again as the same value.** If a text stands for a value whose floating
point numbers are read back from their texts, then the compact text of the value stands for it as
well. -/
theorem parseIn_render_of_parseIn {t : Text} {j : Json} (h : parseIn dialect t = .ok j)
    (hfloats : FloatsReadBack dialect j) : parseIn dialect (j.render .compact) = .ok j :=
  parseIn_render (readable_of_parseIn h hfloats)

/-! ### Nesting -/

/-- A bound on how deep each item nests bounds how deep they all do. -/
theorem itemNesting_le {depth : Nat} {items : List Json}
    (h : ∀ item ∈ items, item.nesting ≤ depth) : itemNesting items ≤ depth := by
  induction items with
  | nil => exact Nat.zero_le _
  | cons item rest ih =>
      obtain ⟨hitem, hrest⟩ := List.forall_mem_cons.mp h
      exact Nat.max_le.mpr ⟨hitem, ih hrest⟩

/-- A bound on how deep the value of each field nests bounds how deep they all do. -/
theorem fieldNesting_le {depth : Nat} {fields : List (Text × Json)}
    (h : ∀ field ∈ fields, field.2.nesting ≤ depth) : fieldNesting fields ≤ depth := by
  induction fields with
  | nil => exact Nat.zero_le _
  | cons field rest ih =>
      obtain ⟨hfield, hrest⟩ := List.forall_mem_cons.mp h
      exact Nat.max_le.mpr ⟨hfield, ih hrest⟩

/-- That containers nest no deeper than to the depth is kept, where empty containers count. -/
theorem keeps_nesting (hempty : dialect.emptyNests = true) :
    dialect.Keeps fun depth j => j.nesting ≤ depth where
  atom := by
    rintro depth _ (_ | _ | _ | _) <;> exact Nat.zero_le depth
  text := fun depth _ _ => Nat.zero_le depth
  emptyArray := fun hother => Bool.noConfusion (hempty.symm.trans hother)
  emptyObject := fun hother => Bool.noConfusion (hempty.symm.trans hother)
  array := fun _ _ hitems => Nat.succ_le_succ (itemNesting_le hitems)
  object := fun _ fields hfields => by
    obtain ⟨kept, hkept, hsubset, -⟩ := exists_ofFields_eq fields
    rw [hkept]
    exact Nat.succ_le_succ (fieldNesting_le fun field hfield => (hfields field (hsubset hfield)).2)

/-- What was read nests no deeper than the dialect allows. -/
theorem nesting_le_of_parseIn (hempty : dialect.emptyNests = true) {t : Text} {j : Json}
    (h : parseIn dialect t = .ok j) : j.nesting ≤ dialect.nesting :=
  (keeps_nesting hempty).of_parseIn h

end SealedRpc.Json
