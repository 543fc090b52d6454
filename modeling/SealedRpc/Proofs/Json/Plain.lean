import SealedRpc.Proofs.Json.Reread

/-!
# Values that are written and read back

What stands between a JSON value and its text is little, if the value holds no floating point
numbers: that its integers have no more digits than are written and read, that the names in each of
its objects differ, and that it nests no deeper than is written and read. A value without these
obstacles is read back from its compact text, with its fields in their order. If its texts hold no
lone surrogates either, then its text has octets, and is read back from these.

The proof that such a value can be read back goes by the recursion of the value, in a row with its
items and its fields, with the depth that is left as its budget.

## Main results

* `readable_of_noFloats`: a value without these obstacles can be read back.
* `Plain.parse_render`: it is read back from its text.
-/

namespace SealedRpc.Json

/-! ### Names -/

mutual

/-- Whether the names in each object of a value differ. -/
def NamesDiffer : Json → Prop
  | .array items => ItemNamesDiffer items
  | .object fields => (fields.map Prod.fst).Nodup ∧ FieldNamesDiffer fields
  | _ => True

/-- Whether the names in each object of items differ. -/
def ItemNamesDiffer : List Json → Prop
  | [] => True
  | item :: rest => item.NamesDiffer ∧ ItemNamesDiffer rest

/-- Whether the names in each object within the values of fields differ. -/
def FieldNamesDiffer : List (Text × Json) → Prop
  | [] => True
  | (_, value) :: rest => value.NamesDiffer ∧ FieldNamesDiffer rest

end

/-! ### What can be read back -/

variable [NestingLimit]

/-- An integer that may be written may be read. -/
theorem admitsInt_of_intFits {n : Int} (h : intFits n = true) : Dialect.lenient.AdmitsInt n := by
  rw [intFits, decide_eq_true_iff] at h
  exact ⟨(Text.length_ofNat_le_iff (by decide)).mpr h, nofun⟩

/-- Every text may be read. -/
theorem admits_lenient (t : Text) : Dialect.lenient.Admits t :=
  .inl rfl

mutual

/-- A value without floating point numbers can be read back, if its integers fit, its names differ
and it nests no deeper than is read. -/
theorem readable_of_noFloats : ∀ (j : Json) (depth : Nat), j.floats = [] → j.fits = true →
    j.NamesDiffer → j.nesting ≤ depth → j.Readable .lenient depth
  | .null, _ | .bool _, _ => fun _ _ _ _ => True.intro
  | .int n, _ => fun _ hfits _ _ => by
      rw [fits, every] at hfits
      exact admitsInt_of_intFits hfits
  | .float x, _ => nofun
  | .text t, _ => fun _ _ _ _ => admits_lenient t
  | .array items, 0 | .object fields, 0 => fun _ _ _ hdepth =>
      absurd hdepth (Nat.not_succ_le_zero _)
  | .array items, depth + 1 => fun hfloats hfits hnames hdepth =>
      areReadable_of_noFloats items depth hfloats hfits hnames (Nat.le_of_succ_le_succ hdepth)
  | .object fields, depth + 1 => fun hfloats hfits hnames hdepth =>
      ⟨hnames.1, fieldsAreReadable_of_noFloats fields depth hfloats hfits hnames.2
        (Nat.le_of_succ_le_succ hdepth)⟩

/-- So can items. -/
theorem areReadable_of_noFloats : ∀ (items : List Json) (depth : Nat), itemFloats items = [] →
    everyItem intFits (fun _ => true) items = true → ItemNamesDiffer items →
      itemNesting items ≤ depth → AreReadable .lenient depth items
  | [], _ => fun _ _ _ _ => True.intro
  | item :: rest, depth => by
      intro hfloats hfits hnames hdepth
      obtain ⟨hfloat, hfloats⟩ := List.append_eq_nil_iff.mp hfloats
      rw [everyItem, Bool.and_eq_true] at hfits
      obtain ⟨hitem, hrest⟩ := Nat.max_le.mp hdepth
      exact ⟨readable_of_noFloats item depth hfloat hfits.1 hnames.1 hitem,
        areReadable_of_noFloats rest depth hfloats hfits.2 hnames.2 hrest⟩

/-- So can fields. -/
theorem fieldsAreReadable_of_noFloats : ∀ (fields : List (Text × Json)) (depth : Nat),
    fieldFloats fields = [] → everyField intFits (fun _ => true) fields = true →
      FieldNamesDiffer fields → fieldNesting fields ≤ depth →
      FieldsAreReadable .lenient depth fields
  | [], _ => fun _ _ _ _ => True.intro
  | (name, value) :: rest, depth => by
      intro hfloats hfits hnames hdepth
      obtain ⟨hfloat, hfloats⟩ := List.append_eq_nil_iff.mp hfloats
      rw [everyField, Bool.true_and, Bool.and_eq_true] at hfits
      obtain ⟨hvalue, hrest⟩ := Nat.max_le.mp hdepth
      exact ⟨admits_lenient name, readable_of_noFloats value depth hfloat hfits.1 hnames.1 hvalue,
        fieldsAreReadable_of_noFloats rest depth hfloats hfits.2 hnames.2 hrest⟩

end

/-! ### Plain values -/

/-- A value that is written and read back: without floating point numbers, with integers that have
texts, with texts that have octets, with names that differ, and nested no deeper than is written
and read. -/
structure Plain (j : Json) : Prop where
  noFloats : j.floats = []
  fits : j.fits = true
  encodable : j.encodable = true
  namesDiffer : j.NamesDiffer
  nesting_le : j.nesting ≤ nestingLimit

/-- A plain value is read back from its compact text. -/
theorem Plain.parse_render {j : Json} (h : j.Plain) : Json.parse (j.render .compact) = .ok j :=
  parseIn_render
    (readable_of_noFloats j nestingLimit h.noFloats h.fits h.namesDiffer h.nesting_le)

end SealedRpc.Json
