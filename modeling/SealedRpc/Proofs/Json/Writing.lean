import SealedRpc.Proofs.Json.Reading
import SealedRpc.Proofs.Json.RoundTrip
import SealedRpc.Proofs.Text.Utf8
import SealedRpc.Value

/-!
# Which values have a text

Two things stand between a JSON value and the octets of its compact text. Containers may nest
only so deep, and a text in the value, or the name of a field, may hold a lone surrogate, which
has no UTF-8 form. Nothing else does, as long as the integers in the value have texts.

## Main results

* `encodable_render`: the text of a value has a UTF-8 form exactly if all texts in it have one.
* `Value.toJson?_ofJson_eq_ok_iff`: a JSON value that is taken for a value is taken back, exactly
  if its integers have texts and it does not nest too deeply.
-/

namespace SealedRpc

/-! ### Numbers -/

/-- Whether a code point lies among the signs, the point, the digits and the letters that numbers
are written with. -/
def CodePoint.isNumeric (c : CodePoint) : Bool :=
  0x2B ≤ c.val && c.val ≤ 0x65

/-- Decimal digits are among them. -/
theorem Text.all_isNumeric_ofNat (n : Nat) : (Text.ofNat n).all CodePoint.isNumeric = true := by
  rw [List.all_eq_true]
  intro c hc
  have hdigit := Text.isDigit_of_mem_ofNat n c hc
  rw [Json.isDigit, CodePoint.asciiDigit?] at hdigit
  split at hdigit
  · simp only [CodePoint.isNumeric, Bool.and_eq_true, decide_eq_true_eq]
    omega
  · cases hdigit

/-- Digits that are laid out as a number stay among them. -/
theorem FloatFormat.all_isNumeric_layout (f : FloatFormat) (d : DecimalDigits) :
    (f.layout d).all CodePoint.isNumeric = true := by
  have hdigits := Text.all_isNumeric_ofNat d.digits
  have hpart {part : Text} (h : part.Sublist (Text.ofNat d.digits)) :
      part.all CodePoint.isNumeric = true :=
    List.all_eq_true.mpr fun c hc => List.all_eq_true.mp hdigits c (h.mem hc)
  have hzeros (n : Nat) :
      (List.replicate n ('0' : CodePoint)).all CodePoint.isNumeric = true :=
    List.all_eq_true.mpr fun c hc => List.eq_of_mem_replicate hc ▸ by decide
  have hpoint : (Text.ofString ".").all CodePoint.isNumeric = true := by decide
  have hplace : (Text.ofString ".0").all CodePoint.isNumeric = true := by decide
  have hstart : (Text.ofString "0.").all CodePoint.isNumeric = true := by decide
  have hletter : (Text.ofString "e").all CodePoint.isNumeric = true := by decide
  have hnone : (Text.ofString "").all CodePoint.isNumeric = true := by decide
  have hexponent (e : Int) : (FloatFormat.exponentText e).all CodePoint.isNumeric = true := by
    have hpadded : (Text.ofString "0" ++ Text.ofNat e.natAbs).all CodePoint.isNumeric = true := by
      rw [List.all_append, Text.all_isNumeric_ofNat, Bool.and_true]
      decide
    rw [FloatFormat.exponentText, List.all_append, Bool.and_eq_true]
    refine ⟨?_, ?_⟩
    · split <;> decide
    · split
      · exact hpadded
      · exact Text.all_isNumeric_ofNat _
  unfold FloatFormat.layout
  dsimp only
  split
  · split
    · simp only [List.all_append, hstart, hzeros, hdigits, Bool.and_self]
    · split
      · split <;> simp only [List.all_append, hplace, hnone, hzeros, hdigits, Bool.and_self]
      · simp only [List.all_append, hpoint, hpart (List.take_sublist _ _),
          hpart (List.drop_sublist _ _), Bool.and_self]
  · have hplaces : (if ((Text.ofNat d.digits).drop 1).isEmpty then []
        else Text.ofString "." ++ (Text.ofNat d.digits).drop 1).all CodePoint.isNumeric = true := by
      split
      · rfl
      · rw [List.all_append, hpoint, hpart (List.drop_sublist _ _), Bool.and_self]
    simp only [List.all_append, hletter, hexponent, hpart (List.take_sublist _ _),
      Bool.true_and, Bool.and_true]
    exact hplaces

namespace Utf8

/-- Decimal digits and a sign have a form. -/
theorem encodable_ofInt (n : Int) : encodable (Text.ofInt n) = true := by
  cases n with
  | ofNat m => exact encodable_ofNat m
  | negSucc m => exact (encodable_cons _ _).trans (encodable_ofNat (m + 1))

/-- Digits that are laid out as a number have a form. -/
theorem encodable_layout (f : FloatFormat) (d : DecimalDigits) :
    encodable (f.layout d) = true := by
  rw [encodable_iff]
  intro c hc
  have hnumeric := List.all_eq_true.mp (f.all_isNumeric_layout d) c hc
  simp only [CodePoint.isNumeric, Bool.and_eq_true, decide_eq_true_eq] at hnumeric
  simp only [CodePoint.isSurrogate, Bool.and_eq_false_iff, decide_eq_false_iff_not]
  omega

/-- The text of a floating point number has a form. -/
theorem encodable_floatText (x : Binary64) : encodable (Json.floatText x) = true := by
  cases x with
  | nan => exact encodable_ofString _
  | infinite negative => cases negative <;> decide
  | finite negative mantissa exponent =>
      rw [Json.floatText, FloatFormat.write, encodable_append, encodable_layout]
      cases negative <;> rfl

end Utf8

/-! ### Texts -/

namespace Json

/-- The form of a code point inside a string has a UTF-8 form exactly if it has one itself. -/
theorem encodable_escaped (c : CodePoint) :
    Utf8.encodable (escaped .compact c) = !c.isSurrogate := by
  rw [escaped]
  split
  case isTrue h =>
    subst h
    rfl
  split
  case isTrue h =>
    subst h
    rfl
  split
  case isTrue h =>
    subst h
    rfl
  split
  case isTrue h =>
    subst h
    rfl
  split
  case isTrue h =>
    subst h
    rfl
  split
  case isTrue h =>
    obtain rfl : c = 0x08 := Fin.ext h
    rfl
  split
  case isTrue h =>
    obtain rfl : c = 0x0C := Fin.ext h
    rfl
  split
  case isTrue h =>
    have hplain : c.isSurrogate = false := by
      simp only [CodePoint.isSurrogate, Bool.and_eq_false_iff, decide_eq_false_iff_not]
      omega
    rw [unitEscape, Utf8.encodable_cons, Utf8.encodable_cons, Utf8.encodable_hex, hplain]
    decide
  rw [if_neg (by simp [Style.compact]), Utf8.encodable_cons]
  exact Bool.and_true _

/-- A string in quotes has a UTF-8 form exactly if it has one without them. -/
theorem encodable_quote (t : Text) : Utf8.encodable (quote .compact t) = Utf8.encodable t := by
  have hbody : Utf8.encodable (t.flatMap (escaped .compact)) = Utf8.encodable t := by
    induction t with
    | nil => rfl
    | cons c rest ih =>
        rw [List.flatMap_cons, Utf8.encodable_append, encodable_escaped, ih, Utf8.encodable_cons]
  have hquote := quote_append t []
  rw [List.append_nil] at hquote
  rw [hquote, Utf8.encodable_cons, Utf8.encodable_append, hbody]
  exact Bool.and_true _

mutual

/-- The text of a value has a UTF-8 form exactly if all texts in it have one. -/
theorem encodable_render : ∀ j : Json, Utf8.encodable (j.render .compact) = j.encodable
  | .null => Utf8.encodable_ofString _
  | .bool true => Utf8.encodable_ofString _
  | .bool false => Utf8.encodable_ofString _
  | .int n => Utf8.encodable_ofInt n
  | .float x => Utf8.encodable_floatText x
  | .text t => encodable_quote t
  | .array items => by
      rw [← List.append_nil ((Json.array items).render .compact), render_array_append,
        Utf8.encodable_cons, Utf8.encodable_append, encodable_renderItems]
      exact Bool.and_true _
  | .object fields => by
      rw [← List.append_nil ((Json.object fields).render .compact), render_object_append,
        Utf8.encodable_cons, Utf8.encodable_append, encodable_renderFields]
      exact Bool.and_true _

/-- The text of items has a UTF-8 form exactly if all texts in them have one. -/
theorem encodable_renderItems : ∀ items : List Json,
    Utf8.encodable (renderItems .compact items)
      = everyItem (fun _ => true) Utf8.encodable items
  | [] => rfl
  | [item] => by
      rw [renderItems, encodable_render]
      exact (Bool.and_true _).symm
  | item :: next :: more => by
      rw [renderItems_cons_cons, Utf8.encodable_append, Utf8.encodable_cons, encodable_render,
        encodable_renderItems (next :: more)]
      rfl

/-- The text of fields has a UTF-8 form exactly if all names and all texts in them have one. -/
theorem encodable_renderFields : ∀ fields : List (Text × Json),
    Utf8.encodable (renderFields .compact fields)
      = everyField (fun _ => true) Utf8.encodable fields
  | [] => rfl
  | [(name, value)] => by
      rw [renderFields_singleton, Utf8.encodable_append, Utf8.encodable_cons, encodable_quote,
        encodable_render]
      exact (Bool.and_true _).symm
  | (name, value) :: next :: more => by
      rw [renderFields_cons_cons, Utf8.encodable_append, Utf8.encodable_cons,
        Utf8.encodable_append, Utf8.encodable_cons, encodable_quote, encodable_render,
        encodable_renderFields (next :: more)]
      exact (Bool.and_assoc (Utf8.encodable name) value.encodable
        (everyField (fun _ => true) Utf8.encodable (next :: more))).symm

end

/-! ### Nesting -/

mutual

/-- How deep containers nest in a value. -/
def nesting : Json → Nat
  | .array items => itemNesting items + 1
  | .object fields => fieldNesting fields + 1
  | _ => 0

/-- How deep containers nest in items. -/
def itemNesting : List Json → Nat
  | [] => 0
  | item :: rest => max item.nesting (itemNesting rest)

/-- How deep containers nest in the values of fields. -/
def fieldNesting : List (Text × Json) → Nat
  | [] => 0
  | (_, value) :: rest => max value.nesting (fieldNesting rest)

end

end Json

namespace Value

mutual

/-- A JSON value is taken back, exactly if its integers have texts and it does not nest too
deeply. -/
theorem toJson?_ofJson_eq_ok_iff : ∀ (j : Json) (depth : Nat) {result : Json},
    (ofJson j).toJson? depth = .ok result ↔ j = result ∧ j.fits = true ∧ j.nesting ≤ depth
  | .null, _, _ | .bool _, _, _ | .float _, _, _ | .text _, _, _ => by
      simp [ofJson, toJson?, Json.fits, Json.every, Json.nesting]
  | .int n, _, _ => by
      rw [ofJson, toJson?, Json.fits, Json.every, Json.intFits, decide_eq_true_iff]
      split
      · rename_i hlong
        simp [Nat.not_lt.mpr hlong]
      · rename_i hshort
        simp [Nat.lt_of_not_le hshort, Json.nesting]
  | .array items, 0, _ => by simp [ofJson, toJson?, Json.nesting]
  | .array items, depth + 1, _ => by
      rw [ofJson, toJson?, Except.map_eq_ok_iff]
      simp only [toItems?_ofItems_eq_ok_iff items depth, Json.fits, Json.every, Json.nesting,
        Nat.add_le_add_iff_right]
      exact ⟨fun ⟨_, ⟨hitems, h⟩, hresult⟩ => ⟨hitems ▸ hresult, h⟩,
        fun ⟨hresult, h⟩ => ⟨items, ⟨rfl, h⟩, hresult⟩⟩
  | .object fields, 0, _ => by simp [ofJson, toJson?, Json.nesting]
  | .object fields, depth + 1, _ => by
      rw [ofJson, toJson?, Except.map_eq_ok_iff]
      simp only [toFields?_ofFields_eq_ok_iff fields depth, Json.fits, Json.every, Json.nesting,
        Nat.add_le_add_iff_right]
      exact ⟨fun ⟨_, ⟨hfields, h⟩, hresult⟩ => ⟨hfields ▸ hresult, h⟩,
        fun ⟨hresult, h⟩ => ⟨fields, ⟨rfl, h⟩, hresult⟩⟩

/-- Items are taken back, exactly if their integers have texts and none nests too deeply. -/
theorem toItems?_ofItems_eq_ok_iff : ∀ (items : List Json) (depth : Nat) {result : List Json},
    toItems? depth (ofItems items) = .ok result ↔ items = result ∧
      Json.everyItem Json.intFits (fun _ => true) items = true ∧ Json.itemNesting items ≤ depth
  | [], _, _ => by simp [ofItems, toItems?, Json.everyItem, Json.itemNesting]
  | item :: rest, depth, _ => by
      rw [ofItems, toItems?]
      simp only [bind, Except.bind_eq_ok_iff, toJson?_ofJson_eq_ok_iff item depth,
        toItems?_ofItems_eq_ok_iff rest depth, pure, Except.pure, Except.ok.injEq,
        Json.everyItem, Bool.and_eq_true, Json.itemNesting, Nat.max_le]
      constructor
      · rintro ⟨_, ⟨rfl, hitem, hdepth⟩, _, ⟨rfl, hrest, hdepths⟩, rfl⟩
        exact ⟨rfl, ⟨hitem, hrest⟩, hdepth, hdepths⟩
      · rintro ⟨rfl, ⟨hitem, hrest⟩, hdepth, hdepths⟩
        exact ⟨item, ⟨rfl, hitem, hdepth⟩, rest, ⟨rfl, hrest, hdepths⟩, rfl⟩

/-- Fields are taken back, exactly if their integers have texts and none nests too deeply. -/
theorem toFields?_ofFields_eq_ok_iff : ∀ (fields : List (Text × Json)) (depth : Nat)
    {result : List (Text × Json)}, toFields? depth (ofFields fields) = .ok result ↔
      fields = result ∧ Json.everyField Json.intFits (fun _ => true) fields = true ∧
        Json.fieldNesting fields ≤ depth
  | [], _, _ => by simp [ofFields, toFields?, Json.everyField, Json.fieldNesting]
  | (name, value) :: rest, depth, _ => by
      rw [ofFields, toFields?, FieldName.toText?]
      simp only [bind, Except.bind_eq_ok_iff, toJson?_ofJson_eq_ok_iff value depth,
        toFields?_ofFields_eq_ok_iff rest depth, pure, Except.pure, Except.ok.injEq,
        exists_eq_left', Json.everyField, Bool.true_and, Bool.and_eq_true, Json.fieldNesting,
        Nat.max_le]
      constructor
      · rintro ⟨_, ⟨rfl, hvalue, hdepth⟩, _, ⟨rfl, hrest, hdepths⟩, rfl⟩
        exact ⟨rfl, ⟨hvalue, hrest⟩, hdepth, hdepths⟩
      · rintro ⟨rfl, ⟨hvalue, hrest⟩, hdepth, hdepths⟩
        exact ⟨value, ⟨rfl, hvalue, hdepth⟩, rest, ⟨rfl, hrest, hdepths⟩, rfl⟩

end

/-- The compact text of a JSON value. -/
theorem compactText_ofJson_eq_ok_iff [Json.NestingLimit] {j : Json} {t : Text} :
    (ofJson j).compactText = .ok t ↔
      j.fits = true ∧ j.nesting ≤ Json.nestingLimit ∧ j.render .compact = t := by
  rw [compactText, Except.map_eq_ok_iff]
  simp only [toJson?_ofJson_eq_ok_iff, and_assoc, exists_eq_left']

end Value

end SealedRpc
