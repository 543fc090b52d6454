import SealedRpc.Envelope
import SealedRpc.Proofs.Json.Writing

/-!
# Envelopes on the wire

An envelope goes over the wire as a JSON object. If its text has a UTF-8 form, so has the object,
and every dialect of JSON that lets the text stand reads the object back, for an octet is a short
number and the nesting is slight. What stands between quotes is escaped and read back code point
by code point, so the text that is read is the text that was signed.

Envelopes are read strictly: exactly a text and a list of octets make one.

## Main results

* `isSome_toBytes?`: an envelope has octets exactly if its text has a UTF-8 form.
* `ofValue_eq_ok_iff`, `exists_ofValue_iff`: which mappings are read as an envelope, and as which.
* `holds_toBytes?`: the octets of an envelope hold the envelope.
-/

namespace SealedRpc

/-- Octets as items hold no texts. -/
theorem Json.everyItem_octets (text : Text → Bool) (octets : Bytes) :
    everyItem (fun _ => true) text (octets.map fun b => .int b.toNat) = true := by
  induction octets with
  | nil => rfl
  | cons b rest ih => exact ih

namespace Envelope

/-! ### The text on the wire -/

/-- The text of an envelope on the wire has a UTF-8 form exactly if the text in it has one. -/
theorem encodable_wireText (e : Envelope) :
    Utf8.encodable e.wireText = Utf8.encodable e.text := by
  have hnames : Utf8.encodable (Text.ofString "request") = true ∧
      Utf8.encodable (Text.ofString "signature") = true :=
    ⟨Utf8.encodable_ofString _, Utf8.encodable_ofString _⟩
  rw [wireText, Json.encodable_render, toJson, Json.encodable]
  simp only [Json.every, Json.everyField, Json.everyItem_octets, hnames, Bool.true_and,
    Bool.and_true]

/-- An envelope has octets exactly if its text has a UTF-8 form. -/
theorem isSome_toBytes? (e : Envelope) :
    e.toBytes?.isSome = Utf8.encodable e.text := by
  rw [toBytes?, Utf8.encode?, encodable_wireText]
  split
  case isTrue h => rw [h, Option.isSome_some]
  case isFalse h => rw [Option.isSome_none, Bool.eq_false_iff.mpr h]

/-- The octets of an envelope begin with a brace and a quotation mark. -/
theorem exists_toBytes?_eq {e : Envelope} {body : Bytes} (h : e.toBytes? = some body) :
    ∃ rest, body = 0x7B :: 0x22 :: rest := by
  obtain ⟨-, rfl⟩ := Utf8.encode?_eq_some_iff.mp h
  exact ⟨_, rfl⟩

/-! ### Reading it as JSON -/

/-- Octets as items are read back in every dialect in which numbers may have three digits. -/
theorem areReadable_octets {dialect : Json.Dialect}
    (hlength : ∀ limit ∈ dialect.wholeLength?, 3 ≤ limit) (depth : Nat) (octets : Bytes) :
    Json.AreReadable dialect depth (octets.map fun b => .int b.toNat) := by
  induction octets with
  | nil => exact True.intro
  | cons b rest ih =>
      have hdigits : (Text.ofNat b.toNat).length ≤ 3 :=
        (Text.length_ofNat_le_iff (by decide)).mpr (by have := b.toNat_lt; omega)
      exact ⟨⟨Nat.le_trans hdigits (by decide), fun limit hlimit =>
        Nat.le_trans hdigits (hlength limit hlimit)⟩, ih⟩

/-- The object of an envelope is read back in every dialect that lets its text stand. -/
theorem readable_toJson {dialect : Json.Dialect}
    (hlength : ∀ limit ∈ dialect.wholeLength?, 3 ≤ limit) {depth : Nat} {e : Envelope}
    (he : dialect.Admits e.text) : e.toJson.Readable dialect (depth + 2) := by
  have hadmits (name : String) : dialect.Admits (Text.ofString name) :=
    .inr (Utf8.encodable_iff.mp (Utf8.encodable_ofString name))
  have hnames : Text.ofString "request" ≠ Text.ofString "signature" := by decide
  refine ⟨?_, hadmits _, he, hadmits _, areReadable_octets hlength _ _, True.intro⟩
  simpa using hnames

/-- The text of an envelope on the wire is read as the object, whatever stands in it. -/
theorem parse_wireText [Json.NestingLimit] (e : Envelope) :
    Json.parse e.wireText = .ok e.toJson := by
  have hlength : ∀ limit ∈ Json.Dialect.lenient.wholeLength?, 3 ≤ limit := by
    simp [Json.Dialect.lenient]
  obtain ⟨depth, hdepth⟩ : ∃ depth, Json.Dialect.lenient.nesting = depth + 2 :=
    Nat.exists_eq_add_of_le' Json.NestingLimit.two_le
  have hreadable : e.toJson.Readable .lenient Json.Dialect.lenient.nesting := by
    rw [hdepth]
    exact readable_toJson hlength (.inl rfl)
  exact Json.parseIn_render hreadable

/-! ### Reading the object -/

/-- An octet is read from the integer that it is, and from nothing else. -/
theorem octet?_eq_some_iff {v : Value} {b : UInt8} : octet? v = some b ↔ v = .int b.toNat := by
  cases v with
  | int n =>
      have hb := b.toNat_lt
      rw [octet?, Option.ite_none_right_eq_some, Option.some.injEq, Value.int.injEq]
      constructor
      · rintro ⟨hn, rfl⟩
        rw [Utf8.toNat_ofNat_of_lt (by omega)]
        omega
      · rintro rfl
        exact ⟨by omega, by rw [Int.toNat_natCast, UInt8.ofNat_toNat]⟩
  | _ => simp [octet?]

/-- Octets are read from the integers that they are, and from nothing else. -/
theorem mapM_octet?_eq_some_iff {items : List Value} {octets : Bytes} :
    items.mapM octet? = some octets ↔ items = octets.map fun b => .int b.toNat := by
  induction items generalizing octets with
  | nil => cases octets <;> simp
  | cons item rest ih =>
      cases octets with
      | nil => simp [List.mapM_cons, Option.bind_eq_some_iff]
      | cons b others =>
          simp [List.mapM_cons, Option.bind_eq_some_iff, octet?_eq_some_iff, ih]

/-- The mapping that an envelope is read from holds its text and its octets, each in a field of
its own. -/
theorem ofValue_eq_ok_iff {v : Value} {e : Envelope} : ofValue v = .ok e ↔
    v.entry? "request" = some (.text e.text) ∧
      v.entry? "signature" = some (.list (e.signature.map fun b => .int b.toNat)) := by
  obtain ⟨text, signature⟩ := e
  rw [ofValue]
  constructor
  · intro h
    split at h
    · rename_i t ht
      split at h
      · rename_i items hitems
        split at h
        · rename_i octets hoctets
          obtain ⟨rfl, rfl⟩ := Envelope.mk.inj (Except.ok.inj h)
          exact ⟨ht, mapM_octet?_eq_some_iff.mp hoctets ▸ hitems⟩
        · cases h
      · cases h
    · cases h
  · rintro ⟨htext, hsignature⟩
    simp only [htext, hsignature, mapM_octet?_eq_some_iff.mpr rfl]

/-- Items that are integers from 0 to 255 are those of octets. -/
theorem exists_octets_iff {items : List Value} :
    (∃ octets : Bytes, items = octets.map fun b => .int b.toNat) ↔
      ∀ item ∈ items, ∃ n : Int, item = .int n ∧ 0 ≤ n ∧ n ≤ 255 := by
  constructor
  · rintro ⟨octets, rfl⟩ item hitem
    obtain ⟨b, -, rfl⟩ := List.mem_map.mp hitem
    have hb := b.toNat_lt
    exact ⟨b.toNat, rfl, by omega, by omega⟩
  · intro h
    induction items with
    | nil => exact ⟨[], rfl⟩
    | cons item rest ih =>
        obtain ⟨octets, rfl⟩ := ih fun other hother => h other (List.mem_cons_of_mem _ hother)
        obtain ⟨n, rfl, hn⟩ := h item List.mem_cons_self
        refine ⟨UInt8.ofNat n.toNat :: octets, ?_⟩
        rw [List.map_cons, Utf8.toNat_ofNat_of_lt (by omega), Int.toNat_of_nonneg hn.1]

/-- A mapping is read as an envelope exactly if its request is a text and its signature is a list
of integers from 0 to 255. -/
theorem exists_ofValue_iff {v : Value} : (∃ e, ofValue v = .ok e) ↔
    ∃ text items, v.entry? "request" = some (.text text) ∧
      v.entry? "signature" = some (.list items) ∧
      ∀ item ∈ items, ∃ n : Int, item = .int n ∧ 0 ≤ n ∧ n ≤ 255 := by
  constructor
  · rintro ⟨e, he⟩
    obtain ⟨htext, hsignature⟩ := ofValue_eq_ok_iff.mp he
    exact ⟨e.text, _, htext, hsignature, exists_octets_iff.mp ⟨e.signature, rfl⟩⟩
  · rintro ⟨text, items, htext, hsignature, hitems⟩
    obtain ⟨octets, rfl⟩ := exists_octets_iff.mpr hitems
    exact ⟨⟨text, octets⟩, ofValue_eq_ok_iff.mpr ⟨htext, hsignature⟩⟩

/-- Items of octets as values. -/
theorem ofItems_octets (octets : Bytes) :
    Value.ofItems (octets.map fun b => .int b.toNat) = octets.map fun b => .int b.toNat := by
  induction octets with
  | nil => rfl
  | cons b rest ih => simpa [Value.ofItems, Value.ofJson] using ih

/-- The object of an envelope is read as the envelope. -/
theorem ofJson_toJson (e : Envelope) : ofJson e.toJson = .ok e := by
  refine ofValue_eq_ok_iff.mpr ⟨rfl, ?_⟩
  rw [← ofItems_octets]
  rfl

/-! ### The whole way -/

/-- Whether octets hold an envelope. They begin with a brace and a quotation mark, by which a
reader that guesses the encoding knows UTF-8, and their text stands for an object that is read as
the envelope. -/
def Holds [Json.NestingLimit] (e : Envelope) (body : Bytes) : Prop :=
  (∃ rest, body = 0x7B :: 0x22 :: rest) ∧ ∃ text fields, Utf8.decode? body = some text ∧
    Json.parse text = .ok (.object fields) ∧ ofJson (.object fields) = .ok e

/-- The octets of an envelope hold the envelope. -/
theorem holds_toBytes? [Json.NestingLimit] {e : Envelope} {body : Bytes}
    (h : e.toBytes? = some body) : e.Holds body :=
  ⟨exists_toBytes?_eq h, e.wireText, _, Utf8.decode?_encode? h, parse_wireText e, ofJson_toJson e⟩

end Envelope

end SealedRpc
