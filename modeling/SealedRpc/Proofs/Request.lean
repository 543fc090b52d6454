import Mathlib.Order.MinMax
import SealedRpc.Proofs.Except
import SealedRpc.Proofs.Text.Utf8
import SealedRpc.Request

/-!
# Which requests have a text

What a value denotes is a relation of its own, which knows no limit on nesting. The program writes
a value within a budget for the depth of its containers, and it writes exactly what the value
denotes, provided that the budget is enough. Where it does not write, it either ran out of the
budget, and then the containers nest deeper than that; or it met something that denotes nothing,
and then the value as a whole denotes nothing.

Both directions go by the recursion of the value, in a row with the items and the entries of
containers.

## Main results

* `Value.toJson?_eq_ok_iff`: what is written within a budget.
* `Value.failsWith_toJson?`: why nothing is written.
* `Request.text_eq_ok_iff`, `Request.failsWith_text`: the same for the texts of requests.
-/

namespace SealedRpc

namespace Value

/-! ### What values denote -/

mutual

/-- The JSON value that a value denotes. -/
inductive Denotes : Value → Json → Prop
  | null : Denotes .null .null
  | bool (b : Bool) : Denotes (.bool b) (.bool b)
  | int {n : Int} (h : n.natAbs < 10 ^ digitLimit) : Denotes (.int n) (.int n)
  | float (x : Binary64) : Denotes (.float x) (.float x)
  | text (t : Text) : Denotes (.text t) (.text t)
  | list {items : List Value} {elements : List Json} (h : DenoteItems items elements) :
      Denotes (.list items) (.array elements)
  | tuple {items : List Value} {elements : List Json} (h : DenoteItems items elements) :
      Denotes (.tuple items) (.array elements)
  | dict {entries : List (FieldName × Value)} {fields : List (Text × Json)}
      (h : DenoteFields entries fields) : Denotes (.dict entries) (.object fields)

/-- The items of an array that values denote, one by one. -/
inductive DenoteItems : List Value → List Json → Prop
  | nil : DenoteItems [] []
  | cons {item : Value} {element : Json} {items : List Value} {elements : List Json}
      (hitem : Denotes item element) (hitems : DenoteItems items elements) :
      DenoteItems (item :: items) (element :: elements)

/-- The fields of an object that entries denote, one by one. -/
inductive DenoteFields : List (FieldName × Value) → List (Text × Json) → Prop
  | nil : DenoteFields [] []
  | cons {key : FieldName} {name : Text} {value : Value} {element : Json}
      {entries : List (FieldName × Value)} {fields : List (Text × Json)}
      (hkey : key.toText? = .ok name) (hvalue : Denotes value element)
      (hentries : DenoteFields entries fields) :
      DenoteFields ((key, value) :: entries) ((name, element) :: fields)

end

mutual

/-- How deep containers nest in a value. -/
def nesting : Value → Nat
  | .list items | .tuple items => itemNesting items + 1
  | .dict entries => entryNesting entries + 1
  | _ => 0

/-- How deep containers nest in items. -/
def itemNesting : List Value → Nat
  | [] => 0
  | item :: rest => max item.nesting (itemNesting rest)

/-- How deep containers nest in the values of entries. -/
def entryNesting : List (FieldName × Value) → Nat
  | [] => 0
  | (_, value) :: rest => max value.nesting (entryNesting rest)

end

/-! ### What is written -/

mutual

/-- Within a budget exactly what a value denotes is written, if its containers do not nest
deeper. -/
theorem toJson?_eq_ok_iff : ∀ (v : Value) (depth : Nat) {j : Json},
    v.toJson? depth = .ok j ↔ v.Denotes j ∧ v.nesting ≤ depth
  | .null, _, j => by
      simp only [toJson?, nesting, Nat.zero_le, and_true, Except.ok.injEq]
      exact ⟨fun h => h ▸ .null, fun | .null => rfl⟩
  | .bool b, _, j => by
      simp only [toJson?, nesting, Nat.zero_le, and_true, Except.ok.injEq]
      exact ⟨fun h => h ▸ .bool b, fun | .bool _ => rfl⟩
  | .float x, _, j => by
      simp only [toJson?, nesting, Nat.zero_le, and_true, Except.ok.injEq]
      exact ⟨fun h => h ▸ .float x, fun | .float _ => rfl⟩
  | .text t, _, j => by
      simp only [toJson?, nesting, Nat.zero_le, and_true, Except.ok.injEq]
      exact ⟨fun h => h ▸ .text t, fun | .text _ => rfl⟩
  | .int n, _, j => by
      simp only [toJson?, nesting, Nat.zero_le, and_true]
      split
      · rename_i hlong
        exact iff_of_false nofun fun | .int hshort => Nat.not_le.mpr hshort hlong
      · rename_i hshort
        rw [Except.ok.injEq]
        exact ⟨fun h => h ▸ .int (Nat.not_le.mp hshort), fun | .int _ => rfl⟩
  | .bytes b, _, j => iff_of_false nofun nofun
  | .foreign name, _, j => iff_of_false nofun nofun
  | .list items, 0, j => iff_of_false nofun fun h => Nat.not_succ_le_zero _ h.2
  | .list items, depth + 1, j => by
      rw [toJson?, Except.map_eq_ok_iff, nesting, Nat.add_le_add_iff_right]
      simp only [toItems?_eq_ok_iff items depth]
      exact ⟨fun ⟨_, ⟨hitems, hdepth⟩, hj⟩ => ⟨hj ▸ .list hitems, hdepth⟩,
        fun | ⟨.list hitems, hdepth⟩ => ⟨_, ⟨hitems, hdepth⟩, rfl⟩⟩
  | .tuple items, 0, j => iff_of_false nofun fun h => Nat.not_succ_le_zero _ h.2
  | .tuple items, depth + 1, j => by
      rw [toJson?, Except.map_eq_ok_iff, nesting, Nat.add_le_add_iff_right]
      simp only [toItems?_eq_ok_iff items depth]
      exact ⟨fun ⟨_, ⟨hitems, hdepth⟩, hj⟩ => ⟨hj ▸ .tuple hitems, hdepth⟩,
        fun | ⟨.tuple hitems, hdepth⟩ => ⟨_, ⟨hitems, hdepth⟩, rfl⟩⟩
  | .dict entries, 0, j => iff_of_false nofun fun h => Nat.not_succ_le_zero _ h.2
  | .dict entries, depth + 1, j => by
      rw [toJson?, Except.map_eq_ok_iff, nesting, Nat.add_le_add_iff_right]
      simp only [toFields?_eq_ok_iff entries depth]
      exact ⟨fun ⟨_, ⟨hentries, hdepth⟩, hj⟩ => ⟨hj ▸ .dict hentries, hdepth⟩,
        fun | ⟨.dict hentries, hdepth⟩ => ⟨_, ⟨hentries, hdepth⟩, rfl⟩⟩

/-- Within a budget exactly the items that a row of values denotes are written. -/
theorem toItems?_eq_ok_iff : ∀ (items : List Value) (depth : Nat) {elements : List Json},
    toItems? depth items = .ok elements ↔ DenoteItems items elements ∧ itemNesting items ≤ depth
  | [], _, elements => by
      simp only [toItems?, itemNesting, Nat.zero_le, and_true, Except.ok.injEq]
      exact ⟨fun h => h ▸ .nil, fun | .nil => rfl⟩
  | item :: rest, depth, elements => by
      rw [toItems?, itemNesting, Nat.max_le]
      simp only [bind, Except.bind_eq_ok_iff, pure, Except.pure, Except.ok.injEq,
        toJson?_eq_ok_iff item depth, toItems?_eq_ok_iff rest depth]
      constructor
      · rintro ⟨_, ⟨hitem, hdepth⟩, _, ⟨hrest, hdepths⟩, rfl⟩
        exact ⟨.cons hitem hrest, hdepth, hdepths⟩
      · exact fun
          | ⟨.cons hitem hrest, hdepth, hdepths⟩ => ⟨_, ⟨hitem, hdepth⟩, _, ⟨hrest, hdepths⟩, rfl⟩

/-- Within a budget exactly the fields that a row of entries denotes are written. -/
theorem toFields?_eq_ok_iff : ∀ (entries : List (FieldName × Value)) (depth : Nat)
    {fields : List (Text × Json)}, toFields? depth entries = .ok fields ↔
      DenoteFields entries fields ∧ entryNesting entries ≤ depth
  | [], _, fields => by
      simp only [toFields?, entryNesting, Nat.zero_le, and_true, Except.ok.injEq]
      exact ⟨fun h => h ▸ .nil, fun | .nil => rfl⟩
  | (key, value) :: rest, depth, fields => by
      rw [toFields?, entryNesting, Nat.max_le]
      simp only [bind, Except.bind_eq_ok_iff, pure, Except.pure, Except.ok.injEq,
        toJson?_eq_ok_iff value depth, toFields?_eq_ok_iff rest depth]
      constructor
      · rintro ⟨_, hkey, _, ⟨hvalue, hdepth⟩, _, ⟨hrest, hdepths⟩, rfl⟩
        exact ⟨.cons hkey hvalue hrest, hdepth, hdepths⟩
      · exact fun
          | ⟨.cons hkey hvalue hrest, hdepth, hdepths⟩ =>
            ⟨_, hkey, _, ⟨hvalue, hdepth⟩, _, ⟨hrest, hdepths⟩, rfl⟩

end

/-- A value denotes one JSON value at most. -/
theorem Denotes.unique {v : Value} {j j' : Json} (h : v.Denotes j) (h' : v.Denotes j') :
    j = j' := by
  have hj := (toJson?_eq_ok_iff v v.nesting).mpr ⟨h, le_rfl⟩
  have hj' := (toJson?_eq_ok_iff v v.nesting).mpr ⟨h', le_rfl⟩
  exact Except.ok.inj (hj.symm.trans hj')

/-! ### Why nothing is written -/

/-- A cause for which nothing is written: the containers are too deep, or there is nothing to
write. -/
inductive Obstacle (deep lost : Prop) : Unserializable → Prop
  | deep (h : deep) : Obstacle deep lost .tooDeep
  | lost {cause : Unserializable} (hcause : cause ≠ .tooDeep) (h : lost) :
      Obstacle deep lost cause

/-- What is an obstacle for a part is one for the whole. -/
theorem Obstacle.imp {deep lost deep' lost' : Prop} {cause : Unserializable}
    (h : Obstacle deep lost cause) (hdeep : deep → deep') (hlost : lost → lost') :
    Obstacle deep' lost' cause :=
  match h with
  | .deep h => .deep (hdeep h)
  | .lost hcause h => .lost hcause (hlost h)

/-- A key that has no name is not too deep. -/
theorem failsWith_toText? {deep : Prop} (key : FieldName) :
    Except.FailsWith (Obstacle deep (∀ name, key.toText? ≠ .ok name)) key.toText? := by
  intro cause hcause
  refine .lost ?_ fun name hname => nomatch hcause.symm.trans hname
  rintro rfl
  cases key with
  | int n =>
      rw [FieldName.toText?] at hcause
      split at hcause <;> cases hcause
  | _ => cases hcause

mutual

/-- Within a budget a value is not written because its containers nest deeper, or because it
denotes nothing. -/
theorem failsWith_toJson? : ∀ (v : Value) (depth : Nat),
    Except.FailsWith (Obstacle (depth < v.nesting) (∀ j, ¬ v.Denotes j)) (v.toJson? depth)
  | .null, _ | .bool _, _ | .float _, _ | .text _, _ => Except.failsWith_ok _
  | .int n, _ => by
      rw [toJson?]
      split
      · rename_i hlong
        refine Except.failsWith_error (.lost nofun ?_)
        exact fun | _, .int hshort => Nat.not_le.mpr hshort hlong
      · exact Except.failsWith_ok _
  | .bytes _, _ | .foreign _, _ => Except.failsWith_error (.lost nofun nofun)
  | .list items, 0 | .tuple items, 0 => Except.failsWith_error (.deep (Nat.succ_pos _))
  | .dict entries, 0 => Except.failsWith_error (.deep (Nat.succ_pos _))
  | .list items, depth + 1 => by
      refine Except.FailsWith.map (fun cause hcause => ?_) _
      refine (failsWith_toItems? items depth cause hcause).imp Nat.succ_lt_succ ?_
      exact fun hlost => fun | _, .list hitems => hlost _ hitems
  | .tuple items, depth + 1 => by
      refine Except.FailsWith.map (fun cause hcause => ?_) _
      refine (failsWith_toItems? items depth cause hcause).imp Nat.succ_lt_succ ?_
      exact fun hlost => fun | _, .tuple hitems => hlost _ hitems
  | .dict entries, depth + 1 => by
      refine Except.FailsWith.map (fun cause hcause => ?_) _
      refine (failsWith_toFields? entries depth cause hcause).imp Nat.succ_lt_succ ?_
      exact fun hlost => fun | _, .dict hentries => hlost _ hentries

/-- Items are not written because of one of them. -/
theorem failsWith_toItems? : ∀ (items : List Value) (depth : Nat),
    Except.FailsWith (Obstacle (depth < itemNesting items)
      (∀ elements, ¬ DenoteItems items elements)) (toItems? depth items)
  | [], _ => Except.failsWith_ok _
  | item :: rest, depth => by
      refine Except.FailsWith.bind (fun cause hcause => ?_) fun first _ => ?_
      · refine (failsWith_toJson? item depth cause hcause).imp (lt_max_of_lt_left ·) ?_
        exact fun hlost => fun | _, .cons hitem _ => hlost _ hitem
      · refine Except.FailsWith.bind (fun cause hcause => ?_) fun others _ => Except.failsWith_ok _
        refine (failsWith_toItems? rest depth cause hcause).imp (lt_max_of_lt_right ·) ?_
        exact fun hlost => fun | _, .cons _ hrest => hlost _ hrest

/-- Entries are not written because of the key or the value of one of them. -/
theorem failsWith_toFields? : ∀ (entries : List (FieldName × Value)) (depth : Nat),
    Except.FailsWith (Obstacle (depth < entryNesting entries)
      (∀ fields, ¬ DenoteFields entries fields)) (toFields? depth entries)
  | [], _ => Except.failsWith_ok _
  | (key, value) :: rest, depth => by
      refine Except.FailsWith.bind (fun cause hcause => ?_) fun name _ => ?_
      · refine (failsWith_toText? key cause hcause).imp id ?_
        exact fun hlost => fun | _, .cons hkey _ _ => hlost _ hkey
      refine Except.FailsWith.bind (fun cause hcause => ?_) fun first _ => ?_
      · refine (failsWith_toJson? value depth cause hcause).imp (lt_max_of_lt_left ·) ?_
        exact fun hlost => fun | _, .cons _ hvalue _ => hlost _ hvalue
      · refine Except.FailsWith.bind (fun cause hcause => ?_) fun others _ => Except.failsWith_ok _
        refine (failsWith_toFields? rest depth cause hcause).imp (lt_max_of_lt_right ·) ?_
        exact fun hlost => fun | _, .cons _ _ hrest => hlost _ hrest

end

end Value

namespace Request

/-! ### Texts of requests -/

/-- The text that a request has: its own if it is a text, that of which it is the UTF-8 form if it
is a byte string, and else the compact text of what it denotes. -/
inductive HasText : Value → Text → Prop
  | text (t : Text) : HasText (.text t) t
  | octets {b : Bytes} {t : Text} (h : Utf8.encode? t = some b) : HasText (.bytes b) t
  | json {request : Value} {j : Json} (hrequest : ∀ t, request ≠ .text t)
      (h : request.Denotes j) : HasText request (j.render .compact)

/-- A text has itself for its text. -/
theorem hasText_text_iff {t t' : Text} : HasText (.text t) t' ↔ t = t' :=
  ⟨fun | .text _ => rfl | .json hrequest _ => absurd rfl (hrequest t), fun h => h ▸ .text t⟩

/-- A byte string has the text of which it is the UTF-8 form. -/
theorem hasText_bytes_iff {b : Bytes} {t : Text} :
    HasText (.bytes b) t ↔ Utf8.encode? t = some b :=
  ⟨fun | .octets h => h, .octets⟩

/-- Any other request has the compact text of what it denotes. -/
theorem hasText_iff_of_ne {request : Value} (htext : ∀ t, request ≠ .text t)
    (hoctets : ∀ b, request ≠ .bytes b) {t : Text} :
    HasText request t ↔ ∃ j, request.Denotes j ∧ j.render .compact = t := by
  constructor
  · intro h
    cases h with
    | text t => exact absurd rfl (htext t)
    | octets h => exact absurd rfl (hoctets _)
    | json _ h => exact ⟨_, h, rfl⟩
  · rintro ⟨j, h, rfl⟩
    exact .json htext h

/-- A request has one text at most. -/
theorem HasText.unique {request : Value} {t t' : Text} (h : HasText request t)
    (h' : HasText request t') : t = t' := by
  cases h with
  | text t => exact hasText_text_iff.mp h'
  | octets h =>
      have hread := Utf8.decode?_encode? (hasText_bytes_iff.mp h')
      exact Option.some.inj ((Utf8.decode?_encode? h).symm.trans hread)
  | json hrequest h =>
      cases h' with
      | text => exact absurd rfl (hrequest _)
      | octets => cases h
      | json _ h' => rw [h.unique h']

variable [Json.NestingLimit]

/-- Any other request is written. -/
theorem text_of_ne {request : Value} (htext : ∀ t, request ≠ .text t)
    (hoctets : ∀ b, request ≠ .bytes b) :
    text request = request.compactText.mapError .unserializable := by
  unfold text
  split
  · exact absurd rfl (htext _)
  · exact absurd rfl (hoctets _)
  · rfl

/-- The text of a byte string is the one that is read. -/
theorem text_bytes (b : Bytes) : text (.bytes b)
    = match Utf8.decode? b with
      | some t => .ok t
      | none => .error .notUtf8 := rfl

/-- Exactly the text that a request has is found, if its containers do not nest too deeply. -/
theorem text_eq_ok_iff {request : Value} {t : Text} :
    text request = .ok t ↔ HasText request t ∧ request.nesting ≤ Json.nestingLimit := by
  by_cases htext : ∃ t, request = .text t
  · obtain ⟨own, rfl⟩ := htext
    simp [text_of_text, hasText_text_iff, Value.nesting]
  by_cases hoctets : ∃ b, request = .bytes b
  · obtain ⟨b, rfl⟩ := hoctets
    rw [hasText_bytes_iff, ← Utf8.decode?_eq_some_iff, text_bytes]
    cases Utf8.decode? b <;> simp [Value.nesting]
  · rw [not_exists] at htext hoctets
    rw [text_of_ne htext hoctets, hasText_iff_of_ne htext hoctets, Except.mapError_eq_ok_iff,
      Value.compactText, Except.map_eq_ok_iff]
    simp only [Value.toJson?_eq_ok_iff]
    exact ⟨fun ⟨j, ⟨h, hdepth⟩, hj⟩ => ⟨⟨j, h, hj⟩, hdepth⟩,
      fun ⟨⟨j, h, hj⟩, hdepth⟩ => ⟨j, ⟨h, hdepth⟩, hj⟩⟩

/-- No text is found because the containers of a request nest too deeply, or because it has none. -/
theorem failsWith_text (request : Value) :
    Except.FailsWith (fun fault =>
        (fault = .unserializable .tooDeep ∧ Json.nestingLimit < request.nesting) ∨
        (fault ≠ .unserializable .tooDeep ∧ ∀ t, ¬ HasText request t))
      (text request) := by
  by_cases htext : ∃ t, request = .text t
  · obtain ⟨own, rfl⟩ := htext
    exact Except.failsWith_ok own
  by_cases hoctets : ∃ b, request = .bytes b
  · obtain ⟨b, rfl⟩ := hoctets
    rw [text_bytes]
    simp only [hasText_bytes_iff, ← Utf8.decode?_eq_some_iff]
    cases hread : Utf8.decode? b with
    | some t => exact Except.failsWith_ok t
    | none => exact Except.failsWith_error (.inr ⟨nofun, nofun⟩)
  · rw [not_exists] at htext hoctets
    rw [text_of_ne htext hoctets]
    refine Except.FailsWith.mapError (Except.FailsWith.map (fun cause hcause => ?_) _)
    cases Value.failsWith_toJson? request _ cause hcause with
    | deep hdeep => exact .inl ⟨rfl, hdeep⟩
    | lost hdifferent hlost =>
        refine .inr ⟨fun h => hdifferent (RequestFault.unserializable.inj h), fun t ht => ?_⟩
        obtain ⟨j, hj, -⟩ := (hasText_iff_of_ne htext hoctets).mp ht
        exact hlost j hj

end Request

end SealedRpc
