import SealedRpc.Proofs.Json.Token

/-!
# JSON values are read back

What the compact style writes for a value is read as that value. The reader works on a budget
of steps and to a fixed depth: twice the length of the text is enough for the steps, and the
value must not nest deeper than the dialect allows. Besides that a dialect may refuse strings
with lone surrogates and integers with many digits, and the names of an object must differ,
since a later field replaces an earlier one of the same name.

## Main results

* `ofFields_of_nodup`: fields with different names are the fields of their object.
* `readValue_render`: a value is read back from the beginning of a text.
* `parseIn_render`: a value is read back from its text.
-/

namespace SealedRpc.Json

/-! ### Values that are read back -/

/-- What a number or a name may begin with, so that it is taken for nothing else. -/
def StartsAtom (c : CodePoint) : Prop :=
  c ≠ '"' ∧ c ≠ '[' ∧ c ≠ '{' ∧ c ≠ ']' ∧ c ≠ byteOrderMark ∧ isSpace c = false

instance (c : CodePoint) : Decidable (StartsAtom c) := inferInstanceAs (Decidable (_ ∧ _))

/-- Whether a dialect reads a floating point number as it is written. -/
def Dialect.ReadsFloat (dialect : Dialect) (x : Binary64) : Prop :=
  (∃ c ∈ (floatText x).head?, StartsAtom c) ∧ ∀ rest, EndsNumber rest →
    readAtom dialect (floatText x ++ rest) = .ok (.float x, rest)

mutual

/-- Whether a dialect reads a value back, containers nested to `depth` at most. -/
def Readable (dialect : Dialect) (depth : Nat) : Json → Prop
  | .null | .bool _ => True
  | .int n => dialect.AdmitsInt n
  | .float x => dialect.ReadsFloat x
  | .text t => dialect.Admits t
  | .array items =>
      match depth with
      | 0 => items = [] ∧ dialect.emptyNests = false
      | depth + 1 => AreReadable dialect depth items
  | .object fields =>
      match depth with
      | 0 => fields = [] ∧ dialect.emptyNests = false
      | depth + 1 => (fields.map Prod.fst).Nodup ∧ FieldsAreReadable dialect depth fields

/-- Whether a dialect reads items back. -/
def AreReadable (dialect : Dialect) (depth : Nat) : List Json → Prop
  | [] => True
  | item :: rest => Readable dialect depth item ∧ AreReadable dialect depth rest

/-- Whether a dialect reads fields back. -/
def FieldsAreReadable (dialect : Dialect) (depth : Nat) : List (Text × Json) → Prop
  | [] => True
  | (name, value) :: rest => dialect.Admits name ∧ Readable dialect depth value ∧
      FieldsAreReadable dialect depth rest

end

/-! ### Fields -/

/-- A field of a new name comes last. -/
theorem setField_of_not_mem {name : Text} {fields : List (Text × Json)}
    (h : name ∉ fields.map Prod.fst) (value : Json) :
    setField name value fields = fields ++ [(name, value)] := by
  induction fields with
  | nil => rfl
  | cons field rest ih =>
      rw [List.map_cons, List.mem_cons, not_or] at h
      rw [setField, if_neg (Ne.symm h.1), ih h.2, List.cons_append]

/-- Fields with different names are the fields of their object. -/
theorem ofFields_of_nodup {fields : List (Text × Json)} (h : (fields.map Prod.fst).Nodup) :
    ofFields fields = .object fields := by
  have hfold : ∀ before : List (Text × Json), ((before ++ fields).map Prod.fst).Nodup →
      fields.foldl (fun acc f => setField f.1 f.2 acc) before = before ++ fields := by
    clear h
    induction fields with
    | nil =>
        intro before _
        rw [List.foldl_nil, List.append_nil]
    | cons field rest ih =>
        intro before hbefore
        have hnew : field.1 ∉ before.map Prod.fst := by
          rw [List.map_append, List.nodup_append] at hbefore
          exact fun hmem => hbefore.2.2 _ hmem _ List.mem_cons_self rfl
        rw [List.foldl_cons, setField_of_not_mem hnew, ih, List.append_assoc]
        · rfl
        · rwa [List.append_assoc]
  rw [ofFields, hfold [] h, List.nil_append]

/-! ### Beginnings -/

/-- A number may begin with a digit. -/
theorem startsAtom_of_isDigit {c : CodePoint} (h : isDigit c = true) : StartsAtom c := by
  have hne : ∀ d : CodePoint, isDigit d = false → c ≠ d := by
    rintro d hd rfl
    rw [h] at hd
    cases hd
  have hspace : isSpace c = false := by
    have hc : 0x30 ≤ c.val ∧ c.val ≤ 0x39 := by
      rw [isDigit, CodePoint.asciiDigit?] at h
      split at h
      · assumption
      · cases h
    simp only [isSpace, Bool.or_eq_false_iff, decide_eq_false_iff_not]
    omega
  exact ⟨hne _ (by decide), hne _ (by decide), hne _ (by decide), hne _ (by decide),
    hne _ (by decide), hspace⟩

/-- An integer begins with a digit or with a minus sign. -/
theorem startsAtom_ofInt (n : Int) : ∃ c ∈ (Text.ofInt n).head?, StartsAtom c := by
  cases n with
  | ofNat m =>
      obtain ⟨c, more, hc⟩ := List.exists_cons_of_ne_nil (Text.ofNat_ne_nil m)
      have hdigit := Text.isDigit_of_mem_ofNat m c (hc ▸ List.mem_cons_self)
      refine ⟨c, ?_, startsAtom_of_isDigit hdigit⟩
      rw [Text.ofInt, hc]
      rfl
  | negSucc m => exact ⟨'-', rfl, by decide⟩

/-- The text of an array, with something after it. -/
theorem render_array_append (items : List Json) (rest : Text) :
    (Json.array items).render .compact ++ rest
      = ('[' : CodePoint) :: (renderItems .compact items ++ (']' : CodePoint) :: rest) := by
  rw [render, List.append_assoc, List.append_assoc]
  rfl

/-- The text of an object, with something after it. -/
theorem render_object_append (fields : List (Text × Json)) (rest : Text) :
    (Json.object fields).render .compact ++ rest
      = ('{' : CodePoint) :: (renderFields .compact fields ++ ('}' : CodePoint) :: rest) := by
  rw [render, List.append_assoc, List.append_assoc]
  rfl

/-- The text of a value begins neither with space, nor as the end of an array, nor with a
mark. -/
theorem exists_render_eq_cons {dialect : Dialect} {depth : Nat} {j : Json}
    (h : j.Readable dialect depth) : ∃ c more, j.render .compact = c :: more ∧
      isSpace c = false ∧ c ≠ ']' ∧ c ≠ byteOrderMark := by
  cases j with
  | null => exact ⟨'n', "ull", rfl, by decide, by decide, by decide⟩
  | bool b =>
      cases b with
      | false => exact ⟨'f', "alse", rfl, by decide, by decide, by decide⟩
      | true => exact ⟨'t', "rue", rfl, by decide, by decide, by decide⟩
  | int n =>
      obtain ⟨c, hc, hstarts⟩ := startsAtom_ofInt n
      obtain ⟨more, hmore⟩ := List.head?_eq_some_iff.mp hc
      exact ⟨c, more, hmore, hstarts.2.2.2.2.2, hstarts.2.2.2.1, hstarts.2.2.2.2.1⟩
  | float x =>
      obtain ⟨⟨c, hc, hstarts⟩, -⟩ := h
      obtain ⟨more, hmore⟩ := List.head?_eq_some_iff.mp hc
      exact ⟨c, more, hmore, hstarts.2.2.2.2.2, hstarts.2.2.2.1, hstarts.2.2.2.2.1⟩
  | text t =>
      have hquote := quote_append t []
      rw [List.append_nil] at hquote
      exact ⟨_, _, hquote, by decide, by decide, by decide⟩
  | array items =>
      have harray := render_array_append items []
      rw [List.append_nil] at harray
      exact ⟨_, _, harray, by decide, by decide, by decide⟩
  | object fields =>
      have hobject := render_object_append fields []
      rw [List.append_nil] at hobject
      exact ⟨_, _, hobject, by decide, by decide, by decide⟩

/-- No space is skipped where there is none. -/
theorem skipSpace_cons {c : CodePoint} (h : isSpace c = false) (rest : Text) :
    skipSpace (c :: rest) = c :: rest := by
  rw [skipSpace, List.dropWhile_cons_of_neg (by simp [h])]

/-! ### Readers -/

/-- Where an atom begins, an atom is read. -/
theorem readValue_atom (dialect : Dialect) (steps depth : Nat) {t : Text}
    (ht : ∃ c ∈ t.head?, StartsAtom c) (rest : Text) :
    readValue dialect (steps + 1) depth (t ++ rest) = readAtom dialect (t ++ rest) := by
  obtain ⟨c, hc, hstarts⟩ := ht
  obtain ⟨more, rfl⟩ := List.head?_eq_some_iff.mp hc
  rw [List.cons_append, readValue.eq_def]
  simp only [if_neg hstarts.1, if_neg hstarts.2.1, if_neg hstarts.2.2.1]

/-- After a quote a string is read. -/
theorem readValue_quote {dialect : Dialect} {t : Text} (ht : dialect.Admits t)
    (steps depth : Nat) (rest : Text) :
    readValue dialect (steps + 1) depth (quote .compact t ++ rest) = .ok (.text t, rest) := by
  rw [quote_append, readValue.eq_def]
  simp only [if_pos]
  rw [readText_quote ht]
  rfl

/-- An array that is closed at once is empty. At the limit of nesting that is up to the
dialect. -/
theorem readValue_array_nil {dialect : Dialect} {depth : Nat}
    (h : depth = 0 → dialect.emptyNests = false) (steps : Nat) (rest : Text) :
    readValue dialect (steps + 1) depth ('[' :: ']' :: rest) = .ok (.array [], rest) := by
  have hspace : skipSpace ((']' : CodePoint) :: rest) = (']' : CodePoint) :: rest :=
    skipSpace_cons (by decide) rest
  cases depth with
  | zero =>
      have hempty : emptyAtLimit? dialect ']' (']' :: rest) = some rest := by
        rw [emptyAtLimit?, hspace]
        simp [h rfl]
      rw [readValue.eq_def]
      simp only [hempty]
      rfl
  | succ depth =>
      rw [readValue.eq_def]
      simp only [hspace]
      rfl

/-- An object that is closed at once is empty. At the limit of nesting that is up to the
dialect. -/
theorem readValue_object_nil {dialect : Dialect} {depth : Nat}
    (h : depth = 0 → dialect.emptyNests = false) (steps : Nat) (rest : Text) :
    readValue dialect (steps + 1) depth ('{' :: '}' :: rest) = .ok (.object [], rest) := by
  have hspace : skipSpace (('}' : CodePoint) :: rest) = ('}' : CodePoint) :: rest :=
    skipSpace_cons (by decide) rest
  cases depth with
  | zero =>
      have hempty : emptyAtLimit? dialect '}' ('}' :: rest) = some rest := by
        rw [emptyAtLimit?, hspace]
        simp [h rfl]
      rw [readValue.eq_def]
      simp only [hempty]
      rfl
  | succ depth =>
      rw [readValue.eq_def]
      simp only [hspace]
      rfl

/-- An array that is not closed at once has items. -/
theorem readValue_array_cons {dialect : Dialect} {steps depth : Nat} {c : CodePoint} {t : Text}
    (hspace : isSpace c = false) (hc : c ≠ ']') :
    readValue dialect (steps + 1) (depth + 1) ('[' :: c :: t)
      = (readItems dialect steps depth (c :: t)).map fun r => (.array r.1, r.2) := by
  rw [readValue.eq_def]
  simp only [skipSpace_cons hspace, if_neg hc]
  rfl

/-- An object that is not closed at once has fields. -/
theorem readValue_object_cons (dialect : Dialect) (steps depth : Nat) (t : Text) :
    readValue dialect (steps + 1) (depth + 1) ('{' :: '"' :: t)
      = (readFields dialect steps depth ('"' :: t)).map fun r => (ofFields r.1, r.2) := by
  rw [readValue.eq_def]
  simp only [skipSpace_cons (show isSpace '"' = false by decide)]
  rfl

/-- The last item stands in front of the closing bracket. -/
theorem readItems_last {dialect : Dialect} {steps depth : Nat} {t rest : Text} {item : Json}
    (h : readValue dialect steps depth t = .ok (item, (']' : CodePoint) :: rest)) :
    readItems dialect (steps + 1) depth t = .ok ([item], rest) := by
  rw [readItems, h]
  rfl

/-- More items follow after a comma. -/
theorem readItems_more {dialect : Dialect} {steps depth : Nat} {t after rest : Text} {item : Json}
    {items : List Json}
    (h : readValue dialect steps depth t = .ok (item, (',' : CodePoint) :: after))
    (hafter : skipSpace after = after)
    (hmore : readItems dialect steps depth after = .ok (items, rest)) :
    readItems dialect (steps + 1) depth t = .ok (item :: items, rest) := by
  rw [readItems, h]
  simp only [bind, Except.bind, skipSpace_cons (show isSpace ',' = false by decide), hafter, hmore]
  rfl

/-- The last field stands in front of the closing brace. -/
theorem readFields_last {dialect : Dialect} {steps depth : Nat} {name t rest : Text}
    {value : Json} (hname : dialect.Admits name) (ht : skipSpace t = t)
    (h : readValue dialect steps depth t = .ok (value, ('}' : CodePoint) :: rest)) :
    readFields dialect (steps + 1) depth (quote .compact name ++ (':' : CodePoint) :: t)
      = .ok ([(name, value)], rest) := by
  rw [quote_append, readFields]
  simp only [if_pos, readText_quote hname, bind, Except.bind,
    skipSpace_cons (show isSpace ':' = false by decide), pure, Except.pure, ht, h,
    skipSpace_cons (show isSpace '}' = false by decide)]

/-- More fields follow after a comma. -/
theorem readFields_more {dialect : Dialect} {steps depth : Nat} {name t after rest : Text}
    {value : Json} {fields : List (Text × Json)} (hname : dialect.Admits name)
    (ht : skipSpace t = t)
    (h : readValue dialect steps depth t = .ok (value, (',' : CodePoint) :: after))
    (hafter : skipSpace after = after)
    (hmore : readFields dialect steps depth after = .ok (fields, rest)) :
    readFields dialect (steps + 1) depth (quote .compact name ++ (':' : CodePoint) :: t)
      = .ok ((name, value) :: fields, rest) := by
  rw [quote_append, readFields]
  simp only [if_pos, readText_quote hname, bind, Except.bind,
    skipSpace_cons (show isSpace ':' = false by decide), pure, Except.pure, ht, h,
    skipSpace_cons (show isSpace ',' = false by decide), hafter, hmore]
  rfl

/-! ### Values -/

/-- The text of items, the first of several. -/
theorem renderItems_cons_cons (item next : Json) (more : List Json) :
    renderItems .compact (item :: next :: more)
      = item.render .compact ++ (',' : CodePoint) :: renderItems .compact (next :: more) := by
  rw [renderItems]
  · rw [List.append_assoc]
    rfl
  · simp

/-- The text of a field. -/
theorem renderFields_singleton (name : Text) (value : Json) :
    renderFields .compact [(name, value)]
      = quote .compact name ++ (':' : CodePoint) :: value.render .compact := by
  rw [renderFields, List.append_assoc]
  rfl

/-- The text of fields, the first of several. -/
theorem renderFields_cons_cons (name : Text) (value : Json) (next : Text × Json)
    (more : List (Text × Json)) : renderFields .compact ((name, value) :: next :: more)
      = quote .compact name ++ (':' : CodePoint) ::
        (value.render .compact ++ (',' : CodePoint) :: renderFields .compact (next :: more)) := by
  rw [renderFields]
  · rw [List.append_assoc, List.append_assoc, List.append_assoc]
    rfl
  · simp

/-- The text of items begins neither with space nor as the end of an array. -/
theorem exists_renderItems_eq_cons {dialect : Dialect} {depth : Nat} {item : Json}
    {more : List Json} (h : AreReadable dialect depth (item :: more)) :
    ∃ c t, renderItems .compact (item :: more) = c :: t ∧ isSpace c = false ∧ c ≠ ']' := by
  obtain ⟨c, t, hc, hspace, hclose, -⟩ := exists_render_eq_cons h.1
  cases more with
  | nil => exact ⟨c, t, hc, hspace, hclose⟩
  | cons next more =>
      refine ⟨c, t ++ (',' : CodePoint) :: renderItems .compact (next :: more), ?_, hspace, hclose⟩
      rw [renderItems_cons_cons, hc, List.cons_append]

/-- The text of fields begins with a quote. -/
theorem exists_renderFields_eq_cons (field : Text × Json) (more : List (Text × Json)) :
    ∃ t, renderFields .compact (field :: more) = ('"' : CodePoint) :: t := by
  obtain ⟨name, value⟩ := field
  cases more with
  | nil => exact ⟨_, (renderFields_singleton name value).trans (quote_append name _)⟩
  | cons next more =>
      exact ⟨_, (renderFields_cons_cons name value next more).trans (quote_append name _)⟩

/-- A number ends in front of what cannot go on with it. -/
theorem endsNumber_cons {c : CodePoint} (h : isDigit c = false ∧ c ≠ '.' ∧ c ≠ 'e' ∧ c ≠ 'E')
    (rest : Text) : EndsNumber (c :: rest) := by
  intro d hd
  rw [List.head?_cons, Option.mem_some_iff] at hd
  exact hd ▸ h

mutual

/-- A value is read back from the beginning of a text. -/
theorem readValue_render {dialect : Dialect} : ∀ (j : Json) {steps depth : Nat} {rest : Text},
    j.Readable dialect depth → 2 * (j.render .compact).length ≤ steps → EndsNumber rest →
      readValue dialect steps depth (j.render .compact ++ rest) = .ok (j, rest) := by
  intro j steps depth rest hj hsteps hrest
  obtain ⟨c, more, hc, hspace, hclose, -⟩ := exists_render_eq_cons hj
  obtain ⟨steps, rfl⟩ : ∃ n, steps = n + 1 := by
    rw [hc, List.length_cons] at hsteps
    exact ⟨steps - 1, by omega⟩
  match j with
  | .null =>
      have hstarts : ∃ c ∈ (Text.ofString "null").head?, StartsAtom c := ⟨'n', rfl, by decide⟩
      refine (readValue_atom dialect steps depth hstarts rest).trans ?_
      exact readAtom_name dialect ("null", .null) (by simp [names]) rest
  | .bool false =>
      have hstarts : ∃ c ∈ (Text.ofString "false").head?, StartsAtom c := ⟨'f', rfl, by decide⟩
      refine (readValue_atom dialect steps depth hstarts rest).trans ?_
      exact readAtom_name dialect ("false", .bool false) (by simp [names]) rest
  | .bool true =>
      have hstarts : ∃ c ∈ (Text.ofString "true").head?, StartsAtom c := ⟨'t', rfl, by decide⟩
      refine (readValue_atom dialect steps depth hstarts rest).trans ?_
      exact readAtom_name dialect ("true", .bool true) (by simp [names]) rest
  | .int n =>
      rw [render, readValue_atom dialect steps depth (startsAtom_ofInt n), readAtom_ofInt hj hrest]
  | .float x =>
      rw [render, readValue_atom dialect steps depth hj.1, hj.2 rest hrest]
  | .text t =>
      rw [render]
      exact readValue_quote hj steps depth rest
  | .array [] =>
      rw [render_array_append]
      refine readValue_array_nil (fun hdepth => ?_) steps rest
      subst hdepth
      exact hj.2
  | .array (item :: items) =>
      obtain ⟨depth, rfl⟩ : ∃ n, depth = n + 1 := by
        cases depth with
        | zero => cases hj.1
        | succ n => exact ⟨n, rfl⟩
      have hlength := congrArg List.length (render_array_append (item :: items) [])
      simp only [List.append_nil, List.length_cons, List.length_append, List.length_nil] at hlength
      have hitems := readItems_renderItems (item :: items) rest (List.cons_ne_nil _ _)
        hj (by omega : _ ≤ steps)
      obtain ⟨c, t, hc, hspace, hclose⟩ := exists_renderItems_eq_cons hj
      rw [render_array_append]
      rw [hc, List.cons_append] at hitems ⊢
      rw [readValue_array_cons hspace hclose, hitems]
      rfl
  | .object [] =>
      rw [render_object_append]
      refine readValue_object_nil (fun hdepth => ?_) steps rest
      subst hdepth
      exact hj.2
  | .object (field :: fields) =>
      obtain ⟨depth, rfl⟩ : ∃ n, depth = n + 1 := by
        cases depth with
        | zero => cases hj.1
        | succ n => exact ⟨n, rfl⟩
      have hlength := congrArg List.length (render_object_append (field :: fields) [])
      simp only [List.append_nil, List.length_cons, List.length_append, List.length_nil] at hlength
      have hfields := readFields_renderFields (field :: fields) rest
        (List.cons_ne_nil _ _) hj.2 (by omega : _ ≤ steps)
      obtain ⟨t, ht⟩ := exists_renderFields_eq_cons field fields
      rw [render_object_append]
      rw [ht, List.cons_append] at hfields ⊢
      rw [readValue_object_cons, hfields]
      exact congrArg (fun o => Except.ok (o, rest)) (ofFields_of_nodup hj.1)

/-- Items are read back up to the closing bracket. -/
theorem readItems_renderItems {dialect : Dialect} : ∀ (items : List Json) {steps depth : Nat}
    (rest : Text), items ≠ [] → AreReadable dialect depth items →
      2 * (renderItems .compact items).length + 1 ≤ steps →
      readItems dialect steps depth (renderItems .compact items ++ (']' : CodePoint) :: rest)
        = .ok (items, rest) := by
  intro items steps depth rest hne hitems hsteps
  obtain ⟨steps, rfl⟩ : ∃ n, steps = n + 1 := ⟨steps - 1, by omega⟩
  match items with
  | [item] =>
      rw [renderItems] at hsteps ⊢
      exact readItems_last (readValue_render item hitems.1 (by omega)
        (endsNumber_cons (by decide) rest))
  | item :: next :: more =>
      rw [renderItems_cons_cons, List.length_append, List.length_cons] at hsteps
      rw [renderItems_cons_cons, List.append_assoc, List.cons_append]
      have hitem := readValue_render item hitems.1 (by omega : _ ≤ steps)
        (endsNumber_cons (c := ',') (by decide)
          (renderItems .compact (next :: more) ++ (']' : CodePoint) :: rest))
      have hmore := readItems_renderItems (next :: more) rest (List.cons_ne_nil _ _)
        hitems.2 (by omega : _ ≤ steps)
      refine readItems_more hitem ?_ hmore
      obtain ⟨c, t, hc, hspace, -⟩ := exists_renderItems_eq_cons hitems.2
      rw [hc, List.cons_append, skipSpace_cons hspace]

/-- Fields are read back up to the closing brace. -/
theorem readFields_renderFields {dialect : Dialect} : ∀ (fields : List (Text × Json))
    {steps depth : Nat} (rest : Text), fields ≠ [] → FieldsAreReadable dialect depth fields →
      2 * (renderFields .compact fields).length + 1 ≤ steps →
      readFields dialect steps depth (renderFields .compact fields ++ ('}' : CodePoint) :: rest)
        = .ok (fields, rest) := by
  intro fields steps depth rest hne hfields hsteps
  obtain ⟨steps, rfl⟩ : ∃ n, steps = n + 1 := ⟨steps - 1, by omega⟩
  match fields with
  | [(name, value)] =>
      obtain ⟨hname, hvalue, -⟩ := hfields
      rw [renderFields_singleton, List.length_append, List.length_cons] at hsteps
      rw [renderFields_singleton, List.append_assoc, List.cons_append]
      obtain ⟨c, t, hc, hspace, -⟩ := exists_render_eq_cons hvalue
      refine readFields_last hname ?_ (readValue_render value hvalue (by omega)
        (endsNumber_cons (by decide) rest))
      rw [hc, List.cons_append, skipSpace_cons hspace]
  | (name, value) :: next :: more =>
      obtain ⟨hname, hvalue, hmore⟩ := hfields
      rw [renderFields_cons_cons, List.length_append, List.length_cons, List.length_append,
        List.length_cons] at hsteps
      rw [renderFields_cons_cons, List.append_assoc, List.cons_append, List.append_assoc,
        List.cons_append]
      obtain ⟨c, t, hc, hspace, -⟩ := exists_render_eq_cons hvalue
      have hread := readValue_render value hvalue (by omega : _ ≤ steps)
        (endsNumber_cons (c := ',') (by decide)
          (renderFields .compact (next :: more) ++ ('}' : CodePoint) :: rest))
      have hfields := readFields_renderFields (next :: more) rest
        (List.cons_ne_nil _ _) hmore (by omega : _ ≤ steps)
      refine readFields_more hname ?_ hread ?_ hfields
      · rw [hc, List.cons_append, skipSpace_cons hspace]
      · obtain ⟨t, ht⟩ := exists_renderFields_eq_cons next more
        rw [ht, List.cons_append, skipSpace_cons (by decide)]

end

/-- A value is read back from its text. -/
theorem parseIn_render {dialect : Dialect} {j : Json} (hj : j.Readable dialect dialect.nesting) :
    parseIn dialect (j.render .compact) = .ok j := by
  obtain ⟨c, more, hc, hspace, -, hmark⟩ := exists_render_eq_cons hj
  have hends : EndsNumber [] := by simp [EndsNumber]
  have hread := readValue_render j hj
    (Nat.le_add_right (2 * (j.render .compact).length) 2) hends
  rw [List.append_nil] at hread
  have hskip : skipSpace (j.render .compact) = j.render .compact := by
    rw [hc, skipSpace_cons hspace]
  have hhead : (j.render .compact).head? ≠ some byteOrderMark := by
    rw [hc, List.head?_cons, Ne, Option.some.injEq]
    exact hmark
  rw [parseIn, if_neg hhead, readWholeText]
  simp only [hskip, hread, bind, Except.bind]
  rfl

end SealedRpc.Json
