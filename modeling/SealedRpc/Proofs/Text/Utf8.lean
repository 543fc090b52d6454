import SealedRpc.Text.Utf8

/-!
# UTF-8 is read back

The reader takes octets one at a time and keeps what has begun. From the start of a unit it
reads the octets of a code point as that code point and is at the start of a unit again, so
that a text is read back code point by code point. Only surrogates are excluded: the bounds
on the second octet, which rule out forms that are too long, rule out surrogates too. So what
is read strictly is a form, and reading and writing undo each other in both directions.

## Main results

* `units_utf8`: the octets of a code point are one unit.
* `decode?_encode?`: the UTF-8 form of a text is read as the text.
* `exists_utf8_of_units`: a unit that is not broken is the octets of a code point.
* `decode?_eq_some_iff`: exactly the UTF-8 form of a text is read as the text.
-/

namespace SealedRpc.Utf8

/-- An octet that is given by a number below 256. -/
theorem toNat_ofNat_of_lt {n : Nat} (h : n < 256) : (UInt8.ofNat n).toNat = n := by
  rw [UInt8.toNat_ofNat']
  omega

/-! ### Octets -/

/-- An octet within the bounds of what has begun is its last one. -/
theorem units_last {least greatest : UInt8} {bits n : Nat} (hn : n < 256)
    (hleast : least.toNat ≤ n) (hgreatest : n ≤ greatest.toNat) (rest : Bytes) :
    units (some ⟨0, least, greatest, bits⟩) (UInt8.ofNat n :: rest)
      = some (Fin.ofNat _ (0x40 * bits + (n - 0x80))) :: units none rest := by
  have hnat := toNat_ofNat_of_lt hn
  rw [units]
  simp only [UInt8.le_iff_toNat_le, hnat, hleast, hgreatest, and_self, if_true]

/-- An octet within the bounds of what has begun adds its bits. -/
theorem units_next {least greatest : UInt8} {more bits n : Nat} (hn : n < 256)
    (hleast : least.toNat ≤ n) (hgreatest : n ≤ greatest.toNat) (rest : Bytes) :
    units (some ⟨more + 1, least, greatest, bits⟩) (UInt8.ofNat n :: rest)
      = units (some ⟨more, 0x80, 0xBF, 0x40 * bits + (n - 0x80)⟩) rest := by
  have hnat := toNat_ofNat_of_lt hn
  rw [units]
  simp only [UInt8.le_iff_toNat_le, hnat, hleast, hgreatest, and_self, if_true]

/-- What the first octet of a unit means, by its number. -/
theorem lead_ofNat {n : Nat} (hn : n < 256) : lead (UInt8.ofNat n) =
    if n < 0x80 then .char (Fin.ofNat _ n)
    else if n < 0xC2 then .broken
    else if n < 0xE0 then .pending ⟨0, 0x80, 0xBF, n - 0xC0⟩
    else if n < 0xF0 then
      .pending ⟨1, if n = 0xE0 then 0xA0 else 0x80, if n = 0xED then 0x9F else 0xBF, n - 0xE0⟩
    else if n < 0xF5 then
      .pending ⟨2, if n = 0xF0 then 0x90 else 0x80, if n = 0xF4 then 0x8F else 0xBF, n - 0xF0⟩
    else .broken := by
  have hnat := toNat_ofNat_of_lt hn
  rw [lead]
  simp only [UInt8.lt_iff_toNat_lt, ← UInt8.toNat_inj, hnat]
  rfl

/-! ### Units -/

/-- A unit of one octet. -/
theorem units_one {a : Nat} (ha : a < 0x80) (rest : Bytes) :
    units none (UInt8.ofNat a :: rest) = some (Fin.ofNat _ a) :: units none rest := by
  rw [units, units.afresh, lead_ofNat (by omega), if_pos ha]

/-- A unit of two octets. -/
theorem units_two {a b : Nat} (ha : 0xC2 ≤ a ∧ a < 0xE0) (hb : 0x80 ≤ b ∧ b ≤ 0xBF)
    (rest : Bytes) : units none (UInt8.ofNat a :: UInt8.ofNat b :: rest)
      = some (Fin.ofNat _ (0x40 * (a - 0xC0) + (b - 0x80))) :: units none rest := by
  rw [units, units.afresh, lead_ofNat (by omega), if_neg (by omega), if_neg (by omega),
    if_pos (by omega)]
  exact units_last (by omega) hb.1 hb.2 rest

/-- A unit of three octets. The first of them bounds the second. -/
theorem units_three {a b c : Nat} (ha : 0xE0 ≤ a ∧ a < 0xF0) (hb : 0x80 ≤ b ∧ b ≤ 0xBF)
    (hc : 0x80 ≤ c ∧ c ≤ 0xBF) (hleast : a = 0xE0 → 0xA0 ≤ b) (hgreatest : a = 0xED → b ≤ 0x9F)
    (rest : Bytes) : units none (UInt8.ofNat a :: UInt8.ofNat b :: UInt8.ofNat c :: rest)
      = some (Fin.ofNat _ (0x40 * (0x40 * (a - 0xE0) + (b - 0x80)) + (c - 0x80)))
        :: units none rest := by
  rw [units, units.afresh, lead_ofNat (by omega), if_neg (by omega), if_neg (by omega),
    if_neg (by omega), if_pos (by omega)]
  have hleast' : (if a = 0xE0 then (0xA0 : UInt8) else 0x80).toNat ≤ b := by
    split
    · exact hleast ‹_›
    · exact hb.1
  have hgreatest' : b ≤ (if a = 0xED then (0x9F : UInt8) else 0xBF).toNat := by
    split
    · exact hgreatest ‹_›
    · exact hb.2
  dsimp only
  rw [units_next (by omega) hleast' hgreatest']
  exact units_last (by omega) hc.1 hc.2 rest

/-- A unit of four octets. The first of them bounds the second. -/
theorem units_four {a b c d : Nat} (ha : 0xF0 ≤ a ∧ a < 0xF5) (hb : 0x80 ≤ b ∧ b ≤ 0xBF)
    (hc : 0x80 ≤ c ∧ c ≤ 0xBF) (hd : 0x80 ≤ d ∧ d ≤ 0xBF) (hleast : a = 0xF0 → 0x90 ≤ b)
    (hgreatest : a = 0xF4 → b ≤ 0x8F) (rest : Bytes) :
    units none (UInt8.ofNat a :: UInt8.ofNat b :: UInt8.ofNat c :: UInt8.ofNat d :: rest)
      = some (Fin.ofNat _
          (0x40 * (0x40 * (0x40 * (a - 0xF0) + (b - 0x80)) + (c - 0x80)) + (d - 0x80)))
        :: units none rest := by
  rw [units, units.afresh, lead_ofNat (by omega), if_neg (by omega), if_neg (by omega),
    if_neg (by omega), if_neg (by omega), if_pos (by omega)]
  have hleast' : (if a = 0xF0 then (0x90 : UInt8) else 0x80).toNat ≤ b := by
    split
    · exact hleast ‹_›
    · exact hb.1
  have hgreatest' : b ≤ (if a = 0xF4 then (0x8F : UInt8) else 0xBF).toNat := by
    split
    · exact hgreatest ‹_›
    · exact hb.2
  dsimp only
  rw [units_next (by omega) hleast' hgreatest', units_next (by omega) hc.1 hc.2]
  exact units_last (by omega) hd.1 hd.2 rest

/-! ### Code points -/

/-- The octets of a code point that is no surrogate are one unit. -/
theorem units_utf8 {c : CodePoint} (h : c.isSurrogate = false) (rest : Bytes) :
    units none (c.utf8 ++ rest) = some c :: units none rest := by
  have hc := c.isLt
  have hsurrogate : ¬ (0xD800 ≤ c.val ∧ c.val ≤ 0xDFFF) := by
    simpa [CodePoint.isSurrogate] using h
  have hself : ∀ n, n = c.val → (Fin.ofNat 0x110000 n) = c := by
    rintro n rfl
    exact Fin.ext (Nat.mod_eq_of_lt hc)
  rw [CodePoint.utf8]
  by_cases h1 : c.val < 0x80
  · rw [if_pos h1, List.cons_append, List.nil_append, units_one h1, hself _ rfl]
  · rw [if_neg h1]
    by_cases h2 : c.val < 0x800
    · rw [if_pos h2, List.cons_append, List.cons_append, List.nil_append,
        units_two (by omega) (by omega), hself _ (by omega)]
    · rw [if_neg h2]
      by_cases h3 : c.val < 0x10000
      · rw [if_pos h3, List.cons_append, List.cons_append, List.cons_append, List.nil_append,
          units_three (by omega) (by omega) (by omega) (by omega) (by omega), hself _ (by omega)]
      · rw [if_neg h3, List.cons_append, List.cons_append, List.cons_append, List.cons_append,
          List.nil_append, units_four (by omega) (by omega) (by omega) (by omega) (by omega)
            (by omega), hself _ (by omega)]

/-- The octets of a text without surrogates are its code points as units. -/
theorem units_flatMap_utf8 {t : Text} (h : encodable t = true) :
    units none (t.flatMap CodePoint.utf8) = t.map some := by
  induction t with
  | nil => rw [List.flatMap_nil, List.map_nil, units]
  | cons c rest ih =>
      rw [encodable, List.all_cons, Bool.and_eq_true, Bool.not_eq_true'] at h
      rw [List.flatMap_cons, units_utf8 h.1, ih h.2, List.map_cons]

/-- The UTF-8 form of a text is read as the text. -/
theorem decode?_encode? {t : Text} {b : Bytes} (h : encode? t = some b) : decode? b = some t := by
  obtain ⟨hencodable, rfl⟩ := encode?_eq_some_iff.mp h
  rw [decode?, units_flatMap_utf8 hencodable, List.mapM_map]
  exact (List.mapM_pure (m := Option) (f := fun c => c)).trans (congrArg some t.map_id')

/-! ### Only forms are read -/

/-- A code point below the surrogates or above them is none. -/
theorem isSurrogate_eq_false {n : Nat} (hn : n < 0x110000) (h : n < 0xD800 ∨ 0xDFFF < n) :
    CodePoint.isSurrogate ⟨n, hn⟩ = false := by
  simp only [CodePoint.isSurrogate, Bool.and_eq_false_iff, decide_eq_false_iff_not]
  omega

/-- One octet within its bounds is a code point. -/
theorem exists_utf8_one {a : Nat} (ha : a < 0x80) :
    ∃ c : CodePoint, c.isSurrogate = false ∧ c.utf8 = [UInt8.ofNat a] :=
  ⟨⟨a, by omega⟩, isSurrogate_eq_false _ (by omega), if_pos ha⟩

/-- Two octets within their bounds are a code point. -/
theorem exists_utf8_two {a b : Nat} (ha : 0xC2 ≤ a ∧ a < 0xE0) (hb : 0x80 ≤ b ∧ b ≤ 0xBF) :
    ∃ c : CodePoint, c.isSurrogate = false ∧ c.utf8 = [UInt8.ofNat a, UInt8.ofNat b] := by
  obtain ⟨n, hn⟩ : ∃ n, n = 0x40 * (a - 0xC0) + (b - 0x80) := ⟨_, rfl⟩
  have hlt : n < 0x110000 := by omega
  refine ⟨⟨n, hlt⟩, isSurrogate_eq_false hlt (by omega), ?_⟩
  have hoctets : 0xC0 + n / 0x40 = a ∧ 0x80 + n % 0x40 = b := by omega
  rw [CodePoint.utf8, if_neg (by dsimp only; omega), if_pos (by dsimp only; omega), hoctets.1,
    hoctets.2]

/-- Three octets within their bounds are a code point. -/
theorem exists_utf8_three {a b c : Nat} (ha : 0xE0 ≤ a ∧ a < 0xF0) (hb : 0x80 ≤ b ∧ b ≤ 0xBF)
    (hc : 0x80 ≤ c ∧ c ≤ 0xBF) (hleast : a = 0xE0 → 0xA0 ≤ b) (hgreatest : a = 0xED → b ≤ 0x9F) :
    ∃ p : CodePoint, p.isSurrogate = false ∧
      p.utf8 = [UInt8.ofNat a, UInt8.ofNat b, UInt8.ofNat c] := by
  obtain ⟨n, hn⟩ : ∃ n, n = 0x40 * (0x40 * (a - 0xE0) + (b - 0x80)) + (c - 0x80) := ⟨_, rfl⟩
  have hlt : n < 0x110000 := by omega
  refine ⟨⟨n, hlt⟩, isSurrogate_eq_false hlt (by omega), ?_⟩
  have hoctets : 0xE0 + n / 0x1000 = a ∧ 0x80 + n / 0x40 % 0x40 = b ∧ 0x80 + n % 0x40 = c := by
    omega
  rw [CodePoint.utf8, if_neg (by dsimp only; omega), if_neg (by dsimp only; omega),
    if_pos (by dsimp only; omega), hoctets.1, hoctets.2.1, hoctets.2.2]

/-- Four octets within their bounds are a code point. -/
theorem exists_utf8_four {a b c d : Nat} (ha : 0xF0 ≤ a ∧ a < 0xF5) (hb : 0x80 ≤ b ∧ b ≤ 0xBF)
    (hc : 0x80 ≤ c ∧ c ≤ 0xBF) (hd : 0x80 ≤ d ∧ d ≤ 0xBF) (hleast : a = 0xF0 → 0x90 ≤ b)
    (hgreatest : a = 0xF4 → b ≤ 0x8F) : ∃ p : CodePoint, p.isSurrogate = false ∧
      p.utf8 = [UInt8.ofNat a, UInt8.ofNat b, UInt8.ofNat c, UInt8.ofNat d] := by
  obtain ⟨n, hn⟩ : ∃ n, n = 0x40 * (0x40 * (0x40 * (a - 0xF0) + (b - 0x80)) + (c - 0x80))
    + (d - 0x80) := ⟨_, rfl⟩
  have hlt : n < 0x110000 := by omega
  refine ⟨⟨n, hlt⟩, isSurrogate_eq_false hlt (by omega), ?_⟩
  have hoctets : 0xF0 + n / 0x40000 = a ∧ 0x80 + n / 0x1000 % 0x40 = b ∧
      0x80 + n / 0x40 % 0x40 = c ∧ 0x80 + n % 0x40 = d := by omega
  rw [CodePoint.utf8, if_neg (by dsimp only; omega), if_neg (by dsimp only; omega),
    if_neg (by dsimp only; omega), hoctets.1, hoctets.2.1, hoctets.2.2.1, hoctets.2.2.2]

/-- Unless a unit is broken, what has begun goes on with an octet within its bounds. -/
theorem exists_of_units_pending {p : Pending} {bytes : Bytes} (h : none ∉ units (some p) bytes) :
    ∃ n rest, bytes = UInt8.ofNat n :: rest ∧ n < 256 ∧ p.least.toNat ≤ n ∧
      n ≤ p.greatest.toNat := by
  cases bytes with
  | nil => simp [units] at h
  | cons b rest =>
      by_cases hb : p.least ≤ b ∧ b ≤ p.greatest
      · refine ⟨b.toNat, rest, by rw [UInt8.ofNat_toNat], b.toNat_lt, ?_⟩
        exact ⟨UInt8.le_iff_toNat_le.mp hb.1, UInt8.le_iff_toNat_le.mp hb.2⟩
      · rw [units] at h
        simp only [if_neg hb, List.mem_cons, true_or, not_true_eq_false] at h

/-- A narrower bound on one side, for some first octets, is a bound of the usual kind. -/
theorem bounds_of_ite {p q : Prop} [Decidable p] [Decidable q] {least greatest : UInt8} {n : Nat}
    (hleast : (if p then least else 0x80).toNat ≤ n)
    (hgreatest : n ≤ (if q then greatest else 0xBF).toNat) (hl : 0x80 ≤ least.toNat)
    (hg : greatest.toNat ≤ 0xBF) :
    (0x80 ≤ n ∧ n ≤ 0xBF) ∧ (p → least.toNat ≤ n) ∧ (q → n ≤ greatest.toNat) := by
  have h80 : (0x80 : UInt8).toNat = 0x80 := rfl
  have hBF : (0xBF : UInt8).toNat = 0xBF := rfl
  refine ⟨⟨?_, ?_⟩, fun hp => ?_, fun hq => ?_⟩
  · split at hleast <;> omega
  · split at hgreatest <;> omega
  · rwa [if_pos hp] at hleast
  · rwa [if_pos hq] at hgreatest

/-- Octets of which no unit is broken begin with those of a code point that is no surrogate. The
cases are those of the first octet. -/
theorem exists_utf8_of_units {bytes : Bytes} (hne : bytes ≠ []) (h : none ∉ units none bytes) :
    ∃ (c : CodePoint) (rest : Bytes), c.isSurrogate = false ∧ bytes = c.utf8 ++ rest := by
  obtain ⟨first, tail, rfl⟩ := List.exists_cons_of_ne_nil hne
  obtain ⟨a, ha, rfl⟩ : ∃ a < 256, first = UInt8.ofNat a :=
    ⟨first.toNat, first.toNat_lt, UInt8.ofNat_toNat.symm⟩
  have hafresh : none ∉ units.afresh (UInt8.ofNat a) tail := by rwa [units] at h
  rw [units.afresh, lead_ofNat ha] at hafresh
  by_cases h1 : a < 0x80
  · obtain ⟨p, hp, hutf8⟩ := exists_utf8_one h1
    exact ⟨p, tail, hp, by rw [hutf8]; rfl⟩
  rw [if_neg h1] at hafresh
  by_cases h2 : a < 0xC2
  · simp [h2] at hafresh
  rw [if_neg h2] at hafresh
  by_cases h3 : a < 0xE0
  · rw [if_pos h3] at hafresh
    obtain ⟨b, rest, rfl, -, hleast, hgreatest⟩ := exists_of_units_pending hafresh
    obtain ⟨p, hp, hutf8⟩ := exists_utf8_two ⟨by omega, h3⟩ ⟨hleast, hgreatest⟩
    exact ⟨p, rest, hp, by rw [hutf8]; rfl⟩
  rw [if_neg h3] at hafresh
  by_cases h4 : a < 0xF0
  · rw [if_pos h4] at hafresh
    obtain ⟨b, rest, rfl, hb, hleast, hgreatest⟩ := exists_of_units_pending hafresh
    dsimp only at hafresh
    rw [units_next hb hleast hgreatest] at hafresh
    obtain ⟨c, rest, rfl, -, hc⟩ := exists_of_units_pending hafresh
    obtain ⟨hwithin, hlow, hhigh⟩ := bounds_of_ite hleast hgreatest (by decide) (by decide)
    obtain ⟨p, hp, hutf8⟩ := exists_utf8_three ⟨by omega, h4⟩ hwithin hc hlow hhigh
    exact ⟨p, rest, hp, by rw [hutf8]; rfl⟩
  rw [if_neg h4] at hafresh
  by_cases h5 : a < 0xF5
  · rw [if_pos h5] at hafresh
    obtain ⟨b, rest, rfl, hb, hleast, hgreatest⟩ := exists_of_units_pending hafresh
    dsimp only at hafresh
    rw [units_next hb hleast hgreatest] at hafresh
    obtain ⟨c, rest, rfl, hc, hcs⟩ := exists_of_units_pending hafresh
    rw [units_next hc hcs.1 hcs.2] at hafresh
    obtain ⟨d, rest, rfl, -, hd⟩ := exists_of_units_pending hafresh
    obtain ⟨hwithin, hlow, hhigh⟩ := bounds_of_ite hleast hgreatest (by decide) (by decide)
    obtain ⟨p, hp, hutf8⟩ := exists_utf8_four ⟨by omega, h5⟩ hwithin hcs hd hlow hhigh
    exact ⟨p, rest, hp, by rw [hutf8]; rfl⟩
  · simp [h5] at hafresh

/-- Octets of which no unit is broken are a text if their units are its code points. -/
theorem encode?_of_units {b : Bytes} {t : Text} (h : units none b = t.map some) :
    encode? t = some b := by
  induction t generalizing b with
  | nil =>
      by_cases hb : b = []
      · subst hb
        rfl
      · obtain ⟨c, rest, hc, rfl⟩ := exists_utf8_of_units hb (by simp [h])
        rw [units_utf8 hc] at h
        cases h
  | cons c t ih =>
      have hne : b ≠ [] := by
        rintro rfl
        simp [units] at h
      have hnone : none ∉ units none b := by simp [h]
      obtain ⟨c', rest, hc, rfl⟩ := exists_utf8_of_units hne hnone
      rw [units_utf8 hc, List.map_cons, List.cons.injEq, Option.some.injEq] at h
      obtain ⟨rfl, hrest⟩ := h
      obtain ⟨hencodable, hform⟩ := encode?_eq_some_iff.mp (ih hrest)
      refine encode?_eq_some_iff.mpr ⟨?_, ?_⟩
      · simpa [encodable, hc] using hencodable
      · rw [List.flatMap_cons, hform]

/-- The strict reading succeeds exactly with the code points of the units. -/
theorem decode?_eq_some_iff_units {b : Bytes} {t : Text} :
    decode? b = some t ↔ units none b = t.map some := by
  rw [decode?]
  generalize units none b = us
  induction us generalizing t with
  | nil => cases t <;> simp
  | cons u us ih =>
      cases u with
      | none => cases t <;> simp
      | some c =>
          cases t with
          | nil => simp [Option.bind_eq_some_iff]
          | cons d t =>
              simp only [List.mapM_cons, id, Option.bind_eq_bind, Option.bind_some,
                Option.bind_eq_some_iff, Option.pure_def, Option.some.injEq, List.cons.injEq, ih,
                List.map_cons]
              constructor
              · rintro ⟨_, hus, rfl, rfl⟩
                exact ⟨rfl, hus⟩
              · rintro ⟨rfl, hus⟩
                exact ⟨t, hus, rfl, rfl⟩

/-- Exactly the UTF-8 form of a text is read as the text. -/
theorem decode?_eq_some_iff {b : Bytes} {t : Text} : decode? b = some t ↔ encode? t = some b :=
  ⟨fun h => encode?_of_units (decode?_eq_some_iff_units.mp h), decode?_encode?⟩

/-! ### Texts that have a form -/

/-- A text has a form exactly if none of its code points is a surrogate. -/
theorem encodable_iff {t : Text} : encodable t = true ↔ ∀ c ∈ t, c.isSurrogate = false := by
  simp only [encodable, List.all_eq_true, Bool.not_eq_true']

/-- Two texts in a row have a form exactly if both have one. -/
theorem encodable_append (s t : Text) : encodable (s ++ t) = (encodable s && encodable t) :=
  List.all_append

/-- A text has a form exactly if its first code point is no surrogate and its rest has one. -/
theorem encodable_cons (c : CodePoint) (t : Text) :
    encodable (c :: t) = (!c.isSurrogate && encodable t) :=
  List.all_cons

/-- The code point of a character is no surrogate. -/
theorem isSurrogate_ofChar (c : Char) : (CodePoint.ofChar c).isSurrogate = false := by
  have hvalid : c.toNat < 0xD800 ∨ 0xDFFF < c.toNat ∧ c.toNat < 0x110000 := c.valid
  have hval : (CodePoint.ofChar c).val = c.toNat := rfl
  simp only [CodePoint.isSurrogate, hval, Bool.and_eq_false_iff, decide_eq_false_iff_not]
  omega

/-- Characters have a form. -/
theorem encodable_map_ofChar (cs : List Char) : encodable (cs.map CodePoint.ofChar) = true := by
  rw [encodable_iff]
  intro c hc
  obtain ⟨ch, -, rfl⟩ := List.mem_map.mp hc
  exact isSurrogate_ofChar ch

/-- A string has a form. -/
theorem encodable_ofString (s : String) : encodable (Text.ofString s) = true :=
  encodable_map_ofChar s.toList

/-- Decimal digits have a form. -/
theorem encodable_ofNat (n : Nat) : encodable (Text.ofNat n) = true :=
  encodable_map_ofChar (Nat.toDigits 10 n)

/-- Hexadecimal digits have a form. -/
theorem encodable_hex (width n : Nat) : encodable (Text.hex width n) = true := by
  induction width generalizing n with
  | zero => rfl
  | succ width ih =>
      rw [Text.hex, encodable_append, ih, Bool.true_and]
      exact encodable_map_ofChar [Nat.digitChar (n % 16)]

end SealedRpc.Utf8
