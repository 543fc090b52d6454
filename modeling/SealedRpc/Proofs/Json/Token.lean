import SealedRpc.Json.Printer
import SealedRpc.Proofs.Text.Numeral

/-!
# Tokens of JSON are read back

What the compact style writes for a string, a number or a name is read as it was meant,
whatever stands after it. A string ends with its quote, so nothing is asked of what follows;
a number ends where something stands that cannot go on with it.

## Main results

* `readText_quote`: a string in quotes is read as the string.
* `readAtom_ofInt`: an integer is read as itself, unless it has too many digits.
-/

namespace SealedRpc.Json

/-! ### Strings -/

/-- A string in quotes, with something after it. -/
theorem quote_append (t rest : Text) : quote .compact t ++ rest
    = ('"' : CodePoint) :: (t.flatMap (escaped .compact) ++ ('"' : CodePoint) :: rest) := by
  rw [quote, List.append_assoc, List.append_assoc]
  rfl

/-- An escape of two code points stands for one. -/
theorem readString_simpleEscape (start : Nat) {e plain : CodePoint} (he : e ≠ 'u')
    (hplain : simpleEscape? e = some plain) (rest : Text) :
    readString start none ('\\' :: e :: rest)
      = (readString start none rest).map fun r => (plain :: r.1, r.2) := by
  rw [readString.eq_def]
  simp only [if_neg he, hplain]
  rfl

/-- The escape of a number below the surrogates stands for that code point. -/
theorem readString_unitEscape (start : Nat) {c : CodePoint} (hc : c.val < 0xD800) {rest : Text}
    (hrest : rest ≠ []) : readString start none (unitEscape c.val ++ rest)
      = (readString start none rest).map fun r => (c :: r.1, r.2) := by
  obtain ⟨h1, h2, h3, h4, hhex, hread⟩ := hex4?_hex (n := c.val) (by omega)
  have hempty : rest.isEmpty = false := List.isEmpty_eq_false_iff.mpr hrest
  have hhigh : ¬ (0xD800 ≤ c.val ∧ c.val ≤ 0xDBFF) := by omega
  have hself : Fin.ofNat 0x110000 c.val = c := Fin.ext (Nat.mod_eq_of_lt c.isLt)
  rw [unitEscape, hhex]
  simp only [List.cons_append, List.nil_append]
  rw [readString.eq_def]
  simp only [if_pos, hempty, hread, pair?, Option.bind_none, if_neg hhigh, hself]
  rfl

/-- A code point is read as it was meant, whether it was escaped or not. -/
theorem readString_escaped (start : Nat) (c : CodePoint) {rest : Text} (hrest : rest ≠ []) :
    readString start none (escaped .compact c ++ rest)
      = (readString start none rest).map fun r => (c :: r.1, r.2) := by
  rw [escaped]
  split
  case isTrue h =>
    subst h
    exact readString_simpleEscape start (by decide) rfl rest
  split
  case isTrue h =>
    subst h
    exact readString_simpleEscape start (by decide) rfl rest
  split
  case isTrue h =>
    subst h
    exact readString_simpleEscape start (by decide) rfl rest
  split
  case isTrue h =>
    subst h
    exact readString_simpleEscape start (by decide) rfl rest
  split
  case isTrue h =>
    subst h
    exact readString_simpleEscape start (by decide) rfl rest
  split
  case isTrue h =>
    obtain rfl : c = 0x08 := Fin.ext h
    exact readString_simpleEscape start (by decide) rfl rest
  split
  case isTrue h =>
    obtain rfl : c = 0x0C := Fin.ext h
    exact readString_simpleEscape start (by decide) rfl rest
  split
  case isTrue h => exact readString_unitEscape start (by omega) hrest
  case isFalse hquote hslash _ _ _ _ _ hcontrol =>
    have hplain : ¬ c.val ≤ 0x1F := by omega
    rw [if_neg (by simp [Style.compact]), List.cons_append, List.nil_append, readString.eq_def]
    simp only [if_neg hquote, if_neg hslash, if_neg hplain]
    rfl

/-- A string is read up to its closing quote. -/
theorem readString_body (start : Nat) (t rest : Text) :
    readString start none (t.flatMap (escaped .compact) ++ ('"' : CodePoint) :: rest)
      = .ok (t, rest) := by
  induction t with
  | nil =>
      rw [List.flatMap_nil, List.nil_append, readString.eq_def]
      rfl
  | cons c more ih =>
      rw [List.flatMap_cons, List.append_assoc, readString_escaped start c (by simp), ih]
      rfl

/-- Whether a dialect lets a string stand: it may hold lone surrogates, or it holds none. -/
def Dialect.Admits (dialect : Dialect) (t : Text) : Prop :=
  dialect.loneSurrogates = true ∨ ∀ c ∈ t, c.isSurrogate = false

/-- A string in quotes is read as the string. -/
theorem readText_quote {dialect : Dialect} {t : Text} (ht : dialect.Admits t) (start : Nat)
    (rest : Text) :
    readText dialect start (t.flatMap (escaped .compact) ++ ('"' : CodePoint) :: rest)
      = .ok (t, rest) := by
  have hadmitted : (!dialect.loneSurrogates && t.any CodePoint.isSurrogate) = false := by
    obtain h | h := ht
    · rw [h]
      rfl
    · rw [Bool.and_eq_false_iff, List.any_eq_false]
      exact .inr fun c hc => Bool.not_eq_true _ ▸ h c hc
  simp only [readText, readString_body, bind, Except.bind, hadmitted]
  rfl

/-! ### Numbers -/

/-- A text that does not go on with a number. -/
def EndsNumber (t : Text) : Prop :=
  ∀ c ∈ t.head?, isDigit c = false ∧ c ≠ '.' ∧ c ≠ 'e' ∧ c ≠ 'E'

/-- Whether a dialect lets an integer stand, by the number of its digits. -/
def Dialect.AdmitsInt (dialect : Dialect) (n : Int) : Prop :=
  (Text.ofNat n.natAbs).length ≤ digitLimit ∧
    ∀ limit ∈ dialect.wholeLength?, (Text.ofNat n.natAbs).length ≤ limit

/-- No places stand where a number ends. -/
theorem readPlaces?_of_endsNumber {t : Text} (h : EndsNumber t) : readPlaces? t = none := by
  match t with
  | [] | [_] => rfl
  | c :: d :: rest => rw [readPlaces?, if_neg fun hp => (h c rfl).2.1 hp.1]

/-- No exponent stands where a number ends. -/
theorem readExponent?_of_endsNumber {t : Text} (h : EndsNumber t) : readExponent? t = none := by
  match t with
  | [] => rfl
  | c :: rest =>
      obtain ⟨-, -, hsmall, hcapital⟩ := h c rfl
      rw [readExponent?, if_neg fun he => he.elim hsmall hcapital]

/-- The digits of a natural number are read as the number, after a minus sign as its
negative. -/
theorem readNumber_ofNat {dialect : Dialect} {n : Nat} (hn : dialect.AdmitsInt n) {rest : Text}
    (hrest : EndsNumber rest) :
    readNumber dialect (Text.ofNat n ++ rest) = .ok (.int n, rest) ∧
      readNumber dialect ('-' :: (Text.ofNat n ++ rest)) = .ok (.int (-n), rest) := by
  have hwhole := readWhole?_ofNat n fun c hc => (hrest c hc).1
  have hlength : ¬ digitLimit < (Text.ofNat n).length := Nat.not_lt.mpr hn.1
  have hlimit : dialect.wholeLength?.any (· < (Text.ofNat n).length) = false := by
    rw [Option.any_eq_false]
    exact fun limit hl => decide_eq_false (Nat.not_lt.mpr (hn.2 limit hl))
  have hplaces := readPlaces?_of_endsNumber hrest
  have hexponent := readExponent?_of_endsNumber hrest
  obtain ⟨c, more, hc⟩ := List.exists_cons_of_ne_nil (Text.ofNat_ne_nil n)
  have hminus : c ≠ '-' := by
    rintro rfl
    have hdigit := Text.isDigit_of_mem_ofNat n '-' (hc ▸ List.mem_cons_self)
    exact absurd hdigit (by decide)
  constructor
  · rw [readNumber.eq_def]
    rw [hc, List.cons_append]
    simp only [if_neg hminus]
    rw [← List.cons_append, ← hc]
    simp [hwhole, hplaces, hexponent, hlimit, hlength, Number.ofDigits_ofNat]
  · rw [readNumber]
    simp [hwhole, hplaces, hexponent, hlimit, hlength, Number.ofDigits_ofNat]

/-! ### Names -/

/-- No name stands where the digits of a number do, nor where its minus sign does. -/
theorem after?_name_of_isDigit {c : CodePoint} (hc : isDigit c = true) (rest : Text)
    {name : Text × Json} (hname : name ∈ names) : Text.after? name.1 (c :: rest) = none ∧
      Text.after? name.1 ('-' :: c :: rest) = none := by
  have hne : ∀ d : CodePoint, isDigit d = false → d ≠ c := by
    rintro d hd rfl
    rw [hc] at hd
    cases hd
  simp only [names, List.mem_cons, List.not_mem_nil, or_false] at hname
  -- only the last of the names has a minus sign in front, with a letter after it
  rcases hname with rfl | rfl | rfl | rfl | rfl | rfl
  · exact ⟨if_neg (hne _ (by decide)), if_neg (by decide)⟩
  · exact ⟨if_neg (hne _ (by decide)), if_neg (by decide)⟩
  · exact ⟨if_neg (hne _ (by decide)), if_neg (by decide)⟩
  · exact ⟨if_neg (hne _ (by decide)), if_neg (by decide)⟩
  · exact ⟨if_neg (hne _ (by decide)), if_neg (by decide)⟩
  · exact ⟨if_neg (hne _ (by decide)), (if_pos rfl).trans (if_neg (hne _ (by decide)))⟩

/-- Where no name stands, a number is read. -/
theorem readAtom_of_forall {dialect : Dialect} {t : Text}
    (h : ∀ name ∈ names, Text.after? name.1 t = none) :
    readAtom dialect t = readNumber dialect t := by
  have hnone : (names.findSome? fun n => (Text.after? n.1 t).map fun rest => (n.2, rest))
      = none := by
    rw [List.findSome?_eq_none_iff]
    intro name hname
    rw [h name hname, Option.map_none]
  rw [readAtom, hnone]

/-- A name is read as what it stands for. -/
theorem readAtom_name (dialect : Dialect) (name : Text × Json) (hname : name ∈ names)
    (rest : Text) : readAtom dialect (name.1 ++ rest) = .ok (name.2, rest) := by
  simp only [names, List.mem_cons, List.not_mem_nil, or_false] at hname
  rcases hname with rfl | rfl | rfl | rfl | rfl | rfl <;> rfl

/-- An integer is read as itself, unless it has too many digits. -/
theorem readAtom_ofInt {dialect : Dialect} {n : Int} (hn : dialect.AdmitsInt n) {rest : Text}
    (hrest : EndsNumber rest) :
    readAtom dialect (Text.ofInt n ++ rest) = .ok (.int n, rest) := by
  have hdigit : ∀ m : Nat, ∃ c more, Text.ofNat m = c :: more ∧ isDigit c = true := by
    intro m
    obtain ⟨c, more, hc⟩ := List.exists_cons_of_ne_nil (Text.ofNat_ne_nil m)
    exact ⟨c, more, hc, Text.isDigit_of_mem_ofNat m c (hc ▸ List.mem_cons_self)⟩
  cases n with
  | ofNat m =>
      obtain ⟨c, more, hc, hcdigit⟩ := hdigit m
      rw [Text.ofInt, readAtom_of_forall, (readNumber_ofNat hn hrest).1]
      · rfl
      · intro name hname
        rw [hc]
        exact (after?_name_of_isDigit hcdigit (more ++ rest) hname).1
  | negSucc m =>
      obtain ⟨c, more, hc, hcdigit⟩ := hdigit (m + 1)
      have hm : dialect.AdmitsInt ((m + 1 : Nat) : Int) := hn
      rw [Text.ofInt, List.cons_append, readAtom_of_forall, (readNumber_ofNat hm hrest).2]
      · rfl
      · intro name hname
        rw [hc]
        exact (after?_name_of_isDigit hcdigit (more ++ rest) hname).2

end SealedRpc.Json
