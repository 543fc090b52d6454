import SealedRpc.Proofs.Json.Writing

/-!
# Floating point numbers in JSON texts

Whether the text of a floating point number is read back as the number is a matter of the number:
it depends on how its digits are chosen. If the text is read back where nothing follows, then it
is read back wherever it stands in a JSON text, since what follows a number there cannot go on
with it.

The reader takes a number in three parts, and each of them is left as it is by what follows: a
whole part and decimal places end where no digit stands, and of an exponent it matters that the
number alone is taken to its end.

## Main results

* `readNumber_append`: a number that is taken to its end is read in front of what ends numbers.
* `readsFloat_of_parseIn`: a number that is read back alone is read back everywhere.
-/

namespace SealedRpc.Json

variable {dialect : Dialect} {t rest : Text}

/-! ### Parts of numbers -/

/-- A number ends where no digit stands. -/
theorem EndsNumber.noDigit (h : EndsNumber rest) : NoDigit rest :=
  fun c hc => (h c hc).1

/-- Digits in front of what is no digit. -/
theorem takeWhile_append_of_noDigit (h : NoDigit rest) (t : Text) :
    (t ++ rest).takeWhile isDigit = t.takeWhile isDigit ∧
      (t ++ rest).dropWhile isDigit = t.dropWhile isDigit ++ rest := by
  induction t with
  | nil =>
      cases rest with
      | nil => exact ⟨rfl, rfl⟩
      | cons c more => simp [h c rfl]
  | cons c more ih =>
      rw [List.cons_append, List.takeWhile_cons, List.takeWhile_cons, List.dropWhile_cons,
        List.dropWhile_cons]
      split
      · rw [ih.1, ih.2]
        exact ⟨rfl, rfl⟩
      · exact ⟨rfl, rfl⟩

/-- The whole part of a number in front of what is no digit. -/
theorem readWhole?_append (h : NoDigit rest) (t : Text) :
    readWhole? (t ++ rest) = (readWhole? t).map fun r => (r.1, r.2 ++ rest) := by
  cases t with
  | nil =>
      cases rest with
      | nil => rfl
      | cons c more =>
          have hzero : c ≠ '0' := by
            rintro rfl
            exact absurd (h '0' rfl) (by decide)
          simp [readWhole?, hzero, h c rfl]
  | cons c more =>
      obtain ⟨htake, hdrop⟩ := takeWhile_append_of_noDigit h more
      rw [List.cons_append, readWhole?, readWhole?, htake, hdrop]
      split
      · rfl
      · split <;> rfl

/-- The decimal places of a number in front of what is no digit. -/
theorem readPlaces?_append (h : EndsNumber rest) (t : Text) :
    readPlaces? (t ++ rest) = (readPlaces? t).map fun r => (r.1, r.2 ++ rest) := by
  match t with
  | [] => exact readPlaces?_of_endsNumber h
  | [c] =>
      cases rest with
      | nil => rfl
      | cons d more =>
          rw [List.cons_append, List.nil_append, readPlaces?, (h d rfl).1]
          simp [readPlaces?]
  | c :: d :: more =>
      obtain ⟨htake, hdrop⟩ := takeWhile_append_of_noDigit h.noDigit more
      rw [List.cons_append, List.cons_append, readPlaces?, readPlaces?, htake, hdrop]
      split <;> rfl

/-- A sign at the beginning of a text, with something after the text. -/
theorem takeSign_append (ht : t ≠ []) (rest : Text) :
    Number.takeSign (t ++ rest) = ((Number.takeSign t).1, (Number.takeSign t).2 ++ rest) := by
  obtain ⟨c, more, rfl⟩ := List.exists_cons_of_ne_nil ht
  rw [List.cons_append, Number.takeSign, Number.takeSign]
  split
  · rfl
  · split <;> rfl

/-- An exponent that is taken to its end, in front of what is no digit. -/
theorem readExponent?_append (h : NoDigit rest) {power : Int}
    (ht : readExponent? t = some (power, [])) :
    readExponent? (t ++ rest) = some (power, rest) := by
  cases t with
  | nil => cases ht
  | cons c more =>
      rw [readExponent?] at ht
      rw [List.cons_append, readExponent?]
      split at ht
      · rename_i hletter
        rw [if_pos hletter]
        have hmore : more ≠ [] := by
          rintro rfl
          cases ht
        obtain ⟨htake, hdrop⟩ := takeWhile_append_of_noDigit h (Number.takeSign more).2
        rw [takeSign_append hmore]
        dsimp only at ht ⊢
        rw [htake, hdrop]
        split at ht
        · cases ht
        · rename_i hdigits
          obtain ⟨hpower, hend⟩ := Prod.mk.inj (Option.some.inj ht)
          rw [if_neg hdigits, hpower, hend, List.nil_append]
      · cases ht

/-! ### What is left -/

/-- What is left after a whole part is the end of the text. -/
theorem suffix_of_readWhole? {whole : Text} (h : readWhole? t = some (whole, rest)) :
    rest <:+ t := by
  cases t with
  | nil => cases h
  | cons c more =>
      rw [readWhole?] at h
      split at h
      · obtain ⟨-, rfl⟩ := Prod.mk.inj (Option.some.inj h)
        exact List.suffix_cons _ _
      · split at h
        · obtain ⟨-, rfl⟩ := Prod.mk.inj (Option.some.inj h)
          exact (List.dropWhile_suffix _).trans (List.suffix_cons _ _)
        · cases h

/-- What is left after decimal places is the end of the text, also where there are none. -/
theorem suffix_readPlaces? (t : Text) : ((readPlaces? t).map Prod.snd).getD t <:+ t := by
  match t with
  | [] | [_] => exact List.suffix_refl _
  | c :: d :: more =>
      rw [readPlaces?]
      split
      · exact ((List.dropWhile_suffix _).trans (List.suffix_cons _ _)).trans (List.suffix_cons _ _)
      · exact List.suffix_refl _

/-- What is left after a sign is the end of the text, also where there is none. -/
theorem suffix_takeSign (t : Text) : (Number.takeSign t).2 <:+ t := by
  cases t with
  | nil => exact List.suffix_refl _
  | cons c more =>
      rw [Number.takeSign]
      split
      · exact List.suffix_cons _ _
      · split
        · exact List.suffix_cons _ _
        · exact List.suffix_refl _

/-- What is left after an exponent is the end of the text, also where there is none. -/
theorem suffix_readExponent? (t : Text) : ((readExponent? t).map Prod.snd).getD t <:+ t := by
  cases t with
  | nil => exact List.suffix_refl _
  | cons c more =>
      rw [readExponent?]
      split
      · dsimp only
        split
        · exact List.suffix_refl _
        · exact ((List.dropWhile_suffix _).trans (suffix_takeSign more)).trans
            (List.suffix_cons _ _)
      · exact List.suffix_refl _

/-- What is left after a number is the end of the text. -/
theorem suffix_of_readNumber {j : Json} (h : readNumber dialect t = .ok (j, rest)) :
    rest <:+ t := by
  cases t with
  | nil => cases h
  | cons c more =>
      rw [readNumber] at h
      obtain ⟨negative, body, hsign, hbody⟩ : ∃ negative body,
          (if c = '-' then (true, more) else (false, c :: more)) = (negative, body) ∧
            body <:+ c :: more := by
        split
        · exact ⟨true, more, rfl, List.suffix_cons _ _⟩
        · exact ⟨false, c :: more, rfl, List.suffix_refl _⟩
      rw [hsign] at h
      dsimp only at h
      cases hwhole : readWhole? body with
      | none =>
          rw [hwhole] at h
          cases h
      | some parts =>
          obtain ⟨whole, after⟩ := parts
          rw [hwhole] at h
          dsimp only at h
          have hrest : rest = ((readExponent? (((readPlaces? after).map Prod.snd).getD after)).map
              Prod.snd).getD (((readPlaces? after).map Prod.snd).getD after) := by
            split at h
            · cases h
            · split at h
              · split at h
                · cases h
                · exact (Prod.mk.inj (Except.ok.inj h)).2.symm
              · exact (Prod.mk.inj (Except.ok.inj h)).2.symm
          rw [hrest]
          exact (((suffix_readExponent? _).trans (suffix_readPlaces? _)).trans
            (suffix_of_readWhole? hwhole)).trans hbody

/-! ### Numbers -/

/-- A number that is taken to its end is read in front of what ends numbers. -/
theorem readNumber_append {j : Json} (ht : readNumber dialect t = .ok (j, []))
    (hrest : EndsNumber rest) : readNumber dialect (t ++ rest) = .ok (j, rest) := by
  cases t with
  | nil => cases ht
  | cons c more =>
      obtain ⟨negative, body, hsign, hsigned⟩ : ∃ negative body,
          (if c = '-' then (true, more) else (false, c :: more)) = (negative, body) ∧
            (if c = '-' then (true, more ++ rest) else (false, c :: (more ++ rest)))
              = (negative, body ++ rest) := by
        split
        · exact ⟨true, more, rfl, rfl⟩
        · exact ⟨false, c :: more, rfl, rfl⟩
      rw [readNumber] at ht
      rw [List.cons_append, readNumber]
      rw [hsign] at ht
      rw [hsigned]
      dsimp only at ht ⊢
      rw [readWhole?_append hrest.noDigit]
      cases hwhole : readWhole? body with
      | none =>
          rw [hwhole] at ht
          cases ht
      | some parts =>
          obtain ⟨whole, after⟩ := parts
          rw [hwhole] at ht
          rw [Option.map_some]
          dsimp only at ht ⊢
          have hleft : (((readPlaces? (after ++ rest)).map Prod.snd).getD (after ++ rest))
              = ((readPlaces? after).map Prod.snd).getD after ++ rest := by
            rw [readPlaces?_append hrest]
            cases readPlaces? after <;> rfl
          rw [hleft, readPlaces?_append hrest]
          generalize ((readPlaces? after).map Prod.snd).getD after = left at ht ⊢
          have hend : ((readExponent? left).map Prod.snd).getD left = [] := by
            split at ht
            · cases ht
            · split at ht
              · split at ht
                · cases ht
                · exact (Prod.mk.inj (Except.ok.inj ht)).2
              · exact (Prod.mk.inj (Except.ok.inj ht)).2
          have hpower : readExponent? (left ++ rest)
              = (readExponent? left).map fun r => (r.1, rest) := by
            cases hpower : readExponent? left with
            | none =>
                rw [hpower] at hend
                rw [show left = [] from hend, List.nil_append]
                exact readExponent?_of_endsNumber hrest
            | some parts =>
                rw [hpower] at hend
                exact readExponent?_append hrest.noDigit
                  (hpower.trans (congrArg some (Prod.ext rfl hend)))
          have hfollowing : (((readExponent? left).map fun r => (r.1, rest)).map Prod.snd).getD
              (left ++ rest) = ((readExponent? left).map Prod.snd).getD left ++ rest := by
            cases hexponent : readExponent? left with
            | none => rfl
            | some parts =>
                rw [hexponent] at hend
                exact (congrArg (· ++ rest) (show parts.2 = [] from hend)).symm
          rw [hend, List.nil_append] at hfollowing
          rw [hpower, hfollowing]
          rw [hend] at ht
          simp only [Option.isNone_map, Option.map_map]
          -- Apart from what is left, both sides are the same by now.
          refine Eq.trans ?_ (congrArg (Except.map fun r => (r.1, rest)) ht)
          split
          · rfl
          · split
            · split <;> rfl
            · rfl

/-! ### Floating point numbers -/

/-- Digits that are laid out begin with a digit. -/
theorem exists_layout_eq_cons (f : FloatFormat) (d : DecimalDigits) :
    ∃ c more, f.layout d = c :: more ∧ isDigit c = true := by
  obtain ⟨c, more, hc⟩ := List.exists_cons_of_ne_nil (Text.ofNat_ne_nil d.digits)
  have hdigit : isDigit c = true := Text.isDigit_of_mem_ofNat _ c (hc ▸ List.mem_cons_self)
  unfold FloatFormat.layout
  dsimp only
  rw [hc]
  split
  · split
    · exact ⟨'0', _, rfl, by decide⟩
    · split
      · exact ⟨c, _, rfl, hdigit⟩
      · rename_i hpoint _
        obtain ⟨places, hplaces⟩ : ∃ n, d.point.toNat = n + 1 :=
          ⟨d.point.toNat - 1, by omega⟩
        rw [hplaces]
        exact ⟨c, _, rfl, hdigit⟩
  · exact ⟨c, _, rfl, hdigit⟩

/-- The text of a finite number begins with a digit, or with a minus sign in front of one. -/
theorem exists_floatText_finite (negative : Bool) (mantissa : Nat) (exponent : Int) :
    ∃ c more, isDigit c = true ∧ (floatText (.finite negative mantissa exponent) = c :: more ∨
      floatText (.finite negative mantissa exponent) = ('-' : CodePoint) :: c :: more) := by
  rw [floatText, FloatFormat.write]
  obtain ⟨c, more, hlayout, hdigit⟩ := exists_layout_eq_cons floatFormat
    (if mantissa = 0 then ⟨0, 1, 1⟩ else (Binary64.shortestDigits mantissa exponent).stripZeros)
  rw [hlayout]
  cases negative with
  | false => exact ⟨c, more, hdigit, .inl rfl⟩
  | true => exact ⟨c, more, hdigit, .inr rfl⟩

/-- There is no space in the text of a finite number. -/
theorem isSpace_of_mem_floatText {negative : Bool} {mantissa : Nat} {exponent : Int} {c : CodePoint}
    (h : c ∈ floatText (.finite negative mantissa exponent)) : isSpace c = false := by
  have hall : (floatText (.finite negative mantissa exponent)).all CodePoint.isNumeric = true := by
    rw [floatText, FloatFormat.write, List.all_append, FloatFormat.all_isNumeric_layout]
    cases negative <;> decide
  have hnumeric := List.all_eq_true.mp hall c h
  simp only [CodePoint.isNumeric, Bool.and_eq_true, decide_eq_true_eq] at hnumeric
  simp only [isSpace, Bool.or_eq_false_iff, decide_eq_false_iff_not]
  omega

/-- Where the text of a finite number begins, a number is read. -/
theorem readAtom_floatText (negative : Bool) (mantissa : Nat) (exponent : Int) (rest : Text) :
    readAtom dialect (floatText (.finite negative mantissa exponent) ++ rest)
      = readNumber dialect (floatText (.finite negative mantissa exponent) ++ rest) := by
  obtain ⟨c, more, hdigit, htext⟩ := exists_floatText_finite negative mantissa exponent
  refine readAtom_of_forall fun name hname => ?_
  rcases htext with htext | htext
  · rw [htext]
    exact (after?_name_of_isDigit hdigit (more ++ rest) hname).1
  · rw [htext]
    exact (after?_name_of_isDigit hdigit (more ++ rest) hname).2

/-- The text of a finite number begins as atoms do. -/
theorem startsAtom_floatText (negative : Bool) (mantissa : Nat) (exponent : Int) :
    ∃ c ∈ (floatText (.finite negative mantissa exponent)).head?, StartsAtom c := by
  obtain ⟨c, more, hdigit, htext⟩ := exists_floatText_finite negative mantissa exponent
  rcases htext with htext | htext
  · rw [htext]
    exact ⟨c, rfl, startsAtom_of_isDigit hdigit⟩
  · rw [htext]
    exact ⟨'-', rfl, by decide⟩

/-- A finite number whose text stands for it is taken to its end. -/
theorem readNumber_floatText {negative : Bool} {mantissa : Nat} {exponent : Int} {j : Json}
    (h : parseIn dialect (floatText (.finite negative mantissa exponent)) = .ok j) :
    readNumber dialect (floatText (.finite negative mantissa exponent)) = .ok (j, []) := by
  have hstarts := startsAtom_floatText negative mantissa exponent
  have hatom : readAtom dialect (floatText (.finite negative mantissa exponent) ++ [])
      = readNumber dialect (floatText (.finite negative mantissa exponent) ++ []) :=
    readAtom_floatText negative mantissa exponent []
  have hspace : ∀ c ∈ floatText (.finite negative mantissa exponent), isSpace c = false :=
    fun c hc => isSpace_of_mem_floatText hc
  generalize floatText (.finite negative mantissa exponent) = t at h hstarts hatom hspace ⊢
  obtain ⟨c, hc, -⟩ := id hstarts
  obtain ⟨more, rfl⟩ := List.head?_eq_some_iff.mp hc
  rw [parseIn] at h
  split at h
  · cases h
  · rw [Except.mapError_eq_ok_iff, readWholeText,
      skipSpace_cons (hspace c List.mem_cons_self)] at h
    obtain ⟨⟨value, rest⟩, hvalue, hend⟩ := Except.bind_eq_ok_iff.mp h
    rw [← List.append_nil (c :: more), readValue_atom dialect _ _ hstarts, hatom,
      List.append_nil] at hvalue
    have hsuffix := suffix_of_readNumber hvalue
    cases rest with
    | nil =>
        obtain rfl : value = j := Except.ok.inj hend
        exact hvalue
    | cons d others =>
        have hd : isSpace d = false := hspace d (hsuffix.subset List.mem_cons_self)
        dsimp only at hend
        rw [skipSpace_cons hd] at hend
        cases hend

/-- **A number that is read back alone is read back everywhere.** If the text of a floating point
number stands for the number, then the number is also found where the text is followed by
something that ends numbers. -/
theorem readsFloat_of_parseIn {x : Binary64} (h : parseIn dialect (floatText x) = .ok (.float x)) :
    dialect.ReadsFloat x := by
  cases x with
  | nan =>
      exact ⟨⟨'N', rfl, by decide⟩, fun rest _ =>
        readAtom_name dialect ("NaN", _) (by simp [names]) rest⟩
  | infinite negative =>
      cases negative with
      | false =>
          exact ⟨⟨'I', rfl, by decide⟩, fun rest _ =>
            readAtom_name dialect ("Infinity", _) (by simp [names]) rest⟩
      | true =>
          exact ⟨⟨'-', rfl, by decide⟩, fun rest _ =>
            readAtom_name dialect ("-Infinity", _) (by simp [names]) rest⟩
  | finite negative mantissa exponent =>
      refine ⟨startsAtom_floatText negative mantissa exponent, fun rest hrest => ?_⟩
      rw [readAtom_floatText]
      exact readNumber_append (readNumber_floatText h) hrest

end SealedRpc.Json
