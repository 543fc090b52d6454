import SealedRpc.Json.Parser

/-!
# Numerals are read back

A natural number is written in decimal digits without a zero in front, which are the whole
part of a number and give the number again. Hexadecimal digits are read back one by one.

## Main results

* `Number.ofDigits_ofNat`: the digits of a number give the number.
* `Text.length_ofNat_le_iff`: how many digits there are is a matter of size.
* `Json.readWhole?_ofNat`: the digits of a number are the whole part that stands there.
* `Json.hex4?_hex`: four hexadecimal digits give the number that they were made of.
-/

namespace SealedRpc

/-- A character for a digit is read as the digit. -/
theorem CodePoint.asciiDigit?_digitChar :
    ∀ d < 10, (CodePoint.ofChar (Nat.digitChar d)).asciiDigit? = some d := by
  decide

/-- A character for a hexadecimal digit is read as the digit. -/
theorem CodePoint.hexDigit?_digitChar :
    ∀ d < 16, (CodePoint.ofChar (Nat.digitChar d)).hexDigit? = some d := by
  decide

namespace Text

/-- The digits of a number are those of the number without its last one, and the last one. -/
theorem ofNat_eq (n : Nat) : ofNat n =
    if n < 10 then [CodePoint.ofChar (Nat.digitChar n)]
    else ofNat (n / 10) ++ [CodePoint.ofChar (Nat.digitChar (n % 10))] := by
  rw [ofNat, Nat.toDigits_eq_if (by decide)]
  split
  · rfl
  · rw [List.map_append, ofNat]
    rfl

/-- There is always a digit. -/
theorem ofNat_ne_nil (n : Nat) : ofNat n ≠ [] := by
  rw [ofNat, Ne, List.map_eq_nil_iff]
  exact Nat.toDigits_ne_nil

/-- A number has at most so many digits exactly if it lies below that power of ten. -/
theorem length_ofNat_le_iff {n k : Nat} (hk : 0 < k) : (ofNat n).length ≤ k ↔ n < 10 ^ k := by
  rw [ofNat, List.length_map, Nat.length_toDigits_le_iff (by decide) hk]

/-- The digits of a number are digits. -/
theorem isDigit_of_mem_ofNat (n : Nat) : ∀ c ∈ ofNat n, Json.isDigit c = true := by
  induction n using Nat.strongRecOn with
  | ind n ih =>
      have hdigit : ∀ d < 10, Json.isDigit (CodePoint.ofChar (Nat.digitChar d)) = true := by
        intro d hd
        rw [Json.isDigit, CodePoint.asciiDigit?_digitChar d hd]
        rfl
      intro c hc
      rw [ofNat_eq] at hc
      by_cases hn : n < 10
      · rw [if_pos hn, List.mem_singleton] at hc
        exact hc ▸ hdigit n hn
      · rw [if_neg hn, List.mem_append, List.mem_singleton] at hc
        obtain hc | rfl := hc
        · exact ih (n / 10) (by omega) c hc
        · exact hdigit _ (by omega)

/-- The digits of a number do not begin with a zero, unless it is zero. -/
theorem ne_zero_of_head?_ofNat {n : Nat} (hn : 0 < n) : ∀ c ∈ (ofNat n).head?, c ≠ '0' := by
  induction n using Nat.strongRecOn with
  | ind n ih =>
      have hdigit : ∀ d < 10, 0 < d → CodePoint.ofChar (Nat.digitChar d) ≠ '0' := by decide
      intro c hc
      rw [ofNat_eq] at hc
      by_cases hsmall : n < 10
      · rw [if_pos hsmall, List.head?_cons, Option.mem_some_iff] at hc
        exact hc ▸ hdigit n hsmall hn
      · obtain ⟨d, more, hd⟩ := List.exists_cons_of_ne_nil (ofNat_ne_nil (n / 10))
        have hhead := ih (n / 10) (by omega) (by omega)
        rw [hd] at hhead
        rw [if_neg hsmall, hd] at hc
        exact hhead c hc

end Text

/-- The digits of a number give the number. -/
theorem Number.ofDigits_ofNat (n : Nat) : Number.ofDigits (Text.ofNat n) = n := by
  induction n using Nat.strongRecOn with
  | ind n ih =>
      rw [Text.ofNat_eq]
      by_cases hn : n < 10
      · rw [if_pos hn]
        simp [Number.ofDigits, CodePoint.asciiDigit?_digitChar n hn]
      · rw [if_neg hn, Number.ofDigits, List.foldl_append]
        rw [← Number.ofDigits, ih (n / 10) (by omega)]
        simp [CodePoint.asciiDigit?_digitChar (n % 10) (by omega)]
        omega

namespace Json

/-- A text that does not begin with a digit. -/
def NoDigit (t : Text) : Prop :=
  ∀ c ∈ t.head?, isDigit c = false

/-- The digits before something else are taken as a whole. -/
theorem takeWhile_isDigit_append {digits rest : Text} (hdigits : ∀ c ∈ digits, isDigit c = true)
    (hrest : NoDigit rest) : (digits ++ rest).takeWhile isDigit = digits := by
  rw [List.takeWhile_append_of_pos hdigits]
  cases rest with
  | nil => simp
  | cons c rest =>
      have hc : isDigit c = false := hrest c rfl
      simp [hc]

/-- The digits before something else are dropped as a whole. -/
theorem dropWhile_isDigit_append {digits rest : Text} (hdigits : ∀ c ∈ digits, isDigit c = true)
    (hrest : NoDigit rest) : (digits ++ rest).dropWhile isDigit = rest := by
  rw [List.dropWhile_append_of_pos hdigits]
  cases rest with
  | nil => rfl
  | cons c rest =>
      have hc : isDigit c = false := hrest c rfl
      simp [hc]

/-- The digits of a number are the whole part that stands there. -/
theorem readWhole?_ofNat (n : Nat) {rest : Text} (hrest : NoDigit rest) :
    readWhole? (Text.ofNat n ++ rest) = some (Text.ofNat n, rest) := by
  obtain rfl | hn := Nat.eq_zero_or_pos n
  · rfl
  · obtain ⟨c, more, hc⟩ := List.exists_cons_of_ne_nil (Text.ofNat_ne_nil n)
    have hdigits := Text.isDigit_of_mem_ofNat n
    have hzero := Text.ne_zero_of_head?_ofNat hn
    rw [hc] at hdigits hzero ⊢
    have hmore : ∀ d ∈ more, isDigit d = true := fun d hd => hdigits d (List.mem_cons_of_mem c hd)
    rw [List.cons_append, readWhole?, if_neg (hzero c rfl), if_pos (hdigits c List.mem_cons_self),
      takeWhile_isDigit_append hmore hrest, dropWhile_isDigit_append hmore hrest]

/-- Four hexadecimal digits give the number that they were made of. -/
theorem hex4?_hex {n : Nat} (hn : n < 0x10000) : ∃ a b c d,
    Text.hex 4 n = [a, b, c, d] ∧ hex4? a b c d = some n := by
  refine ⟨_, _, _, _, rfl, ?_⟩
  have hread := fun m => CodePoint.hexDigit?_digitChar (m % 16) (Nat.mod_lt m (by decide))
  simp only [hex4?, hread, Option.bind_eq_bind, Option.bind_some, Option.pure_def,
    Option.some.injEq]
  omega

end Json

end SealedRpc
