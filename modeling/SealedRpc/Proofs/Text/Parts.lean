import Mathlib.Data.List.TakeWhile
import SealedRpc.Text.Blank

/-!
# White space and separators

A text is what stays after trimming, with white space before and after it, and white space that is
put around a text is trimmed off again. Splitting at a separator is the splitting of lists in the
library, which undoes joining, and what is said of all texts is proved by induction on their parts.

## Main results

* `exists_eq_trim`: a text is what stays after trimming, in white space.
* `trim_append_left`, `trim_append_right`: white space that is put around a text is trimmed off.
* `splitOn_eq`: the parts of a text are those that the library defines for lists.
* `parts_induction`: induction on the parts of a text.
* `splitOn_join`: splitting undoes joining.
-/

namespace SealedRpc.Text

variable {t before after : Text}

/-! ### White space -/

/-- Whether there is nothing but white space in a text. -/
def IsBlank (t : Text) : Prop := ∀ c ∈ t, c.isBlank = true

/-- A text is the one that stays after trimming, in white space. -/
theorem exists_eq_trim (t : Text) :
    ∃ before after, IsBlank before ∧ IsBlank after ∧ t = before ++ t.trim ++ after := by
  let kept := t.dropWhile CodePoint.isBlank
  have hkept : kept = t.trim ++ (kept.reverse.takeWhile CodePoint.isBlank).reverse := by
    rw [trim, trimWhile, dropEndWhile, ← List.reverse_append, List.takeWhile_append_dropWhile,
      List.reverse_reverse]
  refine ⟨t.takeWhile CodePoint.isBlank, (kept.reverse.takeWhile CodePoint.isBlank).reverse,
    fun c hc => List.mem_takeWhile_imp hc,
    fun c hc => List.mem_takeWhile_imp (List.mem_reverse.mp hc), ?_⟩
  rw [List.append_assoc, ← hkept, List.takeWhile_append_dropWhile]

/-- Nothing stays of white space. -/
theorem trim_eq_nil_iff : t.trim = [] ↔ IsBlank t := by
  constructor
  · intro h
    obtain ⟨before, after, hbefore, hafter, ht⟩ := exists_eq_trim t
    rw [h, List.append_nil] at ht
    intro c hc
    rw [ht, List.mem_append] at hc
    exact hc.elim (hbefore c) (hafter c)
  · intro h
    rw [trim, trimWhile, List.dropWhile_eq_nil_iff.mpr h]
    rfl

/-- White space before a text is trimmed off. -/
theorem trim_append_left (h : IsBlank before) (t : Text) : trim (before ++ t) = t.trim := by
  rw [trim, trim, trimWhile, trimWhile, List.dropWhile_append_of_pos h]

/-- White space after a text is trimmed off. -/
theorem trim_append_right (h : IsBlank after) (t : Text) : trim (t ++ after) = t.trim := by
  rw [trim, trim, trimWhile, trimWhile, List.dropWhile_append]
  split
  · rename_i hblank
    rw [List.isEmpty_iff.mp hblank, List.dropWhile_eq_nil_iff.mpr h]
  · have hreverse : IsBlank after.reverse := fun c hc => h c (List.mem_reverse.mp hc)
    rw [dropEndWhile, dropEndWhile, List.reverse_append, List.dropWhile_append_of_pos hreverse]

/-! ### Separators -/

/-- The parts of a text are those that the library defines for lists. -/
theorem splitOn_eq (separator : CodePoint) (t : Text) :
    splitOn separator t = List.splitOn separator t := by
  induction t with
  | nil => rfl
  | cons c rest ih =>
      rw [splitOn, List.splitOn_cons_eq_if_modifyHead, ih]
      by_cases h : c = separator
      · rw [if_pos h, if_pos (beq_iff_eq.mpr h)]
      · rw [if_neg h, if_neg (fun hbeq => h (beq_iff_eq.mp hbeq))]
        cases hparts : List.splitOn separator rest with
        | nil => exact absurd hparts (List.splitOn_ne_nil separator rest)
        | cons first more => rfl

/-- Induction on the parts of a text: it holds of a text in one part, and of a text that follows
a part if it holds of that text. -/
theorem parts_induction {motive : Text → Prop} (separator : CodePoint)
    (one : ∀ part, separator ∉ part → motive part)
    (more : ∀ part rest, separator ∉ part → motive rest → motive (part ++ separator :: rest))
    (t : Text) : motive t := by
  -- What has been read of the part that is not over yet is kept before the rest of the text.
  have hread (t part : Text) (hpart : separator ∉ part) : motive (part ++ t) := by
    induction t generalizing part with
    | nil =>
        rw [List.append_nil]
        exact one part hpart
    | cons c rest ih =>
        by_cases h : c = separator
        · rw [h]
          exact more part rest hpart (ih [] List.not_mem_nil)
        · have hmore : separator ∉ part ++ [c] := by
            simpa [hpart] using fun heq : separator = c => h heq.symm
          have hrest := ih (part ++ [c]) hmore
          rwa [List.append_assoc, List.singleton_append] at hrest
  exact hread t [] List.not_mem_nil

/-! ### Joining -/

section Join

variable {parts more : List Text}

/-- Parts after other parts come after a separator when all are joined. -/
theorem join_append {separator : Text} (hparts : parts ≠ []) (hmore : more ≠ []) :
    join separator (parts ++ more)
      = join separator parts ++ (separator ++ join separator more) := by
  induction parts with
  | nil => exact absurd rfl hparts
  | cons first rest ih =>
      rw [join, join, List.cons_append, List.intercalate_cons_of_ne_nil (by simp [hmore])]
      cases rest with
      | nil => rw [List.nil_append, List.intercalate_singleton, List.append_assoc, join]
      | cons second others =>
          have hrest := ih (List.cons_ne_nil second others)
          rw [join, join] at hrest
          rw [hrest, List.intercalate_cons_of_ne_nil (List.cons_ne_nil second others)]
          simp only [List.append_assoc]

/-- What stands in joined parts stands in the separator or in one of the parts. -/
theorem mem_of_mem_join {separator : Text} {c : CodePoint} (h : c ∈ join separator parts) :
    c ∈ separator ∨ ∃ part ∈ parts, c ∈ part := by
  induction parts with
  | nil => cases h
  | cons first rest ih =>
      by_cases hrest : rest = []
      · rw [hrest, join, List.intercalate_singleton] at h
        exact .inr ⟨first, List.mem_cons_self, h⟩
      · rw [join, List.intercalate_cons_of_ne_nil hrest, List.append_assoc] at h
        rcases List.mem_append.mp h with hfirst | h
        · exact .inr ⟨first, List.mem_cons_self, hfirst⟩
        rcases List.mem_append.mp h with hseparator | hmore
        · exact .inl hseparator
        · exact (ih hmore).imp_right fun ⟨part, hpart, hc⟩ =>
            ⟨part, List.mem_cons_of_mem first hpart, hc⟩

/-- Splitting undoes joining. -/
theorem splitOn_join {separator : CodePoint} (hne : parts ≠ [])
    (h : ∀ part ∈ parts, separator ∉ part) :
    splitOn separator (join [separator] parts) = parts := by
  rw [splitOn_eq]
  exact List.splitOn_intercalate separator h hne

end Join

end SealedRpc.Text
