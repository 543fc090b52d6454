import Mathlib.Algebra.Order.Floor.Div
import SealedRpc.Codec.Workers
import SealedRpc.Bytes

/-!
# Octets, numbers and pieces

The two directions between byte strings and numbers undo each other at a fixed width, and
cutting into pieces is undone by joining them. With the pieces comes the work on them: a
task that turns every piece back into what it was made of turns the whole row back.

## Main results

* `ofNat_toNat`: a byte string is written back at its own length.
* `length_pieces`: there are as many pieces as the length divided by the size, rounded up.
* `pieces_flatten`: pieces of full size are found again in their concatenation.
* `Pool.inOrder_undo`: undoing each result undoes the row of results.
-/

namespace SealedRpc

namespace Bytes

/-! ### Numbers in base 256 -/

/-- The first octet counts most. -/
theorem toNat_cons (b : UInt8) (rest : Bytes) :
    toNat (b :: rest) = 256 ^ rest.length * b.toNat + toNat rest := by
  have h := toNat_append [b] rest
  simpa [toNat] using h

/-- A zero in front does not count. -/
theorem toNat_zero_cons (rest : Bytes) : toNat (0 :: rest) = toNat rest := by
  rw [toNat_cons]
  simp

/-- A byte string writes a number below the power of its length. -/
theorem toNat_lt (bytes : Bytes) : toNat bytes < 256 ^ bytes.length := by
  induction bytes with
  | nil => simp [toNat]
  | cons b rest ih =>
      have hb : b.toNat + 1 ≤ 256 := b.toNat_lt
      rw [toNat_cons, List.length_cons, Nat.pow_succ]
      calc 256 ^ rest.length * b.toNat + toNat rest
          < 256 ^ rest.length * b.toNat + 256 ^ rest.length := by omega
        _ = 256 ^ rest.length * (b.toNat + 1) := by rw [Nat.mul_succ]
        _ ≤ 256 ^ rest.length * 256 := Nat.mul_le_mul_left _ hb

/-- Two byte strings of one length that write the same number are the same. -/
theorem toNat_inj {a b : Bytes} (hlen : a.length = b.length) (h : toNat a = toNat b) :
    a = b := by
  induction a generalizing b with
  | nil => exact (List.length_eq_zero_iff.mp hlen.symm).symm
  | cons x rest ih =>
      cases b with
      | nil => simp at hlen
      | cons y others =>
          have hlens : rest.length = others.length := by simpa using hlen
          rw [toNat_cons, toNat_cons, hlens] at h
          have hrest : toNat rest < 256 ^ others.length := hlens ▸ toNat_lt rest
          have hothers := toNat_lt others
          have hxy : x.toNat = y.toNat := by
            have hpos : 0 < 256 ^ others.length := Nat.pow_pos (by decide)
            have hx := Nat.mul_add_div hpos x.toNat (toNat rest)
            have hy := Nat.mul_add_div hpos y.toNat (toNat others)
            rw [h, Nat.div_eq_of_lt hrest] at hx
            rw [Nat.div_eq_of_lt hothers] at hy
            exact Nat.add_right_cancel (hx.symm.trans hy)
          obtain rfl : x = y := UInt8.toNat_inj.mp hxy
          rw [ih hlens (Nat.add_left_cancel h)]

/-- A byte string is what its number writes at its own length. -/
theorem ofNat_toNat (bytes : Bytes) : ofNat bytes.length (toNat bytes) = bytes :=
  toNat_inj (length_ofNat _ _) (toNat_ofNat (toNat_lt bytes))

/-! ### Pieces -/

/-- No data has no pieces. -/
theorem pieces_nil (size : Nat) : pieces size [] = [] := by
  rw [pieces]
  simp

/-- The first piece, and the pieces of what follows it. -/
theorem pieces_of_ne_nil {size : Nat} (hsize : 0 < size) {data : Bytes} (h : data ≠ []) :
    pieces size data = data.take size :: pieces size (data.drop size) := by
  rw [pieces, if_neg]
  rintro (rfl | rfl)
  · exact h rfl
  · omega

/-- A piece is neither empty nor longer than it may be. -/
theorem length_mem_pieces {size : Nat} {data piece : Bytes} (h : piece ∈ pieces size data) :
    0 < piece.length ∧ piece.length ≤ size := by
  fun_induction pieces size data with
  | case1 data hd => simp at h
  | case2 data hd ih =>
      rcases List.mem_cons.mp h with rfl | h
      · have hne : data.length ≠ 0 := fun e => hd (Or.inl (List.length_eq_zero_iff.mp e))
        rw [List.length_take]
        omega
      · exact ih h

/-- There are as many pieces as the length divided by the size, rounded up. -/
theorem length_pieces {size : Nat} (hsize : 0 < size) (data : Bytes) :
    (pieces size data).length = data.length ⌈/⌉ size := by
  fun_induction pieces size data with
  | case1 data hd =>
      rcases hd with rfl | rfl
      · simp
      · omega
  | case2 data hd ih =>
      have hne : data.length ≠ 0 := fun e => hd (Or.inl (List.length_eq_zero_iff.mp e))
      rw [List.length_cons, ih, List.length_drop]
      simp only [Nat.ceilDiv_eq_add_pred_div]
      rcases Nat.lt_or_ge data.length size with hlt | hge
      · rw [show data.length - size + size - 1 = size - 1 by omega,
          show data.length + size - 1 = data.length - 1 + size by omega,
          Nat.add_div_right _ hsize, Nat.div_eq_of_lt (by omega), Nat.div_eq_of_lt (by omega)]
      · rw [show data.length + size - 1 = data.length - size + size - 1 + size by omega,
          Nat.add_div_right _ hsize]

/-- Pieces of full size are found again in their concatenation. -/
theorem pieces_flatten {size : Nat} (hsize : 0 < size) {parts : List Bytes}
    (h : ∀ part ∈ parts, part.length = size) : pieces size parts.flatten = parts := by
  induction parts with
  | nil => exact pieces_nil size
  | cons part rest ih =>
      have hpart : part.length = size := h part (List.mem_cons_self ..)
      have hrest := ih fun other hother => h other (List.mem_cons_of_mem _ hother)
      have hne : (part :: rest).flatten ≠ [] := by
        intro e
        rw [List.flatten_cons, List.append_eq_nil_iff] at e
        rw [e.1] at hpart
        simp at hpart
        omega
      rw [pieces_of_ne_nil hsize hne, List.flatten_cons, List.take_left' hpart,
        List.drop_left' hpart, hrest]

/-- Parts of one size make a whole of that size times their number. -/
theorem length_flatten {size : Nat} {parts : List Bytes}
    (h : ∀ part ∈ parts, part.length = size) : parts.flatten.length = size * parts.length := by
  rw [List.length_flatten, List.map_congr_left h, List.map_const', List.sum_replicate_nat,
    Nat.mul_comm]

end Bytes

/-! ### Work on pieces -/

namespace Pool

variable {ε α β : Type}

/-- Items with their positions, worked on by a function that does not fail. -/
def numbered (f : Nat → α → β) (start : Nat) : List α → List β
  | [] => []
  | item :: rest => f start item :: numbered f (start + 1) rest

/-- There is one result for each item. -/
@[simp] theorem length_numbered (f : Nat → α → β) (start : Nat) (items : List α) :
    (numbered f start items).length = items.length := by
  induction items generalizing start with
  | nil => rfl
  | cons item rest ih => simp [numbered, ih]

/-- Every result is that of some item. -/
theorem exists_of_mem_numbered {f : Nat → α → β} {start : Nat} {items : List α} {result : β}
    (h : result ∈ numbered f start items) : ∃ i, ∃ item ∈ items, result = f i item := by
  induction items generalizing start with
  | nil => simp [numbered] at h
  | cons item rest ih =>
      rcases List.mem_cons.mp h with rfl | h
      · exact ⟨start, item, List.mem_cons_self .., rfl⟩
      · obtain ⟨i, other, hother, rfl⟩ := ih h
        exact ⟨i, other, List.mem_cons_of_mem _ hother, rfl⟩

/-- A task that fails on no item gives the row of its results. -/
theorem inOrder_eq_numbered {task : Nat → α → Except ε β} {f : Nat → α → β} {start : Nat}
    {items : List α} (h : ∀ i, ∀ item ∈ items, task i item = .ok (f i item)) :
    inOrder task start items = .ok (numbered f start items) := by
  induction items generalizing start with
  | nil => rfl
  | cons item rest ih =>
      have hrest : inOrder task (start + 1) rest = .ok (numbered f (start + 1) rest) :=
        ih fun i other hother => h i other (List.mem_cons_of_mem _ hother)
      rw [inOrder, h start item (List.mem_cons_self ..), hrest]
      rfl

/-- A task that undoes each result undoes the row of results. -/
theorem inOrder_undo {task : Nat → β → Except ε α} {f : Nat → α → β} {start start' : Nat}
    {items : List α} (h : ∀ i j, ∀ item ∈ items, task i (f j item) = .ok item) :
    inOrder task start (numbered f start' items) = .ok items := by
  induction items generalizing start start' with
  | nil => rfl
  | cons item rest ih =>
      have hrest : inOrder task (start + 1) (numbered f (start' + 1) rest) = .ok rest :=
        ih fun i j other hother => h i j other (List.mem_cons_of_mem _ hother)
      rw [numbered, inOrder, h start start' item (List.mem_cons_self ..), hrest]
      rfl

end Pool

end SealedRpc
