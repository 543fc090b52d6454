import Mathlib.Data.List.Forall2
import Mathlib.Order.Bounds.Basic
import SealedRpc.Proofs.Codec.RoundTrip

/-!
# Blocks by position

A message is taken apart by position: the block at a position is cut out of the message, and the
failure that is reported is the one at the least position. Work in order either succeeds on all
items, each with its own result, or it fails as the first item does that fails.

## Main results

* `Pool.inOrder_eq_ok_iff`, `Pool.inOrder_eq_error_iff`: how work in order ends.
* `Bytes.getElem?_pieces`: the piece at a position.
* `Codec.length_blockAt`: the blocks of a message that can be cut are of full size.
* `Codec.inOrder_pieces_eq_error_iff`: work on the blocks fails at the least position that fails.
-/

namespace SealedRpc

/-! ### Work in order -/

namespace Pool

variable {ε α β : Type} {task : Nat → α → Except ε β} {start : Nat} {items : List α}

/-- Work on one more item in front. -/
theorem inOrder_cons (item : α) (rest : List α) : inOrder task start (item :: rest)
    = (task start item).bind fun result =>
        (inOrder task (start + 1) rest).map (result :: ·) := rfl

/-- Work in order succeeds with the row of what the items succeed with, if the positions play no
part in it. -/
theorem inOrder_eq_ok_iff {R : α → β → Prop} {results : List β}
    (htask : ∀ i, ∀ item ∈ items, ∀ result, task i item = .ok result ↔ R item result) :
    inOrder task start items = .ok results ↔ List.Forall₂ R items results := by
  induction items generalizing start results with
  | nil => simp [inOrder, eq_comm]
  | cons item rest ih =>
      have hfirst := htask start item List.mem_cons_self
      have hrest : ∀ results, inOrder task (start + 1) rest = .ok results ↔
          List.Forall₂ R rest results := fun results =>
        ih fun i other hother => htask i other (List.mem_cons_of_mem _ hother)
      simp only [inOrder_cons, Except.bind_eq_ok_iff, Except.map_eq_ok_iff, hfirst, hrest,
        List.forall₂_cons_left_iff]
      constructor
      · rintro ⟨result, hresult, others, hothers, rfl⟩
        exact ⟨result, others, hresult, hothers, rfl⟩
      · rintro ⟨result, others, hresult, hothers, rfl⟩
        exact ⟨result, hresult, others, hothers, rfl⟩

/-- What is true of an item and what it succeeds with, whatever its position, is true along the row
of results. -/
theorem forall₂_of_inOrder {R : α → β → Prop} {results : List β}
    (htask : ∀ i, ∀ item ∈ items, ∀ result, task i item = .ok result → R item result)
    (h : inOrder task start items = .ok results) : List.Forall₂ R items results := by
  induction items generalizing start results with
  | nil =>
      obtain rfl : [] = results := Except.ok.inj h
      exact .nil
  | cons item rest ih =>
      rw [inOrder_cons] at h
      obtain ⟨result, hresult, h⟩ := Except.bind_eq_ok_iff.mp h
      obtain ⟨others, hothers, rfl⟩ := Except.map_eq_ok_iff.mp h
      refine .cons (htask start item List.mem_cons_self result hresult) (ih ?_ hothers)
      exact fun i other hother => htask i other (List.mem_cons_of_mem _ hother)

/-- Work in order fails with the failure of an item before which all items succeed. -/
theorem inOrder_eq_error_iff {e : ε} : inOrder task start items = .error e ↔
    ∃ i item, items[i]? = some item ∧ task (start + i) item = .error e ∧
      ∀ j < i, ∀ other, items[j]? = some other →
        ∃ result, task (start + j) other = .ok result := by
  induction items generalizing start with
  | nil => simp [inOrder]
  | cons first rest ih =>
      rw [inOrder_cons]
      cases hfirst : task start first with
      | error e' =>
          constructor
          · rintro ⟨⟩
            exact ⟨0, first, rfl, hfirst, fun j hj => absurd hj (Nat.not_lt_zero j)⟩
          · rintro ⟨i, item, hitem, hfails, hbefore⟩
            cases i with
            | zero =>
                obtain rfl : first = item := Option.some.inj hitem
                obtain rfl : e' = e := Except.error.inj (hfirst.symm.trans hfails)
                rfl
            | succ i =>
                obtain ⟨result, hresult⟩ := hbefore 0 i.succ_pos first rfl
                cases hfirst.symm.trans hresult
      | ok result =>
          -- The rest is worked on one position further on.
          have hshift : ∀ i, start + 1 + i = start + (i + 1) := by omega
          refine Except.map_eq_error_iff.trans (ih.trans ?_)
          constructor
          · rintro ⟨i, item, hitem, hfails, hbefore⟩
            refine ⟨i + 1, item, hitem, hshift i ▸ hfails, fun j hj other hother => ?_⟩
            cases j with
            | zero =>
                obtain rfl : first = other := Option.some.inj hother
                exact ⟨result, hfirst⟩
            | succ j => exact hshift j ▸ hbefore j (Nat.lt_of_succ_lt_succ hj) other hother
          · rintro ⟨i, item, hitem, hfails, hbefore⟩
            cases i with
            | zero =>
                obtain rfl : first = item := Option.some.inj hitem
                cases hfirst.symm.trans hfails
            | succ i =>
                refine ⟨i, item, hitem, hshift i ▸ hfails, fun j hj other hother => ?_⟩
                exact hshift j ▸ hbefore (j + 1) (Nat.succ_lt_succ hj) other hother

end Pool

/-! ### Pieces -/

/-- There is a piece at a position exactly if the data goes on that far, and which one. -/
theorem Bytes.getElem?_pieces {size : Nat} (hsize : 0 < size) {data piece : Bytes} {i : Nat} :
    (pieces size data)[i]? = some piece ↔
      size * i < data.length ∧ piece = (data.drop (size * i)).take size := by
  induction i generalizing data with
  | zero =>
      by_cases hdata : data = []
      · simp [hdata, pieces_nil]
      · rw [pieces_of_ne_nil hsize hdata]
        simp [List.length_pos_iff.mpr hdata, eq_comm]
  | succ i ih =>
      by_cases hdata : data = []
      · simp [hdata, pieces_nil]
      · have hnext : size * (i + 1) = size + size * i := by rw [Nat.mul_succ, Nat.add_comm]
        rw [pieces_of_ne_nil hsize hdata, List.getElem?_cons_succ, ih, List.length_drop,
          List.drop_drop, hnext]
        exact and_congr_left fun _ => by omega

namespace Codec

/-- The block of a message at a position. -/
def blockAt (size : Nat) (message : Bytes) (i : Nat) : Bytes :=
  (message.drop (size * i)).take size

/-- The blocks of a message that can be cut are of full size. -/
theorem length_blockAt {size : Nat} {message : Bytes} (hdvd : size ∣ message.length) {i : Nat}
    (h : size * i < message.length) : (blockAt size message i).length = size := by
  obtain ⟨count, hcount⟩ := hdvd
  rw [hcount] at h
  have hlast : size * (i + 1) ≤ size * count :=
    Nat.mul_le_mul_left size (Nat.lt_of_mul_lt_mul_left h)
  rw [Nat.mul_succ] at hlast
  rw [blockAt, List.length_take, List.length_drop, hcount]
  omega

/-- A piece of a message that can be cut is of full size. -/
theorem length_eq_of_mem_pieces {size : Nat} (hsize : 0 < size) {message : Bytes}
    (hdvd : size ∣ message.length) {block : Bytes} (h : block ∈ Bytes.pieces size message) :
    block.length = size := by
  obtain ⟨i, hi⟩ := List.mem_iff_getElem?.mp h
  obtain ⟨hlt, rfl⟩ := (Bytes.getElem?_pieces hsize).mp hi
  exact length_blockAt hdvd hlt

/-- Work on pieces that fails, where it fails, with the failure of the position, fails with that of
the least position at which it does. -/
theorem inOrder_pieces_eq_error_iff {ε β : Type} {task : Nat → Bytes → Except ε β}
    {Fails : Nat → Bytes → Prop} {fault : Nat → ε} {size : Nat} (hsize : 0 < size)
    {message : Bytes} (htask : ∀ i, ∀ piece ∈ Bytes.pieces size message, ∀ e,
      task i piece = .error e ↔ Fails i piece ∧ e = fault i) {e : ε} :
    Pool.inOrder task 0 (Bytes.pieces size message) = .error e ↔
      ∃ i, IsLeast {i | size * i < message.length ∧ Fails i (blockAt size message i)} i ∧
        e = fault i := by
  have hfails : ∀ i, size * i < message.length → ∀ e,
      task i (blockAt size message i) = .error e ↔
        Fails i (blockAt size message i) ∧ e = fault i := by
    intro i hi
    have hpiece := (Bytes.getElem?_pieces hsize).mpr ⟨hi, rfl⟩
    exact htask i _ (List.mem_of_getElem? hpiece)
  have hok : ∀ i, size * i < message.length →
      ((∃ result, task i (blockAt size message i) = .ok result) ↔
        ¬ Fails i (blockAt size message i)) := by
    intro i hi
    cases hresult : task i (blockAt size message i) with
    | ok result =>
        have hnot : ¬ Fails i (blockAt size message i) := by
          intro h
          cases hresult.symm.trans ((hfails i hi _).mpr ⟨h, rfl⟩)
        exact iff_of_true ⟨result, rfl⟩ hnot
    | error e' => exact iff_of_false nofun (not_not.mpr ((hfails i hi _).mp hresult).1)
  rw [Pool.inOrder_eq_error_iff]
  simp only [Nat.zero_add, Bytes.getElem?_pieces hsize]
  constructor
  · rintro ⟨i, _, ⟨hlt, rfl⟩, he, hbefore⟩
    obtain ⟨hi, rfl⟩ := (hfails i hlt e).mp he
    refine ⟨i, ⟨⟨hlt, hi⟩, fun j hj => Nat.le_of_not_lt fun hlater => ?_⟩, rfl⟩
    exact (hok j hj.1).mp (hbefore j hlater _ ⟨hj.1, rfl⟩) hj.2
  · rintro ⟨i, ⟨⟨hlt, hi⟩, hleast⟩, he⟩
    refine ⟨i, _, ⟨hlt, rfl⟩, (hfails i hlt e).mpr ⟨hi, he⟩, ?_⟩
    rintro j hj _ ⟨hjlt, rfl⟩
    refine (hok j hjlt).mpr fun hjfails => ?_
    exact absurd (hleast ⟨hjlt, hjfails⟩) (Nat.not_le.mpr hj)

end Codec

end SealedRpc
