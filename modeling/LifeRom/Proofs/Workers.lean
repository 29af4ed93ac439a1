import Mathlib.Algebra.Order.Floor.Div
import LifeRom.Workers

/-! # Shared work

The stretches put together are the list, and there are no more stretches than workers.
-/

namespace LifeRom.Workers

variable {α β : Type}

theorem flatten_stretches (size : Nat) (xs : List α) :
    (stretches size xs).flatten = xs := by
  fun_induction stretches size xs with
  | case1 => rfl
  | case2 x xs ih =>
    rw [List.flatten_cons, ih, List.cons_append, List.take_append_drop]

theorem stretches_eq_cons {size : Nat} {xs : List α} (hsize : 0 < size) (hxs : xs ≠ []) :
    stretches size xs = xs.take size :: stretches size (xs.drop size) := by
  obtain ⟨x, xs, rfl⟩ := List.exists_cons_of_ne_nil hxs
  obtain ⟨n, rfl⟩ := Nat.exists_eq_succ_of_ne_zero hsize.ne'
  rw [stretches]
  rfl

/-- A stretch starts behind those before it, and only the last may be short. -/
theorem getElem?_stretches {size : Nat} (h : 0 < size) (xs : List α) (k : Nat) :
    (stretches size xs)[k]? =
      if k * size < xs.length then some ((xs.drop (k * size)).take size) else none := by
  induction k generalizing xs with
  | zero =>
    cases xs with
    | nil => simp [stretches]
    | cons x xs =>
      rw [stretches_eq_cons h (List.cons_ne_nil x xs)]
      simp
  | succ k ih =>
    cases xs with
    | nil => simp [stretches]
    | cons x xs =>
      have hlt : k * size < ((x :: xs).drop size).length ↔ (k + 1) * size < (x :: xs).length := by
        rw [List.length_drop, Nat.succ_mul]
        omega
      have hdrop : size + k * size = (k + 1) * size := by
        rw [Nat.succ_mul, Nat.add_comm]
      rw [stretches_eq_cons h (List.cons_ne_nil x xs), List.getElem?_cons_succ, ih, List.drop_drop,
        hdrop]
      simp only [hlt]

theorem share_eq_ceilDiv (length workers : Nat) : share length workers = length ⌈/⌉ workers :=
  (Nat.ceilDiv_eq_add_pred_div length workers).symm

theorem share_le_iff {length workers k : Nat} (h : 0 < workers) :
    share length workers ≤ k ↔ length ≤ k * workers := by
  rw [share_eq_ceilDiv, ceilDiv_le_iff_le_mul h, Nat.mul_comm]

theorem share_pos {length workers : Nat} (hlength : 0 < length) (hworkers : 0 < workers) :
    0 < share length workers := by
  by_contra h
  have hzero := (share_le_iff hworkers).mp (Nat.le_of_not_lt h)
  omega

theorem count_pos (wanted length : Nat) : 0 < count wanted length :=
  Nat.le_max_left 1 _

theorem count_eq_clamp (wanted length : Nat) :
    count wanted length = max 1 (min wanted (max length 1)) := by
  simp only [count]
  omega

theorem length_pos_of_one_lt_count {wanted length : Nat} (h : 1 < count wanted length) :
    0 < length := by
  simp only [count] at h
  omega

theorem length_stretches {size : Nat} (h : 0 < size) (xs : List α) :
    (stretches size xs).length = share xs.length size := by
  refine eq_of_forall_ge_iff fun k => ?_
  rw [share_le_iff h, ← List.getElem?_eq_none_iff, getElem?_stretches h]
  simp

theorem getElem?_stretches_share {workers : Nat} (h : 0 < workers) (xs : List α) (k : Nat) :
    let size := share xs.length workers
    (stretches size xs)[k]? =
      if k * size < xs.length then some ((xs.drop (k * size)).take size) else none := by
  cases xs with
  | nil => simp [stretches]
  | cons x xs => exact getElem?_stretches (share_pos (by simp) h) (x :: xs) k

theorem length_stretches_share_le {workers : Nat} (h : 0 < workers) (xs : List α) :
    (stretches (share xs.length workers) xs).length ≤ workers := by
  cases xs with
  | nil => simp [stretches]
  | cons x xs =>
    have hsize : 0 < share (x :: xs).length workers := share_pos (by simp) h
    rw [length_stretches hsize, share_le_iff hsize, Nat.mul_comm, ← share_le_iff h]

theorem map_eq (wanted : Nat) (f : α → β) (xs : List α) : map wanted f xs = xs.map f := by
  simp only [map]
  split
  · rfl
  · have hget (size : Nat) :
        ((stretches size xs).map fun stretch =>
          Task.spawn fun _ => stretch.map f).flatMap Task.get =
            ((stretches size xs).map (List.map f)).flatten := by
      rw [List.flatMap_map, List.flatMap]
      rfl
    rw [hget, ← List.map_flatten, flatten_stretches]

end LifeRom.Workers
