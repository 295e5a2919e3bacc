import Mathlib.Data.List.Basic
import Mathlib.Tactic.Common

/-!
# Circular arrays

A function on the natural numbers is an array; of the array only what is below `N` is
used, and position `N` is position `0` again. A *window* is what a queue kept in such an
array holds: so many items from a start, taken round the end.

## What is proved

A window is cut at any point into two windows (`window_add`); where it does not reach
round the end it is a plain stretch of the array (`window_eq_stretch`); and storing
items right behind it, where it leaves room, appends them to it (`window_store_append`).
-/

namespace Circular

variable {α : Type} {N : ℕ} {f : ℕ → α} {start len n : ℕ} {items : List α}

/-- `len` items from `start` on, in an array of `N`. -/
def window (N : ℕ) (f : ℕ → α) (start len : ℕ) : List α :=
  (List.range len).map fun k => f ((start + k) % N)

/-- `len` items from `start` on, none of them round the end. -/
def stretch (f : ℕ → α) (start len : ℕ) : List α := (List.range len).map fun k => f (start + k)

/-- Store items from `offset` on. -/
def store (f : ℕ → α) (offset : ℕ) (items : List α) : ℕ → α := fun i =>
  if offset ≤ i then (items[i - offset]?).getD (f i) else f i

@[simp] theorem length_window : (window N f start len).length = len := by simp [window]

@[simp] theorem window_zero : window N f start 0 = [] := rfl

@[simp] theorem length_stretch : (stretch f start len).length = len := by simp [stretch]

/-- **A window can be cut anywhere.** -/
theorem window_add (m n : ℕ) :
    window N f start (m + n) = window N f start m ++ window N f ((start + m) % N) n := by
  simp only [window, List.range_add, List.map_append, List.map_map]
  congr 1
  apply List.map_congr_left
  intro k _
  simp only [Function.comp_apply]
  rw [Nat.mod_add_mod, Nat.add_assoc]

theorem take_window (h : n ≤ len) : (window N f start len).take n = window N f start n := by
  obtain ⟨k, rfl⟩ := Nat.exists_eq_add_of_le h
  rw [window_add, List.take_left' length_window]

theorem drop_window (h : n ≤ len) :
    (window N f start len).drop n = window N f ((start + n) % N) (len - n) := by
  obtain ⟨k, rfl⟩ := Nat.exists_eq_add_of_le h
  rw [window_add, List.drop_left' length_window, Nat.add_sub_cancel_left]

/-- A window that does not go round is a stretch. -/
theorem window_eq_stretch (h : start + len ≤ N) : window N f start len = stretch f start len := by
  apply List.map_congr_left
  intro k hk
  have hlt : start + k < N := by
    have := List.mem_range.mp hk
    omega
  rw [Nat.mod_eq_of_lt hlt]

/-- What is stored is there. -/
theorem stretch_store : stretch (store f start items) start items.length = items := by
  apply List.ext_getElem (by simp)
  intro k _ hk
  simp [stretch, store, hk]

/-- A stretch can be cut anywhere. -/
theorem stretch_add (m n : ℕ) : stretch f start (m + n) = stretch f start m ++ stretch f (start + m) n := by
  simp only [stretch, List.range_add, List.map_append, List.map_map]
  congr 1
  apply List.map_congr_left
  intro k _
  simp only [Function.comp_apply, Nat.add_assoc]

theorem take_stretch (h : n ≤ len) : (stretch f start len).take n = stretch f start n := by
  obtain ⟨k, rfl⟩ := Nat.exists_eq_add_of_le h
  rw [stretch_add, List.take_left' length_stretch]

theorem drop_stretch (h : n ≤ len) : (stretch f start len).drop n = stretch f (start + n) (len - n) := by
  obtain ⟨k, rfl⟩ := Nat.exists_eq_add_of_le h
  rw [stretch_add, List.drop_left' length_stretch, Nat.add_sub_cancel_left]

/-- What is stored behind a stretch, or before it, leaves it alone. -/
theorem stretch_store_of_disjoint {offset : ℕ} (h : start + len ≤ offset ∨ offset + items.length ≤ start) :
    stretch (store f offset items) start len = stretch f start len := by
  apply List.map_congr_left
  intro k hk
  have hk := List.mem_range.mp hk
  unfold store
  split
  · have hnone : items[start + k - offset]? = none := List.getElem?_eq_none (by omega)
    rw [hnone, Option.getD_none]
  · rfl

/-- What is stored inside a stretch replaces what was there. -/
theorem stretch_store_inside (h : n + items.length ≤ len) :
    stretch (store f (start + n) items) start len =
      stretch f start n ++ items ++ stretch f (start + (n + items.length)) (len - (n + items.length)) := by
  obtain ⟨k, rfl⟩ := Nat.exists_eq_add_of_le h
  rw [stretch_add, stretch_add, stretch_store, stretch_store_of_disjoint (.inl (Nat.le_refl _)),
    stretch_store_of_disjoint (.inr (by omega)), Nat.add_sub_cancel_left]

/-- A window is left alone by what is stored outside of it. -/
theorem window_store_of_disjoint {offset : ℕ}
    (h : ∀ k < len, (start + k) % N < offset ∨ offset + items.length ≤ (start + k) % N) :
    window N (store f offset items) start len = window N f start len := by
  apply List.map_congr_left
  intro k hk
  have hout := h k (List.mem_range.mp hk)
  unfold store
  split
  · have hnone : items[(start + k) % N - offset]? = none := List.getElem?_eq_none (by omega)
    rw [hnone, Option.getD_none]
  · rfl

/-- The place behind a window is not in it, as long as there is room. -/
theorem outside_window (hstart : start < N) (hroom : len + n ≤ N) {k : ℕ} (hk : k < len) :
    (start + k) % N < (start + len) % N ∨ (start + len) % N + n ≤ (start + k) % N := by
  by_cases hwrap : start + len < N
  · left
    rw [Nat.mod_eq_of_lt hwrap, Nat.mod_eq_of_lt (by omega)]
    omega
  · have hlen : (start + len) % N = start + len - N := by
      rw [Nat.mod_eq_sub_mod (by omega), Nat.mod_eq_of_lt (by omega)]
    rw [hlen]
    by_cases hk' : start + k < N
    · right
      rw [Nat.mod_eq_of_lt hk']
      omega
    · left
      rw [Nat.mod_eq_sub_mod (by omega), Nat.mod_eq_of_lt (by omega)]
      omega

/-- **What is stored behind a window joins it.** -/
theorem window_store_append (hstart : start < N) (hroom : len + items.length ≤ N)
    (hend : (start + len) % N + items.length ≤ N) :
    window N (store f ((start + len) % N) items) start (len + items.length) =
      window N f start len ++ items := by
  rw [window_add, window_eq_stretch hend, stretch_store, window_store_of_disjoint]
  intro k hk
  exact outside_window hstart hroom hk

end Circular
