import Mathlib.Data.List.Basic
import Mathlib.Data.Nat.Cast.Order.Ring

/-!
# Ones' complement sums of 16 bits

The sum that IP checksums are of: numbers of 16 bits added with the carry brought
round. A sum of all ones is zero in ones' complement.

* `sum_eq_ones_iff` — the ones' complement sum is all ones when the plain sum is a
  positive multiple of `2^16 - 1`.
* `fold_fold_eq_ones_iff` — for a plain sum of up to 32 bits, bringing the carries
  round twice at the end decides the same.
-/

namespace OnesComplement

/-- All ones. -/
def ones : ℕ := 0xffff

/-- Add, and bring the carry round. -/
def add (a b : ℕ) : ℕ :=
  if a + b ≤ ones then a + b else a + b - ones

/-- The sum of a list of words. -/
def sum (words : List ℕ) : ℕ := words.foldl add 0

/-- The carries of a plain sum brought round once. -/
def fold (n : ℕ) : ℕ := n % 2 ^ 16 + n / 2 ^ 16

theorem add_le {a b : ℕ} (ha : a ≤ ones) (hb : b ≤ ones) : add a b ≤ ones := by
  unfold add
  split <;> omega

theorem add_mod (a b : ℕ) : add a b % ones = (a + b) % ones := by
  unfold add
  split
  · rfl
  · rw [← Nat.mod_eq_sub_mod (by omega)]

theorem add_eq_zero {a b : ℕ} : add a b = 0 ↔ a + b = 0 := by
  unfold add ones
  split <;> omega

/-- What the sum of a list has in common with its plain sum. -/
theorem foldl_add_spec {words : List ℕ} (hwords : ∀ w ∈ words, w ≤ ones) {a : ℕ} (ha : a ≤ ones) :
    words.foldl add a ≤ ones ∧ words.foldl add a % ones = (a + words.sum) % ones ∧
      (words.foldl add a = 0 ↔ a + words.sum = 0) := by
  induction words generalizing a with
  | nil => exact ⟨ha, rfl, Iff.rfl⟩
  | cons w words ih =>
    have hw := hwords w List.mem_cons_self
    obtain ⟨hle, hmod, hzero⟩ := ih (fun v hv => hwords v (List.mem_cons_of_mem w hv)) (add_le ha hw)
    refine ⟨hle, ?_, ?_⟩
    · rw [List.foldl_cons, hmod, Nat.add_mod, add_mod, ← Nat.add_mod, List.sum_cons, Nat.add_assoc]
    · rw [List.foldl_cons, hzero, List.sum_cons]
      have := add_eq_zero (a := a) (b := w)
      omega

/-- A number up to all ones is all ones when it is a positive multiple of it. -/
theorem eq_ones_iff {n : ℕ} (h : n ≤ ones) : n = ones ↔ n % ones = 0 ∧ n ≠ 0 := by
  unfold ones at *
  omega

theorem sum_eq_ones_iff {words : List ℕ} (hwords : ∀ w ∈ words, w ≤ ones) :
    sum words = ones ↔ words.sum % ones = 0 ∧ words.sum ≠ 0 := by
  obtain ⟨hle, hmod, hzero⟩ := foldl_add_spec hwords (Nat.zero_le ones)
  rw [sum, eq_ones_iff hle, hmod, Nat.zero_add, Ne, hzero, Nat.zero_add]

theorem fold_mod (n : ℕ) : fold n % ones = n % ones := by
  unfold fold ones
  omega

theorem fold_eq_zero (n : ℕ) : fold n = 0 ↔ n = 0 := by
  unfold fold
  omega

/-- Twice is enough for a sum of 32 bits. -/
theorem fold_fold_le {n : ℕ} (h : n < 2 ^ 32) : fold (fold n) ≤ ones := by
  unfold fold ones
  omega

/-- **Two folds of the plain sum decide the ones' complement sum.** -/
theorem fold_fold_eq_ones_iff {words : List ℕ} (hwords : ∀ w ∈ words, w ≤ ones)
    (h : words.sum < 2 ^ 32) : fold (fold words.sum) = ones ↔ sum words = ones := by
  rw [sum_eq_ones_iff hwords, eq_ones_iff (fold_fold_le h), fold_mod, fold_mod, Ne, fold_eq_zero,
    fold_eq_zero]

end OnesComplement
