import Mathlib.Data.List.Infix

/-!
# The health state machine

`HealthState.h`: two successes in a row make a backend healthy, three failures in a
row make it unhealthy, and nothing else changes its status.

## What is proved

* `HealthState.Counted` — the counters a run of results leaves: never both nonzero,
  at most 2 and 3.
* `HealthState.run_status_healthy_iff` — a backend is healthy exactly when the last
  two successes in a row come later than the last three failures in a row.
-/

namespace L4lb.Health

/-- `HealthStatus`. -/
inductive HealthStatus where
  /-- `kUnknown`. -/
  | unknown
  /-- `kHealthy`. -/
  | healthy
  /-- `kUnhealthy`. -/
  | unhealthy
  deriving DecidableEq, Repr

/-- `HealthState`: the status, and how many results of one kind came last. -/
structure HealthState where
  /-- The status. -/
  status : HealthStatus := .unknown
  /-- Successes in a row. -/
  successes : ℕ := 0
  /-- Failures in a row. -/
  failures : ℕ := 0
  deriving DecidableEq, Repr

namespace HealthState

/-- `applyProbeResult`: whether the status changed, and the state after the result. -/
def applyProbeResult (h : HealthState) (success : Bool) : Bool × HealthState :=
  let after : HealthState :=
    if success then
      let successes := min (h.successes + 1) 2
      ⟨if successes = 2 then .healthy else h.status, successes, 0⟩
    else
      let failures := min (h.failures + 1) 3
      ⟨if failures = 3 then .unhealthy else h.status, 0, failures⟩
  (h.status ≠ after.status, after)

/-- The state after a sequence of results, oldest first. -/
def run (h : HealthState) (results : List Bool) : HealthState :=
  results.foldl (fun h success => (h.applyProbeResult success).2) h

@[simp] theorem run_nil (h : HealthState) : h.run [] = h := rfl

theorem run_append (h : HealthState) (xs ys : List Bool) : h.run (xs ++ ys) = (h.run xs).run ys :=
  List.foldl_append ..

theorem run_concat (h : HealthState) (xs : List Bool) (b : Bool) :
    h.run (xs ++ [b]) = ((h.run xs).applyProbeResult b).2 := by
  rw [run_append]
  rfl

/-- The counters: at most one kind is counted, up to its threshold. -/
structure Counted (h : HealthState) : Prop where
  /-- Successes are counted up to 2. -/
  successes_le : h.successes ≤ 2
  /-- Failures are counted up to 3. -/
  failures_le : h.failures ≤ 3
  /-- Never both. -/
  exclusive : h.successes = 0 ∨ h.failures = 0

theorem counted_init : Counted {} := ⟨by decide, by decide, Or.inl rfl⟩

/-- A result leaves the counters within their bounds, whatever they were. -/
theorem counted_apply (h : HealthState) (b : Bool) : Counted (h.applyProbeResult b).2 := by
  cases b
  · exact ⟨Nat.zero_le _, min_le_right _ _, Or.inl rfl⟩
  · exact ⟨min_le_right _ _, Nat.zero_le _, Or.inr rfl⟩

/-! ### What the last results decide -/

/-- The run `pattern` ends at place `k` of the results. -/
def EndsAt (pattern results : List Bool) (k : ℕ) : Prop :=
  k ≤ results.length ∧ pattern <:+ results.take k

/-- The last two successes in a row come later than the last three failures in a row. -/
def LastlyUp (results : List Bool) : Prop :=
  ∃ k, EndsAt [true, true] results k ∧ ∀ j, EndsAt [false, false, false] results j → j < k

/-- How many of the last results are `b`. -/
def streak (b : Bool) (results : List Bool) : ℕ := (results.reverse.takeWhile (· == b)).length

@[simp] theorem streak_concat_self (b : Bool) (xs : List Bool) :
    streak b (xs ++ [b]) = streak b xs + 1 := by
  simp [streak]

@[simp] theorem streak_concat_ne {a b : Bool} (h : a ≠ b) (xs : List Bool) :
    streak b (xs ++ [a]) = 0 := by
  simp [streak, h]

/-- A streak of `n` is a suffix of `n`. -/
theorem replicate_suffix_iff (b : Bool) (n : ℕ) (xs : List Bool) :
    List.replicate n b <:+ xs ↔ n ≤ streak b xs := by
  induction xs using List.reverseRecOn generalizing n with
  | nil => simp [streak, List.replicate_eq_nil_iff]
  | append_singleton xs a ih =>
    cases n with
    | zero => simp
    | succ n =>
      rw [List.replicate_succ', List.suffix_concat_iff]
      simp only [List.append_eq_nil_iff, List.cons_ne_nil, and_false, false_or]
      by_cases hab : a = b
      · subst hab
        rw [streak_concat_self, Nat.add_le_add_iff_right, ← ih]
        constructor
        · rintro ⟨t, ht, hs⟩
          rw [List.append_inj_left' ht rfl]
          exact hs
        · exact fun h => ⟨_, rfl, h⟩
      · rw [streak_concat_ne hab]
        constructor
        · rintro ⟨t, ht, -⟩
          have := List.append_inj_right' ht rfl
          simp only [List.cons.injEq, and_true] at this
          exact absurd this.symm hab
        · omega

theorem endsAt_concat_iff (p xs : List Bool) (b : Bool) (k : ℕ) :
    EndsAt p (xs ++ [b]) k ↔ EndsAt p xs k ∨ k = xs.length + 1 ∧ p <:+ xs ++ [b] := by
  unfold EndsAt
  rw [List.length_append, List.length_singleton]
  rcases Nat.lt_or_ge xs.length k with hk | hk
  · constructor
    · rintro ⟨hle, hs⟩
      have hk' : k = xs.length + 1 := by omega
      subst hk'
      rw [List.take_of_length_le (by simp)] at hs
      exact Or.inr ⟨rfl, hs⟩
    · rintro (⟨hle, -⟩ | ⟨rfl, hs⟩)
      · omega
      · rw [List.take_of_length_le (by simp)]
        exact ⟨le_rfl, hs⟩
  · rw [List.take_append_of_le_length hk]
    constructor
    · exact fun h => Or.inl ⟨hk, h.2⟩
    · rintro (h | ⟨rfl, -⟩)
      · exact ⟨by omega, h.2⟩
      · omega

/-- A success makes the last results two in a row, or leaves what they were. -/
theorem lastlyUp_concat_true (xs : List Bool) :
    LastlyUp (xs ++ [true]) ↔ 2 ≤ streak true xs + 1 ∨ LastlyUp xs := by
  have hup : [true, true] <:+ xs ++ [true] ↔ 2 ≤ streak true xs + 1 := by
    rw [show [true, true] = List.replicate 2 true from rfl, replicate_suffix_iff, streak_concat_self]
  have hdown : ¬ [false, false, false] <:+ xs ++ [true] := by
    rw [show [false, false, false] = List.replicate 3 false from rfl, replicate_suffix_iff,
      streak_concat_ne (by decide)]
    decide
  constructor
  · rintro ⟨k, hk, hj⟩
    rcases (endsAt_concat_iff _ _ _ _).mp hk with hk | ⟨-, hs⟩
    · exact Or.inr ⟨k, hk, fun j h => hj j ((endsAt_concat_iff _ _ _ _).mpr (Or.inl h))⟩
    · exact Or.inl (hup.mp hs)
  · rintro (h | ⟨k, hk, hj⟩)
    · refine ⟨xs.length + 1, (endsAt_concat_iff _ _ _ _).mpr (Or.inr ⟨rfl, hup.mpr h⟩), fun j h => ?_⟩
      rcases (endsAt_concat_iff _ _ _ _).mp h with h | ⟨-, hs⟩
      · exact Nat.lt_succ_of_le h.1
      · exact absurd hs hdown
    · refine ⟨k, (endsAt_concat_iff _ _ _ _).mpr (Or.inl hk), fun j h => ?_⟩
      rcases (endsAt_concat_iff _ _ _ _).mp h with h | ⟨-, hs⟩
      · exact hj j h
      · exact absurd hs hdown

/-- A failure makes the last results three in a row, or leaves what they were. -/
theorem lastlyUp_concat_false (xs : List Bool) :
    LastlyUp (xs ++ [false]) ↔ ¬ 3 ≤ streak false xs + 1 ∧ LastlyUp xs := by
  have hup : ¬ [true, true] <:+ xs ++ [false] := by
    rw [show [true, true] = List.replicate 2 true from rfl, replicate_suffix_iff,
      streak_concat_ne (by decide)]
    decide
  have hdown : [false, false, false] <:+ xs ++ [false] ↔ 3 ≤ streak false xs + 1 := by
    rw [show [false, false, false] = List.replicate 3 false from rfl, replicate_suffix_iff,
      streak_concat_self]
  constructor
  · rintro ⟨k, hk, hj⟩
    rcases (endsAt_concat_iff _ _ _ _).mp hk with hk | ⟨-, hs⟩
    · refine ⟨fun h => ?_, k, hk, fun j h => hj j ((endsAt_concat_iff _ _ _ _).mpr (Or.inl h))⟩
      have := hj _ ((endsAt_concat_iff _ _ _ _).mpr (Or.inr ⟨rfl, hdown.mpr h⟩))
      have := hk.1
      omega
    · exact absurd hs hup
  · rintro ⟨hn, k, hk, hj⟩
    refine ⟨k, (endsAt_concat_iff _ _ _ _).mpr (Or.inl hk), fun j h => ?_⟩
    rcases (endsAt_concat_iff _ _ _ _).mp h with h | ⟨-, hs⟩
    · exact hj j h
    · exact absurd (hdown.mp hs) hn

theorem not_lastlyUp_nil : ¬ LastlyUp [] := by
  rintro ⟨k, ⟨-, h⟩, -⟩
  simp at h

/-- What a run of results leaves: the counters count the last streak, and the status is
healthy when the results are lastly up. -/
theorem run_spec (xs : List Bool) :
    (run {} xs).successes = min (streak true xs) 2 ∧ (run {} xs).failures = min (streak false xs) 3 ∧
      ((run {} xs).status = .healthy ↔ LastlyUp xs) := by
  induction xs using List.reverseRecOn with
  | nil => exact ⟨rfl, rfl, by simp [not_lastlyUp_nil]⟩
  | append_singleton xs b ih =>
    obtain ⟨hs, hf, hst⟩ := ih
    rw [run_concat]
    cases b with
    | true =>
      rw [streak_concat_self, streak_concat_ne (by decide), lastlyUp_concat_true]
      refine ⟨?_, rfl, ?_⟩
      · simp only [applyProbeResult, if_true, hs]
        omega
      · simp only [applyProbeResult, if_true, hs]
        split_ifs with h
        · simp only [true_iff]
          left
          omega
        · rw [hst]
          have : ¬ 2 ≤ streak true xs + 1 := by omega
          simp [this]
    | false =>
      rw [streak_concat_self, streak_concat_ne (by decide), lastlyUp_concat_false]
      refine ⟨rfl, ?_, ?_⟩
      · simp only [applyProbeResult, Bool.false_eq_true, if_false, hf]
        omega
      · simp only [applyProbeResult, Bool.false_eq_true, if_false, hf]
        split_ifs with h
        · have : 3 ≤ streak false xs + 1 := by omega
          simp [this]
        · rw [hst]
          have : ¬ 3 ≤ streak false xs + 1 := by omega
          simp [this]

/-- **Healthy, exactly when the last two successes in a row come later than the last
three failures in a row.** -/
theorem run_status_healthy_iff (xs : List Bool) :
    (run {} xs).status = .healthy ↔ LastlyUp xs := (run_spec xs).2.2

/-- Whatever results came, the counters stay in their bounds. -/
theorem counted_run (xs : List Bool) : Counted (run {} xs) := by
  induction xs using List.reverseRecOn with
  | nil => exact counted_init
  | append_singleton xs b ih =>
    rw [run_concat]
    exact counted_apply _ b

end HealthState

end L4lb.Health
