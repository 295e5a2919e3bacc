import L4lb.Effect.Prog
import Mathlib.Data.List.Infix

/-!
# Programs that return

When the surroundings keep to what is allowed of their answers, a program returns after so many
of them. `Total Ok m s n Q` says that of `m` from `s`: on any script of allowed answers that is
long enough, `m` uses `n` of them at most and returns, in `Q`.

The rules are those of `Runs`, with the answers counted; a loop takes a measure that each pass
makes smaller.
-/

namespace Effect

open Prog

variable {C : Type} {A : C → Type} {σ ε ε' α β ι : Type}

/-- `m` from `s`, given answers that `Ok` allows, returns after `n` of them at most, in `Q`. -/
def Total (Ok : Answerer C A → Prop) (m : Prog C A σ ε α) (s : σ) (n : ℕ) (Q : α → σ → Prop) : Prop :=
  ∀ script, (∀ answer ∈ script, Ok answer) → n ≤ script.length →
    ∃ a rest s', m ⟨script, s⟩ = (.ok a, ⟨rest, s'⟩) ∧ rest <:+ script ∧ script.length ≤ rest.length + n ∧ Q a s'

namespace Total

variable {Ok : Answerer C A → Prop} {m : Prog C A σ ε α} {f : α → Prog C A σ ε β} {s : σ} {n k : ℕ}
  {Q : α → σ → Prop} {R : β → σ → Prop}

theorem mono {Q' : α → σ → Prop} (h : Total Ok m s n Q) (hn : n ≤ k) (hQ : ∀ a s', Q a s' → Q' a s') :
    Total Ok m s k Q' := by
  intro script hok hlength
  obtain ⟨a, rest, s', hm, hrest, hused, hq⟩ := h script hok (hn.trans hlength)
  exact ⟨a, rest, s', hm, hrest, by omega, hQ a s' hq⟩

theorem post {Q' : α → σ → Prop} (h : Total Ok m s n Q) (hQ : ∀ a s', Q a s' → Q' a s') : Total Ok m s n Q' :=
  h.mono le_rfl hQ

/-- When less is allowed of the answers. -/
theorem allowed {Ok' : Answerer C A → Prop} (h : Total Ok m s n Q) (himp : ∀ answer, Ok' answer → Ok answer) :
    Total Ok' m s n Q := fun script hok hlength => h script (fun answer hmem => himp answer (hok answer hmem)) hlength

/-- What two proofs say of the same runs. -/
theorem both {R : α → σ → Prop} (h : Total Ok m s n Q) (h' : Total Ok m s k R) :
    Total Ok m s (max n k) fun a s' => Q a s' ∧ R a s' := by
  intro script hok hlength
  obtain ⟨a, rest, s', hm, hrest, hused, hq⟩ := h script hok (by omega)
  obtain ⟨b, rest', s'', hm', _, _, hr⟩ := h' script hok (by omega)
  rw [hm] at hm'
  cases hm'
  exact ⟨a, rest, s', hm, hrest, by omega, hq, hr⟩

/-- If some answer is allowed, then there is a run. -/
theorem exists_run (h : Total Ok m s n Q) {answer : Answerer C A} (hok : Ok answer) : ∃ a s', Q a s' := by
  obtain ⟨a, _, s', _, _, _, hq⟩ := h (List.replicate n answer)
    (fun other hmem => List.eq_of_mem_replicate hmem ▸ hok) (by simp)
  exact ⟨a, s', hq⟩

protected theorem pure {a : α} (h : Q a s) : Total Ok (pure a : Prog C A σ ε α) s n Q := fun script _ _ =>
  ⟨a, script, s, rfl, List.suffix_rfl, by omega, h⟩

protected theorem modify {g : σ → σ} {Q : Unit → σ → Prop} (h : Q () (g s)) :
    Total Ok (Prog.modify g : Prog C A σ ε Unit) s n Q := fun script _ _ =>
  ⟨(), script, g s, rfl, List.suffix_rfl, by omega, h⟩

/-- One after the other. -/
protected theorem bind (hm : Total Ok m s n Q) (hf : ∀ a s', Q a s' → Total Ok (f a) s' k R) :
    Total Ok (m >>= f) s (n + k) R := by
  intro script hok hlength
  obtain ⟨a, rest, s', hrun, hrest, hused, hq⟩ := hm script hok (by omega)
  obtain ⟨b, rest', s'', hrun', hrest', hused', hr⟩ :=
    hf a s' hq rest (fun answer h => hok answer (hrest.subset h)) (by omega)
  exact ⟨b, rest', s'', by rw [run_bind, hrun]; exact hrun', hrest'.trans hrest, by omega, hr⟩

theorem get_bind {f : σ → Prog C A σ ε β} (h : Total Ok (f s) s n R) : Total Ok (Prog.get >>= f) s n R := h

theorem gets_bind {g : σ → α} (h : Total Ok (f (g s)) s n R) : Total Ok (Prog.gets g >>= f) s n R := h

theorem modify_bind {g : σ → σ} {f : Unit → Prog C A σ ε β} (h : Total Ok (f ()) (g s) n R) :
    Total Ok (Prog.modify g >>= f) s n R := h

theorem pure_bind {a : α} (h : Total Ok (f a) s n R) : Total Ok (pure a >>= f) s n R := h

/-- A call, of which an allowed answer is known. -/
theorem call_bind {c : C} {f : A c → Prog C A σ ε β} (h : ∀ answer, Ok answer → Total Ok (f (answer c)) s n R) :
    Total Ok (Prog.call c >>= f) s (n + 1) R := by
  intro script hok hlength
  cases script with
  | nil => simp at hlength
  | cons answer rest =>
    obtain ⟨b, rest', s', hrun, hrest, hused, hr⟩ := h answer (hok answer List.mem_cons_self) rest
      (fun answer h => hok answer (List.mem_cons_of_mem _ h)) (by simpa using hlength)
    refine ⟨b, rest', s', ?_, hrest.trans (List.suffix_cons answer rest), ?_, hr⟩
    · rw [run_bind, run_call_cons]
      exact hrun
    · rw [List.length_cons]
      omega

protected theorem ite {c : Prop} [Decidable c] {m₁ m₂ : Prog C A σ ε α} (h₁ : c → Total Ok m₁ s n Q)
    (h₂ : ¬ c → Total Ok m₂ s n Q) : Total Ok (if c then m₁ else m₂) s n Q := by
  by_cases h : c
  · rw [if_pos h]
    exact h₁ h
  · rw [if_neg h]
    exact h₂ h

protected theorem when {c : Prop} [Decidable c] {m : Prog C A σ ε Unit} {Q : Unit → σ → Prop}
    (h₁ : c → Total Ok m s n Q) (h₂ : ¬ c → Q () s) : Total Ok (Prog.when c m) s n Q :=
  Total.ite h₁ fun h => Total.pure (h₂ h)

/-- What returns throws nothing to handle. -/
protected theorem handle {h : ε → Prog C A σ ε' α} (hm : Total Ok m s n Q) : Total Ok (Prog.handle m h) s n Q := by
  intro script hok hlength
  obtain ⟨a, rest, s', hrun, hrest, hused, hq⟩ := hm script hok hlength
  exact ⟨a, rest, s', by rw [Prog.handle, hrun], hrest, hused, hq⟩

/-- A pass over a list keeps what the body keeps, with `k` answers for each item. -/
protected theorem forEach {body : ι → Prog C A σ ε Bool} (I : σ → Prop) (xs : List ι)
    (hbody : ∀ x ∈ xs, ∀ s, I s → Total Ok (body x) s k fun _ s' => I s') (h : I s) :
    Total Ok (Prog.forEach body xs) s (xs.length * k) fun _ s' => I s' := by
  induction xs generalizing s with
  | nil => exact Total.pure h
  | cons x xs ih =>
    have hlength : (x :: xs).length * k = k + xs.length * k := by
      rw [List.length_cons, Nat.succ_mul, Nat.add_comm]
    rw [hlength]
    refine Total.bind (hbody x List.mem_cons_self s h) fun go s' hI => ?_
    exact Total.ite (fun _ => ih (fun y hy => hbody y (List.mem_cons_of_mem x hy)) hI) fun _ => Total.pure hI

/-- A pass over the numbers below `n`: `I` says what holds after those gone through. -/
theorem forEach_range {body : ℕ → Prog C A σ ε Bool} (I : ℕ → σ → Prop) (n : ℕ)
    (hbody : ∀ x < n, ∀ s, I x s → Total Ok (body x) s k fun go s' => go = true ∧ I (x + 1) s') (h : I 0 s) :
    Total Ok (Prog.forEach body (List.range n)) s (n * k) fun _ s' => I n s' := by
  suffices hrest : ∀ m x s, x + m = n → I x s →
      Total Ok (Prog.forEach body (List.range' x m)) s (m * k) fun _ s' => I n s' by
    rw [List.range_eq_range']
    exact hrest n 0 s (Nat.zero_add n) h
  intro m
  induction m with
  | zero =>
    intro x s hx hI
    exact Total.pure (by rwa [← hx])
  | succ m ih =>
    intro x s hx hI
    rw [Nat.succ_mul, Nat.add_comm (m * k) k, List.range'_succ]
    refine Total.bind (hbody x (by omega) s hI) fun go s' hgo => ?_
    rw [hgo.1]
    exact ih (x + 1) s' (by omega) hgo.2

/-- A loop whose passes make `measure` smaller. -/
theorem loopFor {body : β → Prog C A σ ε (β ⊕ α)} (I : σ → Prop) (measure : σ → ℕ)
    (hbody : ∀ b s, I s → Total Ok (body b) s k fun r s' =>
      match r with
      | .inl _ => I s' ∧ measure s' < measure s
      | .inr a => Q a s') :
    ∀ (m : ℕ) (b : β) (s : σ), I s → measure s < m → Total Ok (Prog.loopFor body m b) s (k * (measure s + 1)) Q := by
  intro m
  induction m with
  | zero => intro b s _ hm; omega
  | succ m ih =>
    intro b s hI hm
    have hcost : k * (measure s + 1) = k + k * measure s := by rw [Nat.mul_succ, Nat.add_comm]
    rw [hcost]
    refine Total.bind (hbody b s hI) fun r s' hr => ?_
    cases r with
    | inl b' =>
      refine (ih b' s' hr.1 (by omega)).mono ?_ fun _ _ h => h
      exact Nat.mul_le_mul_left k hr.2
    | inr a => exact Total.pure hr

protected theorem loop {body : β → Prog C A σ ε (β ⊕ α)} {b : β} (I : σ → Prop) (measure : σ → ℕ)
    (hbody : ∀ b s, I s → Total Ok (body b) s k fun r s' =>
      match r with
      | .inl _ => I s' ∧ measure s' < measure s
      | .inr a => Q a s') (h : I s) (hk : 0 < k) :
    Total Ok (Prog.loop body b) s (k * (measure s + 1)) Q := by
  intro script hok hlength
  have hpasses : measure s < script.length + 1 := by
    have := Nat.le_mul_of_pos_left (measure s + 1) hk
    omega
  exact loopFor I measure hbody (script.length + 1) b s h hpasses script hok hlength

end Total

end Effect
