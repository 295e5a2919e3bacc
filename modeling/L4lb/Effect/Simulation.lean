import L4lb.Effect.Checklist

/-!
# Programs that do what other programs do

A program simulates another when each of its runs is a run of the other: in some surroundings the
other ends the same way, in a state that goes with the state the one has come to.

## The model

* `Simulates R f m w m' t` — the run of `m` from `w` is a run of `m'` from `t`; `R` says which
  states go together, and `f` renames what is thrown.
* `Spends n m` — a run of `m` that returns `a` has used `n a` answers at least.
* `Leads perform w₀` — where calls that are performed by programs have led from `w₀`, and what
  they were answered.

## What is proved

The rules of `Simulates` for each construct. The one of a loop asks that each pass which goes on has
used an answer (`Simulates.loop`). Where calls are performed by programs, to perform a call is to
make it, and record it (`Leads.simulates`).
-/

namespace Effect

open Prog

variable {C C' : Type} {A : C → Type} {A' : C' → Type} {σ τ ε ε' α β ι : Type}

/-! ### Answers that are used -/

/-- What returns `a` has used `n a` answers at least. -/
def Spends (n : α → ℕ) (m : Prog C A σ ε α) : Prop :=
  ∀ w a w', m w = (.ok a, w') → w'.script.length + n a ≤ w.script.length

/-- One answer to go on, none to leave. -/
def oneToGoOn : β ⊕ α → ℕ
  | .inl _ => 1
  | .inr _ => 0

theorem oneToGoOn_le (r : β ⊕ α) : oneToGoOn r ≤ 1 := by
  cases r with
  | inl b => exact Nat.le_refl 1
  | inr a => exact Nat.zero_le 1

/-- Nothing is given back. -/
abbrev Shrinks (m : Prog C A σ ε α) : Prop := Spends (fun _ => 0) m

namespace Spends

variable {n : α → ℕ} {k : β → ℕ} {m : Prog C A σ ε α} {f : α → Prog C A σ ε β}

protected theorem pure {a : α} (h : n a = 0) : Spends n (pure a : Prog C A σ ε α) := by
  intro w a' w' hrun
  cases hrun
  omega

protected theorem raise (e : ε) : Spends n (raise e : Prog C A σ ε α) := by
  intro w a w' hrun
  cases hrun

protected theorem call (c : C) : Shrinks (call c : Prog C A σ ε (A c)) := by
  rintro ⟨script, s⟩ a w' hrun
  cases script with
  | nil => cases hrun
  | cons r rest =>
    cases hrun
    exact Nat.le_succ _

protected theorem modify (g : σ → σ) : Shrinks (modify g : Prog C A σ ε Unit) := by
  intro w a w' hrun
  cases hrun
  exact Nat.le_refl _

protected theorem gets (g : σ → α) : Shrinks (gets g : Prog C A σ ε α) := by
  intro w a w' hrun
  cases hrun
  exact Nat.le_refl _

theorem get_bind {f : σ → Prog C A σ ε β} (h : ∀ s, Spends k (f s)) : Spends k (get >>= f) :=
  fun w => h w.state w

protected theorem bind (hm : Shrinks m) (hf : ∀ a, Spends k (f a)) : Spends k (m >>= f) := by
  intro w b w' hrun
  rw [run_bind] at hrun
  rcases hmw : m w with ⟨a | e | _, w₁⟩
  · rw [hmw] at hrun
    have := hm w a w₁ hmw
    have := hf a w₁ b w' hrun
    omega
  · rw [hmw] at hrun
    cases hrun
  · rw [hmw] at hrun
    cases hrun

/-- A call is an answer. -/
theorem call_bind {c : C} {f : A c → Prog C A σ ε β} (hk : ∀ b, k b ≤ 1) (hf : ∀ a, Shrinks (f a)) :
    Spends k (call c >>= f) := by
  rintro ⟨script, s⟩ b w' hrun
  cases script with
  | nil => cases hrun
  | cons r rest =>
    have hrest : w'.script.length + 0 ≤ rest.length := hf (r c) ⟨rest, s⟩ b w' hrun
    have := hk b
    show w'.script.length + k b ≤ rest.length + 1
    omega

protected theorem ite {c : Prop} [Decidable c] {m₁ m₂ : Prog C A σ ε α} (h₁ : Spends n m₁) (h₂ : Spends n m₂) :
    Spends n (if c then m₁ else m₂) := by
  by_cases h : c
  · rwa [if_pos h]
  · rwa [if_neg h]

protected theorem attempts {body : Prog C A σ ε (Option α)} (h : Shrinks body) (n : ℕ) :
    Shrinks (attempts body n) := by
  induction n with
  | zero => exact .pure rfl
  | succ n ih =>
    refine .bind h fun r => ?_
    cases r with
    | none => exact ih
    | some a => exact .pure rfl

/-- A pass that goes on has used an answer. -/
theorem consumes {body : β → Prog C A σ ε (β ⊕ α)} (h : ∀ b, Spends oneToGoOn (body b)) : Consumes body :=
  fun b w b' w' hrun => h b w (.inl b') w' hrun

end Spends

/-! ### The same runs -/

/-- With what is thrown renamed. -/
def Outcome.rename (f : ε' → ε) : Outcome ε' α → Outcome ε α
  | .ok a => .ok a
  | .thrown e => .thrown (f e)
  | .cut => .cut

theorem Outcome.rename_id (o : Outcome ε α) : o.rename id = o := by
  cases o with
  | ok a => rfl
  | thrown e => rfl
  | cut => rfl

/-- Given `used`, `m'` goes from `t` to `t'` and ends like this, whatever answers there are after them. -/
def Outcome.Follows (f : ε' → ε) (m' : Prog C' A' τ ε' α) (used : List (Answerer C' A')) (t t' : τ) :
    Outcome ε α → Prop
  | .ok a => ∀ rest, m' ⟨used ++ rest, t⟩ = (.ok a, ⟨rest, t'⟩)
  | .thrown e => ∃ e', f e' = e ∧ ∀ rest, m' ⟨used ++ rest, t⟩ = (.thrown e', ⟨rest, t'⟩)
  | .cut => m' ⟨used, t⟩ = (.cut, ⟨[], t'⟩)

/-- **The run of `m` from `w` is a run of `m'` from `t`.** -/
def Simulates (R : World C A σ → τ → Prop) (f : ε' → ε) (m : Prog C A σ ε α) (w : World C A σ)
    (m' : Prog C' A' τ ε' α) (t : τ) : Prop :=
  ∃ used t', R (m w).2 t' ∧ (m w).1.Follows f m' used t t'

namespace Simulates

variable {R : World C A σ → τ → Prop} {f : ε' → ε} {m : Prog C A σ ε α} {m' : Prog C' A' τ ε' α}
  {w : World C A σ} {t : τ}

/-- **What every run of `m'` comes to, the run of `m` comes to.** -/
theorem transfer {P : Outcome ε α → τ → Prop} (h : Simulates R f m w m' t)
    (hP : ∀ script, P ((m' ⟨script, t⟩).1.rename f) (m' ⟨script, t⟩).2.state) :
    ∃ t', R (m w).2 t' ∧ P (m w).1 t' := by
  obtain ⟨used, t', hR, hfollows⟩ := h
  refine ⟨t', hR, ?_⟩
  rcases hrun : (m w).1 with a | e | _
  · rw [hrun] at hfollows
    have := hP (used ++ [])
    rwa [hfollows []] at this
  · rw [hrun] at hfollows
    obtain ⟨e', rfl, hthrown⟩ := hfollows
    have := hP (used ++ [])
    rwa [hthrown []] at this
  · rw [hrun] at hfollows
    have := hP used
    rwa [show m' ⟨used, t⟩ = _ from hfollows] at this

protected theorem pure {a : α} (h : R w t) : Simulates R f (pure a) w (pure a : Prog C' A' τ ε' α) t :=
  ⟨[], t, h, fun _ => rfl⟩

protected theorem raise {e : ε'} (h : R w t) :
    Simulates R f (raise (f e) : Prog C A σ ε α) w (raise e : Prog C' A' τ ε' α) t :=
  ⟨[], t, h, e, rfl, fun _ => rfl⟩

/-- One after the other. -/
protected theorem bind {k : α → Prog C A σ ε β} {k' : α → Prog C' A' τ ε' β} (hm : Simulates R f m w m' t)
    (hk : ∀ a w' t', m w = (.ok a, w') → R w' t' → Simulates R f (k a) w' (k' a) t') :
    Simulates R f (m >>= k) w (m' >>= k') t := by
  obtain ⟨used, t', hR, hfollows⟩ := hm
  unfold Simulates
  rw [run_bind]
  rcases hmw : m w with ⟨a | e | _, w'⟩
  · rw [hmw] at hR hfollows
    obtain ⟨used', t'', hR', hfollows'⟩ := hk a w' t' hmw hR
    refine ⟨used ++ used', t'', hR', ?_⟩
    show (k a w').1.Follows f (m' >>= k') (used ++ used') t t''
    have hrun : ∀ rest, (m' >>= k') ⟨used ++ rest, t⟩ = k' a ⟨rest, t'⟩ := by
      intro rest
      rw [run_bind, hfollows]
    rcases hka : (k a w').1 with b | e | _
    · rw [hka] at hfollows'
      intro rest
      rw [List.append_assoc, hrun, hfollows']
    · rw [hka] at hfollows'
      obtain ⟨e', he, hthrown⟩ := hfollows'
      refine ⟨e', he, fun rest => ?_⟩
      rw [List.append_assoc, hrun, hthrown]
    · rw [hka] at hfollows'
      exact (hrun used').trans hfollows'
  · rw [hmw] at hR hfollows
    obtain ⟨e', he, hthrown⟩ := hfollows
    refine ⟨used, t', hR, e', he, fun rest => ?_⟩
    rw [run_bind, hthrown]
  · rw [hmw] at hR hfollows
    refine ⟨used, t', hR, ?_⟩
    show (m' >>= k') ⟨used, t⟩ = _
    rw [run_bind, show m' ⟨used, t⟩ = _ from hfollows]

theorem get_bind {k : σ → Prog C A σ ε β} {k' : τ → Prog C' A' τ ε' β} (h : Simulates R f (k w.state) w (k' t) t) :
    Simulates R f (get >>= k) w (get >>= k') t := h

/-- A change that the other does not make. -/
theorem modify_left {g : σ → σ} {k : Unit → Prog C A σ ε β} {m' : Prog C' A' τ ε' β}
    (h : Simulates R f (k ()) ⟨w.script, g w.state⟩ m' t) : Simulates R f (modify g >>= k) w m' t := h

/-- A change that the one does not make. -/
theorem modify_right {g : τ → τ} {m : Prog C A σ ε β} {k : Unit → Prog C' A' τ ε' β}
    (h : Simulates R f m w (k ()) (g t)) : Simulates R f m w (modify g >>= k) t := h

/-- A call that the other does not make. -/
theorem call_left {c : C} {k : A c → Prog C A σ ε β} {m' : Prog C' A' τ ε' β} {r : Answerer C A}
    {rest : List (Answerer C A)} {s : σ} (h : Simulates R f (k (r c)) ⟨rest, s⟩ m' t) :
    Simulates R f (call c >>= k) ⟨r :: rest, s⟩ m' t := h

/-- A call for a call. -/
theorem call_bind {c : C} {c' : C'} {k : A c → Prog C A σ ε β} {k' : A' c' → Prog C' A' τ ε' β} (hcut : R w t)
    (h : ∀ r rest, w.script = r :: rest →
      ∃ r' : Answerer C' A', Simulates R f (k (r c)) ⟨rest, w.state⟩ (k' (r' c')) t) :
    Simulates R f (call c >>= k) w (call c' >>= k') t := by
  obtain ⟨script, s⟩ := w
  cases script with
  | nil => exact ⟨[], t, hcut, rfl⟩
  | cons r rest =>
    obtain ⟨r', used, t', hR, hfollows⟩ := h r rest rfl
    refine ⟨r' :: used, t', hR, ?_⟩
    change (k (r c) ⟨rest, s⟩).1.Follows f (call c' >>= k') (r' :: used) t t'
    rcases hrun : (k (r c) ⟨rest, s⟩).1 with b | e | _
    · rw [hrun] at hfollows
      exact hfollows
    · rw [hrun] at hfollows
      exact hfollows
    · rw [hrun] at hfollows
      exact hfollows

protected theorem rethrow {R : World C A σ → τ → Prop} {w : World C A σ} {t : τ} (h : R w t) (failure : Option ε) :
    Simulates R id (rethrow failure) w (rethrow failure : Prog C' A' τ ε Unit) t := by
  cases failure with
  | none => exact .pure h
  | some e => exact .raise h

/-- Both branch the same way. -/
protected theorem ite {c : Prop} [Decidable c] {m₁ m₂ : Prog C A σ ε α} {m₁' m₂' : Prog C' A' τ ε' α}
    (h₁ : c → Simulates R f m₁ w m₁' t) (h₂ : ¬ c → Simulates R f m₂ w m₂' t) :
    Simulates R f (if c then m₁ else m₂) w (if c then m₁' else m₂') t := by
  by_cases h : c
  · rw [if_pos h, if_pos h]
    exact h₁ h
  · rw [if_neg h, if_neg h]
    exact h₂ h

/-- A pass over a list. -/
protected theorem forEach {body : ι → Prog C A σ ε Bool} {body' : ι → Prog C' A' τ ε' Bool}
    (hbody : ∀ x w t, R w t → Simulates R f (body x) w (body' x) t) (xs : List ι) (h : R w t) :
    Simulates R f (forEach body xs) w (forEach body' xs) t := by
  induction xs generalizing w t with
  | nil => exact .pure h
  | cons x xs ih => exact .bind (hbody x w t h) fun go w' t' _ hR => .ite (fun _ => ih hR) fun _ => .pure hR

/-- Counted passes. -/
protected theorem attempts {body : Prog C A σ ε (Option α)} {body' : Prog C' A' τ ε' (Option α)}
    (hbody : ∀ w t, R w t → Simulates R f body w body' t) (n : ℕ) (h : R w t) :
    Simulates R f (attempts body n) w (attempts body' n) t := by
  induction n generalizing w t with
  | zero => exact .pure h
  | succ n ih =>
    refine .bind (hbody w t h) fun r w' t' _ hR => ?_
    cases r with
    | none => exact ih hR
    | some a => exact .pure hR

/-- **A loop**, when each pass that goes on has used an answer. -/
protected theorem loop {body : β → Prog C A σ ε (β ⊕ α)} {body' : β → Prog C' A' τ ε' (β ⊕ α)}
    (hconsumes : Consumes body) (hconsumes' : Consumes body')
    (hbody : ∀ b w t, R w t → Simulates R f (body b) w (body' b) t) (b : β) (h : R w t) :
    Simulates R f (loop body b) w (loop body' b) t := by
  -- on the number of answers there are
  generalize hn : w.script.length = n
  induction n using Nat.strongRecOn generalizing b w t with
  | ind n ih =>
    rw [loop_eq hconsumes, loop_eq hconsumes']
    refine .bind (hbody b w t h) fun r w' t' hrun hR => ?_
    cases r with
    | inl b' => exact ih w'.script.length (hn ▸ hconsumes b w b' w' hrun) b' hR rfl
    | inr a => exact .pure hR

end Simulates

/-! ### Calls that are performed -/

/-- What `m` throws, if anything. -/
def failureOf (m : Prog C A σ ε Unit) : Prog C A σ ε (Option ε) :=
  handle (m >>= fun _ => pure none) fun e => pure (some e)

/-- What `m` returns or throws. -/
def resultOf (m : Prog C A σ ε α) : Prog C A σ ε (Except ε α) :=
  handle (m >>= fun a => pure (.ok a)) fun e => pure (.error e)

/-- Return, or throw. -/
def returnOrRaise : Except ε α → Prog C A σ ε α
  | .ok a => pure a
  | .error e => raise e

theorem failureOf_bind_rethrow (m : Prog C A σ ε Unit) : failureOf m >>= rethrow = m := by
  funext w
  rw [run_bind, failureOf, handle, run_bind]
  rcases m w with ⟨_ | e | _, w'⟩
  · rfl
  · rfl
  · rfl

theorem failureOf_bind (m : Prog C A σ ε Unit) (k : Unit → Prog C A σ ε β) :
    m >>= k = failureOf m >>= fun failure => rethrow failure >>= k := by
  rw [← bind_assoc, failureOf_bind_rethrow]

theorem resultOf_bind (m : Prog C A σ ε α) (k : α → Prog C A σ ε β) :
    m >>= k = resultOf m >>= fun result => returnOrRaise result >>= k := by
  funext w
  rw [run_bind, run_bind, resultOf, handle, run_bind]
  rcases m w with ⟨a | e | _, w'⟩
  · rfl
  · rfl
  · rfl

/-- Nothing is thrown. -/
def Caught (m : Prog C A σ ε α) : Prop := ∀ w e, (m w).1 ≠ .thrown e

theorem caught_failureOf (m : Prog C A σ ε Unit) : Caught (failureOf m) := by
  intro w e
  rw [failureOf, handle, run_bind]
  rcases m w with ⟨_ | e | _, w'⟩
  · simp
  · simp
  · simp

theorem caught_resultOf (m : Prog C A σ ε α) : Caught (resultOf m) := by
  intro w e
  rw [resultOf, handle, run_bind]
  rcases m w with ⟨a | e | _, w'⟩
  · simp
  · simp
  · simp

/-- The calls of `history`, last first, were performed one after the other from `w₀`, and answered as it says. -/
inductive Leads (perform : ∀ c, Prog C A σ ε (A' c)) (w₀ : World C A σ) :
    World C A σ → List (Exchange C' A') → Prop
  /-- None yet. -/
  | start : Leads perform w₀ w₀ []
  /-- One more. -/
  | next {w w' : World C A σ} {history : List (Exchange C' A')} {c : C'} {answer : A' c}
      (h : Leads perform w₀ w history) (hanswer : perform c w = (.ok answer, w')) :
      Leads perform w₀ w' (⟨c, answer⟩ :: history)
  /-- One is being performed. -/
  | during {w w' : World C A σ} {history : List (Exchange C' A')} {c : C'} (h : Leads perform w₀ w history)
      (hcut : perform c w = (.cut, w')) : Leads perform w₀ w' history

/-- Anything can be answered. -/
theorem exists_answerer [h : ∀ c, Nonempty (A' c)] (c : C') (answer : A' c) : ∃ r : Answerer C' A', r c = answer := by
  classical
  exact ⟨Function.update (fun c => (h c).some) c answer, Function.update_self ..⟩

/-- **To perform a call is to make it**, and record it. -/
theorem Leads.simulates [∀ c, Nonempty (A' c)] {perform : ∀ c, Prog C A σ ε (A' c)} (hcaught : ∀ c, Caught (perform c))
    {w₀ w : World C A σ} {history : List (Exchange C' A')} (h : Leads perform w₀ w history) (c : C') :
    Simulates (Leads perform w₀) id (perform c) w (exchange c) history := by
  unfold Simulates
  rcases hrun : perform c w with ⟨answer | e | _, w'⟩
  · obtain ⟨r, rfl⟩ := exists_answerer c answer
    exact ⟨[r], _, h.next hrun, fun _ => rfl⟩
  · exact absurd (by rw [hrun]) (hcaught c w e)
  · exact ⟨[], history, h.during hrun, rfl⟩

end Effect
