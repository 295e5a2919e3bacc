import Mathlib.Data.List.Forall2

/-!
# Programs call by call

A program that runs to its end whatever it is answered, as the tree of its calls: it
has returned, or it makes a call and goes on with the answer. Where `Prog` runs a
program at once, a `Tree` can be run a call at a time, between the calls of others,
or handed to anything that answers calls.

* `Tree.run h` — the run of a tree by itself, its calls answered by `h`, which may
  refuse one.
* `Tree.Uses P` — every call it can come to make is in `P`.
* `Tree.Always step I Q` — however its calls are answered, by any `step`, the state stays
  in `I` and the tree ends in `Q`.
* `Tree.Ends step` — one way its calls can be answered, and how it ends then; `Tree.play` is such
  a way, for given answers.
-/

namespace Effect

/-- A program of calls `c : C`, answered in `A c`. -/
inductive Tree (C : Type) (A : C → Type) (α : Type) where
  /-- It returns. -/
  | ret (a : α)
  /-- It makes a call. -/
  | call (c : C) (k : A c → Tree C A α)

namespace Tree

variable {C : Type} {A : C → Type} {α β γ σ : Type}

/-- One after the other. -/
def bind : Tree C A α → (α → Tree C A β) → Tree C A β
  | ret a, f => f a
  | call c k, f => call c fun a => bind (k a) f

instance : Monad (Tree C A) where
  pure := ret
  bind := bind

/-- Make a call. -/
def ask (c : C) : Tree C A (A c) := call c ret

@[simp] theorem ret_bind (a : α) (f : α → Tree C A β) : (ret a : Tree C A α) >>= f = f a := rfl

@[simp] theorem pure_eq (a : α) : (pure a : Tree C A α) = ret a := rfl

@[simp] theorem call_bind (c : C) (k : A c → Tree C A α) (f : α → Tree C A β) :
    (call c k >>= f : Tree C A β) = call c fun a => k a >>= f := rfl

@[simp] theorem ask_bind (c : C) (f : A c → Tree C A β) : (ask c >>= f : Tree C A β) = call c f := rfl

/-- The first of several tests that holds, in order, decides. -/
def anyOf : List (Tree C A Bool) → Tree C A Bool
  | [] => pure false
  | test :: tests => do
    if ← test then pure true else anyOf tests

/-- The run of a tree by itself: `h` answers a call and changes the state, or refuses it. -/
def run (h : (c : C) → σ → Option (A c × σ)) : Tree C A α → σ → Option (α × σ)
  | ret a, s => some (a, s)
  | call c k, s => (h c s).bind fun r => (k r.1).run h r.2

variable {h : (c : C) → σ → Option (A c × σ)}

@[simp] theorem run_ret (a : α) (s : σ) : (ret a : Tree C A α).run h s = some (a, s) := rfl

@[simp] theorem run_pure (a : α) (s : σ) : (pure a : Tree C A α).run h s = some (a, s) := rfl

theorem run_bind (m : Tree C A α) (f : α → Tree C A β) (s : σ) :
    (m >>= f).run h s = (m.run h s).bind fun r => (f r.1).run h r.2 := by
  induction m generalizing s with
  | ret a => rfl
  | call c k ih =>
    rw [call_bind, run, run, Option.bind_assoc]
    exact congrArg _ (funext fun r => ih r.1 r.2)

/-- What a run has returned is handed on. -/
theorem run_bind_of {m : Tree C A α} {f : α → Tree C A β} {s s' : σ} {a : α}
    (hm : m.run h s = some (a, s')) : (m >>= f).run h s = (f a).run h s' := by
  rw [run_bind, hm]
  rfl

theorem run_map_of {m : Tree C A α} (f : α → β) {s s' : σ} {a : α} (hm : m.run h s = some (a, s')) :
    (f <$> m).run h s = some (f a, s') := run_bind_of hm

@[simp] theorem run_ask (c : C) (s : σ) : (ask c : Tree C A (A c)).run h s = h c s := by
  rw [ask, run]
  cases h c s <;> rfl

theorem run_ite (p : Prop) [Decidable p] (m m' : Tree C A α) (s : σ) :
    (if p then m else m').run h s = if p then m.run h s else m'.run h s := by
  split <;> rfl

/-- Tests that leave the state alone are an `or`. -/
theorem run_anyOf {s : σ} {tests : List (Tree C A Bool)} {bs : List Bool}
    (hall : List.Forall₂ (fun test b => test.run h s = some (b, s)) tests bs) :
    (anyOf tests).run h s = some (bs.any id, s) := by
  induction hall with
  | nil => rfl
  | @cons test b tests bs htest _ ih =>
    rw [anyOf, run_bind_of htest]
    cases b with
    | true => rfl
    | false => exact ih

/-- Folding with steps that leave the state alone is a fold. -/
theorem run_foldlM {f : β → α → Tree C A β} {g : β → α → β} {s : σ} {xs : List α} {b : β}
    (hall : ∀ b, ∀ x ∈ xs, (f b x).run h s = some (g b x, s)) :
    (xs.foldlM f b).run h s = some (xs.foldl g b, s) := by
  induction xs generalizing b with
  | nil => rfl
  | cons x xs ih =>
    rw [List.foldlM_cons, run_bind_of (hall b x List.mem_cons_self)]
    exact ih fun b y hy => hall b y (List.mem_cons_of_mem x hy)

/-! ### The calls of a tree -/

/-- Every call the tree can come to make is in `P`. -/
def Uses (P : C → Prop) : Tree C A α → Prop
  | ret _ => True
  | call c k => P c ∧ ∀ a, (k a).Uses P

@[simp] theorem uses_ret (P : C → Prop) (a : α) : (ret a : Tree C A α).Uses P := trivial

@[simp] theorem uses_pure (P : C → Prop) (a : α) : (pure a : Tree C A α).Uses P := trivial

theorem uses_ask {P : C → Prop} {c : C} (h : P c) : (ask c : Tree C A (A c)).Uses P :=
  ⟨h, fun _ => trivial⟩

theorem Uses.bind {P : C → Prop} {m : Tree C A α} {f : α → Tree C A β} (hm : m.Uses P)
    (hf : ∀ a, (f a).Uses P) : (m >>= f).Uses P := by
  induction m with
  | ret a => exact hf a
  | call c k ih => exact ⟨hm.1, fun a => ih a (hm.2 a)⟩

theorem Uses.map {P : C → Prop} {m : Tree C A α} (f : α → β) (hm : m.Uses P) : (f <$> m).Uses P :=
  hm.bind fun _ => trivial

theorem Uses.ite {P : C → Prop} {p : Prop} [Decidable p] {m m' : Tree C A α} (hm : m.Uses P)
    (hm' : m'.Uses P) : (if p then m else m').Uses P := by
  split
  · exact hm
  · exact hm'

theorem uses_anyOf {P : C → Prop} {tests : List (Tree C A Bool)} (h : ∀ test ∈ tests, test.Uses P) :
    (anyOf tests).Uses P := by
  induction tests with
  | nil => trivial
  | cons test tests ih =>
    refine (h test List.mem_cons_self).bind fun b => Uses.ite trivial ?_
    exact ih fun t ht => h t (List.mem_cons_of_mem test ht)

theorem uses_foldlM {P : C → Prop} {f : β → α → Tree C A β} (h : ∀ b a, (f b a).Uses P) (xs : List α)
    (b : β) : (xs.foldlM f b).Uses P := by
  induction xs generalizing b with
  | nil => trivial
  | cons x xs ih =>
    rw [List.foldlM_cons]
    exact (h b x).bind fun b' => ih b'

theorem uses_forM {P : C → Prop} {f : α → Tree C A Unit} (h : ∀ a, (f a).Uses P) (xs : List α) :
    (xs.forM f).Uses P := by
  induction xs with
  | nil => trivial
  | cons x xs ih => exact (h x).bind fun _ => ih

/-! ### Every way of answering -/

variable {step : (c : C) → σ → A c → σ → Prop} {I : σ → Prop}

/-- However the calls are answered, `I` stays and the tree ends in `Q`. -/
def Always (step : (c : C) → σ → A c → σ → Prop) (I : σ → Prop) (Q : α → σ → Prop) :
    Tree C A α → σ → Prop
  | ret a, s => Q a s
  | call c k, s => ∀ a s', step c s a s' → I s' ∧ (k a).Always step I Q s'

theorem Always.bind {m : Tree C A α} {f : α → Tree C A β} {Q : α → σ → Prop} {Q' : β → σ → Prop}
    {s : σ} (hm : m.Always step I Q s) (hf : ∀ a s', Q a s' → (f a).Always step I Q' s') :
    (m >>= f).Always step I Q' s := by
  induction m generalizing s with
  | ret a => exact hf a s hm
  | call c k ih =>
    intro a s' hstep
    obtain ⟨hI, hk⟩ := hm a s' hstep
    exact ⟨hI, ih a hk⟩

theorem Always.ask_bind {c : C} {f : A c → Tree C A β} {Q : β → σ → Prop} {s : σ}
    (h : ∀ a s', step c s a s' → I s' ∧ (f a).Always step I Q s') :
    (Tree.ask c >>= f).Always step I Q s := h

theorem Always.mono {m : Tree C A α} {Q Q' : α → σ → Prop} {s : σ} (hm : m.Always step I Q s)
    (h : ∀ a s', Q a s' → Q' a s') : m.Always step I Q' s := by
  induction m generalizing s with
  | ret a => exact h a s hm
  | call c k ih =>
    intro a s' hstep
    obtain ⟨hI, hk⟩ := hm a s' hstep
    exact ⟨hI, ih a hk⟩

/-- What every call that is made keeps, stays too. -/
theorem Always.keeping {m : Tree C A α} {P : C → Prop} {J : σ → Prop} {Q : α → σ → Prop} {s : σ}
    (hm : m.Always step I Q s) (huses : m.Uses P)
    (hstep : ∀ c s a s', P c → step c s a s' → J s → J s') (hJ : J s) :
    m.Always step (fun s' => I s' ∧ J s') (fun a s' => Q a s' ∧ J s') s := by
  induction m generalizing s with
  | ret a => exact ⟨hm, hJ⟩
  | call c k ih =>
    intro a s' hs
    obtain ⟨hI, hk⟩ := hm a s' hs
    have hJ' := hstep c s a s' huses.1 hs hJ
    exact ⟨⟨hI, hJ'⟩, ih a hk (huses.2 a) hJ'⟩

/-- Less may be asked of the points in between. -/
theorem Always.weaken {m : Tree C A α} {I' : σ → Prop} {Q : α → σ → Prop} {s : σ}
    (hm : m.Always step I Q s) (h : ∀ s, I s → I' s) : m.Always step I' Q s := by
  induction m generalizing s with
  | ret a => exact hm
  | call c k ih =>
    intro a s' hs
    obtain ⟨hI, hk⟩ := hm a s' hs
    exact ⟨h s' hI, ih a hk⟩

/-- One way of answering the calls: from `s` it ends with `b`, in `s'`. -/
def Ends (step : (c : C) → σ → A c → σ → Prop) : Tree C A α → σ → α → σ → Prop
  | ret a, s, b, s' => a = b ∧ s = s'
  | call c k, s, b, s' => ∃ a s₁, step c s a s₁ ∧ (k a).Ends step s₁ b s'

/-- What holds however the calls are answered holds of one way. -/
theorem Always.ends {m : Tree C A α} {Q : α → σ → Prop} {s s' : σ} {b : α}
    (hm : m.Always step I Q s) (h : m.Ends step s b s') : Q b s' := by
  induction m generalizing s with
  | ret a =>
    obtain ⟨rfl, rfl⟩ := h
    exact hm
  | call c k ih =>
    obtain ⟨a, s₁, hstep, hk⟩ := h
    exact ih a (hm a s₁ hstep).2 hk

/-- The calls are answered in turn by these, and what is left of them by `last`. -/
def play {ι : Type} (answer : ι → (c : C) → σ → A c × σ) (last : ι) : Tree C A α → List ι → σ → α × σ
  | ret a, _, s => (a, s)
  | call c k, turns, s =>
    let answered := answer (turns.headD last) c s
    (k answered.1).play answer last turns.tail answered.2

/-- To play is one way of answering the calls. -/
theorem ends_play {ι : Type} {answer : ι → (c : C) → σ → A c × σ} {last : ι} {turns : List ι}
    (h : ∀ turn ∈ last :: turns, ∀ c s, step c s (answer turn c s).1 (answer turn c s).2) (m : Tree C A α) (s : σ) :
    m.Ends step s (m.play answer last turns s).1 (m.play answer last turns s).2 := by
  induction m generalizing turns s with
  | ret a => exact ⟨rfl, rfl⟩
  | call c k ih =>
    cases turns with
    | nil => exact ⟨_, _, h last List.mem_cons_self c s, ih _ h _⟩
    | cons turn turns =>
      refine ⟨_, _, h turn (List.mem_cons_of_mem _ List.mem_cons_self) c s, ih _ (fun t ht => h t ?_) _⟩
      exact (List.mem_cons.mp ht).elim (fun he => he ▸ List.mem_cons_self) fun ht =>
        List.mem_cons_of_mem _ (List.mem_cons_of_mem _ ht)

end Tree

end Effect
