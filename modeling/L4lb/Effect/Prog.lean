import Mathlib.Logic.Relation
import Mathlib.Data.List.Basic

/-!
# Programs that call out

An imperative program as a function of its state and of the answers its calls get.
Whatever a program asks of its surroundings (a system call, a callback, the clock)
is a `call`; the answers come from a script, one entry for each call made, and
nothing else in a run is open. A run whose script is used up is *cut*: it stops
where the next call would be made. So the runs over all scripts are the runs of
the program in any surroundings, each seen at any of its calls, and what holds of
the state after every run holds at every point of every run.

## The model

* `Prog C A σ ε α` — a program on states `σ` that calls `c : C`, is answered in
  `A c`, and ends with an `α`, by throwing an `ε`, or cut.
* `Prog.loop` — a loop whose body says whether to go on. It is given one pass more
  than there are answers left, which is every pass it can make when each pass
  makes a call (`loop_eq`).
* `Runs step E m s Q` — every run of `m` from `s` is a chain of `step`s, throws only
  what `E` allows, and ends, if it ends normally, in `Q`.

## What is proved

The rules of `Runs` for each construct, and `Runs.zoom`, which takes a program on
a part of the state to the whole.
-/

namespace Effect

open Relation

/-- How a run ends. -/
inductive Outcome (ε α : Type) where
  /-- It returned. -/
  | ok (a : α)
  /-- It threw. -/
  | thrown (e : ε)
  /-- The answers ran out. -/
  | cut
  deriving DecidableEq, Repr

/-- An entry of a script: the answer to whatever is called next. -/
abbrev Answerer (C : Type) (A : C → Type) := (c : C) → A c

/-- The state of a run, with the answers still to come. -/
structure World (C : Type) (A : C → Type) (σ : Type) where
  /-- The answers to come. -/
  script : List (Answerer C A)
  /-- The state. -/
  state : σ

/-- A program. -/
def Prog (C : Type) (A : C → Type) (σ ε α : Type) : Type :=
  World C A σ → Outcome ε α × World C A σ

variable {C : Type} {A : C → Type} {σ τ ε ε' α β ι : Type}

namespace Prog

instance : Monad (Prog C A σ ε) where
  pure a := fun w => (.ok a, w)
  bind m f := fun w =>
    match m w with
    | (.ok a, w') => f a w'
    | (.thrown e, w') => (.thrown e, w')
    | (.cut, w') => (.cut, w')

/-- Throw. -/
def raise (e : ε) : Prog C A σ ε α := fun w => (.thrown e, w)

/-- Catch what is thrown; a cut run stays cut. -/
def handle (m : Prog C A σ ε α) (h : ε → Prog C A σ ε' α) : Prog C A σ ε' α := fun w =>
  match m w with
  | (.ok a, w') => (.ok a, w')
  | (.thrown e, w') => h e w'
  | (.cut, w') => (.cut, w')

/-- Throw what there is to throw. -/
def rethrow : Option ε → Prog C A σ ε Unit
  | none => pure ()
  | some e => raise e

/-- Make a call. -/
def call (c : C) : Prog C A σ ε (A c) := fun w =>
  match w.script with
  | [] => (.cut, w)
  | r :: rest => (.ok (r c), { w with script := rest })

/-- Stop for good, as if no answer came. -/
def stuck : Prog C A σ ε α := fun w => (.cut, { w with script := [] })

/-- The state. -/
def get : Prog C A σ ε σ := fun w => (.ok w.state, w)

/-- Read something of the state. -/
def gets (f : σ → α) : Prog C A σ ε α := fun w => (.ok (f w.state), w)

/-- Change the state. -/
def modify (f : σ → σ) : Prog C A σ ε Unit := fun w => (.ok (), { w with state := f w.state })

/-- Run `m` if `c` holds. -/
def when (c : Prop) [Decidable c] (m : Prog C A σ ε Unit) : Prog C A σ ε Unit :=
  if c then m else pure ()

/-- `n` passes at most of a loop; `body` answers `.inl` to go on, `.inr` to leave. -/
def loopFor (body : β → Prog C A σ ε (β ⊕ α)) : ℕ → β → Prog C A σ ε α
  | 0, _ => stuck
  | n + 1, b => body b >>= fun
    | .inl b' => loopFor body n b'
    | .inr a => pure a

/-- A loop, of one pass more than there are answers. -/
def loop (body : β → Prog C A σ ε (β ⊕ α)) (b : β) : Prog C A σ ε α := fun w =>
  loopFor body (w.script.length + 1) b w

/-- Run `body` on each item in turn, until it answers `false`. -/
def forEach (body : ι → Prog C A σ ε Bool) : List ι → Prog C A σ ε Unit
  | [] => pure ()
  | x :: xs => body x >>= fun go => if go then forEach body xs else pure ()

/-- `n` passes at most of a loop; a pass that answers `some` ends it. -/
def attempts (body : Prog C A σ ε (Option α)) : ℕ → Prog C A σ ε (Option α)
  | 0 => pure none
  | n + 1 => body >>= fun
    | some a => pure (some a)
    | none => attempts body n

/-- Run `m`, and `cleanup` after it, whether it returned or threw. -/
def ensure (cleanup : Prog C A σ ε Unit) (m : Prog C A σ ε α) : Prog C A σ ε α :=
  handle m (fun e => cleanup >>= fun _ => raise e) >>= fun a => cleanup >>= fun _ => pure a

/-- Run a program of a part of the state, its calls made as calls of the whole and its
exceptions renamed. -/
def zoom {C' : Type} {A' : C' → Type} (emb : C' → C) (ans : ∀ c, A (emb c) → A' c)
    (get : σ → τ) (put : τ → σ → σ) (f : ε' → ε) (m : Prog C' A' τ ε' α) : Prog C A σ ε α :=
  fun w =>
    let r := m ⟨w.script.map fun answer c => ans c (answer (emb c)), get w.state⟩
    let used := w.script.length - r.2.script.length
    let w' := ⟨w.script.drop used, put r.2.state w.state⟩
    match r.1 with
    | .ok a => (.ok a, w')
    | .thrown e => (.thrown (f e), w')
    | .cut => (.cut, w')

/-! ### Running -/

@[simp] theorem run_pure (a : α) (w : World C A σ) :
    (pure a : Prog C A σ ε α) w = (.ok a, w) := rfl

theorem run_bind (m : Prog C A σ ε α) (f : α → Prog C A σ ε β) (w : World C A σ) :
    (m >>= f) w = match m w with
      | (.ok a, w') => f a w'
      | (.thrown e, w') => (.thrown e, w')
      | (.cut, w') => (.cut, w') := rfl

theorem bind_assoc {γ : Type} (m : Prog C A σ ε α) (f : α → Prog C A σ ε β) (g : β → Prog C A σ ε γ) :
    m >>= f >>= g = m >>= fun a => f a >>= g := by
  funext w
  rw [run_bind, run_bind, run_bind]
  rcases m w with ⟨a | e | _, w'⟩
  · rfl
  · rfl
  · rfl

theorem pure_bind (a : α) (f : α → Prog C A σ ε β) : (pure a : Prog C A σ ε α) >>= f = f a := rfl

theorem bind_pure (m : Prog C A σ ε α) : (m >>= fun a => pure a) = m := by
  funext w
  rw [run_bind]
  rcases m w with ⟨a | e | _, w'⟩
  · rfl
  · rfl
  · rfl

/-- Nothing to run after it. -/
theorem ensure_pure (m : Prog C A σ ε α) : ensure (pure ()) m = m := by
  funext w
  rw [ensure, run_bind, handle]
  rcases m w with ⟨a | e | _, w'⟩
  · rfl
  · rfl
  · rfl

@[simp] theorem run_raise (e : ε) (w : World C A σ) :
    (raise e : Prog C A σ ε α) w = (.thrown e, w) := rfl

@[simp] theorem run_get (w : World C A σ) : (get : Prog C A σ ε σ) w = (.ok w.state, w) := rfl

@[simp] theorem run_gets (f : σ → α) (w : World C A σ) :
    (gets f : Prog C A σ ε α) w = (.ok (f w.state), w) := rfl

@[simp] theorem run_modify (f : σ → σ) (w : World C A σ) :
    (modify f : Prog C A σ ε Unit) w = (.ok (), ⟨w.script, f w.state⟩) := rfl

@[simp] theorem run_call_nil (c : C) (s : σ) :
    (call c : Prog C A σ ε (A c)) ⟨[], s⟩ = (.cut, ⟨[], s⟩) := rfl

@[simp] theorem run_call_cons (c : C) (r : Answerer C A) (rest : List (Answerer C A)) (s : σ) :
    (call c : Prog C A σ ε (A c)) ⟨r :: rest, s⟩ = (.ok (r c), ⟨rest, s⟩) := rfl

/-- A pass of a loop that goes on has used an answer. -/
def Consumes (body : β → Prog C A σ ε (β ⊕ α)) : Prop :=
  ∀ b w b' w', body b w = (.ok (.inl b'), w') → w'.script.length < w.script.length

/-- More passes than answers are as good as any number of passes. -/
theorem loopFor_eq {body : β → Prog C A σ ε (β ⊕ α)} (h : Consumes body) :
    ∀ (n m : ℕ) (b : β) (w : World C A σ), w.script.length < n → w.script.length < m →
      loopFor body n b w = loopFor body m b w := by
  intro n
  induction n with
  | zero => intro m b w hn; omega
  | succ n ih =>
    intro m b w hn hm
    obtain ⟨m, rfl⟩ : ∃ k, m = k + 1 := ⟨m - 1, by omega⟩
    simp only [loopFor, run_bind]
    rcases hb : body b w with ⟨o, w'⟩
    rcases o with (b' | a) | e | _
    · have := h b w b' w' hb
      exact ih m b' w' (by omega) (by omega)
    · rfl
    · rfl
    · rfl

/-- **A loop is its body and then the loop again**: the bound on the passes shows nowhere. -/
theorem loop_eq {body : β → Prog C A σ ε (β ⊕ α)} (h : Consumes body) (b : β) :
    loop body b = body b >>= fun
      | .inl b' => loop body b'
      | .inr a => pure a := by
  funext w
  simp only [loop, loopFor, run_bind]
  rcases hb : body b w with ⟨o, w'⟩
  rcases o with (b' | a) | e | _
  · have := h b w b' w' hb
    exact loopFor_eq h _ _ b' w' (by omega) (by omega)
  · rfl
  · rfl
  · rfl

end Prog

open Prog

/-! ### What every run does -/

variable {step : σ → σ → Prop} {E : ε → σ → Prop}

/-- What is asked of the outcome of a run: `Q` of what it returned, `E` of what it threw. -/
def Outcome.Meets (o : Outcome ε α) (E : ε → Prop) (Q : α → Prop) : Prop :=
  match o with
  | .ok a => Q a
  | .thrown e => E e
  | .cut => True

@[simp] theorem Outcome.meets_ok {E : ε → Prop} {Q : α → Prop} (a : α) :
    (Outcome.ok a : Outcome ε α).Meets E Q ↔ Q a := Iff.rfl

@[simp] theorem Outcome.meets_thrown {E : ε → Prop} {Q : α → Prop} (e : ε) :
    (Outcome.thrown e : Outcome ε α).Meets E Q ↔ E e := Iff.rfl

@[simp] theorem Outcome.meets_cut {E : ε → Prop} {Q : α → Prop} :
    (Outcome.cut : Outcome ε α).Meets E Q ↔ True := Iff.rfl

/-- Every run of `m` from `s`, cut or not, is a chain of `step`s; what it throws is
allowed by `E`, and if it returns then in `Q`. -/
def Runs (step : σ → σ → Prop) (E : ε → σ → Prop) (m : Prog C A σ ε α) (s : σ)
    (Q : α → σ → Prop) : Prop :=
  ∀ script, ReflTransGen step s (m ⟨script, s⟩).2.state ∧
    (m ⟨script, s⟩).1.Meets (fun e => E e (m ⟨script, s⟩).2.state)
      (fun a => Q a (m ⟨script, s⟩).2.state)

namespace Runs

variable {m : Prog C A σ ε α} {f : α → Prog C A σ ε β} {s : σ} {Q : α → σ → Prop}

/-- The points of a run are reached by steps. -/
theorem chain (h : Runs step E m s Q) (script : List (Answerer C A)) :
    ReflTransGen step s (m ⟨script, s⟩).2.state := (h script).1

theorem of_ok (h : Runs step E m s Q) {script : List (Answerer C A)} {a : α} {w : World C A σ}
    (hm : m ⟨script, s⟩ = (.ok a, w)) : ReflTransGen step s w.state ∧ Q a w.state := by
  have := h script
  rw [hm] at this
  exact this

theorem of_thrown (h : Runs step E m s Q) {script : List (Answerer C A)} {e : ε}
    {w : World C A σ} (hm : m ⟨script, s⟩ = (.thrown e, w)) :
    ReflTransGen step s w.state ∧ E e w.state := by
  have := h script
  rw [hm] at this
  exact this

theorem mono {E' : ε → σ → Prop} {Q' : α → σ → Prop} (h : Runs step E m s Q)
    (hE : ∀ e s', ReflTransGen step s s' → E e s' → E' e s')
    (hQ : ∀ a s', ReflTransGen step s s' → Q a s' → Q' a s') : Runs step E' m s Q' := by
  intro script
  obtain ⟨hc, hm⟩ := h script
  refine ⟨hc, ?_⟩
  rcases ho : (m ⟨script, s⟩).1 with a | e | _
  · rw [ho] at hm
    exact hQ _ _ hc hm
  · rw [ho] at hm
    exact hE _ _ hc hm
  · trivial

theorem post {Q' : α → σ → Prop} (h : Runs step E m s Q)
    (hQ : ∀ a s', ReflTransGen step s s' → Q a s' → Q' a s') : Runs step E m s Q' :=
  h.mono (fun _ _ _ he => he) hQ

/-- The same runs, under coarser steps. -/
theorem coarsen {step' : σ → σ → Prop} (h : Runs step E m s Q)
    (hstep : ∀ s s', step s s' → step' s s') : Runs step' E m s Q := fun script =>
  ⟨ReflTransGen.mono hstep _ _ (h script).1, (h script).2⟩

/-- The same runs, under other steps that keep what the steps taken keep. -/
theorem refine (step' : σ → σ → Prop) (J : σ → Prop) (h : Runs step E m s Q) (hJ : J s)
    (hstep : ∀ s s', J s → step s s' → J s' ∧ step' s s') :
    Runs step' (fun e s' => J s' ∧ E e s') m s fun a s' => J s' ∧ Q a s' := by
  intro script
  obtain ⟨hc, hm⟩ := h script
  have hchain : ∀ s', ReflTransGen step s s' → J s' ∧ ReflTransGen step' s s' := by
    intro s' hs'
    induction hs' with
    | refl => exact ⟨hJ, .refl⟩
    | tail _ h₂ ih =>
      obtain ⟨hJ', hstep'⟩ := hstep _ _ ih.1 h₂
      exact ⟨hJ', ih.2.tail hstep'⟩
  obtain ⟨hJ', hc'⟩ := hchain _ hc
  refine ⟨hc', ?_⟩
  rcases ho : (m ⟨script, s⟩).1 with a | e | _
  · rw [ho] at hm
    exact ⟨hJ', hm⟩
  · rw [ho] at hm
    exact ⟨hJ', hm⟩
  · trivial

/-- What two proofs say of the same runs. -/
theorem both {step' : σ → σ → Prop} {E' : ε → σ → Prop} {Q' : α → σ → Prop} (h : Runs step E m s Q)
    (h' : Runs step' E' m s Q') :
    Runs step (fun e s' => E e s' ∧ E' e s') m s fun a s' => Q a s' ∧ Q' a s' := by
  intro script
  obtain ⟨hc, hm⟩ := h script
  obtain ⟨-, hm'⟩ := h' script
  refine ⟨hc, ?_⟩
  rcases ho : (m ⟨script, s⟩).1 with a | e | _
  · rw [ho] at hm hm'
    exact ⟨hm, hm'⟩
  · rw [ho] at hm hm'
    exact ⟨hm, hm'⟩
  · trivial

/-- Of any program, nothing is known. -/
protected theorem any (m : Prog C A σ ε α) (s : σ) :
    Runs (fun _ _ => True) (fun _ _ => True) m s fun _ _ => True := by
  intro script
  refine ⟨.single trivial, ?_⟩
  rcases (m ⟨script, s⟩).1 with a | e | _ <;> trivial

protected theorem pure {a : α} (h : Q a s) : Runs step E (pure a : Prog C A σ ε α) s Q :=
  fun _ => ⟨.refl, h⟩

protected theorem raise {e : ε} (h : E e s) : Runs step E (Prog.raise e : Prog C A σ ε α) s Q :=
  fun _ => ⟨.refl, h⟩

protected theorem stuck : Runs step E (Prog.stuck : Prog C A σ ε α) s Q := fun _ => ⟨.refl, trivial⟩

protected theorem call {c : C} {Q : A c → σ → Prop} (h : ∀ a, Q a s) :
    Runs step E (Prog.call c) s Q := by
  intro script
  cases script with
  | nil => exact ⟨.refl, trivial⟩
  | cons r rest => exact ⟨.refl, h (r c)⟩

protected theorem gets {f : σ → α} (h : Q (f s) s) : Runs step E (Prog.gets f : Prog C A σ ε α) s Q :=
  fun _ => ⟨.refl, h⟩

protected theorem modify {f : σ → σ} {Q : Unit → σ → Prop} (hstep : ReflTransGen step s (f s))
    (h : Q () (f s)) :
    Runs step E (Prog.modify f : Prog C A σ ε Unit) s Q :=
  fun _ => ⟨hstep, h⟩

/-- One after the other. -/
protected theorem bind {Q' : β → σ → Prop} (hm : Runs step E m s Q)
    (hf : ∀ a s', ReflTransGen step s s' → Q a s' → Runs step E (f a) s' Q') :
    Runs step E (m >>= f) s Q' := by
  intro script
  obtain ⟨hc, hq⟩ := hm script
  rw [run_bind]
  rcases hw : m ⟨script, s⟩ with ⟨o, ⟨script', s'⟩⟩
  rw [hw] at hc hq
  cases o with
  | ok a =>
    obtain ⟨hc', hq'⟩ := hf a s' hc hq script'
    exact ⟨hc.trans hc', hq'⟩
  | thrown e => exact ⟨hc, hq⟩
  | cut => exact ⟨hc, trivial⟩

/-- What is thrown is handled. -/
protected theorem handle {E' : ε' → σ → Prop} {h : ε → Prog C A σ ε' α}
    (hm : Runs step E m s Q)
    (hh : ∀ e s', ReflTransGen step s s' → E e s' → Runs step E' (h e) s' Q) :
    Runs step E' (Prog.handle m h) s Q := by
  intro script
  obtain ⟨hc, hq⟩ := hm script
  rw [Prog.handle]
  rcases hw : m ⟨script, s⟩ with ⟨o, ⟨script', s'⟩⟩
  rw [hw] at hc hq
  cases o with
  | ok a => exact ⟨hc, hq⟩
  | thrown e =>
    obtain ⟨hc', hq'⟩ := hh e s' hc hq script'
    exact ⟨hc.trans hc', hq'⟩
  | cut => exact ⟨hc, trivial⟩

protected theorem ite {c : Prop} [Decidable c] {m₁ m₂ : Prog C A σ ε α}
    (h₁ : c → Runs step E m₁ s Q) (h₂ : ¬ c → Runs step E m₂ s Q) :
    Runs step E (if c then m₁ else m₂) s Q := by
  by_cases h : c
  · rw [if_pos h]; exact h₁ h
  · rw [if_neg h]; exact h₂ h

protected theorem when {c : Prop} [Decidable c] {m : Prog C A σ ε Unit} {Q : Unit → σ → Prop}
    (h₁ : c → Runs step E m s Q) (h₂ : ¬ c → Q () s) : Runs step E (Prog.when c m) s Q :=
  Runs.ite h₁ fun h => Runs.pure (h₂ h)

/-! A command at the head of a sequence. -/

theorem get_bind {f : σ → Prog C A σ ε β} {Q' : β → σ → Prop} (h : Runs step E (f s) s Q') :
    Runs step E (Prog.get >>= f) s Q' := h

theorem gets_bind {g : σ → α} {Q' : β → σ → Prop} (h : Runs step E (f (g s)) s Q') :
    Runs step E (Prog.gets g >>= f) s Q' := h

theorem modify_bind {g : σ → σ} {f : Unit → Prog C A σ ε β} {Q' : β → σ → Prop}
    (hstep : ReflTransGen step s (g s)) (h : Runs step E (f ()) (g s) Q') :
    Runs step E (Prog.modify g >>= f) s Q' := fun script =>
  ⟨hstep.trans (h script).1, (h script).2⟩

theorem call_bind {c : C} {f : A c → Prog C A σ ε β} {Q' : β → σ → Prop}
    (h : ∀ a, Runs step E (f a) s Q') : Runs step E (Prog.call c >>= f) s Q' :=
  Runs.bind (Q := fun _ s' => s' = s) (Runs.call fun _ => rfl) fun a _ _ hs => hs ▸ h a

theorem pure_bind {a : α} {Q' : β → σ → Prop} (h : Runs step E (f a) s Q') :
    Runs step E (pure a >>= f) s Q' := h

/-- Two changes with no call between them are one. -/
theorem modify_modify {g g' : σ → σ} {f : Unit → Prog C A σ ε β} {Q' : β → σ → Prop}
    (h : Runs step E (Prog.modify (fun s => g' (g s)) >>= f) s Q') :
    Runs step E (Prog.modify g >>= fun _ => Prog.modify g' >>= f) s Q' := h

/-- A loop keeps what each pass keeps. -/
theorem loopFor {body : β → Prog C A σ ε (β ⊕ α)} (I : β → σ → Prop)
    (hbody : ∀ b s, I b s → Runs step E (body b) s fun r s' =>
      match r with
      | .inl b' => I b' s'
      | .inr a => Q a s') :
    ∀ (n : ℕ) (b : β) (s : σ), I b s → Runs step E (Prog.loopFor body n b) s Q := by
  intro n
  induction n with
  | zero => intro b s _; exact Runs.stuck
  | succ n ih =>
    intro b s hI
    refine Runs.bind (hbody b s hI) fun r s' _ hr => ?_
    cases r with
    | inl b' => exact ih b' s' hr
    | inr a => exact Runs.pure hr

protected theorem loop {body : β → Prog C A σ ε (β ⊕ α)} {b : β} (I : β → σ → Prop)
    (hbody : ∀ b s, I b s → Runs step E (body b) s fun r s' =>
      match r with
      | .inl b' => I b' s'
      | .inr a => Q a s') (h : I b s) : Runs step E (Prog.loop body b) s Q :=
  fun script => loopFor I hbody (script.length + 1) b s h script

/-- A pass over a list keeps what the body keeps. -/
protected theorem forEach {body : ι → Prog C A σ ε Bool} (I : σ → Prop) (xs : List ι)
    (hbody : ∀ x ∈ xs, ∀ s, I s → Runs step E (body x) s fun _ s' => I s') (h : I s) :
    Runs step E (Prog.forEach body xs) s fun _ s' => I s' := by
  induction xs generalizing s with
  | nil => exact Runs.pure h
  | cons x xs ih =>
    refine Runs.bind (hbody x List.mem_cons_self s h) fun go s' _ hI => ?_
    exact Runs.ite (fun _ => ih (fun y hy => hbody y (List.mem_cons_of_mem x hy)) hI)
      fun _ => Runs.pure hI

/-- A pass over the whole of a list: `I` says what holds after the items gone through. -/
theorem forEach_all {body : ι → Prog C A σ ε Bool} (I : List ι → σ → Prop) (xs : List ι)
    (hbody : ∀ done, ∀ x ∈ xs, ∀ s, I done s → Runs step E (body x) s fun go s' =>
      go = true ∧ I (done ++ [x]) s') (done : List ι) (h : I done s) :
    Runs step E (Prog.forEach body xs) s fun _ s' => I (done ++ xs) s' := by
  induction xs generalizing s done with
  | nil =>
    rw [List.append_nil]
    exact Runs.pure h
  | cons x xs ih =>
    refine Runs.bind (hbody done x List.mem_cons_self s h) ?_
    rintro - s' - ⟨rfl, hI⟩
    rw [List.append_cons]
    exact ih (fun done y hy => hbody done y (List.mem_cons_of_mem x hy)) _ hI

/-- A pass over a list that can end early: `I` says what holds of the items to come. -/
theorem forEach_rest {body : ι → Prog C A σ ε Bool} {Q : σ → Prop} (I : List ι → σ → Prop) (xs : List ι)
    (hbody : ∀ x rest s, I (x :: rest) s → Runs step E (body x) s fun go s' =>
      if go then I rest s' else Q s')
    (hnil : ∀ s, I [] s → Q s) (h : I xs s) :
    Runs step E (Prog.forEach body xs) s fun _ s' => Q s' := by
  induction xs generalizing s with
  | nil => exact Runs.pure (hnil s h)
  | cons x xs ih =>
    refine Runs.bind (hbody x xs s h) fun go s' _ hgo => ?_
    cases go with
    | true => exact ih hgo
    | false => exact Runs.pure hgo

/-- What a counted pass leaves: `I` when there is to be another, `Q` when not. -/
def Pass (I : σ → Prop) (Q : α → σ → Prop) : Option α → σ → Prop
  | none => I
  | some a => Q a

/-- Passes that are counted keep what each pass keeps. -/
protected theorem attempts {body : Prog C A σ ε (Option α)} (I : σ → Prop)
    (hbody : ∀ s, I s → Runs step E body s (Pass I Q)) (n : ℕ) (h : I s) :
    Runs step E (Prog.attempts body n) s (Pass I Q) := by
  induction n generalizing s with
  | zero => exact Runs.pure h
  | succ n ih =>
    refine Runs.bind (hbody s h) fun r s' _ hr => ?_
    cases r with
    | none => exact ih hr
    | some a => exact Runs.pure hr

/-- What comes after is run in either case. -/
protected theorem ensure {cleanup : Prog C A σ ε Unit} {E' : ε → σ → Prop} {Q' : α → σ → Prop}
    (hm : Runs step E m s Q)
    (hok : ∀ a s', ReflTransGen step s s' → Q a s' → Runs step E' cleanup s' fun _ => Q' a)
    (hthrown : ∀ e s', ReflTransGen step s s' → E e s' → Runs step E' cleanup s' fun _ => E' e) :
    Runs step E' (Prog.ensure cleanup m) s Q' := by
  refine Runs.bind (Q := Q) (Runs.handle (E := E) hm fun e s' hc he => ?_) fun a s' hc ha => ?_
  · exact Runs.bind (hthrown e s' hc he) fun _ _ _ he' => Runs.raise he'
  · exact Runs.bind (hok a s' hc ha) fun _ _ _ ha' => Runs.pure ha'

/-- A program of a part of the state, in the whole, of which something is known when its answers come from there. -/
theorem zoom_mapped {C' : Type} {A' : C' → Type} {step' : τ → τ → Prop} {E' : ε' → τ → Prop}
    {m : Prog C' A' τ ε' α} {emb : C' → C} {ans : ∀ c, A (emb c) → A' c}
    {get : σ → τ} {put : τ → σ → σ} {f : ε' → ε} {Q' : α → τ → Prop}
    (hm : ∀ script : List (Answerer C A),
      let r := m ⟨script.map fun answer c => ans c (answer (emb c)), get s⟩
      ReflTransGen step' (get s) r.2.state ∧ r.1.Meets (fun e => E' e r.2.state) fun a => Q' a r.2.state)
    (hput : put (get s) s = s)
    (hstep : ∀ t t', ReflTransGen step' (get s) t → step' t t' →
      ReflTransGen step (put t s) (put t' s))
    (hE : ∀ e t, ReflTransGen step' (get s) t → E' e t → E (f e) (put t s))
    (hQ : ∀ a t, ReflTransGen step' (get s) t → Q' a t → Q a (put t s)) :
    Runs step E (Prog.zoom emb ans get put f m) s Q := by
  intro script
  obtain ⟨hc, hq⟩ := hm script
  have hlift : ∀ t, ReflTransGen step' (get s) t → ReflTransGen step s (put t s) := by
    intro t ht
    induction ht with
    | refl => rw [hput]
    | tail h₁ h₂ ih => exact ih.trans (hstep _ _ h₁ h₂)
  rcases hw : m ⟨script.map fun answer c => ans c (answer (emb c)), get s⟩ with ⟨o, ⟨script', t⟩⟩
  rw [hw] at hc hq
  simp only [Prog.zoom, hw]
  cases o with
  | ok a => exact ⟨hlift t hc, hQ a t hc hq⟩
  | thrown e => exact ⟨hlift t hc, hE e t hc hq⟩
  | cut => exact ⟨hlift t hc, trivial⟩

/-- A program of a part of the state, in the whole. -/
protected theorem zoom {C' : Type} {A' : C' → Type} {step' : τ → τ → Prop} {E' : ε' → τ → Prop}
    {m : Prog C' A' τ ε' α} {emb : C' → C} {ans : ∀ c, A (emb c) → A' c}
    {get : σ → τ} {put : τ → σ → σ} {f : ε' → ε} {Q' : α → τ → Prop}
    (hm : Runs step' E' m (get s) Q')
    (hput : put (get s) s = s)
    (hstep : ∀ t t', ReflTransGen step' (get s) t → step' t t' →
      ReflTransGen step (put t s) (put t' s))
    (hE : ∀ e t, ReflTransGen step' (get s) t → E' e t → E (f e) (put t s))
    (hQ : ∀ a t, ReflTransGen step' (get s) t → Q' a t → Q a (put t s)) :
    Runs step E (Prog.zoom emb ans get put f m) s Q :=
  zoom_mapped (fun script => hm (script.map fun answer c => ans c (answer (emb c)))) hput hstep hE hQ

end Runs

/-- **What every step keeps, every point of every run has.** -/
theorem Runs.invariant {m : Prog C A σ ε α} {s : σ} {Q : α → σ → Prop} {I : σ → Prop}
    (h : Runs step E m s Q) (hI : I s) (hstep : ∀ s s', step s s' → I s → I s')
    (script : List (Answerer C A)) : I (m ⟨script, s⟩).2.state := by
  have hc := h.chain script
  generalize (m ⟨script, s⟩).2.state = s' at hc ⊢
  induction hc with
  | refl => exact hI
  | tail _ h₂ ih => exact hstep _ _ h₂ ih

end Effect
