import L4lb.Effect.Prog

/-!
# Checklists

A program that makes the calls of a list one after the other, and stops at the first that is
not answered as it should be.

## The model

* `Check` — a call, the answer there should be, and what is thrown at any other.
* `Prog.checklist` — the calls of a list of checks, recorded with their answers.
* `Checked` — what can be recorded of such a list, and how it ends.

## What is proved

What is recorded is what should be, to its end or up to a last call, that the program was cut
before or that threw (`checklist_run`, `Checked.recorded`).
-/

namespace Effect

variable {C : Type} {A : C → Type} {ε : Type}

/-- A call, with its answer. -/
abbrev Exchange (C : Type) (A : C → Type) := (c : C) × A c

/-- A call that must be answered in one way. -/
structure Check (C : Type) (A : C → Type) (ε : Type) where
  /-- The call. -/
  call : C
  /-- Its answer. -/
  expected : A call
  /-- What is thrown at an answer. -/
  verdict : A call → Option ε
  /-- Nothing is thrown at the one, -/
  passes : verdict expected = none
  /-- and something at any other. -/
  only : ∀ answer, verdict answer = none → answer = expected

/-- A check that has passed. -/
def Check.passed (check : Check C A ε) : Exchange C A := ⟨check.call, check.expected⟩

namespace Prog

/-- Make a call, and record it. -/
def exchange (c : C) : Prog C A (List (Exchange C A)) ε (A c) := do
  let answer ← call c
  modify (⟨c, answer⟩ :: ·)
  pure answer

/-- Make a call, and throw if it is not answered as it should be. -/
def check (item : Check C A ε) : Prog C A (List (Exchange C A)) ε Unit := do
  rethrow (item.verdict (← exchange item.call))

/-- Make all calls of a list. -/
def checklist : List (Check C A ε) → Prog C A (List (Exchange C A)) ε Unit
  | [] => pure ()
  | item :: items => check item >>= fun _ => checklist items

theorem checklist_append (items items' : List (Check C A ε)) :
    checklist (items ++ items') = checklist items >>= fun _ => checklist items' := by
  induction items with
  | nil => rfl
  | cons item items ih =>
    funext w
    simp only [List.cons_append, checklist, run_bind, ih]
    rcases check item w with ⟨_ | e | _, w'⟩
    · rfl
    · rfl
    · rfl

/-- A loop that makes one check a pass. -/
theorem forEach_check {ι : Type} {body : ι → Prog C A (List (Exchange C A)) ε Bool} {item : ι → Check C A ε}
    (h : ∀ i, body i = check (item i) >>= fun _ => pure true) (is : List ι) :
    forEach body is = checklist (is.map item) := by
  induction is with
  | nil => rfl
  | cons i is ih =>
    funext w
    simp only [forEach, List.map_cons, checklist, run_bind, h, ih]
    rcases check (item i) w with ⟨_ | e | _, w'⟩
    · rfl
    · rfl
    · rfl

end Prog

open Prog

/-- What is recorded of a list of checks, first call first, and how it ends. -/
inductive Checked : List (Check C A ε) → Outcome ε Unit → List (Exchange C A) → Prop
  /-- All were made. -/
  | done : Checked [] (.ok ()) []
  /-- The answers ran out. -/
  | cut {item : Check C A ε} {items : List (Check C A ε)} : Checked (item :: items) .cut []
  /-- One was not answered as it should be. -/
  | failed {item : Check C A ε} {items : List (Check C A ε)} {answer : A item.call} {e : ε}
      (h : item.verdict answer = some e) : Checked (item :: items) (.thrown e) [⟨item.call, answer⟩]
  /-- One has passed. -/
  | passed {item : Check C A ε} {items : List (Check C A ε)} {outcome : Outcome ε Unit} {history : List (Exchange C A)}
      (rest : Checked items outcome history) : Checked (item :: items) outcome (item.passed :: history)

/-- **Every run of a list of checks is as it is said.** -/
theorem checklist_run (items : List (Check C A ε)) (script : List (Answerer C A)) (before : List (Exchange C A)) :
    ∃ history, Checked items (checklist items ⟨script, before⟩).1 history ∧
      (checklist items ⟨script, before⟩).2.state = history.reverse ++ before := by
  induction items generalizing script before with
  | nil => exact ⟨[], .done, rfl⟩
  | cons item items ih =>
    cases script with
    | nil => exact ⟨[], .cut, rfl⟩
    | cons answerer script =>
      cases hverdict : item.verdict (answerer item.call) with
      | some e =>
        have hcheck : checklist (item :: items) ⟨answerer :: script, before⟩ =
            (.thrown e, ⟨script, ⟨item.call, answerer item.call⟩ :: before⟩) := by
          simp only [checklist, check, exchange, run_bind, run_call_cons, run_modify, run_pure, hverdict]
          rfl
        rw [hcheck]
        exact ⟨[⟨item.call, answerer item.call⟩], .failed hverdict, rfl⟩
      | none =>
        have hcheck : checklist (item :: items) ⟨answerer :: script, before⟩ =
            checklist items ⟨script, ⟨item.call, answerer item.call⟩ :: before⟩ := by
          simp only [checklist, check, exchange, run_bind, run_call_cons, run_modify, run_pure, hverdict]
          rfl
        rw [hcheck]
        obtain ⟨history, hchecked, hstate⟩ := ih script (⟨item.call, answerer item.call⟩ :: before)
        have hpassed : (⟨item.call, answerer item.call⟩ : Exchange C A) = item.passed := by
          rw [Check.passed, ← item.only _ hverdict]
        refine ⟨item.passed :: history, .passed hchecked, ?_⟩
        rw [hstate, hpassed]
        simp

namespace Checked

variable {items : List (Check C A ε)} {outcome : Outcome ε Unit} {history : List (Exchange C A)}

/-- When it returns, all is recorded as it should be. -/
theorem eq_of_ok (h : Checked items (.ok ()) history) : history = items.map Check.passed := by
  generalize houtcome : (Outcome.ok () : Outcome ε Unit) = outcome at h
  induction h with
  | done => rfl
  | cut => cases houtcome
  | failed h => cases houtcome
  | passed rest ih => rw [List.map_cons, ← ih houtcome]

/-- **What is recorded is as it should be**, but for a last call that was answered otherwise, if there is one. -/
theorem recorded (h : Checked items outcome history) {before after : List (Exchange C A)} {record : Exchange C A}
    (hhistory : history = before ++ record :: after) :
    ∃ item : Check C A ε, item.call = record.1 ∧ before ++ [item.passed] <+: items.map Check.passed ∧
      (record = item.passed ∨ after = [] ∧ ∃ e, outcome = .thrown e) := by
  induction h generalizing before with
  | done => simp at hhistory
  | cut => simp at hhistory
  | @failed item items answer e h =>
    cases before with
    | nil =>
      obtain ⟨rfl, rfl⟩ := List.cons.inj hhistory
      exact ⟨item, rfl, by simp, .inr ⟨rfl, e, rfl⟩⟩
    | cons first before => simp at hhistory
  | @passed item items outcome history rest ih =>
    cases before with
    | nil =>
      obtain ⟨rfl, rfl⟩ := List.cons.inj hhistory
      exact ⟨item, rfl, by simp, .inl rfl⟩
    | cons first before =>
      obtain ⟨rfl, hrest⟩ := List.cons.inj hhistory
      obtain ⟨found, hcall, hprefix, hrecord⟩ := ih hrest
      exact ⟨found, hcall, List.cons_prefix_cons.mpr ⟨rfl, hprefix⟩, hrecord⟩

end Checked

end Effect
