import L4lb.Effect.Prog
import Mathlib.Data.Finset.Card

/-!
# Owners that are closed

A component that owns things closes them, and reports each close to callbacks that may
throw. It gives up what it holds first; then every report is attempted, whatever the ones
before it threw, and what was thrown first is thrown in the end.

## The model

* `Prog.attemptAll` — reports attempted one after the other; `Attempted`, what came of each.
* `SafeClose` — a close that has let go of everything before its first report.
* `Owners` — owners that are closed one at a time until there are none; `ClosesAll`, what
  came of each.

## What is proved

`attemptAll` keeps what every report keeps, and ends with what was thrown first
(`attemptAll_run`); closing all ends, and closes each owner once (`Owners.closeAll_run`);
what the owners held is freed then, each thing once (`Owners.ClosesAll.letsGo`).
-/

namespace Effect

variable {C : Type} {A : C → Type} {σ ε α ι : Type}

/-- What is thrown in the end. -/
def ended : Option ε → Outcome ε Unit
  | none => .ok ()
  | some e => .thrown e

/-- What was thrown first. -/
def firstFailure : List (Option ε) → Option ε
  | [] => none
  | failure :: failures => failure.or (firstFailure failures)

namespace Prog

/-- Run a report; what it throws is kept, if nothing was thrown before. -/
def attempt (failure : Option ε) (report : Prog C A σ ε Unit) : Prog C A σ ε (Option ε) :=
  handle (report >>= fun _ => pure failure) fun e => pure (failure.or (some e))

/-- Attempt each of the reports. -/
def attemptAll : List (Prog C A σ ε Unit) → Option ε → Prog C A σ ε (Option ε)
  | [], failure => pure failure
  | report :: reports, failure => attempt failure report >>= attemptAll reports

/-- A program that makes one call, and goes on to its end with the answer. -/
structure AsksOnce (m : Prog C A σ ε α) : Prop where
  /-- It ends. -/
  ends : ∀ a script s, (m ⟨a :: script, s⟩).1 ≠ .cut
  /-- It has used one answer. -/
  used : ∀ a script s, (m ⟨a :: script, s⟩).2.script = script

/-- What holds of the state at every point of every run. -/
def Keeps (I : σ → Prop) (m : Prog C A σ ε α) : Prop := ∀ w, I w.state → I (m w).2.state

variable {report : Prog C A σ ε Unit} {reports : List (Prog C A σ ε Unit)} {w w₁ w' : World C A σ} {failure : Option ε}
  {e : ε} {I : σ → Prop}

theorem attemptAll_append (reports reports' : List (Prog C A σ ε Unit)) (failure : Option ε) :
    attemptAll (reports ++ reports') failure = attemptAll reports failure >>= attemptAll reports' := by
  induction reports generalizing failure with
  | nil => rfl
  | cons report reports ih =>
    rw [List.cons_append, attemptAll, attemptAll, bind_assoc]
    exact congrArg _ (funext fun failure => ih failure)

theorem attempt_ok (h : report w = (.ok (), w₁)) : attempt failure report w = (.ok failure, w₁) := by
  simp [attempt, handle, run_bind, h]

theorem attempt_thrown (h : report w = (.thrown e, w₁)) :
    attempt failure report w = (.ok (failure.or (some e)), w₁) := by
  simp [attempt, handle, run_bind, h]

theorem attempt_cut (h : report w = (.cut, w₁)) : attempt failure report w = (.cut, w₁) := by
  simp [attempt, handle, run_bind, h]

theorem rethrow_run (failure : Option ε) (w : World C A σ) : rethrow failure w = (ended failure, w) := by
  cases failure <;> rfl

/-- Reports attempted one after the other, each from where the one before it came to, and what each threw. -/
inductive Attempted : List (Prog C A σ ε Unit) → World C A σ → List (Option ε) → World C A σ → Prop
  /-- There is none. -/
  | nil {w : World C A σ} : Attempted [] w [] w
  /-- One returned. -/
  | returned {report : Prog C A σ ε Unit} {reports : List (Prog C A σ ε Unit)} {w w₁ w' : World C A σ}
      {failures : List (Option ε)} (h : report w = (.ok (), w₁)) (rest : Attempted reports w₁ failures w') :
      Attempted (report :: reports) w (none :: failures) w'
  /-- One threw. -/
  | threw {report : Prog C A σ ε Unit} {reports : List (Prog C A σ ε Unit)} {w w₁ w' : World C A σ}
      {failures : List (Option ε)} {e : ε} (h : report w = (.thrown e, w₁)) (rest : Attempted reports w₁ failures w') :
      Attempted (report :: reports) w (some e :: failures) w'

/-- **What was thrown first is kept.** -/
theorem attemptAll_run {failures : List (Option ε)} (h : Attempted reports w failures w') (failure : Option ε) :
    attemptAll reports failure w = (.ok (failure.or (firstFailure failures)), w') := by
  induction h generalizing failure with
  | nil => simp [attemptAll, firstFailure]
  | returned h _ ih => simp [attemptAll, run_bind, attempt_ok h, ih, firstFailure]
  | threw h _ ih => simp [attemptAll, run_bind, attempt_thrown h, ih, firstFailure]

/-- With an answer for each, all reports are attempted. -/
theorem exists_attempted (hasks : ∀ report ∈ reports, AsksOnce report) (hlength : reports.length ≤ w.script.length) :
    ∃ failures w', Attempted reports w failures w' ∧ w'.script.length + reports.length = w.script.length := by
  induction reports generalizing w with
  | nil => exact ⟨[], w, .nil, rfl⟩
  | cons report reports ih =>
    obtain ⟨script, s⟩ := w
    cases script with
    | nil => simp at hlength
    | cons a script =>
      have hreport := hasks report List.mem_cons_self
      have hused := hreport.used a script s
      simp only [List.length_cons, Nat.add_le_add_iff_right] at hlength
      have hrest : ∃ failures w', Attempted reports (report ⟨a :: script, s⟩).2 failures w' ∧
          w'.script.length + reports.length = (report ⟨a :: script, s⟩).2.script.length := by
        refine ih (fun r hr => hasks r (List.mem_cons_of_mem _ hr)) ?_
        rwa [hused]
      obtain ⟨failures, w', hattempted, hleft⟩ := hrest
      rw [hused] at hleft
      rcases hrun : report ⟨a :: script, s⟩ with ⟨_ | e | _, w₁⟩
      · rw [hrun] at hattempted
        exact ⟨none :: failures, w', .returned hrun hattempted, by simp only [List.length_cons]; omega⟩
      · rw [hrun] at hattempted
        exact ⟨some e :: failures, w', .threw hrun hattempted, by simp only [List.length_cons]; omega⟩
      · exact absurd (congrArg Prod.fst hrun) (hreport.ends a script s)

/-- What every report keeps, all of them keep. -/
theorem Keeps.attemptAll (h : ∀ report ∈ reports, Keeps I report) (failure : Option ε) :
    Keeps I (attemptAll reports failure) := by
  induction reports generalizing failure with
  | nil => exact fun _ hI => hI
  | cons report reports ih =>
    intro w hI
    have hreport := h report List.mem_cons_self w hI
    have ih := ih fun r hr => h r (List.mem_cons_of_mem _ hr)
    rw [Prog.attemptAll, run_bind]
    rcases hrun : report w with ⟨_ | e | _, w₁⟩
    · rw [hrun] at hreport
      rw [attempt_ok hrun]
      exact ih failure w₁ hreport
    · rw [hrun] at hreport
      rw [attempt_thrown hrun]
      exact ih _ w₁ hreport
    · rw [hrun] at hreport
      rw [attempt_cut hrun]
      exact hreport

end Prog

open Prog

/-! ### A close -/

/-- **A close that throws late**: when the answers `dels` have come, it has come to the state `s₁`, and what is
left are the reports; `same` holds of what they leave. -/
structure SafeClose (close : Prog C A σ ε Unit) (s : σ) (dels : List (Answerer C A)) (s₁ : σ)
    (reports : List (Prog C A σ ε Unit)) (same : σ → σ → Prop) : Prop where
  /-- What is left are the reports. -/
  late : ∀ script, close ⟨dels ++ script, s⟩ = (attemptAll reports none >>= rethrow) ⟨script, s₁⟩
  /-- They leave what was done. -/
  kept : ∀ script, same s₁ (close ⟨dels ++ script, s⟩).2.state
  /-- Each of them is attempted once, and what was thrown first is thrown. -/
  attempted : ∀ script, reports.length ≤ script.length → ∃ failures w', Attempted reports ⟨script, s₁⟩ failures w' ∧
    w'.script.length + reports.length = script.length ∧
    close ⟨dels ++ script, s⟩ = (ended (firstFailure failures), w')

/-- Reports that each ask once, and leave what was done. -/
theorem SafeClose.of_reports {close : Prog C A σ ε Unit} {s s₁ : σ} {dels : List (Answerer C A)}
    {reports : List (Prog C A σ ε Unit)} {same : σ → σ → Prop} (hrefl : same s₁ s₁)
    (hreports : ∀ script, close ⟨dels ++ script, s⟩ = (attemptAll reports none >>= rethrow) ⟨script, s₁⟩)
    (hasks : ∀ report ∈ reports, AsksOnce report) (hkeeps : ∀ report ∈ reports, Keeps (same s₁) report) :
    SafeClose close s dels s₁ reports same := by
  refine ⟨hreports, fun script => ?_, fun script hlength => ?_⟩
  · have hkept := Keeps.attemptAll hkeeps none ⟨script, s₁⟩ hrefl
    rw [hreports, run_bind]
    rcases hrun : attemptAll reports none ⟨script, s₁⟩ with ⟨failure | e | _, w₁⟩
    · rw [hrun] at hkept
      simp only [rethrow_run]
      exact hkept
    · rw [hrun] at hkept
      exact hkept
    · rw [hrun] at hkept
      exact hkept
  · obtain ⟨failures, w', hattempted, hleft⟩ := exists_attempted (w := ⟨script, s₁⟩) hasks hlength
    refine ⟨failures, w', hattempted, hleft, ?_⟩
    simp [hreports, run_bind, attemptAll_run hattempted, rethrow_run]

/-- With answers enough, it ends. -/
theorem SafeClose.ends {close : Prog C A σ ε Unit} {s s₁ : σ} {dels : List (Answerer C A)}
    {reports : List (Prog C A σ ε Unit)} {same : σ → σ → Prop} (h : SafeClose close s dels s₁ reports same)
    (script : List (Answerer C A)) (hlength : reports.length ≤ script.length) :
    (close ⟨dels ++ script, s⟩).1 ≠ .cut ∧
      (dels ++ script).length = (close ⟨dels ++ script, s⟩).2.script.length + (dels.length + reports.length) := by
  obtain ⟨failures, w', _, hleft, hrun⟩ := h.attempted script hlength
  rw [hrun, List.length_append]
  refine ⟨?_, by simp only; omega⟩
  cases firstFailure failures <;> simp [ended]

/-! ### Closing all -/

section All

variable [DecidableEq ι]

/-- Owners that are closed one at a time, the next of them chosen by an answer. -/
structure Owners (C : Type) (A : C → Type) (σ ε ι : Type) [DecidableEq ι] where
  /-- Those that are there. -/
  live : σ → Finset ι
  /-- Close one. -/
  close : ι → Prog C A σ ε Unit
  /-- The most answers that a close can use. -/
  most : ℕ
  /-- With these, it ends. -/
  ends : ∀ {id s} script, id ∈ live s → most ≤ script.length →
    (close id ⟨script, s⟩).1 ≠ .cut ∧ script.length ≤ (close id ⟨script, s⟩).2.script.length + most
  /-- Then it is not there any more, and the others are. -/
  gone : ∀ {id s} script, id ∈ live s → (close id ⟨script, s⟩).1 ≠ .cut →
    live (close id ⟨script, s⟩).2.state = (live s).erase id
  /-- A pass of the loop: it goes on while there are owners. -/
  pass : Option ε → Prog C A σ ε (Option ε ⊕ Option ε)
  /-- Without any, it leaves. -/
  pass_none : ∀ {s} a script failure, live s = ∅ → pass failure ⟨a :: script, s⟩ = (.ok (.inr failure), ⟨script, s⟩)
  /-- Else it closes one. -/
  pass_some : ∀ {s} a script failure, live s ≠ ∅ → ∃ id ∈ live s,
    pass failure ⟨a :: script, s⟩ = (attempt failure (close id) >>= fun failure => pure (.inl failure)) ⟨script, s⟩

namespace Owners

variable (owners : Owners C A σ ε ι)

/-- Close all of them. -/
def closeAll : Prog C A σ ε Unit := loop owners.pass none >>= rethrow

/-- Owners closed one after the other, each from where the one before it came to, and what each threw, until
there are none. -/
inductive ClosesAll : World C A σ → List (ι × Option ε) → World C A σ → Prop
  /-- There is none. -/
  | done {a : Answerer C A} {script : List (Answerer C A)} {s : σ} (h : owners.live s = ∅) :
      ClosesAll ⟨a :: script, s⟩ [] ⟨script, s⟩
  /-- A close returned. -/
  | returned {a : Answerer C A} {script : List (Answerer C A)} {s : σ} {id : ι} {w₁ w' : World C A σ}
      {closed : List (ι × Option ε)} (hid : id ∈ owners.live s) (h : owners.close id ⟨script, s⟩ = (.ok (), w₁))
      (rest : ClosesAll w₁ closed w') : ClosesAll ⟨a :: script, s⟩ ((id, none) :: closed) w'
  /-- A close threw. -/
  | threw {a : Answerer C A} {script : List (Answerer C A)} {s : σ} {id : ι} {w₁ w' : World C A σ}
      {closed : List (ι × Option ε)} {e : ε} (hid : id ∈ owners.live s)
      (h : owners.close id ⟨script, s⟩ = (.thrown e, w₁)) (rest : ClosesAll w₁ closed w') :
      ClosesAll ⟨a :: script, s⟩ ((id, some e) :: closed) w'

variable {owners} {w w' : World C A σ} {closed : List (ι × Option ε)}

theorem not_mem_of_cons {id : ι} {closed : List (ι × Option ε)} {s : σ} (script : List (Answerer C A))
    (hid : id ∈ owners.live s) (hends : (owners.close id ⟨script, s⟩).1 ≠ .cut) (hnodup : (closed.map Prod.fst).Nodup)
    (hlive : ∀ i, i ∈ closed.map Prod.fst ↔ i ∈ owners.live (owners.close id ⟨script, s⟩).2.state) (failure : Option ε) :
    (((id, failure) :: closed).map Prod.fst).Nodup ∧
      ∀ i, i ∈ ((id, failure) :: closed).map Prod.fst ↔ i ∈ owners.live s := by
  rw [owners.gone script hid hends] at hlive
  have hnot : id ∉ closed.map Prod.fst := fun hmem => Finset.notMem_erase id _ ((hlive id).mp hmem)
  refine ⟨List.nodup_cons.mpr ⟨hnot, hnodup⟩, fun i => ?_⟩
  simp only [List.map_cons, List.mem_cons, hlive, Finset.mem_erase]
  by_cases hi : i = id
  · simp [hi, hid]
  · simp [hi]

/-- **Each owner is closed once**, and in the end there is none. -/
theorem ClosesAll.once (h : owners.ClosesAll w closed w') :
    (closed.map Prod.fst).Nodup ∧ (∀ id, id ∈ closed.map Prod.fst ↔ id ∈ owners.live w.state) ∧
      owners.live w'.state = ∅ := by
  induction h with
  | done h => simp [h]
  | @returned a script s id w₁ w' closed hid hclose _ ih =>
    obtain ⟨hnodup, hlive, hempty⟩ := ih
    obtain ⟨hnodup, hmem⟩ := not_mem_of_cons script hid (by simp [hclose]) hnodup (by rwa [hclose]) none
    exact ⟨hnodup, hmem, hempty⟩
  | @threw a script s id w₁ w' closed e hid hclose _ ih =>
    obtain ⟨hnodup, hlive, hempty⟩ := ih
    obtain ⟨hnodup, hmem⟩ := not_mem_of_cons script hid (by simp [hclose]) hnodup (by rwa [hclose]) (some e)
    exact ⟨hnodup, hmem, hempty⟩

theorem loopFor_pass (n : ℕ) (failure : Option ε) (script : List (Answerer C A)) (s : σ)
    (hn : (owners.live s).card < n) (hlength : 1 + (owners.live s).card * (1 + owners.most) ≤ script.length) :
    ∃ closed w', owners.ClosesAll ⟨script, s⟩ closed w' ∧
      loopFor owners.pass n failure ⟨script, s⟩ = (.ok (failure.or (firstFailure (closed.map Prod.snd))), w') := by
  induction n generalizing failure script s with
  | zero => exact absurd hn (Nat.not_lt_zero _)
  | succ n ih =>
    cases script with
    | nil => simp at hlength
    | cons a script =>
      by_cases hlive : owners.live s = ∅
      · refine ⟨[], ⟨script, s⟩, .done hlive, ?_⟩
        simp [loopFor, run_bind, owners.pass_none a script failure hlive, firstFailure]
      · obtain ⟨id, hid, hpass⟩ := owners.pass_some a script failure hlive
        have hcard := Finset.card_erase_add_one hid
        rw [← hcard, Nat.succ_mul] at hlength
        simp only [List.length_cons] at hlength
        obtain ⟨hends, hleft⟩ := owners.ends script hid (by omega)
        have hgone := owners.gone script hid hends
        rw [← hgone] at hcard hlength
        have hnext := fun failure => ih failure (owners.close id ⟨script, s⟩).2.script
          (owners.close id ⟨script, s⟩).2.state (by omega) (by omega)
        rcases hclose : owners.close id ⟨script, s⟩ with ⟨_ | e | _, w₁⟩
        · rw [hclose] at hnext
          obtain ⟨closed, w', hclosed, hrun⟩ := hnext failure
          refine ⟨(id, none) :: closed, w', .returned hid hclose hclosed, ?_⟩
          simpa [loopFor, run_bind, hpass, attempt_ok hclose, firstFailure] using hrun
        · rw [hclose] at hnext
          obtain ⟨closed, w', hclosed, hrun⟩ := hnext (failure.or (some e))
          refine ⟨(id, some e) :: closed, w', .threw hid hclose hclosed, ?_⟩
          simpa [loopFor, run_bind, hpass, attempt_thrown hclose, firstFailure] using hrun
        · exact absurd (congrArg Prod.fst hclose) hends

/-- What closing all comes to. -/
structure ClosedAll (owners : Owners C A σ ε ι) (all : Prog C A σ ε Unit) (w : World C A σ)
    (closed : List (ι × Option ε)) (w' : World C A σ) : Prop where
  /-- They were closed one after the other. -/
  closes : owners.ClosesAll w closed w'
  /-- No one twice. -/
  once : (closed.map Prod.fst).Nodup
  /-- Each of them. -/
  mem : ∀ id, id ∈ closed.map Prod.fst ↔ id ∈ owners.live w.state
  /-- There is none. -/
  empty : owners.live w'.state = ∅
  /-- What was thrown first is thrown. -/
  run : all w = (ended (firstFailure (closed.map Prod.snd)), w')

/-- **Closing all ends**, when there are answers enough. -/
theorem closeAll_run {script : List (Answerer C A)} {s : σ}
    (hlength : 1 + (owners.live s).card * (1 + owners.most) ≤ script.length) :
    ∃ closed w', owners.ClosedAll owners.closeAll ⟨script, s⟩ closed w' := by
  have hn : (owners.live s).card < script.length + 1 := by
    have := Nat.le_mul_of_pos_right (owners.live s).card (Nat.add_pos_left Nat.one_pos owners.most)
    omega
  obtain ⟨closed, w', hclosed, hrun⟩ := loopFor_pass (script.length + 1) none script s hn hlength
  obtain ⟨honce, hmem, hempty⟩ := hclosed.once
  refine ⟨closed, w', hclosed, honce, hmem, hempty, ?_⟩
  have hloop : loop owners.pass none ⟨script, s⟩ = (.ok (firstFailure (closed.map Prod.snd)), w') := hrun
  simp [closeAll, run_bind, hloop, rethrow_run]

/-- What every close keeps, closing all keeps. -/
theorem ClosesAll.keeps {I : σ → Prop} (hkeeps : ∀ id s script, id ∈ owners.live s →
    (owners.close id ⟨script, s⟩).1 ≠ .cut → I s → I (owners.close id ⟨script, s⟩).2.state)
    (h : owners.ClosesAll w closed w') (hI : I w.state) : I w'.state := by
  induction h with
  | done _ => exact hI
  | @returned a script s id w₁ w' closed hid hclose _ ih =>
    have hstep := hkeeps id s script hid (by simp [hclose]) hI
    rw [hclose] at hstep
    exact ih hstep
  | @threw a script s id w₁ w' closed e hid hclose _ ih =>
    have hstep := hkeeps id s script hid (by simp [hclose]) hI
    rw [hclose] at hstep
    exact ih hstep

/-- A close lets go of what its owner held, each once, and of nothing else. -/
structure LetsGo {β δ γ : Type} (entry : σ → ι → Option β) (held : β → List δ) (under : σ → δ → Option γ)
    (freed : σ → List δ) (id : ι) (owner : β) (s s' : σ) : Prop where
  /-- The others are as they were. -/
  others : ∀ i, i ≠ id → entry s' i = entry s i
  /-- It is not there. -/
  gone : entry s' id = none
  /-- What it held is gone. -/
  nothing : ∀ x ∈ held owner, under s' x = none
  /-- The rest is as it was. -/
  rest : ∀ x ∉ held owner, under s' x = under s x
  /-- What it held was freed, and nothing else. -/
  freed : freed s' = held owner ++ freed s

section LetsGo

variable {β δ γ : Type} {entry : σ → ι → Option β} {held : β → List δ} {under : σ → δ → Option γ} {freed : σ → List δ}
  {id : ι} {owner : β} {s s' : σ}

/-- Those that are left were there. -/
theorem LetsGo.entry_iff (h : LetsGo entry held under freed id owner s s') (i : ι) (owner' : β) :
    entry s' i = some owner' ↔ i ≠ id ∧ entry s i = some owner' := by
  by_cases hi : i = id
  · rw [hi, h.gone]
    exact ⟨nofun, fun hne => absurd rfl hne.1⟩
  · rw [h.others i hi]
    exact ⟨fun he => ⟨hi, he⟩, fun he => he.2⟩

/-- No one holds anything twice, and no two hold the same. -/
structure Apart (entry : σ → ι → Option β) (held : β → List δ) (s : σ) : Prop where
  /-- One owner. -/
  nodup : ∀ id owner, entry s id = some owner → (held owner).Nodup
  /-- Two owners. -/
  disjoint : ∀ id id' owner owner', id ≠ id' → entry s id = some owner → entry s id' = some owner' →
    (held owner).Disjoint (held owner')

/-- All that the owners held was freed, each thing as often as it was held. -/
structure FreedAll (entry : σ → ι → Option β) (held : β → List δ) (under : σ → δ → Option γ) (freed : σ → List δ)
    (s s' : σ) (new : List δ) : Prop where
  /-- It is what was freed. -/
  freed : freed s' = new ++ freed s
  /-- It is what was held. -/
  mem : ∀ x, x ∈ new ↔ ∃ id owner, entry s id = some owner ∧ x ∈ held owner
  /-- It is gone. -/
  nothing : ∀ x ∈ new, under s' x = none
  /-- The rest is as it was. -/
  rest : ∀ x ∉ new, under s' x = under s x
  /-- None of it was freed twice, unless it was held twice. -/
  once : Apart entry held s → new.Nodup

omit [DecidableEq ι] in
theorem FreedAll.refl (h : ∀ id, entry s id = none) : FreedAll entry held under freed s s [] := by
  refine ⟨rfl, fun x => ⟨nofun, ?_⟩, fun _ => nofun, fun _ _ => rfl, fun _ => List.nodup_nil⟩
  rintro ⟨id, owner, howner, -⟩
  rw [h id] at howner
  cases howner

/-- One owner lets go, and then the others. -/
theorem LetsGo.freedAll {s'' : σ} {new : List δ} (h : LetsGo entry held under freed id owner s s')
    (howner : entry s id = some owner) (h' : FreedAll entry held under freed s' s'' new) :
    FreedAll entry held under freed s s'' (new ++ held owner) := by
  refine ⟨?_, fun x => ?_, fun x hx => ?_, fun x hx => ?_, fun hapart => ?_⟩
  · rw [h'.freed, h.freed, List.append_assoc]
  · rw [List.mem_append, h'.mem]
    constructor
    · rintro (⟨i, owner', he, hx⟩ | hx)
      · exact ⟨i, owner', ((h.entry_iff i owner').mp he).2, hx⟩
      · exact ⟨id, owner, howner, hx⟩
    · rintro ⟨i, owner', he, hx⟩
      by_cases hi : i = id
      · rw [hi, howner] at he
        obtain rfl := Option.some.inj he
        exact .inr hx
      · exact .inl ⟨i, owner', (h.entry_iff i owner').mpr ⟨hi, he⟩, hx⟩
  · by_cases hnew : x ∈ new
    · exact h'.nothing x hnew
    · rw [h'.rest x hnew]
      exact h.nothing x ((List.mem_append.mp hx).resolve_left hnew)
  · rw [List.mem_append, not_or] at hx
    rw [h'.rest x hx.1, h.rest x hx.2]
  · have hleft : Apart entry held s' := by
      refine ⟨fun i owner' he => hapart.nodup i owner' ((h.entry_iff i owner').mp he).2, ?_⟩
      intro i i' owner₁ owner₂ hne he₁ he₂
      exact hapart.disjoint i i' owner₁ owner₂ hne ((h.entry_iff i owner₁).mp he₁).2 ((h.entry_iff i' owner₂).mp he₂).2
    refine List.nodup_append'.mpr ⟨h'.once hleft, hapart.nodup id owner howner, fun x hnew hx => ?_⟩
    obtain ⟨i, owner', he, hx'⟩ := (h'.mem x).mp hnew
    obtain ⟨hi, he⟩ := (h.entry_iff i owner').mp he
    exact hapart.disjoint i id owner' owner hi he howner hx' hx

/-- **Closing all lets go of what any of them held**, each thing once, and of nothing else. -/
theorem ClosesAll.letsGo (hlive : ∀ s id, id ∈ owners.live s ↔ ∃ owner, entry s id = some owner)
    (hstep : ∀ id s script owner, entry s id = some owner → (owners.close id ⟨script, s⟩).1 ≠ .cut →
      LetsGo entry held under freed id owner s (owners.close id ⟨script, s⟩).2.state)
    (h : owners.ClosesAll w closed w') : ∃ new, FreedAll entry held under freed w.state w'.state new := by
  induction h with
  | @done a script s hempty =>
    refine ⟨[], FreedAll.refl fun id => Option.eq_none_iff_forall_ne_some.mpr fun owner howner => ?_⟩
    have hid := (hlive s id).mpr ⟨owner, howner⟩
    rw [hempty] at hid
    cases hid
  | @returned a script s id w₁ w' closed hid hclose _ ih =>
    obtain ⟨owner, howner⟩ := (hlive s id).mp hid
    have hgoes := hstep id s script owner howner (by simp [hclose])
    rw [hclose] at hgoes
    obtain ⟨new, hnew⟩ := ih
    exact ⟨_, hgoes.freedAll howner hnew⟩
  | @threw a script s id w₁ w' closed e hid hclose _ ih =>
    obtain ⟨owner, howner⟩ := (hlive s id).mp hid
    have hgoes := hstep id s script owner howner (by simp [hclose])
    rw [hclose] at hgoes
    obtain ⟨new, hnew⟩ := ih
    exact ⟨_, hgoes.freedAll howner hnew⟩

end LetsGo

end Owners

end All

end Effect
