import L4lb.Health.ProbeSteps

/-!
# The life of a probe, as the history has it

What the history of a process of checkers says of its probes, sockets and polls, and what
may happen next.

## The model

* `openProbe`, `openHandle` — the probe of a target that has not ended, and its socket.
* `pollOf`, `handledInPoll`, `changesInPoll` — the time of the last poll of a checker, what it
  spent of its budget, and which targets it has moved to another state.
* `snapshotOf` — the snapshot of a target after its results.
* `ProbeEvent.Allowed` — what may happen after a history; `Lawful` — a history of what may happen.

## What is proved

In a lawful history every probe is ended once or still open (`Lawful.attempts_eq`), and every
socket that was opened is closed once or still open (`Lawful.openings_eq`).
-/

namespace L4lb.Health

open Effect Prog Relation ProbeProcess

/-! ### What the history says -/

/-- The probe of a target that has not ended: its token, and the time of the poll that sent it. -/
def openProbe (c i : ℕ) : List ProbeEvent → Option (ProbePacket × Time)
  | [] => none
  | .attempted c' i' _ token pollTime :: log =>
    if c' = c ∧ i' = i then some (token, pollTime) else openProbe c i log
  | .completed c' i' _ _ :: log => if c' = c ∧ i' = i then none else openProbe c i log
  | .cancelled c' :: log => if c' = c then none else openProbe c i log
  | _ :: log => openProbe c i log

/-- The socket of a target, while it is open. -/
def openHandle (c i : ℕ) : List ProbeEvent → Option ℤ
  | [] => none
  | .opened c' i' handle :: log => if c' = c ∧ i' = i then some handle else openHandle c i log
  | .closed c' i' _ :: log => if c' = c ∧ i' = i then none else openHandle c i log
  | _ :: log => openHandle c i log

/-- The time of the last poll of a checker. -/
def pollOf (c : ℕ) : List ProbeEvent → Option Time
  | [] => none
  | .polled c' pollTime :: log => if c' = c then some pollTime else pollOf c log
  | _ :: log => pollOf c log

/-- What the last poll of a checker has handled. -/
def handledInPoll (c : ℕ) : List ProbeEvent → ℕ
  | [] => 0
  | .polled c' _ :: log => if c' = c then 0 else handledInPoll c log
  | .handled c' _ :: log => if c' = c then handledInPoll c log + 1 else handledInPoll c log
  | _ :: log => handledInPoll c log

/-- The snapshot a target was enrolled with, after its results since. -/
def snapshotOf (c i : ℕ) : List ProbeEvent → Option ProbeSnapshot
  | [] => none
  | .enrolled c' i' snapshot :: log => if c' = c ∧ i' = i then some snapshot else snapshotOf c i log
  | .completed c' i' _ success :: log =>
    if c' = c ∧ i' = i then (snapshotOf c i log).map (·.applyResult success) else snapshotOf c i log
  | _ :: log => snapshotOf c i log

/-- A target, the state it left and the state it is in. -/
abbrev StateChange := Bytes × ProbeState × ProbeState

/-- What a result does to the state of a target. -/
def ProbeSnapshot.change (snapshot : ProbeSnapshot) (success : Bool) : List StateChange :=
  if snapshot.state ≠ (snapshot.applyResult success).state then
    [(snapshot.target.id, snapshot.state, (snapshot.applyResult success).state)]
  else []

/-- The changes of state in the last poll of a checker, the first of them first. -/
def changesInPoll (c : ℕ) : List ProbeEvent → List StateChange
  | [] => []
  | .polled c' _ :: log => if c' = c then [] else changesInPoll c log
  | .completed c' i _ success :: log =>
    if c' = c then changesInPoll c log ++ (snapshotOf c i log).elim [] (·.change success) else changesInPoll c log
  | _ :: log => changesInPoll c log

/-- What a transition says of the state. -/
def ProbeTransition.change (transition : ProbeTransition) : StateChange :=
  (transition.id, transition.«from», transition.«to»)

/-- Every probe of a target so far was sent an interval before `t`, or earlier. -/
def SpacedBy (c i : ℕ) (t : Time) : List ProbeEvent → Prop
  | [] => True
  | .attempted c' i' _ _ pollTime :: log => (c' = c ∧ i' = i → pollTime + kInterval ≤ t) ∧ SpacedBy c i t log
  | _ :: log => SpacedBy c i t log

/-! ### What may happen -/

/-- What may happen after a history. -/
def ProbeEvent.Allowed : ProbeEvent → List ProbeEvent → Prop
  -- a socket is opened when there is none, and used and closed while it is open
  | .opened c i handle, log => openHandle c i log = none ∧ 0 ≤ handle
  | .closed c i handle, log => openHandle c i log = some handle
  | .reading c i handle, log => openHandle c i log = some handle
  -- a probe is sent after the one before it, an interval later; and it goes in flight and is completed while it is open
  | .attempted c i handle _ pollTime, log =>
    openHandle c i log = some handle ∧ openProbe c i log = none ∧ SpacedBy c i pollTime log ∧ pollOf c log = some pollTime
  | .sent c i token pollTime, log => openProbe c i log = some (token, pollTime)
  | .completed c i _ _, log => (openProbe c i log).isSome
  | .handled c _, log => handledInPoll c log < kReceiveBudget
  | .rewound c _ _ completedAt pollTime, log => pollOf c log = some pollTime ∧ completedAt < pollTime
  | .reported c transitions, log =>
    (∀ i token t, openProbe c i log = some (token, t) → ∃ pollTime, pollOf c log = some pollTime ∧ pollTime < t + kTimeout) ∧
      transitions.map ProbeTransition.change = changesInPoll c log
  | .cancelled c, log => ∀ i, openHandle c i log = none
  | .pollFailed c _, log => ∀ i, openHandle c i log = none ∧ openProbe c i log = none
  | _, _ => True

/-- A history of what may happen. -/
def Lawful (log : List ProbeEvent) : Prop := ∀ e before, e :: before <:+ log → e.Allowed before

theorem lawful_nil : Lawful [] := fun _ _ h => absurd (List.suffix_nil.mp h) (List.cons_ne_nil _ _)

theorem Lawful.cons {e : ProbeEvent} {log : List ProbeEvent} (h : Lawful log) (he : e.Allowed log) : Lawful (e :: log) := by
  intro e' before hs
  rcases List.suffix_cons_iff.mp hs with heq | hs
  · obtain ⟨rfl, rfl⟩ := List.cons.inj heq
    exact he
  · exact h e' before hs

theorem Lawful.tail {e : ProbeEvent} {log : List ProbeEvent} (h : Lawful (e :: log)) : Lawful log :=
  fun e' before hs => h e' before (hs.trans (List.suffix_cons _ _))

theorem Lawful.head {e : ProbeEvent} {log : List ProbeEvent} (h : Lawful (e :: log)) : e.Allowed log :=
  h e log List.suffix_rfl

theorem Lawful.of_suffix {log before : List ProbeEvent} (h : Lawful log) (hs : before <:+ log) : Lawful before :=
  fun e' before' hs' => h e' before' (hs'.trans hs)

theorem spacedBy_iff {c i : ℕ} {t : Time} {log : List ProbeEvent} :
    SpacedBy c i t log ↔ ∀ handle token pollTime, .attempted c i handle token pollTime ∈ log → pollTime + kInterval ≤ t := by
  induction log with
  | nil => simp [SpacedBy]
  | cons e log ih =>
    cases e with
    | attempted c' i' handle token pollTime =>
      rw [SpacedBy, ih]
      constructor
      · rintro ⟨hfirst, hrest⟩ handle' token' pollTime' hm
        rcases List.mem_cons.mp hm with heq | hm
        · obtain ⟨rfl, rfl, -, -, rfl⟩ := ProbeEvent.attempted.inj heq
          exact hfirst ⟨rfl, rfl⟩
        · exact hrest handle' token' pollTime' hm
      · intro h
        refine ⟨?_, fun handle' token' pollTime' hm => h handle' token' pollTime' (List.mem_cons_of_mem _ hm)⟩
        rintro ⟨rfl, rfl⟩
        exact h handle token pollTime List.mem_cons_self
    | _ => simp [SpacedBy, ih]

theorem SpacedBy.mono {c i : ℕ} {t t' : Time} {log : List ProbeEvent} (h : SpacedBy c i t log) (ht : t ≤ t') :
    SpacedBy c i t' log :=
  spacedBy_iff.mpr fun handle token pollTime hm => (spacedBy_iff.mp h handle token pollTime hm).trans ht

/-! ### Nothing is ended twice -/

/-- The probes of a target that were sent. -/
def attempts (c i : ℕ) : List ProbeEvent → ℕ
  | [] => 0
  | .attempted c' i' _ _ _ :: log => (if c' = c ∧ i' = i then 1 else 0) + attempts c i log
  | _ :: log => attempts c i log

/-- Those that were completed. -/
def completions (c i : ℕ) : List ProbeEvent → ℕ
  | [] => 0
  | .completed c' i' _ _ :: log => (if c' = c ∧ i' = i then 1 else 0) + completions c i log
  | _ :: log => completions c i log

/-- Those that were cancelled. -/
def cancellations (c i : ℕ) : List ProbeEvent → ℕ
  | [] => 0
  | .cancelled c' :: log =>
    (if c' = c ∧ (openProbe c i log).isSome then 1 else 0) + cancellations c i log
  | _ :: log => cancellations c i log

/-- The times the socket of a target was opened. -/
def openings (c i : ℕ) : List ProbeEvent → ℕ
  | [] => 0
  | .opened c' i' _ :: log => (if c' = c ∧ i' = i then 1 else 0) + openings c i log
  | _ :: log => openings c i log

/-- The times it was closed. -/
def closings (c i : ℕ) : List ProbeEvent → ℕ
  | [] => 0
  | .closed c' i' _ :: log => (if c' = c ∧ i' = i then 1 else 0) + closings c i log
  | _ :: log => closings c i log

/-- **A probe is completed or cancelled once, or has not ended yet.** -/
theorem Lawful.attempts_eq {log : List ProbeEvent} (h : Lawful log) (c i : ℕ) :
    attempts c i log = completions c i log + cancellations c i log + if (openProbe c i log).isSome then 1 else 0 := by
  induction log with
  | nil => rfl
  | cons e log ih =>
    have ih := ih h.tail
    cases e with
    | attempted c' i' handle token pollTime =>
      obtain ⟨-, hnone, -⟩ := h.head
      simp only [attempts, completions, cancellations, openProbe]
      by_cases he : c' = c ∧ i' = i
      · obtain ⟨rfl, rfl⟩ := he
        simp only [hnone, and_self, if_true, Option.isSome_none, Option.isSome_some, Bool.false_eq_true, if_false] at ih ⊢
        omega
      · simpa only [if_neg he, Nat.zero_add] using ih
    | completed c' i' target success =>
      simp only [attempts, completions, cancellations, openProbe]
      by_cases he : c' = c ∧ i' = i
      · obtain ⟨rfl, rfl⟩ := he
        have hsome : (openProbe c' i' log).isSome = true := h.head
        simp only [hsome, and_self, if_true, Option.isSome_none, Bool.false_eq_true, if_false] at ih ⊢
        omega
      · simpa only [if_neg he, Nat.zero_add] using ih
    | cancelled c' =>
      simp only [attempts, completions, cancellations, openProbe]
      by_cases he : c' = c
      · subst he
        simp only [true_and, if_true, Option.isSome_none, Bool.false_eq_true, if_false] at ih ⊢
        omega
      · simpa only [he, false_and, if_false, Nat.zero_add] using ih
    | _ => exact ih

/-- **A socket that was opened is closed once, or is still open.** -/
theorem Lawful.openings_eq {log : List ProbeEvent} (h : Lawful log) (c i : ℕ) :
    openings c i log = closings c i log + if (openHandle c i log).isSome then 1 else 0 := by
  induction log with
  | nil => rfl
  | cons e log ih =>
    have ih := ih h.tail
    cases e with
    | opened c' i' handle =>
      obtain ⟨hnone, -⟩ := h.head
      simp only [openings, closings, openHandle]
      by_cases he : c' = c ∧ i' = i
      · obtain ⟨rfl, rfl⟩ := he
        simp only [hnone, and_self, if_true, Option.isSome_none, Option.isSome_some, Bool.false_eq_true, if_false] at ih ⊢
        omega
      · simpa only [if_neg he, Nat.zero_add] using ih
    | closed c' i' handle =>
      have hopen : openHandle c' i' log = some handle := h.head
      simp only [openings, closings, openHandle]
      by_cases he : c' = c ∧ i' = i
      · obtain ⟨rfl, rfl⟩ := he
        simp only [hopen, and_self, if_true, Option.isSome_none, Option.isSome_some, Bool.false_eq_true, if_false] at ih ⊢
        omega
      · simpa only [if_neg he, Nat.zero_add] using ih
    | _ => exact ih

/-- A poll handles no more than its budget. -/
theorem Lawful.handledInPoll_le {log : List ProbeEvent} (h : Lawful log) (c : ℕ) : handledInPoll c log ≤ kReceiveBudget := by
  induction log with
  | nil => exact Nat.zero_le _
  | cons e log ih =>
    have ih := ih h.tail
    cases e with
    | polled c' pollTime =>
      simp only [handledInPoll]
      split
      · exact Nat.zero_le _
      · exact ih
    | handled c' i =>
      simp only [handledInPoll]
      split
      · rename_i he
        subst he
        exact h.head
      · exact ih
    | _ => exact ih

end L4lb.Health
