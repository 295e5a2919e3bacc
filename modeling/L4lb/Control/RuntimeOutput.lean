import L4lb.Core.System
import L4lb.Effect.Prog
import L4lb.Text.Chars

/-!
# The output queue of the runtime

`RuntimeOutput` queues lines for a standard output that may take any part of them, or none.
Whatever the order of its calls, and whatever each `write` comes to, what was written and what
is queued is the lines that were let in, each with its newline, in that order; at most 64 KiB
are queued, and a flush writes 64 times at most (`runtime_output_queue`).

## The model

* `RuntimeOutput` — the queue, with what each `write` so far took of it.
* `appendOutputLine`, `flushPendingOutput`, `drainOutputOnStop` — its methods.
* `RuntimeOutput.Used` — calls of them in any order, each with what it came to.

## The argument

A pass of `flushPendingOutput` moves what `write` took from the front of the queue to the end of
what was written, in one call of `write` at most (`passed_flushPass`). The only `throw` that is
about a line is before the line is queued.
-/

namespace L4lb.Control

open Effect Relation

/-- `RuntimeControlError`. -/
structure RuntimeControlError where
  /-- `what()`. -/
  what : String
  deriving DecidableEq, Repr

namespace RuntimeControlError

/-- Of `appendOutputLine`. -/
def overflow : RuntimeControlError := ⟨"runtime 输出队列超过64KiB"⟩

/-- Of `flushPendingOutput`. -/
def failed : RuntimeControlError := ⟨"runtime 输出失败"⟩

/-- Of `drainOutputOnStop`, at its deadline. -/
def backpressure : RuntimeControlError := ⟨"停止后 runtime 输出背压超时"⟩

/-- Of `drainOutputOnStop`, at `poll`. -/
def waiting : RuntimeControlError := ⟨"runtime 输出等待失败"⟩

end RuntimeControlError

/-- `RuntimeOutput`, and the calls of `write` it has made. -/
structure RuntimeOutput where
  /-- `pendingOutput_`. -/
  pendingOutput : Bytes := []
  /-- What each `write` took, first write first. -/
  writes : List Bytes := []
  deriving DecidableEq, Repr

/-- The calls. -/
inductive OutputCall where
  /-- `write`. -/
  | write (bytes : Bytes)
  /-- `Clock::now`. -/
  | now
  /-- `poll`, for 20 ms. -/
  | poll

/-- The answers. -/
abbrev OutputAnswer : OutputCall → Type
  | .write _ => Except Errno ℕ
  | .now => Time
  | .poll => Except Errno ℕ

/-- A method of the queue. -/
abbrev OutputM := Prog OutputCall OutputAnswer RuntimeOutput RuntimeControlError

namespace RuntimeOutput

/-- Make a call. -/
def ask (c : OutputCall) : OutputM (OutputAnswer c) := Prog.call c

/-- What was written to the standard output. -/
def written (s : RuntimeOutput) : Bytes := s.writes.flatten

/-- A call of `write` that took `count` bytes, which are erased from the queue. -/
def take (s : RuntimeOutput) (count : ℕ) : RuntimeOutput :=
  ⟨s.pendingOutput.drop count, s.writes ++ [s.pendingOutput.take count]⟩

/-- A line is queued. -/
def enqueue (s : RuntimeOutput) (line : Bytes) : RuntimeOutput :=
  { s with pendingOutput := s.pendingOutput ++ line ++ [Text.char '\n'] }

open Prog

/-- A pass of the loop of `flushPendingOutput`. A `write` that failed took nothing. -/
def flushPass : OutputM (Option Unit) := do
  let s ← get
  if s.pendingOutput = [] then pure (some ())
  else
    match ← ask (.write s.pendingOutput) with
    | .error error =>
      modify (·.take 0)
      if error = .EINTR then pure none
      else if error = .EAGAIN ∨ error = .EWOULDBLOCK then pure (some ())
      else raise .failed
    | .ok count =>
      modify (·.take count)
      if count = 0 then raise .failed else pure none

/-- `RuntimeOutput::flushPendingOutput`. -/
def flushPendingOutput : OutputM Unit := do
  let _ ← attempts flushPass 64

/-- `RuntimeOutput::appendOutputLine`. -/
def appendOutputLine (line : Bytes) : OutputM Unit := do
  let s ← get
  if s.pendingOutput.length + line.length + 1 > 64 * 1024 then raise .overflow
  else
    modify (·.enqueue line)
    flushPendingOutput

/-- A pass of the loop of `drainOutputOnStop`. -/
def drainPass (deadline : Time) (_ : Unit) : OutputM (Unit ⊕ Unit) := do
  if (← get).pendingOutput = [] then pure (.inr ())
  else
    flushPendingOutput
    if (← get).pendingOutput = [] then pure (.inr ())
    else
      let now ← ask .now
      if now ≥ deadline then raise .backpressure
      else
        match ← ask .poll with
        | .error error => if error ≠ .EINTR then raise .waiting else pure (.inl ())
        | .ok _ => pure (.inl ())

/-- `RuntimeOutput::drainOutputOnStop`. -/
def drainOutputOnStop : OutputM Unit := do
  let now ← ask .now
  loop (drainPass (now + Time.seconds 1)) ()

/-! ### A pass -/

/-- Some of the queue was written, in `n` calls of `write` at most. -/
structure Passed (n : ℕ) (s s' : RuntimeOutput) : Prop where
  /-- No byte is lost, and none is written twice. -/
  kept : s'.written ++ s'.pendingOutput = s.written ++ s.pendingOutput
  /-- The queue does not grow. -/
  shorter : s'.pendingOutput.length ≤ s.pendingOutput.length
  /-- The calls. -/
  calls : s'.writes.length ≤ s.writes.length + n

namespace Passed

variable {n m : ℕ} {s s' s'' : RuntimeOutput}

protected theorem refl : Passed n s s := ⟨rfl, le_rfl, by omega⟩

protected theorem trans (h : Passed n s s') (h' : Passed m s' s'') : Passed (n + m) s s'' where
  kept := h'.kept.trans h.kept
  shorter := h'.shorter.trans h.shorter
  calls := by
    have := h.calls
    have := h'.calls
    omega

theorem take (count : ℕ) : Passed 1 s (s.take count) where
  kept := by simp [RuntimeOutput.take, written]
  shorter := by simp [RuntimeOutput.take]
  calls := by simp [RuntimeOutput.take]

end Passed

/-- Every run of `m` writes some of the queue, and throws nothing about a line. -/
def Passes (n : ℕ) (m : OutputM α) : Prop :=
  ∀ w, Passed n w.state (m w).2.state ∧ (m w).1 ≠ .thrown .overflow

namespace Passes

variable {α β : Type} {n k : ℕ} {m : OutputM α} {f : α → OutputM β}

protected theorem pure (a : α) : Passes n (pure a : OutputM α) := by
  intro w
  simp [Passed.refl]

protected theorem raise {e : RuntimeControlError} (h : e ≠ .overflow) : Passes n (raise e : OutputM α) := by
  intro w
  simp [Passed.refl, h]

protected theorem take (count : ℕ) : Passes 1 (modify (·.take count)) := by
  intro w
  simp [Passed.take]

protected theorem ask (c : OutputCall) : Passes n (ask c) := by
  intro ⟨script, s⟩
  cases script with
  | nil => simp [RuntimeOutput.ask, Passed.refl]
  | cons answer rest => simp [RuntimeOutput.ask, Passed.refl]

protected theorem get {f : RuntimeOutput → OutputM β} (h : ∀ s, Passes n (f s)) : Passes n (get >>= f) :=
  fun w => h w.state w

protected theorem bind (hm : Passes n m) (hf : ∀ a, Passes k (f a)) : Passes (n + k) (m >>= f) := by
  intro w
  obtain ⟨hpassed, hthrown⟩ := hm w
  rw [run_bind]
  rcases hw : m w with ⟨a | e | _, w'⟩
  · rw [hw] at hpassed
    obtain ⟨hpassed', hthrown'⟩ := hf a w'
    exact ⟨hpassed.trans hpassed', hthrown'⟩
  · rw [hw] at hpassed hthrown
    exact ⟨hpassed.trans (m := k) .refl, by simpa using hthrown⟩
  · rw [hw] at hpassed
    exact ⟨hpassed.trans (m := k) .refl, by simp⟩

theorem ask_bind {c : OutputCall} {f : OutputAnswer c → OutputM β} (h : ∀ answer, Passes n (f answer)) :
    Passes n (ask c >>= f) :=
  Nat.zero_add n ▸ .bind (.ask c) h

protected theorem attempts {body : OutputM (Option α)} (h : Passes 1 body) (n : ℕ) : Passes n (attempts body n) := by
  induction n with
  | zero => exact .pure none
  | succ n ih =>
    have hsucc : Passes (1 + n) (attempts body (n + 1)) := h.bind fun r => by
      cases r with
      | none => exact ih
      | some a => exact .pure (some a)
    rwa [Nat.add_comm] at hsucc

end Passes

/-- **A pass makes one call of `write` at most**, and takes off the queue what was written. -/
theorem passes_flushPass : Passes 1 flushPass := by
  refine .get fun s => ?_
  by_cases hs : s.pendingOutput = []
  · rw [if_pos hs]
    exact .pure _
  · rw [if_neg hs]
    refine .ask_bind fun answer => ?_
    cases answer with
    | error error =>
      refine .bind (.take 0) (k := 0) fun _ => ?_
      by_cases hintr : error = .EINTR
      · rw [if_pos hintr]
        exact .pure none
      · rw [if_neg hintr]
        by_cases hagain : error = .EAGAIN ∨ error = .EWOULDBLOCK
        · rw [if_pos hagain]
          exact .pure _
        · rw [if_neg hagain]
          exact .raise (by decide)
    | ok count =>
      refine .bind (.take count) (k := 0) fun _ => ?_
      by_cases hcount : count = 0
      · rw [if_pos hcount]
        exact .raise (by decide)
      · rw [if_neg hcount]
        exact .pure none

/-- A flush makes 64 calls of `write` at most. -/
theorem passes_flushPendingOutput : Passes 64 flushPendingOutput :=
  .bind (k := 0) (passes_flushPass.attempts 64) fun _ => .pure ()

/-! ### A call -/

/-- Some of the queue was written, in any number of calls. -/
def Moved (s s' : RuntimeOutput) : Prop := ∃ n, Passed n s s'

theorem moved_of_chain {s s' : RuntimeOutput} (h : ReflTransGen Moved s s') : Moved s s' := by
  induction h with
  | refl => exact ⟨0, .refl⟩
  | tail _ h ih =>
    obtain ⟨n, hn⟩ := ih
    obtain ⟨k, hk⟩ := h
    exact ⟨n + k, hn.trans hk⟩

/-- Every run of `m` from `s` writes some of the queue, and throws nothing about a line. -/
def Drains (m : OutputM α) (s : RuntimeOutput) : Prop :=
  Runs Moved (fun e _ => e ≠ .overflow) m s fun _ _ => True

theorem Passes.drains {n : ℕ} {m : OutputM α} (h : Passes n m) (s : RuntimeOutput) : Drains m s := by
  intro script
  obtain ⟨hpassed, hthrown⟩ := h ⟨script, s⟩
  refine ⟨.single ⟨n, hpassed⟩, ?_⟩
  rcases hm : (m ⟨script, s⟩).1 with a | e | _
  · trivial
  · simpa [hm] using hthrown
  · trivial

/-- A pass of `drainOutputOnStop` is one flush at most. -/
theorem passes_drainPass (deadline : Time) : Passes 64 (drainPass deadline ()) := by
  refine .get fun s => ?_
  by_cases hs : s.pendingOutput = []
  · rw [if_pos hs]
    exact .pure _
  · rw [if_neg hs]
    refine .bind (k := 0) passes_flushPendingOutput fun _ => .get fun s' => ?_
    by_cases hs' : s'.pendingOutput = []
    · rw [if_pos hs']
      exact .pure _
    · rw [if_neg hs']
      refine .ask_bind fun now => ?_
      by_cases hnow : now ≥ deadline
      · rw [if_pos hnow]
        exact .raise (by decide)
      · rw [if_neg hnow]
        refine .ask_bind fun polled => ?_
        cases polled with
        | error error =>
          show Passes 0 (if error ≠ .EINTR then raise .waiting else pure (.inl ()) : OutputM (Unit ⊕ Unit))
          by_cases herror : error ≠ .EINTR
          · rw [if_pos herror]
            exact .raise (by decide)
          · rw [if_neg herror]
            exact .pure _
        | ok _ => exact .pure _

theorem drains_drainOutputOnStop (s : RuntimeOutput) : Drains drainOutputOnStop s := by
  refine Runs.bind ((Passes.ask (n := 0) .now).drains s) fun now s' _ _ => ?_
  refine Runs.loop (fun _ _ => True) (fun _ s _ => ?_) trivial
  refine ((passes_drainPass _).drains s).post fun r _ _ _ => ?_
  cases r with
  | inl _ => trivial
  | inr _ => trivial

/-- What is asked of the queue. -/
inductive Request where
  /-- `appendOutputLine`. -/
  | append (line : Bytes)
  /-- `flushPendingOutput`. -/
  | flush
  /-- `drainOutputOnStop`. -/
  | drain
  deriving DecidableEq, Repr

/-- The call. -/
def Request.perform : Request → OutputM Unit
  | .append line => appendOutputLine line
  | .flush => flushPendingOutput
  | .drain => drainOutputOnStop

/-- What a call lets in: its line and a newline, unless it threw that there is no room. -/
def Request.accepted (request : Request) (outcome : Outcome RuntimeControlError Unit) : Bytes :=
  match request with
  | .append line => if outcome = .thrown .overflow then [] else line ++ [Text.char '\n']
  | .flush => []
  | .drain => []

/-- The calls made of a new queue, each with what it came to. What they call is answered anyhow, and each may be
seen before it has come to anything. -/
inductive Used : List (Request × Outcome RuntimeControlError Unit) → RuntimeOutput → Prop
  /-- None yet. -/
  | fresh : Used [] {}
  /-- One more. -/
  | next {calls : List (Request × Outcome RuntimeControlError Unit)} {s : RuntimeOutput} (h : Used calls s)
      (request : Request) (script : List (Answerer OutputCall OutputAnswer)) :
      Used (calls ++ [(request, (request.perform ⟨script, s⟩).1)]) (request.perform ⟨script, s⟩).2.state

/-- The lines that were let in, one after the other, each with its newline. -/
def accepted (calls : List (Request × Outcome RuntimeControlError Unit)) : Bytes :=
  (calls.map fun call => call.1.accepted call.2).flatten

/-- A line there is no room for is not queued, and nothing is written. -/
theorem append_overflow {s : RuntimeOutput} {line : Bytes} {script : List (Answerer OutputCall OutputAnswer)}
    (h : s.pendingOutput.length + line.length + 1 > 64 * 1024) :
    appendOutputLine line ⟨script, s⟩ = (.thrown .overflow, ⟨script, s⟩) := by
  rw [appendOutputLine, run_bind, run_get]
  show (if _ then _ else _ : OutputM Unit) ⟨script, s⟩ = _
  rw [if_pos h, run_raise]

/-- Any other is queued, and then some of the queue is written. -/
theorem append_fits {s : RuntimeOutput} {line : Bytes} {script : List (Answerer OutputCall OutputAnswer)}
    (h : ¬ s.pendingOutput.length + line.length + 1 > 64 * 1024) :
    appendOutputLine line ⟨script, s⟩ = flushPendingOutput ⟨script, s.enqueue line⟩ := by
  rw [appendOutputLine, run_bind, run_get]
  show (if _ then _ else _ : OutputM Unit) ⟨script, s⟩ = _
  rw [if_neg h]
  rfl

/-- **What a call does**: what it lets in goes to the end of the queue, some of which is written. -/
theorem kept_perform (request : Request) (s : RuntimeOutput) (script : List (Answerer OutputCall OutputAnswer)) :
    (request.perform ⟨script, s⟩).2.state.written ++ (request.perform ⟨script, s⟩).2.state.pendingOutput =
      s.written ++ s.pendingOutput ++ request.accepted (request.perform ⟨script, s⟩).1 := by
  cases request with
  | append line =>
    by_cases h : s.pendingOutput.length + line.length + 1 > 64 * 1024
    · simp [Request.perform, append_overflow h, Request.accepted]
    · obtain ⟨hpassed, hthrown⟩ := passes_flushPendingOutput ⟨script, s.enqueue line⟩
      rw [Request.perform, append_fits h, hpassed.kept, Request.accepted, if_neg hthrown]
      simp [enqueue, written]
  | flush => simp [Request.accepted, Request.perform, (passes_flushPendingOutput ⟨script, s⟩).1.kept]
  | drain =>
    obtain ⟨_, hpassed⟩ := moved_of_chain ((drains_drainOutputOnStop s).chain script)
    simp [Request.accepted, Request.perform, hpassed.kept]

/-- A call leaves at most 64 KiB queued. -/
theorem length_perform (request : Request) {s : RuntimeOutput} (h : s.pendingOutput.length ≤ 64 * 1024)
    (script : List (Answerer OutputCall OutputAnswer)) :
    (request.perform ⟨script, s⟩).2.state.pendingOutput.length ≤ 64 * 1024 := by
  cases request with
  | append line =>
    by_cases hline : s.pendingOutput.length + line.length + 1 > 64 * 1024
    · rw [Request.perform, append_overflow hline]
      exact h
    · rw [Request.perform, append_fits hline]
      refine (passes_flushPendingOutput _).1.shorter.trans ?_
      simp only [enqueue, List.length_append, List.length_singleton]
      omega
  | flush => exact (passes_flushPendingOutput _).1.shorter.trans h
  | drain =>
    obtain ⟨_, hpassed⟩ := moved_of_chain ((drains_drainOutputOnStop s).chain script)
    exact hpassed.shorter.trans h

theorem kept_of_used {calls : List (Request × Outcome RuntimeControlError Unit)} {s : RuntimeOutput}
    (h : Used calls s) : s.written ++ s.pendingOutput = accepted calls := by
  induction h with
  | fresh => rfl
  | next _ request script ih =>
    rw [kept_perform, ih]
    simp [accepted]

theorem length_of_used {calls : List (Request × Outcome RuntimeControlError Unit)} {s : RuntimeOutput}
    (h : Used calls s) : s.pendingOutput.length ≤ 64 * 1024 := by
  induction h with
  | fresh => exact Nat.zero_le _
  | next _ request script ih => exact length_perform request ih script

/-- Every `write` comes to `result`. -/
def writeAnswers (result : Except Errno ℕ) : Answerer OutputCall OutputAnswer
  | .write _ => result
  | .now => 0
  | .poll => .ok 1

end RuntimeOutput

open RuntimeOutput

/-- **The output queue of the runtime.** After any calls, made in any order and answered anyhow, what was written and
what is queued is what was let in, byte for byte; and at most 64 KiB are queued. A line that is refused for want of
room leaves everything as it was; and any flush makes 64 calls of `write` at most. -/
theorem runtime_output_queue {calls : List (Request × Outcome RuntimeControlError Unit)} {s : RuntimeOutput}
    (h : Used calls s) :
    s.written ++ s.pendingOutput = accepted calls ∧ s.pendingOutput.length ≤ 65536 ∧
      (∀ line script, (appendOutputLine line ⟨script, s⟩).1 = .thrown .overflow →
        (appendOutputLine line ⟨script, s⟩).2.state = s) ∧
      ∀ t script, (flushPendingOutput ⟨script, t⟩).2.state.writes.length ≤ t.writes.length + 64 := by
  refine ⟨kept_of_used h, length_of_used h, fun line script hthrown => ?_, fun t script => ?_⟩
  · by_cases hline : s.pendingOutput.length + line.length + 1 > 64 * 1024
    · rw [append_overflow hline]
    · rw [append_fits hline] at hthrown
      exact absurd hthrown (passes_flushPendingOutput _).2
  · exact (passes_flushPendingOutput ⟨script, t⟩).1.calls

/-- One byte of a line is written, then an interrupted call writes none, and then the output is full. -/
theorem runtime_output_queue_torn :
    let s : RuntimeOutput := ⟨[98, 10], [[97], [], []]⟩
    s.written ++ s.pendingOutput = accepted [(.append [97, 98], .ok ())] ∧ s.pendingOutput.length ≤ 65536 ∧
      (∀ line script, (appendOutputLine line ⟨script, s⟩).1 = .thrown .overflow →
        (appendOutputLine line ⟨script, s⟩).2.state = s) ∧
      ∀ t script, (flushPendingOutput ⟨script, t⟩).2.state.writes.length ≤ t.writes.length + 64 :=
  runtime_output_queue (.next .fresh (.append [97, 98])
    [writeAnswers (.ok 1), writeAnswers (.error .EINTR), writeAnswers (.error .EAGAIN)])

end L4lb.Control
