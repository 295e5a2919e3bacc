import L4lb.Control.RuntimeDsrService
import L4lb.Control.RuntimeOutput
import L4lb.Effect.Simulation

/-!
# The output of the control loop

The control loop does with the lines it prints what `RuntimeOutput` does with any: each run of its
`flushPendingOutput`, `appendOutputLine` and `drainOutputOnStop` is a run of that method on the same
queue (`service_output`). What holds of every run of `RuntimeOutput` holds of the queue of the loop.

## The model

`SameQueue` — what is queued in the loop is what is queued in a `RuntimeOutput`. The loop does not
keep what it has written; and the clock of the loop is read where `RuntimeOutput` asks for the time.

## The argument

The methods agree statement by statement. A line is printed when it is queued, which the queue does
not see; memory for it is all the loop asks for before.
-/

namespace L4lb.Control

open Effect Effect.Prog

/-- The queue of the loop is the queue of `RuntimeOutput`. -/
def SameQueue (w : World ServiceCall ServiceAnswer RuntimeService) (output : RuntimeOutput) : Prop :=
  w.state.pendingOutput = output.pendingOutput

/-- A `RuntimeControlError`, in the loop. -/
def RuntimeControlError.inLoop (e : RuntimeControlError) : ServiceError := .control e.what

/-- Each run of `m` from `w` is a run of `m'` on the same queue. -/
abbrev OutputAgrees {α : Type} (m : ControlM α) (w : World ServiceCall ServiceAnswer RuntimeService)
    (m' : OutputM α) (output : RuntimeOutput) : Prop :=
  Simulates SameQueue RuntimeControlError.inLoop m w m' output

/-- The answers that are the ones of the loop, to a `write`, to `Clock::now` and to `poll`. -/
def outputAnswers (written : Except Errno ℕ) (now : Time) (polled : Except Errno Bool) :
    Answerer OutputCall OutputAnswer
  | .write _ => written
  | .now => now
  | .poll => polled.map fun broken => if broken then 1 else 0

section Agrees

variable {w : World ServiceCall ServiceAnswer RuntimeService} {output : RuntimeOutput}

/-- Nothing is taken from the queue. -/
theorem SameQueue.take_zero (h : SameQueue w output) : SameQueue w (output.take 0) := h

theorem agrees_flushPass (h : SameQueue w output) : OutputAgrees flushPass w RuntimeOutput.flushPass output := by
  refine Simulates.get_bind ?_
  rw [show w.state.pendingOutput = output.pendingOutput from h]
  refine .ite (fun _ => .pure h) fun _ => ?_
  refine Simulates.call_bind h fun r rest _ => ⟨outputAnswers (r (.write output.pendingOutput)) 0 (.ok false), ?_⟩
  have hrest : SameQueue ⟨rest, w.state⟩ output := h
  cases r (.write output.pendingOutput) with
  | error error =>
    have htake : SameQueue ⟨rest, w.state⟩ (output.take 0) := hrest.take_zero
    refine Simulates.modify_right ?_
    exact .ite (fun _ => .pure htake) fun _ => .ite (fun _ => .pure htake) fun _ => .raise htake
  | ok count =>
    refine Simulates.modify_right ?_
    refine .ite (fun hcount => .raise (e := RuntimeControlError.failed) ?_) fun _ => Simulates.modify_left (.pure ?_)
    · subst hcount
      exact hrest.take_zero
    · show w.state.pendingOutput.drop count = output.pendingOutput.drop count
      rw [h]

theorem agrees_flushPendingOutput (h : SameQueue w output) :
    OutputAgrees flushPendingOutput w RuntimeOutput.flushPendingOutput output :=
  .bind (.attempts (fun _ _ h => agrees_flushPass h) 64 h) fun _ _ _ _ h => .pure h

/-- The clock of the loop is read by one call. -/
theorem clockNow_eq : clockNow = (asks (.probe .now) >>= fun elapsed =>
    modify (fun s => { s with process := { s.process with clock := s.process.clock + elapsed } }) >>= fun _ =>
      gets fun s => s.process.clock) := by
  funext ⟨script, s⟩
  cases script with
  | nil => rfl
  | cons r rest =>
    simp only [clockNow, checkerM, steadyNow, zoom, asks, run_bind, run_call_cons, run_modify, run_gets,
      List.map_cons, List.length_cons, List.length_map]
    simp

theorem agrees_clockNow (h : SameQueue w output) : OutputAgrees clockNow w (RuntimeOutput.ask .now) output := by
  rw [clockNow_eq, ← bind_pure (RuntimeOutput.ask .now)]
  refine Simulates.call_bind h fun r rest _ =>
    ⟨outputAnswers (.ok 0) (w.state.process.clock + r (.probe .now)) (.ok false), ?_⟩
  refine Simulates.modify_left ?_
  exact .pure h

theorem agrees_drainPass (deadline : Time) (h : SameQueue w output) :
    OutputAgrees (drainPass deadline ()) w (RuntimeOutput.drainPass deadline ()) output := by
  refine Simulates.get_bind ?_
  rw [show w.state.pendingOutput = output.pendingOutput from h]
  refine .ite (fun _ => .pure h) fun _ => ?_
  refine .bind (agrees_flushPendingOutput h) fun _ w₁ output₁ _ h₁ => Simulates.get_bind ?_
  rw [show w₁.state.pendingOutput = output₁.pendingOutput from h₁]
  refine .ite (fun _ => .pure h₁) fun _ => ?_
  refine .bind (agrees_clockNow h₁) fun now w₂ output₂ _ h₂ => ?_
  refine .ite (fun _ => .raise (e := RuntimeControlError.backpressure) h₂) fun _ => ?_
  refine Simulates.call_bind h₂ fun r rest _ => ⟨outputAnswers (.ok 0) 0 (r .poll), ?_⟩
  have hrest : SameQueue ⟨rest, w₂.state⟩ output₂ := h₂
  cases r .poll with
  | error error => exact .ite (fun _ => .raise (e := RuntimeControlError.waiting) hrest) fun _ => .pure hrest
  | ok broken => exact .pure hrest

/-! ### Passes that go on -/

theorem shrinks_flushPass : Shrinks flushPass := by
  refine .get_bind fun s => .ite (.pure rfl) (.bind (.call _) fun answer => ?_)
  cases answer with
  | error error => exact .ite (.pure rfl) (.ite (.pure rfl) (.raise _))
  | ok count => exact .ite (.raise _) (.bind (.modify _) fun _ => .pure rfl)

theorem RuntimeOutput.shrinks_flushPass : Shrinks RuntimeOutput.flushPass := by
  refine .get_bind fun s => .ite (.pure rfl) (.bind (.call _) fun answer => ?_)
  cases answer with
  | error error => exact .bind (.modify _) fun _ => .ite (.pure rfl) (.ite (.pure rfl) (.raise _))
  | ok count => exact .bind (.modify _) fun _ => .ite (.raise _) (.pure rfl)

theorem shrinks_clockNow : Shrinks clockNow := by
  rw [clockNow_eq]
  exact .bind (.call _) fun elapsed => .bind (.modify _) fun _ => .gets _

theorem consumes_drainPass (deadline : Time) : Consumes (drainPass deadline) := by
  refine Spends.consumes fun _ => .get_bind fun s => .ite (.pure rfl) ?_
  refine .bind (.bind (.attempts shrinks_flushPass 64) fun _ => .pure rfl) fun _ => ?_
  refine .get_bind fun s => .ite (.pure rfl) (.bind shrinks_clockNow fun now => .ite (.raise _) ?_)
  refine .call_bind oneToGoOn_le fun answer => ?_
  cases answer with
  | error error => exact .ite (.raise _) (.pure rfl)
  | ok broken => exact .pure rfl

theorem RuntimeOutput.consumes_drainPass (deadline : Time) : Consumes (RuntimeOutput.drainPass deadline) := by
  refine Spends.consumes fun _ => .get_bind fun s => .ite (.pure rfl) ?_
  refine .bind (.bind (.attempts RuntimeOutput.shrinks_flushPass 64) fun _ => .pure rfl) fun _ => ?_
  refine .get_bind fun s => .ite (.pure rfl) (.bind (.call _) fun now => .ite (.raise _) ?_)
  refine .call_bind oneToGoOn_le fun answer => ?_
  cases answer with
  | error error => exact .ite (.raise _) (.pure rfl)
  | ok count => exact .pure rfl

/-! ### The methods -/

theorem agrees_drainOutputOnStop (h : SameQueue w output) :
    OutputAgrees drainOutputOnStop w RuntimeOutput.drainOutputOnStop output :=
  .bind (agrees_clockNow h) fun _ _ _ _ h' =>
    .loop (consumes_drainPass _) (RuntimeOutput.consumes_drainPass _) (fun _ _ _ h => agrees_drainPass _ h) () h'

/-- A line there is memory for is queued, or refused, as `RuntimeOutput` does it. -/
theorem agrees_appendOutputLine {line : OutputLine} {r : Answerer ServiceCall ServiceAnswer}
    {rest : List (Answerer ServiceCall ServiceAnswer)} {s : RuntimeService} (h : SameQueue ⟨rest, s⟩ output)
    (hallocated : r .allocate = true) :
    OutputAgrees (appendOutputLine line) ⟨r :: rest, s⟩ (RuntimeOutput.appendOutputLine line.text) output := by
  refine Simulates.call_left ?_
  rw [if_pos hallocated]
  refine Simulates.get_bind ?_
  rw [show s.pendingOutput = output.pendingOutput from h]
  refine .ite (fun _ => .raise (e := RuntimeControlError.overflow) h) fun _ => ?_
  refine Simulates.modify_right (Simulates.modify_left (agrees_flushPendingOutput ?_))
  show s.pendingOutput ++ line.text ++ [10] = output.pendingOutput ++ line.text ++ [Text.char '\n']
  rw [show s.pendingOutput = output.pendingOutput from h]
  rfl

/-- Otherwise nothing is done. -/
theorem appendOutputLine_refused {line : OutputLine} (h : ∀ r ∈ w.script.head?, r .allocate = false) :
    ((appendOutputLine line w).1 = .thrown .badAlloc ∨ (appendOutputLine line w).1 = .cut) ∧
      (appendOutputLine line w).2.state = w.state := by
  obtain ⟨script, s⟩ := w
  cases script with
  | nil => exact ⟨.inr rfl, rfl⟩
  | cons r rest =>
    have hrefused : appendOutputLine line ⟨r :: rest, s⟩ = (.thrown .badAlloc, ⟨rest, s⟩) := by
      show (if r .allocate = true then _ else _ : ControlM Unit) ⟨rest, s⟩ = _
      rw [if_neg (by simp [h r rfl]), run_raise]
    rw [hrefused]
    exact ⟨.inl rfl, rfl⟩

end Agrees

/-- **The output of the loop is a `RuntimeOutput`.** From the same queue, each run of a method of the loop is a run
of that method, ends the same way, and leaves the same queue; or it was to print a line, and there was no memory for
it. -/
theorem service_output {w : World ServiceCall ServiceAnswer RuntimeService} {output : RuntimeOutput}
    (h : SameQueue w output) :
    OutputAgrees flushPendingOutput w RuntimeOutput.flushPendingOutput output ∧
      OutputAgrees drainOutputOnStop w RuntimeOutput.drainOutputOnStop output ∧
      ∀ line, OutputAgrees (appendOutputLine line) w (RuntimeOutput.appendOutputLine line.text) output ∨
        ((appendOutputLine line w).1 = .thrown .badAlloc ∨ (appendOutputLine line w).1 = .cut) ∧
          (appendOutputLine line w).2.state = w.state := by
  refine ⟨agrees_flushPendingOutput h, agrees_drainOutputOnStop h, fun line => ?_⟩
  by_cases hrefused : ∀ r ∈ w.script.head?, r .allocate = false
  · exact .inr (appendOutputLine_refused hrefused)
  · refine .inl ?_
    obtain ⟨script, s⟩ := w
    cases script with
    | nil => exact absurd (fun r hr => nomatch hr) hrefused
    | cons r rest => exact agrees_appendOutputLine h (by simpa using hrefused)

/-- The loop queues at most 64 KiB, as `RuntimeOutput` does. -/
theorem length_serviceOutput {w : World ServiceCall ServiceAnswer RuntimeService}
    (h : w.state.pendingOutput.length ≤ 64 * 1024) (line : OutputLine) :
    (flushPendingOutput w).2.state.pendingOutput.length ≤ 64 * 1024 ∧
      (drainOutputOnStop w).2.state.pendingOutput.length ≤ 64 * 1024 ∧
      (appendOutputLine line w).2.state.pendingOutput.length ≤ 64 * 1024 := by
  -- what a method leaves is what a request leaves of a queue that is as short
  have hrequest : ∀ (request : RuntimeOutput.Request) {m : ControlM Unit},
      OutputAgrees m w request.perform ⟨w.state.pendingOutput, []⟩ →
      (m w).2.state.pendingOutput.length ≤ 64 * 1024 := by
    intro request m hagrees
    obtain ⟨output, hsame, hlength⟩ := hagrees.transfer (P := fun _ output => output.pendingOutput.length ≤ 64 * 1024)
      fun script => RuntimeOutput.length_perform request h script
    rwa [show (m w).2.state.pendingOutput = output.pendingOutput from hsame]
  have hqueue : SameQueue w ⟨w.state.pendingOutput, []⟩ := rfl
  obtain ⟨hflush, hdrain, happend⟩ := service_output hqueue
  refine ⟨hrequest .flush hflush, hrequest .drain hdrain, ?_⟩
  rcases happend line with hagrees | ⟨_, hstate⟩
  · exact hrequest (.append line.text) hagrees
  · rwa [hstate]

end L4lb.Control
