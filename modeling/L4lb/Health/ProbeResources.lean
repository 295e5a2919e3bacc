import L4lb.Health.ProbeLifecycle

/-!
# The sockets and tokens of a checker

Whatever fails, a checker gives back what it opened: each socket is closed once, no token is
left in a probe, and a checker that has failed is no use to anyone.

## The model

* `Reached` — a process between two requests, after any requests.
* `SocketsRespected` — in the history, only open sockets are used and closed, and no socket is
  opened over another.
* `Released` — a checker has closed every socket it ever opened, and none of its probes is left.
* `replaceNothing` — a candidate is constructed and destroyed.

## What is proved

A checker that could not be constructed, that failed in a poll or that was destroyed is
released; after that no request changes it, and its polls throw. A candidate changes no other
checker (`probe_resources`).
-/

namespace L4lb.Health

open Effect Prog Relation ProbeProcess

/-- A process between two requests. -/
inductive Reached : ProbeProcess → Prop where
  /-- Before the first. -/
  | start (nonceSource : ProbeNonceSequence) (clock : Time) : Reached (startProcess nonceSource clock)
  /-- After one more. -/
  | served {s : ProbeProcess} {request : ProbeRequest} {script : List (Answerer ProbeCall ProbeAnswer)}
      {w : World ProbeCall ProbeAnswer ProbeProcess} (h : Reached s)
      (hserve : serveProbeRequest request ⟨script, s⟩ = (.ok (), w)) : Reached w.state

/-- Only open sockets are used and closed, and none is opened over another. -/
structure SocketsRespected (log : List ProbeEvent) : Prop where
  /-- A socket is opened for a target that has none. -/
  opened : ∀ c i handle before, .opened c i handle :: before <:+ log → openHandle c i before = none
  /-- A socket is closed while it is open. -/
  closed : ∀ c i handle before, .closed c i handle :: before <:+ log → openHandle c i before = some handle
  /-- A probe is sent on the open socket of its target. -/
  sent : ∀ c i handle token t before, .attempted c i handle token t :: before <:+ log → openHandle c i before = some handle
  /-- An open socket is read. -/
  read : ∀ c i handle before, .reading c i handle :: before <:+ log → openHandle c i before = some handle
  /-- A socket that was opened is closed once, or is still open. -/
  conserved : ∀ before, before <:+ log → ∀ c i,
    openings c i before = closings c i before + if (openHandle c i before).isSome then 1 else 0

/-- A checker has closed every socket it ever opened, and none of its probes is left. -/
structure Released (checker : ℕ) (s : ProbeProcess) : Prop where
  /-- Each socket was closed as often as it was opened, and is not open. -/
  closed : ∀ i, openings checker i s.log = closings checker i s.log ∧ openHandle checker i s.log = none
  /-- No probe has a socket or a token, or is in flight. -/
  terminated : Terminated checker s

/-- A candidate is constructed and, if that succeeds, destroyed. -/
def replaceNothing (targets : List ProbeTarget) (previous : List ProbeSnapshot) : CheckerM Unit := do
  let candidate ← constructChecker targets previous
  cancelAllProbes candidate

section Resources

variable {s : ProbeProcess} {c self : ℕ}

theorem Lawful.socketsRespected {log : List ProbeEvent} (h : Lawful log) : SocketsRespected log where
  opened _ _ _ _ hs := (h _ _ hs).1
  closed _ _ _ _ hs := h _ _ hs
  sent _ _ _ _ _ _ hs := (h _ _ hs).1
  read _ _ _ _ hs := h _ _ hs
  conserved _ hs c i := (h.of_suffix hs).openings_eq c i

theorem Reached.settled (h : Reached s) : Settled s := by
  induction h with
  | start nonceSource clock => exact settled_start nonceSource clock
  | served _ hserve ih => exact ((settles_serveProbeRequest ih _).of_ok hserve).2.1

theorem Ended.released (h : Ended c s) (hrecorded : Recorded s) : Released c s := by
  refine ⟨fun i => ⟨?_, (h.closed i).1⟩, h.terminated⟩
  have heq := hrecorded.lawful.openings_eq c i
  rw [(h.closed i).1] at heq
  exact heq

/-! ### A checker that has ended -/

theorem Probe.cancel_terminated {probe : Probe} (hidle : probe.awaitingReply = false)
    (htoken : probe.token = .replicate 24 0) (hclosed : probe.handle = -1) : probe.cancel = probe := by
  unfold Probe.cancel
  rw [← hidle, ← htoken, ← hclosed]

theorem Terminated.cancel (h : Terminated c s) : ((s.cancel c).checkers c).probes = (s.checkers c).probes := by
  rw [probes_cancel]
  refine (List.map_congr_left (g := id) fun probe hmem => ?_).trans (List.map_id _)
  obtain ⟨hidle, htoken, hclosed⟩ := h probe hmem
  exact Probe.cancel_terminated hidle htoken hclosed

theorem sendDueProbePackets_terminated (h : Terminated c s) (hne : (s.checkers c).probes ≠ []) (pollTime : Time)
    (script : List (Answerer ProbeCall ProbeAnswer)) :
    sendDueProbePackets c pollTime ⟨script, s⟩ = (.thrown .terminated, ⟨script, s⟩) := by
  obtain ⟨probe, rest, hprobes⟩ := List.exists_cons_of_ne_nil hne
  have hclosed : (s.probe c 0).handle < 0 := by
    have hfirst := (h probe (hprobes ▸ List.mem_cons_self)).2.2
    rw [ProbeProcess.probe, hprobes]
    exact hfirst ▸ (by decide : (-1 : ℤ) < 0)
  have hpass : sendDueProbePacket c pollTime 0 ⟨script, s⟩ = (.thrown .terminated, ⟨script, s⟩) := by
    simp only [sendDueProbePacket, run_bind, run_gets, if_pos hclosed, run_raise]
  simp only [sendDueProbePackets, run_bind, run_get, hprobes, List.length_cons, List.range_succ_eq_map, forEach, hpass]

/-- **The poll of a checker that has ended throws**, and leaves its probes as they were. -/
theorem poll_terminated (h : Terminated c s) (hne : (s.checkers c).probes ≠ []) (pollTime : Time)
    (script : List (Answerer ProbeCall ProbeAnswer)) :
    ∃ error s', pollProbeTransitions c pollTime ⟨script, s⟩ = (.thrown error, ⟨script, s'⟩) ∧
      (s'.checkers c).probes = (s.checkers c).probes := by
  set s₀ : ProbeProcess := { s with transitions := [] } with hs₀
  by_cases hback : (s₀.checkers c).hasPolled ∧ pollTime < (s₀.checkers c).lastPollTime
  · refine ⟨.pollClockBackwards, s₀.cancel c, ?_, Terminated.cancel (s := s₀) h⟩
    simp only [pollProbeTransitions, handle, cancelAllProbes, run_bind, run_modify, run_get, ← hs₀, if_pos hback,
      run_raise]
  · set s₁ := (s₀.setChecker c fun checker =>
      { checker with lastPollTime := pollTime, hasPolled := true, lastReceiveEventCount := 0 }).record
        (.polled c pollTime) with hs₁
    have hprobes : (s₁.checkers c).probes = (s.checkers c).probes :=
      (quiet_setChecker s₀ c (f := fun checker =>
        { checker with lastPollTime := pollTime, hasPolled := true, lastReceiveEventCount := 0 }) fun _ => rfl).probes c
    have h₁ : Terminated c s₁ := fun probe hmem => h probe (hprobes ▸ hmem)
    have hsend := sendDueProbePackets_terminated h₁ (hprobes ▸ hne) pollTime script
    refine ⟨.terminated, s₁.cancel c, ?_, h₁.cancel.trans hprobes⟩
    simp only [pollProbeTransitions, handle, cancelAllProbes, run_bind, run_modify, run_get, ← hs₀, if_neg hback,
      ← hs₁, hsend, run_raise]

/-! ### The other checkers -/

/-- A poll of a checker leaves the others alone. -/
theorem ProbeStep.others {s' : ProbeProcess} (hstep : ProbeStep self s s') (hc : c ≠ self) :
    (s'.checkers c).probes = (s.checkers c).probes := by
  have hset : ∀ (t : ProbeProcess) (i : ℕ) (p : Probe), ((t.setProbe self i p).checkers c).probes = (t.checkers c).probes :=
    fun t i p => congrArg UdpProbeChecker.probes (setChecker_others hc _)
  cases hstep with
  | quiet hq => exact hq.probes c
  | cancel => rw [(built_cancel s self).others c hc]
  | note | ignore => rfl
  | generate | launch | succeed | late | fail => exact hset _ _ _

theorem openHandle_closedSockets (hc : c ≠ self) (probes : List Probe) (i : ℕ) (log : List ProbeEvent) :
    openHandle c i (closedSockets self probes ++ log) = openHandle c i log := by
  induction probes using List.reverseRecOn with
  | nil => rfl
  | append_singleton probes p ih =>
    rw [closedSockets_concat]
    split
    · refine (if_neg ?_).trans ih
      rintro ⟨rfl, -⟩
      exact hc rfl
    · exact ih

/-- A construction leaves the sockets of the others alone. -/
theorem BuildStep.sockets {s' : ProbeProcess} (hstep : BuildStep self s s') (hc : c ≠ self) (i : ℕ) :
    openHandle c i s'.log = openHandle c i s.log := by
  cases hstep with
  | start | enroll | configured => rfl
  | «open» =>
    unfold ProbeProcess.opened
    split
    · rfl
    · refine if_neg ?_
      rintro ⟨rfl, -⟩
      exact hc rfl
  | cancel => exact openHandle_closedSockets hc _ i _

/-- The other checkers are as they were, and their sockets. -/
def Untouched (self : ℕ) (s s' : ProbeProcess) : Prop :=
  ∀ c, c ≠ self → s'.checkers c = s.checkers c ∧ ∀ i, openHandle c i s'.log = openHandle c i s.log

/-- **A candidate leaves the other checkers alone**, at every point. -/
theorem untouched_replaceNothing (s : ProbeProcess) (targets : List ProbeTarget) (previous : List ProbeSnapshot)
    (script : List (Answerer ProbeCall ProbeAnswer)) :
    Untouched s.nextChecker s (replaceNothing targets previous ⟨script, s⟩).2.state := by
  have hruns : Runs (BuildStep s.nextChecker) (fun _ _ => True) (replaceNothing targets previous) s fun _ _ => True := by
    unfold replaceNothing
    refine Runs.bind ((runs_constructChecker targets previous s).mono (fun _ _ _ _ => trivial) fun _ _ _ h => h) ?_
    rintro self s' - ⟨rfl, -⟩
    exact Runs.modify (.single .cancel) trivial
  refine hruns.invariant (fun _ _ => ⟨rfl, fun _ => rfl⟩) (fun s₁ s₂ hstep h c hc => ?_) script
  obtain ⟨hchecker, hsockets⟩ := h c hc
  exact ⟨(hstep.others hc).trans hchecker, fun i => (hstep.sockets hc i).trans (hsockets i)⟩

/-- The probes of a checker are as they were. -/
def Stands (checker : ℕ) (s s' : ProbeProcess) : Prop := (s'.checkers checker).probes = (s.checkers checker).probes

theorem stands_of_runs {α : Type} {m : CheckerM α} {Q : α → ProbeProcess → Prop}
    (h : Runs (Stands c) (fun _ _ => True) m s Q) (script : List (Answerer ProbeCall ProbeAnswer)) :
    Stands c s (m ⟨script, s⟩).2.state :=
  h.invariant (I := Stands c s) rfl (fun _ _ hstep h => hstep.trans h) script

/-- **No request changes the probes of a checker that has ended.** -/
theorem serve_terminated (h : Settled s) (hended : Terminated c s) (hne : (s.checkers c).probes ≠ [])
    (request : ProbeRequest) (script : List (Answerer ProbeCall ProbeAnswer)) :
    Stands c s (serveProbeRequest request ⟨script, s⟩).2.state := by
  cases request with
  | construct targets previous =>
    have hc : c ≠ s.nextChecker := fun hc => hne (h.recorded.fresh c hc.ge)
    have hbuild : Runs (Stands c) (fun _ _ => True) (constructChecker targets previous) s fun _ _ => True :=
      ((runs_constructChecker targets previous s).coarsen fun _ _ hstep =>
        congrArg UdpProbeChecker.probes (hstep.others hc)).mono (fun _ _ _ _ => trivial) fun _ _ _ _ => trivial
    refine stands_of_runs (Q := fun _ _ => True) ?_ script
    refine Runs.handle (E := fun _ _ => True) ?_ fun error s' _ _ => Runs.modify (.single rfl) trivial
    exact Runs.bind hbuild fun _ _ _ _ => Runs.pure trivial
  | poll checker pollTime =>
    by_cases hc : c = checker
    · subst hc
      obtain ⟨error, s', hpoll, hprobes⟩ := poll_terminated hended hne pollTime script
      simp only [serveProbeRequest, handle, run_bind, hpoll, run_modify]
      exact hprobes
    · have hpoll : Runs (Stands c) (fun _ _ => True) (pollProbeTransitions checker pollTime) s fun _ _ => True :=
        ((steps_pollProbeTransitions checker pollTime s).coarsen fun _ _ hstep => hstep.others hc).mono
          (fun _ _ _ _ => trivial) fun _ _ _ _ => trivial
      refine stands_of_runs (Q := fun _ _ => True) ?_ script
      refine Runs.handle (E := fun _ _ => True) ?_ fun error s' _ _ => Runs.modify (.single rfl) trivial
      exact Runs.bind hpoll fun _ _ _ _ => Runs.pure trivial
  | destroy checker =>
    by_cases hc : c = checker
    · subst hc
      exact hended.cancel
    · exact congrArg UdpProbeChecker.probes ((built_cancel s checker).others c hc)

end Resources

/-- **What is opened is closed, and what has failed stays failed.** Between any two requests,
whatever was asked before, polls at any times included, and whatever the sockets and the
completion clocks answer: at every point of the
next request only open sockets are used and closed, each once; a checker that cannot be
constructed, for whatever reason and at whatever target, is released, and so is one whose poll
throws, and one that is destroyed; the polls of a checker with targets that has been
terminated throw, and no request changes it; and a candidate that is constructed and
destroyed leaves every other checker as it was, and its sockets. -/
theorem probe_resources {s : ProbeProcess} (h : Reached s) :
    (∀ request script, SocketsRespected (serveProbeRequest request ⟨script, s⟩).2.state.log) ∧
      (∀ targets previous script error w, constructChecker targets previous ⟨script, s⟩ = (.thrown error, w) →
        Released s.nextChecker w.state) ∧
      (∀ c pollTime script error w, pollProbeTransitions c pollTime ⟨script, s⟩ = (.thrown error, w) →
        Released c w.state) ∧
      (∀ c script, ∃ w, cancelAllProbes c ⟨script, s⟩ = (.ok (), w) ∧ Released c w.state) ∧
      (∀ c, Terminated c s → (s.checkers c).probes ≠ [] →
        (∀ pollTime script, ∃ error w, pollProbeTransitions c pollTime ⟨script, s⟩ = (.thrown error, w)) ∧
          ∀ request script, Stands c s (serveProbeRequest request ⟨script, s⟩).2.state) ∧
      ∀ targets previous script, Untouched s.nextChecker s (replaceNothing targets previous ⟨script, s⟩).2.state := by
  have hs := h.settled
  refine ⟨fun request script => ?_, fun targets previous script error w hconstruct => ?_,
    fun c pollTime script error w hpoll => ?_, fun c script => ?_, fun c hended hne => ⟨fun pollTime script => ?_, ?_⟩, ?_⟩
  · have hrecorded := (settles_serveProbeRequest hs request).invariant hs.recorded (fun _ _ h => h) script
    exact hrecorded.lawful.socketsRespected
  · obtain ⟨-, hs', hended⟩ := (settles_constructChecker hs targets previous).of_thrown hconstruct
    exact hended.released hs'.recorded
  · obtain ⟨-, hs', hended⟩ := (settles_pollProbeTransitions hs c pollTime).of_thrown hpoll
    exact hended.released hs'.recorded
  · have hdestroy : cancelAllProbes c ⟨script, s⟩ = (.ok (), ⟨script, s.cancel c⟩) := rfl
    obtain ⟨-, hs', hended⟩ := (settles_cancelAllProbes hs c).of_ok hdestroy
    exact ⟨_, hdestroy, hended.released hs'.recorded⟩
  · obtain ⟨error, s', hthrown, -⟩ := poll_terminated hended hne pollTime script
    exact ⟨error, _, hthrown⟩
  · exact serve_terminated hs hended hne
  · exact untouched_replaceNothing s

/-- A checker of two targets is constructed; both probes of its first poll are in flight when the
completion clock answers a time before that of the poll: the poll throws, and both sockets are
closed. -/
theorem probe_resources_rewound :
    let target (id : UInt8) : ProbeTarget := ⟨[id], [101], 2, .replicate 6 0, .replicate 6 0, 1, 9⟩
    let answerer (handle : ℤ) : Answerer ProbeCall ProbeAnswer := fun
      | .openProbeSocket _ => some handle
      | .send _ _ => .ok 24
      | .recv _ => .ok []
      | .nowAtCompletion _ => Time.seconds 0
      | .now => (0 : ℕ)
      | .next => .destroy 0
      | .follow => .poll 0
    let constructed := serveProbeRequest (.construct [target 97, target 98] [])
      ⟨[answerer 3, answerer 4], startProcess ⟨1, 0⟩ 0⟩
    let script := [answerer 3, answerer 4, answerer 3, answerer 3]
    let polled := pollProbeTransitions 0 (Time.seconds 1) ⟨script, constructed.2.state⟩
    polled.1 = .thrown .completionClockBackwards ∧ Released 0 polled.2.state := by
  intro target answerer constructed script polled
  have hserved : constructed.1 = .ok () := by decide +kernel
  have hthrown : polled.1 = .thrown .completionClockBackwards := by decide +kernel
  have h : Reached constructed.2.state := .served (w := constructed.2) (.start ⟨1, 0⟩ 0) (Prod.fst_eq_iff.mp hserved)
  have hpolled : polled = (.thrown .completionClockBackwards, polled.2) := Prod.fst_eq_iff.mp hthrown
  exact ⟨hthrown, (probe_resources h).2.2.1 0 (Time.seconds 1) script .completionClockBackwards polled.2 hpolled⟩

end L4lb.Health
