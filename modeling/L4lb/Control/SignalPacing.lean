import L4lb.Control.ControlLoop

/-!
# Signals, and the time between publications

What holds of the history of any run of the control loop, of its signals and its clock.
-/

namespace L4lb.Control

open Effect Effect.Prog Health Text Xdp

/-- The moments of a history are a second apart. -/
theorem Legal.paced {log : List ServiceEvent} (h : Legal log) :
    (moments log).Pairwise fun later earlier => earlier + Time.seconds 1 ≤ later := by
  induction log with
  | nil => exact .nil
  | cons event log ih =>
    have hrest := ih fun e before hs => h e before (hs.trans (List.suffix_cons event log))
    have ha := h event log List.suffix_rfl
    cases event with
    | attempted time => exact .cons ha.2.2 hrest
    | printed line time view =>
      cases line with
      | ready dev mode programId configured applied =>
        have hnone : moments log = [] := ha.2.2.2.resolve_left fun hlater => hlater dev mode programId configured applied rfl
        rw [moments, hnone]
        exact List.pairwise_singleton _ _
      | _ => exact hrest
    | _ => exact hrest

/-- A `SIGHUP` that was consumed is pending, until a configuration is loaded. -/
theorem loading_or_pending {log before : List ServiceEvent} (h : .hangup :: before <:+ log) :
    (∃ after, log = after ++ .hangup :: before ∧ .loading ∈ after) ∨ pendingHangup log = true := by
  obtain ⟨after, rfl⟩ := h
  induction after with
  | nil => exact Or.inr rfl
  | cons event after ih =>
    rcases ih with ⟨after', he, hmem⟩ | hpending
    · exact Or.inl ⟨event :: after', by rw [List.cons_append, he, List.cons_append], List.mem_cons_of_mem _ hmem⟩
    · cases event with
      | loading => exact Or.inl ⟨.loading :: after, rfl, List.mem_cons_self⟩
      | hangup => exact Or.inr rfl
      | _ => exact Or.inr hpending

/-- **Signals are obeyed, and publications kept apart.** At every point of every run of the
control loop, in whatever order signals come:

* once a stop signal was consumed no publication is attempted;
* an attempt is at least a second after every one before it, whatever either is for and
  however it ends, and after the line that the loop is ready; the time of an attempt is
  that read last before it;
* after a `SIGHUP` that was consumed a configuration is loaded, or `reload` still says that
  one is to be. -/
theorem signal_pacing_safe (process : ProbeProcess) (kernel : MapKernel) (object : String)
    (ingress vip configurationPath : Bytes) (mode : XdpAttachMode) (script : List (Answerer ServiceCall ServiceAnswer)) :
    let s := (runRuntimeDsrControlLoop object ingress vip configurationPath mode ⟨script, .start process kernel⟩).2.state
    (∀ time before, .attempted time :: before <:+ s.log → .stopSeen ∉ before) ∧
    ((moments s.log).Pairwise fun later earlier => earlier + Time.seconds 1 ≤ later) ∧
    ∀ before, .hangup :: before <:+ s.log →
      (∃ after, s.log = after ++ .hangup :: before ∧ .loading ∈ after) ∨ s.signals.reload = true := by
  intro s
  have hsound : Sound s :=
    sound_runRuntimeDsrControlLoop process kernel object ingress vip configurationPath mode script
  refine ⟨fun time before hs => (hsound.legal _ _ hs).2.1, hsound.legal.paced, fun before hs => ?_⟩
  exact (loading_or_pending hs).imp_right hsound.remembered

end L4lb.Control
