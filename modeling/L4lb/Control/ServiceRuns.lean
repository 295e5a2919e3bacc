import L4lb.Control.ServiceHistory

/-!
# The runs of the control loop

What each function of `RuntimeDsrService.cpp` does to the state, and that it keeps it
sound, whatever is answered and whatever is thrown.
-/

namespace L4lb.Control

open Effect Effect.Prog Health Relation Text Xdp

section Runs

variable {s s' s'' : RuntimeService}

/-- What the history and the kernel are of has not changed. -/
theorem Sound.same (h : Sound s) (hlog : s'.log = s.log) (hreload : s'.signals.reload = s.signals.reload)
    (hinstalls : s'.ledger.kernel.installs = s.ledger.kernel.installs) : Sound s' :=
  ⟨hlog ▸ h.legal, by rw [hlog, hreload]; exact h.remembered, by rw [hinstalls]; exact h.generations,
    by rw [hinstalls, hlog]; exact h.built⟩

/-- The loop has the same in hand, and all probes are the same. -/
structure Alike (s s' : RuntimeService) : Prop extends Beside s s' where
  /-- The checkers are the same. -/
  checkers : s'.process.checkers = s.process.checkers

theorem Alike.refl (s : RuntimeService) : Alike s s := ⟨.refl s, rfl⟩

theorem Alike.trans (h : Alike s s') (h' : Alike s' s'') : Alike s s'' :=
  ⟨h.toBeside.trans h'.toBeside, h'.checkers.trans h.checkers⟩

/-- Nothing was thrown again. -/
def Live (s : RuntimeService) : Prop := ∀ view, .rethrown view ∉ s.log

theorem Beside.live (h : Beside s s') (hlive : Live s) : Live s' := by
  obtain ⟨events, hlog, hcalm⟩ := h.log
  intro view
  rw [hlog]
  exact rethrown_calm hcalm (hlive view)

/-- A run after which the loop has the same in hand, however it ends. -/
abbrev Quietly {α : Type} (m : ControlM α) (s : RuntimeService) : Prop :=
  Serves m s (fun _ s' => Alike s s') fun _ s' => Alike s s'

/-- What is left of a run that starts where the loop has the same in hand. -/
theorem Alike.quietly {α : Type} {m : ControlM α} (h : Alike s s') (hm : Quietly m s') :
    Serves m s' (fun _ s'' => Alike s s'') fun _ s'' => Alike s s'' :=
  hm.mono (fun _ _ _ h' => h.trans h') fun _ _ _ h' => h.trans h'

/-! ### Programs of the other modules -/

theorem serves_configM {α : Type} (m : ConfigM α) (s : RuntimeService) :
    Serves (configM m) s (fun e s' => s' = s ∧ e.isControl = false) fun _ s' => s' = s := by
  refine Runs.zoom (Runs.any m ()) rfl ?_ ?_ ?_
  · intro _ _ _ _
    exact .refl
  · intro _ _ _ _
    exact ⟨rfl, rfl⟩
  · intro _ _ _ _
    rfl

theorem serves_checkerM {α : Type} {m : CheckerM α} {step' : ProbeProcess → ProbeProcess → Prop}
    {E' : ProbeError → ProbeProcess → Prop} {Q' : α → ProbeProcess → Prop} (h : Runs step' E' m s.process Q') :
    Serves (checkerM m) s
      (fun e s' => e.isControl = false ∧
        ∃ error process, s' = { s with process } ∧ ReflTransGen step' s.process process ∧ E' error process)
      fun a s' => ∃ process, s' = { s with process } ∧ ReflTransGen step' s.process process ∧ Q' a process := by
  refine Runs.zoom h rfl ?_ ?_ ?_
  · intro _ _ _ _
    exact .single fun hs => hs.same rfl rfl rfl
  · intro error process hc he
    exact ⟨rfl, error, process, rfl, hc, he⟩
  · intro _ process hc hq
    exact ⟨process, rfl, hc, hq⟩

/-- The clock is read, and may have advanced. -/
theorem serves_clockNow (s : RuntimeService) :
    Serves clockNow s (fun _ s' => Alike s s') fun now s' => now = s'.process.clock ∧ Alike s s' ∧
      s'.signals = s.signals ∧ s'.log = s.log := by
  have hnow : Runs (fun _ _ => True) (fun _ _ => False) steadyNow s.process fun now process =>
      now = process.clock ∧ ∃ elapsed : ℕ, process = { s.process with clock := s.process.clock + elapsed } :=
    Runs.call_bind fun elapsed => Runs.modify_bind (.single trivial) (Runs.gets ⟨rfl, elapsed, rfl⟩)
  refine (serves_checkerM hnow).mono ?_ ?_
  · rintro e s' - ⟨-, _, _, -, -, ⟨⟩⟩
  · rintro now s' - ⟨process, rfl, -, rfl, elapsed, rfl⟩
    refine ⟨rfl, ⟨⟨rfl, rfl, rfl, rfl, ?_, le_rfl, ⟨[], rfl, fun _ h => absurd h List.not_mem_nil⟩, fun h => h⟩, rfl⟩,
      rfl, rfl⟩
    exact Int.le_add_of_nonneg_right (Int.natCast_nonneg _)

/-- A program of map operations, by any steps that all its changes of the maps are. -/
theorem runs_mapsM {α : Type} {m : MapProgram α} {I : Ledger → Prop} {Q : α → Ledger → Prop} {ledger : Ledger}
    {step : RuntimeService → RuntimeService → Prop} (h : m.Always Records I Q ledger)
    (hstep : ∀ s₁ ledger, I ledger → step s₁ { s with ledger }) :
    Runs step (fun _ _ => False) (mapsM m) { s with ledger } fun a s' =>
      ∃ ledger', s' = { s with ledger := ledger' } ∧ Q a ledger' := by
  induction m generalizing ledger with
  | ret a => exact Runs.pure ⟨ledger, rfl, h⟩
  | call c k ih =>
    refine Runs.call_bind fun respond => Runs.gets_bind ?_
    obtain ⟨hI, hk⟩ := h _ _ (respond ledger).property
    exact Runs.modify_bind (.single (hstep _ _ hI)) (ih _ hk)

/-- A program of map operations changes the maps only. -/
theorem serves_mapsM {α : Type} {m : MapProgram α} {I : Ledger → Prop} {Q : α → Ledger → Prop}
    (h : m.Always Records I Q s.ledger) (hsound : ∀ ledger, I ledger → Sound s → Sound { s with ledger }) :
    Serves (mapsM m) s (fun _ _ => False) fun a s' => ∃ ledger, s' = { s with ledger } ∧ Q a ledger := by
  intro script
  by_cases hs : Sound s
  · have hrun : Runs (fun _ s' => Sound s') (fun _ _ => False) (mapsM m) s fun a s' =>
        ∃ ledger, s' = { s with ledger } ∧ Q a ledger := runs_mapsM h fun _ ledger hI => hsound ledger hI hs
    have hserves : Serves (mapsM m) s _ _ := hrun.coarsen fun _ _ h _ => h
    exact hserves script
  · have hrun : Runs (fun _ _ => True) (fun _ _ => False) (mapsM m) s fun a s' =>
        ∃ ledger, s' = { s with ledger } ∧ Q a ledger := runs_mapsM h fun _ _ _ => trivial
    exact ⟨.single fun hs' => absurd hs' hs, (hrun script).2⟩

/-! ### Output -/

/-- At most the pending output has changed. -/
def Flushed (s s' : RuntimeService) : Prop := ∃ pendingOutput, s' = { s with pendingOutput }

theorem serves_flushPendingOutput (s : RuntimeService) :
    Serves flushPendingOutput s (fun _ s' => Flushed s s') fun _ s' => Flushed s s' := by
  have hpass : ∀ s', Flushed s s' → Serves flushPass s' (fun _ s' => Flushed s s')
      (Runs.Pass (Flushed s) fun _ s' => Flushed s s') := by
    rintro - ⟨pendingOutput, rfl⟩
    refine Runs.get_bind (Runs.ite (fun _ => Runs.pure ⟨pendingOutput, rfl⟩) fun _ => Runs.call_bind fun written => ?_)
    rcases written with error | count
    · exact Runs.ite (fun _ => Runs.pure ⟨pendingOutput, rfl⟩) fun _ =>
        Runs.ite (fun _ => Runs.pure ⟨pendingOutput, rfl⟩) fun _ => Runs.raise ⟨pendingOutput, rfl⟩
    · refine Runs.ite (fun _ => Runs.raise ⟨pendingOutput, rfl⟩) fun _ => ?_
      exact Runs.modify_bind (.single fun hs => hs.same rfl rfl rfl) (Runs.pure ⟨_, rfl⟩)
  refine Runs.bind (Runs.attempts (Flushed s) hpass 64 ⟨s.pendingOutput, rfl⟩) fun r s' _ hr => Runs.pure ?_
  cases r <;> exact hr

/-- A line was put in the output. -/
def Appended (line : OutputLine) (s s' : RuntimeService) : Prop :=
  Flushed (s.record (.printed line s.process.clock s.view)) s'

theorem serves_appendOutputLine {line : OutputLine} (hlive : Live s) (hline : line.Describes s.view)
    (hfailure : line.IsFailure → lastBegun s.log = some s.view) (hlater : line.Later ∨ moments s.log = []) :
    Serves (appendOutputLine line) s (fun _ s' => s' = s ∨ Appended line s s') fun _ s' => Appended line s s' := by
  refine Runs.call_bind fun found => Runs.ite (fun _ => Runs.get_bind ?_) fun _ => Runs.raise (Or.inl rfl)
  refine Runs.ite (fun _ => Runs.raise (Or.inl rfl)) fun _ => ?_
  have hprint : Sound s → Sound (s.record (.printed line s.process.clock s.view)) := fun hs =>
    hs.record _ ⟨hlive, hline, hfailure, hlater⟩ nofun
  refine Runs.modify_bind (.single fun hs => (hprint hs).same rfl rfl rfl) ?_
  refine (serves_flushPendingOutput _).mono ?_ ?_
  · rintro e s' - ⟨pendingOutput, rfl⟩
    exact Or.inr ⟨pendingOutput, rfl⟩
  · rintro - s' - ⟨pendingOutput, rfl⟩
    exact ⟨pendingOutput, rfl⟩

theorem Appended.alike {line : OutputLine} (h : Appended line s s') (hlater : line.Later) : Alike s s' := by
  obtain ⟨pendingOutput, rfl⟩ := h
  refine ⟨⟨rfl, rfl, rfl, rfl, le_rfl, le_rfl, ⟨[.printed line s.process.clock s.view], rfl, fun e he => ?_⟩,
    fun hs hmem => hs ?_⟩, rfl⟩
  · rw [List.mem_singleton.mp he]
    exact hlater
  · rcases List.mem_cons.mp hmem with hmem | hmem
    · cases hmem
    · exact hmem

theorem quietly_appendOutputLine (line : OutputLine) (hlive : Live s) (hline : line.Describes s.view)
    (hfailure : line.IsFailure → lastBegun s.log = some s.view) (hlater : line.Later) :
    Quietly (appendOutputLine line) s := by
  refine (serves_appendOutputLine hlive hline hfailure (Or.inl hlater)).mono ?_ fun _ _ _ h => h.alike hlater
  rintro e s' - (rfl | h)
  · exact Alike.refl s'
  · exact h.alike hlater

theorem quietly_flushPendingOutput (s : RuntimeService) : Quietly flushPendingOutput s := by
  have halike : ∀ {s'}, Flushed s s' → Alike s s' := by
    rintro - ⟨pendingOutput, rfl⟩
    exact ⟨⟨rfl, rfl, rfl, rfl, le_rfl, le_rfl, ⟨[], rfl, fun _ h => absurd h List.not_mem_nil⟩, fun h => h⟩, rfl⟩
  exact (serves_flushPendingOutput s).mono (fun _ _ _ h => halike h) fun _ _ _ h => halike h

theorem quietly_waitForRuntimeSignalsOrOutput (s : RuntimeService) : Quietly waitForRuntimeSignalsOrOutput s := by
  refine Runs.call_bind fun polled => ?_
  rcases polled with error | broken
  · exact Runs.ite (fun _ => Runs.raise (.refl s)) fun _ => Runs.pure (.refl s)
  · exact Runs.ite (fun _ => Runs.raise (.refl s)) fun _ => Runs.pure (.refl s)

theorem quietly_drainOutputOnStop (s : RuntimeService) : Quietly drainOutputOnStop s := by
  refine Runs.bind ((serves_clockNow s).post fun now s' _ h => h.2.1) fun now s₁ _ h₁ => ?_
  refine Runs.loop (fun _ s' => Alike s s') (fun _ s' h' => ?_) h₁
  refine Runs.get_bind (Runs.ite (fun _ => Runs.pure h') fun _ => ?_)
  refine Runs.bind (h'.quietly (quietly_flushPendingOutput s')) fun _ s₂ _ h₂ => Runs.get_bind ?_
  refine Runs.ite (fun _ => Runs.pure h₂) fun _ => ?_
  have hclock := (serves_clockNow s₂).post fun now s' _ h => h.2.1
  refine Runs.bind (h₂.quietly hclock) fun _ s₃ _ h₃ => Runs.ite (fun _ => Runs.raise h₃) fun _ => ?_
  refine Runs.call_bind fun polled => ?_
  rcases polled with error | broken
  · exact Runs.ite (fun _ => Runs.raise h₃) fun _ => Runs.pure h₃
  · exact Runs.pure h₃

/-! ### Signals -/

theorem alike_observeStop (s : RuntimeService) (signal : ℕ) : Alike s (s.observeStop signal) := by
  refine ⟨⟨rfl, rfl, rfl, rfl, le_rfl, le_rfl, ⟨[.stopSeen], rfl, fun e he => ?_⟩, fun _ _ => rfl⟩, rfl⟩
  rw [List.mem_singleton.mp he]
  trivial

theorem alike_observe (s : RuntimeService) (signal : ℕ) : Alike s (s.observe signal) := by
  unfold RuntimeService.observe
  split
  · refine ⟨⟨rfl, rfl, rfl, rfl, le_rfl, le_rfl, ⟨[.hangup], rfl, fun e he => ?_⟩, fun hs hmem => hs ?_⟩, rfl⟩
    · rw [List.mem_singleton.mp he]
      trivial
    · rcases List.mem_cons.mp hmem with hmem | hmem
      · cases hmem
      · exact hmem
  · exact alike_observeStop s signal

theorem Sound.observeStop (h : Sound s) (hlive : Live s) (signal : ℕ) : Sound (s.observeStop signal) :=
  (h.record .stopSeen ⟨hlive, trivial⟩ nofun).same rfl rfl rfl

theorem Sound.observe (h : Sound s) (hlive : Live s) (signal : ℕ) : Sound (s.observe signal) := by
  unfold RuntimeService.observe
  split
  · refine ⟨h.legal.cons ⟨hlive, trivial⟩, fun _ => rfl, h.generations, fun install hi => ?_⟩
    obtain ⟨configuration, probes, hb⟩ := h.built install hi
    exact ⟨configuration, probes, List.mem_cons_of_mem _ hb⟩
  · exact h.observeStop hlive signal

theorem quietly_consumeRuntimeSignals (hlive : Live s) : Quietly consumeRuntimeSignals s := by
  refine Runs.call_bind fun waited => ?_
  rcases waited with error | signal
  swap
  · exact Runs.modify (.single fun hs => hs.observeStop hlive signal) (alike_observeStop s signal)
  refine Runs.ite (fun _ => Runs.raise (.refl s)) fun _ => ?_
  have hpass : ∀ s', Alike s s' → Serves signalPass s' (fun _ s' => Alike s s')
      (Runs.Pass (Alike s) fun _ s' => Alike s s') := by
    intro s' h
    refine Runs.call_bind fun information => ?_
    rcases information with error | _ | signal
    · exact Runs.ite (fun _ => Runs.pure h) fun _ => Runs.ite (fun _ => Runs.pure h) fun _ => Runs.raise h
    · exact Runs.raise h
    · refine Runs.modify_bind (.single fun hs => hs.observe (h.live hlive) signal) (Runs.pure ?_)
      exact h.trans (alike_observe s' signal)
  refine Runs.bind (Runs.attempts (Alike s) hpass 64 (.refl s)) fun r s' _ hr => Runs.pure ?_
  cases r <;> exact hr

end Runs

end L4lb.Control
