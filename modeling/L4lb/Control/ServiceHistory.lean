import L4lb.Control.RuntimeDsrService
import L4lb.Health.HealthContinuity

/-!
# What a run of the control loop may record

When an event may follow a history (`Allowed`), and what a state must be for its history to
be one (`Sound`). A run is shown to keep this: `Serves`.
-/

namespace L4lb.Control

open Effect Effect.Prog Health Text Xdp

/-! ### Reading a history -/

/-- The times of the attempts to publish, and of the line that the loop is ready. -/
def moments : List ServiceEvent → List Time
  | [] => []
  | .attempted time :: log => time :: moments log
  | .printed (.ready _ _ _ _ _) time _ :: log => time :: moments log
  | _ :: log => moments log

/-- What was in hand when a reload or a publication began, the last that did. -/
def lastBegun : List ServiceEvent → Option ServiceView
  | [] => none
  | .begun view :: _ => some view
  | _ :: log => lastBegun log

/-- A `SIGHUP` was consumed, and no configuration loaded since. -/
def pendingHangup : List ServiceEvent → Bool
  | [] => false
  | .hangup :: _ => true
  | .loading :: _ => false
  | _ :: log => pendingHangup log

/-- The snapshot a line is about. -/
def OutputLine.applied : OutputLine → Option UdpRuntimeSnapshot
  | .ready _ _ _ _ applied | .publishApplied _ applied | .publishFailed _ applied | .reloadUnchanged applied
  | .reloadApplied _ applied | .reloadRejected _ applied => some applied
  | .health _ | .statistics _ | .detached _ _ _ => none

/-- The line says that something failed or was rejected. -/
def OutputLine.IsFailure : OutputLine → Prop
  | .publishFailed _ _ | .reloadRejected _ _ => True
  | _ => False

/-- The loop is not said to be ready. -/
def OutputLine.Later (line : OutputLine) : Prop :=
  ∀ dev mode programId configured applied, line ≠ .ready dev mode programId configured applied

/-- A line that is about a snapshot is about the one in the slot. -/
def OutputLine.Describes (line : OutputLine) (view : ServiceView) : Prop :=
  ∀ applied, line.applied = some applied → ∃ map, view.active = some (map, applied)

/-- What was applied is what is in the slot, and of the generation of the store. -/
def ServiceView.Settled (view : ServiceView) : Prop :=
  ∃ map store, view.active = some (map, view.applied) ∧ view.store = some store ∧
    store.generation = view.applied.generation

/-- A snapshot has the backends of the healthy targets, in the order of the file, and then
zeros. -/
structure FromHealthy (configuration : RuntimeDsrConfiguration) (probes : List ProbeSnapshot)
    (snapshot : UdpRuntimeSnapshot) : Prop where
  /-- The probes are of the targets of the configuration. -/
  targets : probes.map (·.target) = buildProbeTargets configuration
  /-- There are no more than fit. -/
  length_le : probes.length ≤ 64
  /-- The backends are of those that are healthy. -/
  dense : snapshot = denseSnapshot configuration snapshot.generation
    ((probes.filter (·.state = .healthy)).map fun probe => targetBackend probe.target)

/-- An event may follow a history. -/
def Allowed (log : List ServiceEvent) (event : ServiceEvent) : Prop :=
  (∀ view, .rethrown view ∉ log) ∧
    match event with
    | .head view => view.Settled
    | .attempted time => .stopSeen ∉ log ∧ ∀ moment ∈ moments log, moment + Time.seconds 1 ≤ time
    | .failed view => lastBegun log = some view
    | .rethrown view => ∃ begun, lastBegun log = some begun ∧ (view.active = begun.active → view = begun)
    | .built configuration probes snapshot => FromHealthy configuration probes snapshot
    | .printed line _ view => line.Describes view ∧ (line.IsFailure → lastBegun log = some view) ∧
      (line.Later ∨ moments log = [])
    | _ => True

/-- Each event could follow those before it. -/
def Legal (log : List ServiceEvent) : Prop := ∀ event before, event :: before <:+ log → Allowed before event

theorem legal_nil : Legal [] := by
  intro event before h
  cases List.suffix_nil.mp h

theorem Legal.cons {log : List ServiceEvent} {event : ServiceEvent} (h : Legal log) (ha : Allowed log event) :
    Legal (event :: log) := by
  intro e before hs
  rcases List.suffix_cons_iff.mp hs with he | hs
  · obtain ⟨rfl, rfl⟩ := List.cons.inj he
    exact ha
  · exact h e before hs

/-! ### The state of a run -/

/-- What the history and the kernel of a run are. -/
structure Sound (s : RuntimeService) : Prop where
  /-- Each event could follow. -/
  legal : Legal s.log
  /-- A `SIGHUP` that was consumed is remembered until a configuration is loaded. -/
  remembered : pendingHangup s.log = true → s.signals.reload = true
  /-- The generations that were committed are those from one on. -/
  generations : s.ledger.kernel.installs.map (·.2.generation.toNat) =
    (List.range' 1 s.ledger.kernel.installs.length).reverse
  /-- What was committed was built. -/
  built : ∀ install ∈ s.ledger.kernel.installs, ∃ configuration probes,
    .built configuration probes install.2 ∈ s.log

/-- Every run keeps the state sound. -/
abbrev Serves {α : Type} (m : ControlM α) (s : RuntimeService) (E : ServiceError → RuntimeService → Prop)
    (Q : α → RuntimeService → Prop) : Prop :=
  Runs (fun s s' => Sound s → Sound s') E m s Q

theorem Sound.record {s : RuntimeService} (h : Sound s) (event : ServiceEvent) (ha : Allowed s.log event)
    (hne : event ≠ .hangup) : Sound (s.record event) := by
  refine ⟨h.legal.cons ha, fun hp => h.remembered ?_, h.generations, fun install hi => ?_⟩
  · cases event with
    | hangup => exact absurd rfl hne
    | loading => exact absurd hp (by simp [RuntimeService.record, pendingHangup])
    | _ => exact hp
  · obtain ⟨configuration, probes, hb⟩ := h.built install hi
    exact ⟨configuration, probes, List.mem_cons_of_mem _ hb⟩

/-- An event that changes nothing of what is asked of later ones. -/
def ServiceEvent.Calm : ServiceEvent → Prop
  | .stopSeen | .hangup | .built _ _ _ => True
  | .printed line _ _ => line.Later
  | _ => False

section Calm

variable {events log : List ServiceEvent}

theorem moments_calm (h : ∀ e ∈ events, e.Calm) : moments (events ++ log) = moments log := by
  induction events with
  | nil => rfl
  | cons e events ih =>
    have hrest := ih fun e he => h e (List.mem_cons_of_mem _ he)
    have hcalm := h e List.mem_cons_self
    rw [List.cons_append]
    cases e with
    | printed line time view =>
      cases line with
      | ready dev mode programId configured applied => exact absurd rfl (hcalm dev mode programId configured applied)
      | _ => exact hrest
    | attempted => exact hcalm.elim
    | _ => exact hrest

theorem lastBegun_calm (h : ∀ e ∈ events, e.Calm) : lastBegun (events ++ log) = lastBegun log := by
  induction events with
  | nil => rfl
  | cons e events ih =>
    have hrest := ih fun e he => h e (List.mem_cons_of_mem _ he)
    have hcalm := h e List.mem_cons_self
    rw [List.cons_append]
    cases e with
    | begun => exact hcalm.elim
    | _ => exact hrest

theorem rethrown_calm (h : ∀ e ∈ events, e.Calm) {view : ServiceView} (hlog : .rethrown view ∉ log) :
    .rethrown view ∉ events ++ log := by
  intro hmem
  rcases List.mem_append.mp hmem with hmem | hmem
  · exact h _ hmem
  · exact hlog hmem

end Calm

/-- Nothing of what the loop has in hand has changed, but for the probes that it does not use. -/
structure Beside (s s' : RuntimeService) : Prop where
  /-- What it has in hand is the same. -/
  view : s'.view = s.view
  /-- So are the maps. -/
  ledger : s'.ledger = s.ledger
  /-- And the times to wait for. -/
  nextPublish : s'.nextPublish = s.nextPublish
  /-- And how far a transaction is. -/
  committed : s'.committed = s.committed
  /-- The clock only advances. -/
  clock : s.process.clock ≤ s'.process.clock
  /-- Checkers are only added. -/
  nextChecker : s.process.nextChecker ≤ s'.process.nextChecker
  /-- What was recorded. -/
  log : ∃ events, s'.log = events ++ s.log ∧ ∀ e ∈ events, e.Calm
  /-- A stop signal is remembered. -/
  stopped : (.stopSeen ∈ s.log → s.signals.stop = true) → .stopSeen ∈ s'.log → s'.signals.stop = true

theorem Beside.refl (s : RuntimeService) : Beside s s :=
  ⟨rfl, rfl, rfl, rfl, le_rfl, le_rfl, ⟨[], rfl, fun _ h => absurd h List.not_mem_nil⟩, fun h => h⟩

theorem Beside.trans {s s' s'' : RuntimeService} (h : Beside s s') (h' : Beside s' s'') : Beside s s'' := by
  obtain ⟨events, hlog, hcalm⟩ := h.log
  obtain ⟨events', hlog', hcalm'⟩ := h'.log
  refine ⟨h'.view.trans h.view, h'.ledger.trans h.ledger, h'.nextPublish.trans h.nextPublish,
    h'.committed.trans h.committed, h.clock.trans h'.clock, h.nextChecker.trans h'.nextChecker,
    ⟨events' ++ events, by rw [hlog', hlog, List.append_assoc], fun e he => ?_⟩,
    fun hs => h'.stopped (h.stopped hs)⟩
  rcases List.mem_append.mp he with he | he
  · exact hcalm' e he
  · exact hcalm e he

/-- Between two statements of the loop, outside of a transaction or before its commit. -/
structure Running (s : RuntimeService) : Prop where
  /-- Nothing was thrown again. -/
  live : ∀ view, .rethrown view ∉ s.log
  /-- The next publication is late enough. -/
  paced : ∀ moment ∈ moments s.log, moment + Time.seconds 1 ≤ s.nextPublish
  /-- A stop signal is remembered. -/
  stopped : .stopSeen ∈ s.log → s.signals.stop = true
  /-- The checker in hand was made. -/
  checker_lt : s.checker < s.process.nextChecker
  /-- It is of the targets of the configuration. -/
  targets : (s.process.checkers s.checker).probes.map (·.snapshot.target) = buildProbeTargets s.configuration
  /-- Which are not too many. -/
  length_le : (s.process.checkers s.checker).probes.length ≤ 64
  /-- What was applied is published, and the only thing the store holds. -/
  holding : ∃ map store, s.store = some store ∧ Holding store s.ledger ∧ store.activeFd ≥ 0 ∧
    activeMap s.ledger.kernel = some (map, s.applied) ∧ store.generation = s.applied.generation ∧
    s.ledger.kernel.installs.length = store.generation.toNat

theorem Running.settled {s : RuntimeService} (h : Running s) : s.view.Settled := by
  obtain ⟨map, store, hstore, -, -, hactive, hgeneration, -⟩ := h.holding
  exact ⟨map, store, hactive, hstore, hgeneration⟩

theorem Running.beside {s s' : RuntimeService} (h : Running s) (hb : Beside s s') : Running s' := by
  obtain ⟨events, hlog, hcalm⟩ := hb.log
  have hchecker : s'.checker = s.checker := congrArg ServiceView.checkerId hb.view
  have hprobes : s'.process.checkers s'.checker = s.process.checkers s.checker :=
    congrArg ServiceView.checker hb.view
  have hconfiguration : s'.configuration = s.configuration := congrArg ServiceView.configuration hb.view
  have happlied : s'.applied = s.applied := congrArg ServiceView.applied hb.view
  have hstore : s'.store = s.store := congrArg ServiceView.store hb.view
  refine ⟨fun view => ?_, fun moment hmoment => ?_, hb.stopped h.stopped, ?_, ?_, ?_, ?_⟩
  · rw [hlog]
    exact rethrown_calm hcalm (h.live view)
  · rw [hlog, moments_calm hcalm] at hmoment
    rw [hb.nextPublish]
    exact h.paced moment hmoment
  · rw [hchecker]
    exact h.checker_lt.trans_le hb.nextChecker
  · rw [hprobes, hconfiguration]
    exact h.targets
  · rw [hprobes]
    exact h.length_le
  · rw [hstore, hb.ledger, happlied]
    exact h.holding

theorem Beside.lastBegun {s s' : RuntimeService} (h : Beside s s') : lastBegun s'.log = lastBegun s.log := by
  obtain ⟨events, hlog, hcalm⟩ := h.log
  rw [hlog, lastBegun_calm hcalm]

end L4lb.Control
