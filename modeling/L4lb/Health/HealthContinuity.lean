import L4lb.Health.ProbeSteps

/-!
# Health across reloads

A reload constructs a checker from the snapshots of the one in place and puts it
there. What a target has gone through is not lost and not passed to another: its
status and counters are at all times those of `HealthState` after all the results it
has had since its identity was first configured.

## The argument

`outcomes` reads the results of a target from the history, back to the last adoption
of a configuration without its identity. The invariant `Continuity` says that each
probe of the checker in place is where `HealthState.run` takes those results, so its
counters are always ones that the next checker imports.
-/

namespace L4lb.Health

open Effect Prog Relation ProbeProcess

/-! ### The chain -/

/-- Construct a checker from the snapshots of the one in place, and let it take its
place, or drop it. -/
def reloadChecker (current : Option ℕ) (targets : List ProbeTarget) (commit : Bool) :
    CheckerM (Option ℕ ⊕ Unit) := do
  let previous ← gets fun s => current.elim [] fun c => (s.checkers c).copyProbeSnapshots
  handle (do
    let candidate ← constructChecker targets previous
    if commit then
      modify fun s => (current.elim s s.cancel).record (.adopted candidate targets)
      pure (.inl (some candidate))
    else
      cancelAllProbes candidate
      pure (.inl current))
    fun error => do
      modify fun s => s.record (.rejected error)
      pure (.inl current)

/-- Poll the checker in place. -/
def pollChecker (current : Option ℕ) (pollTime : Time) : CheckerM (Option ℕ ⊕ Unit) :=
  match current with
  | none => pure (.inl none)
  | some checker => do
    handle (do let _ ← pollProbeTransitions checker pollTime) fun error =>
      modify fun s => s.record (.pollFailed checker error)
    pure (.inl (some checker))

/-- What is done with the checker in place, in any order. -/
def checkerChain : CheckerM Unit :=
  loop (fun current => do
    match ← ask .follow with
    | .reload targets commit => reloadChecker current targets commit
    | .poll pollTime => pollChecker current pollTime) none

/-! ### Identities -/

/-- What `sameProbeIdentity` compares. -/
def ProbeTarget.identity (target : ProbeTarget) : Bytes × UInt32 × Mac × Mac × UInt32 × UInt16 :=
  (target.id, target.ifindex, target.sourceMac, target.destinationMac, target.probeAddress,
    target.probePort)

theorem sameProbeIdentity_iff (a b : ProbeTarget) :
    sameProbeIdentity a b = true ↔ a.identity = b.identity := by
  simp [sameProbeIdentity, ProbeTarget.identity, and_assoc]

/-- The identity of a target is configured. -/
def Configured (target : ProbeTarget) (targets : List ProbeTarget) : Prop :=
  ∃ t ∈ targets, target.identity = t.identity

instance (target : ProbeTarget) (targets : List ProbeTarget) : Decidable (Configured target targets) :=
  inferInstanceAs (Decidable (∃ t ∈ targets, _))

/-! ### What the history says -/

/-- The checker in place and its targets. -/
def lastAdopted : List ProbeEvent → Option (ℕ × List ProbeTarget)
  | [] => none
  | .adopted c targets :: _ => some (c, targets)
  | _ :: log => lastAdopted log

/-- The targets of the checker in place. -/
def currentTargets (log : List ProbeEvent) : List ProbeTarget :=
  (lastAdopted log).elim [] (·.2)

/-- The results of a target, oldest first, since its identity was first configured. -/
def outcomes (target : ProbeTarget) : List ProbeEvent → List Bool
  | [] => []
  | .completed _ _ t success :: log =>
    if target.identity = t.identity then outcomes target log ++ [success] else outcomes target log
  | .adopted _ targets :: log => if Configured target targets then outcomes target log else []
  | _ :: log => outcomes target log

/-- All results of a target, oldest first, in all checkers. -/
def completedOutcomes (target : ProbeTarget) (log : List ProbeEvent) : List Bool :=
  (log.filterMap fun
    | .completed _ _ t success => if target.identity = t.identity then some success else none
    | _ => none).reverse

/-- The snapshots of the checker in place. -/
def currentSnapshots (s : ProbeProcess) : List ProbeSnapshot :=
  (lastAdopted s.log).elim [] fun c => snapshots s c.1

/-- A target that every checker so far has had keeps all its results. -/
theorem outcomes_eq_completedOutcomes (target : ProbeTarget) {log : List ProbeEvent}
    (h : ∀ c targets, .adopted c targets ∈ log → Configured target targets) :
    outcomes target log = completedOutcomes target log := by
  induction log with
  | nil => rfl
  | cons e log ih =>
    have ih := ih fun c targets hm => h c targets (List.mem_cons_of_mem e hm)
    cases e with
    | completed c i t success =>
      simp only [outcomes, completedOutcomes, List.filterMap_cons, ih]
      split <;> simp
    | adopted c targets =>
      simp only [outcomes, if_pos (h c targets List.mem_cons_self), ih]
      rfl
    | _ => exact ih

theorem configured_congr {a b : ProbeTarget} (h : a.identity = b.identity) (targets : List ProbeTarget) :
    Configured a targets ↔ Configured b targets := by
  rw [Configured, Configured, h]

/-- The results are those of an identity. -/
theorem outcomes_congr {a b : ProbeTarget} (h : a.identity = b.identity) (log : List ProbeEvent) :
    outcomes a log = outcomes b log := by
  induction log with
  | nil => rfl
  | cons e log ih =>
    cases e with
    | completed => simp only [outcomes, h, ih]
    | adopted c targets => simp only [outcomes, configured_congr h targets, ih]
    | _ => exact ih

/-! ### One state machine, written twice -/

/-- `HealthStatus` of a `ProbeState`. -/
def ProbeState.status : ProbeState → HealthStatus
  | .unknown => .unknown
  | .healthy => .healthy
  | .unhealthy => .unhealthy

/-- The state and counters of a probe, as `HealthState` has them. -/
def ProbeSnapshot.health (snapshot : ProbeSnapshot) : HealthState :=
  ⟨snapshot.state.status, snapshot.consecutiveSuccesses, snapshot.consecutiveFailures⟩

@[simp] theorem ProbeState.status_eq_healthy (state : ProbeState) :
    state.status = .healthy ↔ state = .healthy := by
  cases state <;> decide

/-- **The two state machines agree** on every result. -/
theorem ProbeSnapshot.health_applyResult (snapshot : ProbeSnapshot) (success : Bool) :
    (snapshot.applyResult success).health = (snapshot.health.applyProbeResult success).2 := by
  cases success with
  | true =>
    by_cases h : min (snapshot.consecutiveSuccesses + 1) 2 = 2
    · simp [applyResult, health, HealthState.applyProbeResult, h, ProbeState.status]
    · simp [applyResult, health, HealthState.applyProbeResult, h]
  | false =>
    by_cases h : min (snapshot.consecutiveFailures + 1) 3 = 3
    · simp [applyResult, health, HealthState.applyProbeResult, h, ProbeState.status]
    · simp [applyResult, health, HealthState.applyProbeResult, h]

@[simp] theorem ProbeSnapshot.target_applyResult (snapshot : ProbeSnapshot) (success : Bool) :
    (snapshot.applyResult success).target = snapshot.target := by
  cases success <;> rfl

/-- The counters that results leave can be imported. -/
theorem importable_of_health {snapshot : ProbeSnapshot} {results : List Bool}
    (h : snapshot.health = HealthState.run {} results) : snapshot.Importable := by
  have hc : HealthState.Counted snapshot.health := h ▸ HealthState.counted_run results
  exact ⟨hc.successes_le, hc.failures_le, hc.exclusive⟩

/-- What a target starts from: what the snapshot of its identity left, or nothing. -/
theorem importSnapshot_spec {previous : List ProbeSnapshot} {target : ProbeTarget}
    {snapshot : ProbeSnapshot} (h : importSnapshot previous target = some snapshot) :
    snapshot.target = target ∧
      ((∃ old ∈ previous, target.identity = old.target.identity ∧ snapshot.health = old.health) ∨
        (∀ old ∈ previous, target.identity ≠ old.target.identity) ∧ snapshot.health = {}) := by
  unfold importSnapshot at h
  cases hfind : previous.find? (fun old => sameProbeIdentity target old.target) with
  | none =>
    rw [hfind, Option.some.injEq] at h
    subst h
    refine ⟨rfl, Or.inr ⟨fun old hold he => ?_, rfl⟩⟩
    have := List.find?_eq_none.mp hfind old hold
    exact this ((sameProbeIdentity_iff _ _).mpr he)
  | some old =>
    simp only [hfind] at h
    split at h
    · rw [Option.some.injEq] at h
      subst h
      have hsame := List.find?_some hfind
      exact ⟨rfl, Or.inl ⟨old, List.mem_of_find?_eq_some hfind, (sameProbeIdentity_iff _ _).mp hsame, rfl⟩⟩
    · cases h

/-- Only counters out of their bounds are refused. -/
theorem importSnapshot_isSome {previous : List ProbeSnapshot}
    (h : ∀ old ∈ previous, old.Importable) (target : ProbeTarget) :
    importSnapshot previous target ≠ none := by
  unfold importSnapshot
  cases hfind : previous.find? (fun old => sameProbeIdentity target old.target) with
  | none => exact Option.some_ne_none _
  | some old =>
    simp only [if_pos (h old (List.mem_of_find?_eq_some hfind))]
    exact Option.some_ne_none _

/-- The snapshots of a new checker, in the order of its targets. -/
abbrev Imports (previous : List ProbeSnapshot) (targets : List ProbeTarget)
    (snapshots : List ProbeSnapshot) : Prop :=
  List.Forall₂ (fun target snapshot => importSnapshot previous target = some snapshot) targets snapshots

theorem imports_targets {previous snapshots : List ProbeSnapshot} {targets : List ProbeTarget}
    (h : Imports previous targets snapshots) : snapshots.map (·.target) = targets := by
  induction h with
  | nil => rfl
  | cons hi _ ih => rw [List.map_cons, (importSnapshot_spec hi).1, ih]

theorem imports_mem {previous snapshots : List ProbeSnapshot} {targets : List ProbeTarget}
    (h : Imports previous targets snapshots) {snapshot : ProbeSnapshot} (hs : snapshot ∈ snapshots) :
    ∃ target ∈ targets, importSnapshot previous target = some snapshot := by
  induction h with
  | nil => exact absurd hs List.not_mem_nil
  | cons hi _ ih =>
    rcases List.mem_cons.mp hs with rfl | hs
    · exact ⟨_, List.mem_cons_self, hi⟩
    · obtain ⟨target, htarget, hi'⟩ := ih hs
      exact ⟨target, List.mem_cons_of_mem _ htarget, hi'⟩

/-! ### The steps of a chain -/

/-- What can happen to a chain of checkers. -/
inductive ChainStep : ProbeProcess → ProbeProcess → Prop where
  /-- In a poll of the checker in place. -/
  | poll {s s' : ProbeProcess} {c : ℕ} {targets : List ProbeTarget}
      (hc : lastAdopted s.log = some (c, targets)) (h : ProbeStep c s s') : ChainStep s s'
  /-- In the construction, or destruction, of a candidate. -/
  | build {s s' : ProbeProcess} {n : ℕ} (hn : ∀ targets, lastAdopted s.log ≠ some (n, targets))
      (h : BuildStep n s s') : ChainStep s s'
  /-- A candidate takes the place of the checker before it, which is destroyed. -/
  | adopt {s s' : ProbeProcess} (n : ℕ) (targets : List ProbeTarget) (hvalid : validTargets targets)
      (himport : Imports (currentSnapshots s) targets (snapshots s n))
      (hs' : s' = ((lastAdopted s.log).elim s (fun c => s.cancel c.1)).record (.adopted n targets)) :
      ChainStep s s'
  /-- A construction has failed. -/
  | rejected {s : ProbeProcess} {error : ProbeError}
      (h : error = .invalidImportedCounters →
        ∃ target, importSnapshot (currentSnapshots s) target = none) :
      ChainStep s (s.record (.rejected error))
  /-- A poll has failed. -/
  | pollFailed {s : ProbeProcess} {checker : ℕ} {error : ProbeError} :
      ChainStep s (s.record (.pollFailed checker error))

/-- An event that says nothing of the health of a target. -/
def ProbeEvent.Idle : ProbeEvent → Prop
  | .completed .. | .adopted .. => False
  | .rejected error => error ≠ .invalidImportedCounters
  | _ => True

theorem ProbeEvent.IsSetup.idle {e : ProbeEvent} (h : e.IsSetup) : e.Idle := by
  cases e <;> trivial

section Idle

variable {events log : List ProbeEvent} (hidle : ∀ e ∈ events, e.Idle)
include hidle

theorem lastAdopted_idle : lastAdopted (events ++ log) = lastAdopted log := by
  induction events with
  | nil => rfl
  | cons e events ih =>
    have he := hidle e List.mem_cons_self
    have ih := ih fun e' h' => hidle e' (List.mem_cons_of_mem e h')
    cases e <;> first | exact ih | exact he.elim

theorem outcomes_idle (target : ProbeTarget) : outcomes target (events ++ log) = outcomes target log := by
  induction events with
  | nil => rfl
  | cons e events ih =>
    have he := hidle e List.mem_cons_self
    have ih := ih fun e' h' => hidle e' (List.mem_cons_of_mem e h')
    cases e <;> first | exact ih | exact he.elim

end Idle

@[simp] theorem lastAdopted_completed {c i : ℕ} {t : ProbeTarget} {b : Bool} (log : List ProbeEvent) :
    lastAdopted (.completed c i t b :: log) = lastAdopted log := rfl

/-- The snapshots of a checker whose probes are those of another state. -/
theorem snapshots_congr {s s' : ProbeProcess} {c : ℕ}
    (h : (s'.checkers c).probes = (s.checkers c).probes) : snapshots s' c = snapshots s c := by
  simp only [snapshots, UdpProbeChecker.copyProbeSnapshots, h]

theorem snapshots_getElem? (s : ProbeProcess) (c i : ℕ) :
    (snapshots s c)[i]? = ((s.checkers c).probes[i]?).map (·.snapshot) := List.getElem?_map ..

theorem snapshots_of_lt {s : ProbeProcess} {c i : ℕ} (h : i < s.count c) :
    (snapshots s c)[i]? = some (s.probe c i).snapshot := by
  have hlt : i < (s.checkers c).probes.length := h
  rw [snapshots_getElem?, ProbeProcess.probe, List.getElem?_eq_getElem hlt]
  rfl

theorem snapshots_setProbe (s : ProbeProcess) (c i : ℕ) (p : Probe) :
    snapshots (s.setProbe c i p) c = (snapshots s c).set i p.snapshot := by
  simp [snapshots, setProbe, UdpProbeChecker.copyProbeSnapshots, List.map_set]

/-- A probe is changed, but not its snapshot. -/
theorem snapshots_setProbe_self {s : ProbeProcess} {c i : ℕ} (h : i < s.count c) {p : Probe}
    (hp : p.snapshot = (s.probe c i).snapshot) : snapshots (s.setProbe c i p) c = snapshots s c := by
  rw [snapshots_setProbe, hp]
  refine List.ext_getElem? fun j => ?_
  by_cases hj : i = j
  · subst hj
    rw [List.getElem?_set_self', snapshots_of_lt h]
    rfl
  · rw [List.getElem?_set_ne hj]

theorem snapshots_cancel (s : ProbeProcess) (self c : ℕ) :
    snapshots (s.cancel self) c = snapshots s c := by
  by_cases hc : c = self
  · subst hc
    simp [snapshots, ProbeProcess.cancel, setChecker, UdpProbeChecker.copyProbeSnapshots, Probe.cancel]
  · exact snapshots_congr (by simp [ProbeProcess.cancel, setChecker, hc])

/-- What a step of a checker does to the health of its targets: nothing, or the result
of one of them comes in. -/
theorem ProbeStep.health {c : ℕ} {s s' : ProbeProcess} (hstep : ProbeStep c s s') :
    (∃ events, s'.log = events ++ s.log ∧ (∀ e ∈ events, e.Idle) ∧ snapshots s' c = snapshots s c) ∨
      ∃ i success events snapshot, (snapshots s c)[i]? = some snapshot ∧
        s'.log = .completed c i snapshot.target success :: (events ++ s.log) ∧
        (∀ e ∈ events, e.Idle) ∧ snapshots s' c = (snapshots s c).set i (snapshot.applyResult success) := by
  have hone : ∀ e : ProbeEvent, e.Idle → ∀ e' ∈ [e], e'.Idle := by
    intro e he e' h'
    rwa [List.mem_singleton.mp h']
  have hnone : ∀ e ∈ ([] : List ProbeEvent), e.Idle := fun e h => absurd h List.not_mem_nil
  cases hstep with
  | quiet hq => exact Or.inl ⟨[], hq.log, hnone, snapshots_congr (hq.probes c)⟩
  | @note e he =>
    refine Or.inl ⟨[e], rfl, hone _ ?_, rfl⟩
    cases e <;> trivial
  | @generate i pollTime token nonceSource hi _ _ =>
    refine Or.inl ⟨[.attempted c i _ token pollTime, .generated token], rfl, ?_, snapshots_setProbe_self (s := s) hi rfl⟩
    exact List.forall_mem_cons.mpr ⟨trivial, hone _ trivial⟩
  | launch hi _ _ _ =>
    exact Or.inl ⟨[_], rfl, hone _ trivial, snapshots_setProbe_self (s := s) hi rfl⟩
  | ignore => exact Or.inl ⟨[_], rfl, hone _ trivial, rfl⟩
  | @succeed i payload t hflight _ _ =>
    exact Or.inr ⟨i, true, [.received c i payload t], _, snapshots_of_lt (lt_of_awaiting hflight), rfl,
      hone _ trivial, snapshots_setProbe _ c i _⟩
  | @late i payload t hflight _ =>
    exact Or.inr ⟨i, false, [.received c i payload t], _, snapshots_of_lt (lt_of_awaiting hflight), rfl,
      hone _ trivial, snapshots_setProbe _ c i _⟩
  | @fail i _ _ hi =>
    exact Or.inr ⟨i, false, [], _, snapshots_of_lt hi, rfl, hnone, snapshots_setProbe _ c i _⟩
  | cancel =>
    obtain ⟨events, hlog, hall⟩ := (built_cancel s c).log
    exact Or.inl ⟨events, hlog, fun e he => (hall e he).idle, snapshots_cancel s c c⟩

/-! ### The invariant -/

/-- At every moment: a target that is not configured has no results. -/
def Absent (log : List ProbeEvent) : Prop :=
  ∀ before, before <:+ log → ∀ target, ¬ Configured target (currentTargets before) →
    outcomes target before = []

/-- What holds at every point of a run of a chain. -/
structure Continuity (s : ProbeProcess) : Prop where
  /-- The checker in place is for the targets last adopted. -/
  placed : (currentSnapshots s).map (·.target) = currentTargets s.log
  /-- They have different names. -/
  distinct : ((currentTargets s.log).map (·.id)).Nodup
  /-- Each is where its results have taken it. -/
  health : ∀ snapshot ∈ currentSnapshots s,
    snapshot.health = HealthState.run {} (outcomes snapshot.target s.log)
  /-- Targets start without results. -/
  absent : Absent s.log
  /-- No import has been refused. -/
  imported : .rejected .invalidImportedCounters ∉ s.log

theorem continuity_start (nonceSource : ProbeNonceSequence) (clock : Time) :
    Continuity { nonceSource, clock } := by
  refine ⟨rfl, List.nodup_nil, fun _ h => absurd h List.not_mem_nil, fun before h target _ => ?_,
    List.not_mem_nil⟩
  rw [List.suffix_nil.mp h]
  rfl

theorem Absent.cons {log : List ProbeEvent} (h : Absent log) {e : ProbeEvent}
    (he : ∀ target, ¬ Configured target (currentTargets (e :: log)) → outcomes target (e :: log) = []) :
    Absent (e :: log) := by
  intro before hb target hn
  rcases List.suffix_cons_iff.mp hb with rfl | hb
  · exact he target hn
  · exact h before hb target hn

theorem Absent.idle {events log : List ProbeEvent} (h : Absent log) (hidle : ∀ e ∈ events, e.Idle) :
    Absent (events ++ log) := by
  induction events with
  | nil => exact h
  | cons e events ih =>
    refine (ih fun e' h' => hidle e' (List.mem_cons_of_mem e h')).cons fun target hn => ?_
    have hlast : lastAdopted (e :: (events ++ log)) = lastAdopted log := lastAdopted_idle hidle
    have hout : outcomes target (e :: (events ++ log)) = outcomes target log :=
      outcomes_idle hidle target
    rw [currentTargets, hlast] at hn
    rw [hout]
    exact h log List.suffix_rfl target hn

/-- Idle events leave everything where it was. -/
theorem Continuity.idle {s s' : ProbeProcess} (h : Continuity s) {events : List ProbeEvent}
    (hlog : s'.log = events ++ s.log) (hidle : ∀ e ∈ events, e.Idle)
    (hsnap : currentSnapshots s' = currentSnapshots s) : Continuity s' := by
  have htargets : currentTargets s'.log = currentTargets s.log := by
    rw [currentTargets, hlog, lastAdopted_idle hidle, currentTargets]
  refine ⟨?_, ?_, fun snapshot hs => ?_, ?_, ?_⟩
  · rw [hsnap, htargets]
    exact h.placed
  · rw [htargets]
    exact h.distinct
  · rw [hlog, outcomes_idle hidle]
    exact h.health snapshot (hsnap ▸ hs)
  · rw [hlog]
    exact h.absent.idle hidle
  · rw [hlog, List.mem_append]
    exact fun hm => hm.elim (fun hm => hidle _ hm rfl) h.imported

/-- The configured targets are those of the snapshots. -/
theorem Continuity.configured_iff {s : ProbeProcess} (h : Continuity s) (target : ProbeTarget) :
    Configured target (currentTargets s.log) ↔
      ∃ snapshot ∈ currentSnapshots s, target.identity = snapshot.target.identity := by
  rw [← h.placed, Configured]
  simp only [List.mem_map, exists_exists_and_eq_and]

/-- Two snapshots of the checker in place are of different identities. -/
theorem Continuity.identity_inj {s : ProbeProcess} (h : Continuity s) {i j : ℕ} {a b : ProbeSnapshot}
    (hi : (currentSnapshots s)[i]? = some a) (hj : (currentSnapshots s)[j]? = some b)
    (hid : a.target.identity = b.target.identity) : i = j := by
  have hnodup : ((currentSnapshots s).map (·.target.id)).Nodup := by
    have hd := h.distinct
    rwa [← h.placed, List.map_map] at hd
  obtain ⟨hlt, -⟩ := List.getElem?_eq_some_iff.mp hi
  refine (List.getElem?_inj (by rwa [List.length_map]) hnodup).mp ?_
  rw [List.getElem?_map, List.getElem?_map, hi, hj]
  exact congrArg some (congrArg Prod.fst hid)

/-- A result comes in for the target of the checker in place that it is recorded for. -/
theorem Continuity.completed {s s' : ProbeProcess} (h : Continuity s) {c i : ℕ}
    {success : Bool} {snapshot : ProbeSnapshot}
    (hi : (currentSnapshots s)[i]? = some snapshot)
    (hlog : s'.log = .completed c i snapshot.target success :: s.log)
    (hsnap : currentSnapshots s' = (currentSnapshots s).set i (snapshot.applyResult success)) :
    Continuity s' := by
  have htargets : currentTargets s'.log = currentTargets s.log := by
    rw [currentTargets, hlog, lastAdopted_completed, currentTargets]
  have hconf : Configured snapshot.target (currentTargets s.log) :=
    (h.configured_iff _).mpr ⟨snapshot, List.mem_of_getElem? hi, rfl⟩
  refine ⟨?_, ?_, fun snapshot' hs => ?_, ?_, ?_⟩
  · rw [hsnap, htargets, ← h.placed, List.map_set, ProbeSnapshot.target_applyResult]
    refine List.ext_getElem? fun j => ?_
    by_cases hj : i = j
    · subst hj
      rw [List.getElem?_set_self', List.getElem?_map, hi]
      rfl
    · rw [List.getElem?_set_ne hj]
  · rw [htargets]
    exact h.distinct
  · rw [hsnap] at hs
    obtain ⟨j, hj⟩ := List.mem_iff_getElem?.mp hs
    rw [hlog]
    by_cases hij : i = j
    · subst hij
      rw [List.getElem?_set_self', hi] at hj
      obtain rfl : snapshot.applyResult success = snapshot' := Option.some.inj hj
      rw [ProbeSnapshot.health_applyResult, ProbeSnapshot.target_applyResult, outcomes, if_pos rfl,
        HealthState.run_concat, h.health snapshot (List.mem_of_getElem? hi)]
    · rw [List.getElem?_set_ne hij] at hj
      have hne : snapshot'.target.identity ≠ snapshot.target.identity := fun hid =>
        hij (h.identity_inj hi hj hid.symm)
      rw [outcomes, if_neg hne]
      exact h.health snapshot' (List.mem_of_getElem? hj)
  · rw [hlog]
    refine h.absent.cons fun target hn => ?_
    have hn : ¬ Configured target (currentTargets s.log) := hn
    have hne : target.identity ≠ snapshot.target.identity := fun hid =>
      hn ((configured_congr hid _).mpr hconf)
    rw [outcomes, if_neg hne]
    exact h.absent s.log List.suffix_rfl target hn
  · rw [hlog]
    intro hm
    rcases List.mem_cons.mp hm with he | hm
    · cases he
    · exact h.imported hm

/-- **A reload loses no result and lends none**: the new checker has for each of its
targets what the one before it had, or the initial state. -/
theorem Continuity.adopted {s s' : ProbeProcess} (h : Continuity s) {n : ℕ} {targets : List ProbeTarget}
    (hvalid : validTargets targets)
    (himport : Imports (currentSnapshots s) targets (currentSnapshots s'))
    (hlog : s'.log = .adopted n targets :: s.log) : Continuity s' := by
  have htargets : currentTargets s'.log = targets := by
    rw [hlog]
    rfl
  refine ⟨?_, ?_, fun snapshot hs => ?_, ?_, ?_⟩
  · rw [htargets]
    exact imports_targets himport
  · rw [htargets]
    exact hvalid.2
  · obtain ⟨target, htarget, hi⟩ := imports_mem himport hs
    obtain ⟨rfl, hfrom⟩ := importSnapshot_spec hi
    have hconf : Configured snapshot.target targets := ⟨_, htarget, rfl⟩
    rw [hlog, outcomes, if_pos hconf]
    rcases hfrom with ⟨old, hold, hid, hhealth⟩ | ⟨hnew, hhealth⟩
    · rw [hhealth, h.health old hold, outcomes_congr hid]
    · have hn : ¬ Configured snapshot.target (currentTargets s.log) := by
        rw [h.configured_iff]
        rintro ⟨old, hold, hid⟩
        exact hnew old hold hid
      rw [hhealth, h.absent s.log List.suffix_rfl _ hn]
      rfl
  · rw [hlog]
    refine h.absent.cons fun target hn => ?_
    have hn : ¬ Configured target targets := hn
    rw [outcomes, if_neg hn]
  · rw [hlog]
    intro hm
    rcases List.mem_cons.mp hm with he | hm
    · cases he
    · exact h.imported hm

/-- A construction records nothing of the health of a target. -/
theorem BuildStep.idle {n : ℕ} {s s' : ProbeProcess} (hstep : BuildStep n s s') :
    ∃ events, s'.log = events ++ s.log ∧ ∀ e ∈ events, e.Idle := by
  rcases hstep.log with ⟨targets, hlog⟩ | ⟨events, hlog, hall⟩
  · refine ⟨[.configured n targets], hlog, fun e he => ?_⟩
    rw [List.mem_singleton.mp he]
    trivial
  · exact ⟨events, hlog, fun e he => (hall e he).idle⟩

theorem currentSnapshots_of {s : ProbeProcess} {c : ℕ} {targets : List ProbeTarget}
    (h : lastAdopted s.log = some (c, targets)) : currentSnapshots s = snapshots s c := by
  rw [currentSnapshots, h]
  rfl

/-- The snapshots in place are not those of a checker that is not in place. -/
theorem currentSnapshots_others {s s' : ProbeProcess} {n : ℕ}
    (hlast : lastAdopted s'.log = lastAdopted s.log)
    (hn : ∀ targets, lastAdopted s.log ≠ some (n, targets))
    (hothers : ∀ c, c ≠ n → s'.checkers c = s.checkers c) : currentSnapshots s' = currentSnapshots s := by
  rw [currentSnapshots, currentSnapshots, hlast]
  cases hl : lastAdopted s.log with
  | none => rfl
  | some cur =>
    obtain ⟨c, targets⟩ := cur
    have hc : c ≠ n := fun he => hn targets (he ▸ hl)
    exact snapshots_congr (congrArg UdpProbeChecker.probes (hothers c hc))

/-- **Every step keeps the invariant.** -/
theorem ChainStep.continuity {s s' : ProbeProcess} (hstep : ChainStep s s') (h : Continuity s) :
    Continuity s' := by
  cases hstep with
  | poll hc hstep =>
    rcases hstep.health with ⟨events, hlog, hidle, hsnap⟩ | ⟨i, success, events, snapshot, hi, hlog, hidle, hsnap⟩
    · have hlast : lastAdopted s'.log = lastAdopted s.log := by rw [hlog, lastAdopted_idle hidle]
      refine h.idle hlog hidle ?_
      rw [currentSnapshots_of (hlast.trans hc), currentSnapshots_of hc, hsnap]
    · -- first what was read, then the result
      have hbefore : Continuity { s with log := events ++ s.log } := by
        refine h.idle rfl hidle ?_
        simp only [currentSnapshots, lastAdopted_idle hidle]
        rfl
      have hcur : currentSnapshots { s with log := events ++ s.log } = currentSnapshots s := by
        simp only [currentSnapshots, lastAdopted_idle hidle]
        rfl
      have hlast : lastAdopted s'.log = lastAdopted s.log := by
        rw [hlog, lastAdopted_completed, lastAdopted_idle hidle]
      refine hbefore.completed (i := i) ?_ hlog ?_
      · rw [hcur, currentSnapshots_of hc, hi]
      · rw [hcur, currentSnapshots_of (hlast.trans hc), currentSnapshots_of hc, hsnap]
  | build hn hstep =>
    obtain ⟨events, hlog, hidle⟩ := hstep.idle
    have hlast : lastAdopted s'.log = lastAdopted s.log := by rw [hlog, lastAdopted_idle hidle]
    exact h.idle hlog hidle (currentSnapshots_others hlast hn fun c hc => hstep.others hc)
  | @adopt _ n targets hvalid himport hs' =>
    -- the checker before it closes its sockets first
    set old := (lastAdopted s.log).elim s fun c => s.cancel c.1 with hold
    have hsnap : ∀ c, snapshots old c = snapshots s c := by
      intro c
      rw [hold]
      cases lastAdopted s.log with
      | none => rfl
      | some cur => exact snapshots_cancel s cur.1 c
    obtain ⟨events, hlog, hidle⟩ : ∃ events, old.log = events ++ s.log ∧ ∀ e ∈ events, e.Idle := by
      rw [hold]
      cases lastAdopted s.log with
      | none => exact ⟨[], rfl, fun e he => absurd he List.not_mem_nil⟩
      | some cur =>
        obtain ⟨events, hlog, hall⟩ := (built_cancel s cur.1).log
        exact ⟨events, hlog, fun e he => (hall e he).idle⟩
    have hcur : currentSnapshots old = currentSnapshots s := by
      rw [currentSnapshots, currentSnapshots, hlog, lastAdopted_idle hidle]
      cases lastAdopted s.log with
      | none => rfl
      | some cur => exact hsnap cur.1
    subst hs'
    refine (h.idle hlog hidle hcur).adopted hvalid ?_ rfl
    have hnew : currentSnapshots (old.record (.adopted n targets)) = snapshots s n := hsnap n
    rw [hcur, hnew]
    exact himport
  | @rejected error hreject =>
    have hne : error ≠ .invalidImportedCounters := by
      intro he
      obtain ⟨target, ht⟩ := hreject he
      exact importSnapshot_isSome (fun old hold => importable_of_health (h.health old hold)) target ht
    refine h.idle (show _ = [ProbeEvent.rejected error] ++ _ from rfl) (fun e he => ?_) rfl
    rw [List.mem_singleton.mp he]
    exact hne
  | @pollFailed checker error =>
    refine h.idle (show _ = [ProbeEvent.pollFailed checker error] ++ _ from rfl) (fun e he => ?_) rfl
    rw [List.mem_singleton.mp he]
    trivial

/-! ### Every run of a chain -/

theorem ProbeStep.lastAdopted {c : ℕ} {s s' : ProbeProcess} (hstep : ProbeStep c s s') :
    lastAdopted s'.log = lastAdopted s.log := by
  rcases hstep.health with ⟨events, hlog, hidle, -⟩ | ⟨i, success, events, snapshot, -, hlog, hidle, -⟩
  · rw [hlog, lastAdopted_idle hidle]
  · rw [hlog, lastAdopted_completed, lastAdopted_idle hidle]

theorem BuildStep.lastAdopted {n : ℕ} {s s' : ProbeProcess} (hstep : BuildStep n s s') :
    lastAdopted s'.log = lastAdopted s.log := by
  obtain ⟨events, hlog, hidle⟩ := hstep.idle
  rw [hlog, lastAdopted_idle hidle]

theorem ProbeStep.nextChecker {c : ℕ} {s s' : ProbeProcess} (hstep : ProbeStep c s s') :
    s'.nextChecker = s.nextChecker := by
  cases hstep with
  | quiet hq => exact hq.nextChecker
  | _ => rfl

theorem BuildStep.nextChecker_le {n : ℕ} {s s' : ProbeProcess} (hstep : BuildStep n s s') :
    s.nextChecker ≤ s'.nextChecker := by
  cases hstep with
  | start h => exact h ▸ Nat.le_succ _
  | «open» =>
    unfold ProbeProcess.opened
    split <;> exact le_rfl
  | _ => exact le_rfl

/-- The checker in place is the one last adopted, and was constructed. -/
structure InPlace (current : Option ℕ) (s : ProbeProcess) : Prop where
  /-- It is the one last adopted. -/
  adopted : current = (lastAdopted s.log).map (·.1)
  /-- The next checker is another. -/
  lt : ∀ c ∈ current, c < s.nextChecker

theorem InPlace.ne {current : Option ℕ} {s : ProbeProcess} (h : InPlace current s) {n : ℕ}
    (hn : s.nextChecker ≤ n) (targets : List ProbeTarget) : lastAdopted s.log ≠ some (n, targets) := by
  intro he
  have hc := h.adopted
  rw [he] at hc
  have := h.lt n hc
  omega

theorem InPlace.snapshots {current : Option ℕ} {s : ProbeProcess} (h : InPlace current s) :
    (current.elim [] fun c => (s.checkers c).copyProbeSnapshots) = currentSnapshots s := by
  rw [h.adopted, currentSnapshots]
  cases lastAdopted s.log <;> rfl

theorem InPlace.of_eq {current : Option ℕ} {s s' : ProbeProcess} (h : InPlace current s)
    (hlast : lastAdopted s'.log = lastAdopted s.log) (hn : s.nextChecker ≤ s'.nextChecker) :
    InPlace current s' :=
  ⟨hlast ▸ h.adopted, fun c hc => (h.lt c hc).trans_le hn⟩

/-- Runs of a chain. -/
abbrev ChainRuns {α : Type} (m : CheckerM α) (s : ProbeProcess) (Q : α → ProbeProcess → Prop) : Prop :=
  Runs ChainStep (fun _ _ => True) m s Q

/-- After a pass of the chain, the checker to go on with is in place. -/
def GoesOn (r : Option ℕ ⊕ Unit) (s : ProbeProcess) : Prop :=
  match r with
  | .inl current => InPlace current s
  | .inr _ => True

theorem runs_pollChecker {current : Option ℕ} {s : ProbeProcess} (h : InPlace current s) (pollTime : Time) :
    ChainRuns (pollChecker current pollTime) s GoesOn := by
  unfold pollChecker
  cases current with
  | none => exact Runs.pure h
  | some checker =>
    obtain ⟨targets, hlast⟩ : ∃ targets, lastAdopted s.log = some (checker, targets) := by
      have hc := h.adopted.symm
      rw [Option.map_eq_some_iff] at hc
      obtain ⟨⟨c, targets⟩, hlast, rfl⟩ := hc
      exact ⟨targets, hlast⟩
    have hpoll := (steps_pollProbeTransitions checker pollTime s).refine ChainStep
      (fun s' => lastAdopted s'.log = lastAdopted s.log ∧ s'.nextChecker = s.nextChecker)
      ⟨rfl, rfl⟩ fun s₁ s₂ hJ hstep =>
        ⟨⟨hstep.lastAdopted.trans hJ.1, hstep.nextChecker.trans hJ.2⟩, .poll (hJ.1.trans hlast) hstep⟩
    refine Runs.bind (Q := fun _ s' => InPlace (some checker) s') ?_ fun _ _ _ h' => Runs.pure h'
    refine Runs.handle (E := fun _ s' => InPlace (some checker) s') ?_ fun error s' _ h' => ?_
    · refine Runs.bind (hpoll.mono ?_ fun _ _ _ h => h) fun _ _ _ hJ => Runs.pure ?_
      · rintro e s' - ⟨hJ, -⟩
        exact h.of_eq hJ.1 hJ.2.ge
      · exact h.of_eq hJ.1.1 hJ.1.2.ge
    · exact Runs.modify (.single .pollFailed) (h'.of_eq rfl le_rfl)

theorem runs_reloadChecker {current : Option ℕ} {s : ProbeProcess} (h : InPlace current s)
    (targets : List ProbeTarget) (commit : Bool) :
    ChainRuns (reloadChecker current targets commit) s GoesOn := by
  unfold reloadChecker
  refine Runs.gets_bind ?_
  rw [h.snapshots]
  -- while the candidate is constructed, the checker in place stays as it is
  have hbuild := (runs_constructChecker targets (currentSnapshots s) s).refine ChainStep
    (fun s' => lastAdopted s'.log = lastAdopted s.log ∧ currentSnapshots s' = currentSnapshots s ∧
      s.nextChecker ≤ s'.nextChecker) ⟨rfl, rfl, le_rfl⟩ fun s₁ s₂ hJ hstep => by
        have hn : ∀ targets, lastAdopted s₁.log ≠ some (s.nextChecker, targets) := fun ts =>
          hJ.1 ▸ h.ne le_rfl ts
        have hcur := currentSnapshots_others hstep.lastAdopted hn fun c hc => hstep.others hc
        exact ⟨⟨hstep.lastAdopted.trans hJ.1, hcur.trans hJ.2.1, hJ.2.2.trans hstep.nextChecker_le⟩,
          .build hn hstep⟩
  refine Runs.handle (E := fun e s' => InPlace current s' ∧ (e = .invalidImportedCounters →
    ∃ target, importSnapshot (currentSnapshots s') target = none)) ?_ ?_
  · refine Runs.bind (hbuild.mono ?_ fun _ _ _ h => h) ?_
    · rintro e s' - ⟨⟨hlast, hcur, hn⟩, he, -⟩
      refine ⟨h.of_eq hlast hn, fun hinv => ?_⟩
      obtain ⟨target, -, ht⟩ := he hinv
      exact ⟨target, hcur ▸ ht⟩
    · rintro candidate s' - ⟨⟨hlast, hcur, hn⟩, rfl, hnext, hvalid, himport, -⟩
      have hin : InPlace current s' := h.of_eq hlast hn
      have hne : ∀ ts, lastAdopted s'.log ≠ some (s.nextChecker, ts) := fun ts => hlast ▸ h.ne le_rfl ts
      by_cases hc : commit = true
      · rw [if_pos hc]
        refine Runs.modify_bind (.single (.adopt s.nextChecker targets hvalid ?_ ?_)) (Runs.pure ⟨rfl, ?_⟩)
        · rw [hcur]
          exact himport
        · rw [hin.adopted]
          cases lastAdopted s'.log <;> rfl
        · rintro c ⟨⟩
          have hlt : s.nextChecker < s'.nextChecker := by omega
          cases current <;> exact hlt
      · rw [if_neg hc]
        refine Runs.bind (Q := fun _ s'' => InPlace current s'') ?_ fun _ _ _ h' => Runs.pure h'
        refine Runs.modify (.single (.build hne .cancel)) (hin.of_eq ?_ le_rfl)
        exact BuildStep.lastAdopted (n := s.nextChecker) .cancel
  · rintro e s' - ⟨hin, he⟩
    exact Runs.modify_bind (.single (.rejected he)) (Runs.pure (hin.of_eq rfl le_rfl))

theorem runs_checkerChain (nonceSource : ProbeNonceSequence) (clock : Time) :
    ChainRuns checkerChain { nonceSource, clock } fun _ _ => True := by
  refine Runs.loop InPlace (fun current s h => ?_) ⟨rfl, fun c hc => by cases hc⟩
  refine Runs.call_bind fun request => ?_
  cases request with
  | reload targets commit =>
    exact (runs_reloadChecker h targets commit).post fun r s' _ hr => by cases r <;> exact hr
  | poll pollTime => exact (runs_pollChecker h pollTime).post fun r s' _ hr => by cases r <;> exact hr

theorem continuity_checkerChain (nonceSource : ProbeNonceSequence) (clock : Time)
    (script : List (Answerer ProbeCall ProbeAnswer)) :
    Continuity (checkerChain ⟨script, { nonceSource, clock }⟩).2.state :=
  (runs_checkerChain nonceSource clock).invariant (continuity_start nonceSource clock)
    (fun _ _ h => h.continuity) script

/-- **Health is continuous across reloads.** At every point of every run of a chain of
checkers, polled at any times and each constructed from the last snapshots of the one
before it:

* no construction has failed for the counters it imported;
* the checker in place has one probe for each of its targets, in order, whose status and
  counters are those of `HealthState` after all its results, and which is healthy exactly
  when its last two successes in a row came later than its last three failures in a row;
* the results of a target that every configuration had are all the results it ever had;
* at the adoption of a configuration, a target whose identity the one before it did not
  have has no results, and starts from the initial state. -/
theorem health_continuity (nonceSource : ProbeNonceSequence) (clock : Time)
    (script : List (Answerer ProbeCall ProbeAnswer)) :
    let s := (checkerChain ⟨script, { nonceSource, clock }⟩).2.state
    .rejected .invalidImportedCounters ∉ s.log ∧
      (currentSnapshots s).map (·.target) = currentTargets s.log ∧
      (∀ snapshot ∈ currentSnapshots s,
        snapshot.health = HealthState.run {} (outcomes snapshot.target s.log) ∧
        (snapshot.state = .healthy ↔ HealthState.LastlyUp (outcomes snapshot.target s.log))) ∧
      (∀ target, (∀ c targets, .adopted c targets ∈ s.log → Configured target targets) →
        outcomes target s.log = completedOutcomes target s.log) ∧
      (∀ c targets before, .adopted c targets :: before <:+ s.log →
        ∀ target, ¬ Configured target (currentTargets before) →
          outcomes target (.adopted c targets :: before) = []) ∧
      ∀ c targets before, s.log = .adopted c targets :: before →
        ∀ snapshot ∈ currentSnapshots s, ¬ Configured snapshot.target (currentTargets before) →
          snapshot.health = {} := by
  intro s
  have h : Continuity s := continuity_checkerChain nonceSource clock script
  have hnew : ∀ c targets before, .adopted c targets :: before <:+ s.log →
      ∀ target, ¬ Configured target (currentTargets before) →
        outcomes target (.adopted c targets :: before) = [] := by
    intro c targets before hs target hn
    rw [outcomes, h.absent before ((List.suffix_cons _ _).trans hs) target hn, ite_self]
  refine ⟨h.imported, h.placed, fun snapshot hs => ⟨h.health snapshot hs, ?_⟩,
    fun target => outcomes_eq_completedOutcomes target, hnew, fun c targets before hlog snapshot hs hn => ?_⟩
  · rw [← HealthState.run_status_healthy_iff, ← h.health snapshot hs]
    exact (ProbeState.status_eq_healthy _).symm
  · rw [h.health snapshot hs, hlog, hnew c targets before (hlog ▸ List.suffix_rfl) _ hn]
    rfl

end L4lb.Health
