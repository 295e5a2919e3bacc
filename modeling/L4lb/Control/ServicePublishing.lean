import L4lb.Control.ServiceRuns

/-!
# Publishing and reloading

A publication for health and a reload either leave all that the loop has in hand as it
was, or commit and have it anew, or are thrown out of the loop.
-/

namespace L4lb.Control

open Effect Effect.Prog Health Relation Text Xdp

section Publishing

variable {s s' s'' : RuntimeService} {snapshot : UdpRuntimeSnapshot}

/-! ### The store -/

/-- What an installation adds to the history of the slot is built, and of the next generation. -/
theorem Sound.installing (h : Sound s) {store : RuntimeMapStore} {ledger : Ledger}
    (hbuilt : ∃ configuration probes, .built configuration probes snapshot ∈ s.log)
    (hlength : s.ledger.kernel.installs.length = store.generation.toNat)
    (hinstalling : Installing store snapshot s.ledger ledger) : Sound { s with ledger } := by
  rcases hinstalling with hsame | ⟨hgeneration, hcons⟩
  · exact h.same rfl rfl hsame
  · refine ⟨h.legal, h.remembered, ?_, fun install hi => ?_⟩
    · simp only [hcons, List.map_cons, List.length_cons, h.generations, hgeneration, ← hlength]
      rw [List.range'_concat, List.reverse_append, List.reverse_singleton, List.singleton_append, Nat.add_comm 1,
        one_mul]
    · simp only [hcons] at hi
      rcases List.mem_cons.mp hi with rfl | hi
      · exact hbuilt
      · exact h.built install hi

/-- What the store and the maps are after a publication. -/
theorem serves_publishSnapshotOf {store : RuntimeMapStore} (hstore : s.store = some store)
    (hholding : Holding store s.ledger)
    (hbuilt : ∃ configuration probes, .built configuration probes snapshot ∈ s.log)
    (hlength : s.ledger.kernel.installs.length = store.generation.toNat) :
    Serves (publishSnapshotOf snapshot) s (fun _ _ => False) fun result s' => ∃ store' ledger,
      s' = { s with store := some store', ledger } ∧
        Settles store snapshot s.ledger (store', result) ledger ∧ Holding store' ledger := by
  refine Runs.get_bind ?_
  rw [hstore]
  refine Runs.bind (serves_mapsM (records_publishSnapshot hholding snapshot) fun ledger hI hs =>
    hs.installing hbuilt hlength hI) ?_
  rintro ⟨store', result⟩ - - ⟨ledger, rfl, hsettles, hholding'⟩
  exact Runs.modify_bind (.single fun hs => hs.same rfl rfl rfl) (Runs.pure ⟨store', ledger, rfl, hsettles, hholding'⟩)

/-- A snapshot is held: the store has it in the slot, and has published all before it. -/
def Held (s : RuntimeService) (snapshot : UdpRuntimeSnapshot) : Prop :=
  ∃ map store, s.store = some store ∧ Holding store s.ledger ∧ store.activeFd ≥ 0 ∧
    activeMap s.ledger.kernel = some (map, snapshot) ∧ store.generation = snapshot.generation ∧
    s.ledger.kernel.installs.length = store.generation.toNat

/-- What was held is, after a publication that failed. -/
theorem held_of_unpublished {store store' : RuntimeMapStore} {applied : UdpRuntimeSnapshot}
    {result : Except PublishError Unit} {ledger : Ledger} (hheld : Held s applied) (hstore : s.store = some store)
    (h : Unpublished store s.ledger (store', result) ledger) (hinstalls : ledger.kernel.installs = s.ledger.kernel.installs)
    (hholding : Holding store' ledger) :
    Held { s with store := some store', ledger } applied ∧ activeMap ledger.kernel = activeMap s.ledger.kernel ∧
      store' = store := by
  obtain ⟨map, _, hstore', hheld, hpos, hactive, hgeneration, hlength⟩ := hheld
  obtain rfl := Option.some.inj (hstore.symm.trans hstore')
  obtain rfl : store' = store := h.store_eq
  have hsame : activeMap ledger.kernel = activeMap s.ledger.kernel := by
    obtain ⟨map', hlt, -, houter, -⟩ := hheld.active hpos
    rw [activeMap, activeMap, h.outer, houter]
    simp only [Option.map_some, h.maps map' hlt]
  exact ⟨⟨map, store', rfl, hholding, hpos, hsame.trans hactive, hgeneration, hinstalls ▸ hlength⟩, hsame, rfl⟩

/-- A snapshot that was published is held. -/
theorem held_of_published {store store' : RuntimeMapStore} {result : Except PublishError Unit} {ledger : Ledger}
    {fd : ℕ} (hlength : s.ledger.kernel.installs.length = store.generation.toNat)
    (h : Published store snapshot s.ledger (store', result) ledger fd)
    (hinstalls : ledger.kernel.installs = (s.ledger.kernel.nextMap, snapshot) :: s.ledger.kernel.installs)
    (hholding : Holding store' ledger) : Held { s with store := some store', ledger } snapshot := by
  obtain rfl : store' = ⟨fd, snapshot.generation⟩ := h.store_eq
  refine ⟨s.ledger.kernel.nextMap, _, rfl, hholding, Int.natCast_nonneg fd, ?_, rfl, ?_⟩
  · simp only [activeMap, h.outer, Option.map_some, h.value]
  · simp only [hinstalls, List.length_cons, hlength, h.generation]

/-- A snapshot that was published is in another map than the one before it. -/
theorem active_of_published {store store' : RuntimeMapStore} {result : Except PublishError Unit} {ledger : Ledger}
    {fd : ℕ} (hholding : Holding store s.ledger) (hpos : store.activeFd ≥ 0)
    (h : Published store snapshot s.ledger (store', result) ledger fd) :
    activeMap ledger.kernel ≠ activeMap s.ledger.kernel := by
  obtain ⟨map, hlt, -, houter, -⟩ := hholding.active hpos
  simp only [activeMap, h.outer, houter, Option.map_some, ne_eq, Option.some.injEq, Prod.mk.injEq, not_and]
  exact fun he => absurd he hlt.ne'

/-! ### An attempt -/

/-- A publication was committed; all that is left to do is to take it in hand. -/
structure Committed (snapshot : UdpRuntimeSnapshot) (s s' : RuntimeService) : Prop where
  /-- Nothing was thrown again. -/
  live : Live s'
  /-- The next publication is late enough. -/
  paced : ∀ moment ∈ moments s'.log, moment + Time.seconds 1 ≤ s'.nextPublish
  /-- A stop signal is remembered. -/
  stopped : .stopSeen ∈ s'.log → s'.signals.stop = true
  /-- The snapshot is held. -/
  held : Held s' snapshot
  /-- It was not before. -/
  active : activeMap s'.ledger.kernel ≠ activeMap s.ledger.kernel
  /-- The checkers are the same. -/
  process : s'.process = s.process
  /-- So is the one in hand. -/
  checker : s'.checker = s.checker
  /-- And the configuration. -/
  configuration : s'.configuration = s.configuration
  /-- And what was begun. -/
  lastBegun : lastBegun s'.log = lastBegun s.log

/-- A publication failed before it was committed: what the loop has in hand is the same. -/
structure Refused (s s' : RuntimeService) : Prop where
  /-- The loop goes on. -/
  running : Running s'
  /-- It has the same in hand. -/
  view : s'.view = s.view
  /-- And has begun the same. -/
  lastBegun : lastBegun s'.log = lastBegun s.log
  /-- It is not said to be committed. -/
  committed : s'.committed = s.committed

theorem serves_publishRuntime (h : Running s) (hstop : s.signals.stop = false)
    (hclock : ∀ moment ∈ moments s.log, moment + Time.seconds 1 ≤ s.process.clock)
    (hnext : s.process.clock + Time.seconds 1 ≤ s.nextPublish)
    (hbuilt : ∃ configuration probes, .built configuration probes snapshot ∈ s.log) :
    Serves (publishRuntime snapshot) s
      (fun e s' => Live s' ∧ lastBegun s'.log = lastBegun s.log ∧ (e.committed = false → Refused s s') ∧
        (e.committed = true → activeMap s'.ledger.kernel ≠ activeMap s.ledger.kernel))
      fun _ s' => Committed snapshot s s' := by
  have hunstopped : .stopSeen ∉ s.log := fun hmem => by
    rw [h.stopped hmem] at hstop
    cases hstop
  set s₁ := s.record (.attempted s.process.clock) with hs₁
  have hlive : Live s₁ := fun view hmem => by
    rcases List.mem_cons.mp hmem with hmem | hmem
    · cases hmem
    · exact h.live view hmem
  have hstopped : .stopSeen ∈ s₁.log → s₁.signals.stop = true := fun hmem => by
    rcases List.mem_cons.mp hmem with hmem | hmem
    · cases hmem
    · exact h.stopped hmem
  have hpaced : ∀ moment ∈ moments s₁.log, moment + Time.seconds 1 ≤ s₁.nextPublish := by
    intro moment hmem
    rcases List.mem_cons.mp hmem with rfl | hmem
    · exact hnext
    · exact h.paced moment hmem
  obtain ⟨map, store, hstore, hholding, hpos, hactive, hgeneration, hlength⟩ := h.holding
  have hheld : Held s₁ s.applied := ⟨map, store, hstore, hholding, hpos, hactive, hgeneration, hlength⟩
  refine Runs.modify_bind (.single fun hs => hs.record _ ⟨h.live, hunstopped, hclock⟩ nofun) ?_
  refine Runs.bind ((serves_publishSnapshotOf (s := s₁) hstore hholding ?_ hlength).mono ?_
    fun _ _ _ h => h) ?_
  · obtain ⟨configuration, probes, hb⟩ := hbuilt
    exact ⟨configuration, probes, List.mem_cons_of_mem _ hb⟩
  · exact fun _ _ _ hf => hf.elim
  rintro result - - ⟨store', ledger, rfl, hsettles, hholding'⟩
  rcases hsettles with ⟨hunpublished, hinstalls⟩ | ⟨fd, hpublished, hinstalls⟩
  · obtain ⟨error, rfl, hcommitted⟩ := hunpublished.result
    obtain ⟨hheld', hsame, rfl⟩ := held_of_unpublished hheld hstore hunpublished hinstalls hholding'
    have hview : ({ s₁ with store := some store', ledger } : RuntimeService).view = s.view := by
      have hstore₁ : s.store = some store' := hstore
      simp only [RuntimeService.view, hsame, hs₁, RuntimeService.record, hstore₁]
    refine Runs.raise ⟨hlive, rfl, fun _ => ⟨⟨hlive, hpaced, hstopped, h.checker_lt, h.targets, h.length_le, hheld'⟩,
      hview, rfl, rfl⟩, fun hyes => ?_⟩
    rw [ServiceError.committed, hcommitted] at hyes
    cases hyes
  · have hheld' := held_of_published (s := s₁) hlength hpublished hinstalls hholding'
    have hactive' := active_of_published (s := s₁) hholding hpos hpublished
    rcases result with error | _
    · refine Runs.raise ⟨hlive, rfl, fun hno => ?_, fun _ => hactive'⟩
      rw [ServiceError.committed, hpublished.result error rfl] at hno
      cases hno
    · exact Runs.pure ⟨hlive, hpaced, hstopped, hheld', hactive', rfl, rfl, rfl, rfl⟩

/-! ### A snapshot -/

/-- The checker of a number is of the targets of a configuration. -/
structure Covers (process : ProbeProcess) (checker : ℕ) (configuration : RuntimeDsrConfiguration) : Prop where
  /-- Its targets are those. -/
  targets : (process.checkers checker).probes.map (·.snapshot.target) = buildProbeTargets configuration
  /-- There are no more than fit. -/
  length_le : (process.checkers checker).probes.length ≤ 64

/-- What `buildRuntimeSnapshot` builds is of the healthy targets. -/
theorem fromHealthy_of_build {checker : UdpProbeChecker} {configuration : RuntimeDsrConfiguration} {generation : UInt64}
    (htargets : checker.probes.map (·.snapshot.target) = buildProbeTargets configuration)
    (hlength : checker.probes.length ≤ 64)
    (h : buildRuntimeSnapshot configuration checker generation = some snapshot) :
    FromHealthy configuration checker.copyProbeSnapshots snapshot := by
  rw [buildRuntimeSnapshot_eq configuration generation hlength] at h
  obtain rfl := Option.some.inj h
  refine ⟨by rw [UdpProbeChecker.copyProbeSnapshots, List.map_map]; exact htargets,
    by simpa [UdpProbeChecker.copyProbeSnapshots] using hlength, ?_⟩
  have hbackends : checker.copyHealthyProbeTargets.map targetBackend =
      (checker.copyProbeSnapshots.filter (·.state = .healthy)).map fun probe => targetBackend probe.target := by
    rw [UdpProbeChecker.copyHealthyProbeTargets, UdpProbeChecker.copyProbeSnapshots, List.filter_map, List.map_map,
      List.map_map]
    rfl
  rw [← hbackends]
  rfl

theorem alike_built (s : RuntimeService) (configuration : RuntimeDsrConfiguration) (probes : List ProbeSnapshot)
    (snapshot : UdpRuntimeSnapshot) : Alike s (s.record (.built configuration probes snapshot)) := by
  refine ⟨⟨rfl, rfl, rfl, rfl, le_rfl, le_rfl, ⟨[.built configuration probes snapshot], rfl, fun e he => ?_⟩,
    fun hs hmem => hs ?_⟩, rfl⟩
  · rw [List.mem_singleton.mp he]
    trivial
  · rcases List.mem_cons.mp hmem with hmem | hmem
    · cases hmem
    · exact hmem

theorem serves_buildNextSnapshot {configuration : RuntimeDsrConfiguration} {checker : ℕ} (hlive : Live s)
    (hcovers : Covers s.process checker configuration) :
    Serves (buildNextSnapshot configuration checker) s (fun _ s' => s' = s) fun snapshot s' => Alike s s' ∧
      ∃ configuration probes, .built configuration probes snapshot ∈ s'.log := by
  refine Runs.get_bind ?_
  cases nextRuntimeGeneration s.applied with
  | none => exact Runs.raise rfl
  | some generation =>
    cases hbuild : buildRuntimeSnapshot configuration (s.process.checkers checker) generation with
    | none =>
      simp only [hbuild]
      exact Runs.raise rfl
    | some snapshot =>
      simp only [hbuild]
      have hfrom := fromHealthy_of_build hcovers.targets hcovers.length_le hbuild
      refine Runs.modify_bind (.single fun hs => hs.record _ ⟨hlive, hfrom⟩ nofun) (Runs.pure ⟨?_, ?_⟩)
      · exact alike_built s _ _ _
      · exact ⟨_, _, List.mem_cons_self⟩

/-- The time of the next publication is set. -/
theorem serves_setNextPublish (h : Running s) (hlate : s.nextPublish ≤ s.process.clock) :
    Serves setNextPublish s (fun _ s' => Alike s s') fun _ s' => Running s' ∧ s'.view = s.view ∧
      lastBegun s'.log = lastBegun s.log ∧ s'.committed = s.committed ∧ s'.signals = s.signals ∧ s'.log = s.log ∧
      s'.process.checkers = s.process.checkers ∧ s.process.nextChecker ≤ s'.process.nextChecker ∧
      (∀ moment ∈ moments s'.log, moment + Time.seconds 1 ≤ s'.process.clock) ∧
      s'.process.clock + Time.seconds 1 ≤ s'.nextPublish := by
  refine Runs.bind (serves_clockNow s) ?_
  rintro now s₁ - ⟨rfl, hb, hsignals, hlog⟩
  have h₁ := h.beside hb.toBeside
  have hclock : ∀ moment ∈ moments s₁.log, moment + Time.seconds 1 ≤ s₁.process.clock := by
    intro moment hmem
    exact (h₁.paced moment hmem).trans (hb.nextPublish ▸ hlate.trans hb.clock)
  refine Runs.modify (.single fun hs => hs.same rfl rfl rfl) ⟨?_, hb.view, hb.toBeside.lastBegun, hb.committed,
    hsignals, hlog,
    hb.checkers, hb.nextChecker, hclock, le_rfl⟩
  refine ⟨h₁.live, fun moment hmem => ?_, h₁.stopped, h₁.checker_lt, h₁.targets, h₁.length_le, h₁.holding⟩
  exact (hclock moment hmem).trans (Int.le_add_of_nonneg_right (by decide))

/-! ### For health -/

/-- How a transaction that was begun with something in hand is left by what is thrown: if
nothing was committed, with the same in hand; and if something was, with another map in the
slot. -/
structure Thrown (begun : ServiceView) (e : ServiceError) (s : RuntimeService) : Prop where
  /-- Nothing was thrown again. -/
  live : Live s
  /-- It is what was begun. -/
  lastBegun : lastBegun s.log = some begun
  /-- The loop could go on. -/
  running : e.committed = false → s.committed = false → Running s ∧ s.view = begun
  /-- With the same in the slot, all is the same. -/
  view : s.view.active = begun.active → s.view = begun

theorem serves_rethrow {α : Type} {Q : α → RuntimeService → Prop} {begun : ServiceView} {e : ServiceError}
    (h : Thrown begun e s) : Serves (rethrow e : ControlM α) s (fun _ _ => True) Q :=
  Runs.modify_bind (.single fun hs => hs.record _ ⟨h.live, begun, h.lastBegun, h.view⟩ nofun) (Runs.raise trivial)

theorem Running.describes (h : Running s) {line : OutputLine}
    (hline : ∀ applied, line.applied = some applied → applied = s.applied) : line.Describes s.view := by
  intro applied happlied
  obtain ⟨map, store, hactive, -, -⟩ := h.settled
  obtain rfl := hline applied happlied
  exact ⟨map, hactive⟩

/-- An event that only says where the loop is. -/
theorem Running.record (h : Running s) (event : ServiceEvent) (hrethrown : ∀ view, event ≠ .rethrown view)
    (hstop : event ≠ .stopSeen) (hmoments : moments (event :: s.log) = moments s.log) : Running (s.record event) := by
  refine ⟨fun view hmem => ?_, fun moment hmem => h.paced moment (hmoments ▸ hmem), fun hmem => ?_, h.checker_lt,
    h.targets, h.length_le, h.holding⟩
  · rcases List.mem_cons.mp hmem with hmem | hmem
    · exact hrethrown view hmem.symm
    · exact h.live view hmem
  · rcases List.mem_cons.mp hmem with hmem | hmem
    · exact absurd hmem.symm hstop
    · exact h.stopped hmem

/-- What is caught leaves the loop as it was. -/
theorem Running.record_failed (h : Running s) (view : ServiceView) : Running (s.record (.failed view)) :=
  h.record (.failed view) nofun nofun rfl

/-- A transaction is begun. -/
theorem Running.begin (h : Running s) : Running { s.record (.begun s.view) with committed := false } :=
  let h' := h.record (.begun s.view) nofun nofun rfl
  ⟨h'.live, h'.paced, h'.stopped, h'.checker_lt, h'.targets, h'.length_le, h'.holding⟩

theorem serves_catchHealthy {begun : ServiceView} {e : ServiceError} (h : Thrown begun e s) :
    Serves (catchHealthy e) s (fun _ _ => True) fun _ s' => Running s' := by
  unfold catchHealthy
  refine Runs.ite (fun _ => serves_rethrow h) fun hcommitted => Runs.ite (fun _ => serves_rethrow h) fun _ => ?_
  refine Runs.get_bind (Runs.ite (fun _ => serves_rethrow h) fun hflag => ?_)
  obtain ⟨hrunning, rfl⟩ := h.running (Bool.not_eq_true _ ▸ hcommitted) (Bool.not_eq_true _ ▸ hflag)
  have hbegun := h.lastBegun
  have hrunning' := hrunning.record_failed s.view
  refine Runs.modify_bind (.single fun hs => hs.record _ ⟨h.live, hbegun⟩ nofun) (Runs.get_bind ?_)
  refine (quietly_appendOutputLine (.publishFailed .health s.applied) hrunning'.live (hrunning'.describes ?_)
    (fun _ => hbegun) nofun).mono ?_ ?_
  · rintro applied ⟨⟩
    rfl
  · exact fun _ _ _ _ => trivial
  · exact fun _ _ _ hb => hrunning'.beside hb.toBeside

/-- What an attempt throws. -/
theorem thrown_of_refused {e : ServiceError} (hlive : Live s') (hbegun : lastBegun s'.log = some s.view)
    (hrefused : e.committed = false → Refused s s')
    (hactive : e.committed = true → activeMap s'.ledger.kernel ≠ activeMap s.ledger.kernel) : Thrown s.view e s' := by
  refine ⟨hlive, hbegun, fun hno _ => ⟨(hrefused hno).running, (hrefused hno).view⟩, fun hsame => ?_⟩
  cases hcommitted : e.committed with
  | true => exact absurd hsame (hactive hcommitted)
  | false => exact (hrefused hcommitted).view

/-- What is thrown once the snapshot was taken in hand. -/
theorem thrown_of_committed (h : Committed snapshot s s') {configuration : RuntimeDsrConfiguration} {checker : ℕ}
    {e : ServiceError} (hb : Beside { s' with
      committed := true, applied := snapshot, configuration := configuration, checker := checker } s'')
    (hbegun : lastBegun s.log = some s.view) : Thrown s.view e s'' := by
  refine ⟨hb.live h.live, ?_, fun _ hflag => ?_, fun hsame => ?_⟩
  · rw [hb.lastBegun]
    exact h.lastBegun.trans hbegun
  · rw [hb.committed] at hflag
    cases hflag
  · rw [hb.view] at hsame
    exact absurd hsame h.active

/-- A snapshot that was published is taken in hand, with the configuration and the checker it
is of. -/
theorem Committed.running (h : Committed snapshot s s') {configuration : RuntimeDsrConfiguration} {checker : ℕ}
    (hlt : checker < s'.process.nextChecker) (hcovers : Covers s'.process checker configuration) :
    Running { s' with committed := true, applied := snapshot, configuration := configuration, checker := checker } :=
  ⟨h.live, h.paced, h.stopped, hlt, hcovers.targets, hcovers.length_le, h.held⟩

theorem serves_tryPublishHealthy (h : Running s) (hstop : s.signals.stop = false)
    (hclock : ∀ moment ∈ moments s.log, moment + Time.seconds 1 ≤ s.process.clock)
    (hnext : s.process.clock + Time.seconds 1 ≤ s.nextPublish)
    (hbuilt : ∃ configuration probes, .built configuration probes snapshot ∈ s.log)
    (hbegun : lastBegun s.log = some s.view) :
    Serves (tryPublishHealthy snapshot) s (Thrown s.view) fun _ s' => Running s' := by
  refine Runs.bind ((serves_publishRuntime h hstop hclock hnext hbuilt).mono ?_ fun _ _ _ h => h) ?_
  · rintro e s' - ⟨hlive, hlast, hrefused, hactive⟩
    exact thrown_of_refused hlive (hlast.trans hbegun) hrefused hactive
  rintro - s' - hc
  have hlt : s'.checker < s'.process.nextChecker := by
    rw [hc.checker, hc.process]
    exact h.checker_lt
  have hcovers : Covers s'.process s'.checker s'.configuration := by
    rw [hc.process, hc.checker, hc.configuration]
    exact ⟨h.targets, h.length_le⟩
  have hrunning := hc.running hlt hcovers
  refine Runs.modify_bind (.single fun hs => hs.same rfl rfl rfl) (Runs.get_bind ?_)
  refine (quietly_appendOutputLine (.publishApplied .health snapshot) hrunning.live (hrunning.describes ?_)
    (fun hf => hf.elim) nofun).mono ?_ ?_
  · rintro applied ⟨⟩
    rfl
  · exact fun _ _ _ hb => thrown_of_committed hc hb.toBeside hbegun
  · exact fun _ _ _ hb => hrunning.beside hb.toBeside

theorem serves_publishChangedHealthySnapshot (h : Running s) :
    Serves publishChangedHealthySnapshot s (fun _ _ => True) fun _ s' => Running s' := by
  refine Runs.bind ((serves_clockNow s).mono (fun _ _ _ _ => trivial) fun _ _ _ h => h) ?_
  rintro now s₁ - ⟨rfl, hb₁, -, -⟩
  have h₁ := h.beside hb₁.toBeside
  refine Runs.get_bind (Runs.ite (fun hlate => ?_) fun _ => Runs.pure h₁)
  refine Runs.bind ((serves_buildNextSnapshot h₁.live ⟨h₁.targets, h₁.length_le⟩).mono (fun _ _ _ _ => trivial)
    fun _ _ _ h => h) ?_
  rintro snapshot s₂ - ⟨hb₂, hbuilt⟩
  have h₂ := h₁.beside hb₂.toBeside
  refine Runs.ite (fun _ => Runs.pure h₂) fun _ => ?_
  refine Runs.bind ((quietly_consumeRuntimeSignals h₂.live).mono (fun _ _ _ _ => trivial) fun _ _ _ h => h) ?_
  rintro - s₃ - hb₃
  have h₃ := h₂.beside hb₃.toBeside
  refine Runs.get_bind (Runs.ite (fun _ => Runs.pure h₃) fun hstop => ?_)
  have hlate₃ : s₃.nextPublish ≤ s₃.process.clock := by
    rw [hb₃.nextPublish, hb₂.nextPublish]
    exact hlate.trans (hb₂.clock.trans hb₃.clock)
  refine Runs.bind ((serves_setNextPublish h₃ hlate₃).mono (fun _ _ _ _ => trivial) fun _ _ _ h => h) ?_
  rintro - s₄ - ⟨h₄, -, -, -, hsignals, hlog, -, -, hclock, hnext⟩
  have hbuilt₄ : ∃ configuration probes, .built configuration probes snapshot ∈ s₄.log := by
    obtain ⟨configuration, probes, hmem⟩ := hbuilt
    obtain ⟨events, he, -⟩ := hb₃.log
    exact ⟨configuration, probes, by rw [hlog, he]; exact List.mem_append_right _ hmem⟩
  have hrunning := h₄.begin
  refine Runs.modify_bind (.single fun hs => (hs.record (.begun s₄.view) ⟨h₄.live, trivial⟩ nofun).same rfl rfl rfl) ?_
  refine Runs.bind (Runs.handle (serves_tryPublishHealthy hrunning ?_ hclock hnext ?_ rfl) ?_) ?_
  · rw [← hsignals] at hstop
    exact Bool.not_eq_true _ ▸ hstop
  · obtain ⟨configuration, probes, hmem⟩ := hbuilt₄
    exact ⟨configuration, probes, List.mem_cons_of_mem _ hmem⟩
  · exact fun e s' _ he => serves_catchHealthy he
  · exact fun _ s' _ h' => Runs.pure h'

/-! ### For a configuration -/

/-- The checker in hand is as it was, and others may not be. -/
theorem beside_others {process : ProbeProcess}
    (hothers : process.checkers s.checker = s.process.checkers s.checker)
    (hclock : s.process.clock ≤ process.clock) (hnext : s.process.nextChecker ≤ process.nextChecker) :
    Beside s { s with process } := by
  refine ⟨?_, rfl, rfl, rfl, hclock, hnext, ⟨[], rfl, fun _ h => absurd h List.not_mem_nil⟩, fun h => h⟩
  simp only [RuntimeService.view, hothers]

/-- The checker that is destroyed is not the one in hand. -/
theorem serves_cancel {checker : ℕ} (hne : s.checker ≠ checker) :
    Serves (checkerM (cancelAllProbes checker)) s (fun _ _ => False) fun _ s' => Beside s s' := by
  have hcancel : Runs (fun _ _ => True) (fun _ _ => False) (cancelAllProbes checker) s.process fun _ process =>
      process = s.process.cancel checker := Runs.modify (.single trivial) rfl
  refine (serves_checkerM hcancel).mono ?_ ?_
  · rintro e s' - ⟨-, _, _, -, -, hf⟩
    exact hf
  · rintro - s' - ⟨process, rfl, -, rfl⟩
    exact beside_others ((built_cancel s.process checker).others s.checker hne) le_rfl le_rfl

/-- A checker is only constructed for so many targets. -/
theorem length_constructChecker (targets : List ProbeTarget) (previous : List ProbeSnapshot) (process : ProbeProcess) :
    Runs (fun _ _ => True) (fun _ _ => True) (constructChecker targets previous) process fun _ _ =>
      targets.length ≤ 64 :=
  Runs.gets_bind (Runs.ite (fun _ => Runs.raise trivial) fun hlength =>
    (Runs.any _ _).post fun _ _ _ _ => not_lt.mp hlength)

theorem nextChecker_le_of_chain {n : ℕ} {process process' : ProbeProcess}
    (h : ReflTransGen (BuildStep n) process process') : process.nextChecker ≤ process'.nextChecker := by
  induction h with
  | refl => exact le_rfl
  | tail _ hstep ih => exact ih.trans hstep.nextChecker_le

/-- A checker that was constructed is of its targets. -/
theorem covers_of_imports {process : ProbeProcess} {checker : ℕ} {configuration : RuntimeDsrConfiguration}
    {previous : List ProbeSnapshot}
    (himports : Imports previous (buildProbeTargets configuration) (snapshots process checker))
    (hlength : (buildProbeTargets configuration).length ≤ 64) : Covers process checker configuration := by
  have htargets := imports_targets himports
  rw [snapshots, UdpProbeChecker.copyProbeSnapshots, List.map_map] at htargets
  refine ⟨htargets, ?_⟩
  rw [← htargets, List.length_map] at hlength
  exact hlength

/-- A checker is constructed beside the one in hand. -/
theorem serves_constructChecker (hlt : s.checker < s.process.nextChecker) (configuration : RuntimeDsrConfiguration)
    (previous : List ProbeSnapshot) :
    Serves (checkerM (constructChecker (buildProbeTargets configuration) previous)) s
      (fun e s' => e.isControl = false ∧ Beside s s')
      fun checker s' => Beside s s' ∧ s.checker ≠ checker ∧ checker < s'.process.nextChecker ∧
        Covers s'.process checker configuration := by
  have hconstruct := (runs_constructChecker (buildProbeTargets configuration) previous s.process).both
    (length_constructChecker (buildProbeTargets configuration) previous s.process)
  refine (serves_checkerM hconstruct).mono ?_ ?_
  · rintro e s' - ⟨hcontrol, error, process, rfl, hc, ⟨-, hbuilt⟩, -⟩
    exact ⟨hcontrol, beside_others (hbuilt.others s.checker hlt.ne) hbuilt.clock.ge (nextChecker_le_of_chain hc)⟩
  rintro checker s' - ⟨process, rfl, hc, ⟨rfl, hnext, -, himports, process₁, hbuilt, rfl⟩, hlength⟩
  exact ⟨beside_others (hbuilt.others s.checker hlt.ne) hbuilt.clock.ge (nextChecker_le_of_chain hc), hlt.ne,
    hnext ▸ Nat.lt_succ_self _, covers_of_imports himports hlength⟩

/-- What is done with a candidate leaves nothing of it in hand, or has it in hand. -/
theorem Thrown.beside {begun : ServiceView} {e : ServiceError} (h : Thrown begun e s) (hb : Beside s s') :
    Thrown begun e s' := by
  refine ⟨hb.live h.live, hb.lastBegun.trans h.lastBegun, fun hcommitted hflag => ?_, fun hsame => ?_⟩
  · obtain ⟨hrunning, hview⟩ := h.running hcommitted (hb.committed ▸ hflag)
    exact ⟨hrunning.beside hb, hb.view.trans hview⟩
  · rw [hb.view] at hsame ⊢
    exact h.view hsame

/-- Where nothing was committed yet, whatever is thrown is thrown as before. -/
theorem Running.thrown (h : Running s) (hbegun : lastBegun s.log = some s.view) (e : ServiceError) :
    Thrown s.view e s := ⟨h.live, hbegun, fun _ _ => ⟨h, rfl⟩, fun _ => rfl⟩

theorem serves_dropCandidate (checker : ℕ) (s : RuntimeService) :
    Serves (dropCandidate checker) s (fun _ _ => False) fun _ s' => Beside s s' :=
  Runs.get_bind (Runs.when serves_cancel fun _ => .refl s)

theorem serves_commitCandidate {candidate : RuntimeDsrConfiguration} {checker : ℕ} (h : Running s)
    (hstop : s.signals.stop = false) (hlate : s.nextPublish ≤ s.process.clock)
    (hbegun : lastBegun s.log = some s.view) (hne : s.checker ≠ checker) (hlt : checker < s.process.nextChecker)
    (hcovers : Covers s.process checker candidate)
    (hbuilt : ∃ configuration probes, .built configuration probes snapshot ∈ s.log) :
    Serves (commitCandidate candidate checker snapshot) s (Thrown s.view) fun _ s' => Running s' := by
  refine Runs.bind ((serves_setNextPublish h hlate).mono ?_ fun _ _ _ h => h) ?_
  · exact fun e s' _ hb => (h.thrown hbegun e).beside hb.toBeside
  rintro - s₁ - ⟨h₁, hview, hlast, -, hsignals, hlog, hcheckers, hnextChecker, hclock, hnext⟩
  have hbuilt₁ : ∃ configuration probes, .built configuration probes snapshot ∈ s₁.log := hlog ▸ hbuilt
  have hpublish := serves_publishRuntime (s := { s₁ with publishAttempted := true })
    ⟨h₁.live, h₁.paced, h₁.stopped, h₁.checker_lt, h₁.targets, h₁.length_le, h₁.holding⟩ (hsignals ▸ hstop) hclock hnext
    hbuilt₁
  refine Runs.modify_bind (.single fun hs => hs.same rfl rfl rfl) (Runs.bind (hpublish.mono ?_ fun _ _ _ h => h) ?_)
  · rintro e s' - ⟨hlive, hlast', hrefused, hactive⟩
    rw [← hview]
    exact thrown_of_refused (s := { s₁ with publishAttempted := true }) hlive
      (hlast'.trans (hlast.trans (hbegun.trans (congrArg some hview.symm)))) hrefused hactive
  rintro - s₂ - hc
  have hchecker₂ : s₂.checker ≠ checker := by
    rw [hc.checker]
    exact fun he => hne ((congrArg ServiceView.checkerId hview).symm.trans he)
  have hlt₂ : checker < s₂.process.nextChecker := by
    rw [hc.process]
    exact hlt.trans_le hnextChecker
  have hcovers₂ : Covers s₂.process checker candidate := by
    rw [hc.process]
    exact ⟨hcheckers ▸ hcovers.targets, hcheckers ▸ hcovers.length_le⟩
  have h₃ := hc.running hlt₂ hcovers₂
  -- from here on the flag says that the snapshot was committed
  have hthrown : ∀ {s' e},
      Beside { s₂ with committed := true, applied := snapshot, configuration := candidate, checker } s' →
      Thrown s.view e s' := fun hb => hview ▸ thrown_of_committed hc hb
        (hlast.trans (hbegun.trans (congrArg some hview.symm)))
  refine Runs.gets_bind (Runs.modify_bind (.single fun hs => hs.same rfl rfl rfl) ?_)
  refine Runs.bind ((serves_cancel (Ne.symm hchecker₂)).mono (fun _ _ _ hf => hf.elim) fun _ _ _ h => h) ?_
  rintro - s₄ - hb₄
  have h₄ := h₃.beside hb₄
  refine Runs.get_bind (Runs.bind ((quietly_appendOutputLine (.publishApplied .reload s₄.applied) h₄.live
    (h₄.describes ?_) (fun hf => hf.elim) nofun).mono ?_ fun _ _ _ h => h) ?_)
  · rintro applied ⟨⟩
    rfl
  · exact fun _ _ _ hb => hthrown (hb₄.trans hb.toBeside)
  rintro - s₅ - hb₅
  have h₅ := h₄.beside hb₅.toBeside
  refine Runs.get_bind ((quietly_appendOutputLine (.reloadApplied s₅.configuration.targets.length s₅.applied) h₅.live
    (h₅.describes ?_) (fun hf => hf.elim) nofun).mono ?_ ?_)
  · rintro applied ⟨⟩
    rfl
  · exact fun _ _ _ hb => hthrown (hb₄.trans (hb₅.toBeside.trans hb.toBeside))
  · exact fun _ _ _ hb => h₅.beside hb.toBeside

theorem serves_publishCandidate {candidate : RuntimeDsrConfiguration} {checker : ℕ} (h : Running s)
    (hlate : s.nextPublish ≤ s.process.clock) (hbegun : lastBegun s.log = some s.view)
    (hne : s.checker ≠ checker) (hlt : checker < s.process.nextChecker) (hcovers : Covers s.process checker candidate) :
    Serves (publishCandidate candidate checker) s (Thrown s.view) fun _ s' => Running s' := by
  have hthrown := h.thrown hbegun
  refine Runs.bind ((serves_buildNextSnapshot h.live hcovers).mono ?_ fun _ _ _ h => h) ?_
  · rintro e s' - rfl
    exact hthrown e
  rintro snapshot s₁ - ⟨hb₁, hbuilt⟩
  have h₁ := h.beside hb₁.toBeside
  refine Runs.bind ((quietly_consumeRuntimeSignals h₁.live).mono ?_ fun _ _ _ h => h) ?_
  · exact fun e _ _ hb => (hthrown e).beside (hb₁.trans hb).toBeside
  rintro - s₂ - hb₂
  have hb := hb₁.trans hb₂
  have h₂ := h.beside hb.toBeside
  refine Runs.get_bind (Runs.ite (fun _ => Runs.pure h₂) fun hstop => ?_)
  have hlate₂ : s₂.nextPublish ≤ s₂.process.clock := by
    rw [hb.nextPublish]
    exact hlate.trans hb.clock
  have hbegun₂ : lastBegun s₂.log = some s₂.view := by rw [hb.toBeside.lastBegun, hbegun, hb.view]
  have hchecker₂ : s₂.checker ≠ checker := by
    rw [show s₂.checker = s.checker from congrArg ServiceView.checkerId hb.view]
    exact hne
  have hcovers₂ : Covers s₂.process checker candidate :=
    ⟨hb.checkers ▸ hcovers.targets, hb.checkers ▸ hcovers.length_le⟩
  have hbuilt₂ : ∃ configuration probes, .built configuration probes snapshot ∈ s₂.log := by
    obtain ⟨configuration, probes, hmem⟩ := hbuilt
    obtain ⟨events, he, -⟩ := hb₂.log
    exact ⟨configuration, probes, by rw [he]; exact List.mem_append_right _ hmem⟩
  have hcommit := serves_commitCandidate h₂ (Bool.not_eq_true _ ▸ hstop) hlate₂ hbegun₂ hchecker₂
    (hlt.trans_le hb.nextChecker) hcovers₂ hbuilt₂
  rw [hb.view] at hcommit
  exact Runs.bind hcommit fun _ _ _ h' => Runs.pure h'

theorem serves_tryReload (h : Running s) (hlate : s.nextPublish ≤ s.process.clock)
    (hbegun : lastBegun s.log = some s.view) (path ingress vip : Bytes) :
    Serves (tryReload path ingress vip) s (Thrown s.view) fun _ s' => Running s' := by
  have hthrown := h.thrown hbegun
  refine Runs.bind ((serves_configM (loadRuntimeConfig path ingress vip) s).mono ?_ fun _ _ _ h => h) ?_
  · rintro e s' - ⟨rfl, -⟩
    exact hthrown e
  rintro candidate s' - rfl
  refine Runs.get_bind (Runs.ite (fun _ => ?_) fun _ => ?_)
  · refine Runs.bind ((quietly_appendOutputLine (.reloadUnchanged s'.applied) h.live (h.describes ?_)
      (fun hf => hf.elim) nofun).mono ?_ fun _ _ _ h => h) fun _ _ _ hb => Runs.pure (h.beside hb.toBeside)
    · rintro applied ⟨⟩
      rfl
    · exact fun e _ _ hb => (hthrown e).beside hb.toBeside
  refine Runs.bind ((serves_constructChecker h.checker_lt candidate _).mono ?_ fun _ _ _ h => h) ?_
  · rintro e s₁ - ⟨-, hb⟩
    exact (hthrown e).beside hb
  rintro checker s₁ - ⟨hb, hne, hlt, hcovers⟩
  have h₁ := h.beside hb
  have hlate₁ : s₁.nextPublish ≤ s₁.process.clock := by
    rw [hb.nextPublish]
    exact hlate.trans hb.clock
  have hbegun₁ : lastBegun s₁.log = some s₁.view := by rw [hb.lastBegun, hbegun, hb.view]
  have hchecker₁ : s₁.checker ≠ checker := by
    rw [show s₁.checker = s'.checker from congrArg ServiceView.checkerId hb.view]
    exact hne
  have hpublish := serves_publishCandidate h₁ hlate₁ hbegun₁ hchecker₁ hlt hcovers
  rw [hb.view] at hpublish
  refine Runs.ensure hpublish ?_ ?_
  · intro _ s₂ _ h₂
    exact (serves_dropCandidate checker s₂).mono (fun _ _ _ hf => hf.elim) fun _ _ _ hb₂ => h₂.beside hb₂
  · intro e s₂ _ he
    exact (serves_dropCandidate checker s₂).mono (fun _ _ _ hf => hf.elim) fun _ _ _ hb₂ => he.beside hb₂

theorem serves_catchReload {begun : ServiceView} {e : ServiceError} (h : Thrown begun e s) :
    Serves (catchReload e) s (fun _ _ => True) fun _ s' => Running s' := by
  unfold catchReload
  refine Runs.ite (fun _ => serves_rethrow h) fun hcommitted => Runs.ite (fun _ => serves_rethrow h) fun _ => ?_
  refine Runs.get_bind (Runs.ite (fun _ => serves_rethrow h) fun hflag => ?_)
  obtain ⟨hrunning, rfl⟩ := h.running (Bool.not_eq_true _ ▸ hcommitted) (Bool.not_eq_true _ ▸ hflag)
  have hbegun := h.lastBegun
  have h₁ := hrunning.record_failed s.view
  refine Runs.modify_bind (.single fun hs => hs.record _ ⟨h.live, hbegun⟩ nofun) (Runs.get_bind ?_)
  refine Runs.bind (Q := fun _ s' => Alike (s.record (.failed s.view)) s') (Runs.when (fun _ => ?_) fun _ => .refl _) ?_
  · refine (quietly_appendOutputLine (.publishFailed .reload s.applied) h₁.live (h₁.describes ?_)
      (fun _ => hbegun) nofun).mono (fun _ _ _ _ => trivial) fun _ _ _ h => h
    rintro applied ⟨⟩
    rfl
  rintro - s₂ - hb₂
  have h₂ := h₁.beside hb₂.toBeside
  refine Runs.call_bind fun what => Runs.get_bind ?_
  refine Runs.bind ((quietly_appendOutputLine (.reloadRejected (sanitizeErrorReason what) s₂.applied) h₂.live
    (h₂.describes ?_) (fun _ => ?_) nofun).mono (fun _ _ _ _ => trivial) fun _ _ _ h => h)
    fun _ _ _ hb₃ => Runs.pure (h₂.beside hb₃.toBeside)
  · rintro applied ⟨⟩
    rfl
  · rw [hb₂.toBeside.lastBegun, hb₂.view]
    exact hbegun

theorem serves_reload (h : Running s) (hlate : s.nextPublish ≤ s.process.clock) (path ingress vip : Bytes) :
    Serves (reload path ingress vip) s (fun _ _ => True) fun _ s' => Running s' := by
  have hbegin : Running { (s.record (.begun s.view)).record .loading with
      signals := { s.signals with reload := false }, committed := false, publishAttempted := false } :=
    let h' := h.begin.record .loading nofun nofun rfl
    ⟨h'.live, h'.paced, h'.stopped, h'.checker_lt, h'.targets, h'.length_le, h'.holding⟩
  refine Runs.modify_bind (.single fun hs => ?_) (Runs.handle (serves_tryReload hbegin hlate rfl path ingress vip)
    fun e s' _ he => serves_catchReload he)
  have hs' := (hs.record (.begun s.view) ⟨h.live, trivial⟩ nofun).record .loading ⟨h.begin.live, trivial⟩ nofun
  exact ⟨hs'.legal, nofun, hs'.generations, hs'.built⟩

end Publishing

end L4lb.Control
