import L4lb.Control.ServicePublishing

/-!
# The whole loop

From the first configuration to the last line: every pass of the loop starts and ends with
what was applied in the slot, and the state is sound at every point of every run.
-/

namespace L4lb.Control

open Effect Effect.Prog Health ProbeProcess Relation Text Xdp

/-! ### The probes of a poll -/

section Polling

variable {p p' : ProbeProcess} {self c i : ℕ}

/-- The targets of a checker. -/
def probeTargets (p : ProbeProcess) (c : ℕ) : List ProbeTarget :=
  (p.checkers c).probes.map (·.snapshot.target)

theorem probeTargets_setProbe {probe : Probe} (h : probe.snapshot.target = (p.probe self i).snapshot.target) :
    probeTargets (p.setProbe self i probe) c = probeTargets p c := by
  unfold probeTargets
  by_cases hc : c = self
  · subst hc
    simp only [ProbeProcess.setProbe, setChecker_self, List.map_set]
    by_cases hi : i < (p.checkers c).probes.length
    · rw [h]
      have hi' : i < ((p.checkers c).probes.map (·.snapshot.target)).length := by simpa using hi
      have hget : (p.probe c i).snapshot.target = ((p.checkers c).probes.map (·.snapshot.target))[i] := by
        simp [ProbeProcess.probe, List.getElem?_eq_getElem hi]
      rw [hget]
      exact List.set_getElem_self _
    · exact List.set_eq_of_length_le (by simpa using hi)
  · simp only [ProbeProcess.setProbe, setChecker_others hc]

/-- A poll leaves the targets of a checker alone, and constructs none. -/
theorem targets_of_step (h : ProbeStep self p p') (c : ℕ) :
    probeTargets p' c = probeTargets p c ∧ p'.nextChecker = p.nextChecker := by
  cases h with
  | quiet h => exact ⟨by rw [probeTargets, h.probes c]; rfl, h.nextChecker⟩
  | note => exact ⟨rfl, rfl⟩
  | generate => exact ⟨probeTargets_setProbe rfl, rfl⟩
  | launch => exact ⟨probeTargets_setProbe rfl, rfl⟩
  | ignore => exact ⟨rfl, rfl⟩
  | succeed => exact ⟨probeTargets_setProbe (ProbeSnapshot.target_applyResult _ _), rfl⟩
  | late => exact ⟨probeTargets_setProbe (ProbeSnapshot.target_applyResult _ _), rfl⟩
  | fail => exact ⟨probeTargets_setProbe (ProbeSnapshot.target_applyResult _ _), rfl⟩
  | cancel =>
    refine ⟨?_, rfl⟩
    unfold probeTargets
    by_cases hc : c = self
    · subst hc
      simp only [ProbeProcess.cancel, setChecker_self, List.map_map]
      rfl
    · simp only [ProbeProcess.cancel, setChecker_others hc]

theorem targets_of_chain (h : ReflTransGen (ProbeStep self) p p') (c : ℕ) :
    probeTargets p' c = probeTargets p c ∧ p'.nextChecker = p.nextChecker := by
  induction h with
  | refl => exact ⟨rfl, rfl⟩
  | tail _ hstep ih =>
    obtain ⟨htargets, hnext⟩ := targets_of_step hstep c
    exact ⟨htargets.trans ih.1, hnext.trans ih.2⟩

end Polling

section Loop

variable {s s' : RuntimeService}

/-- A poll of the checker in hand. -/
theorem Running.polled (h : Running s) {process : ProbeProcess}
    (hc : ReflTransGen (ProbeStep s.checker) s.process process) : Running { s with process } := by
  obtain ⟨htargets, hnext⟩ := targets_of_chain hc s.checker
  refine ⟨h.live, h.paced, h.stopped, hnext ▸ h.checker_lt, htargets.trans h.targets, ?_, h.holding⟩
  have hlength := congrArg List.length htargets
  simp only [probeTargets, List.length_map] at hlength
  exact hlength ▸ h.length_le

theorem serves_reportTransitions (h : Running s) (now : Time) :
    Serves (reportTransitions now) s (fun _ _ => True) fun _ s' => Running s' ∧
      s.process.clock ≤ s'.process.clock := by
  refine Runs.gets_bind (Runs.bind ((serves_checkerM (steps_pollProbeTransitions _ now _)).mono (fun _ _ _ _ => trivial)
    fun _ _ _ h => h) ?_)
  rintro transitions - - ⟨process, rfl, hc, -⟩
  refine Runs.forEach (fun s' => Running s' ∧ s.process.clock ≤ s'.process.clock) _ ?_
    ⟨h.polled hc, clock_le_of_chain hc⟩
  rintro transition - s' ⟨h', hle⟩
  refine Runs.bind ((quietly_appendOutputLine (.health transition) h'.live (fun _ => nofun) (fun hf => hf.elim)
    nofun).mono (fun _ _ _ _ => trivial) fun _ _ _ h => h) ?_
  exact fun _ _ _ hb => Runs.pure ⟨h'.beside hb.toBeside, hle.trans hb.clock⟩

/-! ### A pass -/

theorem serves_reloadIfDue (h : Running s) {now : Time} (hnow : now ≤ s.process.clock) (path ingress vip : Bytes) :
    Serves (reloadIfDue path ingress vip now) s (fun _ _ => True) fun _ s' => Running s' := by
  refine Runs.get_bind (Runs.ite (fun hdue => ?_) fun _ => Runs.pure h)
  exact serves_reload h (hdue.2.trans hnow) path ingress vip

theorem serves_controlPass (h : Running s) (path ingress vip : Bytes) :
    Serves (controlPass path ingress vip ()) s (fun _ _ => True) fun _ s' => Running s' := by
  have h₀ := h.record (.head s.view) nofun nofun rfl
  refine Runs.modify_bind (.single fun hs => hs.record _ ⟨h.live, h.settled⟩ nofun) (Runs.get_bind ?_)
  refine Runs.ite (fun _ => Runs.pure h₀) fun _ => ?_
  refine Runs.bind ((quietly_consumeRuntimeSignals h₀.live).mono (fun _ _ _ _ => trivial) fun _ _ _ h => h) ?_
  rintro - s₁ - hb₁
  have h₁ := h₀.beside hb₁.toBeside
  refine Runs.get_bind (Runs.ite (fun _ => Runs.pure h₁) fun _ => ?_)
  refine Runs.bind ((serves_clockNow s₁).mono (fun _ _ _ _ => trivial) fun _ _ _ h => h) ?_
  rintro now s₂ - ⟨rfl, hb₂, -, -⟩
  have h₂ := h₁.beside hb₂.toBeside
  refine Runs.bind (serves_reportTransitions h₂ _) ?_
  rintro - s₃ - ⟨h₃, hle₃⟩
  refine Runs.bind ((quietly_consumeRuntimeSignals h₃.live).mono (fun _ _ _ _ => trivial) fun _ _ _ h => h) ?_
  rintro - s₄ - hb₄
  have h₄ := h₃.beside hb₄.toBeside
  refine Runs.get_bind (Runs.ite (fun _ => Runs.pure h₄) fun _ => ?_)
  refine Runs.bind (serves_reloadIfDue h₄ (hle₃.trans hb₄.clock) path ingress vip) fun go s₅ _ h₅ => ?_
  refine Runs.ite (fun _ => ?_) fun _ => Runs.pure h₅
  refine Runs.bind (serves_publishChangedHealthySnapshot h₅) fun goes s₆ _ h₆ => ?_
  refine Runs.ite (fun _ => ?_) fun _ => Runs.pure h₆
  refine Runs.bind ((quietly_flushPendingOutput s₆).mono (fun _ _ _ _ => trivial) fun _ _ _ h => h) ?_
  rintro - s₇ - hb₇
  refine Runs.bind ((quietly_waitForRuntimeSignalsOrOutput s₇).mono (fun _ _ _ _ => trivial) fun _ _ _ h => h) ?_
  exact fun _ _ _ hb₈ => Runs.pure (h₆.beside (hb₇.trans hb₈).toBeside)

theorem serves_loop (h : Running s) (path ingress vip : Bytes) :
    Serves (loop (controlPass path ingress vip) ()) s (fun _ _ => True) fun _ s' => Running s' := by
  refine Runs.loop (fun _ s' => Running s') (fun _ s' h' => ?_) h
  refine (serves_controlPass h' path ingress vip).post fun r s'' _ h'' => ?_
  cases r <;> exact h''

/-! ### The attachment -/

theorem serves_attachment_call {α : Type} {snapshot : UdpRuntimeSnapshot} (c : AttachmentCall)
    (hc : c ≠ .configureMaps) {k : AttachmentAnswer c → AttachmentProgram α} {E : ServiceError → RuntimeService → Prop}
    {Q : α → RuntimeService → Prop} (h : ∀ answer, Serves (attachmentM snapshot (k answer)) s E Q) :
    Serves (attachmentM snapshot (.call c k)) s E Q := by
  cases c with
  | configureMaps => exact absurd rfl hc
  | _ => exact Runs.call_bind h

/-- What does not load the object changes nothing here. -/
theorem serves_attachmentM {α : Type} (snapshot : UdpRuntimeSnapshot) {m : AttachmentProgram α}
    (h : m.Uses (· ≠ .configureMaps)) :
    Serves (attachmentM snapshot m) s (fun _ _ => False) fun _ s' => s' = s := by
  induction m with
  | ret a => exact Runs.pure rfl
  | call c k ih => exact serves_attachment_call c h.1 fun answer => ih answer (h.2 answer)

theorem serves_attachmentOperation
    {operation : XdpAttachment → AttachmentProgram (XdpAttachment × Except AttachmentError Unit)}
    (h : ∀ attachment, (operation attachment).Uses (· ≠ .configureMaps)) :
    Serves (attachmentOperation operation) s (fun _ s' => ∃ attachment, s' = { s with attachment }) fun _ s' =>
      ∃ attachment, s' = { s with attachment } := by
  refine Runs.get_bind (Runs.bind ((serves_attachmentM s.applied (h s.attachment)).mono (fun _ _ _ hf => hf.elim)
    fun _ _ _ h => h) ?_)
  rintro ⟨attachment, result⟩ s' - rfl
  refine Runs.modify_bind (.single fun hs => hs.same rfl rfl rfl) ?_
  rcases result with error | _
  · exact Runs.raise ⟨attachment, rfl⟩
  · exact Runs.pure ⟨attachment, rfl⟩

theorem uses_attachProgram (ifindex : ℤ) (mode : XdpAttachMode) (self : XdpAttachment) :
    (self.attachProgram ifindex mode).Uses (· ≠ .configureMaps) := by
  refine Tree.Uses.ite trivial (Tree.Uses.bind (Tree.uses_ask nofun) fun attached => ?_)
  rcases attached with error | _ <;> trivial

theorem uses_detachExpectedProgramFd (ifindex : ℤ) (mode : XdpAttachMode) (fd : ℤ) (id : ℕ) :
    (detachExpectedProgramFd ifindex mode fd id).Uses (· ≠ .configureMaps) := by
  refine Tree.Uses.bind (Tree.Uses.bind (Tree.uses_ask nofun) fun queried => ?_) fun queried => ?_
  · rcases queried with error | id
    · exact Tree.Uses.ite trivial trivial
    · trivial
  rcases queried with error | current
  · trivial
  refine Tree.Uses.ite trivial (Tree.Uses.ite trivial (Tree.Uses.bind (Tree.uses_ask nofun) fun comparison => ?_))
  rcases comparison with error | fd
  · trivial
  refine Tree.Uses.bind (Tree.uses_ask nofun) fun detached => Tree.Uses.bind (Tree.uses_ask nofun) fun _ => ?_
  rcases detached with error | _
  · exact Tree.Uses.ite trivial trivial
  · trivial

theorem uses_detachProgram (self : XdpAttachment) : self.detachProgram.Uses (· ≠ .configureMaps) := by
  refine Tree.Uses.ite (Tree.Uses.bind (uses_detachExpectedProgramFd _ _ _ _) fun detached => ?_) trivial
  rcases detached with error | _ <;> trivial

/-! ### Before the loop -/

/-- A checker was constructed, and nothing published. -/
structure Prepared (s : RuntimeService) : Prop where
  /-- The store is still to be made. -/
  events : s.ledger.events = []
  /-- Nothing was put in the slot. -/
  installs : s.ledger.kernel.installs = []
  /-- Nothing was thrown again. -/
  live : Live s
  /-- Nothing is waited for. -/
  moments : moments s.log = []
  /-- No stop signal was consumed. -/
  stopped : .stopSeen ∉ s.log
  /-- The checker in hand was made. -/
  checker_lt : s.checker < s.process.nextChecker
  /-- It is of the targets of the configuration. -/
  covers : Covers s.process s.checker s.configuration

theorem sound_start (process : ProbeProcess) (kernel : MapKernel) : Sound (.start process kernel) :=
  ⟨legal_nil, nofun, rfl, fun _ h => absurd h List.not_mem_nil⟩

theorem serves_constructFirst (process : ProbeProcess) (kernel : MapKernel) (configurationPath ingress vip : Bytes) :
    Serves (constructFirst configurationPath ingress vip) (.start process kernel) (fun _ _ => True) fun _ s' =>
      Prepared s' := by
  refine Runs.call_bind fun path => ?_
  rcases path with _ | path
  · exact Runs.raise trivial
  refine Runs.bind ((serves_configM _ _).mono (fun _ _ _ _ => trivial) fun _ _ _ h => h) ?_
  rintro configuration - - rfl
  -- there is no checker in hand yet, so the first is as good as any
  have hconstruct := (runs_constructChecker (buildProbeTargets configuration) [] process).both
    (length_constructChecker (buildProbeTargets configuration) [] process)
  refine Runs.bind ((serves_checkerM (s := .start process kernel) hconstruct).mono (fun _ _ _ _ => trivial)
    fun _ _ _ h => h) ?_
  rintro checker - - ⟨process', rfl, -, ⟨rfl, hnext, -, himports, process₁, hbuilt, rfl⟩, hlength⟩
  refine Runs.modify_bind (.single fun hs => hs.same rfl rfl rfl) (Runs.pure ?_)
  exact ⟨rfl, rfl, nofun, rfl, nofun, hnext ▸ Nat.lt_succ_self _, covers_of_imports himports hlength⟩

theorem serves_buildFirst (h : Prepared s) :
    Serves buildFirst s (fun _ _ => True) fun _ s' => Prepared s' ∧
      ∃ configuration probes, .built configuration probes s'.applied ∈ s'.log := by
  refine Runs.get_bind ?_
  cases hbuild : buildRuntimeSnapshot s.configuration (s.process.checkers s.checker) 1 with
  | none =>
    simp only [hbuild]
    exact Runs.raise trivial
  | some applied =>
    simp only [hbuild]
    have hfrom := fromHealthy_of_build h.covers.targets h.covers.length_le hbuild
    refine Runs.modify (.single fun hs => (hs.record (.built s.configuration _ applied)
      ⟨h.live, hfrom⟩ nofun).same rfl rfl rfl)
      ⟨⟨h.events, h.installs, ?_, h.moments, ?_, h.checker_lt, h.covers⟩, _, _, List.mem_cons_self⟩
    · exact (alike_built s _ _ applied).toBeside.live h.live
    · intro hmem
      rcases List.mem_cons.mp hmem with hmem | hmem
      · cases hmem
      · exact h.stopped hmem

/-- The maps of the profile are made, and the first snapshot published. -/
theorem serves_configureRuntimeMaps (h : Prepared s)
    (hbuilt : ∃ configuration probes, .built configuration probes s.applied ∈ s.log) :
    Serves (configureRuntimeMaps s.applied) s (fun _ _ => False) fun result s' => result = .ok () →
      ∃ store ledger, s' = { s with store, ledger } ∧ Held s' s.applied := by
  refine Runs.call_bind fun opened => ?_
  rcases opened with _ | message
  swap
  · exact Runs.pure nofun
  refine Runs.modify_bind (.single fun hs => hs.same rfl rfl rfl) ?_
  have hholding : Holding {} s.ledger :=
    ⟨by rw [h.events]; rfl, fun hactive => absurd hactive (by decide), fun _ => rfl⟩
  have hlength : s.ledger.kernel.installs.length = (0 : UInt64).toNat := by
    rw [h.installs]
    rfl
  refine Runs.bind (serves_publishSnapshotOf (s := { s with store := some {} }) rfl hholding hbuilt hlength) ?_
  rintro result - - ⟨store', ledger, rfl, hsettles, hholding'⟩
  rcases result with error | _
  · exact Runs.pure nofun
  rcases hsettles with ⟨hunpublished, -⟩ | ⟨fd, hpublished, hinstalls⟩
  · obtain ⟨error, herror, -⟩ := hunpublished.result
    cases herror
  · exact Runs.pure fun _ => ⟨some store', ledger, rfl,
      held_of_published (s := { s with store := some {} }) hlength hpublished hinstalls hholding'⟩

theorem serves_loadObject (h : Prepared s)
    (hbuilt : ∃ configuration probes, .built configuration probes s.applied ∈ s.log) (object : String) :
    Serves (attachmentOperation (·.loadObject object)) s (fun _ _ => True) fun _ s' =>
      ∃ attachment store ledger, s' = { s with attachment, store, ledger } ∧ Held s' s.applied := by
  have hload : Serves (attachmentM s.applied (s.attachment.loadObject object)) s (fun _ _ => False) fun r s' =>
      r.2 = .ok () → ∃ store ledger, s' = { s with store, ledger } ∧ Held s' s.applied := by
    unfold XdpAttachment.loadObject
    split
    · exact Runs.pure nofun
    refine serves_attachment_call (.openObject) nofun fun opened => ?_
    rcases opened with error | _
    · exact Runs.pure nofun
    refine serves_attachment_call (.checkObject) nofun fun checked => ?_
    rcases checked with error | _
    · exact Runs.pure nofun
    refine serves_attachment_call (.load) nofun fun loaded => ?_
    rcases loaded with error | fd
    · exact Runs.pure nofun
    refine serves_attachment_call (.progInfo fd) nofun fun info => ?_
    rcases info with error | id
    · exact Runs.pure nofun
    exact Runs.bind (serves_configureRuntimeMaps h hbuilt) fun result s' _ hr => Runs.pure hr
  refine Runs.get_bind (Runs.bind (hload.mono (fun _ _ _ hf => hf.elim) fun _ _ _ h => h) ?_)
  rintro ⟨attachment, result⟩ s' - hr
  refine Runs.modify_bind (.single fun hs => hs.same rfl rfl rfl) ?_
  rcases result with error | _
  · exact Runs.raise trivial
  · obtain ⟨store, ledger, rfl, hheld⟩ := hr rfl
    exact Runs.pure ⟨attachment, store, ledger, rfl, hheld⟩

/-- The loop is said to be ready, and the first publication is a second later. -/
theorem serves_announceReady (h : Running s) (hmoments : moments s.log = []) (ingress : Bytes) (mode : XdpAttachMode) :
    Serves (announceReady ingress mode) s (fun _ _ => True) fun _ s' => Running s' := by
  set line : OutputLine :=
    .ready ingress mode s.attachment.programId s.configuration.targets.length s.applied with hline
  have hdescribes : line.Describes s.view := h.describes fun applied happlied => (Option.some.inj happlied).symm
  refine Runs.get_bind (Runs.bind ((serves_appendOutputLine h.live hdescribes (fun hf => hf.elim) (Or.inr hmoments)).mono
    (fun _ _ _ _ => trivial) fun _ _ _ h => h) ?_)
  rintro - - - ⟨pendingOutput, rfl⟩
  refine Runs.bind ((serves_clockNow _).mono (fun _ _ _ _ => trivial) fun _ _ _ h => h) ?_
  rintro now s₂ - ⟨rfl, hb, -, -⟩
  refine Runs.modify (.single fun hs => hs.same rfl rfl rfl) ?_
  have hready : Running { s.record (.printed line s.process.clock s.view) with
      pendingOutput, nextPublish := s₂.process.clock + Time.seconds 1 } := by
    refine ⟨fun view hmem => ?_, fun moment hmem => ?_, fun hmem => ?_, h.checker_lt, h.targets, h.length_le, h.holding⟩
    · rcases List.mem_cons.mp hmem with hmem | hmem
      · cases hmem
      · exact h.live view hmem
    · obtain rfl : moment = s.process.clock := by
        rcases List.mem_cons.mp hmem with hmem | hmem
        · exact hmem
        · rw [hmoments] at hmem
          cases hmem
      exact Int.add_le_add_right hb.clock _
    · rcases List.mem_cons.mp hmem with hmem | hmem
      · cases hmem
      · exact h.stopped hmem
  exact hready.beside ⟨hb.view, hb.ledger, rfl, hb.committed, hb.clock, hb.nextChecker, hb.log, hb.stopped⟩

/-! ### After the loop -/

/-- What is said last. -/
theorem serves_finishControlLoop (h : Running s) (ingress : Bytes) (mode : XdpAttachMode) :
    Serves (finishControlLoop ingress mode) s (fun _ _ => True) fun _ s' => ∃ log, s'.log = .returned :: log := by
  refine Runs.bind ((serves_attachmentOperation uses_detachProgram).mono (fun _ _ _ _ => trivial) fun _ _ _ h => h) ?_
  rintro - - - ⟨attachment, rfl⟩
  have hcancel : Runs (fun _ _ => True) (fun _ _ => True) (cancelAllProbes s.checker) s.process fun _ _ => True :=
    Runs.modify (.single trivial) trivial
  refine Runs.get_bind (Runs.bind ((serves_checkerM (s := { s with attachment }) hcancel).mono (fun _ _ _ _ => trivial)
    fun _ _ _ h => h) ?_)
  rintro - - - ⟨process, rfl, -, -⟩
  refine Runs.call_bind fun read => ?_
  rcases read with message | stats
  · exact Runs.raise trivial
  refine Runs.bind ((quietly_appendOutputLine (s := { s with attachment, process }) (.statistics stats) h.live
    (fun _ => nofun) (fun hf => hf.elim) nofun).mono (fun _ _ _ _ => trivial) fun _ _ _ h => h) ?_
  rintro - s₁ - hb₁
  have hlive₁ := hb₁.toBeside.live h.live
  refine Runs.get_bind (Runs.bind ((quietly_appendOutputLine (.detached ingress mode s₁.attachment.programId) hlive₁
    (fun _ => nofun) (fun hf => hf.elim) nofun).mono (fun _ _ _ _ => trivial) fun _ _ _ h => h) ?_)
  rintro - s₂ - hb₂
  have hlive₂ := hb₂.toBeside.live hlive₁
  refine Runs.bind ((quietly_drainOutputOnStop s₂).mono (fun _ _ _ _ => trivial) fun _ _ _ h => h) ?_
  rintro - s₃ - hb₃
  have hlive₃ := hb₃.toBeside.live hlive₂
  refine Runs.modify_bind (.single fun hs => hs.record .returned ⟨hlive₃, trivial⟩ nofun) (Runs.get_bind ?_)
  exact Runs.pure ⟨s₃.log, rfl⟩

/-! ### The whole -/

theorem serves_cleanUp {Q : ℕ → RuntimeService → Prop} (error : ServiceError) (s : RuntimeService) :
    Serves (cleanUp error) s (fun _ _ => True) Q := by
  refine Runs.bind (Q := fun _ _ => True) (Runs.handle (E := fun _ _ => True) ?_ fun _ _ _ _ => Runs.pure trivial)
    fun _ _ _ _ => Runs.raise trivial
  exact (serves_attachmentOperation uses_detachProgram).mono (fun _ _ _ _ => trivial) fun _ _ _ _ => trivial

theorem serves_runAttached (h : Running s) (hmoments : moments s.log = []) (path ingress vip : Bytes)
    (mode : XdpAttachMode) :
    Serves (runAttached path ingress vip mode) s (fun _ _ => True) fun _ s' => ∃ log, s'.log = .returned :: log := by
  refine Runs.bind (serves_announceReady h hmoments ingress mode) fun _ s₁ _ h₁ => ?_
  refine Runs.bind (serves_loop h₁ path ingress vip) fun _ s₂ _ h₂ => ?_
  exact serves_finishControlLoop h₂ ingress mode

theorem serves_runWithChecker (h : Prepared s) (object : String) (path ingress vip : Bytes) (mode : XdpAttachMode) :
    Serves (runWithChecker object path ingress vip mode) s (fun _ _ => True) fun _ s' =>
      ∃ log, s'.log = .returned :: log := by
  refine Runs.bind (serves_buildFirst h) ?_
  rintro - s₁ - ⟨h₁, hbuilt⟩
  refine Runs.call_bind fun opened => Runs.ite (fun _ => ?_) fun _ => Runs.raise trivial
  refine Runs.call_bind fun opened => Runs.ite (fun _ => ?_) fun _ => Runs.raise trivial
  refine Runs.bind (serves_loadObject h₁ hbuilt object) ?_
  rintro - - - ⟨attachment, store, ledger, rfl, hheld⟩
  refine Runs.call_bind fun resolved => ?_
  rcases resolved with error | ifindex
  · exact Runs.raise trivial
  have hattach := serves_attachmentOperation (s := { s₁ with attachment, store, ledger }) (uses_attachProgram ifindex mode)
  refine Runs.bind (hattach.mono (fun _ _ _ _ => trivial) fun _ _ _ h => h) ?_
  rintro - - - ⟨attachment', rfl⟩
  have hrunning : Running { s₁ with attachment := attachment', store, ledger } :=
    ⟨h₁.live, by simp only [h₁.moments]; exact nofun, fun hmem => absurd hmem h₁.stopped, h₁.checker_lt, h₁.covers.targets,
      h₁.covers.length_le, hheld⟩
  exact Runs.handle (serves_runAttached hrunning h₁.moments path ingress vip mode) fun e s' _ _ => serves_cleanUp e s'

/-- **Every run of the control loop is sound at every point**, and one that returns says so last. -/
theorem serves_runRuntimeDsrControlLoop (process : ProbeProcess) (kernel : MapKernel) (object : String)
    (ingress vip configurationPath : Bytes) (mode : XdpAttachMode) :
    Serves (runRuntimeDsrControlLoop object ingress vip configurationPath mode) (.start process kernel)
      (fun _ _ => True) fun _ s' => ∃ log, s'.log = .returned :: log := by
  refine Runs.bind (serves_constructFirst process kernel configurationPath ingress vip) fun path s₁ _ h₁ => ?_
  refine Runs.handle (serves_runWithChecker h₁ object path ingress vip mode) fun e s₂ _ _ => ?_
  have hcancel : Runs (fun _ _ => True) (fun _ _ => True) (cancelAllProbes s₂.checker) s₂.process fun _ _ => True :=
    Runs.modify (.single trivial) trivial
  refine Runs.get_bind (Runs.bind ((serves_checkerM hcancel).mono (fun _ _ _ _ => trivial) fun _ _ _ _ => trivial) ?_)
  exact fun _ _ _ _ => Runs.raise trivial

/-- At every point of every run. -/
theorem sound_runRuntimeDsrControlLoop (process : ProbeProcess) (kernel : MapKernel) (object : String)
    (ingress vip configurationPath : Bytes) (mode : XdpAttachMode) (script : List (Answerer ServiceCall ServiceAnswer)) :
    Sound (runRuntimeDsrControlLoop object ingress vip configurationPath mode
      ⟨script, .start process kernel⟩).2.state :=
  (serves_runRuntimeDsrControlLoop process kernel object ingress vip configurationPath mode).invariant
    (sound_start process kernel) (fun _ _ hstep hs => hstep hs) script

end Loop

end L4lb.Control
