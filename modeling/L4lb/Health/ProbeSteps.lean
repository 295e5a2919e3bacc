import L4lb.Health.UdpProbeChecker
import Mathlib.Order.Basic

/-!
# The steps of the probe checkers

What the methods of `UdpProbeChecker` can do to the process, one `ProbeStep` for each
thing that can happen to a probe, and that every run of every method is a chain of
such steps. What is proved of the checkers is then proved of the steps.
-/

namespace L4lb.Health

open Effect Prog Relation

namespace ProbeProcess

variable {s s' : ProbeProcess} {c c' i i' : ℕ}

/-- Nothing that the steps are about has changed. -/
structure Quiet (s s' : ProbeProcess) : Prop where
  /-- No token was made. -/
  nonceSource : s'.nonceSource = s.nonceSource
  /-- Nothing was recorded. -/
  log : s'.log = s.log
  /-- No probe was touched. -/
  probes : ∀ c, (s'.checkers c).probes = (s.checkers c).probes
  /-- No checker was constructed. -/
  nextChecker : s'.nextChecker = s.nextChecker
  /-- The clock may have advanced. -/
  clock : s.clock ≤ s'.clock

theorem Quiet.probe (h : Quiet s s') (c i : ℕ) : s'.probe c i = s.probe c i := by
  unfold ProbeProcess.probe
  rw [h.probes c]

theorem quiet_setChecker (s : ProbeProcess) (self : ℕ) {f : UdpProbeChecker → UdpProbeChecker}
    (hf : ∀ checker, (f checker).probes = checker.probes) : Quiet s (s.setChecker self f) := by
  refine ⟨rfl, rfl, fun c => ?_, rfl, le_rfl⟩
  by_cases h : c = self
  · subst h
    simp [setChecker, hf]
  · simp [setChecker, h]

/-- The number of probes of a checker. -/
def count (s : ProbeProcess) (self : ℕ) : ℕ := (s.checkers self).probes.length

theorem Quiet.count (h : Quiet s s') (c : ℕ) : s'.count c = s.count c := by
  unfold ProbeProcess.count
  rw [h.probes c]

/-- A probe that is not there has no socket and is not in flight. -/
theorem probe_of_le (h : s.count c ≤ i) : s.probe c i = default := by
  simp [probe, List.getElem?_eq_none h]

theorem lt_of_handle (h : ¬ (s.probe c i).handle < 0) : i < s.count c := by
  by_contra hle
  rw [probe_of_le (Nat.le_of_not_lt hle)] at h
  exact h (by decide)

theorem lt_of_awaiting (h : (s.probe c i).awaitingReply = true) : i < s.count c := by
  by_contra hle
  rw [probe_of_le (Nat.le_of_not_lt hle)] at h
  exact Bool.noConfusion h

@[simp] theorem probe_record (e : ProbeEvent) : (s.record e).probe c i = s.probe c i := rfl

@[simp] theorem count_record (e : ProbeEvent) : (s.record e).count c = s.count c := rfl

@[simp] theorem count_setProbe (p : Probe) : (s.setProbe c i p).count c' = s.count c' := by
  by_cases h : c' = c
  · subst h
    simp [count, setProbe, setChecker]
  · simp [count, setProbe, setChecker, h]

theorem probe_setProbe_self (h : i < s.count c) (p : Probe) : (s.setProbe c i p).probe c i = p := by
  simp [probe, setProbe, setChecker, List.getElem?_set_self h]

theorem probe_setProbe_ne (h : c' ≠ c ∨ i' ≠ i) (p : Probe) :
    (s.setProbe c i p).probe c' i' = s.probe c' i' := by
  by_cases hc : c' = c
  · subst hc
    have hi : i ≠ i' := fun e => h.elim (fun f => f rfl) fun f => f e.symm
    simp [probe, setProbe, setChecker, List.getElem?_set_ne hi]
  · simp [probe, setProbe, setChecker, hc]

end ProbeProcess

open ProbeProcess

/-- What is recorded of a poll but of none of its probes. -/
def ProbeEvent.IsNote : ProbeEvent → Prop
  | .polled _ _ | .reading _ _ _ | .handled _ _ | .reported _ _ => True
  | .rewound _ _ _ completedAt pollTime => completedAt < pollTime
  | _ => False

/-- A probe with a new token and its times. -/
def Probe.prepare (probe : Probe) (token : ProbePacket) (pollTime : Time) : Probe :=
  { probe with
    token
    nextProbeTime := pollTime + kInterval
    probeDeadline := pollTime + kTimeout }

/-- What a poll of the checker `self` can do. -/
inductive ProbeStep (self : ℕ) : ProbeProcess → ProbeProcess → Prop where
  /-- Nothing of note. -/
  | quiet {s s' : ProbeProcess} (h : Quiet s s') : ProbeStep self s s'
  /-- Something of note. -/
  | note {s : ProbeProcess} {e : ProbeEvent} (he : e.IsNote) : ProbeStep self s (s.record e)
  /-- A token is made for a probe that is not in flight. -/
  | generate {s : ProbeProcess} {i : ℕ} {pollTime : Time} {token : ProbePacket}
      {nonceSource : ProbeNonceSequence} (hi : i < s.count self)
      (hidle : (s.probe self i).awaitingReply = false)
      (hnew : s.nonceSource.generateProbePacket = some (token, nonceSource)) :
      ProbeStep self s { s.setProbe self i ((s.probe self i).prepare token pollTime) with
        nonceSource
        log := .attempted self i (s.probe self i).handle token pollTime :: .generated token :: s.log }
  /-- The probe goes in flight, with the token just made for it. -/
  | launch {s : ProbeProcess} {i : ℕ} {handle : ℤ} {pollTime : Time} {log : List ProbeEvent}
      (hi : i < s.count self) (hidle : (s.probe self i).awaitingReply = false)
      (hnew : s.log = .attempted self i handle (s.probe self i).token pollTime ::
        .generated (s.probe self i).token :: log)
      (hdeadline : (s.probe self i).probeDeadline = pollTime + kTimeout) :
      ProbeStep self s ((s.setProbe self i { s.probe self i with awaitingReply := true }).record
        (.sent self i (s.probe self i).token pollTime))
  /-- A datagram that is not the echo is read in time, and dropped. -/
  | ignore {s : ProbeProcess} {i : ℕ} {payload : Bytes} {t : Time}
      (hflight : (s.probe self i).awaitingReply = true)
      (hother : payload ≠ (s.probe self i).token.toList) :
      ProbeStep self s (s.record (.received self i payload t))
  /-- The echo is read in time. -/
  | succeed {s : ProbeProcess} {i : ℕ} {payload : Bytes} {t : Time}
      (hflight : (s.probe self i).awaitingReply = true) (htime : t < (s.probe self i).probeDeadline)
      (hecho : payload = (s.probe self i).token.toList) :
      ProbeStep self s ((s.record (.received self i payload t)).complete self i true "success" 0)
  /-- A datagram is read too late. -/
  | late {s : ProbeProcess} {i : ℕ} {payload : Bytes} {t : Time}
      (hflight : (s.probe self i).awaitingReply = true) (htime : t ≥ (s.probe self i).probeDeadline) :
      ProbeStep self s
        ((s.record (.received self i payload t)).complete self i false "timeout" .ETIMEDOUT)
  /-- A probe fails: no reply in time, or an error. -/
  | fail {s : ProbeProcess} {i : ℕ} {reason : String} {error : Errno} (hi : i < s.count self) :
      ProbeStep self s (s.complete self i false reason error)
  /-- All probes are cancelled. -/
  | cancel {s : ProbeProcess} : ProbeStep self s (s.cancel self)

/-- What the construction of the checker `self` can do. -/
inductive BuildStep (self : ℕ) : ProbeProcess → ProbeProcess → Prop where
  /-- The checker is started, without probes. -/
  | start {s : ProbeProcess} (h : s.nextChecker = self) :
      BuildStep self s { s.setChecker self fun _ => {} with nextChecker := self + 1 }
  /-- A probe is enrolled, not in flight. -/
  | enroll {s : ProbeProcess} {snapshot : ProbeSnapshot} (h : self < s.nextChecker) :
      BuildStep self s (s.enroll self snapshot)
  /-- What came of opening its socket. -/
  | «open» {s : ProbeProcess} {i : ℕ} {handle : ℤ} : BuildStep self s (s.opened self i handle)
  /-- The probes are cancelled. -/
  | cancel {s : ProbeProcess} : BuildStep self s (s.cancel self)
  /-- The construction is complete. -/
  | configured {s : ProbeProcess} {targets : List ProbeTarget} :
      BuildStep self s (s.record (.configured self targets))

theorem BuildStep.nonceSource {self : ℕ} {s s' : ProbeProcess} (h : BuildStep self s s') :
    s'.nonceSource = s.nonceSource := by
  cases h with
  | «open» =>
    unfold ProbeProcess.opened
    split <;> rfl
  | _ => rfl

/-- What can happen in a process of checkers. -/
inductive ProcessStep : ProbeProcess → ProbeProcess → Prop where
  /-- In a poll. -/
  | probe {s s' : ProbeProcess} (self : ℕ) (h : ProbeStep self s s') : ProcessStep s s'
  /-- In a construction. -/
  | build {s s' : ProbeProcess} (self : ℕ) (h : BuildStep self s s') : ProcessStep s s'
  /-- A construction has failed. -/
  | rejected {s : ProbeProcess} (error : ProbeError) : ProcessStep s (s.record (.rejected error))
  /-- A poll has failed. -/
  | pollFailed {s : ProbeProcess} (checker : ℕ) (error : ProbeError) :
      ProcessStep s (s.record (.pollFailed checker error))

/-- Every run is a chain of steps of `self`. -/
abbrev Steps (self : ℕ) {α : Type} (m : CheckerM α) (s : ProbeProcess)
    (Q : α → ProbeProcess → Prop) : Prop :=
  Runs (ProbeStep self) (fun _ _ => True) m s Q

/-- The clock only advances. -/
theorem ProbeStep.clock_le {self : ℕ} {s s' : ProbeProcess} (h : ProbeStep self s s') :
    s.clock ≤ s'.clock := by
  cases h with
  | quiet h => exact h.clock
  | _ => exact le_rfl

theorem clock_le_of_chain {self : ℕ} {s s' : ProbeProcess} (h : ReflTransGen (ProbeStep self) s s') :
    s.clock ≤ s'.clock := by
  induction h with
  | refl => exact le_rfl
  | tail _ h ih => exact ih.trans h.clock_le

theorem quiet_note {self : ℕ} {s s' : ProbeProcess} {e : ProbeEvent} (hq : Quiet s s') (he : e.IsNote) :
    ReflTransGen (ProbeStep self) s (s'.record e) :=
  .tail (.single (.quiet hq)) (.note he)

/-! ### Sockets and the clock -/

theorem steps_validate (self : ℕ) (result : ProbeIoResult) (s : ProbeProcess) :
    Steps self (validateProbeIoResult result) s fun _ s' => s' = s ∧ ¬ result.Invalid := by
  unfold validateProbeIoResult
  exact Runs.ite (fun _ => Runs.raise trivial) fun h => Runs.pure ⟨rfl, h⟩

theorem steps_sendProbePacket (self : ℕ) (handle : ℤ) (packet : ProbePacket) (s : ProbeProcess) :
    Steps self (sendProbePacket handle packet) s fun _ s' => s' = s := by
  unfold sendProbePacket
  refine Runs.call_bind fun answer => ?_
  rcases answer with e | n
  · exact Runs.pure rfl
  · exact Runs.pure rfl

theorem steps_receiveProbePacket (self : ℕ) (handle : ℤ) (s : ProbeProcess) :
    Steps self (receiveProbePacket handle) s fun r s' => s' = s ∧
      (r.1.bytes < 0 ∧ r.2 = none ∨ ∃ payload : Bytes, r.1.bytes = payload.length ∧ r.2 = some payload) := by
  unfold receiveProbePacket
  refine Runs.call_bind fun answer => ?_
  rcases answer with e | payload
  · exact Runs.pure ⟨rfl, Or.inl ⟨(by decide : (-1 : ℤ) < 0), rfl⟩⟩
  · exact Runs.pure ⟨rfl, Or.inr ⟨payload, rfl, rfl⟩⟩

theorem steps_nowAtCompletion (self : ℕ) (pollTime : Time) (s : ProbeProcess) :
    Steps self (nowAtCompletion pollTime) s fun _ s' => s' = s :=
  Runs.call fun _ => rfl

/-- All is as it was, but for the clock and the history. -/
structure Noted (s s' : ProbeProcess) : Prop where
  /-- No probe was touched. -/
  probe : ∀ c i, s'.probe c i = s.probe c i
  /-- The clock may have advanced. -/
  clock : s.clock ≤ s'.clock

theorem ProbeProcess.Quiet.noted {s s' : ProbeProcess} (h : Quiet s s') : Noted s s' := ⟨h.probe, h.clock⟩

theorem steps_countReceiveEvent (self index : ℕ) (s : ProbeProcess) :
    Steps self (countReceiveEvent self index) s fun _ s' => Noted s s' := by
  have hq := quiet_setChecker s self (f := fun checker =>
    { checker with lastReceiveEventCount := checker.lastReceiveEventCount + 1 }) fun _ => rfl
  exact Runs.modify (quiet_note hq trivial) ⟨hq.noted.probe, hq.noted.clock⟩

/-! ### Sending -/

theorem steps_prepareProbe {self index : ℕ} {pollTime : Time} {s : ProbeProcess}
    (hi : index < s.count self) (hidle : (s.probe self index).awaitingReply = false) :
    Steps self (prepareProbe self index pollTime) s fun _ s' =>
      s'.count self = s.count self ∧ (s'.probe self index).awaitingReply = false ∧
        (s'.probe self index).probeDeadline = pollTime + kTimeout ∧
        s'.log = .attempted self index (s.probe self index).handle (s'.probe self index).token pollTime ::
          .generated (s'.probe self index).token :: s.log := by
  unfold prepareProbe
  refine Runs.get_bind ?_
  cases hnew : s.nonceSource.generateProbePacket with
  | none => exact Runs.raise trivial
  | some new =>
    obtain ⟨token, nonceSource⟩ := new
    refine Runs.modify (.single (.generate hi hidle hnew)) ?_
    have hp := probe_setProbe_self hi ((s.probe self index).prepare token pollTime)
    refine ⟨count_setProbe _, ?_, ?_, ?_⟩
    · exact (congrArg Probe.awaitingReply hp).trans hidle
    · exact congrArg Probe.probeDeadline hp
    · exact congrArg (fun token => .attempted self index (s.probe self index).handle token pollTime ::
        .generated token :: s.log) (congrArg Probe.token hp).symm

theorem steps_launchProbe {self index : ℕ} {handle : ℤ} {pollTime : Time} {s : ProbeProcess}
    {log : List ProbeEvent} (hi : index < s.count self)
    (hidle : (s.probe self index).awaitingReply = false)
    (hdeadline : (s.probe self index).probeDeadline = pollTime + kTimeout)
    (hnew : s.log = .attempted self index handle (s.probe self index).token pollTime ::
      .generated (s.probe self index).token :: log) :
    Steps self (launchProbe self index pollTime) s fun _ _ => True :=
  Runs.modify (.single (.launch hi hidle hnew hdeadline)) trivial

theorem steps_fail {self index : ℕ} {s : ProbeProcess} (hi : index < s.count self)
    (reason : String) (error : Errno) :
    Steps self (completeProbeResult self index false reason error) s fun _ s' =>
      s' = s.complete self index false reason error :=
  Runs.modify (.single (.fail hi)) rfl

theorem steps_sendProbe {self index : ℕ} {pollTime : Time} {s : ProbeProcess}
    (hi : index < s.count self) (hidle : (s.probe self index).awaitingReply = false) :
    Steps self (sendProbe self pollTime index) s fun _ _ => True := by
  unfold sendProbe
  refine Runs.bind (steps_prepareProbe hi hidle) ?_
  rintro - s₁ - ⟨hcount, hidle₁, hdeadline, hnew⟩
  rw [← hcount] at hi
  refine Runs.gets_bind ?_
  refine Runs.bind (steps_sendProbePacket self _ _ s₁) ?_
  rintro sent _ - rfl
  refine Runs.bind (steps_validate self sent _) ?_
  rintro - _ - ⟨rfl, -⟩
  refine Runs.ite (fun _ => Runs.ite (fun _ => Runs.raise trivial) fun _ => ?_) fun _ => ?_
  · exact (steps_fail hi _ _).post fun _ _ _ _ => trivial
  · exact steps_launchProbe hi hidle₁ hdeadline hnew

theorem complete_awaiting {s : ProbeProcess} {self index : ℕ} (hi : index < s.count self)
    (success : Bool) (reason : String) (error : Errno) :
    ((s.complete self index success reason error).probe self index).awaitingReply = false :=
  congrArg Probe.awaitingReply (probe_setProbe_self hi ((s.probe self index).complete success))

theorem complete_count {s : ProbeProcess} {self index c : ℕ} (success : Bool) (reason : String)
    (error : Errno) : (s.complete self index success reason error).count c = s.count c :=
  count_setProbe (s := s) _

theorem steps_sendDueProbePacket (self : ℕ) (pollTime : Time) (index : ℕ) (s : ProbeProcess) :
    Steps self (sendDueProbePacket self pollTime index) s fun _ _ => True := by
  unfold sendDueProbePacket
  refine Runs.gets_bind ?_
  refine Runs.ite (fun _ => Runs.raise trivial) fun hhandle => ?_
  have hi := lt_of_handle hhandle
  refine Runs.bind (Q := fun _ s' => s'.count self = s.count self) ?_ fun _ s₁ _ hcount => ?_
  · refine Runs.when (fun _ => ?_) fun _ => rfl
    refine (steps_fail hi _ _).post ?_
    rintro - _ - rfl
    exact complete_count _ _ _
  · refine Runs.gets_bind ?_
    refine Runs.ite (fun _ => Runs.pure trivial) fun hdue => ?_
    refine Runs.bind (steps_sendProbe (hcount ▸ hi) ?_) fun _ _ _ _ => Runs.pure trivial
    simpa using fun h => hdue (Or.inl h)

theorem steps_sendDueProbePackets (self : ℕ) (pollTime : Time) (s : ProbeProcess) :
    Steps self (sendDueProbePackets self pollTime) s fun _ _ => True :=
  Runs.get_bind (Runs.forEach (fun _ => True) _
    (fun index _ s _ => steps_sendDueProbePacket self pollTime index s) trivial)

/-! ### Receiving -/

/-- The first 24 bytes of the buffer are those of a datagram of 24. -/
theorem replyBuffer_take {payload : Bytes} (h : payload.length = 24) :
    (replyBuffer payload).take 24 = payload := by
  rw [replyBuffer, List.take_take, List.take_append_of_le_length (by omega)]
  exact List.take_of_length_le (by omega)

/-- What is compared is the whole datagram. -/
theorem echo_iff (payload : Bytes) (token : ProbePacket) :
    payload.length = 24 ∧ (replyBuffer payload).take 24 = token.toList ↔ payload = token.toList := by
  constructor
  · rintro ⟨hlen, h⟩
    rwa [replyBuffer_take hlen] at h
  · rintro rfl
    exact ⟨by simp, replyBuffer_take (by simp)⟩

theorem steps_acceptReply {self index : ℕ} {payload : Bytes} {completedAt : Time} {s : ProbeProcess}
    (hflight : (s.probe self index).awaitingReply = true)
    (htime : completedAt < (s.probe self index).probeDeadline) :
    Steps self (acceptReply self index payload completedAt) s fun _ _ => True := by
  -- the record and the completion are one step, so the case is decided first
  by_cases h : payload = (s.probe self index).token.toList
  · intro script
    have : acceptReply self index payload completedAt ⟨script, s⟩ =
        (.ok (), ⟨script, (s.record (.received self index payload completedAt)).complete self index true
          "success" 0⟩) := by
      unfold acceptReply
      simp only [run_bind, run_modify, run_gets, probe_record, Prog.when]
      rw [if_pos ((echo_iff _ _).mpr h)]
      rfl
    rw [this]
    exact ⟨.single (.succeed hflight htime h), trivial⟩
  · refine Runs.modify_bind (.single (.ignore hflight h)) (Runs.gets_bind ?_)
    exact Runs.when (fun he => absurd ((echo_iff _ _).mp he) h) fun _ => trivial

theorem steps_settleReply {self index : ℕ} {probe : Probe} {result : ProbeIoResult}
    {payload : Option Bytes} {wouldBlock : Bool} {completedAt : Time} {s : ProbeProcess}
    (hprobe : s.probe self index = probe) (hflight : probe.awaitingReply = true) :
    Steps self (settleReply self index probe result payload wouldBlock completedAt) s fun _ _ => True := by
  subst hprobe
  have hi := lt_of_awaiting hflight
  unfold settleReply
  refine Runs.ite (fun hlate => ?_) fun htime => Runs.ite (fun _ => Runs.pure trivial) fun _ => ?_
  · refine Runs.modify_bind ?_ (Runs.pure trivial)
    cases payload with
    | none => exact .single (.fail hi)
    | some payload => exact .single (.late hflight hlate)
  · cases payload with
    | none =>
      refine Runs.ite (fun _ => Runs.pure trivial) fun _ => ?_
      exact Runs.bind (steps_fail hi _ _) fun _ _ _ _ => Runs.pure trivial
    | some payload =>
      exact Runs.bind (steps_acceptReply hflight (lt_of_not_ge htime)) fun _ _ _ _ => Runs.pure trivial

theorem steps_receiveProbeReply (self : ℕ) (pollTime : Time) (index : ℕ) (s : ProbeProcess) :
    Steps self (receiveProbeReply self pollTime index) s fun _ _ => True := by
  unfold receiveProbeReply
  refine Runs.get_bind ?_
  refine Runs.ite (fun hgo => ?_) fun _ => Runs.pure trivial
  refine Runs.modify_bind (.single (.note trivial)) ?_
  refine Runs.bind (steps_receiveProbePacket self _ _) ?_
  rintro received _ - ⟨rfl, -⟩
  refine Runs.bind (steps_validate self _ _) ?_
  rintro - _ - ⟨rfl, -⟩
  refine Runs.bind (Q := fun _ s' => Noted s s') ?_ fun _ s₁ _ hq₁ => ?_
  · refine Runs.when (fun _ => ?_) fun _ => ⟨fun _ _ => rfl, le_rfl⟩
    exact (steps_countReceiveEvent self index _).post fun _ _ _ h => ⟨h.probe, h.clock⟩
  · refine Runs.bind (steps_nowAtCompletion self pollTime s₁) ?_
    rintro completedAt _ - rfl
    refine Runs.ite (fun hback => ?_) fun _ => ?_
    · exact Runs.modify_bind (.single (.note hback)) (Runs.raise trivial)
    · exact steps_settleReply (hq₁.probe self index) hgo.1

theorem steps_receiveTargetReplies (self : ℕ) (pollTime : Time) (offset : ℕ) (s : ProbeProcess) :
    Steps self (receiveTargetReplies self pollTime offset) s fun _ _ => True := by
  refine Runs.get_bind (Runs.ite (fun _ => ?_) fun _ => Runs.pure trivial)
  refine Runs.bind (Q := fun _ _ => True) ?_ fun _ _ _ _ => Runs.pure trivial
  refine Runs.loop (fun _ _ => True) (fun _ s _ => ?_) trivial
  refine (steps_receiveProbeReply self pollTime _ s).post fun r _ _ _ => ?_
  cases r <;> trivial

theorem steps_receivePendingProbeReplies (self : ℕ) (pollTime : Time) (s : ProbeProcess) :
    Steps self (receivePendingProbeReplies self pollTime) s fun _ _ => True := by
  refine Runs.get_bind (Runs.bind (Q := fun _ _ => True) ?_ fun _ s₁ _ _ => ?_)
  · exact Runs.forEach (fun _ => True) _
      (fun offset _ s _ => steps_receiveTargetReplies self pollTime offset s) trivial
  · refine Runs.when (fun _ => ?_) fun _ => trivial
    exact Runs.modify (.single (.quiet (quiet_setChecker s₁ self fun _ => rfl))) trivial

/-! ### Polling, constructing, destroying -/

theorem steps_cancelAllProbes (self : ℕ) (s : ProbeProcess) :
    Steps self (cancelAllProbes self) s fun _ _ => True :=
  Runs.modify (.single .cancel) trivial

/-- **A poll is a chain of steps of its checker**, at any time. -/
theorem steps_pollProbeTransitions (self : ℕ) (pollTime : Time) (s : ProbeProcess) :
    Steps self (pollProbeTransitions self pollTime) s fun _ _ => True := by
  unfold pollProbeTransitions
  refine Runs.modify_bind (.single (.quiet ⟨rfl, rfl, fun _ => rfl, rfl, le_rfl⟩)) ?_
  refine Runs.bind (Q := fun _ _ => True)
    (Runs.handle (E := fun _ _ => True) ?_ ?_) fun _ _ _ _ =>
      Runs.gets_bind (Runs.modify_bind (.single (.note trivial)) (Runs.pure trivial))
  · refine Runs.get_bind (Runs.ite (fun _ => Runs.raise trivial) fun _ => ?_)
    refine Runs.modify_bind (quiet_note (quiet_setChecker _ self fun _ => rfl) trivial) ?_
    exact Runs.bind (steps_sendDueProbePackets self pollTime _) fun _ s₁ _ _ =>
      steps_receivePendingProbeReplies self pollTime s₁
  · intro error s₁ _ _
    exact Runs.bind (steps_cancelAllProbes self s₁) fun _ _ _ _ => Runs.raise trivial

/-! ### Construction -/

/-- What setting up or closing sockets records. -/
def ProbeEvent.IsSetup : ProbeEvent → Prop
  | .enrolled _ _ _ | .opened _ _ _ | .closed _ _ _ | .cancelled _ => True
  | _ => False

/-- Only the checker `n` has been touched, and only by setting it up. -/
structure Built (n : ℕ) (s s' : ProbeProcess) : Prop where
  /-- The other checkers are as they were. -/
  others : ∀ c, c ≠ n → s'.checkers c = s.checkers c
  /-- The clock stands. -/
  clock : s'.clock = s.clock
  /-- What was recorded. -/
  log : ∃ events, s'.log = events ++ s.log ∧ ∀ e ∈ events, e.IsSetup

theorem Built.refl (self : ℕ) (s : ProbeProcess) : Built self s s :=
  ⟨fun _ _ => rfl, rfl, [], rfl, fun _ h => absurd h List.not_mem_nil⟩

theorem Built.trans {self : ℕ} {s s' s'' : ProbeProcess} (h : Built self s s')
    (h' : Built self s' s'') : Built self s s'' := by
  obtain ⟨es, hes, hall⟩ := h.log
  obtain ⟨es', hes', hall'⟩ := h'.log
  refine ⟨fun c hc => (h'.others c hc).trans (h.others c hc), h'.clock.trans h.clock,
    es' ++ es, by rw [hes', hes, List.append_assoc], fun e he => ?_⟩
  rcases List.mem_append.mp he with he | he
  · exact hall' e he
  · exact hall e he

theorem setChecker_others {s : ProbeProcess} {self c : ℕ} (h : c ≠ self)
    (f : UdpProbeChecker → UdpProbeChecker) : (s.setChecker self f).checkers c = s.checkers c := by
  simp [setChecker, h]

@[simp] theorem setChecker_self {s : ProbeProcess} {self : ℕ} (f : UdpProbeChecker → UdpProbeChecker) :
    (s.setChecker self f).checkers self = f (s.checkers self) := by
  simp [setChecker]

theorem built_setChecker (s : ProbeProcess) (self : ℕ) (f : UdpProbeChecker → UdpProbeChecker) :
    Built self s (s.setChecker self f) :=
  ⟨fun _ hc => setChecker_others hc f, rfl, [], rfl, fun _ h => absurd h List.not_mem_nil⟩

theorem built_cancel (s : ProbeProcess) (self : ℕ) : Built self s (s.cancel self) := by
  refine ⟨fun c hc => by simp [cancel, setChecker, hc], rfl, _, rfl, fun e he => ?_⟩
  rcases List.mem_cons.mp he with rfl | he
  · trivial
  · obtain ⟨p, -, rfl⟩ := List.mem_map.mp he
    trivial

theorem built_opened (s : ProbeProcess) (self i : ℕ) (handle : ℤ) : Built self s (s.opened self i handle) := by
  unfold opened
  split
  · exact built_setChecker s self _
  · refine ⟨fun c hc => by simp [record, setProbe, setChecker, hc], rfl, [.opened self i handle], rfl, fun e he => ?_⟩
    rw [List.mem_singleton.mp he]
    trivial

theorem built_enroll (s : ProbeProcess) (self : ℕ) (snapshot : ProbeSnapshot) :
    Built self s (s.enroll self snapshot) := by
  refine ⟨fun c hc => by simp [enroll, record, setChecker, hc], rfl, [.enrolled self _ snapshot], rfl, fun e he => ?_⟩
  rw [List.mem_singleton.mp he]
  trivial

/-- What closing or opening sockets records. -/
theorem cancel_log (s : ProbeProcess) (self : ℕ) :
    ∃ events, (s.cancel self).log = events ++ s.log ∧ ∀ e ∈ events, e.IsSetup :=
  (built_cancel s self).log

/-- What a construction records. -/
theorem BuildStep.log {self : ℕ} {s s' : ProbeProcess} (hstep : BuildStep self s s') :
    (∃ targets, s'.log = .configured self targets :: s.log) ∨
      ∃ events, s'.log = events ++ s.log ∧ ∀ e ∈ events, e.IsSetup := by
  cases hstep with
  | start => exact Or.inr ⟨[], rfl, fun _ h => absurd h List.not_mem_nil⟩
  | enroll => exact Or.inr (built_enroll s self _).log
  | «open» => exact Or.inr (built_opened s self _ _).log
  | cancel => exact Or.inr (cancel_log s self)
  | @configured targets => exact Or.inl ⟨targets, rfl⟩

theorem BuildStep.others {self : ℕ} {s s' : ProbeProcess} (hstep : BuildStep self s s') {c : ℕ} (hc : c ≠ self) :
    s'.checkers c = s.checkers c := by
  cases hstep with
  | start => exact setChecker_others hc fun _ => {}
  | enroll => exact (built_enroll s self _).others c hc
  | «open» => exact (built_opened s self _ _).others c hc
  | cancel => exact (built_cancel s self).others c hc
  | configured => rfl

/-- The snapshots of a checker. -/
def snapshots (s : ProbeProcess) (self : ℕ) : List ProbeSnapshot :=
  (s.checkers self).copyProbeSnapshots

theorem snapshots_opened (s : ProbeProcess) (self i : ℕ) (handle : ℤ) :
    snapshots (s.opened self i handle) self = snapshots s self := by
  have hset : snapshots (s.setProbe self i { s.probe self i with handle }) self = snapshots s self := by
    simp only [snapshots, setProbe, setChecker_self, UdpProbeChecker.copyProbeSnapshots, List.map_set]
    by_cases hi : i < s.count self
    · have hi' : i < ((s.checkers self).probes.map (·.snapshot)).length := by
        simpa [ProbeProcess.count] using hi
      have hp : (s.probe self i).snapshot = ((s.checkers self).probes.map (·.snapshot))[i] := by
        simp [ProbeProcess.probe, List.getElem?_eq_getElem (show i < (s.checkers self).probes.length from hi)]
      change ((s.checkers self).probes.map (·.snapshot)).set i (s.probe self i).snapshot = _
      rw [hp]
      exact List.set_getElem_self _
    · rw [List.set_eq_of_length_le]
      simpa [ProbeProcess.count] using hi
  unfold opened
  split <;> exact hset

theorem runs_enrollProbe {self : ℕ} {previous : List ProbeSnapshot} {target : ProbeTarget}
    {s : ProbeProcess} (h : self < s.nextChecker) :
    Runs (BuildStep self)
      (fun e s' => (e = .invalidImportedCounters → importSnapshot previous target = none) ∧
        s'.nextChecker = s.nextChecker ∧ Built self s s')
      (enrollProbe self previous target) s fun go s' => go = true ∧
        s'.nextChecker = s.nextChecker ∧ Built self s s' ∧
          ∃ snapshot, importSnapshot previous target = some snapshot ∧
            snapshots s' self = snapshots s self ++ [snapshot] := by
  unfold enrollProbe
  cases himport : importSnapshot previous target with
  | none => exact Runs.raise ⟨fun _ => rfl, rfl, Built.refl self s⟩
  | some snapshot =>
    have hb := built_enroll s self snapshot
    have hs : snapshots (s.enroll self snapshot) self = snapshots s self ++ [snapshot] := by
      simp [snapshots, enroll, record, UdpProbeChecker.copyProbeSnapshots]
    refine Runs.modify_bind (.single (.enroll h)) (Runs.call_bind fun answer => ?_)
    rcases answer with _ | handle
    · exact Runs.raise ⟨(fun he => nomatch he), rfl, hb⟩
    · refine Runs.modify_bind (.single .open) ?_
      have hn : ∀ i, ((s.enroll self snapshot).opened self i handle).nextChecker = s.nextChecker := by
        intro i
        unfold opened
        split <;> rfl
      refine Runs.ite (fun _ => Runs.raise ⟨(fun he => nomatch he), hn _, ?_⟩) fun _ =>
        Runs.pure ⟨rfl, hn _, ?_, snapshot, rfl, ?_⟩
      · exact hb.trans (built_opened _ self _ handle)
      · exact hb.trans (built_opened _ self _ handle)
      · rw [snapshots_opened, hs]

/-- **Construction**: the new checker starts from what its targets import, and no other
checker is touched. It is refused for its imports only when one of them is invalid. -/
theorem runs_constructChecker (targets : List ProbeTarget) (previous : List ProbeSnapshot)
    (s : ProbeProcess) :
    Runs (BuildStep s.nextChecker)
      (fun e s' => (e = .invalidImportedCounters →
          ∃ target ∈ targets, importSnapshot previous target = none) ∧ Built s.nextChecker s s')
      (constructChecker targets previous) s fun self s' => self = s.nextChecker ∧
        s'.nextChecker = self + 1 ∧ validTargets targets ∧
          List.Forall₂ (fun target snapshot => importSnapshot previous target = some snapshot) targets
            (snapshots s' self) ∧
          ∃ s₁, Built self s s₁ ∧ s' = s₁.record (.configured self targets) := by
  unfold constructChecker
  refine Runs.gets_bind (Runs.ite (fun _ => Runs.raise ⟨(fun h => nomatch h), Built.refl _ s⟩) fun _ =>
    Runs.ite (fun _ => Runs.raise ⟨(fun h => nomatch h), Built.refl _ s⟩) fun hvalid => ?_)
  set self := s.nextChecker with hself
  set s₀ : ProbeProcess := { s.setChecker self fun _ => {} with nextChecker := self + 1 } with hs₀
  have hb₀ : Built self s s₀ :=
    ⟨fun c hc => by simp [hs₀, setChecker, hc], rfl, [], rfl, fun _ h => absurd h List.not_mem_nil⟩
  refine Runs.modify_bind (.single (.start hself.symm)) ?_
  refine Runs.bind (Q := fun _ s' => s'.nextChecker = self + 1 ∧ Built self s s' ∧
    List.Forall₂ (fun target snapshot => importSnapshot previous target = some snapshot) targets
      (snapshots s' self)) (Runs.handle (E := fun e s' => (e = .invalidImportedCounters →
          ∃ target ∈ targets, importSnapshot previous target = none) ∧ Built self s s') ?_ ?_) ?_
  · -- the targets gone through have their imports, in order
    refine Runs.forEach_all (fun done s' => s'.nextChecker = self + 1 ∧ Built self s s' ∧
      List.Forall₂ (fun target snapshot => importSnapshot previous target = some snapshot) done
        (snapshots s' self)) targets (fun done target htarget s' hs' => ?_) [] ?_
    · obtain ⟨hn, hb, hall⟩ := hs'
      refine (runs_enrollProbe (by omega)).mono ?_ ?_
      · rintro e s'' - ⟨he, -, hb'⟩
        exact ⟨fun h => ⟨target, htarget, he h⟩, hb.trans hb'⟩
      · rintro go s'' - ⟨hgo, hn', hb', snapshot, himport, hs''⟩
        refine ⟨hgo, hn'.trans hn, hb.trans hb', ?_⟩
        rw [hs'']
        exact List.rel_append hall (.cons himport .nil)
    · exact ⟨rfl, hb₀, by simp [snapshots, UdpProbeChecker.copyProbeSnapshots]⟩
  · rintro e s' - ⟨he, hb⟩
    refine Runs.bind (Q := fun _ s'' => Built self s s'')
      (Runs.modify (.single .cancel) (hb.trans (built_cancel s' self))) ?_
    exact fun _ s'' _ hb' => Runs.raise ⟨he, hb'⟩
  · rintro - s₁ - ⟨hn, hb, hall⟩
    refine Runs.modify_bind (.single .configured) (Runs.pure ⟨rfl, hn, not_not.mp hvalid, hall, s₁, hb, rfl⟩)

end L4lb.Health
