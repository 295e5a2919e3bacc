import L4lb.Health.ProbeRecord

/-!
# The life of a probe

A probe of a target is sent, an interval after the one before it, and ended once: by the
poll that first finds its deadline passed, by what is read, or by an error, unless it is
cancelled with its checker. What this changes of the target's state is what the poll
reports, in the order in which it happened.

## The argument

Between the passes of a poll (`Polling`) the probes that have not ended are those in
flight, and the transitions so far are the changes of state so far. A pass over the targets
leaves none in flight past its deadline (`Timely`). What a poll that throws leaves
(`Abandoned`) is cancelled.
-/

namespace L4lb.Health

open Effect Prog Relation ProbeProcess

/-- The probes that have not ended are those in flight. -/
def Rest (s : ProbeProcess) : Prop := ∀ c i, openProbe c i s.log = (s.probe c i).flight

/-- A poll of `checker` is between two passes. -/
structure Polling (checker : ℕ) (pollTime : Time) (n : ℕ) (s : ProbeProcess) : Prop where
  /-- The history is what the checkers hold. -/
  recorded : Recorded s
  /-- The probes that have not ended are those in flight. -/
  rest : Rest s
  /-- It is at this time. -/
  poll : pollOf checker s.log = some pollTime
  /-- The transitions are the changes of state. -/
  changes : s.transitions.map ProbeTransition.change = changesInPoll checker s.log
  /-- There are so many targets. -/
  count : s.count checker = n

/-- A poll of `checker` is about to end the probe of a target. -/
structure Ending (checker : ℕ) (pollTime : Time) (n index : ℕ) (s : ProbeProcess) : Prop where
  /-- The history is what the checkers hold. -/
  recorded : Recorded s
  /-- The other probes that have not ended are those in flight. -/
  rest : ∀ c i, c ≠ checker ∨ i ≠ index → openProbe c i s.log = (s.probe c i).flight
  /-- This one has not ended. -/
  ongoing : (openProbe checker index s.log).isSome
  /-- It is at this time. -/
  poll : pollOf checker s.log = some pollTime
  /-- The transitions are the changes of state. -/
  changes : s.transitions.map ProbeTransition.change = changesInPoll checker s.log
  /-- There are so many targets. -/
  count : s.count checker = n
  /-- It is one of them. -/
  lt : index < n

/-- What a poll of `checker` that throws leaves. -/
structure Abandoned (checker : ℕ) (s : ProbeProcess) : Prop where
  /-- The history is what the checkers hold. -/
  recorded : Recorded s
  /-- The probes of other checkers that have not ended are those in flight. -/
  rest : ∀ c i, c ≠ checker → openProbe c i s.log = (s.probe c i).flight

/-- The probe of a target is not in flight past its deadline. -/
def Timely (self : ℕ) (pollTime : Time) (index : ℕ) (s : ProbeProcess) : Prop :=
  (s.probe self index).awaitingReply = true → pollTime < (s.probe self index).probeDeadline

/-- Every run keeps the history what the checkers hold. -/
abbrev Lives (self : ℕ) {α : Type} (m : CheckerM α) (s : ProbeProcess) (Q : α → ProbeProcess → Prop) : Prop :=
  Runs (fun s s' => Recorded s → Recorded s') (fun _ s' => Abandoned self s') m s Q

section Steps

variable {self index n : ℕ} {pollTime : Time} {s : ProbeProcess}

theorem Polling.abandoned (h : Polling self pollTime n s) : Abandoned self s := ⟨h.recorded, fun c i _ => h.rest c i⟩

theorem Ending.abandoned (h : Ending self pollTime n index s) : Abandoned self s :=
  ⟨h.recorded, fun c i hc => h.rest c i (Or.inl hc)⟩

/-- What a poll is about has not changed. -/
theorem Polling.congr {s' : ProbeProcess} (h : Polling self pollTime n s) (hrecorded : Recorded s')
    (hlog : (∀ c i, openProbe c i s'.log = openProbe c i s.log) ∧ pollOf self s'.log = pollOf self s.log ∧
      changesInPoll self s'.log = changesInPoll self s.log)
    (hprobes : ∀ c, (s'.checkers c).probes = (s.checkers c).probes) (htransitions : s'.transitions = s.transitions) :
    Polling self pollTime n s' := by
  obtain ⟨hopen, hpoll, hchanges⟩ := hlog
  refine ⟨hrecorded, fun c i => ?_, hpoll.trans h.poll, ?_, ?_⟩
  · rw [hopen, ProbeProcess.probe, hprobes]
    exact h.rest c i
  · rw [htransitions, hchanges, h.changes]
  · rw [ProbeProcess.count, hprobes]
    exact h.count

theorem Polling.ending (h : Polling self pollTime n s) (hflight : (s.probe self index).awaitingReply = true) :
    Ending self pollTime n index s where
  recorded := h.recorded
  rest c i _ := h.rest c i
  ongoing := by
    rw [h.rest, Probe.flight, if_pos hflight]
    rfl
  poll := h.poll
  changes := h.changes
  count := h.count
  lt := h.count ▸ lt_of_awaiting hflight

/-- A result adds to the transitions what it changes of the state. -/
theorem change_complete (self index : ℕ) (s : ProbeProcess) (success : Bool) (reason : String) (error : Errno) :
    (s.complete self index success reason error).transitions.map ProbeTransition.change =
      s.transitions.map ProbeTransition.change ++ (s.probe self index).snapshot.change success := by
  by_cases hchange : (s.probe self index).snapshot.state ≠ ((s.probe self index).complete success).snapshot.state
  · have htransitions : (s.complete self index success reason error).transitions = s.transitions ++ [_] := if_pos hchange
    have hone : (s.probe self index).snapshot.change success = [_] := if_pos hchange
    rw [htransitions, hone, List.map_append]
    rfl
  · have htransitions : (s.complete self index success reason error).transitions = s.transitions := if_neg hchange
    have hnone : (s.probe self index).snapshot.change success = [] := if_neg hchange
    rw [htransitions, hnone, List.append_nil]

/-- **A probe that has not ended is ended.** -/
theorem Ending.complete (h : Ending self pollTime n index s) (success : Bool) (reason : String) (error : Errno) :
    Polling self pollTime n (s.complete self index success reason error) := by
  have hi : index < s.count self := h.count ▸ h.lt
  refine ⟨h.recorded.complete hi h.ongoing success reason error, fun c i => ?_, h.poll, ?_, ?_⟩
  · by_cases he : c = self ∧ i = index
    · obtain ⟨rfl, rfl⟩ := he
      rw [Probe.flight_idle (complete_awaiting hi success reason error)]
      exact if_pos ⟨rfl, rfl⟩
    · have hne : c ≠ self ∨ i ≠ index := not_and_or.mp he
      have hlog : openProbe c i (s.complete self index success reason error).log = openProbe c i s.log :=
        if_neg fun he' => he ⟨he'.1.symm, he'.2.symm⟩
      rw [hlog, h.rest c i hne]
      exact congrArg Probe.flight (probe_setProbe_ne hne _).symm
  · rw [change_complete, h.changes]
    simp only [ProbeProcess.complete, changesInPoll, if_true, h.recorded.snapshots self index hi, Option.elim_some]
  · rw [complete_count, h.count]

theorem complete_others {i : ℕ} (hne : i ≠ index) (success : Bool) (reason : String) (error : Errno) :
    (s.complete self index success reason error).probe self i = s.probe self i :=
  probe_setProbe_ne (s := s) (Or.inr hne) _

theorem Ending.lives_complete (h : Ending self pollTime n index s) (success : Bool) (reason : String) (error : Errno) :
    Lives self (completeProbeResult self index success reason error) s fun _ s' =>
      s' = s.complete self index success reason error :=
  Runs.modify (.single fun _ => (h.complete success reason error).recorded) rfl

/-! ### Sending -/

/-- A pass over a target leaves the others alone. -/
structure Passed (checker : ℕ) (time : Time) (count target : ℕ) (before after : ProbeProcess) : Prop where
  /-- The poll is between two passes. -/
  polling : Polling checker time count after
  /-- The target is not in flight past its deadline. -/
  timely : Timely checker time target after
  /-- The other targets are as they were. -/
  others : ∀ i, i ≠ target → after.probe checker i = before.probe checker i

theorem Ending.passed {s₀ : ProbeProcess} (h : Ending self pollTime n index s)
    (hothers : ∀ i, i ≠ index → s.probe self i = s₀.probe self i) (success : Bool) (reason : String) (error : Errno) :
    Passed self pollTime n index s₀ (s.complete self index success reason error) := by
  refine ⟨h.complete success reason error, fun hflight => ?_, fun i hi => ?_⟩
  · rw [complete_awaiting (h.count ▸ h.lt)] at hflight
    cases hflight
  · rw [complete_others hi, hothers i hi]

/-- The probe of a target has a new token, and is about to be sent. -/
structure Sending (checker : ℕ) (time : Time) (count target : ℕ) (before after : ProbeProcess) : Prop where
  /-- It has not ended. -/
  ending : Ending checker time count target after
  /-- It is open with its token. -/
  token : openProbe checker target after.log = some ((after.probe checker target).token, time)
  /-- Its deadline is a timeout from now. -/
  deadline : (after.probe checker target).probeDeadline = time + kTimeout
  /-- It has a socket. -/
  handle : 0 ≤ (after.probe checker target).handle
  /-- The other targets are as they were. -/
  others : ∀ i, i ≠ target → after.probe checker i = before.probe checker i

theorem lives_prepareProbe (h : Polling self pollTime n s) (hi : index < n)
    (hidle : (s.probe self index).awaitingReply = false) (hhandle : 0 ≤ (s.probe self index).handle)
    (hdue : (s.probe self index).nextProbeTime ≤ pollTime) :
    Lives self (prepareProbe self index pollTime) s fun _ s' => Sending self pollTime n index s s' := by
  unfold prepareProbe
  refine Runs.get_bind ?_
  cases hnew : s.nonceSource.generateProbePacket with
  | none => exact Runs.raise h.abandoned
  | some new =>
    obtain ⟨token, nonceSource⟩ := new
    have hcount : index < s.count self := h.count.symm ▸ hi
    set p := (s.probe self index).prepare token pollTime with hp
    set s₁ : ProbeProcess := { s.setProbe self index p with nonceSource } with hs₁
    have hnext : (s.probe self index).nextProbeTime ≤ p.nextProbeTime :=
      hdue.trans (Int.le_add_of_nonneg_right (by decide))
    have hset : Recorded s₁ := by
      refine (h.recorded.set hcount (p := p) rfl rfl hnext fun _ => hhandle).congr rfl ?_ (fun _ => rfl) fun _ => rfl
      exact (h.recorded.set hcount (p := p) rfl rfl hnext fun _ => hhandle).fresh
    have hprobe : ∀ c i, s₁.probe c i = if c = self ∧ i = index then p else s.probe c i := probe_setProbe hcount p
    have hself : s₁.probe self index = p := (hprobe self index).trans (if_pos ⟨rfl, rfl⟩)
    have hclosed : openProbe self index s.log = none := (h.rest self index).trans (Probe.flight_idle hidle)
    have hallowed : (ProbeEvent.attempted self index (s.probe self index).handle token pollTime).Allowed
        (.generated token :: s.log) :=
      ⟨(h.recorded.handles self index).trans (Probe.socket_eq_some hhandle), hclosed,
        (h.recorded.spaced self index).mono hdue, h.poll⟩
    have hrecorded := (hset.inert (e := .generated token) trivial).attempted hallowed (by
      rw [probe_record, hself]
      exact le_refl _)
    refine Runs.modify (.single fun _ => hrecorded) ?_
    have hlog : ∀ c i, openProbe c i (.attempted self index (s.probe self index).handle token pollTime ::
        .generated token :: s.log) = if self = c ∧ index = i then some (token, pollTime) else openProbe c i s.log :=
      fun _ _ => rfl
    refine ⟨⟨hrecorded, fun c i hne => ?_, ?_, h.poll, h.changes, (count_setProbe p).trans h.count, hi⟩, ?_, ?_, ?_,
      fun i hne => ?_⟩
    · refine (hlog c i).trans ?_
      have he : ¬ (c = self ∧ i = index) := not_and_or.mpr hne
      rw [if_neg fun he' => he ⟨he'.1.symm, he'.2.symm⟩, h.rest c i]
      exact congrArg Probe.flight ((hprobe c i).trans (if_neg he)).symm
    · rw [hlog, if_pos ⟨rfl, rfl⟩]
      rfl
    · refine (hlog self index).trans ((if_pos ⟨rfl, rfl⟩).trans ?_)
      exact congrArg (fun probe : Probe => some (probe.token, pollTime)) hself.symm
    · exact congrArg Probe.probeDeadline hself
    · exact (congrArg Probe.handle hself).symm ▸ hhandle
    · exact (hprobe self i).trans (if_neg fun he => hne he.2)

theorem lives_launchProbe {s₀ : ProbeProcess} (h : Sending self pollTime n index s₀ s) :
    Lives self (launchProbe self index pollTime) s fun _ s' => Passed self pollTime n index s₀ s' := by
  have hi : index < s.count self := h.ending.count ▸ h.ending.lt
  set p : Probe := { s.probe self index with awaitingReply := true } with hp
  have hprobe := probe_setProbe hi p
  have hrecorded : Recorded ((s.setProbe self index p).record (.sent self index (s.probe self index).token pollTime)) :=
    (h.ending.recorded.set hi (p := p) rfl rfl (le_refl _) fun _ => h.handle).sent h.token
  refine Runs.modify (.single fun _ => hrecorded) ⟨⟨hrecorded, fun c i => ?_, h.ending.poll, h.ending.changes, ?_⟩, ?_, ?_⟩
  · rw [probe_record, hprobe]
    by_cases he : c = self ∧ i = index
    · obtain ⟨rfl, rfl⟩ := he
      rw [if_pos ⟨rfl, rfl⟩]
      refine h.token.trans ?_
      have hdeadline : p.probeDeadline - kTimeout = pollTime := by
        rw [show p.probeDeadline = pollTime + kTimeout from h.deadline, Int.add_sub_cancel]
      rw [Probe.flight, if_pos rfl, hdeadline]
    · rw [if_neg he]
      exact h.ending.rest c i (not_and_or.mp he)
  · rw [count_record, count_setProbe]
    exact h.ending.count
  · intro _
    rw [probe_record, hprobe, if_pos ⟨rfl, rfl⟩]
    rw [show p.probeDeadline = pollTime + kTimeout from h.deadline]
    exact Int.lt_add_of_pos_right pollTime (by decide)
  · intro i hne
    rw [probe_record, hprobe, if_neg fun he => hne he.2]
    exact h.others i hne

theorem lives_validate {E : ProbeProcess → Prop} (result : ProbeIoResult) (hE : E s) :
    Runs (fun s s' => Recorded s → Recorded s') (fun _ s' => E s') (validateProbeIoResult result) s
      fun _ s' => s' = s :=
  Runs.ite (fun _ => Runs.raise hE) fun _ => Runs.pure rfl

/-- **A probe that is due is sent**, and ended at once if that fails. -/
theorem lives_sendProbe (h : Polling self pollTime n s) (hi : index < n)
    (hidle : (s.probe self index).awaitingReply = false) (hhandle : 0 ≤ (s.probe self index).handle)
    (hdue : (s.probe self index).nextProbeTime ≤ pollTime) :
    Lives self (sendProbe self pollTime index) s fun _ s' => Passed self pollTime n index s s' := by
  unfold sendProbe
  refine Runs.bind (lives_prepareProbe h hi hidle hhandle hdue) ?_
  rintro - s₁ - hs
  refine Runs.gets_bind (Runs.bind (Q := fun _ s' => s' = s₁) ?_ ?_)
  · unfold sendProbePacket
    refine Runs.call_bind fun answer => ?_
    rcases answer with e | bytes
    · exact Runs.pure rfl
    · exact Runs.pure rfl
  · rintro sent _ - rfl
    refine Runs.bind (lives_validate sent hs.ending.abandoned) ?_
    rintro - _ - rfl
    refine Runs.ite (fun _ => Runs.ite (fun _ => Runs.raise hs.ending.abandoned) fun _ => ?_) fun _ =>
      lives_launchProbe hs
    refine (hs.ending.lives_complete _ _ _).post ?_
    rintro - _ - rfl
    exact hs.ending.passed hs.others _ _ _

/-- **A target is passed**: the probe in flight is ended past its deadline, and one that is due is sent. -/
theorem lives_sendDueProbePacket (h : Polling self pollTime n s) (hi : index < n) :
    Lives self (sendDueProbePacket self pollTime index) s fun go s' =>
      go = true ∧ Passed self pollTime n index s s' := by
  unfold sendDueProbePacket
  refine Runs.gets_bind (Runs.ite (fun _ => Runs.raise h.abandoned) fun hopen => ?_)
  have hhandle : 0 ≤ (s.probe self index).handle := Int.not_lt.mp hopen
  refine Runs.bind (Q := fun _ s' => Passed self pollTime n index s s' ∧ 0 ≤ (s'.probe self index).handle) ?_ ?_
  · refine Runs.when (fun hlate => ?_) fun hnot => ⟨⟨h, fun hflight => ?_, fun _ _ => rfl⟩, hhandle⟩
    · have hending := h.ending hlate.1
      refine (hending.lives_complete _ _ _).post ?_
      rintro - _ - rfl
      refine ⟨hending.passed (fun _ _ => rfl) _ _ _, ?_⟩
      have hprobe := probe_setProbe_self (h.count.symm ▸ hi) ((s.probe self index).complete false)
      exact (congrArg Probe.handle hprobe).symm ▸ hhandle
    · exact lt_of_not_ge fun hge => hnot ⟨hflight, hge⟩
  · rintro - s₁ - ⟨hpassed, hhandle₁⟩
    refine Runs.gets_bind (Runs.ite (fun _ => Runs.pure ⟨rfl, hpassed⟩) fun hgo => ?_)
    obtain ⟨hidle, hdue⟩ := not_or.mp hgo
    refine Runs.bind (lives_sendProbe hpassed.polling hi (Bool.eq_false_iff.mpr hidle) hhandle₁ (Int.not_lt.mp hdue)) ?_
    rintro - s₂ - hs₂
    exact Runs.pure ⟨rfl, hs₂.polling, hs₂.timely, fun i hne => (hs₂.others i hne).trans (hpassed.others i hne)⟩

theorem lives_sendDueProbePackets (h : Polling self pollTime n s) :
    Lives self (sendDueProbePackets self pollTime) s fun _ s' =>
      Polling self pollTime n s' ∧ ∀ i, Timely self pollTime i s' := by
  unfold sendDueProbePackets
  refine Runs.get_bind ?_
  rw [show (s.checkers self).probes.length = n from h.count]
  refine (Runs.forEach_all (fun done s' => Polling self pollTime n s' ∧ ∀ i ∈ done, Timely self pollTime i s')
    (List.range n) (fun done index hindex s' hs' => ?_) [] ⟨h, fun i hi => absurd hi List.not_mem_nil⟩).post ?_
  · refine (lives_sendDueProbePacket hs'.1 (List.mem_range.mp hindex)).post ?_
    rintro go s'' - ⟨hgo, hpassed⟩
    refine ⟨hgo, hpassed.polling, fun i hi => ?_⟩
    by_cases he : i = index
    · exact he ▸ hpassed.timely
    · rcases List.mem_append.mp hi with hi | hi
      · rw [Timely, hpassed.others i he]
        exact hs'.2 i hi
      · exact absurd (List.mem_singleton.mp hi) he
  · rintro - s' - ⟨hpolling, htimely⟩
    refine ⟨hpolling, fun i hflight => ?_⟩
    refine htimely i ?_ hflight
    rw [List.nil_append, List.mem_range, ← hpolling.count]
    exact lt_of_awaiting hflight

/-! ### Receiving -/

/-- A poll between two passes, with no probe in flight past its deadline. -/
structure Reading (checker : ℕ) (time : Time) (count : ℕ) (s : ProbeProcess) : Prop where
  /-- It is between two passes. -/
  polling : Polling checker time count s
  /-- No probe is in flight past its deadline. -/
  timely : ∀ i, Timely checker time i s

theorem Reading.congr {s' : ProbeProcess} (h : Reading self pollTime n s) (hrecorded : Recorded s')
    (hlog : (∀ c i, openProbe c i s'.log = openProbe c i s.log) ∧ pollOf self s'.log = pollOf self s.log ∧
      changesInPoll self s'.log = changesInPoll self s.log)
    (hprobes : ∀ c, (s'.checkers c).probes = (s.checkers c).probes) (htransitions : s'.transitions = s.transitions) :
    Reading self pollTime n s' := by
  refine ⟨h.polling.congr hrecorded hlog hprobes htransitions, fun i => ?_⟩
  rw [Timely, ProbeProcess.probe, hprobes]
  exact h.timely i

theorem Reading.complete (h : Reading self pollTime n s) (hflight : (s.probe self index).awaitingReply = true)
    (success : Bool) (reason : String) (error : Errno) :
    Reading self pollTime n (s.complete self index success reason error) := by
  have hpassed := (h.polling.ending hflight).passed (fun _ _ => rfl) success reason error
  refine ⟨hpassed.polling, fun i => ?_⟩
  by_cases hi : i = index
  · exact hi ▸ hpassed.timely
  · rw [Timely, hpassed.others i hi]
    exact h.timely i

theorem Reading.received (h : Reading self pollTime n s) (payload : Bytes) (t : Time) :
    Reading self pollTime n (s.record (.received self index payload t)) :=
  h.congr (h.polling.recorded.inert trivial) ⟨fun _ _ => rfl, rfl, rfl⟩ (fun _ => rfl) rfl

theorem Reading.lives_complete (h : Reading self pollTime n s) (hflight : (s.probe self index).awaitingReply = true)
    (success : Bool) (reason : String) (error : Errno) :
    Lives self (completeProbeResult self index success reason error) s fun _ => Reading self pollTime n := by
  have hnext := h.complete hflight success reason error
  exact Runs.modify (.single fun _ => hnext.polling.recorded) hnext

theorem lives_countReceiveEvent (h : Reading self pollTime n s) (hi : index < s.count self)
    (hroom : (s.checkers self).lastReceiveEventCount < kReceiveBudget) :
    Lives self (countReceiveEvent self index) s fun _ s' =>
      Reading self pollTime n s' ∧ ∀ c i, s'.probe c i = s.probe c i := by
  have hrecorded := h.polling.recorded.counted hi hroom
  have hq := quiet_setChecker s self (f := fun checker =>
    { checker with lastReceiveEventCount := checker.lastReceiveEventCount + 1 }) fun _ => rfl
  exact Runs.modify (.single fun _ => hrecorded)
    ⟨h.congr hrecorded ⟨fun _ _ => rfl, rfl, rfl⟩ hq.probes rfl, hq.probe⟩

theorem Reading.lives_rewind (h : Reading self pollTime n s) {payload : Option Bytes} {completedAt : Time}
    (hback : completedAt < pollTime) {Q : Unit ⊕ Unit → ProbeProcess → Prop} :
    Lives self (do
      modify fun s => s.record (.rewound self index payload completedAt pollTime)
      raise .completionClockBackwards) s Q := by
  have hnext := h.polling.recorded.rewound (i := index) payload h.polling.poll hback
  exact Runs.modify_bind (.single fun _ => hnext) (Runs.raise ⟨hnext, h.polling.abandoned.rest⟩)

theorem lives_settleReply {result : ProbeIoResult} {payload : Option Bytes} {wouldBlock : Bool} {completedAt : Time}
    (h : Reading self pollTime n s) (hflight : (s.probe self index).awaitingReply = true) (probe : Probe) :
    Lives self (settleReply self index probe result payload wouldBlock completedAt) s fun _ => Reading self pollTime n := by
  unfold settleReply
  refine Runs.ite (fun _ => ?_) fun _ => Runs.ite (fun _ => Runs.pure h) fun _ => ?_
  · cases payload with
    | none =>
      have hnext := h.complete hflight false "timeout" .ETIMEDOUT
      exact Runs.modify_bind (.single fun _ => hnext.polling.recorded) (Runs.pure hnext)
    | some payload =>
      have hread : Reading self pollTime n (s.record (.received self index payload completedAt)) :=
        h.received payload completedAt
      have hnext := hread.complete hflight false "timeout" .ETIMEDOUT
      exact Runs.modify_bind (.single fun _ => hnext.polling.recorded) (Runs.pure hnext)
  · cases payload with
    | none =>
      refine Runs.ite (fun _ => Runs.pure h) fun _ => ?_
      exact Runs.bind (h.lives_complete hflight _ _ _) fun _ _ _ hnext => Runs.pure hnext
    | some payload =>
      have hread : Reading self pollTime n (s.record (.received self index payload completedAt)) :=
        h.received payload completedAt
      refine Runs.bind (Q := fun _ => Reading self pollTime n) ?_ fun _ _ _ hnext => Runs.pure hnext
      refine Runs.modify_bind (.single fun _ => hread.polling.recorded) (Runs.gets_bind ?_)
      exact Runs.when (fun _ => hread.lives_complete hflight _ _ _) fun _ => hread

/-- **A pass over a socket** keeps what holds between passes. -/
theorem lives_receiveProbeReply (h : Reading self pollTime n s) :
    Lives self (receiveProbeReply self pollTime index) s fun _ => Reading self pollTime n := by
  unfold receiveProbeReply
  refine Runs.get_bind (Runs.ite (fun hgo => ?_) fun _ => Runs.pure h)
  obtain ⟨hflight, hroom⟩ := hgo
  have hi := lt_of_awaiting hflight
  set s₁ := s.record (.reading self index (s.probe self index).handle) with hs₁
  have h₁ : Reading self pollTime n s₁ :=
    h.congr (h.polling.recorded.reading hflight) ⟨fun _ _ => rfl, rfl, rfl⟩ (fun _ => rfl) rfl
  refine Runs.modify_bind (.single fun _ => h₁.polling.recorded) ?_
  refine Runs.bind (Q := fun _ s' => s' = s₁) ?_ ?_
  · unfold receiveProbePacket
    refine Runs.call_bind fun answer => ?_
    rcases answer with e | payload
    · exact Runs.pure rfl
    · exact Runs.pure rfl
  rintro received _ - rfl
  refine Runs.bind (lives_validate received.1 h₁.polling.abandoned) ?_
  rintro - _ - rfl
  refine Runs.bind (Q := fun _ s' => Reading self pollTime n s' ∧ ∀ c i, s'.probe c i = s₁.probe c i)
    (Runs.when (fun _ => lives_countReceiveEvent h₁ hi hroom) fun _ => ⟨h₁, fun _ _ => rfl⟩) ?_
  rintro - s₂ - ⟨h₂, hprobe₂⟩
  refine Runs.call_bind fun completedAt => ?_
  refine Runs.ite (fun hback => h₂.lives_rewind hback) fun _ => lives_settleReply h₂ ?_ _
  rw [hprobe₂]
  exact hflight

theorem lives_receivePendingProbeReplies (h : Reading self pollTime n s) :
    Lives self (receivePendingProbeReplies self pollTime) s fun _ => Reading self pollTime n := by
  unfold receivePendingProbeReplies
  refine Runs.get_bind (Runs.bind (Q := fun _ => Reading self pollTime n) ?_ ?_)
  · refine Runs.forEach (Reading self pollTime n) _ (fun offset _ s' hs' => ?_) h
    refine Runs.get_bind (Runs.ite (fun _ => ?_) fun _ => Runs.pure hs')
    refine Runs.bind (Q := fun _ => Reading self pollTime n) ?_ fun _ _ _ hs'' => Runs.pure hs''
    refine Runs.loop (fun _ => Reading self pollTime n) (fun _ s'' hs'' => ?_) hs'
    refine (lives_receiveProbeReply hs'').post fun r s''' _ hr => ?_
    cases r <;> exact hr
  · rintro - s₁ - hs₁
    refine Runs.when (fun _ => ?_) fun _ => hs₁
    have hq := quiet_setChecker s₁ self (f := fun checker =>
      { checker with receiveCursor := (checker.receiveCursor + 1) % (s.checkers self).probes.length }) fun _ => rfl
    have hrecorded : Recorded (s₁.setChecker self fun checker =>
        { checker with receiveCursor := (checker.receiveCursor + 1) % (s.checkers self).probes.length }) := by
      refine hs₁.polling.recorded.congr rfl ?_ hq.probes fun c => ?_
      · exact hs₁.polling.recorded.fresh.of_empty rfl fun c hc => (hq.probes c).trans hc
      · by_cases hc : c = self
        · subst hc
          simp
        · rw [setChecker_others hc]
    exact Runs.modify (.single fun _ => hrecorded) (hs₁.congr hrecorded ⟨fun _ _ => rfl, rfl, rfl⟩ hq.probes rfl)

end Steps

/-! ### Polls -/

/-- Between two requests: the history is what the checkers hold, and the probes that have not
ended are those in flight. -/
structure Settled (s : ProbeProcess) : Prop where
  /-- The history is what the checkers hold. -/
  recorded : Recorded s
  /-- The probes that have not ended are those in flight. -/
  rest : Rest s

/-- Every run keeps the history what the checkers hold, and what it throws leaves nothing under way. -/
abbrev Settles {α : Type} (E : ProbeProcess → Prop) (m : CheckerM α) (s : ProbeProcess)
    (Q : α → ProbeProcess → Prop) : Prop :=
  Runs (fun s s' => Recorded s → Recorded s') (fun _ s' => Settled s' ∧ E s') m s fun a s' => Settled s' ∧ Q a s'

/-- No probe of a checker has a socket or a token, and none is in flight. -/
def Terminated (self : ℕ) (s : ProbeProcess) : Prop :=
  ∀ probe ∈ (s.checkers self).probes, probe.awaitingReply = false ∧ probe.token = .replicate 24 0 ∧ probe.handle = -1

/-- A checker is at its end. -/
structure Ended (checker : ℕ) (s : ProbeProcess) : Prop where
  /-- It has no open socket and no probe that has not ended. -/
  closed : ∀ i, openHandle checker i s.log = none ∧ openProbe checker i s.log = none
  /-- Nor do its probes have any. -/
  terminated : Terminated checker s

section Polls

variable {self : ℕ} {s : ProbeProcess}

theorem openProbe_cancel (s : ProbeProcess) (self c i : ℕ) :
    openProbe c i (s.cancel self).log = if self = c then none else openProbe c i s.log := by
  have hlog : (s.cancel self).log = .cancelled self :: (closedSockets self (s.checkers self).probes ++ s.log) := rfl
  rw [hlog]
  simp only [openProbe, eq_of_closed (openProbe c i) (fun _ _ _ _ => rfl) (mem_closedSockets self _)]

theorem probes_cancel (s : ProbeProcess) (self : ℕ) :
    ((s.cancel self).checkers self).probes = (s.checkers self).probes.map Probe.cancel := by
  simp [ProbeProcess.cancel, setChecker]

theorem terminated_cancel (s : ProbeProcess) (self : ℕ) : Terminated self (s.cancel self) := by
  intro probe hmem
  rw [probes_cancel] at hmem
  obtain ⟨p, -, rfl⟩ := List.mem_map.mp hmem
  exact ⟨rfl, rfl, rfl⟩

theorem Abandoned.cancel (h : Abandoned self s) : Settled (s.cancel self) ∧ Ended self (s.cancel self) := by
  have hrecorded := h.recorded.cancel self
  refine ⟨⟨hrecorded, fun c i => ?_⟩, fun i => ⟨?_, ?_⟩, terminated_cancel s self⟩
  · rw [openProbe_cancel, probe_cancel]
    by_cases hc : self = c
    · subst hc
      rw [if_pos rfl, if_pos rfl, List.getElem?_map]
      cases (s.checkers self).probes[i]? <;> rfl
    · rw [if_neg hc, if_neg (Ne.symm hc)]
      exact h.rest c i (Ne.symm hc)
  · rw [hrecorded.handles, probe_cancel, if_pos rfl, List.getElem?_map]
    cases (s.checkers self).probes[i]? <;> rfl
  · rw [openProbe_cancel, if_pos rfl]

theorem Settled.abandoned (h : Settled s) (self : ℕ) : Abandoned self s := ⟨h.recorded, fun c i _ => h.rest c i⟩

theorem Reading.allowed_reported {pollTime : Time} {n : ℕ} (h : Reading self pollTime n s) :
    (ProbeEvent.reported self s.transitions).Allowed s.log := by
  refine ⟨fun i token t hopen => ⟨pollTime, h.polling.poll, ?_⟩, h.polling.changes⟩
  rw [h.polling.rest, Probe.flight] at hopen
  split at hopen
  · rename_i hflight
    obtain ⟨-, rfl⟩ := Prod.mk.inj (Option.some.inj hopen)
    rw [Int.sub_add_cancel]
    exact h.timely i hflight
  · cases hopen

/-- **A poll**: it reports what it changed, or ends all probes of its checker and closes their sockets. -/
theorem settles_pollProbeTransitions (h : Settled s) (self : ℕ) (pollTime : Time) :
    Settles (Ended self) (pollProbeTransitions self pollTime) s fun _ _ => True := by
  unfold pollProbeTransitions
  set s₀ : ProbeProcess := { s with transitions := [] } with hs₀
  have h₀ : Settled s₀ := ⟨h.recorded.congr rfl h.recorded.fresh (fun _ => rfl) fun _ => rfl, h.rest⟩
  refine Runs.modify_bind (.single fun _ => h₀.recorded) ?_
  refine Runs.bind (Q := fun _ s' => ∃ n, Reading self pollTime n s')
    (Runs.handle (E := fun _ s' => Abandoned self s') (Runs.get_bind (Runs.ite (fun _ => ?_) fun _ => ?_)) ?_) ?_
  · exact Runs.raise (h₀.abandoned self)
  · have hrecorded := h₀.recorded.polled self pollTime
    have hq := quiet_setChecker s₀ self (f := fun checker =>
      { checker with lastPollTime := pollTime, hasPolled := true, lastReceiveEventCount := 0 }) fun _ => rfl
    refine Runs.modify_bind (.single fun _ => hrecorded) ?_
    refine Runs.bind (lives_sendDueProbePackets (n := s.count self) ⟨hrecorded, fun c i => ?_, if_pos rfl, ?_, ?_⟩) ?_
    · exact (h.rest c i).trans (congrArg Probe.flight (hq.probe c i).symm)
    · exact (if_pos rfl).symm
    · exact hq.count self
    · rintro - s₁ - ⟨hpolling, htimely⟩
      exact (lives_receivePendingProbeReplies ⟨hpolling, htimely⟩).post fun _ _ _ hread => ⟨_, hread⟩
  · rintro error s₁ - habandoned
    have hcancel := habandoned.cancel
    exact Runs.modify_bind (.single fun _ => hcancel.1.recorded) (Runs.raise hcancel)
  · rintro - s₁ - ⟨n, hread⟩
    have hreported := hread.polling.recorded.reported hread.allowed_reported
    exact Runs.gets_bind (Runs.modify_bind (.single fun _ => hreported)
      (Runs.pure ⟨⟨hreported, hread.polling.rest⟩, trivial⟩))

/-! ### Construction -/

theorem Settled.inert (h : Settled s) {e : ProbeEvent} (he : e.Inert) : Settled (s.record e) := by
  refine ⟨h.recorded.inert he, fun c i => ?_⟩
  have hopen : openProbe c i (s.record e).log = openProbe c i s.log := by
    cases e <;> first
      | exact he.elim
      | rfl
  rw [hopen, probe_record]
  exact h.rest c i

/-- A probe without a socket, that has just been enrolled. -/
structure Enrolled (checker index : ℕ) (s : ProbeProcess) : Prop where
  /-- It is one of the probes of the checker. -/
  lt : index < s.count checker
  /-- It has no socket. -/
  closed : (s.probe checker index).socket = none
  /-- It is not in flight. -/
  idle : (s.probe checker index).awaitingReply = false

theorem Settled.enrolled (h : Settled s) (hself : self < s.nextChecker) (snapshot : ProbeSnapshot) :
    Settled (s.enroll self snapshot) ∧ Enrolled self (s.count self) (s.enroll self snapshot) := by
  have hnew : (s.enroll self snapshot).probe self (s.count self) = { snapshot } := by
    rw [probe_enroll, if_pos ⟨rfl, rfl⟩]
  refine ⟨⟨h.recorded.enrolled hself snapshot, fun c i => ?_⟩, ?_, hnew ▸ rfl, hnew ▸ rfl⟩
  · have hopen : openProbe c i (s.enroll self snapshot).log = openProbe c i s.log := rfl
    rw [hopen, h.rest, probe_enroll]
    split
    · rename_i he
      obtain ⟨rfl, rfl⟩ := he
      rw [probe_of_le le_rfl]
      rfl
    · rfl
  · simp [ProbeProcess.count, ProbeProcess.enroll, record]

theorem Settled.opened {index : ℕ} (h : Settled s) (hnew : Enrolled self index s) (handle : ℤ) :
    Settled (s.opened self index handle) := by
  refine ⟨h.recorded.opened hnew.lt hnew.closed hnew.idle handle, fun c i => ?_⟩
  have hopen : openProbe c i (s.opened self index handle).log = openProbe c i s.log := by
    unfold ProbeProcess.opened
    split <;> rfl
  have hprobe : (s.opened self index handle).probe c i =
      if c = self ∧ i = index then { s.probe self index with handle } else s.probe c i := by
    rw [← probe_setProbe hnew.lt]
    unfold ProbeProcess.opened
    split <;> rfl
  rw [hopen, hprobe, h.rest]
  split
  · rename_i he
    obtain ⟨rfl, rfl⟩ := he
    rfl
  · rfl

theorem settles_enrollProbe (h : Settled s) (hself : self < s.nextChecker) (previous : List ProbeSnapshot)
    (target : ProbeTarget) :
    Settles (fun _ => True) (enrollProbe self previous target) s fun go s' =>
      go = true ∧ s'.nextChecker = s.nextChecker := by
  unfold enrollProbe
  cases importSnapshot previous target with
  | none => exact Runs.raise ⟨h, trivial⟩
  | some snapshot =>
    obtain ⟨h₁, hnew⟩ := h.enrolled hself snapshot
    refine Runs.modify_bind (.single fun _ => h₁.recorded) (Runs.call_bind fun answer => ?_)
    cases answer with
    | none => exact Runs.raise ⟨h₁, trivial⟩
    | some handle =>
      have hindex : ((s.enroll self snapshot).checkers self).probes.length - 1 = s.count self := by
        simp [ProbeProcess.count, ProbeProcess.enroll, record]
      rw [← hindex] at hnew
      have h₂ := h₁.opened hnew handle
      refine Runs.modify_bind (.single fun _ => h₂.recorded) ?_
      refine Runs.ite (fun _ => Runs.raise ⟨h₂, trivial⟩) fun _ => Runs.pure ⟨h₂, rfl, ?_⟩
      unfold ProbeProcess.opened
      split <;> rfl

/-- **Construction**: a checker that could not be constructed has no socket and no probe under way. -/
theorem settles_constructChecker (h : Settled s) (targets : List ProbeTarget) (previous : List ProbeSnapshot) :
    Settles (Ended s.nextChecker) (constructChecker targets previous) s fun _ _ => True := by
  have hnone : Ended s.nextChecker s := by
    have hprobe : ∀ i, s.probe s.nextChecker i = default := fun i => by
      simp [ProbeProcess.probe, h.recorded.fresh s.nextChecker le_rfl]
    refine ⟨fun i => ?_, fun probe hmem => ?_⟩
    · rw [h.recorded.handles, h.rest, hprobe]
      exact ⟨rfl, rfl⟩
    · rw [h.recorded.fresh s.nextChecker le_rfl] at hmem
      exact absurd hmem List.not_mem_nil
  unfold constructChecker
  refine Runs.gets_bind (Runs.ite (fun _ => Runs.raise ⟨h, hnone⟩) fun _ =>
    Runs.ite (fun _ => Runs.raise ⟨h, hnone⟩) fun _ => ?_)
  set self := s.nextChecker with hself
  set s₀ : ProbeProcess := { s.setChecker self fun _ => {} with nextChecker := self + 1 } with hs₀
  have h₀ : Settled s₀ := by
    refine ⟨h.recorded.started hself.symm, fun c i => (h.rest c i).trans (congrArg Probe.flight ?_)⟩
    by_cases hc : c = self
    · have hempty : (s.checkers self).probes = [] := h.recorded.fresh self le_rfl
      subst hc
      simp [hs₀, ProbeProcess.probe, hempty]
    · simp [hs₀, ProbeProcess.probe, setChecker, hc]
  refine Runs.modify_bind (.single fun _ => h₀.recorded) ?_
  refine Runs.bind (Q := fun _ s' => Settled s') (Runs.handle (E := fun _ s' => Settled s' ∧ True) ?_ ?_) ?_
  · refine (Runs.forEach_all (fun _ s' => Settled s' ∧ s'.nextChecker = self + 1) targets
      (fun done target _ s' hs' => ?_) [] ⟨h₀, rfl⟩).post fun _ _ _ hs' => hs'.1
    refine (settles_enrollProbe hs'.1 (by omega) previous target).post ?_
    rintro go s'' - ⟨hs'', hgo, hnext⟩
    exact ⟨hgo, hs'', hnext.trans hs'.2⟩
  · rintro error s' - ⟨hs', -⟩
    have hcancel := (hs'.abandoned self).cancel
    exact Runs.modify_bind (.single fun _ => hcancel.1.recorded) (Runs.raise hcancel)
  · rintro - s' - hs'
    have hnew := hs'.inert (e := .configured self targets) trivial
    exact Runs.modify_bind (.single fun _ => hnew.recorded) (Runs.pure ⟨hnew, trivial⟩)

theorem settles_cancelAllProbes (h : Settled s) (self : ℕ) :
    Settles (fun _ => True) (cancelAllProbes self) s fun _ => Ended self := by
  have hcancel := (h.abandoned self).cancel
  exact Runs.modify (.single fun _ => hcancel.1.recorded) hcancel

/-! ### Any process of checkers -/

theorem settles_serveProbeRequest (h : Settled s) (request : ProbeRequest) :
    Settles (fun _ => True) (serveProbeRequest request) s fun _ _ => True := by
  cases request with
  | construct targets previous =>
    refine Runs.handle (Runs.bind (settles_constructChecker h targets previous) fun _ _ _ hs' => Runs.pure hs') ?_
    rintro error s' - ⟨hs', -⟩
    have hnew := hs'.inert (e := .rejected error) trivial
    exact Runs.modify (.single fun _ => hnew.recorded) ⟨hnew, trivial⟩
  | poll checker pollTime =>
    refine Runs.handle
      (Runs.bind (settles_pollProbeTransitions h checker pollTime) fun _ _ _ hs' => Runs.pure hs') ?_
    rintro error s' - ⟨hs', hended⟩
    have hnew := @Recorded.pollFailed _ _ hs'.recorded error hended.closed
    exact Runs.modify (.single fun _ => hnew) ⟨⟨hnew, hs'.rest⟩, trivial⟩
  | destroy checker => exact (settles_cancelAllProbes h checker).post fun _ _ _ hs' => ⟨hs'.1, trivial⟩

theorem settles_probeProcess (h : Settled s) :
    Settles (fun _ => True) probeProcess s fun _ _ => True := by
  refine Runs.loop (fun _ => Settled) (fun _ s' hs' => ?_) h
  refine Runs.call_bind fun request => ?_
  exact Runs.bind (settles_serveProbeRequest hs' request) fun _ _ _ hs'' => Runs.pure hs''.1

theorem settled_start (nonceSource : ProbeNonceSequence) (clock : Time) : Settled (startProcess nonceSource clock) :=
  ⟨recorded_start nonceSource clock, fun _ _ => rfl⟩

/-- **At every point of every run the history is what the checkers hold.** -/
theorem recorded_probeProcess (nonceSource : ProbeNonceSequence) (clock : Time)
    (script : List (Answerer ProbeCall ProbeAnswer)) :
    Recorded (probeProcess ⟨script, startProcess nonceSource clock⟩).2.state :=
  (settles_probeProcess (settled_start nonceSource clock)).invariant (recorded_start nonceSource clock)
    (fun _ _ h => h) script

end Polls

/-- **The life of a probe.** At every point of every run of any number of checkers, polled
at any times and whatever their sockets and completion clocks answer, the snapshots are
those the history says, the probes in flight are among those that it says have not ended,
and in it: a probe is sent when the one before it of its target has ended, an interval or
more after each of them; a probe is completed only before it has ended; so each
probe sent is completed once, or cancelled once, or has not ended, and of each target at
most one has not; a poll has handled no more than its budget; a poll that returns leaves no probe
that is at or past its deadline, and reports the changes of state in it, in their order; and
one that throws leaves no probe at all. -/
theorem probe_lifecycle (nonceSource : ProbeNonceSequence) (clock : Time)
    (script : List (Answerer ProbeCall ProbeAnswer)) :
    let s := (probeProcess ⟨script, startProcess nonceSource clock⟩).2.state
    (∀ c i, i < s.count c → snapshotOf c i s.log = some (s.probe c i).snapshot) ∧
      (∀ c i, (s.probe c i).awaitingReply = true →
        openProbe c i s.log = some ((s.probe c i).token, (s.probe c i).probeDeadline - kTimeout)) ∧
      (∀ c i handle token t before, .attempted c i handle token t :: before <:+ s.log →
        openProbe c i before = none ∧
          ∀ handle' token' t', .attempted c i handle' token' t' ∈ before → t' + kInterval ≤ t) ∧
      (∀ c i target success before, .completed c i target success :: before <:+ s.log →
        (openProbe c i before).isSome) ∧
      (∀ before, before <:+ s.log → ∀ c i, attempts c i before =
        completions c i before + cancellations c i before + if (openProbe c i before).isSome then 1 else 0) ∧
      (∀ before, before <:+ s.log → ∀ c, handledInPoll c before ≤ kReceiveBudget) ∧
      (∀ c transitions before, .reported c transitions :: before <:+ s.log →
        transitions.map ProbeTransition.change = changesInPoll c before ∧
          ∀ i token t, openProbe c i before = some (token, t) →
            ∃ pollTime, pollOf c before = some pollTime ∧ pollTime < t + kTimeout) ∧
      ∀ c error before, .pollFailed c error :: before <:+ s.log → ∀ i, openProbe c i before = none := by
  intro s
  have h : Recorded s := recorded_probeProcess nonceSource clock script
  have hflight : FlightAgrees s := (sound_probeProcess nonceSource clock script).flight
  refine ⟨h.snapshots, fun c i hawaiting => h.lawful.openProbe_eq ((hflight c i).trans (if_pos hawaiting)),
    fun c i handle token t before hs => ?_, fun c i target success before hs => h.lawful _ _ hs,
    fun before hs c i => (h.lawful.of_suffix hs).attempts_eq c i,
    fun before hs c => (h.lawful.of_suffix hs).handledInPoll_le c, fun c transitions before hs => ?_,
    fun c error before hs i => (h.lawful _ _ hs i).2⟩
  · obtain ⟨-, hnone, hspaced, -⟩ := h.lawful _ _ hs
    exact ⟨hnone, spacedBy_iff.mp hspaced⟩
  · obtain ⟨hopen, hchanges⟩ := h.lawful _ _ hs
    exact ⟨hchanges, hopen⟩

/-- A checker of two targets is constructed, the first of which has failed twice, and polled:
the first target refuses its probe, and the probe of the second is sent in part. -/
def partialSendScript : List (Answerer ProbeCall ProbeAnswer) :=
  let target (id : UInt8) : ProbeTarget := ⟨[id], [101], 2, .replicate 6 0, .replicate 6 0, 1, 9⟩
  let answerer (request : ProbeRequest) (handle : ℤ) (sent : Except Errno ℕ) : Answerer ProbeCall ProbeAnswer := fun
    | .openProbeSocket _ => some handle
    | .send _ _ => sent
    | .recv _ => .error .EAGAIN
    | .nowAtCompletion pollTime => pollTime
    | .now => (0 : ℕ)
    | .next => request
    | .follow => .poll 0
  let construct := answerer (.construct [target 97, target 98] [{ target := target 97, consecutiveFailures := 2 }])
  let poll := answerer (.poll 0 0)
  [construct 3 (.ok 24), construct 3 (.ok 24), construct 4 (.ok 24), poll 3 (.ok 24), poll 3 (.error .ECONNREFUSED),
    poll 3 (.ok 5)]

/-- The first target became unhealthy, the poll has thrown, and no transition was ever reported. -/
theorem failed_poll_reports_nothing :
    let log := (probeProcess ⟨partialSendScript, startProcess ⟨1, 0⟩ 0⟩).2.state.log
    log.head? = some (.pollFailed 0 .partialSend) ∧
      changesInPoll 0 log.tail = [([97], .unknown, .unhealthy)] ∧
      ∀ c transitions, .reported c transitions ∉ log := by
  intro log
  refine ⟨by decide +kernel, by decide +kernel, fun c transitions hmem => ?_⟩
  have hnone : log.all (fun e => match e with
      | .reported _ _ => false
      | _ => true) = true := by decide +kernel
  exact Bool.false_ne_true (List.all_eq_true.mp hnone _ hmem)

end L4lb.Health
