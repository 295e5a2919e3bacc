import L4lb.Health.ProbeHistory
import L4lb.Health.ProbeSoundness

/-!
# The history is what the checkers hold

Whatever the methods of a checker do, the history that they leave is lawful, and the
sockets, snapshots, counters and times that the checkers hold are those it says
(`Recorded`): one lemma for each thing that can happen.
-/

namespace L4lb.Health

open Effect Prog Relation ProbeProcess

/-! ### What the checkers hold is what the history says -/

/-- The open socket of a probe. -/
def Probe.socket (probe : Probe) : Option ℤ := if 0 ≤ probe.handle then some probe.handle else none

theorem Probe.socket_eq_some {probe : Probe} (h : 0 ≤ probe.handle) : probe.socket = some probe.handle := if_pos h

@[simp] theorem Probe.socket_default : (default : Probe).socket = none := rfl

@[simp] theorem Probe.socket_cancel (probe : Probe) : probe.cancel.socket = none := rfl

/-- The history is lawful, and the checkers hold what it says. -/
structure Recorded (s : ProbeProcess) : Prop where
  /-- It is lawful. -/
  lawful : Lawful s.log
  /-- The open sockets. -/
  handles : ∀ c i, openHandle c i s.log = (s.probe c i).socket
  /-- The snapshots. -/
  snapshots : ∀ c i, i < s.count c → snapshotOf c i s.log = some (s.probe c i).snapshot
  /-- What the last poll has handled. -/
  handled : ∀ c, handledInPoll c s.log = (s.checkers c).lastReceiveEventCount
  /-- A checker without probes handles nothing. -/
  unused : ∀ c, (s.checkers c).probes = [] → (s.checkers c).lastReceiveEventCount = 0
  /-- The next probe of a target is due an interval after those before it. -/
  spaced : ∀ c i, SpacedBy c i (s.probe c i).nextProbeTime s.log
  /-- A probe in flight has a socket. -/
  held : ∀ c i, (s.probe c i).awaitingReply = true → 0 ≤ (s.probe c i).handle
  /-- Checkers come in order. -/
  fresh : Fresh s

theorem recorded_start (nonceSource : ProbeNonceSequence) (clock : Time) : Recorded (startProcess nonceSource clock) where
  lawful := lawful_nil
  handles _ _ := rfl
  snapshots _ _ h := absurd h (Nat.not_lt_zero _)
  handled _ := rfl
  unused _ _ := rfl
  spaced _ _ := trivial
  held _ _ h := by cases h
  fresh _ _ := rfl

section Recorded

variable {s s' : ProbeProcess} {self i : ℕ}

/-- What the invariant is about has not changed. -/
theorem Recorded.congr (h : Recorded s) (hlog : s'.log = s.log) (hfresh : Fresh s')
    (hprobes : ∀ c, (s'.checkers c).probes = (s.checkers c).probes)
    (hcounts : ∀ c, (s'.checkers c).lastReceiveEventCount = (s.checkers c).lastReceiveEventCount) : Recorded s' := by
  have hprobe : ∀ c i, s'.probe c i = s.probe c i := fun c i => by rw [ProbeProcess.probe, hprobes]; rfl
  have hcount : ∀ c, s'.count c = s.count c := fun c => by rw [ProbeProcess.count, hprobes]; rfl
  refine ⟨hlog ▸ h.lawful, fun c i => ?_, fun c i hi => ?_, fun c => ?_, fun c hc => ?_, fun c i => ?_, fun c i => ?_,
    hfresh⟩
  · rw [hlog, hprobe, h.handles]
  · rw [hlog, hprobe, h.snapshots c i (hcount c ▸ hi)]
  · rw [hlog, hcounts, h.handled]
  · rw [hcounts, h.unused c (hprobes c ▸ hc)]
  · rw [hlog, hprobe]
    exact h.spaced c i
  · rw [hprobe]
    exact h.held c i

/-- An event the invariant is not about. -/
def ProbeEvent.Inert : ProbeEvent → Prop
  | .generated _ | .received _ _ _ _ | .configured _ _ | .adopted _ _ | .rejected _ => True
  | _ => False

theorem Recorded.inert (h : Recorded s) {e : ProbeEvent} (he : e.Inert) : Recorded (s.record e) := by
  cases e <;> first
    | exact he.elim
    | exact ⟨h.lawful.cons trivial, h.handles, h.snapshots, h.handled, h.unused, h.spaced, h.held, h.fresh⟩

theorem Recorded.reading (h : Recorded s) (hflight : (s.probe self i).awaitingReply = true) :
    Recorded (s.record (.reading self i (s.probe self i).handle)) := by
  refine ⟨h.lawful.cons ?_, h.handles, h.snapshots, h.handled, h.unused, h.spaced, h.held, h.fresh⟩
  exact (h.handles self i).trans (Probe.socket_eq_some (h.held self i hflight))

theorem Recorded.rewound (h : Recorded s) (payload : Option Bytes) {completedAt pollTime : Time}
    (hpoll : pollOf self s.log = some pollTime) (hback : completedAt < pollTime) :
    Recorded (s.record (.rewound self i payload completedAt pollTime)) :=
  ⟨h.lawful.cons ⟨hpoll, hback⟩, h.handles, h.snapshots, h.handled, h.unused, h.spaced, h.held, h.fresh⟩

theorem Recorded.sent (h : Recorded s) {token : ProbePacket} {pollTime : Time}
    (hopen : openProbe self i s.log = some (token, pollTime)) : Recorded (s.record (.sent self i token pollTime)) :=
  ⟨h.lawful.cons hopen, h.handles, h.snapshots, h.handled, h.unused, h.spaced, h.held, h.fresh⟩

theorem Recorded.reported (h : Recorded s) {transitions : List ProbeTransition}
    (hallowed : (ProbeEvent.reported self transitions).Allowed s.log) : Recorded (s.record (.reported self transitions)) :=
  ⟨h.lawful.cons hallowed, h.handles, h.snapshots, h.handled, h.unused, h.spaced, h.held, h.fresh⟩

theorem Recorded.pollFailed (h : Recorded s) {error : ProbeError}
    (hallowed : (ProbeEvent.pollFailed self error).Allowed s.log) : Recorded (s.record (.pollFailed self error)) :=
  ⟨h.lawful.cons hallowed, h.handles, h.snapshots, h.handled, h.unused, h.spaced, h.held, h.fresh⟩

theorem Recorded.attempted (h : Recorded s) {handle : ℤ} {token : ProbePacket} {pollTime : Time}
    (hallowed : (ProbeEvent.attempted self i handle token pollTime).Allowed s.log)
    (hnext : pollTime + kInterval ≤ (s.probe self i).nextProbeTime) :
    Recorded (s.record (.attempted self i handle token pollTime)) := by
  refine ⟨h.lawful.cons hallowed, h.handles, h.snapshots, h.handled, h.unused, fun c j => ?_, h.held, h.fresh⟩
  refine ⟨?_, h.spaced c j⟩
  rintro ⟨rfl, rfl⟩
  exact hnext

/-- The counter of a checker is changed, and that is recorded. -/
theorem Recorded.turned (h : Recorded s) {f : UdpProbeChecker → UdpProbeChecker} {e : ProbeEvent}
    (hf : ∀ checker, (f checker).probes = checker.probes) (he : (∃ t, e = .polled self t) ∨ ∃ i, e = .handled self i)
    (hallowed : e.Allowed s.log) (hcount : handledInPoll self (e :: s.log) = (f (s.checkers self)).lastReceiveEventCount)
    (hunused : (s.checkers self).probes = [] → (f (s.checkers self)).lastReceiveEventCount = 0) :
    Recorded ((s.setChecker self f).record e) := by
  have hq := quiet_setChecker s self hf
  have hsame : (∀ c i, openHandle c i (e :: s.log) = openHandle c i s.log) ∧
      (∀ c i, snapshotOf c i (e :: s.log) = snapshotOf c i s.log) ∧
      (∀ c i t, SpacedBy c i t (e :: s.log) ↔ SpacedBy c i t s.log) ∧
      ∀ c, c ≠ self → handledInPoll c (e :: s.log) = handledInPoll c s.log := by
    obtain ⟨t, rfl⟩ | ⟨i, rfl⟩ := he
    · exact ⟨fun _ _ => rfl, fun _ _ => rfl, fun _ _ _ => Iff.rfl, fun c hc => if_neg (Ne.symm hc)⟩
    · exact ⟨fun _ _ => rfl, fun _ _ => rfl, fun _ _ _ => Iff.rfl, fun c hc => if_neg (Ne.symm hc)⟩
  obtain ⟨hhandle, hsnapshot, hspaced, hothers⟩ := hsame
  refine ⟨h.lawful.cons hallowed, fun c i => ?_, fun c i hi => ?_, fun c => ?_, fun c hc => ?_, fun c i => ?_, fun c i => ?_,
    h.fresh.of_empty rfl fun c hc => (hq.probes c).trans hc⟩
  · rw [probe_record, hq.probe]
    exact (hhandle c i).trans (h.handles c i)
  · rw [probe_record, hq.probe]
    exact (hsnapshot c i).trans (h.snapshots c i (hq.count c ▸ hi))
  · by_cases hc : c = self
    · subst hc
      exact hcount.trans (congrArg UdpProbeChecker.lastReceiveEventCount (setChecker_self f).symm)
    · refine (hothers c hc).trans ((h.handled c).trans ?_)
      exact congrArg UdpProbeChecker.lastReceiveEventCount (setChecker_others hc f).symm
  · by_cases hself : c = self
    · subst hself
      refine (congrArg UdpProbeChecker.lastReceiveEventCount (setChecker_self f)).trans (hunused ?_)
      exact (hq.probes c).symm.trans hc
    · refine (congrArg UdpProbeChecker.lastReceiveEventCount (setChecker_others hself f)).trans (h.unused c ?_)
      exact (hq.probes c).symm.trans hc
  · rw [probe_record, hq.probe]
    exact (hspaced c i _).mpr (h.spaced c i)
  · rw [probe_record, hq.probe]
    exact h.held c i

/-- A checker's poll begins. -/
theorem Recorded.polled (h : Recorded s) (self : ℕ) (pollTime : Time) :
    Recorded ((s.setChecker self fun checker =>
      { checker with lastPollTime := pollTime, hasPolled := true, lastReceiveEventCount := 0 }).record
        (.polled self pollTime)) :=
  h.turned (fun _ => rfl) (Or.inl ⟨pollTime, rfl⟩) trivial (by simp [handledInPoll]) fun _ => rfl

/-- One more was read. -/
theorem Recorded.counted (h : Recorded s) (hi : i < s.count self)
    (hroom : (s.checkers self).lastReceiveEventCount < kReceiveBudget) :
    Recorded ((s.setChecker self fun checker =>
      { checker with lastReceiveEventCount := checker.lastReceiveEventCount + 1 }).record (.handled self i)) := by
  refine h.turned (fun _ => rfl) (Or.inr ⟨i, rfl⟩) ((h.handled self).trans_lt hroom) ?_ fun hnone => ?_
  · simp [handledInPoll, h.handled]
  · rw [ProbeProcess.count, hnone] at hi
    exact absurd hi (Nat.not_lt_zero _)

theorem probe_setProbe (hi : i < s.count self) (p : Probe) (c j : ℕ) :
    (s.setProbe self i p).probe c j = if c = self ∧ j = i then p else s.probe c j := by
  split
  · rename_i he
    obtain ⟨rfl, rfl⟩ := he
    exact probe_setProbe_self hi p
  · rename_i he
    exact probe_setProbe_ne (not_and_or.mp he) p

theorem lastReceiveEventCount_setProbe (self i : ℕ) (p : Probe) (c : ℕ) :
    ((s.setProbe self i p).checkers c).lastReceiveEventCount = (s.checkers c).lastReceiveEventCount := by
  by_cases hc : c = self
  · subst hc
    simp [setProbe]
  · rw [setProbe, setChecker_others hc]

theorem probes_eq_nil_of_setProbe {p : Probe} {c : ℕ} (h : ((s.setProbe self i p).checkers c).probes = []) :
    (s.checkers c).probes = [] := by
  have hlength := @count_setProbe s self c i p
  rw [ProbeProcess.count, ProbeProcess.count, h] at hlength
  exact List.length_eq_zero_iff.mp hlength.symm

/-- A probe is replaced by one with its socket and its snapshot. -/
theorem Recorded.set (h : Recorded s) (hi : i < s.count self) {p : Probe} (hsocket : p.socket = (s.probe self i).socket)
    (hsnapshot : p.snapshot = (s.probe self i).snapshot)
    (hnext : (s.probe self i).nextProbeTime ≤ p.nextProbeTime)
    (hheld : p.awaitingReply = true → 0 ≤ p.handle) : Recorded (s.setProbe self i p) := by
  refine ⟨h.lawful, fun c j => ?_, fun c j hj => ?_,
    fun c => (h.handled c).trans (lastReceiveEventCount_setProbe self i p c).symm,
    fun c hc => (lastReceiveEventCount_setProbe self i p c).trans
      (h.unused c (probes_eq_nil_of_setProbe hc)),
    fun c j => ?_, fun c j => ?_,
    h.fresh.of_empty rfl (setProbe_empty self i p)⟩
  · refine (h.handles c j).trans ?_
    rw [probe_setProbe hi]
    split
    · rename_i he
      obtain ⟨rfl, rfl⟩ := he
      exact hsocket.symm
    · rfl
  · rw [count_setProbe] at hj
    refine (h.snapshots c j hj).trans ?_
    rw [probe_setProbe hi]
    split
    · rename_i he
      obtain ⟨rfl, rfl⟩ := he
      rw [hsnapshot]
    · rfl
  · rw [probe_setProbe hi]
    split
    · rename_i he
      obtain ⟨rfl, rfl⟩ := he
      exact (h.spaced c j).mono hnext
    · exact h.spaced c j
  · rw [probe_setProbe hi]
    split
    · exact hheld
    · exact h.held c j

/-- A probe is completed. -/
theorem Recorded.complete (h : Recorded s) (hi : i < s.count self) (hopen : (openProbe self i s.log).isSome)
    (success : Bool) (reason : String) (error : Errno) : Recorded (s.complete self i success reason error) := by
  set p := (s.probe self i).complete success with hp
  have hprobe : ∀ c j, (s.complete self i success reason error).probe c j = if c = self ∧ j = i then p else s.probe c j :=
    probe_setProbe hi p
  refine ⟨h.lawful.cons hopen, fun c j => ?_, fun c j hj => ?_,
    fun c => (h.handled c).trans (lastReceiveEventCount_setProbe self i p c).symm,
    fun c hc => (lastReceiveEventCount_setProbe self i p c).trans
      (h.unused c (probes_eq_nil_of_setProbe hc)),
    fun c j => ?_, fun c j => ?_,
    h.fresh.of_empty rfl (setProbe_empty self i p)⟩
  · refine (h.handles c j).trans ?_
    rw [hprobe]
    split
    · rename_i he
      obtain ⟨rfl, rfl⟩ := he
      rfl
    · rfl
  · rw [complete_count] at hj
    rw [hprobe]
    simp only [ProbeProcess.complete, snapshotOf]
    by_cases he : c = self ∧ j = i
    · obtain ⟨rfl, rfl⟩ := he
      rw [if_pos ⟨rfl, rfl⟩, if_pos ⟨rfl, rfl⟩, h.snapshots c j hj]
      rfl
    · rw [if_neg he, if_neg fun he' => he ⟨he'.1.symm, he'.2.symm⟩]
      exact h.snapshots c j hj
  · rw [hprobe]
    split
    · rename_i he
      obtain ⟨rfl, rfl⟩ := he
      exact h.spaced c j
    · exact h.spaced c j
  · rw [hprobe]
    split
    · intro hflight
      cases hflight
    · exact h.held c j

/-- A function of the history that closings do not matter to. -/
theorem eq_of_closed {β : Type} (f : List ProbeEvent → β) (hf : ∀ c i handle log, f (.closed c i handle :: log) = f log)
    {events : List ProbeEvent} (hall : ∀ e ∈ events, ∃ c i handle, e = .closed c i handle) (log : List ProbeEvent) :
    f (events ++ log) = f log := by
  induction events with
  | nil => rfl
  | cons e events ih =>
    obtain ⟨c, i, handle, rfl⟩ := hall e List.mem_cons_self
    rw [List.cons_append, hf]
    exact ih fun e' h' => hall e' (List.mem_cons_of_mem _ h')

/-- The closings of the open sockets of a checker, the last first. -/
def closedSockets (self : ℕ) (probes : List Probe) : List ProbeEvent :=
  (probes.zipIdx.filter (·.1.handle ≥ 0)).reverse.map fun p => ProbeEvent.closed self p.2 p.1.handle

theorem closedSockets_concat (self : ℕ) (probes : List Probe) (p : Probe) :
    closedSockets self (probes ++ [p]) =
      (if p.handle ≥ 0 then [.closed self probes.length p.handle] else []) ++ closedSockets self probes := by
  by_cases h : p.handle ≥ 0
  · simp [closedSockets, List.zipIdx_append, List.filter_append, h]
  · simp [closedSockets, List.zipIdx_append, List.filter_append, h]

theorem mem_closedSockets (self : ℕ) (probes : List Probe) :
    ∀ e ∈ closedSockets self probes, ∃ c i handle, e = .closed c i handle := by
  intro e he
  obtain ⟨p, -, rfl⟩ := List.mem_map.mp he
  exact ⟨_, _, _, rfl⟩

/-- Closing the sockets that are open is lawful, and leaves none open. -/
theorem lawful_closedSockets {log : List ProbeEvent} (hlawful : Lawful log) (self : ℕ) (probes : List Probe)
    (hopen : ∀ i, ∀ p ∈ probes[i]?, openHandle self i log = p.socket) :
    Lawful (closedSockets self probes ++ log) ∧
      ∀ c i, openHandle c i (closedSockets self probes ++ log) =
        if c = self ∧ i < probes.length then none else openHandle c i log := by
  induction probes using List.reverseRecOn with
  | nil => exact ⟨hlawful, fun c i => by simp [closedSockets]⟩
  | append_singleton probes p ih =>
    obtain ⟨hlawful', hhandles⟩ := ih fun i q hq => hopen i q (by
      have hi := (List.getElem?_eq_some_iff.mp hq).1
      rw [List.getElem?_append_left hi]
      exact hq)
    have hlast : openHandle self probes.length log = p.socket := hopen probes.length p (by simp)
    have hnow : openHandle self probes.length (closedSockets self probes ++ log) = p.socket := by
      rw [hhandles, if_neg (by simp), hlast]
    rw [closedSockets_concat, List.length_append, List.length_singleton]
    by_cases hp : p.handle ≥ 0
    · rw [if_pos hp]
      refine ⟨hlawful'.cons (hnow.trans (Probe.socket_eq_some hp)), fun c i => ?_⟩
      rw [List.append_assoc, List.singleton_append, openHandle]
      by_cases he : self = c ∧ probes.length = i
      · obtain ⟨rfl, rfl⟩ := he
        rw [if_pos ⟨rfl, rfl⟩, if_pos ⟨rfl, by omega⟩]
      · rw [if_neg he, hhandles]
        have hsame : (c = self ∧ i < probes.length + 1) ↔ c = self ∧ i < probes.length :=
          and_congr_right fun hc => by
            have : probes.length ≠ i := fun hi => he ⟨hc.symm, hi⟩
            omega
        simp only [hsame]
    · rw [if_neg hp, List.nil_append]
      refine ⟨hlawful', fun c i => ?_⟩
      rw [hhandles]
      by_cases he : c = self ∧ i = probes.length
      · obtain ⟨rfl, rfl⟩ := he
        rw [if_neg (by simp), if_pos ⟨rfl, by omega⟩, hlast, Probe.socket, if_neg hp]
      · have hsame : (c = self ∧ i < probes.length + 1) ↔ c = self ∧ i < probes.length :=
          and_congr_right fun hc => by
            have : i ≠ probes.length := fun hi => he ⟨hc, hi⟩
            omega
        simp only [hsame]

theorem Recorded.cancel (h : Recorded s) (self : ℕ) : Recorded (s.cancel self) := by
  have hlog : (s.cancel self).log = .cancelled self :: (closedSockets self (s.checkers self).probes ++ s.log) := rfl
  obtain ⟨hlawful, hhandles⟩ := lawful_closedSockets h.lawful self (s.checkers self).probes
    fun i p hp => by
      rw [h.handles, ProbeProcess.probe, hp]
      rfl
  have hclosed := mem_closedSockets self (s.checkers self).probes
  have hnone : ∀ i, openHandle self i (closedSockets self (s.checkers self).probes ++ s.log) = none := by
    intro i
    rw [hhandles]
    split
    · rfl
    · rename_i hi
      rw [h.handles, probe_of_le (Nat.le_of_not_lt fun hlt => hi ⟨rfl, hlt⟩)]
      rfl
  have hlength : ∀ c, (s.cancel self).count c = s.count c := by
    intro c
    by_cases hc : c = self
    · subst hc
      simp [ProbeProcess.count, ProbeProcess.cancel]
    · simp [ProbeProcess.count, ProbeProcess.cancel, setChecker, hc]
  have hprobe : ∀ c i, ((s.cancel self).probe c i).snapshot = (s.probe c i).snapshot ∧
      ((s.cancel self).probe c i).nextProbeTime = (s.probe c i).nextProbeTime := by
    intro c i
    rw [probe_cancel]
    split
    · rename_i hc
      subst hc
      rw [ProbeProcess.probe, List.getElem?_map]
      cases (s.checkers c).probes[i]? <;> exact ⟨rfl, rfl⟩
    · exact ⟨rfl, rfl⟩
  have hcount : ∀ c, ((s.cancel self).checkers c).lastReceiveEventCount = (s.checkers c).lastReceiveEventCount := by
    intro c
    by_cases hc : c = self
    · subst hc
      simp [ProbeProcess.cancel]
    · simp [ProbeProcess.cancel, setChecker, hc]
  refine ⟨hlog ▸ hlawful.cons hnone, fun c i => ?_, fun c i hi => ?_, fun c => ?_, fun c hc => ?_, fun c i => ?_,
    fun c i => ?_, h.fresh.of_empty rfl (cancel_empty self)⟩
  · rw [hlog, probe_cancel]
    simp only [openHandle]
    by_cases hc : c = self
    · subst hc
      rw [hnone, if_pos rfl, List.getElem?_map]
      cases (s.checkers c).probes[i]? <;> rfl
    · rw [hhandles, if_neg fun he => hc he.1, if_neg hc, h.handles]
  · rw [hlog, (hprobe c i).1]
    exact (eq_of_closed (snapshotOf c i) (fun _ _ _ _ => rfl) hclosed s.log).trans
      (h.snapshots c i (hlength c ▸ hi))
  · rw [hlog, hcount]
    exact (eq_of_closed (handledInPoll c) (fun _ _ _ _ => rfl) hclosed s.log).trans (h.handled c)
  · rw [hcount]
    refine h.unused c (List.length_eq_zero_iff.mp ?_)
    exact (hlength c).symm.trans (List.length_eq_zero_iff.mpr hc)
  · rw [hlog, (hprobe c i).2]
    exact (eq_of_closed (SpacedBy c i (s.probe c i).nextProbeTime) (fun _ _ _ _ => rfl) hclosed s.log).mpr
      (h.spaced c i)
  · rw [probe_cancel]
    split
    · rw [List.getElem?_map]
      cases (s.checkers self).probes[i]? with
      | none =>
        intro hflight
        cases hflight
      | some p =>
        intro hflight
        cases hflight
    · exact h.held c i

/-! ### Construction -/

/-- A checker is started. -/
theorem Recorded.started (h : Recorded s) (hself : s.nextChecker = self) :
    Recorded { s.setChecker self fun _ => {} with nextChecker := self + 1 } := by
  have hnone : (s.checkers self).probes = [] := h.fresh self hself.le
  refine h.congr rfl ((BuildStep.start hself).fresh h.fresh) (fun c => ?_) fun c => ?_
  · by_cases hc : c = self
    · subst hc
      simp [hnone]
    · simp [setChecker, hc]
  · by_cases hc : c = self
    · subst hc
      simp [h.unused c hnone]
    · simp [setChecker, hc]

theorem probe_enroll (s : ProbeProcess) (self : ℕ) (snapshot : ProbeSnapshot) (c i : ℕ) :
    (s.enroll self snapshot).probe c i = if c = self ∧ i = s.count self then { snapshot } else s.probe c i := by
  by_cases hc : c = self
  · subst hc
    simp only [ProbeProcess.probe, ProbeProcess.enroll, record, setChecker_self, true_and, ProbeProcess.count]
    rcases Nat.lt_trichotomy i (s.checkers c).probes.length with hi | rfl | hi
    · rw [List.getElem?_append_left hi, if_neg hi.ne]
    · rw [List.getElem?_concat_length, if_pos rfl]
      rfl
    · rw [List.getElem?_eq_none hi.le, List.getElem?_eq_none, if_neg hi.ne']
      rw [List.length_append, List.length_singleton]
      exact hi
  · simp [ProbeProcess.probe, ProbeProcess.enroll, record, setChecker, hc]

/-- A probe is enrolled. -/
theorem Recorded.enrolled (h : Recorded s) (hself : self < s.nextChecker) (snapshot : ProbeSnapshot) :
    Recorded (s.enroll self snapshot) := by
  have hlog : (s.enroll self snapshot).log = .enrolled self (s.count self) snapshot :: s.log := rfl
  have hcount : ∀ c, (s.enroll self snapshot).count c = if c = self then s.count self + 1 else s.count c := by
    intro c
    by_cases hc : c = self
    · subst hc
      simp [ProbeProcess.count, ProbeProcess.enroll, record]
    · simp [ProbeProcess.count, ProbeProcess.enroll, record, setChecker, hc]
  have hcounter : ∀ c, ((s.enroll self snapshot).checkers c).lastReceiveEventCount =
      (s.checkers c).lastReceiveEventCount := by
    intro c
    by_cases hc : c = self
    · subst hc
      simp [ProbeProcess.enroll, record]
    · simp [ProbeProcess.enroll, record, setChecker, hc]
  have hdefault : s.probe self (s.count self) = default := probe_of_le le_rfl
  refine ⟨hlog ▸ h.lawful.cons trivial, fun c i => ?_, fun c i hi => ?_, fun c => (h.handled c).trans (hcounter c).symm,
    fun c hc => ?_, fun c i => ?_, fun c i => ?_, (BuildStep.enroll hself).fresh h.fresh⟩
  · rw [probe_enroll]
    split
    · rename_i he
      obtain ⟨rfl, rfl⟩ := he
      refine (h.handles c _).trans ?_
      rw [hdefault]
      rfl
    · exact h.handles c i
  · rw [hlog, probe_enroll, snapshotOf]
    by_cases he : c = self ∧ i = s.count self
    · obtain ⟨rfl, rfl⟩ := he
      rw [if_pos ⟨rfl, rfl⟩, if_pos ⟨rfl, rfl⟩]
    · rw [if_neg he, if_neg fun he' => he ⟨he'.1.symm, he'.2.symm⟩]
      refine h.snapshots c i ?_
      rw [hcount] at hi
      split at hi
      · rename_i hc
        have : i ≠ s.count self := fun heq => he ⟨hc, heq⟩
        rw [hc]
        omega
      · exact hi
  · rw [hcounter]
    refine h.unused c ?_
    have hlength := hcount c
    rw [ProbeProcess.count, hc] at hlength
    split at hlength
    · cases hlength
    · exact List.length_eq_zero_iff.mp hlength.symm
  · rw [probe_enroll]
    split
    · rename_i he
      obtain ⟨rfl, rfl⟩ := he
      exact (congrArg (fun probe : Probe => SpacedBy c _ probe.nextProbeTime s.log) hdefault).mp (h.spaced c _)
    · exact h.spaced c i
  · rw [probe_enroll]
    split
    · intro hflight
      cases hflight
    · exact h.held c i

/-- The socket of a probe without one is opened, or not. -/
theorem Recorded.opened (h : Recorded s) (hi : i < s.count self) (hnone : (s.probe self i).socket = none)
    (hidle : (s.probe self i).awaitingReply = false) (handle : ℤ) : Recorded (s.opened self i handle) := by
  set p : Probe := { s.probe self i with handle } with hp
  unfold ProbeProcess.opened
  by_cases hhandle : handle < 0
  · rw [if_pos hhandle]
    refine h.set hi ?_ rfl (le_refl _) fun hflight => ?_
    · rw [hnone]
      exact if_neg (Int.not_le.mpr hhandle)
    · exact absurd (show (s.probe self i).awaitingReply = true from hflight) (by simp [hidle])
  · rw [if_neg hhandle]
    have hopen : 0 ≤ handle := Int.not_lt.mp hhandle
    have hbefore : openHandle self i s.log = none := (h.handles self i).trans hnone
    refine ⟨h.lawful.cons ⟨hbefore, hopen⟩, fun c j => ?_, fun c j hj => ?_,
      fun c => (h.handled c).trans (lastReceiveEventCount_setProbe self i p c).symm,
      fun c hc => (lastReceiveEventCount_setProbe self i p c).trans (h.unused c (probes_eq_nil_of_setProbe hc)),
      fun c j => ?_, fun c j => ?_, h.fresh.of_empty rfl (setProbe_empty self i p)⟩
    · rw [probe_record, probe_setProbe hi]
      simp only [record, openHandle]
      by_cases he : c = self ∧ j = i
      · obtain ⟨rfl, rfl⟩ := he
        rw [if_pos ⟨rfl, rfl⟩, if_pos ⟨rfl, rfl⟩]
        exact (if_pos hopen).symm
      · rw [if_neg he, if_neg fun he' => he ⟨he'.1.symm, he'.2.symm⟩]
        exact h.handles c j
    · rw [count_record, count_setProbe] at hj
      refine (h.snapshots c j hj).trans ?_
      rw [probe_record, probe_setProbe hi]
      split
      · rename_i he
        obtain ⟨rfl, rfl⟩ := he
        rfl
      · rfl
    · rw [probe_record, probe_setProbe hi]
      split
      · rename_i he
        obtain ⟨rfl, rfl⟩ := he
        exact h.spaced c j
      · exact h.spaced c j
    · rw [probe_record, probe_setProbe hi]
      split
      · exact fun _ => hopen
      · exact h.held c j

end Recorded

/-- A probe in flight has not ended. -/
theorem Lawful.openProbe_eq {log : List ProbeEvent} (h : Lawful log) {c i : ℕ} {probe : ProbePacket × Time}
    (hflight : inFlight c i log = some probe) : openProbe c i log = some probe := by
  induction log with
  | nil => cases hflight
  | cons e log ih =>
    have ih := ih h.tail
    cases e with
    | sent c' i' token pollTime =>
      have hopen : openProbe c' i' log = some (token, pollTime) := h.head
      simp only [inFlight] at hflight
      split at hflight
      · rename_i he
        obtain ⟨rfl, rfl⟩ := he
        exact hopen.trans hflight
      · exact ih hflight
    | attempted c' i' handle token pollTime =>
      have hnone : openProbe c' i' log = none := h.head.2.1
      have hopen := ih hflight
      refine (if_neg ?_).trans hopen
      rintro ⟨rfl, rfl⟩
      rw [hnone] at hopen
      cases hopen
    | completed c' i' target success =>
      simp only [inFlight] at hflight
      split at hflight
      · cases hflight
      · rename_i he
        exact (if_neg he).trans (ih hflight)
    | cancelled c' =>
      simp only [inFlight] at hflight
      split at hflight
      · cases hflight
      · rename_i he
        exact (if_neg he).trans (ih hflight)
    | _ => exact ih hflight

end L4lb.Health
