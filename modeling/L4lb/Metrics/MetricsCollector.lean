import L4lb.Config.Config
import L4lb.Net.Shared

/-!
# The collector of metrics

`MetricsCollector` adds up the events of the reactors. Its counters are 64 bits wide and stay at
the greatest value once they get there; the gauge of sessions is exact. For any events, a counter
is the sum of what was let in of its kind, cut off at that value, and the gauge is the sessions
created less those closed (`collector_arithmetic`).

## The model

* `MetricsSnapshot` — the counters, the gauge and the health of the backends.
* `MetricsCollector.recordStatEvent` — what the collector does with an event.
* `MetricsCollector.accepted` — the events it lets in, of those it is fed.

## The argument

`Sums` says of a snapshot that it is the sum of the events let in. One event keeps it
(`sums_recordStatEvent`), and so does any number of them (`sums_feed`).
-/

namespace L4lb.Metrics

open Net (StatKind StatEvent)

/-- `BackendHealth`. -/
inductive BackendHealth where
  /-- `kDisabled`. -/
  | disabled
  /-- `kUnknown`. -/
  | unknown
  /-- `kHealthy`. -/
  | healthy
  /-- `kUnhealthy`. -/
  | unhealthy
  deriving DecidableEq, Repr

/-- `BackendHealthSnapshot`. -/
structure BackendHealthSnapshot where
  /-- Its health. -/
  health : BackendHealth := .disabled
  /-- It can be picked. -/
  eligible : Bool := true
  deriving DecidableEq, Repr

/-- `MetricsSnapshot`. -/
structure MetricsSnapshot where
  /-- The protocol. -/
  protocol : Protocol := .tcp
  /-- The number of the line. -/
  seq : UInt64 := 0
  /-- The time since the start, in milliseconds. -/
  uptimeMs : UInt64 := 0
  /-- Sessions created. -/
  sessionsCreatedTotal : UInt64 := 0
  /-- Sessions closed. -/
  sessionsClosedTotal : UInt64 := 0
  /-- Sessions there are. -/
  sessionsActive : UInt64 := 0
  /-- Bytes to backends. -/
  bytesC2bTotal : UInt64 := 0
  /-- Bytes to clients. -/
  bytesB2cTotal : UInt64 := 0
  /-- Datagrams to backends. -/
  datagramsC2bTotal : UInt64 := 0
  /-- Datagrams to clients. -/
  datagramsB2cTotal : UInt64 := 0
  /-- What was turned away. -/
  rejectedTotal : UInt64 := 0
  /-- Datagrams dropped. -/
  droppedDatagramsTotal : UInt64 := 0
  /-- Errors. -/
  errorsTotal : UInt64 := 0
  /-- Timeouts. -/
  timeoutsTotal : UInt64 := 0
  /-- A counter has come to its end. -/
  counterSaturated : Bool := false
  /-- How many backends there are. -/
  backendCount : UInt64 := 0
  /-- The backends. -/
  backends : Vector BackendHealthSnapshot 256 := .replicate 256 {}
  deriving DecidableEq

/-- The greatest value of a counter. -/
def counterMax : UInt64 := UInt64.ofNat (2 ^ 64 - 1)

@[simp] theorem toNat_counterMax : counterMax.toNat = 18446744073709551615 := by decide

/-- `addSaturatingCounter`: the value, and the flag. -/
def addSaturatingCounter (value incrementAmount : UInt64) (saturated : Bool) : UInt64 × Bool :=
  if incrementAmount ≥ counterMax - value then (counterMax, true) else (value + incrementAmount, saturated)

/-- The sum, cut off at the greatest value, which raises the flag. -/
theorem addSaturatingCounter_eq (value incrementAmount : UInt64) (saturated : Bool) :
    (addSaturatingCounter value incrementAmount saturated).1.toNat =
        min 18446744073709551615 (value.toNat + incrementAmount.toNat) ∧
      (addSaturatingCounter value incrementAmount saturated).2 =
        (saturated || (addSaturatingCounter value incrementAmount saturated).1 = counterMax) := by
  have hvalue := value.toNat_lt
  have hle : value ≤ counterMax := UInt64.le_iff_toNat_le.mpr (by rw [toNat_counterMax]; omega)
  have hroom : (counterMax - value).toNat = 18446744073709551615 - value.toNat := by
    rw [UInt64.toNat_sub_of_le _ _ hle, toNat_counterMax]
  rw [addSaturatingCounter]
  by_cases h : incrementAmount ≥ counterMax - value
  · have hsum := UInt64.le_iff_toNat_le.mp h
    rw [if_pos h]
    exact ⟨by rw [toNat_counterMax]; omega, by simp⟩
  · have hsum : incrementAmount.toNat < (counterMax - value).toNat := UInt64.lt_iff_toNat_lt.mp (UInt64.not_le.mp h)
    have hadd : (value + incrementAmount).toNat = value.toNat + incrementAmount.toNat := by
      rw [UInt64.toNat_add]
      omega
    have hne : value + incrementAmount ≠ counterMax := by
      intro heq
      have := congrArg UInt64.toNat heq
      rw [hadd, toNat_counterMax] at this
      omega
    rw [if_neg h]
    exact ⟨by rw [hadd]; omega, by simp [hne]⟩

/-! ### The counters -/

namespace MetricsSnapshot

/-- The counter of a kind of events. -/
def counter (s : MetricsSnapshot) : StatKind → UInt64
  | .created => s.sessionsCreatedTotal
  | .closed => s.sessionsClosedTotal
  | .bytesC2b => s.bytesC2bTotal
  | .bytesB2c => s.bytesB2cTotal
  | .datagramC2b => s.datagramsC2bTotal
  | .datagramB2c => s.datagramsB2cTotal
  | .rejected => s.rejectedTotal
  | .dropped => s.droppedDatagramsTotal
  | .error => s.errorsTotal
  | .timeout => s.timeoutsTotal

/-- The snapshot with another value of it. -/
def setCounter (s : MetricsSnapshot) (kind : StatKind) (value : UInt64) : MetricsSnapshot :=
  match kind with
  | .created => { s with sessionsCreatedTotal := value }
  | .closed => { s with sessionsClosedTotal := value }
  | .bytesC2b => { s with bytesC2bTotal := value }
  | .bytesB2c => { s with bytesB2cTotal := value }
  | .datagramC2b => { s with datagramsC2bTotal := value }
  | .datagramB2c => { s with datagramsB2cTotal := value }
  | .rejected => { s with rejectedTotal := value }
  | .dropped => { s with droppedDatagramsTotal := value }
  | .error => { s with errorsTotal := value }
  | .timeout => { s with timeoutsTotal := value }

/-- The snapshot with what comes of `addSaturatingCounter`. -/
def store (s : MetricsSnapshot) (kind : StatKind) (added : UInt64 × Bool) : MetricsSnapshot :=
  { s.setCounter kind added.1 with counterSaturated := added.2 }

/-- `MetricsCollector::incrementCounter`, of the counter of `kind`. -/
def incrementCounter (s : MetricsSnapshot) (kind : StatKind) (incrementAmount : UInt64) : MetricsSnapshot :=
  s.store kind (addSaturatingCounter (s.counter kind) incrementAmount s.counterSaturated)

@[simp] theorem counter_active (s : MetricsSnapshot) (active : UInt64) (kind : StatKind) :
    { s with sessionsActive := active }.counter kind = s.counter kind := by
  cases kind <;> rfl

variable (s : MetricsSnapshot) (kind : StatKind) (added : UInt64 × Bool)

theorem counter_store (other : StatKind) :
    (s.store kind added).counter other = if other = kind then added.1 else s.counter other := by
  cases kind <;> cases other <;> rfl

@[simp] theorem counterSaturated_store : (s.store kind added).counterSaturated = added.2 := rfl

@[simp] theorem sessionsActive_store : (s.store kind added).sessionsActive = s.sessionsActive := by
  cases kind <;> rfl

@[simp] theorem protocol_store : (s.store kind added).protocol = s.protocol := by
  cases kind <;> rfl

end MetricsSnapshot

/-! ### The collector -/

/-- A `StatEvent` as the collector is given it. Its kind may be none of those there are. -/
structure RecordedEvent where
  /-- What is counted, if it is of a kind there is. -/
  kind : Option StatKind
  /-- How much of it. -/
  amount : UInt64 := 1
  deriving DecidableEq, Repr

/-- `MetricsCollector`. -/
structure MetricsCollector where
  /-- `data_`. -/
  data : MetricsSnapshot
  deriving DecidableEq

namespace MetricsCollector

/-- The constructor. -/
def construct (protocol : Protocol) (backendCount : UInt64) : Except String MetricsCollector :=
  if backendCount > 256 ∨ backendCount = 0 then .error "invalid metrics collector"
  else .ok { data := { protocol, backendCount } }

/-- What is counted without further ado. -/
def counted (c : MetricsCollector) (event : RecordedEvent) (kind : StatKind) : Bool × MetricsCollector :=
  (true, { c with data := c.data.incrementCounter kind event.amount })

/-- `MetricsCollector::recordStatEvent`. -/
def recordStatEvent (c : MetricsCollector) (event : RecordedEvent) : Bool × MetricsCollector :=
  match event.kind with
  | some .created =>
    if event.amount ≠ 1 ∨ c.data.sessionsActive ≥ 1024 then (false, c)
    else counted { c with data := { c.data with sessionsActive := c.data.sessionsActive + 1 } } event .created
  | some .closed =>
    if event.amount ≠ 1 ∨ c.data.sessionsActive = 0 then (false, c)
    else counted { c with data := { c.data with sessionsActive := c.data.sessionsActive - 1 } } event .closed
  | some .bytesC2b => counted c event .bytesC2b
  | some .bytesB2c => counted c event .bytesB2c
  | some .datagramC2b => if c.data.protocol ≠ .udp then (false, c) else counted c event .datagramC2b
  | some .datagramB2c => if c.data.protocol ≠ .udp then (false, c) else counted c event .datagramB2c
  | some .rejected => counted c event .rejected
  | some .dropped => if c.data.protocol ≠ .udp then (false, c) else counted c event .dropped
  | some .error => counted c event .error
  | some .timeout => counted c event .timeout
  | none => (false, c)

/-- The collector after events. -/
def feed (c : MetricsCollector) (events : List RecordedEvent) : MetricsCollector :=
  events.foldl (fun c event => (c.recordStatEvent event).2) c

/-- The events it lets in. -/
def accepted (c : MetricsCollector) : List RecordedEvent → List RecordedEvent
  | [] => []
  | event :: events =>
    if (c.recordStatEvent event).1 then event :: accepted (c.recordStatEvent event).2 events
    else accepted (c.recordStatEvent event).2 events

/-- Why an event is turned away. -/
def Rejects (c : MetricsCollector) (event : RecordedEvent) : Prop :=
  match event.kind with
  | some .created => event.amount ≠ 1 ∨ c.data.sessionsActive ≥ 1024
  | some .closed => event.amount ≠ 1 ∨ c.data.sessionsActive = 0
  | some .datagramC2b | some .datagramB2c | some .dropped => c.data.protocol ≠ .udp
  | some _ => False
  | none => True

variable {c c' : MetricsCollector} {event : RecordedEvent} {events : List RecordedEvent}

/-- What an accepted event does to the gauge. -/
def moveGauge (active : UInt64) : StatKind → UInt64
  | .created => active + 1
  | .closed => active - 1
  | _ => active

/-- **What an event does**: nothing if it is turned away, and otherwise it moves the gauge and its counter. -/
theorem recordStatEvent_cases (c : MetricsCollector) (event : RecordedEvent) :
    c.Rejects event ∧ c.recordStatEvent event = (false, c) ∨
      ∃ kind, event.kind = some kind ∧ ¬ c.Rejects event ∧ c.recordStatEvent event =
        (true, ⟨{ c.data with sessionsActive := moveGauge c.data.sessionsActive kind }.incrementCounter kind
          event.amount⟩) := by
  obtain ⟨kind, amount⟩ := event
  by_cases h : c.Rejects ⟨kind, amount⟩
  · refine .inl ⟨h, ?_⟩
    rcases kind with _ | kind
    · rfl
    · cases kind <;> first | exact h.elim | exact if_pos h
  · rcases kind with _ | kind
    · exact absurd trivial h
    · refine .inr ⟨kind, rfl, h, ?_⟩
      cases kind <;> first | rfl | exact if_neg h

/-! ### Sums -/

/-- How much there is of a kind in events. -/
def total (kind : StatKind) (events : List RecordedEvent) : ℕ :=
  (events.map fun event => if event.kind = some kind then event.amount.toNat else 0).sum

@[simp] theorem total_nil (kind : StatKind) : total kind [] = 0 := rfl

@[simp] theorem total_append (kind : StatKind) (events : List RecordedEvent) (event : RecordedEvent) :
    total kind (events ++ [event]) =
      total kind events + if event.kind = some kind then event.amount.toNat else 0 := by
  simp [total]

/-- The snapshot is the sum of the events that were let in. -/
structure Sums (events : List RecordedEvent) (s : MetricsSnapshot) : Prop where
  /-- Each counter, cut off. -/
  counter : ∀ kind, (s.counter kind).toNat = min 18446744073709551615 (total kind events)
  /-- The flag. -/
  saturated : s.counterSaturated = true ↔ ∃ kind, s.counter kind = counterMax
  /-- The gauge is in its bounds. -/
  active_le : s.sessionsActive.toNat ≤ 1024
  /-- It is what was created and not closed. -/
  active : total .created events = s.sessionsActive.toNat + total .closed events

/-- A new collector has counted nothing. -/
theorem sums_construct {protocol : Protocol} {backendCount : UInt64} (h : construct protocol backendCount = .ok c) :
    Sums [] c.data := by
  rw [construct] at h
  split at h
  · cases h
  · obtain rfl := Except.ok.inj h
    have hzero : ∀ kind, ({ protocol, backendCount } : MetricsSnapshot).counter kind = 0 := by
      intro kind
      cases kind <;> rfl
    refine ⟨fun kind => by simp [hzero], ?_, Nat.zero_le _, rfl⟩
    simp [hzero, show (0 : UInt64) ≠ counterMax by decide]

/-- The gauge after an event that is let in. -/
theorem toNat_moveGauge {kind : StatKind} (hkind : event.kind = some kind) (h : ¬ c.Rejects event)
    (hle : c.data.sessionsActive.toNat ≤ 1024) :
    (moveGauge c.data.sessionsActive kind).toNat ≤ 1024 ∧
      (moveGauge c.data.sessionsActive kind).toNat + (if kind = .closed then event.amount.toNat else 0) =
        c.data.sessionsActive.toNat + if kind = .created then event.amount.toNat else 0 := by
  unfold Rejects at h
  rw [hkind] at h
  cases kind
  case created =>
    obtain ⟨hamount, hactive⟩ := not_or.mp h
    have hactive : c.data.sessionsActive.toNat < 1024 := UInt64.lt_iff_toNat_lt.mp (UInt64.not_le.mp hactive)
    have hsucc : (c.data.sessionsActive + 1).toNat = c.data.sessionsActive.toNat + 1 := by
      rw [UInt64.toNat_add]
      simp
      omega
    simp [moveGauge, not_not.mp hamount, hsucc]
    omega
  case closed =>
    obtain ⟨hamount, hactive⟩ := not_or.mp h
    have hpos : 1 ≤ c.data.sessionsActive.toNat := by
      rcases Nat.eq_zero_or_pos c.data.sessionsActive.toNat with h0 | hpos
      · exact absurd (UInt64.toNat_inj.mp h0) hactive
      · exact hpos
    have hpred : (c.data.sessionsActive - 1).toNat = c.data.sessionsActive.toNat - 1 :=
      UInt64.toNat_sub_of_le _ _ (UInt64.le_iff_toNat_le.mpr hpos)
    simp [moveGauge, not_not.mp hamount, hpred]
    omega
  all_goals simpa [moveGauge] using hle

/-- **One event keeps the sums.** -/
theorem sums_recordStatEvent (h : Sums events c.data) (event : RecordedEvent) :
    Sums (events ++ if (c.recordStatEvent event).1 then [event] else []) (c.recordStatEvent event).2.data := by
  rcases recordStatEvent_cases c event with ⟨_, hrun⟩ | ⟨kind, hkind, hrejects, hrun⟩
  · simpa [hrun] using h
  · obtain ⟨hle, hgauge⟩ := toNat_moveGauge hkind hrejects h.active_le
    obtain ⟨hsum, hflag⟩ := addSaturatingCounter_eq (c.data.counter kind) event.amount c.data.counterSaturated
    have hstored : (c.recordStatEvent event).2.data =
        { c.data with sessionsActive := moveGauge c.data.sessionsActive kind }.store kind
          (addSaturatingCounter (c.data.counter kind) event.amount c.data.counterSaturated) := by
      rw [hrun, MetricsSnapshot.incrementCounter, MetricsSnapshot.counter_active]
    generalize addSaturatingCounter _ _ _ = added at hsum hflag hstored
    rw [hstored, show (c.recordStatEvent event).1 = true by rw [hrun], if_pos rfl]
    refine ⟨fun other => ?_, ?_, ?_, ?_⟩
    · rw [MetricsSnapshot.counter_store, total_append, hkind]
      by_cases hother : other = kind
      · subst hother
        rw [if_pos rfl, if_pos rfl, hsum, h.counter]
        omega
      · rw [if_neg hother, if_neg fun heq => hother (Option.some.inj heq).symm, Nat.add_zero]
        exact MetricsSnapshot.counter_active _ _ _ ▸ h.counter other
    · rw [MetricsSnapshot.counterSaturated_store, hflag]
      simp only [MetricsSnapshot.counter_store, MetricsSnapshot.counter_active, Bool.or_eq_true, decide_eq_true_eq,
        h.saturated]
      constructor
      · intro hmax
        obtain ⟨other, hother⟩ | hadded := hmax
        · refine ⟨other, ?_⟩
          split
          next heq =>
            -- a counter at its end stays there
            subst heq
            apply UInt64.toNat_inj.mp
            rw [hsum, hother, toNat_counterMax]
            omega
          next => exact hother
        · exact ⟨kind, by rw [if_pos rfl, hadded]⟩
      · intro hmax
        obtain ⟨other, hother⟩ := hmax
        split at hother
        · exact .inr hother
        · exact .inl ⟨other, hother⟩
    · rw [MetricsSnapshot.sessionsActive_store]
      exact hle
    · rw [MetricsSnapshot.sessionsActive_store, total_append, total_append, hkind]
      have hactive := h.active
      simp only [Option.some.injEq]
      omega

/-- **Any number of events keeps them.** -/
theorem sums_feed (h : Sums events c.data) (fed : List RecordedEvent) :
    Sums (events ++ c.accepted fed) (c.feed fed).data := by
  induction fed generalizing c events with
  | nil => simpa [accepted, feed] using h
  | cons event fed ih =>
    have hstep := sums_recordStatEvent h event
    have hrest := ih hstep
    rw [List.append_assoc] at hrest
    show Sums _ (feed (c.recordStatEvent event).2 fed).data
    rw [accepted]
    by_cases haccepted : (c.recordStatEvent event).1 = true
    · rw [if_pos haccepted] at hrest ⊢
      exact hrest
    · rw [if_neg haccepted] at hrest ⊢
      exact hrest

theorem recordStatEvent_rejects (c : MetricsCollector) (event : RecordedEvent) :
    ((c.recordStatEvent event).1 = false ↔ c.Rejects event) ∧
      ((c.recordStatEvent event).1 = false → (c.recordStatEvent event).2 = c) := by
  rcases recordStatEvent_cases c event with ⟨hrejects, hrun⟩ | ⟨_, _, hrejects, hrun⟩
  · simp [hrun, hrejects]
  · simp [hrun, hrejects]

end MetricsCollector

open MetricsCollector

/-- **The collector's arithmetic.** Whatever a new collector is fed, of either protocol: each counter is the sum of what
was let in of its kind, cut off at the greatest value; the flag is raised exactly while a counter is at that value; the
gauge is in `0..1024` and is the sessions created and not closed, which the counters say too while neither is cut off.
An event is turned away for the reasons of `Rejects` and for no other, and then nothing changes. -/
theorem collector_arithmetic {protocol : Protocol} {backendCount : UInt64} {c : MetricsCollector}
    (h : construct protocol backendCount = .ok c) (fed : List RecordedEvent) :
    (∀ kind, ((c.feed fed).data.counter kind).toNat = min (2 ^ 64 - 1) (total kind (c.accepted fed))) ∧
      ((c.feed fed).data.counterSaturated = true ↔ ∃ kind, ((c.feed fed).data.counter kind).toNat = 2 ^ 64 - 1) ∧
      (c.feed fed).data.sessionsActive.toNat ≤ 1024 ∧
      total .created (c.accepted fed) = (c.feed fed).data.sessionsActive.toNat + total .closed (c.accepted fed) ∧
      ((c.feed fed).data.sessionsCreatedTotal ≠ counterMax → (c.feed fed).data.sessionsClosedTotal ≠ counterMax →
        (c.feed fed).data.sessionsCreatedTotal.toNat =
          (c.feed fed).data.sessionsActive.toNat + (c.feed fed).data.sessionsClosedTotal.toNat) ∧
      ∀ event, (((c.feed fed).recordStatEvent event).1 = false ↔ (c.feed fed).Rejects event) ∧
        (((c.feed fed).recordStatEvent event).1 = false → ((c.feed fed).recordStatEvent event).2 = c.feed fed) := by
  have hsums := sums_feed (sums_construct h) fed
  rw [List.nil_append] at hsums
  refine ⟨hsums.counter, ?_, hsums.active_le, hsums.active, fun hcreated hclosed => ?_,
    (c.feed fed).recordStatEvent_rejects⟩
  · rw [hsums.saturated]
    simp only [← UInt64.toNat_inj, toNat_counterMax]
    rfl
  · have hcreatedSum := hsums.counter .created
    have hclosedSum := hsums.counter .closed
    have hne : ∀ {value : UInt64}, value ≠ counterMax → value.toNat ≠ 18446744073709551615 := by
      intro value hvalue heq
      exact hvalue (UInt64.toNat_inj.mp (heq.trans toNat_counterMax.symm))
    have := hne hcreated
    have := hne hclosed
    have := hsums.active
    simp only [MetricsSnapshot.counter] at hcreatedSum hclosedSum
    omega

/-- A UDP collector: a close too many, a session, as many bytes as can be, and a session that counts double. -/
theorem collector_arithmetic_udp :
    let c : MetricsCollector := ⟨{ protocol := .udp, backendCount := 2 }⟩
    let fed : List RecordedEvent :=
      [⟨some .closed, 1⟩, ⟨some .created, 1⟩, ⟨some .bytesC2b, counterMax⟩, ⟨some .created, 2⟩]
    c.accepted fed = [⟨some .created, 1⟩, ⟨some .bytesC2b, counterMax⟩] ∧
      ∀ kind, ((c.feed fed).data.counter kind).toNat = min (2 ^ 64 - 1) (total kind (c.accepted fed)) :=
  ⟨by decide, (collector_arithmetic (show construct .udp 2 = .ok _ from rfl) _).1⟩

end L4lb.Metrics
