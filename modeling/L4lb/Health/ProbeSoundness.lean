import L4lb.Health.ProbeSteps

/-!
# Only the echo of a probe completes it

Any number of checkers, constructed, polled and destroyed in any order, share one
nonce sequence; any datagram may arrive at any socket at any time. A probe is
completed as a success exactly when the reply just read, in time, is the token that
was sent for that very probe; and since no token is made twice, no reply to one probe
ever completes another.

## The argument

`inFlight` reads from the history which probe of a target is in flight. The invariant
`Sound` says that this is what the checkers hold, that a success comes exactly after
an echo (`SuccessIff`), and that the tokens made so far are those of distinct numbers
up to the last.
-/

namespace L4lb.Health

open Effect Prog Relation ProbeProcess

/-! ### What the history says -/

/-- The probe of target `i` of checker `c` that is in flight: its token, and the time
of the poll that sent it. -/
def inFlight (c i : ℕ) : List ProbeEvent → Option (ProbePacket × Time)
  | [] => none
  | .sent c' i' token pollTime :: log =>
    if c' = c ∧ i' = i then some (token, pollTime) else inFlight c i log
  | .completed c' i' _ _ :: log => if c' = c ∧ i' = i then none else inFlight c i log
  | .cancelled c' :: log => if c' = c then none else inFlight c i log
  | _ :: log => inFlight c i log

/-- The last thing that happened is that the echo of the probe in flight was read in
time. -/
def JustEchoed (c i : ℕ) (log : List ProbeEvent) : Prop :=
  ∃ payload t before token pollTime, log = .received c i payload t :: before ∧
    inFlight c i before = some (token, pollTime) ∧ payload.length = 24 ∧
    payload = token.toList ∧ t < pollTime + kTimeout

/-- At every moment of the history: the next thing is a success of a probe if and only
if its echo has just been read. -/
def SuccessIff (log : List ProbeEvent) : Prop :=
  ∀ c i before, (∃ target, .completed c i target true :: before <:+ log) ↔
    JustEchoed c i before ∧ before <:+ log

/-- The tokens made, the last first. -/
def generatedTokens (log : List ProbeEvent) : List ProbePacket :=
  log.filterMap fun
    | .generated token => some token
    | _ => none

/-- The probes sent, the last first: token, checker, target and time. -/
def sentProbes (log : List ProbeEvent) : List (ProbePacket × ℕ × ℕ × Time) :=
  log.filterMap fun
    | .sent c i token pollTime => some (token, c, i, pollTime)
    | _ => none

theorem not_justEchoed_nil (c i : ℕ) : ¬ JustEchoed c i [] := by
  rintro ⟨_, _, _, _, _, h, -⟩
  cases h

theorem successIff_nil : SuccessIff [] := by
  intro c i before
  constructor
  · rintro ⟨target, h⟩
    exact absurd (List.suffix_nil.mp h) (List.cons_ne_nil _ _)
  · rintro ⟨he, h⟩
    rw [List.suffix_nil.mp h] at he
    exact absurd he (not_justEchoed_nil c i)

/-- An event that is no success and no echo. -/
theorem SuccessIff.cons {log : List ProbeEvent} (h : SuccessIff log) {e : ProbeEvent}
    (hs : ∀ c i target, e ≠ .completed c i target true)
    (he : ∀ c i, ¬ JustEchoed c i (e :: log)) : SuccessIff (e :: log) := by
  intro c i before
  constructor
  · rintro ⟨target, hb⟩
    rcases List.suffix_cons_iff.mp hb with heq | hb
    · exact absurd (List.cons.inj heq).1.symm (hs c i target)
    · obtain ⟨hj, hb'⟩ := (h c i before).mp ⟨target, hb⟩
      exact ⟨hj, hb'.trans (List.suffix_cons e log)⟩
  · rintro ⟨hj, hb⟩
    rcases List.suffix_cons_iff.mp hb with rfl | hb
    · exact absurd hj (he c i)
    · obtain ⟨target, hb'⟩ := (h c i before).mpr ⟨hj, hb⟩
      exact ⟨target, hb'.trans (List.suffix_cons e log)⟩

/-- An echo and the success it brings. -/
theorem SuccessIff.succeed {log : List ProbeEvent} (h : SuccessIff log) {c i : ℕ} {payload : Bytes}
    {t : Time} (target : ProbeTarget) (he : JustEchoed c i (.received c i payload t :: log)) :
    SuccessIff (.completed c i target true :: .received c i payload t :: log) := by
  intro c' i' before
  constructor
  · rintro ⟨target', hb⟩
    rcases List.suffix_cons_iff.mp hb with heq | hb
    · obtain ⟨hev, rfl⟩ := List.cons.inj heq
      obtain ⟨rfl, rfl, -⟩ := ProbeEvent.completed.inj hev
      exact ⟨he, List.suffix_cons _ _⟩
    · rcases List.suffix_cons_iff.mp hb with heq | hb
      · cases (List.cons.inj heq).1
      · obtain ⟨hj, hb'⟩ := (h c' i' before).mp ⟨target', hb⟩
        exact ⟨hj, hb'.trans ((List.suffix_cons _ _).trans (List.suffix_cons _ _))⟩
  · rintro ⟨hj, hb⟩
    rcases List.suffix_cons_iff.mp hb with rfl | hb
    · obtain ⟨_, _, _, _, _, heq, -⟩ := hj
      cases (List.cons.inj heq).1
    rcases List.suffix_cons_iff.mp hb with rfl | hb
    · obtain ⟨_, _, _, _, _, heq, -⟩ := hj
      obtain ⟨rfl, rfl, -⟩ := ProbeEvent.received.inj (List.cons.inj heq).1
      exact ⟨target, List.suffix_rfl⟩
    · obtain ⟨target', hb'⟩ := (h c' i' before).mpr ⟨hj, hb⟩
      exact ⟨target', hb'.trans ((List.suffix_cons _ _).trans (List.suffix_cons _ _))⟩

/-- Only a datagram that was read can be an echo. -/
theorem not_justEchoed_cons {e : ProbeEvent} (h : ∀ c i payload t, e ≠ .received c i payload t)
    (c i : ℕ) (log : List ProbeEvent) : ¬ JustEchoed c i (e :: log) := by
  rintro ⟨payload, t, _, _, _, heq, -⟩
  exact h c i payload t (List.cons.inj heq).1

/-- An event that is neither a datagram nor a success. -/
theorem SuccessIff.cons_other {log : List ProbeEvent} (h : SuccessIff log) {e : ProbeEvent}
    (hs : ∀ c i target, e ≠ .completed c i target true)
    (hr : ∀ c i payload t, e ≠ .received c i payload t) : SuccessIff (e :: log) :=
  h.cons hs fun c i => not_justEchoed_cons hr c i log

theorem SuccessIff.setup {log : List ProbeEvent} (h : SuccessIff log) {events : List ProbeEvent}
    (hall : ∀ e ∈ events, e.IsSetup) : SuccessIff (events ++ log) := by
  induction events with
  | nil => exact h
  | cons e events ih =>
    have he := hall e List.mem_cons_self
    refine (ih fun e' h' => hall e' (List.mem_cons_of_mem e h')).cons_other ?_ ?_
    · rintro c i target rfl
      exact he
    · rintro c i payload t rfl
      exact he

/-! ### Tokens of different numbers differ -/

theorem bigEndian_getElem (x : UInt64) (k : ℕ) (hk : k < 8) :
    (bigEndian x)[k].toNat = x.toNat / 2 ^ (56 - 8 * k) % 256 := by
  have hshift : ∀ k < 8, (56 - 8 * k.toUInt64 : UInt64).toNat % 64 = 56 - 8 * k := by decide
  have hs := hshift k hk
  simp only [bigEndian, Vector.getElem_ofFn, UInt64.toNat_toUInt8, UInt64.toNat_shiftRight, hs,
    Nat.shiftRight_eq_div_pow]

theorem bigEndian_injective : Function.Injective bigEndian := by
  intro x y h
  have hbyte : ∀ k, k < 8 → x.toNat / 2 ^ (56 - 8 * k) % 256 = y.toNat / 2 ^ (56 - 8 * k) % 256 := by
    intro k hk
    rw [← bigEndian_getElem x k hk, ← bigEndian_getElem y k hk, h]
  have h0 := hbyte 0 (by decide)
  have h1 := hbyte 1 (by decide)
  have h2 := hbyte 2 (by decide)
  have h3 := hbyte 3 (by decide)
  have h4 := hbyte 4 (by decide)
  have h5 := hbyte 5 (by decide)
  have h6 := hbyte 6 (by decide)
  have h7 := hbyte 7 (by decide)
  have hx := x.toNat_lt
  have hy := y.toNat_lt
  simp only [Nat.reduceMul, Nat.reduceSub, Nat.reducePow] at *
  apply UInt64.toNat_inj.mp
  omega

theorem encodeProbePacket_inj {epoch a b : UInt64}
    (h : encodeProbePacket epoch a = encodeProbePacket epoch b) : a = b := by
  have hl := congrArg Vector.toList h
  simp only [encodeProbePacket, Vector.toList_append] at hl
  exact bigEndian_injective (Vector.toList_inj.mp (List.append_cancel_left hl))

/-- No token is made twice: those made are of distinct numbers up to the last, and a
probe was sent with the token just made. -/
structure TokensUnique (nonceSource : ProbeNonceSequence) (log : List ProbeEvent) : Prop where
  /-- A token is that of a number up to the last. -/
  numbered : ∀ token ∈ generatedTokens log, ∃ k ≤ nonceSource.lastSequence,
    token = encodeProbePacket nonceSource.epoch k
  /-- The tokens made differ. -/
  nodup : (generatedTokens log).Nodup
  /-- At every moment, the probes sent so far have tokens made so far, each its own. -/
  sent : ∀ l, l <:+ log → ((sentProbes l).map (·.1)).Sublist (generatedTokens l)

theorem tokensUnique_nil (nonceSource : ProbeNonceSequence) : TokensUnique nonceSource [] :=
  ⟨fun _ h => absurd h List.not_mem_nil, List.nodup_nil, fun l h => by
    rw [List.suffix_nil.mp h]
    exact .slnil⟩

/-- An event that makes no token and sends no probe. -/
theorem TokensUnique.cons_other {nonceSource : ProbeNonceSequence} {log : List ProbeEvent}
    (h : TokensUnique nonceSource log) {e : ProbeEvent} (hg : ∀ token, e ≠ .generated token)
    (hs : ∀ c i token t, e ≠ .sent c i token t) : TokensUnique nonceSource (e :: log) := by
  have hgen : generatedTokens (e :: log) = generatedTokens log := by
    cases e <;> first | rfl | exact absurd rfl (hg _)
  have hsent : sentProbes (e :: log) = sentProbes log := by
    cases e <;> first | rfl | exact absurd rfl (hs _ _ _ _)
  refine ⟨hgen ▸ h.numbered, hgen ▸ h.nodup, fun l hl => ?_⟩
  rcases List.suffix_cons_iff.mp hl with rfl | hl
  · rw [hgen, hsent]
    exact h.sent log List.suffix_rfl
  · exact h.sent l hl

/-- The next token is a new one. -/
theorem TokensUnique.generate {nonceSource nonceSource' : ProbeNonceSequence}
    {log : List ProbeEvent} (h : TokensUnique nonceSource log) {token : ProbePacket}
    (hnew : nonceSource.generateProbePacket = some (token, nonceSource')) :
    TokensUnique nonceSource' (.generated token :: log) := by
  unfold ProbeNonceSequence.generateProbePacket at hnew
  split at hnew
  · cases hnew
  rename_i hmax
  simp only [Option.some.injEq, Prod.mk.injEq] at hnew
  obtain ⟨rfl, rfl⟩ := hnew
  have hlt : nonceSource.lastSequence < nonceSource.lastSequence + 1 := by
    rw [UInt64.lt_iff_toNat_lt, UInt64.toNat_add]
    have hne : nonceSource.lastSequence.toNat ≠ 18446744073709551615 := fun h =>
      hmax (UInt64.toNat_inj.mp h)
    have := nonceSource.lastSequence.toNat_lt
    simp only [UInt64.reduceToNat]
    omega
  refine ⟨fun t ht => ?_, ?_, fun l hl => ?_⟩
  · rcases List.mem_cons.mp ht with rfl | ht
    · exact ⟨_, UInt64.le_refl _, rfl⟩
    · obtain ⟨k, hk, rfl⟩ := h.numbered t ht
      exact ⟨k, UInt64.le_trans hk (UInt64.le_of_lt hlt), rfl⟩
  · refine List.nodup_cons.mpr ⟨fun ht => ?_, h.nodup⟩
    obtain ⟨k, hk, he⟩ := h.numbered _ ht
    rw [← encodeProbePacket_inj he] at hk
    exact UInt64.not_lt.mpr hk hlt
  · rcases List.suffix_cons_iff.mp hl with rfl | hl
    · exact (h.sent log List.suffix_rfl).cons _
    · exact h.sent l hl

/-- A probe is sent with the token just made. -/
theorem TokensUnique.launch {nonceSource : ProbeNonceSequence} {log log' : List ProbeEvent} {c i : ℕ}
    {handle : ℤ} {token : ProbePacket} {t : Time} (h : TokensUnique nonceSource log)
    (hnew : log = .attempted c i handle token t :: .generated token :: log') :
    TokensUnique nonceSource (.sent c i token t :: log) := by
  subst hnew
  refine ⟨h.numbered, h.nodup, fun l hl => ?_⟩
  rcases List.suffix_cons_iff.mp hl with rfl | hl
  · exact (h.sent log' ((List.suffix_cons _ _).trans (List.suffix_cons _ _))).cons_cons _
  · exact h.sent l hl

theorem TokensUnique.setup {nonceSource : ProbeNonceSequence} {log : List ProbeEvent}
    (h : TokensUnique nonceSource log) {events : List ProbeEvent}
    (hall : ∀ e ∈ events, e.IsSetup) : TokensUnique nonceSource (events ++ log) := by
  induction events with
  | nil => exact h
  | cons e events ih =>
    have he := hall e List.mem_cons_self
    refine (ih fun e' h' => hall e' (List.mem_cons_of_mem e h')).cons_other ?_ ?_
    · rintro token rfl
      exact he
    · rintro c i token t rfl
      exact he

/-! ### The probes in flight -/

/-- The probe in flight, as the checker knows it. -/
def Probe.flight (probe : Probe) : Option (ProbePacket × Time) :=
  if probe.awaitingReply then some (probe.token, probe.probeDeadline - kTimeout) else none

theorem Probe.flight_idle {probe : Probe} (h : probe.awaitingReply = false) : probe.flight = none := by
  simp [flight, h]

@[simp] theorem Probe.flight_default : (default : Probe).flight = none := rfl

@[simp] theorem Probe.flight_complete (probe : Probe) (success : Bool) :
    (probe.complete success).flight = none := rfl

@[simp] theorem Probe.flight_cancel (probe : Probe) : probe.cancel.flight = none := rfl

/-- What happened is what the checkers hold. -/
def FlightAgrees (s : ProbeProcess) : Prop :=
  ∀ c i, inFlight c i s.log = (s.probe c i).flight

theorem inFlight_closed {events : List ProbeEvent} (c i : ℕ) (log : List ProbeEvent)
    (hall : ∀ e ∈ events, ∃ c' i' handle, e = .closed c' i' handle) :
    inFlight c i (events ++ log) = inFlight c i log := by
  induction events with
  | nil => rfl
  | cons e events ih =>
    obtain ⟨c', i', handle, rfl⟩ := hall e List.mem_cons_self
    exact ih fun e' h' => hall e' (List.mem_cons_of_mem _ h')

theorem inFlight_note {e : ProbeEvent} (he : e.IsNote) (c i : ℕ) (log : List ProbeEvent) :
    inFlight c i (e :: log) = inFlight c i log := by
  cases e <;> first | rfl | exact he.elim

/-- A probe is replaced by one that is in flight as the history says. -/
theorem FlightAgrees.set {s s' : ProbeProcess} {c i : ℕ} {p : Probe} (h : FlightAgrees s)
    (hi : i < s.count c) (hs : ∀ c' i', s'.probe c' i' = (s.setProbe c i p).probe c' i')
    (hp : inFlight c i s'.log = p.flight)
    (hlog : ∀ c' i', c' ≠ c ∨ i' ≠ i → inFlight c' i' s'.log = inFlight c' i' s.log) :
    FlightAgrees s' := by
  intro c' i'
  rw [hs]
  by_cases he : c' = c ∧ i' = i
  · obtain ⟨rfl, rfl⟩ := he
    rw [probe_setProbe_self hi, hp]
  · have hne : c' ≠ c ∨ i' ≠ i := not_and_or.mp he
    rw [probe_setProbe_ne hne, hlog _ _ hne]
    exact h c' i'

theorem probe_cancel (s : ProbeProcess) (self c i : ℕ) :
    (s.cancel self).probe c i = if c = self then ((s.checkers self).probes.map Probe.cancel)[i]?.getD default
      else s.probe c i := by
  by_cases h : c = self
  · subst h
    simp [ProbeProcess.cancel, ProbeProcess.probe, setChecker]
  · simp [ProbeProcess.cancel, ProbeProcess.probe, setChecker, h]

theorem FlightAgrees.cancel {s : ProbeProcess} (h : FlightAgrees s) (self : ℕ) :
    FlightAgrees (s.cancel self) := by
  intro c i
  have hlog : inFlight c i (s.cancel self).log = if self = c then none else inFlight c i s.log := by
    simp only [ProbeProcess.cancel, inFlight, List.cons_append]
    rw [inFlight_closed]
    intro e he
    obtain ⟨p, -, rfl⟩ := List.mem_map.mp he
    exact ⟨_, _, _, rfl⟩
  rw [hlog, probe_cancel]
  by_cases hc : self = c
  · subst hc
    rw [if_pos rfl, if_pos rfl]
    cases hp : ((s.checkers self).probes.map Probe.cancel)[i]? with
    | none => rfl
    | some p =>
      obtain ⟨q, -, rfl⟩ := List.mem_map.mp (List.mem_of_getElem? hp)
      rfl
  · rw [if_neg hc, if_neg (Ne.symm hc)]
    exact h c i

theorem FlightAgrees.complete {s : ProbeProcess} {self i : ℕ} (h : FlightAgrees s)
    (hi : i < s.count self) (success : Bool) (reason : String) (error : Errno) :
    FlightAgrees (s.complete self i success reason error) := by
  refine h.set hi (fun _ _ => rfl) (p := (s.probe self i).complete success) ?_ fun c' i' hne => ?_
  · simp [ProbeProcess.complete, inFlight]
  · have he : ¬ (self = c' ∧ i = i') := fun he => hne.elim (fun h => h he.1.symm) fun h => h he.2.symm
    simp only [ProbeProcess.complete, inFlight, if_neg he]

theorem FlightAgrees.received {s : ProbeProcess} (h : FlightAgrees s) (c i : ℕ) (payload : Bytes)
    (t : Time) : FlightAgrees (s.record (.received c i payload t)) := h

theorem ProbeStep.flightAgrees {self : ℕ} {s s' : ProbeProcess} (hstep : ProbeStep self s s')
    (h : FlightAgrees s) : FlightAgrees s' := by
  cases hstep with
  | quiet hq =>
    intro c i
    rw [hq.log, hq.probe]
    exact h c i
  | note he =>
    intro c i
    rw [record, inFlight_note he]
    exact h c i
  | @generate i pollTime token nonceSource hi hidle hnew =>
    refine h.set hi (fun _ _ => rfl) ?_ fun _ _ _ => rfl
    have hidle' : ((s.probe self i).prepare token pollTime).awaitingReply = false := hidle
    exact (h self i).trans ((Probe.flight_idle hidle).trans (Probe.flight_idle hidle').symm)
  | @launch i handle pollTime log hi hidle hnew hdeadline =>
    refine h.set hi (fun _ _ => rfl) (p := { s.probe self i with awaitingReply := true }) ?_
      fun c' i' hne => ?_
    · simp [record, inFlight, Probe.flight, hdeadline]
    · have he : ¬ (self = c' ∧ i = i') := fun he => hne.elim (fun h => h he.1.symm) fun h => h he.2.symm
      exact if_neg he
  | ignore => exact h
  | succeed hflight _ _ => exact (h.received _ _ _ _).complete (lt_of_awaiting hflight) _ _ _
  | late hflight _ => exact (h.received _ _ _ _).complete (lt_of_awaiting hflight) _ _ _
  | fail hi => exact h.complete hi _ _ _
  | cancel => exact h.cancel self

/-- A checker not yet constructed has no probes. -/
def Fresh (s : ProbeProcess) : Prop := ∀ c, s.nextChecker ≤ c → (s.checkers c).probes = []

theorem count_of_fresh {s : ProbeProcess} (h : Fresh s) {c : ℕ} (hc : s.nextChecker ≤ c) :
    s.count c = 0 := by
  simp [ProbeProcess.count, h c hc]

theorem BuildStep.flightAgrees {self : ℕ} {s s' : ProbeProcess} (hstep : BuildStep self s s')
    (h : FlightAgrees s) (hfresh : Fresh s) : FlightAgrees s' := by
  cases hstep with
  | start hself =>
    intro c i
    refine (h c i).trans ?_
    by_cases hc : c = self
    · subst hc
      rw [probe_of_le (by rw [count_of_fresh hfresh hself.le]; exact Nat.zero_le i)]
      simp [ProbeProcess.probe, setChecker]
    · simp [ProbeProcess.probe, setChecker, hc]
  | @enroll snapshot _ =>
    intro c i
    refine (h c i).trans ?_
    by_cases hc : c = self
    · subst hc
      simp only [ProbeProcess.probe, ProbeProcess.enroll, record, setChecker_self]
      rcases Nat.lt_trichotomy i (s.checkers c).probes.length with hi | rfl | hi
      · rw [List.getElem?_append_left hi]
      · rw [List.getElem?_concat_length, List.getElem?_eq_none le_rfl]
        rfl
      · rw [List.getElem?_eq_none hi.le, List.getElem?_eq_none]
        rw [List.length_append, List.length_singleton]
        exact hi
    · simp [ProbeProcess.probe, ProbeProcess.enroll, record, setChecker, hc]
  | @«open» i handle =>
    have hset : FlightAgrees (s.setProbe self i { s.probe self i with handle }) := by
      by_cases hi : i < s.count self
      · exact h.set hi (fun _ _ => rfl) (h self i) fun _ _ _ => rfl
      · intro c' i'
        refine (h c' i').trans ?_
        by_cases hc : c' = self
        · subst hc
          have hlen : (s.checkers c').probes.length ≤ i := Nat.le_of_not_lt hi
          simp [ProbeProcess.probe, setProbe, List.set_eq_of_length_le hlen]
        · rw [probe_setProbe_ne (Or.inl hc)]
    unfold ProbeProcess.opened
    split
    · exact hset
    · exact hset
  | cancel => exact h.cancel self
  | configured => exact h

/-- A step that gives no probe to a checker that has none. -/
theorem Fresh.of_empty {s s' : ProbeProcess} (h : Fresh s) (hn : s'.nextChecker = s.nextChecker)
    (hp : ∀ c, (s.checkers c).probes = [] → (s'.checkers c).probes = []) : Fresh s' :=
  fun c hc => hp c (h c (hn ▸ hc))

theorem setProbe_empty {s : ProbeProcess} (self i : ℕ) (p : Probe) (c : ℕ)
    (h : (s.checkers c).probes = []) : ((s.setProbe self i p).checkers c).probes = [] := by
  by_cases hc : c = self
  · subst hc
    simp [setProbe, h]
  · rw [setProbe, setChecker_others hc]
    exact h

theorem cancel_empty {s : ProbeProcess} (self c : ℕ) (h : (s.checkers c).probes = []) :
    ((s.cancel self).checkers c).probes = [] := by
  by_cases hc : c = self
  · subst hc
    simp [ProbeProcess.cancel, setChecker, h]
  · simp [ProbeProcess.cancel, setChecker, hc, h]

theorem ProbeStep.fresh {self : ℕ} {s s' : ProbeProcess} (hstep : ProbeStep self s s')
    (h : Fresh s) : Fresh s' := by
  cases hstep with
  | quiet hq => exact h.of_empty hq.nextChecker fun c hc => (hq.probes c).trans hc
  | note => exact h
  | generate => exact h.of_empty rfl (setProbe_empty self _ _)
  | launch => exact h.of_empty rfl (setProbe_empty self _ _)
  | ignore => exact h
  | succeed => exact h.of_empty rfl (setProbe_empty self _ _)
  | late => exact h.of_empty rfl (setProbe_empty self _ _)
  | fail => exact h.of_empty rfl (setProbe_empty self _ _)
  | cancel => exact h.of_empty rfl (cancel_empty self)

theorem BuildStep.fresh {self : ℕ} {s s' : ProbeProcess} (hstep : BuildStep self s s')
    (h : Fresh s) : Fresh s' := by
  cases hstep with
  | start hself =>
    intro c hc
    have hlt : self < c := hc
    simp [setChecker, hlt.ne', h c (by omega)]
  | enroll hlt =>
    intro c hc
    have hle : s.nextChecker ≤ c := hc
    have hne : c ≠ self := by omega
    rw [(built_enroll s self _).others c hne]
    exact h c hle
  | «open» =>
    unfold ProbeProcess.opened
    split
    · exact h.of_empty rfl (setProbe_empty self _ _)
    · exact h.of_empty rfl (setProbe_empty self _ _)
  | cancel => exact h.of_empty rfl (cancel_empty self)
  | configured => exact h

/-! ### The invariant -/

/-- What holds at every point of a run of a process of checkers. -/
structure Sound (s : ProbeProcess) : Prop where
  /-- A success comes exactly after an echo. -/
  success : SuccessIff s.log
  /-- No token is made twice. -/
  tokens : TokensUnique s.nonceSource s.log
  /-- The probes in flight are those the checkers hold. -/
  flight : FlightAgrees s
  /-- Checkers come in order. -/
  fresh : Fresh s
  /-- A reply is turned down only at a completion time before that of its poll. -/
  rewound : ∀ c i payload t pollTime, .rewound c i payload t pollTime ∈ s.log → t < pollTime

/-- A step turns a reply down only at a completion time before that of its poll. -/
theorem ProbeStep.rewound {self : ℕ} {s s' : ProbeProcess} (hstep : ProbeStep self s s')
    {c i : ℕ} {payload : Option Bytes} {t pollTime : Time} (hm : .rewound c i payload t pollTime ∈ s'.log) :
    .rewound c i payload t pollTime ∈ s.log ∨ t < pollTime := by
  cases hstep with
  | quiet hq => exact Or.inl (hq.log ▸ hm)
  | note he =>
    rcases List.mem_cons.mp hm with rfl | hm
    · exact Or.inr he
    · exact Or.inl hm
  | cancel =>
    obtain ⟨events, hlog, hall⟩ := cancel_log s self
    rw [hlog, List.mem_append] at hm
    exact Or.inl (hm.resolve_left fun hm => hall _ hm)
  | _ => exact Or.inl (by simpa [record, setProbe, setChecker, ProbeProcess.complete] using hm)

theorem BuildStep.rewound {self : ℕ} {s s' : ProbeProcess} (hstep : BuildStep self s s')
    {c i : ℕ} {payload : Option Bytes} {t pollTime : Time} (hm : .rewound c i payload t pollTime ∈ s'.log) :
    .rewound c i payload t pollTime ∈ s.log := by
  rcases hstep.log with ⟨targets, hlog⟩ | ⟨events, hlog, hall⟩
  · rw [hlog] at hm
    exact (List.mem_cons.mp hm).resolve_left fun he => nomatch he
  · rw [hlog, List.mem_append] at hm
    exact hm.resolve_left fun hm => hall _ hm

theorem ProbeStep.tokens {self : ℕ} {s s' : ProbeProcess} (hstep : ProbeStep self s s')
    (h : TokensUnique s.nonceSource s.log) : TokensUnique s'.nonceSource s'.log := by
  cases hstep with
  | quiet hq => rwa [hq.nonceSource, hq.log]
  | @note e he =>
    refine h.cons_other ?_ ?_
    · rintro token rfl
      exact he
    · rintro c i token t rfl
      exact he
  | generate _ _ hnew => exact (h.generate hnew).cons_other (fun _ he => nomatch he) fun _ _ _ _ he => nomatch he
  | launch _ _ hnew _ =>
    exact h.launch hnew
  | ignore => exact h.cons_other (fun _ he => nomatch he) fun _ _ _ _ he => nomatch he
  | succeed | late =>
    refine TokensUnique.cons_other (TokensUnique.cons_other h ?_ ?_) ?_ ?_
    · exact fun _ he => nomatch he
    · exact fun _ _ _ _ he => nomatch he
    · exact fun _ he => nomatch he
    · exact fun _ _ _ _ he => nomatch he
  | fail => exact h.cons_other (fun _ he => nomatch he) fun _ _ _ _ he => nomatch he
  | cancel =>
    obtain ⟨events, hlog, hall⟩ := cancel_log s self
    rw [hlog]
    exact h.setup hall

/-- In a step, a success comes exactly after an echo of the probe in flight. -/
theorem ProbeStep.success {self : ℕ} {s s' : ProbeProcess} (hstep : ProbeStep self s s')
    (h : SuccessIff s.log) (hflight : FlightAgrees s) : SuccessIff s'.log := by
  cases hstep with
  | quiet hq => rwa [hq.log]
  | @note e he =>
    refine h.cons_other ?_ ?_
    · rintro c i target rfl
      exact he
    · rintro c i payload t rfl
      exact he
  | generate =>
    refine (h.cons_other ?_ ?_).cons_other (fun _ _ _ he => nomatch he) fun _ _ _ _ he => nomatch he
    · exact fun _ _ _ he => nomatch he
    · exact fun _ _ _ _ he => nomatch he
  | launch => exact h.cons_other (fun _ _ _ he => nomatch he) fun _ _ _ _ he => nomatch he
  | @ignore i payload t hawait hother =>
    refine h.cons (fun _ _ _ he => nomatch he) fun c j he => hother ?_
    obtain ⟨payload', _, _, token, pollTime, heq, hin, -, hecho, -⟩ := he
    obtain ⟨hev, rfl⟩ := List.cons.inj heq
    obtain ⟨rfl, rfl, rfl, -⟩ := ProbeEvent.received.inj hev
    rw [hflight, Probe.flight, if_pos hawait, Option.some.injEq, Prod.mk.injEq] at hin
    rw [hecho, hin.1]
  | @succeed i payload t hawait htime hecho =>
    refine h.succeed _ ⟨payload, t, s.log, (s.probe self i).token, (s.probe self i).probeDeadline - kTimeout,
      rfl, ?_, ?_, hecho, ?_⟩
    · rw [hflight, Probe.flight, if_pos hawait]
    · rw [hecho, Vector.length_toList]
    · rwa [Int.sub_add_cancel]
  | @late i payload t hawait htime =>
    have hlate : SuccessIff (.received self i payload t :: s.log) := by
      refine h.cons (fun _ _ _ he => nomatch he) fun c j he => ?_
      obtain ⟨payload', t', _, token, pollTime, heq, hin, -, -, hlt⟩ := he
      obtain ⟨hev, rfl⟩ := List.cons.inj heq
      obtain ⟨rfl, rfl, -, rfl⟩ := ProbeEvent.received.inj hev
      rw [hflight, Probe.flight, if_pos hawait, Option.some.injEq, Prod.mk.injEq] at hin
      rw [← hin.2, Int.sub_add_cancel] at hlt
      exact absurd hlt (not_lt_of_ge htime)
    exact hlate.cons_other (fun _ _ _ he => by simp at he) fun _ _ _ _ he => nomatch he
  | fail => exact h.cons_other (fun _ _ _ he => by simp at he) fun _ _ _ _ he => nomatch he
  | cancel =>
    obtain ⟨events, hlog, hall⟩ := cancel_log s self
    rw [hlog]
    exact h.setup hall

/-- **Every step keeps the invariant.** -/
theorem ProcessStep.sound {s s' : ProbeProcess} (hstep : ProcessStep s s') (h : Sound s) : Sound s' := by
  cases hstep with
  | probe self hstep =>
    refine ⟨hstep.success h.success h.flight, hstep.tokens h.tokens, hstep.flightAgrees h.flight,
      hstep.fresh h.fresh, fun c i payload t pollTime hm => ?_⟩
    exact (hstep.rewound hm).elim (h.rewound c i payload t pollTime) id
  | build self hstep =>
    refine ⟨?_, ?_, hstep.flightAgrees h.flight h.fresh, hstep.fresh h.fresh, fun c i payload t pollTime hm => ?_⟩
    · rcases hstep.log with ⟨targets, hlog⟩ | ⟨events, hlog, hall⟩
      · rw [hlog]
        exact h.success.cons_other (fun _ _ _ he => nomatch he) fun _ _ _ _ he => nomatch he
      · rw [hlog]
        exact h.success.setup hall
    · rw [hstep.nonceSource]
      rcases hstep.log with ⟨targets, hlog⟩ | ⟨events, hlog, hall⟩
      · rw [hlog]
        exact h.tokens.cons_other (fun _ he => nomatch he) fun _ _ _ _ he => nomatch he
      · rw [hlog]
        exact h.tokens.setup hall
    · exact h.rewound c i payload t pollTime (hstep.rewound hm)
  | rejected error =>
    refine ⟨?_, ?_, h.flight, h.fresh, fun c i payload t pollTime hm => ?_⟩
    · exact h.success.cons_other (fun _ _ _ he => nomatch he) fun _ _ _ _ he => nomatch he
    · exact h.tokens.cons_other (fun _ he => nomatch he) fun _ _ _ _ he => nomatch he
    · exact h.rewound c i payload t pollTime ((List.mem_cons.mp hm).resolve_left fun he => nomatch he)
  | pollFailed checker error =>
    refine ⟨?_, ?_, h.flight, h.fresh, fun c i payload t pollTime hm => ?_⟩
    · exact h.success.cons_other (fun _ _ _ he => nomatch he) fun _ _ _ _ he => nomatch he
    · exact h.tokens.cons_other (fun _ he => nomatch he) fun _ _ _ _ he => nomatch he
    · exact h.rewound c i payload t pollTime ((List.mem_cons.mp hm).resolve_left fun he => nomatch he)

/-! ### Any process of checkers -/

/-- Do what is asked, and record what failed. -/
def serveProbeRequest : ProbeRequest → CheckerM Unit
  | .construct targets previous =>
    handle (do let _ ← constructChecker targets previous) fun error =>
      modify fun s => s.record (.rejected error)
  | .poll checker pollTime =>
    handle (do let _ ← pollProbeTransitions checker pollTime) fun error =>
      modify fun s => s.record (.pollFailed checker error)
  | .destroy checker => cancelAllProbes checker

/-- Any number of checkers are constructed, polled at any times, and destroyed, in any
order. -/
def probeProcess : CheckerM Unit :=
  loop (fun _ => do
    let request ← ask .next
    serveProbeRequest request
    pure (.inl ())) ()

/-- A process before its first checker. -/
def startProcess (nonceSource : ProbeNonceSequence) (clock : Time) : ProbeProcess :=
  { nonceSource, clock }

theorem sound_start (nonceSource : ProbeNonceSequence) (clock : Time) :
    Sound (startProcess nonceSource clock) :=
  ⟨successIff_nil, tokensUnique_nil nonceSource, fun _ _ => rfl, fun _ _ => rfl,
    fun _ _ _ _ _ h => absurd h List.not_mem_nil⟩

theorem runs_serveProbeRequest (request : ProbeRequest) (s : ProbeProcess) :
    Runs ProcessStep (fun _ _ => True) (serveProbeRequest request) s fun _ _ => True := by
  cases request with
  | construct targets previous =>
    refine Runs.handle (E := fun _ _ => True) ?_ fun error s' _ _ =>
      Runs.modify (.single (.rejected error)) trivial
    have hbuild := (runs_constructChecker targets previous s).coarsen fun _ _ h => ProcessStep.build _ h
    exact Runs.bind (hbuild.mono (fun _ _ _ _ => trivial) fun _ _ _ h => h) fun _ _ _ _ => Runs.pure trivial
  | poll checker pollTime =>
    refine Runs.handle (E := fun _ _ => True) ?_ fun error s' _ _ =>
      Runs.modify (.single (.pollFailed checker error)) trivial
    have hpoll := (steps_pollProbeTransitions checker pollTime s).coarsen
      fun _ _ h => ProcessStep.probe _ h
    exact Runs.bind hpoll fun _ _ _ _ => Runs.pure trivial
  | destroy checker =>
    have hcancel := (steps_cancelAllProbes checker s).coarsen fun _ _ h => ProcessStep.probe _ h
    exact hcancel.mono (fun _ _ _ _ => trivial) fun _ _ _ h => h

theorem runs_probeProcess (s : ProbeProcess) :
    Runs ProcessStep (fun _ _ => True) probeProcess s fun _ _ => True := by
  refine Runs.loop (fun _ _ => True) (fun _ s _ => ?_) trivial
  refine Runs.call_bind fun request => ?_
  exact Runs.bind (runs_serveProbeRequest request s) fun _ _ _ _ => Runs.pure trivial

theorem sound_probeProcess (nonceSource : ProbeNonceSequence) (clock : Time)
    (script : List (Answerer ProbeCall ProbeAnswer)) :
    Sound (probeProcess ⟨script, startProcess nonceSource clock⟩).2.state :=
  (runs_probeProcess _).invariant (sound_start nonceSource clock) (fun _ _ h => h.sound) script

end L4lb.Health
