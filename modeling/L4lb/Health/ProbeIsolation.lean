import L4lb.Effect.Total
import L4lb.Health.ProbeSteps
import Mathlib.Data.Nat.ModEq

/-!
# Noisy peers

A poll reads 256 datagrams at most, of all sockets together, and begins with another target each
time. A target whose echo has come is read before its deadline, whatever comes to the others, if
its turn to be the first comes in the 25 polls before the deadline: that is so of any target when
there are 25 of them or fewer, and not of a target too far ahead of the cursor when there are more
(`isolated_iff`).

## The model

* `pollFrom` — polls 20 ms apart, as the service makes them.
* `Due` — a state in which a target is sent its next token.
* `Noisy` — what the surroundings answer: all sends succeed, the target's socket has its token,
  and the other sockets have nothing or noise.
* `Isolated` — the echo completes the probe as a success, whatever the noise.

## The argument

A poll touches a probe only at its own index (`Touched`), so what is known of the target's probe
(`Mine`) stands while the others are sent to and read. When the cursor is at the target its socket
is read with the whole budget to come. Behind it, 256 datagrams of noise at the cursor end each
poll, and the target is never read.
-/

namespace L4lb.Health

open Effect Prog ProbeProcess

/-- The time between polls, of `poll` in `waitForRuntimeSignalsOrOutput`. -/
def pollCadence : Time := Time.milliseconds 20

/-- A poll at a time, and on. -/
def pollAt (self : ℕ) (time : Time) : CheckerM Bool := do
  let _ ← pollProbeTransitions self time
  pure true

/-- So many polls, from `t` on. -/
def pollFrom (self : ℕ) (t : Time) (polls : ℕ) : CheckerM Unit :=
  forEach (fun k : ℕ => pollAt self (t + pollCadence * k)) (List.range polls)

/-- The polls before the deadline of a probe that is sent with the first of them. -/
def pollsInTime : ℕ := 25

/-- A checker of `n` targets, of which `i` is due for its next token at `t`. -/
structure Due (n i cursor : ℕ) (c : ℕ) (t : Time) (s : ProbeProcess) : Prop where
  /-- The targets. -/
  count : s.count c = n
  /-- The target that is read first. -/
  cursor : (s.checkers c).receiveCursor = cursor
  /-- The sockets are open, -/
  opened : ∀ j < n, 0 ≤ (s.probe c j).handle
  /-- and the target's is no other's. -/
  apart : ∀ j < n, j ≠ i → (s.probe c j).handle ≠ (s.probe c i).handle
  /-- Its next token is due. -/
  due : (s.probe c i).nextProbeTime ≤ t
  /-- Its last has been answered, or it is too late. -/
  idle : (s.probe c i).awaitingReply = true → (s.probe c i).probeDeadline ≤ t
  /-- Time does not go back. -/
  polled : (s.checkers c).hasPolled = true → (s.checkers c).lastPollTime ≤ t
  /-- There are tokens left for all polls. -/
  tokens : s.nonceSource.lastSequence.toNat + pollsInTime * n < 2 ^ 64 - 1

/-- What a socket answers that has a datagram, or none. -/
def arrival : Option Bytes → Except Errno Bytes
  | none => .error .EAGAIN
  | some payload => .ok payload

/-- What the surroundings answer, with `noise` on all sockets but `handle`. -/
structure Noisy (noise : Option Bytes → Prop) (handle : ℤ) (token : ProbePacket) (answer : Answerer ProbeCall ProbeAnswer) :
    Prop where
  /-- All sends succeed. -/
  send : ∀ h packet, answer (.send h packet) = .ok 24
  /-- The completion clock answers the time of the poll. -/
  completion : ∀ pollTime, answer (.nowAtCompletion pollTime) = pollTime
  /-- The socket has the token. -/
  echo : answer (.recv handle) = .ok token.toList
  /-- The others have noise. -/
  others : ∀ h ≠ handle, ∃ datagram, noise datagram ∧ answer (.recv h) = arrival datagram

/-- A token was sent to target `i` at `t`, after what was in `log`; and if it was `token`, then the probe was since
completed as a success, and never otherwise. -/
def Answered (self i : ℕ) (t : Time) (token : ProbePacket) (log log' : List ProbeEvent) : Prop :=
  ∃ sent later earlier, log' = later ++ .sent self i sent t :: (earlier ++ log) ∧
    (sent = token → (∃ target, .completed self i target true ∈ later) ∧ ∀ target, .completed self i target false ∉ later)

/-- Target `i` of `n` is isolated from `noise` at the others, when the cursor is at `cursor` as its token is sent. -/
def Isolated (noise : Option Bytes → Prop) (n i cursor : ℕ) : Prop :=
  ∀ s self t token, Due n i cursor self t s → ∃ enough,
    Total (Noisy noise (s.probe self i).handle token) (pollFrom self t pollsInTime) s enough fun _ s' =>
      Answered self i t token s.log s'.log

/-! ### What a poll touches -/

/-- What a poll has spent of its budget. -/
def spent (s : ProbeProcess) (self : ℕ) : ℕ := (s.checkers self).lastReceiveEventCount

/-- An entry that is about target `x`: it was sent a token, or its probe was completed. -/
def ProbeEvent.About (c x : ℕ) : ProbeEvent → Prop
  | .sent c' x' _ _ => c' = c ∧ x' = x
  | .completed c' x' _ _ => c' = c ∧ x' = x
  | _ => False

/-- Of the probes of a checker only the one at `j` was touched, and so many tokens were made. -/
structure Touched (c j made : ℕ) (s s' : ProbeProcess) : Prop where
  /-- The probes are those there were. -/
  count : s'.count c = s.count c
  /-- So are their sockets. -/
  handle : ∀ x, (s'.probe c x).handle = (s.probe c x).handle
  /-- The other probes are as they were. -/
  others : ∀ x, x ≠ j → s'.probe c x = s.probe c x
  /-- What was recorded is not about them. -/
  log : ∃ events, s'.log = events ++ s.log ∧ ∀ x, x ≠ j → ∀ event ∈ events, ¬ event.About c x
  /-- The cursor stands. -/
  cursor : (s'.checkers c).receiveCursor = (s.checkers c).receiveCursor
  /-- The poll is the same. -/
  polled : (s'.checkers c).lastPollTime = (s.checkers c).lastPollTime
  /-- The tokens. -/
  tokens : s'.nonceSource.lastSequence.toNat ≤ s.nonceSource.lastSequence.toNat + made

namespace Touched

variable {self j n k : ℕ} {s s' s'' : ProbeProcess}

protected theorem refl (self j : ℕ) (s : ProbeProcess) : Touched self j n s s :=
  ⟨rfl, fun _ => rfl, fun _ _ => rfl, ⟨[], rfl, by simp⟩, rfl, rfl, by omega⟩

protected theorem trans (h : Touched self j n s s') (h' : Touched self j k s' s'') : Touched self j (n + k) s s'' := by
  obtain ⟨events, hlog, hnone⟩ := h.log
  obtain ⟨events', hlog', hnone'⟩ := h'.log
  refine ⟨h'.count.trans h.count, fun x => (h'.handle x).trans (h.handle x),
    fun x hx => (h'.others x hx).trans (h.others x hx), ⟨events' ++ events, by rw [hlog', hlog, List.append_assoc], ?_⟩,
    h'.cursor.trans h.cursor, h'.polled.trans h.polled, ?_⟩
  · intro x hx event hmem
    cases List.mem_append.mp hmem with
    | inl hnew => exact hnone' x hx event hnew
    | inr hold => exact hnone x hx event hold
  · have := h.tokens
    have := h'.tokens
    omega

theorem mono (h : Touched self j n s s') (hn : n ≤ k) : Touched self j k s s' :=
  { h with tokens := h.tokens.trans (by omega) }

end Touched

/-- A probe is replaced, which keeps its socket, with entries of the history that are about it. -/
theorem touched_setProbe {s : ProbeProcess} {self j k : ℕ} {probe : Probe} {nonceSource : ProbeNonceSequence}
    {transitions : List ProbeTransition} (events : List ProbeEvent) (hj : j < s.count self)
    (hhandle : probe.handle = (s.probe self j).handle)
    (hevents : ∀ x, x ≠ j → ∀ event ∈ events, ¬ event.About self x)
    (htokens : nonceSource.lastSequence.toNat ≤ s.nonceSource.lastSequence.toNat + k) :
    Touched self j k s { s.setProbe self j probe with nonceSource, transitions, log := events ++ s.log } where
  count := count_setProbe probe
  handle x := by
    show ((s.setProbe self j probe).probe self x).handle = _
    by_cases hx : x = j
    · rw [hx, probe_setProbe_self hj, hhandle]
    · rw [probe_setProbe_ne (.inr hx)]
  others x hx := probe_setProbe_ne (.inr hx) probe
  log := ⟨events, rfl, hevents⟩
  cursor := by
    show ((s.setProbe self j probe).checkers self).receiveCursor = _
    simp [setProbe]
  polled := by
    show ((s.setProbe self j probe).checkers self).lastPollTime = _
    simp [setProbe]
  tokens := htokens

/-- What is recorded of no probe touches none. -/
theorem touched_record {s : ProbeProcess} {self : ℕ} (j : ℕ) {event : ProbeEvent}
    (h : ∀ x, ¬ event.About self x) : Touched self j 0 s (s.record event) where
  count := rfl
  handle _ := rfl
  others _ _ := rfl
  log := ⟨[event], rfl, fun x _ _ hmem => List.mem_singleton.mp hmem ▸ h x⟩
  cursor := rfl
  polled := rfl
  tokens := le_rfl

theorem touched_complete {s : ProbeProcess} {self j : ℕ} (hj : j < s.count self) (success : Bool) (reason : String)
    (error : Errno) : Touched self j 0 s (s.complete self j success reason error) where
  count := complete_count success reason error
  handle x := by
    show ((s.setProbe self j ((s.probe self j).complete success)).probe self x).handle = _
    by_cases hx : x = j
    · rw [hx, probe_setProbe_self hj]
      rfl
    · rw [probe_setProbe_ne (.inr hx)]
  others x hx := probe_setProbe_ne (.inr hx) _
  log := by
    refine ⟨[.completed self j (s.probe self j).snapshot.target success], rfl, fun x hx event hmem => ?_⟩
    rw [List.mem_singleton.mp hmem]
    exact fun hself => hx hself.2.symm
  cursor := by
    show ((s.setProbe self j _).checkers self).receiveCursor = _
    simp [setProbe]
  polled := by
    show ((s.setProbe self j _).checkers self).lastPollTime = _
    simp [setProbe]
  tokens := le_rfl

/-! ### Sending -/

variable {noise : Option Bytes → Prop} {handle : ℤ} {token : ProbePacket} {self n i j : ℕ} {t time : Time}
  {s s' : ProbeProcess}

/-- A probe with a token in flight, sent at `time`. -/
structure Flying (sent : ProbePacket) (time : Time) (probe : Probe) : Prop where
  /-- It is in flight, -/
  awaiting : probe.awaitingReply = true
  /-- with the token that was sent, -/
  token : probe.token = sent
  /-- until its deadline. -/
  deadline : probe.probeDeadline = time + kTimeout
  /-- The next is due in a second. -/
  next : probe.nextProbeTime = time + kInterval

theorem total_validate {Ok : Answerer ProbeCall ProbeAnswer → Prop} {result : ProbeIoResult} (h : ¬ result.Invalid) :
    Total Ok (validateProbeIoResult result) s 0 fun _ s' => s' = s :=
  Total.ite (fun hinvalid => absurd hinvalid h) fun _ => Total.pure rfl

theorem spent_setProbe (probe : Probe) : spent (s.setProbe self j probe) self = spent s self := by
  simp [spent, setProbe]

theorem spent_complete (success : Bool) (reason : String) (error : Errno) :
    spent (s.complete self j success reason error) self = spent s self :=
  spent_setProbe _

/-- The token that is sent next. -/
def ProbeNonceSequence.nextToken (nonce : ProbeNonceSequence) : ProbePacket :=
  encodeProbePacket nonce.epoch (nonce.lastSequence + 1)

/-- The next token was sent to target `j`. -/
structure Launched (c j : ℕ) (time : Time) (s s' : ProbeProcess) : Prop where
  /-- It is in flight. -/
  flying : Flying s.nonceSource.nextToken time (s'.probe c j)
  /-- The tokens go on. -/
  nonce : s'.nonceSource = { s.nonceSource with lastSequence := s.nonceSource.lastSequence + 1 }
  /-- Nothing of the budget is spent. -/
  spent : spent s' c = spent s c
  /-- The last that was recorded. -/
  log : ∃ events, s'.log = .sent c j s.nonceSource.nextToken time :: (events ++ s.log) ∧
    ∀ event ∈ events, ¬ event.About c j

/-- The turn of target `j` to be sent to. -/
structure Turned (c j : ℕ) (time : Time) (s s' : ProbeProcess) : Prop where
  /-- Only its probe was touched. -/
  touched : Touched c j 1 s s'
  /-- Nothing of the budget is spent. -/
  spent : Health.spent s' c = Health.spent s c
  /-- If the last token was answered or it is too late, and the next is due, then it is sent. -/
  late : ((s.probe c j).awaitingReply = true → (s.probe c j).probeDeadline ≤ time) →
    (s.probe c j).nextProbeTime ≤ time → ∃ s₁, Touched c j 0 s s₁ ∧ Launched c j time s₁ s'
  /-- If the last token was answered, then that is all. -/
  idle : (s.probe c j).awaitingReply = false → (s.probe c j).nextProbeTime ≤ time → Launched c j time s s'
  /-- If it is in flight, or the next is not due, then nothing is done. -/
  early : ((s.probe c j).awaitingReply = true → time < (s.probe c j).probeDeadline) →
    ((s.probe c j).awaitingReply = true ∨ time < (s.probe c j).nextProbeTime) → s' = s

/-- The probe has the next token. -/
theorem total_prepareProbe {Ok : Answerer ProbeCall ProbeAnswer → Prop} (hj : j < s.count self)
    (htokens : s.nonceSource.lastSequence.toNat + 1 < 2 ^ 64) :
    Total Ok (prepareProbe self j time) s 0 fun _ s' => Touched self j 1 s s' ∧
      s'.nonceSource = { s.nonceSource with lastSequence := s.nonceSource.lastSequence + 1 } ∧
      spent s' self = spent s self ∧ s'.probe self j = (s.probe self j).prepare s.nonceSource.nextToken time ∧
      ∃ events, s'.log = events ++ s.log ∧ ∀ event ∈ events, ¬ event.About self j := by
  have hsome : s.nonceSource.lastSequence ≠ 0xffffffffffffffff := by
    intro heq
    rw [heq] at htokens
    exact absurd htokens (by decide)
  have hnext : (s.nonceSource.lastSequence + 1).toNat ≤ s.nonceSource.lastSequence.toNat + 1 := by
    rw [UInt64.toNat_add]
    exact Nat.mod_le _ _
  refine Total.get_bind ?_
  rw [ProbeNonceSequence.generateProbePacket, if_neg hsome]
  refine Total.modify ⟨touched_setProbe [_, _] hj rfl ?_ hnext, rfl, spent_setProbe _, probe_setProbe_self hj _,
    [_, _], rfl, ?_⟩
  · intro x _
    simp [ProbeEvent.About]
  · simp [ProbeEvent.About]

theorem total_sendProbePacket (packet : ProbePacket) (h : ℤ) :
    Total (Noisy noise handle token) (sendProbePacket h packet) s 1 fun sent s' => s' = s ∧ sent = ⟨24, 0⟩ := by
  refine Total.call_bind fun answer hanswer => ?_
  rw [hanswer.send]
  exact Total.pure ⟨rfl, rfl⟩

/-- A probe is sent, with the next token. -/
theorem total_sendProbe (hj : j < s.count self) (htokens : s.nonceSource.lastSequence.toNat + 1 < 2 ^ 64) :
    Total (Noisy noise handle token) (sendProbe self time j) s 1 fun _ s' =>
      Touched self j 1 s s' ∧ Launched self j time s s' := by
  refine (Total.bind (total_prepareProbe hj htokens) fun _ s₁ h₁ => ?_).mono (Nat.zero_add 1).le fun _ _ h => h
  obtain ⟨htouched, hnonce, hspent, hprobe, events, hlog, hnone⟩ := h₁
  refine Total.gets_bind (Total.bind (k := 0) (total_sendProbePacket _ _) fun result s₂ h₂ => ?_)
  obtain ⟨rfl, rfl⟩ := h₂
  refine Total.bind (k := 0) (total_validate (by decide)) fun _ s₂ h₂ => ?_
  subst h₂
  rw [if_neg (by decide)]
  have hj₁ : j < s₂.count self := htouched.count.symm ▸ hj
  refine Total.modify ⟨?_, ?_, hnonce, (spent_setProbe _).trans hspent, events, ?_, hnone⟩
  · refine htouched.trans (touched_setProbe (k := 0) [_] hj₁ ?_ ?_ le_rfl)
    · rfl
    · intro x hx event hmem
      rw [List.mem_singleton.mp hmem]
      exact fun hself => hx hself.2.symm
  · show Flying _ time ((s₂.setProbe self j _).probe self j)
    rw [probe_setProbe_self hj₁, hprobe]
    exact ⟨rfl, rfl, rfl, rfl⟩
  · show _ :: s₂.log = _
    rw [hlog, hprobe]
    rfl

/-- **The turn of a target to be sent to**: it is sent its next token if that is due, and otherwise its probe is timed
out or left alone. -/
theorem total_sendDueProbePacket (hj : j < s.count self) (hopen : 0 ≤ (s.probe self j).handle)
    (htokens : s.nonceSource.lastSequence.toNat + 1 < 2 ^ 64) :
    Total (Noisy noise handle token) (sendDueProbePacket self time j) s 1 fun go s' =>
      go = true ∧ Turned self j time s s' := by
  refine Total.gets_bind ?_
  rw [if_neg (not_lt.mpr hopen)]
  by_cases hlate : (s.probe self j).awaitingReply = true ∧ time ≥ (s.probe self j).probeDeadline
  · -- the probe is timed out, and is not in flight
    have hcompleted := touched_complete hj false "timeout" .ETIMEDOUT
    have hspent : spent (s.complete self j false "timeout" .ETIMEDOUT) self = spent s self := spent_complete _ _ _
    have hprobe : (s.complete self j false "timeout" .ETIMEDOUT).probe self j = (s.probe self j).complete false :=
      probe_setProbe_self hj _
    have hflying : (s.probe self j).awaitingReply ≠ false := by simp [hlate.1]
    have hnotEarly : ¬ ((s.probe self j).awaitingReply = true → time < (s.probe self j).probeDeadline) :=
      fun hearly => not_lt.mpr hlate.2 (hearly hlate.1)
    rw [Prog.when, if_pos hlate]
    refine Total.modify_bind (Total.gets_bind (Total.ite (fun hrest => ?_) fun hdue => ?_))
    · refine Total.pure ⟨rfl, hcompleted.mono (Nat.zero_le 1), hspent, fun _ hnext => ?_, fun hidle => absurd hidle hflying,
        fun hearly => absurd hearly hnotEarly⟩
      rw [hprobe] at hrest
      exact absurd hrest (not_or.mpr ⟨Bool.false_ne_true, not_lt.mpr hnext⟩)
    · refine Total.bind (k := 0) (total_sendProbe (hcompleted.count.symm ▸ hj) htokens) fun _ s' hs' => ?_
      exact Total.pure ⟨rfl, (hcompleted.trans hs'.1).mono (by omega), hs'.2.spent.trans hspent,
        fun _ _ => ⟨_, hcompleted, hs'.2⟩, fun hidle => absurd hidle hflying, fun hearly => absurd hearly hnotEarly⟩
  · rw [Prog.when, if_neg hlate]
    refine Total.pure_bind (Total.gets_bind (Total.ite (fun hrest => ?_) fun hdue => ?_))
    · have hnotDue : ((s.probe self j).awaitingReply = true → (s.probe self j).probeDeadline ≤ time) →
          ¬ (s.probe self j).nextProbeTime ≤ time := by
        intro hidle hnext
        rcases hrest with hawaiting | hearly
        · exact hlate ⟨hawaiting, hidle hawaiting⟩
        · exact not_lt.mpr hnext hearly
      exact Total.pure ⟨rfl, Touched.refl self j s, rfl, fun hidle hnext => absurd hnext (hnotDue hidle),
        fun hidle hnext => absurd hnext (hnotDue fun hawaiting => absurd (hidle.symm.trans hawaiting) Bool.false_ne_true),
        fun _ _ => rfl⟩
    · refine Total.bind (k := 0) (total_sendProbe hj htokens) fun _ s' hs' => ?_
      exact Total.pure ⟨rfl, hs'.1, hs'.2.spent, fun _ _ => ⟨s, Touched.refl self j s, hs'.2⟩, fun _ _ => hs'.2,
        fun _ hrest => absurd hrest hdue⟩

/-! ### Receiving -/

/-- What a socket is found to have: the token, or noise. -/
theorem total_receiveProbePacket (h : ℤ) :
    Total (Noisy noise handle token) (receiveProbePacket h) s 1 fun received s' => s' = s ∧
      ((received = (⟨-1, .EAGAIN⟩, none) ∧ h ≠ handle ∧ noise none) ∨
        ∃ payload : Bytes, received = (⟨payload.length, 0⟩, some payload) ∧
          (h = handle → payload = token.toList) ∧ (h ≠ handle → noise (some payload))) := by
  refine Total.call_bind fun answer hanswer => ?_
  by_cases hh : h = handle
  · rw [hh, hanswer.echo]
    exact Total.pure ⟨rfl, .inr ⟨_, rfl, fun _ => rfl, fun hne => absurd rfl hne⟩⟩
  · obtain ⟨datagram, hnoise, hrecv⟩ := hanswer.others h hh
    rw [hrecv]
    cases datagram with
    | none => exact Total.pure ⟨rfl, .inl ⟨rfl, hh, hnoise⟩⟩
    | some payload => exact Total.pure ⟨rfl, .inr ⟨payload, rfl, fun heq => absurd heq hh, fun _ => hnoise⟩⟩

/-- What a pass over the socket of target `j` comes to. -/
inductive Received (noise : Option Bytes → Prop) (handle : ℤ) (token : ProbePacket) (c j : ℕ) (time : Time)
    (s : ProbeProcess) : Unit ⊕ Unit → ProbeProcess → Prop where
  /-- Its probe is not in flight, or nothing is left of the budget. -/
  | idle (h : ¬ ((s.probe c j).awaitingReply = true ∧ spent s c < kReceiveBudget)) :
      Received noise handle token c j time s (.inr ()) s
  /-- The socket has nothing. -/
  | nothing {s' : ProbeProcess} (hawaiting : (s.probe c j).awaitingReply = true)
      (hhandle : (s.probe c j).handle ≠ handle) (hnoise : noise none) (htouched : Touched c j 0 s s') :
      Received noise handle token c j time s (.inr ()) s'
  /-- It is too late. -/
  | late {s' : ProbeProcess} (hawaiting : (s.probe c j).awaitingReply = true)
      (htime : (s.probe c j).probeDeadline ≤ time) (htouched : Touched c j 0 s s') :
      Received noise handle token c j time s (.inr ()) s'
  /-- The echo is read. -/
  | echo {s' : ProbeProcess} {target : ProbeTarget} {events : List ProbeEvent}
      (hawaiting : (s.probe c j).awaitingReply = true) (hbudget : spent s c < kReceiveBudget)
      (htouched : Touched c j 0 s s') (hspent : spent s' c = spent s c + 1)
      (hprobe : s'.probe c j = (s.probe c j).complete true)
      (hlog : s'.log = .completed c j target true :: (events ++ s.log))
      (hnone : ∀ event ∈ events, ¬ event.About c j)
      (hnoise : (s.probe c j).handle ≠ handle → noise (some (s.probe c j).token.toList)) :
      Received noise handle token c j time s (.inl ()) s'
  /-- Another datagram is read. -/
  | other {s' : ProbeProcess} {payload : Bytes} {events : List ProbeEvent}
      (hawaiting : (s.probe c j).awaitingReply = true) (hbudget : spent s c < kReceiveBudget)
      (htouched : Touched c j 0 s s') (hspent : spent s' c = spent s c + 1)
      (hpayload : payload ≠ (s.probe c j).token.toList)
      (hecho : (s.probe c j).handle = handle → payload = token.toList)
      (hnoise : (s.probe c j).handle ≠ handle → noise (some payload))
      (hprobe : s'.probe c j = s.probe c j) (hlog : s'.log = events ++ s.log)
      (hnone : ∀ event ∈ events, ¬ event.About c j) :
      Received noise handle token c j time s (.inl ()) s'

/-- One more of the budget is spent. -/
theorem touched_count (s : ProbeProcess) (self j : ℕ) :
    Touched self j 0 s ((s.setChecker self fun checker =>
      { checker with lastReceiveEventCount := checker.lastReceiveEventCount + 1 }).record (.handled self j)) where
  count := by simp [ProbeProcess.count, record]
  handle x := by simp [ProbeProcess.probe, record]
  others x _ := by simp [ProbeProcess.probe, record]
  log := ⟨[.handled self j], rfl, by simp [ProbeEvent.About]⟩
  cursor := by simp [record]
  polled := by simp [record]
  tokens := le_rfl

theorem total_receiveProbeReply :
    Total (Noisy noise handle token) (receiveProbeReply self time j) s 2 fun r s' =>
      Received noise handle token self j time s r s' := by
  refine Total.get_bind (Total.ite (fun hgo => ?_) fun hidle => Total.pure (.idle hidle))
  obtain ⟨hawaiting, hbudget⟩ := hgo
  have hj := lt_of_awaiting hawaiting
  have hreading : Touched self j 0 s (s.record (.reading self j (s.probe self j).handle)) := touched_record j fun _ => id
  refine Total.modify_bind (Total.bind (k := 1) (total_receiveProbePacket _) fun received s₁ h => ?_)
  obtain ⟨rfl, hreceived⟩ := h
  obtain ⟨rfl, hne, hnoise⟩ | ⟨payload, rfl, hecho, hnoise⟩ := hreceived
  · have hvalid : ¬ (⟨-1, .EAGAIN⟩ : ProbeIoResult).Invalid := by decide
    refine Total.bind (n := 0) (k := 1) (total_validate hvalid) fun _ s₂ h₂ => ?_
    subst h₂
    refine Total.bind (n := 0) (k := 1) (Q := fun _ s' => s' = s.record _) (Total.when (fun hnot => absurd rfl hnot)
      fun _ => rfl) fun _ s₂ h₂ => ?_
    subst h₂
    refine Total.call_bind (n := 0) fun answer hanswer => ?_
    rw [hanswer.completion time, if_neg (lt_irrefl _)]
    refine Total.ite (fun hlate => ?_) fun _ => Total.pure (.nothing hawaiting hne hnoise hreading)
    exact Total.modify_bind (Total.pure (.late hawaiting hlate
      (hreading.trans (touched_complete (hreading.count.symm ▸ hj) false "timeout" .ETIMEDOUT))))
  · have hvalid : ¬ (⟨payload.length, 0⟩ : ProbeIoResult).Invalid := by simp [ProbeIoResult.Invalid]
    refine Total.bind (n := 0) (k := 1) (total_validate hvalid) fun _ s₂ h₂ => ?_
    subst h₂
    refine Total.bind (n := 0) (k := 1) (Q := fun _ s' => s' = (ProbeProcess.setChecker _ _ _).record _)
      (Total.when (fun _ => Total.modify rfl) fun hnot => absurd (by simp) hnot) fun _ s₂ h₂ => ?_
    subst h₂
    refine Total.call_bind (n := 0) fun answer hanswer => ?_
    rw [hanswer.completion time, if_neg (lt_irrefl _)]
    have hcounted := hreading.trans (touched_count (s.record (.reading self j (s.probe self j).handle)) self j)
    set counted := (ProbeProcess.setChecker (s.record (.reading self j (s.probe self j).handle)) self _).record
      (.handled self j)
    have hreceived : Touched self j 0 s (counted.record (.received self j payload time)) :=
      hcounted.trans (touched_record j fun _ => id)
    have hprobe : (counted.record (.received self j payload time)).probe self j = s.probe self j := by
      simp [counted, ProbeProcess.probe, record]
    have hspent : spent (counted.record (.received self j payload time)) self = spent s self + 1 := by
      simp [counted, spent, record]
    refine Total.ite (fun hlate => ?_) fun _ => Total.ite (fun hblock => absurd hblock (by simp)) fun _ => ?_
    · exact Total.modify_bind (Total.pure (.late hawaiting hlate
        (hreceived.trans (touched_complete (hreceived.count.symm ▸ hj) false "timeout" .ETIMEDOUT))))
    · refine Total.bind (n := 0) (k := 0) (Q := fun _ s' => Received noise handle token self j time s (.inl ()) s') ?_
        fun _ _ h => Total.pure h
      refine Total.modify_bind (Total.gets_bind ?_)
      rw [hprobe]
      refine Total.when (fun hecho' => ?_) fun hother => ?_
      · have hcompleted := touched_complete (hreceived.count.symm ▸ hj) true "success" 0
        refine Total.modify (.echo hawaiting hbudget (hreceived.trans hcompleted) ?_ ?_
          (show _ = _ :: ([.received self j payload time, .handled self j,
            .reading self j (s.probe self j).handle] ++ s.log) from rfl) (by simp [ProbeEvent.About]) ?_)
        · rw [spent_complete, hspent]
        · exact (probe_setProbe_self (hreceived.count.symm ▸ hj) _).trans (by rw [hprobe])
        · rw [← (echo_iff _ _).mp hecho']
          exact hnoise
      · refine .other hawaiting hbudget hreceived hspent (fun heq => hother ((echo_iff _ _).mpr heq)) hecho hnoise hprobe
          (show _ = [.received self j payload time, .handled self j,
            .reading self j (s.probe self j).handle] ++ s.log from rfl) (by simp [ProbeEvent.About])

variable {c : ℕ} {r : Unit ⊕ Unit}

theorem Received.touched (h : Received noise handle token c j time s r s') : Touched c j 0 s s' := by
  cases h with
  | idle _ => exact Touched.refl c j s
  | nothing _ _ _ htouched => exact htouched
  | late _ _ htouched => exact htouched
  | echo _ _ htouched _ _ _ _ _ => exact htouched
  | other _ _ htouched _ _ _ _ _ _ _ => exact htouched

/-- A pass after which there is another has spent one of the budget. -/
theorem Received.spent_lt (h : Received noise handle token c j time s (.inl ()) s') :
    kReceiveBudget - spent s' c < kReceiveBudget - spent s c := by
  cases h with
  | echo _ hbudget _ hspent _ _ _ _ => omega
  | other _ hbudget _ hspent _ _ _ _ _ _ => omega

/-! ### The receive loops -/

/-- What a poll leaves of a checker, when so many tokens were made. -/
structure Kept (c made : ℕ) (s s' : ProbeProcess) : Prop where
  /-- The probes are those there were. -/
  count : s'.count c = s.count c
  /-- So are their sockets. -/
  handle : ∀ x, (s'.probe c x).handle = (s.probe c x).handle
  /-- The cursor stands. -/
  cursor : (s'.checkers c).receiveCursor = (s.checkers c).receiveCursor
  /-- The poll is the same. -/
  polled : (s'.checkers c).lastPollTime = (s.checkers c).lastPollTime
  /-- The tokens. -/
  tokens : s'.nonceSource.lastSequence.toNat ≤ s.nonceSource.lastSequence.toNat + made

namespace Kept

variable {made made' : ℕ} {s'' : ProbeProcess}

protected theorem refl (c : ℕ) (s : ProbeProcess) : Kept c made s s :=
  ⟨rfl, fun _ => rfl, rfl, rfl, by omega⟩

protected theorem trans (h : Kept c made s s') (h' : Kept c made' s' s'') : Kept c (made + made') s s'' where
  count := h'.count.trans h.count
  handle x := (h'.handle x).trans (h.handle x)
  cursor := h'.cursor.trans h.cursor
  polled := h'.polled.trans h.polled
  tokens := by
    have := h.tokens
    have := h'.tokens
    omega

end Kept

theorem Touched.kept {made : ℕ} (h : Touched c j made s s') : Kept c made s s' :=
  ⟨h.count, h.handle, h.cursor, h.polled, h.tokens⟩

/-- A pass over the socket of target `j` keeps `I`, and leaves it for `Q`. -/
def Passes (noise : Option Bytes → Prop) (handle : ℤ) (token : ProbePacket) (c : ℕ) (time : Time)
    (I Q : ProbeProcess → Prop) (j : ℕ) : Prop :=
  ∀ s r s', I s → Received noise handle token c j time s r s' →
    match r with
    | .inl _ => I s'
    | .inr _ => Q s'

variable {I Q : ProbeProcess → Prop}

/-- A socket is read until it has nothing, or nothing is left of the budget. -/
theorem total_receiveLoop (hpasses : Passes noise handle token c time I Q j) (h : I s) :
    Total (Noisy noise handle token) (loop (fun _ => receiveProbeReply c time j) ()) s (2 * (kReceiveBudget + 1))
      fun _ s' => Kept c 0 s s' ∧ Q s' := by
  refine (Total.loop (fun s' => Kept c 0 s s' ∧ I s') (fun s' => kReceiveBudget - spent s' c) ?_ ⟨Kept.refl c s, h⟩
    (by decide)).mono (Nat.mul_le_mul_left 2 (by omega)) fun _ _ h => h
  intro _ s₁ hs₁
  refine total_receiveProbeReply.post fun r s₂ hpassed => ?_
  have hkept : Kept c 0 s s₂ := hs₁.1.trans hpassed.touched.kept
  have hnext := hpasses s₁ r s₂ hs₁.2 hpassed
  cases r with
  | inl _ => exact ⟨⟨hkept, hnext⟩, hpassed.spent_lt⟩
  | inr _ => exact ⟨hkept, hnext⟩

theorem total_receiveTargetReplies {offset : ℕ}
    (hpasses : Passes noise handle token c time I Q (((s.checkers c).receiveCursor + offset) % s.count c))
    (hspent : kReceiveBudget ≤ spent s c → Q s) (h : I s) :
    Total (Noisy noise handle token) (receiveTargetReplies c time offset) s (2 * (kReceiveBudget + 1))
      fun _ s' => Kept c 0 s s' ∧ Q s' := by
  refine Total.get_bind (Total.ite (fun _ => ?_) fun hbudget => ?_)
  · exact Total.bind (k := 0) (total_receiveLoop hpasses h) fun _ s' hs' => Total.pure hs'
  · exact Total.pure ⟨Kept.refl c s, hspent (not_lt.mp hbudget)⟩

/-- **The sockets are read in turn, that at the cursor first**: what its passes lead to stands, if all other passes keep
it, and the cursor goes on by one. -/
theorem total_receivePendingProbeReplies (hcursor : (s.checkers c).receiveCursor < s.count c)
    (hfirst : Passes noise handle token c time I Q (s.checkers c).receiveCursor)
    (hspent : kReceiveBudget ≤ spent s c → Q s) (hrest : ∀ j, Passes noise handle token c time Q Q j) (h : I s) :
    Total (Noisy noise handle token) (receivePendingProbeReplies c time) s (s.count c * (2 * (kReceiveBudget + 1)))
      fun _ s' => ∃ s₁, Kept c 0 s s₁ ∧ Q s₁ ∧ s' = s₁.setChecker c fun checker =>
        { checker with receiveCursor := (checker.receiveCursor + 1) % s.count c } := by
  obtain ⟨n, hn⟩ : ∃ n, s.count c = n + 1 := ⟨s.count c - 1, by omega⟩
  have hcost : s.count c * (2 * (kReceiveBudget + 1)) =
      2 * (kReceiveBudget + 1) + n * (2 * (kReceiveBudget + 1)) := by
    rw [hn, Nat.succ_mul, Nat.add_comm]
  rw [hcost]
  refine Total.get_bind (Total.bind (k := 0) (Q := fun _ s₁ => Kept c 0 s s₁ ∧ Q s₁) ?_ fun _ s₁ hs₁ => ?_)
  · show Total _ (forEach _ (List.range (s.count c))) s _ _
    rw [hn, List.range_succ_eq_map]
    have hzero : Passes noise handle token c time I Q (((s.checkers c).receiveCursor + 0) % s.count c) := by
      rw [Nat.add_zero, Nat.mod_eq_of_lt hcursor]
      exact hfirst
    refine Total.bind (total_receiveTargetReplies hzero hspent h) fun go s₁ hs₁ => ?_
    refine Total.ite (fun _ => ?_) fun _ => Total.pure hs₁
    have hlength : ((List.range n).map Nat.succ).length = n := by simp
    refine (Total.forEach (fun s₁ => Kept c 0 s s₁ ∧ Q s₁) _ (fun offset _ s₂ hs₂ => ?_) hs₁).mono
      (by rw [hlength]) fun _ _ h => h
    refine (total_receiveTargetReplies (hrest _) (fun _ => hs₂.2) hs₂.2).post ?_
    exact fun _ s₃ hs₃ => ⟨hs₂.1.trans hs₃.1, hs₃.2⟩
  · refine Total.when (fun _ => Total.modify ⟨s₁, hs₁.1, hs₁.2, rfl⟩) fun hnone => ?_
    exact absurd (show s.count c ≠ 0 by omega) hnone

/-! ### A poll -/

/-- The state in which a poll begins. -/
def ProbeProcess.beginPoll (s : ProbeProcess) (c : ℕ) (time : Time) : ProbeProcess :=
  ({ s with transitions := [] }.setChecker c fun checker =>
    { checker with lastPollTime := time, hasPolled := true, lastReceiveEventCount := 0 }).record (.polled c time)

/-- The state in which a poll of `n` targets ends. -/
def ProbeProcess.endPoll (s : ProbeProcess) (c n : ℕ) : ProbeProcess :=
  (s.setChecker c fun checker => { checker with receiveCursor := (checker.receiveCursor + 1) % n }).record
    (.reported c s.transitions)

@[simp] theorem probe_beginPoll (x : ℕ) : (s.beginPoll c time).probe c x = s.probe c x := by
  simp [beginPoll, ProbeProcess.probe, record]

@[simp] theorem count_beginPoll : (s.beginPoll c time).count c = s.count c := by
  simp [beginPoll, ProbeProcess.count, record]

@[simp] theorem cursor_beginPoll :
    ((s.beginPoll c time).checkers c).receiveCursor = (s.checkers c).receiveCursor := by
  simp [beginPoll, record]

@[simp] theorem polled_beginPoll : ((s.beginPoll c time).checkers c).lastPollTime = time := by
  simp [beginPoll, record]

@[simp] theorem spent_beginPoll : spent (s.beginPoll c time) c = 0 := by
  simp [beginPoll, spent, record]

@[simp] theorem probe_endPoll (x : ℕ) : (s.endPoll c n).probe c x = s.probe c x := by
  simp [endPoll, ProbeProcess.probe, record]

@[simp] theorem count_endPoll : (s.endPoll c n).count c = s.count c := by
  simp [endPoll, ProbeProcess.count, record]

@[simp] theorem cursor_endPoll :
    ((s.endPoll c n).checkers c).receiveCursor = ((s.checkers c).receiveCursor + 1) % n := by
  simp [endPoll, record]

@[simp] theorem polled_endPoll : ((s.endPoll c n).checkers c).lastPollTime = (s.checkers c).lastPollTime := by
  simp [endPoll, record]

/-- A checker of `n` targets that can be polled at `time`. -/
structure Ready (n c : ℕ) (time : Time) (s : ProbeProcess) : Prop where
  /-- The targets. -/
  count : s.count c = n
  /-- The cursor is at one of them. -/
  cursor : (s.checkers c).receiveCursor < n
  /-- The sockets are open. -/
  opened : ∀ j < n, 0 ≤ (s.probe c j).handle
  /-- Time does not go back. -/
  polled : (s.checkers c).hasPolled = true → (s.checkers c).lastPollTime ≤ time
  /-- There are tokens left. -/
  tokens : s.nonceSource.lastSequence.toNat + n < 2 ^ 64

/-- The answers that a poll takes at most. -/
def pollCost (n : ℕ) : ℕ := n * 1 + n * (2 * (kReceiveBudget + 1))

/-- **A poll**: what the turns to be sent to lead to, after each of the first targets, and then the passes over the
sockets, is had when it ends. -/
theorem total_pollAt (hready : Ready n c time s) (S : ℕ → ProbeProcess → Prop) (hstart : S 0 (s.beginPoll c time))
    (hturn : ∀ j < n, ∀ s s', S j s → Turned c j time s s' → S (j + 1) s')
    (hsent : ∀ s, S n s → spent s c = 0 → I s)
    (hfirst : Passes noise handle token c time I Q (s.checkers c).receiveCursor)
    (hrest : ∀ j, Passes noise handle token c time Q Q j) :
    Total (Noisy noise handle token) (pollAt c time) s (pollCost n) fun go s' => go = true ∧
      ∃ s₁, Kept c n (s.beginPoll c time) s₁ ∧ Q s₁ ∧ s' = s₁.endPoll c n := by
  refine Total.bind (k := 0) (Q := fun _ s' => ∃ s₁, Kept c n (s.beginPoll c time) s₁ ∧ Q s₁ ∧
    s' = s₁.endPoll c n) (Total.modify_bind ?_) fun _ s' hs' => Total.pure ⟨rfl, hs'⟩
  refine Total.bind (k := 0) (Q := fun _ s' => ∃ s₁, Kept c n (s.beginPoll c time) s₁ ∧ Q s₁ ∧
    s' = s₁.setChecker c fun checker => { checker with receiveCursor := (checker.receiveCursor + 1) % n })
    (Total.handle (Total.get_bind ?_)) fun _ s' hs' => ?_
  · rw [if_neg fun hback => not_lt.mpr (hready.polled hback.1) hback.2]
    refine Total.modify_bind (Total.bind (n := n * 1) (k := n * (2 * (kReceiveBudget + 1)))
      (Q := fun _ s₁ => Kept c n (s.beginPoll c time) s₁ ∧ spent s₁ c = 0 ∧ S n s₁) ?_ fun _ s₁ hs₁ => ?_)
    · show Total _ (sendDueProbePackets c time) (s.beginPoll c time) _ _
      refine Total.get_bind ?_
      rw [show ((s.beginPoll c time).checkers c).probes.length = n from count_beginPoll.trans hready.count]
      refine Total.forEach_range (fun j s₁ => Kept c j (s.beginPoll c time) s₁ ∧ spent s₁ c = 0 ∧ S j s₁) n ?_
        ⟨Kept.refl c _, spent_beginPoll, hstart⟩
      rintro j hj s₁ ⟨hkept, hspent, hS⟩
      have hcount : j < s₁.count c := by rw [hkept.count, count_beginPoll, hready.count]; exact hj
      have hopen : 0 ≤ (s₁.probe c j).handle := by
        rw [hkept.handle, probe_beginPoll]
        exact hready.opened j hj
      have htokens : s₁.nonceSource.lastSequence.toNat + 1 < 2 ^ 64 := by
        have hmade := hkept.tokens
        have hroom := hready.tokens
        change _ ≤ s.nonceSource.lastSequence.toNat + j at hmade
        omega
      refine (total_sendDueProbePacket hcount hopen htokens).post fun go s₂ hgo => ?_
      exact ⟨hgo.1, hkept.trans hgo.2.touched.kept, hgo.2.spent.trans hspent, hturn j hj s₁ s₂ hS hgo.2⟩
    · obtain ⟨hkept, hspent, hS⟩ := hs₁
      have hcount : s₁.count c = n := by rw [hkept.count, count_beginPoll, hready.count]
      have hcursor : (s₁.checkers c).receiveCursor = (s.checkers c).receiveCursor :=
        hkept.cursor.trans cursor_beginPoll
      have hnone : ¬ kReceiveBudget ≤ spent s₁ c := by
        rw [hspent]
        decide
      refine (total_receivePendingProbeReplies (by rw [hcursor, hcount]; exact hready.cursor)
        (by rw [hcursor]; exact hfirst) (fun h => absurd h hnone) hrest (hsent s₁ hS hspent)).mono (by rw [hcount]) ?_
      rintro _ s' ⟨s₂, hkept', hQ, rfl⟩
      rw [hcount]
      exact ⟨s₂, hkept.trans hkept', hQ, rfl⟩
  · obtain ⟨s₁, hkept, hQ, rfl⟩ := hs'
    exact Total.gets_bind (Total.modify_bind (Total.pure ⟨s₁, hkept, hQ, rfl⟩))

/-! ### The target -/

/-- A probe that was answered, of which the next is due in a second. -/
structure Landed (time : Time) (probe : Probe) : Prop where
  /-- It is not in flight. -/
  awaiting : probe.awaitingReply = false
  /-- The next is due in a second. -/
  next : probe.nextProbeTime = time + kInterval

/-- How it stands with the token that target `i` was sent at `t`: if it is `token`, then it is in flight, unless it is
to have been answered, or it was. -/
def Mine (answered : Prop) (self i : ℕ) (t : Time) (token : ProbePacket) (log : List ProbeEvent) (s : ProbeProcess) :
    Prop :=
  ∃ sent later earlier, s.log = later ++ .sent self i sent t :: (earlier ++ log) ∧
    (sent = token →
      (¬ answered ∧ Flying sent t (s.probe self i) ∧ ∀ target success, .completed self i target success ∉ later) ∨
      (Landed t (s.probe self i) ∧ (∃ target, .completed self i target true ∈ later) ∧
        ∀ target, .completed self i target false ∉ later))

variable {answered : Prop} {log : List ProbeEvent}

theorem not_completed {events : List ProbeEvent} (h : ∀ event ∈ events, ¬ event.About self i) (target : ProbeTarget)
    (success : Bool) : .completed self i target success ∉ events := fun hmem => h _ hmem ⟨rfl, rfl⟩

/-- What does not touch the target leaves it where it was. -/
theorem Mine.extend (h : Mine answered self i t token log s) (hprobe : s'.probe self i = s.probe self i)
    (hlog : ∃ events, s'.log = events ++ s.log ∧ ∀ event ∈ events, ¬ event.About self i) :
    Mine answered self i t token log s' := by
  obtain ⟨sent, later, earlier, hbefore, hstands⟩ := h
  obtain ⟨events, hevents, hnone⟩ := hlog
  refine ⟨sent, events ++ later, earlier, by rw [hevents, hbefore, List.append_assoc], fun htoken => ?_⟩
  rw [hprobe]
  simp only [List.mem_append, not_or]
  obtain ⟨hnot, hflying, hopen⟩ | ⟨hlanded, ⟨target, htrue⟩, hfalse⟩ := hstands htoken
  · exact .inl ⟨hnot, hflying, fun target success => ⟨not_completed hnone target success, hopen target success⟩⟩
  · exact .inr ⟨hlanded, ⟨target, .inr htrue⟩, fun target => ⟨not_completed hnone target false, hfalse target⟩⟩

theorem Mine.touched {made : ℕ} (h : Mine answered self i t token log s) (htouched : Touched self j made s s')
    (hj : j ≠ i) : Mine answered self i t token log s' := by
  obtain ⟨events, hlog, hnone⟩ := htouched.log
  exact h.extend (htouched.others i hj.symm) ⟨events, hlog, hnone i hj.symm⟩

/-- If another token was sent, any history will do. -/
theorem mine_of_ne {sent : ProbePacket} {later earlier : List ProbeEvent}
    (hlog : s.log = later ++ .sent self i sent t :: (earlier ++ log)) (hsent : sent ≠ token) {made : ℕ}
    (htouched : Touched self j made s s') : Mine answered self i t token log s' := by
  obtain ⟨events, hevents, _⟩ := htouched.log
  exact ⟨sent, events ++ later, earlier, by rw [hevents, hlog, List.append_assoc], fun heq => absurd heq hsent⟩

/-- A pass over the target's own socket, in time: the echo is found if there is budget. -/
theorem Mine.passed (h : Mine answered self i t token log s) (hhandle : (s.probe self i).handle = handle)
    (htime : time < t + kTimeout) (hpassed : Received noise handle token self i time s r s') :
    Mine (answered ∨ spent s self < kReceiveBudget) self i t token log s' := by
  obtain ⟨sent, later, earlier, hlog, hstands⟩ := h
  by_cases hsent : sent = token
  · obtain ⟨hnot, hflying, hopen⟩ | ⟨hlanded, hdone⟩ := hstands hsent
    · cases hpassed with
      | idle hidle =>
        have hbudget : ¬ spent s self < kReceiveBudget := fun hlt => hidle ⟨hflying.awaiting, hlt⟩
        exact ⟨sent, later, earlier, hlog, fun _ => .inl ⟨not_or.mpr ⟨hnot, hbudget⟩, hflying, hopen⟩⟩
      | nothing _ hne _ _ => exact absurd hhandle hne
      | late _ hlate _ => exact absurd (hflying.deadline ▸ hlate) (not_le.mpr htime)
      | @echo _ target events _ _ _ _ hprobe hlog' hnone _ =>
        refine ⟨sent, .completed self i target true :: (events ++ later), earlier, ?_, fun _ => .inr ⟨?_, ?_, ?_⟩⟩
        · rw [hlog', hlog, List.cons_append, List.append_assoc]
        · exact ⟨by rw [hprobe]; rfl, by rw [hprobe]; exact hflying.next⟩
        · exact ⟨target, List.mem_cons_self⟩
        · intro target
          simp only [List.mem_cons, List.mem_append, not_or]
          exact ⟨by simp, not_completed hnone target false, hopen target false⟩
      | other _ _ _ _ hpayload hecho _ _ _ _ =>
        exact absurd ((hecho hhandle).trans (by rw [hflying.token, hsent])) hpayload
    · cases hpassed with
      | idle _ => exact ⟨sent, later, earlier, hlog, fun _ => .inr ⟨hlanded, hdone⟩⟩
      | nothing hawaiting _ _ _ => exact absurd (hlanded.awaiting.symm.trans hawaiting) Bool.false_ne_true
      | late hawaiting _ _ => exact absurd (hlanded.awaiting.symm.trans hawaiting) Bool.false_ne_true
      | echo hawaiting _ _ _ _ _ _ _ => exact absurd (hlanded.awaiting.symm.trans hawaiting) Bool.false_ne_true
      | other hawaiting _ _ _ _ _ _ _ _ _ => exact absurd (hlanded.awaiting.symm.trans hawaiting) Bool.false_ne_true
  · exact mine_of_ne hlog hsent hpassed.touched

theorem Mine.mono {answered' : Prop} (h : Mine answered self i t token log s) (himp : answered' → answered) :
    Mine answered' self i t token log s := by
  obtain ⟨sent, later, earlier, hlog, hstands⟩ := h
  refine ⟨sent, later, earlier, hlog, fun hsent => ?_⟩
  obtain ⟨hnot, hopen⟩ | hdone := hstands hsent
  · exact .inl ⟨fun h' => hnot (himp h'), hopen⟩
  · exact .inr hdone


/-- How it stands with the token, and the target has its socket. -/
def Held (handle : ℤ) (answered : Prop) (c i : ℕ) (t : Time) (token : ProbePacket) (log : List ProbeEvent)
    (s : ProbeProcess) : Prop :=
  (s.probe c i).handle = handle ∧ Mine answered c i t token log s

/-- Passes over any socket keep how it stands with the token. -/
theorem held_passes (htime : time < t + kTimeout) (j : ℕ) :
    Passes noise handle token c time (Held handle answered c i t token log) (Held handle answered c i t token log) j := by
  rintro s r s' ⟨hhandle, hmine⟩ hpassed
  have hkept : Held handle answered c i t token log s' := by
    refine ⟨(hpassed.touched.handle i).trans hhandle, ?_⟩
    by_cases hj : j = i
    · subst hj
      exact (hmine.passed hhandle htime hpassed).mono .inl
    · exact hmine.touched hpassed.touched hj
  cases r with
  | inl _ => exact hkept
  | inr _ => exact hkept

/-- If the cursor is at the target, then its token is answered by a pass while there is budget. -/
theorem held_passes_cursor (htime : time < t + kTimeout) (x : ℕ) :
    Passes noise handle token c time
      (fun s => Held handle (answered ∨ x = i ∧ ¬ spent s c < kReceiveBudget) c i t token log s)
      (Held handle (answered ∨ x = i) c i t token log) x := by
  rintro s r s' ⟨hhandle, hmine⟩ hpassed
  have hhandle' := (hpassed.touched.handle i).trans hhandle
  have hkept : Mine (answered ∨ x = i) c i t token log s' := by
    by_cases hx : x = i
    · subst hx
      refine (hmine.passed hhandle htime hpassed).mono fun _ => ?_
      by_cases hbudget : spent s c < kReceiveBudget
      · exact .inr hbudget
      · exact .inl (.inr ⟨rfl, hbudget⟩)
    · refine (hmine.touched hpassed.touched hx).mono fun hanswered => .inl ?_
      exact hanswered.resolve_right hx
  cases r with
  | inl _ => exact ⟨hhandle', hkept.mono fun hanswered => hanswered.imp_right And.left⟩
  | inr _ => exact ⟨hhandle', hkept⟩

/-- In time, no turn to be sent to changes how it stands with the token. -/
theorem Mine.turned (h : Mine answered c i t token log s) (htime : time < t + kTimeout)
    (hturned : Turned c j time s s') : Mine answered c i t token log s' := by
  by_cases hj : j = i
  · subst hj
    obtain ⟨sent, later, earlier, hlog, hstands⟩ := h
    by_cases hsent : sent = token
    · have hsame : s' = s := by
        obtain ⟨_, hflying, _⟩ | ⟨hlanded, _⟩ := hstands hsent
        · exact hturned.early (fun _ => hflying.deadline ▸ htime) (.inl hflying.awaiting)
        · refine hturned.early (fun hawaiting => absurd (hlanded.awaiting.symm.trans hawaiting) Bool.false_ne_true) (.inr ?_)
          rw [hlanded.next]
          exact htime.trans (by simp [kTimeout, kInterval, Time.milliseconds, Time.seconds])
      exact hsame ▸ ⟨sent, later, earlier, hlog, hstands⟩
    · exact mine_of_ne hlog hsent hturned.touched
  · exact h.touched hturned.touched hj

/-- A poll, of which the turns to be sent to lead to how it stands with the token. -/
theorem total_pollAt_mine (hready : Ready n c time s) (htime : time < t + kTimeout) (S : ℕ → ProbeProcess → Prop)
    (hstart : S 0 (s.beginPoll c time)) (hturn : ∀ j < n, ∀ s s', S j s → Turned c j time s s' → S (j + 1) s')
    (hsent : ∀ s, S n s → Held handle answered c i t token log s) :
    Total (Noisy noise handle token) (pollAt c time) s (pollCost n) fun go s' => go = true ∧
      ∃ s₁, Kept c n (s.beginPoll c time) s₁ ∧ s' = s₁.endPoll c n ∧
        Mine (answered ∨ (s.checkers c).receiveCursor = i) c i t token log s' := by
  refine (total_pollAt
    (I := fun s₁ => Held handle (answered ∨ (s.checkers c).receiveCursor = i ∧ ¬ spent s₁ c < kReceiveBudget)
      c i t token log s₁)
    (Q := Held handle (answered ∨ (s.checkers c).receiveCursor = i) c i t token log)
    hready S hstart hturn (fun s₁ hS hspent => ?_) (held_passes_cursor htime _) (held_passes htime)).post ?_
  · obtain ⟨hhandle, hmine⟩ := hsent s₁ hS
    refine ⟨hhandle, hmine.mono fun hanswered => hanswered.resolve_right fun hend => hend.2 ?_⟩
    rw [hspent]
    decide
  · rintro go s' ⟨hgo, s₁, hkept, ⟨_, hmine⟩, rfl⟩
    exact ⟨hgo, s₁, hkept, rfl, hmine.extend (probe_endPoll i)
      ⟨[.reported c s₁.transitions], rfl, by simp [ProbeEvent.About]⟩⟩

/-- The first poll. -/
theorem total_pollAt_first (hready : Ready n c t s) (hi : i < n) (hhandle : (s.probe c i).handle = handle)
    (hdue : (s.probe c i).nextProbeTime ≤ t)
    (hidle : (s.probe c i).awaitingReply = true → (s.probe c i).probeDeadline ≤ t) :
    Total (Noisy noise handle token) (pollAt c t) s (pollCost n) fun go s' => go = true ∧
      ∃ s₁, Kept c n (s.beginPoll c t) s₁ ∧ s' = s₁.endPoll c n ∧
        Mine ((s.checkers c).receiveCursor = i) c i t token s.log s' := by
  have htime : t < t + kTimeout := Int.lt_add_of_pos_right t (by decide)
  refine (total_pollAt_mine hready htime (fun k s' => (s'.probe c i).handle = handle ∧
    if i < k then Mine False c i t token s.log s'
    else s'.probe c i = s.probe c i ∧ ∃ earlier, s'.log = earlier ++ s.log) ?_ ?_
    fun s' hs' => (show Held handle False c i t token s.log s' from ?_)).post ?_
  · rw [if_neg (Nat.not_lt_zero i), probe_beginPoll]
    exact ⟨hhandle, rfl, [.polled c t], rfl⟩
  · rintro j - s₁ s₂ ⟨hhandle₁, hS⟩ hturned
    refine ⟨(hturned.touched.handle i).trans hhandle₁, ?_⟩
    rcases Nat.lt_trichotomy i j with hlt | heq | hgt
    · rw [if_pos hlt] at hS
      rw [if_pos (hlt.trans (Nat.lt_succ_self j))]
      exact hS.turned htime hturned
    · -- it is sent its token
      subst heq
      rw [if_neg (Nat.lt_irrefl i)] at hS
      rw [if_pos (Nat.lt_succ_self i)]
      obtain ⟨hprobe, earlier, hlog⟩ := hS
      obtain ⟨s₃, htouched, hlaunched⟩ := hturned.late (hprobe ▸ hidle) (hprobe ▸ hdue)
      obtain ⟨completions, hcompletions, _⟩ := htouched.log
      obtain ⟨events, hevents, _⟩ := hlaunched.log
      refine ⟨s₃.nonceSource.nextToken, [], events ++ (completions ++ earlier), ?_, fun _ => .inl ⟨id, ?_, by simp⟩⟩
      · rw [hevents, hcompletions, hlog]
        simp
      · exact hlaunched.flying
    · rw [if_neg (Nat.lt_asymm hgt)] at hS
      rw [if_neg (by omega)]
      obtain ⟨hprobe, earlier, hlog⟩ := hS
      obtain ⟨events, hevents, _⟩ := hturned.touched.log
      exact ⟨(hturned.touched.others i (by omega)).trans hprobe, events ++ earlier, by rw [hevents, hlog, List.append_assoc]⟩
  · rw [if_pos hi] at hs'
    exact hs'
  · rintro go s' ⟨hgo, s₁, hkept, rfl, hmine⟩
    exact ⟨hgo, s₁, hkept, rfl, hmine.mono fun hcursor => .inr hcursor⟩

/-- A later poll, in time. -/
theorem total_pollAt_later (hready : Ready n c time s) (htime : time < t + kTimeout)
    (hhandle : (s.probe c i).handle = handle) (hmine : Mine answered c i t token log s) :
    Total (Noisy noise handle token) (pollAt c time) s (pollCost n) fun go s' => go = true ∧
      ∃ s₁, Kept c n (s.beginPoll c time) s₁ ∧ s' = s₁.endPoll c n ∧
        Mine (answered ∨ (s.checkers c).receiveCursor = i) c i t token log s' := by
  refine total_pollAt_mine hready htime (fun _ => Held handle answered c i t token log) ?_ ?_ fun _ hs' => hs'
  · refine ⟨by rw [probe_beginPoll, hhandle], hmine.extend (probe_beginPoll i) ⟨[.polled c time], rfl, ?_⟩⟩
    simp [ProbeEvent.About]
  · rintro j - s₁ s₂ ⟨hhandle₁, hmine₁⟩ hturned
    exact ⟨(hturned.touched.handle i).trans hhandle₁, hmine₁.turned htime hturned⟩

/-! ### The polls -/

/-- A checker of `n` targets before poll `k` of those that begin at `t`. -/
structure Standing (n i cursor c : ℕ) (t : Time) (handle : ℤ) (k : ℕ) (s : ProbeProcess) : Prop where
  /-- The targets. -/
  count : s.count c = n
  /-- The cursor has gone on by one with each poll. -/
  cursor : (s.checkers c).receiveCursor = (cursor + k) % n
  /-- The sockets are open. -/
  opened : ∀ j < n, 0 ≤ (s.probe c j).handle
  /-- The target has its own. -/
  handle : (s.probe c i).handle = handle
  /-- Time does not go back. -/
  polled : (s.checkers c).hasPolled = true → (s.checkers c).lastPollTime ≤ t + pollCadence * k
  /-- There are tokens left for the polls to come. -/
  tokens : s.nonceSource.lastSequence.toNat + (pollsInTime - k) * n < 2 ^ 64 - 1

section Standing

variable {cursor k : ℕ}

theorem Due.standing (h : Due n i cursor c t s) (hcursor : cursor < n) :
    Standing n i cursor c t (s.probe c i).handle 0 s where
  count := h.count
  cursor := by rw [h.cursor, Nat.add_zero, Nat.mod_eq_of_lt hcursor]
  opened := h.opened
  handle := rfl
  polled := by simpa using h.polled
  tokens := h.tokens

theorem Standing.ready (h : Standing n i cursor c t handle k s) (hn : 0 < n) (hk : k < pollsInTime) :
    Ready n c (t + pollCadence * k) s where
  count := h.count
  cursor := by
    rw [h.cursor]
    exact Nat.mod_lt _ hn
  opened := h.opened
  polled := h.polled
  tokens := by
    have htokens := h.tokens
    have hpoll : n ≤ (pollsInTime - k) * n := Nat.le_mul_of_pos_left n (by omega)
    omega

theorem Standing.next {s₁ : ProbeProcess} (h : Standing n i cursor c t handle k s) (hk : k < pollsInTime)
    (hkept : Kept c n (s.beginPoll c (t + pollCadence * k)) s₁) :
    Standing n i cursor c t handle (k + 1) (s₁.endPoll c n) where
  count := by simp [hkept.count, h.count]
  cursor := by simp [hkept.cursor, h.cursor, Nat.add_assoc]
  opened j hj := by
    rw [probe_endPoll, hkept.handle, probe_beginPoll]
    exact h.opened j hj
  handle := by simp [hkept.handle, h.handle]
  polled := by
    intro _
    rw [polled_endPoll, hkept.polled, polled_beginPoll]
    have hlater : pollCadence * (k : ℤ) ≤ pollCadence * ((k + 1 : ℕ) : ℤ) :=
      Int.mul_le_mul_of_nonneg_left (by omega) (by decide)
    exact Int.add_le_add_left hlater t
  tokens := by
    have hmade : s₁.nonceSource.lastSequence.toNat ≤ s.nonceSource.lastSequence.toNat + n := hkept.tokens
    have htokens := h.tokens
    have hpolls : (pollsInTime - k) * n = (pollsInTime - (k + 1)) * n + n := by
      rw [← Nat.succ_mul]
      congr 1
      omega
    show s₁.nonceSource.lastSequence.toNat + _ < _
    omega

/-- The polls before the deadline. -/
theorem poll_in_time (hk : k < pollsInTime) : t + pollCadence * k < t + kTimeout := by
  have hlast : pollCadence * (k : ℤ) ≤ pollCadence * (24 : ℕ) :=
    Int.mul_le_mul_of_nonneg_left (by have : k < 25 := hk; omega) (by decide)
  exact Int.add_lt_add_left (Int.lt_of_le_of_lt hlast (by decide)) t

/-- The turn of target `i` to be the first. -/
theorem cursor_eq_iff (hi : i < n) (hcursor : cursor < n) (hk : k < n) :
    (cursor + k) % n = i ↔ k = (i + n - cursor) % n := by
  have hturn : (cursor + (i + n - cursor) % n) % n = i := by
    rw [Nat.add_mod_mod, show cursor + (i + n - cursor) = i + n by omega, Nat.add_mod_right, Nat.mod_eq_of_lt hi]
  constructor
  · intro hat
    have hmod : k ≡ (i + n - cursor) % n [MOD n] := Nat.ModEq.add_left_cancel' cursor (hat.trans hturn.symm)
    exact Nat.ModEq.eq_of_lt_of_lt hmod hk (Nat.mod_lt _ (by omega))
  · rintro rfl
    exact hturn

theorem Mine.toAnswered (h : Mine answered c i t token log s) (hanswered : answered) :
    Answered c i t token log s.log := by
  obtain ⟨sent, later, earlier, hlog, hstands⟩ := h
  refine ⟨sent, later, earlier, hlog, fun hsent => ?_⟩
  obtain ⟨hnot, _⟩ | ⟨_, hdone⟩ := hstands hsent
  · exact absurd hanswered hnot
  · exact hdone

/-- **A target whose turn comes in time is isolated**, from any noise. -/
theorem isolated_of_le (noise : Option Bytes → Prop) (hi : i < n) (hcursor : cursor < n)
    (hturn : (i + n - cursor) % n < pollsInTime) : Isolated noise n i cursor := by
  intro s self t token hdue
  refine ⟨pollsInTime * pollCost n, (Total.forEach_range (fun k s' =>
    Standing n i cursor self t (s.probe self i).handle k s' ∧ (k = 0 → s' = s) ∧
      (0 < k → Mine ((i + n - cursor) % n < k) self i t token s.log s')) pollsInTime ?_
    ⟨hdue.standing hcursor, fun _ => rfl, fun h => absurd h (Nat.lt_irrefl 0)⟩).post ?_⟩
  · rintro k hk s₁ ⟨hstanding, hfirst, hlater⟩
    have hready := hstanding.ready (by omega) hk
    have hpoll : Total (Noisy noise (s.probe self i).handle token) (pollAt self (t + pollCadence * k)) s₁ (pollCost n)
        fun go s' => go = true ∧ ∃ s₂, Kept self n (s₁.beginPoll self (t + pollCadence * k)) s₂ ∧ s' = s₂.endPoll self n ∧
          Mine ((i + n - cursor) % n < k ∨ (s₁.checkers self).receiveCursor = i) self i t token s.log s' := by
      cases k with
      | zero =>
        rw [hfirst rfl]
        have hstart : t + pollCadence * ((0 : ℕ) : ℤ) = t := by simp
        rw [hfirst rfl] at hready
        rw [hstart] at hready ⊢
        refine (total_pollAt_first hready hi rfl hdue.due hdue.idle).post ?_
        rintro go s' ⟨hgo, s₂, hkept, hend, hmine⟩
        exact ⟨hgo, s₂, hkept, hend, hmine.mono fun hnow => hnow.resolve_left (Nat.not_lt_zero _)⟩
      | succ k => exact total_pollAt_later hready (poll_in_time hk) hstanding.handle (hlater (Nat.succ_pos k))
    refine hpoll.post ?_
    rintro go s' ⟨hgo, s₂, hkept, rfl, hmine⟩
    refine ⟨hgo, hstanding.next hk hkept, fun h => absurd h (Nat.succ_ne_zero k), fun _ => hmine.mono fun hlt => ?_⟩
    rcases Nat.lt_succ_iff_lt_or_eq.mp hlt with hbefore | hnow
    · exact .inl hbefore
    · have hlast : (i + n - cursor) % n < n := Nat.mod_lt _ (by omega)
      right
      rw [hstanding.cursor]
      exact (cursor_eq_iff hi hcursor (hnow ▸ hlast)).mpr hnow.symm
  · rintro _ s' ⟨_, _, hmine⟩
    exact (hmine (by decide)).toAnswered hturn

/-! ### A crowd of noisy peers -/

/-- Target `j` of a crowd. -/
def crowdTarget (j : ℕ) : ProbeTarget where
  id := [UInt8.ofNat j]
  interfaceName := [0x76]
  ifindex := 1
  sourceMac := .replicate 6 2
  destinationMac := .replicate 6 2
  probeAddress := UInt32.ofNat j + 1
  probePort := 9000

/-- A checker of `n` targets that has sent nothing, with target `j` at socket `j`. -/
def crowd (n cursor : ℕ) : ProbeProcess where
  nonceSource := ⟨0, 0⟩
  clock := 0
  checkers _ :=
    { probes := (List.range n).map fun j => { snapshot := { target := crowdTarget j }, handle := j }
      receiveCursor := cursor }

/-- What target `j` is sent first. -/
def crowdToken (j : ℕ) : ProbePacket := ProbeNonceSequence.nextToken ⟨0, UInt64.ofNat j⟩

/-- Target `i` echoes its token, and there is an empty datagram at every other socket at all times. -/
def jam (i : ℕ) (token : ProbePacket) : Answerer ProbeCall ProbeAnswer
  | .openProbeSocket _ => none
  | .send _ _ => .ok 24
  | .recv handle => .ok (if handle = i then token.toList else [])
  | .nowAtCompletion pollTime => pollTime
  | .now => (0 : ℕ)
  | .next => .destroy 0
  | .follow => .poll 0

/-- The noise of the crowd. -/
def OnlyEmpty : Option Bytes → Prop := (· = some [])

theorem noisy_jam (i : ℕ) (token : ProbePacket) : Noisy OnlyEmpty i token (jam i token) where
  send _ _ := rfl
  completion _ := rfl
  echo := congrArg Except.ok (if_pos rfl)
  others _ hne := ⟨some [], rfl, congrArg Except.ok (if_neg hne)⟩

theorem probe_crowd (hj : j < n) :
    (crowd n cursor).probe c j = { snapshot := { target := crowdTarget j }, handle := j } := by
  simp [ProbeProcess.probe, crowd, List.getElem?_range hj]

theorem due_crowd (hn : n ≤ 64) (hi : i < n) : Due n i cursor c 0 (crowd n cursor) where
  count := by simp [ProbeProcess.count, crowd]
  cursor := rfl
  opened j hj := by simp [probe_crowd hj]
  apart j hj hne := by
    rw [probe_crowd hj, probe_crowd hi]
    exact fun heq => hne (Int.ofNat_inj.mp heq)
  due := by simp [probe_crowd hi]
  idle := by simp [probe_crowd hi]
  polled := by simp [crowd]
  tokens := by
    have htokens : pollsInTime * n ≤ 25 * 64 := Nat.mul_le_mul_left 25 hn
    show 0 + _ < _
    omega

/-- The crowd after its tokens were sent, while target `i` is not read. -/
structure Jammed (n i c : ℕ) (s : ProbeProcess) : Prop where
  /-- The targets. -/
  count : s.count c = n
  /-- All are in flight. -/
  flying : ∀ j < n, Flying (crowdToken j) 0 (s.probe c j)
  /-- Their sockets. -/
  handle : ∀ j < n, (s.probe c j).handle = j
  /-- All that is recorded about target `i` is its token. -/
  log : ∀ event ∈ s.log, event.About c i → event = .sent c i (crowdToken i) 0

/-- What is not about target `i`, and leaves the probes, leaves the crowd. -/
theorem Jammed.extend (h : Jammed n i c s) (hcount : s'.count c = s.count c) (hprobe : ∀ j, s'.probe c j = s.probe c j)
    (hlog : ∃ events, s'.log = events ++ s.log ∧ ∀ event ∈ events, ¬ event.About c i) : Jammed n i c s' where
  count := hcount.trans h.count
  flying j hj := hprobe j ▸ h.flying j hj
  handle j hj := hprobe j ▸ h.handle j hj
  log := by
    intro event hmem habout
    obtain ⟨events, hevents, hnone⟩ := hlog
    rw [hevents, List.mem_append] at hmem
    cases hmem with
    | inl hnew => exact absurd habout (hnone event hnew)
    | inr hold => exact h.log event hold habout

/-- Where the budget is spent, nothing is read. -/
theorem jammed_passes (htime : time < kTimeout) (j : ℕ) :
    Passes OnlyEmpty handle token c time (fun s => Jammed n i c s ∧ kReceiveBudget ≤ spent s c)
      (fun s => Jammed n i c s ∧ kReceiveBudget ≤ spent s c) j := by
  rintro s r s' ⟨hjammed, hspent⟩ hpassed
  cases hpassed with
  | idle _ => exact ⟨hjammed, hspent⟩
  | nothing _ _ hnoise _ => exact absurd hnoise (by simp [OnlyEmpty])
  | late hawaiting hlate _ =>
    have hj : j < n := hjammed.count ▸ lt_of_awaiting hawaiting
    rw [(hjammed.flying j hj).deadline] at hlate
    exact absurd htime (not_lt.mpr (by simpa using hlate))
  | echo _ hbudget _ _ _ _ _ _ => exact absurd hbudget (not_lt.mpr hspent)
  | other _ hbudget _ _ _ _ _ _ _ _ => exact absurd hbudget (not_lt.mpr hspent)

/-- At a socket other than that of target `i` the whole budget is spent. -/
theorem jammed_passes_cursor (htime : time < kTimeout) (hj : j < n) (hne : j ≠ i) :
    Passes OnlyEmpty i token c time (Jammed n i c) (fun s => Jammed n i c s ∧ kReceiveBudget ≤ spent s c) j := by
  intro s r s' hjammed hpassed
  have hhandle : (s.probe c j).handle ≠ i := by
    rw [hjammed.handle j hj]
    exact fun heq => hne (Int.ofNat_inj.mp heq)
  cases hpassed with
  | idle hidle => exact ⟨hjammed, not_lt.mp fun hbudget => hidle ⟨(hjammed.flying j hj).awaiting, hbudget⟩⟩
  | nothing _ _ hnoise _ => exact absurd hnoise (by simp [OnlyEmpty])
  | late _ hlate _ =>
    rw [(hjammed.flying j hj).deadline] at hlate
    exact absurd htime (not_lt.mpr (by simpa using hlate))
  | echo _ _ _ _ _ _ _ hnoise =>
    have hempty := congrArg List.length (Option.some.inj (hnoise hhandle))
    simp at hempty
  | other _ _ htouched _ _ _ _ hprobe _ _ =>
    obtain ⟨events, hevents, hnone⟩ := htouched.log
    refine hjammed.extend htouched.count (fun x => ?_) ⟨events, hevents, hnone i hne.symm⟩
    by_cases hx : x = j
    · rw [hx, hprobe]
    · exact htouched.others x hx

/-- A poll with the cursor elsewhere, of which the turns to be sent to lead to the crowd. -/
theorem total_pollAt_jammed (hready : Ready n c time s) (htime : time < kTimeout)
    (helsewhere : (s.checkers c).receiveCursor ≠ i) (S : ℕ → ProbeProcess → Prop) (hstart : S 0 (s.beginPoll c time))
    (hturn : ∀ j < n, ∀ s s', S j s → Turned c j time s s' → S (j + 1) s') (hsent : ∀ s, S n s → Jammed n i c s) :
    Total (Noisy OnlyEmpty i token) (pollAt c time) s (pollCost n) fun go s' => go = true ∧
      ∃ s₁, Kept c n (s.beginPoll c time) s₁ ∧ s' = s₁.endPoll c n ∧ Jammed n i c s' := by
  refine (total_pollAt hready S hstart hturn (fun s₁ hS _ => hsent s₁ hS)
    (jammed_passes_cursor htime hready.cursor helsewhere) (jammed_passes htime)).post ?_
  rintro go s' ⟨hgo, s₁, hkept, ⟨hjammed, _⟩, rfl⟩
  refine ⟨hgo, s₁, hkept, rfl, hjammed.extend count_endPoll probe_endPoll ⟨[.reported c s₁.transitions], rfl, ?_⟩⟩
  simp [ProbeEvent.About]

/-- The first poll sends its token to each of the crowd. -/
theorem total_pollAt_crowd (hready : Ready n c 0 (crowd n cursor)) (helsewhere : cursor ≠ i) :
    Total (Noisy OnlyEmpty i token) (pollAt c 0) (crowd n cursor) (pollCost n) fun go s' => go = true ∧
      ∃ s₁, Kept c n ((crowd n cursor).beginPoll c 0) s₁ ∧ s' = s₁.endPoll c n ∧ Jammed n i c s' := by
  refine total_pollAt_jammed hready (by decide) helsewhere (fun k s => s.count c = n ∧
    s.nonceSource = ⟨0, UInt64.ofNat k⟩ ∧ (∀ j < k, Flying (crowdToken j) 0 (s.probe c j)) ∧
    (∀ j, k ≤ j → s.probe c j = (crowd n cursor).probe c j) ∧ (∀ j < n, (s.probe c j).handle = j) ∧
    ∀ event ∈ s.log, event.About c i → event = .sent c i (crowdToken i) 0) ?_ ?_ ?_
  · refine ⟨count_beginPoll.trans hready.count, rfl, fun j hj => absurd hj (Nat.not_lt_zero j), fun j _ => probe_beginPoll j,
      fun j hj => by rw [probe_beginPoll, probe_crowd hj], ?_⟩
    show ∀ event ∈ [ProbeEvent.polled c 0], _
    simp [ProbeEvent.About]
  · rintro k hk s s' ⟨hcount, hnonce, hflying, hrest, hhandle, hlog⟩ hturned
    have hprobe := (hrest k le_rfl).trans (probe_crowd hk)
    have hlaunched := hturned.idle (by rw [hprobe]) (by rw [hprobe])
    have htoken : s.nonceSource.nextToken = crowdToken k := by rw [hnonce, crowdToken]
    refine ⟨hturned.touched.count.trans hcount, ?_, fun j hj => ?_, fun j hj => ?_,
      fun j hj => (hturned.touched.handle j).trans (hhandle j hj), fun event hmem habout => ?_⟩
    · rw [hlaunched.nonce, hnonce, UInt64.ofNat_add]
      rfl
    · by_cases hjk : j = k
      · exact hjk ▸ htoken ▸ hlaunched.flying
      · rw [hturned.touched.others j hjk]
        exact hflying j (by omega)
    · rw [hturned.touched.others j (by omega)]
      exact hrest j (by omega)
    · by_cases hki : k = i
      · subst hki
        obtain ⟨events, hevents, hnone⟩ := hlaunched.log
        rw [hevents, List.mem_cons, List.mem_append] at hmem
        obtain rfl | hnew | hold := hmem
        · rw [htoken]
        · exact absurd habout (hnone event hnew)
        · exact hlog event hold habout
      · obtain ⟨events, hevents, hnone⟩ := hturned.touched.log
        rw [hevents, List.mem_append] at hmem
        cases hmem with
        | inl hnew => exact absurd habout (hnone i (Ne.symm hki) event hnew)
        | inr hold => exact hlog event hold habout
  · rintro s ⟨hcount, _, hflying, _, hhandle, hlog⟩
    exact ⟨hcount, hflying, hhandle, hlog⟩

/-- The polls after it send nothing. -/
theorem total_pollAt_crowded (hready : Ready n c time s) (htime : time < kTimeout)
    (helsewhere : (s.checkers c).receiveCursor ≠ i) (hjammed : Jammed n i c s) :
    Total (Noisy OnlyEmpty i token) (pollAt c time) s (pollCost n) fun go s' => go = true ∧
      ∃ s₁, Kept c n (s.beginPoll c time) s₁ ∧ s' = s₁.endPoll c n ∧ Jammed n i c s' := by
  refine total_pollAt_jammed hready htime helsewhere (fun _ => Jammed n i c) ?_ ?_ fun _ h => h
  · refine hjammed.extend count_beginPoll probe_beginPoll ⟨[.polled c time], rfl, ?_⟩
    simp [ProbeEvent.About]
  · intro j hj s₁ s₂ hjammed₁ hturned
    have hflying := hjammed₁.flying j hj
    have hearly : time < (s₁.probe c j).probeDeadline := by
      rw [hflying.deadline]
      simpa using htime
    rw [hturned.early (fun _ => hearly) (.inl hflying.awaiting)]
    exact hjammed₁

/-- In the polls before the deadline the cursor does not come to target `i`, if it is too far ahead. -/
theorem total_pollFrom_crowd (hn : n ≤ 64) (hi : i < n) (hcursor : cursor < n)
    (hfar : pollsInTime ≤ (i + n - cursor) % n) :
    Total (Noisy OnlyEmpty i token) (pollFrom c 0 pollsInTime) (crowd n cursor) (pollsInTime * pollCost n)
      fun _ s' => Jammed n i c s' := by
  have hdue : Due n i cursor c 0 (crowd n cursor) := due_crowd hn hi
  refine (Total.forEach_range (fun k s => Standing n i cursor c 0 i k s ∧ (k = 0 → s = crowd n cursor) ∧
    (0 < k → Jammed n i c s)) pollsInTime ?_ ⟨?_, fun _ => rfl, fun h => absurd h (Nat.lt_irrefl 0)⟩).post
    fun _ s' hs' => hs'.2.2 (by decide)
  · rintro k hk s ⟨hstanding, hfirst, hlater⟩
    have hready := hstanding.ready (by omega) hk
    have htime : (0 : Time) + pollCadence * k < kTimeout := by simpa using poll_in_time (t := 0) hk
    have helsewhere : (s.checkers c).receiveCursor ≠ i := by
      have hlast : (i + n - cursor) % n < n := Nat.mod_lt _ (by omega)
      rw [hstanding.cursor, Ne, cursor_eq_iff hi hcursor (by omega)]
      omega
    have hpoll : Total (Noisy OnlyEmpty i token) (pollAt c (0 + pollCadence * k)) s (pollCost n) fun go s' => go = true ∧
        ∃ s₁, Kept c n (s.beginPoll c (0 + pollCadence * k)) s₁ ∧ s' = s₁.endPoll c n ∧ Jammed n i c s' := by
      cases k with
      | zero =>
        have hstart : (0 : Time) + pollCadence * ((0 : ℕ) : ℤ) = 0 := by simp
        rw [hfirst rfl] at hready helsewhere ⊢
        rw [hstart] at hready ⊢
        exact total_pollAt_crowd hready helsewhere
      | succ k => exact total_pollAt_crowded hready htime helsewhere (hlater (Nat.succ_pos k))
    refine hpoll.post ?_
    rintro go s' ⟨hgo, s₁, hkept, rfl, hjammed⟩
    exact ⟨hgo, hstanding.next hk hkept, fun h => absurd h (Nat.succ_ne_zero k), fun _ => hjammed⟩
  · have hstanding := hdue.standing hcursor
    rwa [probe_crowd hi] at hstanding

/-- Target `i` was not answered. -/
theorem Jammed.not_answered (h : Jammed n i c s) : ¬ Answered c i 0 (crowdToken i) [] s.log := by
  rintro ⟨sent, later, earlier, hlog, hstands⟩
  have hsent := h.log (.sent c i sent 0) (by simp [hlog]) ⟨rfl, rfl⟩
  obtain ⟨⟨target, hmem⟩, _⟩ := hstands (ProbeEvent.sent.inj hsent).2.2.1
  have hcompleted := h.log (.completed c i target true) (by simp [hlog, hmem]) ⟨rfl, rfl⟩
  exact ProbeEvent.noConfusion hcompleted

/-- **A target that is too far ahead of the cursor is not isolated**, even from empty datagrams. -/
theorem not_isolated_of_far {noise : Option Bytes → Prop} (hnoise : noise (some [])) (hn : n ≤ 64) (hi : i < n)
    (hcursor : cursor < n) (hfar : pollsInTime ≤ (i + n - cursor) % n) : ¬ Isolated noise n i cursor := by
  intro hisolated
  obtain ⟨enough, hanswered⟩ := hisolated (crowd n cursor) 0 0 (crowdToken i) (due_crowd hn hi)
  rw [probe_crowd hi] at hanswered
  have hallowed : ∀ answer, Noisy OnlyEmpty i (crowdToken i) answer → Noisy noise i (crowdToken i) answer := by
    intro answer hanswer
    refine { hanswer with others := fun h hne => ?_ }
    obtain ⟨datagram, rfl, hrecv⟩ := hanswer.others h hne
    exact ⟨_, hnoise, hrecv⟩
  obtain ⟨_, s', hanswered', hjammed⟩ := ((hanswered.allowed hallowed).both
    (total_pollFrom_crowd hn hi hcursor hfar)).exists_run (noisy_jam i (crowdToken i))
  exact hjammed.not_answered hanswered'

/-- **When a target is isolated from the noise of its peers**: if the cursor, which goes on by one with each poll, comes
to it in the 25 polls before its deadline. -/
theorem isolated_iff {noise : Option Bytes → Prop} (hnoise : noise (some [])) (hn : n ≤ 64) (hi : i < n)
    (hcursor : cursor < n) : Isolated noise n i cursor ↔ (i + n - cursor) % n ≤ 24 := by
  constructor
  · intro hisolated
    by_contra hfar
    exact not_isolated_of_far hnoise hn hi hcursor (not_le.mp hfar) hisolated
  · intro hnear
    exact isolated_of_le noise hi hcursor (Nat.lt_succ_of_le hnear)

/-- Any noise, and the last of the targets that are safe from it. -/
theorem isolated_iff_noise : Isolated (fun _ => True) 64 24 0 ↔ (24 + 64 - 0) % 64 ≤ 24 :=
  isolated_iff trivial (by decide) (by decide) (by decide)

/-- The last of 26 targets is not isolated from empty datagrams at the others, when the cursor is at the first. -/
theorem not_isolated_crowd : ¬ Isolated (fun datagram => datagram = some []) 26 25 0 :=
  not_isolated_of_far rfl (by decide) (by decide) (by decide) (by decide)

end Standing

end L4lb.Health
