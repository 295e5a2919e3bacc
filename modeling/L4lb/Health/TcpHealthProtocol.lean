import L4lb.Health.TcpHealthChecker

/-!
# The protocol of the TCP health checker

Each backend has one probe at a time; a probe is started when it is due, gets a token or
a result at once, and is completed once, by its own event, by its deadline or by an error.

## The model

The history says for each backend whether a probe is in flight and with which token and
deadline (`inFlight`), when the last was completed, and with which results. `Allowed`
says which event may follow a history.

## What is proved

Every event of every run was allowed, and the checker agrees with its history (`Kept`),
at every point of every poll; between polls a backend has a token exactly when its probe
is in flight (`tcp_health_protocol`).
-/

namespace L4lb.Health.TcpHealthChecker

open Effect Prog Relation

/-! ### What the history says -/

/-- The probe of a backend: none, one that was started, or one with a token and a deadline. -/
def inFlight (b : ℕ) : List HealthEvent → Option (Option (ℕ × Time))
  | [] => none
  | .started b' :: log => if b' = b then some none else inFlight b log
  | .launched b' token deadline :: log =>
    if b' = b then some (some (token, deadline)) else inFlight b log
  | .completed b' _ _ :: log => if b' = b then none else inFlight b log
  | .polled _ _ :: log | .connected _ :: log | .errorRead _ _ :: log => inFlight b log

/-- The time and the events of the poll under way. -/
def lastPoll : List HealthEvent → Option (Time × List ℕ)
  | [] => none
  | .polled time tokens :: _ => some (time, tokens)
  | .started _ :: log | .connected _ :: log | .launched _ _ _ :: log | .errorRead _ _ :: log
  | .completed _ _ _ :: log => lastPoll log

/-- The poll under way has completed a probe of the backend. -/
def settled (b : ℕ) : List HealthEvent → Bool
  | [] => false
  | .polled _ _ :: _ => false
  | .completed b' _ _ :: log => b' = b || settled b log
  | .started _ :: log | .connected _ :: log | .launched _ _ _ :: log | .errorRead _ _ :: log => settled b log

/-- When the last probe of a backend was completed. -/
def lastCompletion (b : ℕ) : List HealthEvent → Option Time
  | [] => none
  | .completed b' _ time :: log => if b' = b then some time else lastCompletion b log
  | .polled _ _ :: log | .started _ :: log | .connected _ :: log | .launched _ _ _ :: log
  | .errorRead _ _ :: log => lastCompletion b log

/-- The results of a backend, oldest first. -/
def results (b : ℕ) : List HealthEvent → List Bool
  | [] => []
  | .completed b' success _ :: log => if b' = b then results b log ++ [success] else results b log
  | .polled _ _ :: log | .started _ :: log | .connected _ :: log | .launched _ _ _ :: log
  | .errorRead _ _ :: log => results b log

/-- How many probes of a backend were started. -/
def starts (b : ℕ) : List HealthEvent → ℕ
  | [] => 0
  | .started b' :: log => if b' = b then starts b log + 1 else starts b log
  | .polled _ _ :: log | .completed _ _ _ :: log | .connected _ :: log | .launched _ _ _ :: log
  | .errorRead _ _ :: log => starts b log

/-- What may complete a probe: the error or the success of its start; its deadline; a
registration that failed; its `SO_ERROR`, read for its own event. -/
def Completes (b : ℕ) (success : Bool) (now : Time) (log : List HealthEvent) : Prop :=
  match inFlight b log with
  | none => False
  | some none => success = true ↔ log.head? = some (.connected b)
  | some (some (token, deadline)) =>
    success = false ∧ deadline ≤ now ∨
      success = false ∧ log.head? = some (.launched b token deadline) ∨
      ∃ result, log.head? = some (.errorRead b result) ∧ (success = true ↔ result = .ok 0)

/-- What may follow a history. -/
def Allowed (options : TcpHealthCheckOptions) (event : HealthEvent) (log : List HealthEvent) : Prop :=
  match event with
  | .polled _ _ => True
  | .started b =>
    inFlight b log = none ∧ settled b log = false ∧ ∃ now tokens, lastPoll log = some (now, tokens) ∧
      ∀ time, lastCompletion b log = some time → time + options.interval ≤ now
  | .connected b => log.head? = some (.started b)
  | .launched b token deadline =>
    inFlight b log = some none ∧ token ≠ 0 ∧
      (∀ b' token' deadline', .launched b' token' deadline' ∈ log → token' < token) ∧
      ∃ now tokens, lastPoll log = some (now, tokens) ∧ deadline = now + options.timeout
  | .errorRead b _ =>
    ∃ token deadline now tokens, inFlight b log = some (some (token, deadline)) ∧
      lastPoll log = some (now, tokens) ∧ now < deadline ∧ token ∈ tokens
  | .completed b success now =>
    (∃ tokens, lastPoll log = some (now, tokens)) ∧ settled b log = false ∧ Completes b success now log

/-- Everything that happened was allowed when it did. -/
def Legal (options : TcpHealthCheckOptions) (log : List HealthEvent) : Prop :=
  ∀ event rest, event :: rest <:+ log → Allowed options event rest

theorem Legal.cons {options : TcpHealthCheckOptions} {event : HealthEvent} {log : List HealthEvent}
    (h : Legal options log) (hnew : Allowed options event log) : Legal options (event :: log) := by
  intro event' rest hs
  rcases List.suffix_cons_iff.mp hs with heq | hs
  · obtain ⟨rfl, rfl⟩ := List.cons.inj heq
    exact hnew
  · exact h event' rest hs

/-- More has happened, in one poll. -/
def Extends (log log' : List HealthEvent) : Prop :=
  ∃ added, log' = added ++ log ∧ ∀ time tokens, .polled time tokens ∉ added

theorem Extends.refl (log : List HealthEvent) : Extends log log := ⟨[], rfl, fun _ _ => List.not_mem_nil⟩

theorem Extends.trans {log log' log'' : List HealthEvent} (h : Extends log log') (h' : Extends log' log'') :
    Extends log log'' := by
  obtain ⟨added, rfl, hnone⟩ := h
  obtain ⟨added', rfl, hnone'⟩ := h'
  refine ⟨added' ++ added, (List.append_assoc added' added log).symm, fun time tokens hm => ?_⟩
  exact (List.mem_append.mp hm).elim (hnone' time tokens) (hnone time tokens)

theorem Extends.cons {event : HealthEvent} (h : ∀ time tokens, event ≠ .polled time tokens) (log : List HealthEvent) :
    Extends log (event :: log) :=
  ⟨[event], rfl, fun time tokens hm => h time tokens (List.mem_singleton.mp hm).symm⟩

theorem Extends.lastPoll {log log' : List HealthEvent} (h : Extends log log') : lastPoll log' = lastPoll log := by
  obtain ⟨added, rfl, hnone⟩ := h
  induction added with
  | nil => rfl
  | cons event added ih =>
    have ih := ih fun time tokens hm => hnone time tokens (List.mem_cons_of_mem _ hm)
    cases event with
    | polled time tokens => exact absurd List.mem_cons_self (hnone time tokens)
    | _ => exact ih

/-- What a poll has settled, it has completed. -/
theorem completed_of_settled {b : ℕ} {now : Time} {tokens : List ℕ} {added log : List HealthEvent}
    (h : settled b (added ++ .polled now tokens :: log) = true) :
    ∃ success time, .completed b success time ∈ added := by
  induction added with
  | nil => cases h
  | cons event added ih =>
    cases event with
    | polled time tokens => cases h
    | completed b' success time =>
      simp only [List.cons_append, settled, Bool.or_eq_true, decide_eq_true_eq] at h
      rcases h with rfl | h
      · exact ⟨success, time, List.mem_cons_self⟩
      · obtain ⟨success', time', hm⟩ := ih h
        exact ⟨success', time', List.mem_cons_of_mem _ hm⟩
    | _ =>
      obtain ⟨success, time, hm⟩ := ih h
      exact ⟨success, time, List.mem_cons_of_mem _ hm⟩

/-! ### The checker and its history -/

/-- The checker agrees with its history. -/
structure Kept (s : TcpHealthChecker) : Prop where
  /-- All that happened was allowed. -/
  legal : Legal s.options s.log
  /-- A backend's state is what its own results make it. -/
  state : ∀ b, s.backendState b = HealthState.run {} (results b s.log)
  /-- The next probe waits for the interval after the last. -/
  ready : ∀ b time, lastCompletion b s.log = some time →
    (s.probes b).nextProbeTime = time + s.options.interval
  /-- A token is that of the probe in flight. -/
  flying : ∀ b, (s.probes b).token ≠ 0 →
    inFlight b s.log = some (some ((s.probes b).token, (s.probes b).probeDeadline))
  /-- Every token so far is below the next. -/
  fresh : ∀ b token deadline, .launched b token deadline ∈ s.log → token < s.nextProbeToken
  /-- The next token is not that of no probe. -/
  pos : s.nextProbeToken ≠ 0

/-- A backend without a token has no probe in flight. -/
def Idle (b : ℕ) (s : TcpHealthChecker) : Prop := (s.probes b).token = 0 → inFlight b s.log = none

/-- Only the backend `b` was touched. -/
structure Moved (b : ℕ) (s s' : TcpHealthChecker) : Prop where
  probes : ∀ b', b' ≠ b → s'.probes b' = s.probes b'
  inFlight : ∀ b', b' ≠ b → inFlight b' s'.log = inFlight b' s.log
  settled : ∀ b', b' ≠ b → settled b' s'.log = settled b' s.log
  log : Extends s.log s'.log
  options : s'.options = s.options
  endpoints : s'.endpoints = s.endpoints

theorem Moved.refl (b : ℕ) (s : TcpHealthChecker) : Moved b s s :=
  ⟨fun _ _ => rfl, fun _ _ => rfl, fun _ _ => rfl, .refl s.log, rfl, rfl⟩

theorem Moved.trans {b : ℕ} {s s' s'' : TcpHealthChecker} (h : Moved b s s') (h' : Moved b s' s'') :
    Moved b s s'' where
  probes b' hb := (h'.probes b' hb).trans (h.probes b' hb)
  inFlight b' hb := (h'.inFlight b' hb).trans (h.inFlight b' hb)
  settled b' hb := (h'.settled b' hb).trans (h.settled b' hb)
  log := h.log.trans h'.log
  options := h'.options.trans h.options
  endpoints := h'.endpoints.trans h.endpoints

theorem Moved.idle {b b' : ℕ} {s s' : TcpHealthChecker} (h : Moved b s s') (hb : b' ≠ b) (hi : Idle b' s) :
    Idle b' s' := by
  unfold Idle
  rw [h.probes b' hb, h.inFlight b' hb]
  exact hi

/-- Recording what changes neither results nor tokens. -/
theorem Kept.record {s : TcpHealthChecker} {event : HealthEvent} (h : Kept s) (hnew : Allowed s.options event s.log)
    (hresults : ∀ b, results b (event :: s.log) = results b s.log)
    (hlast : ∀ b, lastCompletion b (event :: s.log) = lastCompletion b s.log)
    (hflight : ∀ b, (s.probes b).token ≠ 0 → inFlight b (event :: s.log) = inFlight b s.log)
    (hlaunched : ∀ b token deadline, event ≠ .launched b token deadline) : Kept (s.record event) where
  legal := h.legal.cons hnew
  state b := (h.state b).trans (congrArg _ (hresults b).symm)
  ready b time ht := h.ready b time ((hlast b).symm.trans ht)
  flying b hb := (hflight b hb).trans (h.flying b hb)
  fresh b token deadline hm :=
    (List.mem_cons.mp hm).elim (fun he => absurd he.symm (hlaunched b token deadline)) (h.fresh b token deadline)
  pos := h.pos

theorem kept_complete {s : TcpHealthChecker} {b : ℕ} {success : Bool} {now : Time} (h : Kept s)
    (hnew : Allowed s.options (.completed b success now) s.log) :
    Kept (s.complete b success now) ∧ Moved b s (s.complete b success now) ∧
      Idle b (s.complete b success now) := by
  have hself : (s.complete b success now).probes b =
      (s.probes b).complete success (now + s.options.interval) := Function.update_self ..
  have hother : ∀ b', b' ≠ b → (s.complete b success now).probes b' = s.probes b' := fun b' hb =>
    Function.update_of_ne hb ..
  refine ⟨⟨h.legal.cons hnew, fun b' => ?_, fun b' time ht => ?_, fun b' hb => ?_, fun b' token deadline hm => ?_,
    h.pos⟩, ⟨hother, fun b' hb => ?_, fun b' hb => ?_, .cons (by nofun) s.log, rfl, rfl⟩, fun _ => ?_⟩
  · show ((s.complete b success now).probes b').state = HealthState.run {} (results b' (.completed b success now :: s.log))
    by_cases hb : b' = b
    · subst hb
      have hstate := h.state b'
      rw [hself, results, if_pos rfl, HealthState.run_concat, ← hstate]
      rfl
    · rw [hother b' hb, results, if_neg (Ne.symm hb)]
      exact h.state b'
  · change lastCompletion b' (.completed b success now :: s.log) = some time at ht
    by_cases hb : b' = b
    · subst hb
      rw [lastCompletion, if_pos rfl] at ht
      rw [hself, ← Option.some.inj ht]
      rfl
    · rw [lastCompletion, if_neg (Ne.symm hb)] at ht
      rw [hother b' hb]
      exact h.ready b' time ht
  · show inFlight b' (.completed b success now :: s.log) = _
    by_cases hne : b' = b
    · subst hne
      rw [hself] at hb
      exact absurd rfl hb
    · rw [hother b' hne] at hb ⊢
      rw [inFlight, if_neg (Ne.symm hne)]
      exact h.flying b' hb
  · rcases List.mem_cons.mp hm with he | hm
    · cases he
    · exact h.fresh b' token deadline hm
  · show inFlight b' (.completed b success now :: s.log) = _
    rw [inFlight, if_neg (Ne.symm hb)]
  · show settled b' (.completed b success now :: s.log) = _
    simp [settled, Ne.symm hb]
  · show inFlight b (.completed b success now :: s.log) = none
    rw [inFlight, if_pos rfl]

/-- Recording what is about a backend. -/
theorem moved_record {s : TcpHealthChecker} {event : HealthEvent} {b : ℕ}
    (hflight : ∀ b', b' ≠ b → TcpHealthChecker.inFlight b' (event :: s.log) = TcpHealthChecker.inFlight b' s.log)
    (hsettled : ∀ b', b' ≠ b → TcpHealthChecker.settled b' (event :: s.log) = TcpHealthChecker.settled b' s.log)
    (hpoll : ∀ time tokens, event ≠ .polled time tokens) : Moved b s (s.record event) :=
  ⟨fun _ _ => rfl, hflight, hsettled, .cons hpoll s.log, rfl, rfl⟩

theorem kept_started {s : TcpHealthChecker} {b : ℕ} (h : Kept s) (hnew : Allowed s.options (.started b) s.log) :
    Kept (s.record (.started b)) ∧ Moved b s (s.record (.started b)) := by
  refine ⟨h.record hnew (fun _ => rfl) (fun _ => rfl) (fun b' hb => ?_) (fun _ _ _ => (by nofun)), ?_⟩
  · by_cases he : b' = b
    · have hflying := h.flying b' hb
      rw [he, hnew.1] at hflying
      cases hflying
    · rw [inFlight, if_neg (Ne.symm he)]
  · exact moved_record (fun b' hb => by rw [inFlight, if_neg (Ne.symm hb)]) (fun _ _ => rfl) fun _ _ he => nomatch he

theorem kept_connected {s : TcpHealthChecker} {b : ℕ} (h : Kept s) (hnew : s.log.head? = some (.started b)) :
    Kept (s.record (.connected b)) ∧ Moved b s (s.record (.connected b)) :=
  ⟨h.record hnew (fun _ => rfl) (fun _ => rfl) (fun _ _ => rfl) fun _ _ _ => (by nofun),
    moved_record (fun _ _ => rfl) (fun _ _ => rfl) fun _ _ he => nomatch he⟩

theorem kept_errorRead {s : TcpHealthChecker} {b : ℕ} (result : Except Errno Errno) (h : Kept s)
    (hnew : Allowed s.options (.errorRead b result) s.log) :
    Kept (s.record (.errorRead b result)) ∧ Moved b s (s.record (.errorRead b result)) :=
  ⟨h.record hnew (fun _ => rfl) (fun _ => rfl) (fun _ _ => rfl) fun _ _ _ => (by nofun),
    moved_record (fun _ _ => rfl) (fun _ _ => rfl) fun _ _ he => nomatch he⟩

/-- A descriptor is no part of the history. -/
theorem kept_setFd {s : TcpHealthChecker} (b fd : ℕ) (h : Kept s) :
    Kept (s.setProbe b { s.probes b with fd := some fd }) ∧
      Moved b s (s.setProbe b { s.probes b with fd := some fd }) := by
  have hprobe : ∀ b', ((s.setProbe b { s.probes b with fd := some fd }).probes b') =
      { s.probes b' with fd := if b' = b then some fd else (s.probes b').fd } := by
    intro b'
    by_cases hb : b' = b
    · subst hb
      simp [setProbe]
    · simp [setProbe, hb]
  refine ⟨⟨h.legal, fun b' => ?_, fun b' time ht => ?_, fun b' hb => ?_, h.fresh, h.pos⟩,
    fun b' hb => ?_, fun _ _ => rfl, fun _ _ => rfl, .refl s.log, rfl, rfl⟩
  · rw [backendState, hprobe]
    exact h.state b'
  · rw [hprobe]
    exact h.ready b' time ht
  · rw [hprobe] at hb ⊢
    exact h.flying b' hb
  · exact Function.update_of_ne hb ..

theorem kept_launch {s : TcpHealthChecker} {b : ℕ} {now : Time} {tokens : List ℕ} (h : Kept s)
    (hflight : inFlight b s.log = some none) (hpoll : lastPoll s.log = some (now, tokens)) :
    Kept (s.launch b now) ∧ Moved b s (s.launch b now) := by
  have hother : ∀ b', b' ≠ b → (s.launch b now).probes b' = s.probes b' := fun b' hb =>
    Function.update_of_ne hb ..
  have hself : (s.launch b now).probes b =
      { s.probes b with token := s.nextProbeToken, probeDeadline := now + s.options.timeout } :=
    Function.update_self ..
  have hnew : Allowed s.options (.launched b s.nextProbeToken (now + s.options.timeout)) s.log :=
    ⟨hflight, h.pos, h.fresh, now, tokens, hpoll, rfl⟩
  refine ⟨⟨h.legal.cons hnew, fun b' => ?_, fun b' time ht => ?_, fun b' hb => ?_, fun b' token deadline hm => ?_,
    Nat.succ_ne_zero _⟩, hother, fun b' hb => ?_, fun _ _ => rfl, .cons (by nofun) s.log, rfl, rfl⟩
  · refine Eq.trans ?_ (h.state b')
    by_cases hb : b' = b
    · rw [backendState, hb, hself]
      rfl
    · rw [backendState, hother b' hb]
      rfl
  · refine Eq.trans ?_ (h.ready b' time ht)
    by_cases hb : b' = b
    · rw [hb, hself]
    · rw [hother b' hb]
  · show inFlight b' (.launched b s.nextProbeToken (now + s.options.timeout) :: s.log) = _
    by_cases hne : b' = b
    · subst hne
      rw [hself, inFlight, if_pos rfl]
    · rw [hother b' hne] at hb ⊢
      rw [inFlight, if_neg (Ne.symm hne)]
      exact h.flying b' hb
  · show token < s.nextProbeToken + 1
    rcases List.mem_cons.mp hm with he | hm
    · cases he
      omega
    · exact (h.fresh b' token deadline hm).trans (Nat.lt_succ_self _)
  · show inFlight b' (.launched b s.nextProbeToken (now + s.options.timeout) :: s.log) = _
    rw [inFlight, if_neg (Ne.symm hb)]

/-! ### The runs -/

/-- What a method that serves the backend `b` leaves behind. -/
def Served (b : ℕ) (s s' : TcpHealthChecker) : Prop := Kept s' ∧ Moved b s s' ∧ Idle b s'

/-- What it leaves when it throws: only a probe that found no token stays unfinished. -/
def Failed (b : ℕ) (s : TcpHealthChecker) (e : TcpHealthError) (s' : TcpHealthChecker) : Prop :=
  Kept s' ∧ Moved b s s' ∧ (e ≠ .tokenExhausted → Idle b s')

/-- A step keeps the checker in agreement with its history, and what it was made for. -/
def Keeps (s s' : TcpHealthChecker) : Prop :=
  (Kept s → Kept s') ∧ s'.options = s.options ∧ s'.endpoints = s.endpoints

/-- Every step of every run does. -/
abbrev Serves (E : TcpHealthError → TcpHealthChecker → Prop) {α : Type} (m : HealthM α) (s : TcpHealthChecker)
    (Q : α → TcpHealthChecker → Prop) : Prop :=
  Runs Keeps E m s Q

theorem Served.trans {b : ℕ} {s s' s'' : TcpHealthChecker} (h : Moved b s s') (h' : Served b s' s'') :
    Served b s s'' := ⟨h'.1, h.trans h'.2.1, h'.2.2⟩

theorem Failed.trans {b : ℕ} {s s' s'' : TcpHealthChecker} {e : TcpHealthError} (h : Moved b s s')
    (h' : Failed b s' e s'') : Failed b s e s'' := ⟨h'.1, h.trans h'.2.1, h'.2.2⟩

/-- Serving on from a state reached so far. -/
theorem Serves.after {b : ℕ} {s s' : TcpHealthChecker} {m : HealthM Unit} {P : TcpHealthChecker → Prop}
    (h : Moved b s s') (hm : Serves (Failed b s') m s' fun _ s'' => Served b s' s'' ∧ P s'') :
    Serves (Failed b s) m s' fun _ s'' => Served b s s'' ∧ P s'' :=
  hm.mono (fun _ _ _ he => Failed.trans h he) fun _ _ _ hq => ⟨Served.trans h hq.1, hq.2⟩

/-- A completion serves its backend, and settles it for the poll under way. -/
theorem serves_completeBackendProbe {b : ℕ} {success : Bool} {now : Time} {s : TcpHealthChecker} (h : Kept s)
    (hnew : Allowed s.options (.completed b success now) s.log) (reason : String) (error : Errno) :
    Serves (Failed b s) (completeBackendProbe b success reason error now) s fun _ s' =>
      Served b s s' ∧ settled b s'.log = true := by
  have hdone : Served b s (s.complete b success now) := kept_complete h hnew
  have hsettled : settled b (s.complete b success now).log = true := by
    show settled b (.completed b success now :: s.log) = true
    simp [settled]
  unfold completeBackendProbe
  refine Runs.get_bind (Runs.modify_bind (.single ⟨fun _ => hdone.1, rfl, rfl⟩) ?_)
  refine Runs.ite (fun _ => ?_) fun _ => Runs.pure ⟨hdone, hsettled⟩
  refine Runs.call_bind fun threw => ?_
  exact Runs.ite (fun _ => Runs.raise ⟨hdone.1, hdone.2.1, fun _ => hdone.2.2⟩) fun _ => Runs.pure ⟨hdone, hsettled⟩

theorem serves_launchBackendProbe {b fd : ℕ} {now : Time} {tokens : List ℕ} {s : TcpHealthChecker} (h : Kept s)
    (hflight : inFlight b s.log = some none) (hsettled : settled b s.log = false)
    (hpoll : lastPoll s.log = some (now, tokens)) :
    Serves (Failed b s) (launchBackendProbe b fd now) s fun _ s' => Served b s s' ∧ True := by
  obtain ⟨hk, hmoved⟩ := kept_launch h hflight hpoll
  unfold launchBackendProbe
  refine Runs.get_bind (Runs.ite (fun _ => ?_) fun _ => ?_)
  · exact Runs.raise ⟨h, .refl b s, fun he => absurd rfl he⟩
  · refine Runs.modify_bind (.single ⟨fun _ => hk, rfl, rfl⟩) (Runs.call_bind fun answer => ?_)
    rcases answer with _ | error
    · refine Runs.pure ⟨⟨hk, hmoved, fun hz => ?_⟩, trivial⟩
      have htoken : ((s.launch b now).probes b).token = s.nextProbeToken := by
        simp [launch, setProbe, record]
      rw [htoken] at hz
      exact absurd hz h.pos
    · have hfly : inFlight b (s.launch b now).log =
          some (some (s.nextProbeToken, now + s.options.timeout)) := by
        show inFlight b (.launched b _ _ :: s.log) = _
        rw [inFlight, if_pos rfl]
      refine Serves.after hmoved ((serves_completeBackendProbe hk ⟨⟨tokens, hpoll⟩, hsettled, ?_⟩ _ _).post
        fun _ _ _ hq => ⟨hq.1, trivial⟩)
      rw [Completes, hfly]
      exact Or.inr (Or.inl ⟨rfl, rfl⟩)

/-- A probe that has no token yet is completed by the result of its start. -/
theorem allowed_completed {options : TcpHealthCheckOptions} {b : ℕ} {success : Bool} {now : Time} {tokens : List ℕ}
    {log : List HealthEvent} (hflight : inFlight b log = some none) (hsettled : settled b log = false)
    (hpoll : lastPoll log = some (now, tokens)) (hsuccess : success = true ↔ log.head? = some (.connected b)) :
    Allowed options (.completed b success now) log := by
  refine ⟨⟨tokens, hpoll⟩, hsettled, ?_⟩
  rw [Completes, hflight]
  exact hsuccess

theorem serves_startBackendProbe {b : ℕ} {now : Time} {tokens : List ℕ} {s : TcpHealthChecker} (h : Kept s)
    (hpoll : lastPoll s.log = some (now, tokens)) (hnew : Allowed s.options (.started b) s.log) :
    Serves (Failed b s) (startBackendProbe b now) s fun _ s' => Served b s s' ∧ True := by
  obtain ⟨hk, hmoved⟩ := kept_started h hnew
  have hflight : inFlight b (.started b :: s.log) = some none := by rw [inFlight, if_pos rfl]
  have hsettled : settled b (.started b :: s.log) = false := hnew.2.1
  have hpoll' : lastPoll (.started b :: s.log) = some (now, tokens) := hpoll
  unfold startBackendProbe
  refine Runs.modify_bind (.single ⟨fun _ => hk, rfl, rfl⟩) (Runs.call_bind fun answer => ?_)
  rcases answer with error | fd
  · refine Serves.after hmoved ((serves_completeBackendProbe hk ?_ _ _).post fun _ _ _ hq => ⟨hq.1, trivial⟩)
    exact allowed_completed hflight hsettled hpoll' (by simp [record])
  · obtain ⟨hk₁, hmoved₁⟩ := kept_setFd b fd hk
    refine Runs.modify_bind (.single ⟨fun _ => hk₁, rfl, rfl⟩) (Runs.get_bind (Runs.call_bind fun answer => ?_))
    rcases answer with _ | error
    · obtain ⟨hk₂, hmoved₂⟩ := kept_connected (b := b) hk₁ rfl
      refine Runs.modify_bind (.single ⟨fun _ => hk₂, rfl, rfl⟩) ?_
      refine Serves.after ((hmoved.trans hmoved₁).trans hmoved₂)
        ((serves_completeBackendProbe hk₂ ?_ _ _).post fun _ _ _ hq => ⟨hq.1, trivial⟩)
      exact allowed_completed hflight hsettled hpoll' (by simp [record])
    · refine Runs.ite (fun _ => ?_) fun _ => ?_
      · refine Serves.after (hmoved.trans hmoved₁)
          ((serves_completeBackendProbe hk₁ ?_ _ _).post fun _ _ _ hq => ⟨hq.1, trivial⟩)
        exact allowed_completed hflight hsettled hpoll' (by simp [record, setProbe])
      · exact Serves.after (hmoved.trans hmoved₁) (serves_launchBackendProbe hk₁ hflight hsettled hpoll')

theorem serves_readProbeEvent {b : ℕ} {now : Time} {tokens : List ℕ} {s : TcpHealthChecker} (h : Kept s)
    (hpoll : lastPoll s.log = some (now, tokens)) (hsettled : settled b s.log = false)
    (htoken : (s.probes b).token ≠ 0) (hdeadline : now < (s.probes b).probeDeadline)
    (hmem : (s.probes b).token ∈ tokens) :
    Serves (Failed b s) (readProbeEvent b now) s fun _ s' => Served b s s' ∧ settled b s'.log = true := by
  have hflight := h.flying b htoken
  unfold readProbeEvent
  refine Runs.get_bind (Runs.call_bind fun result => ?_)
  obtain ⟨hk, hmoved⟩ := kept_errorRead (b := b) result h
    ⟨_, _, now, tokens, hflight, hpoll, hdeadline, hmem⟩
  refine Runs.modify_bind (.single ⟨fun _ => hk, rfl, rfl⟩) ?_
  -- the event is the last thing in the history, and its result decides
  have hnew : ∀ success, (success = true ↔ result = .ok 0) →
      Allowed s.options (.completed b success now) (s.record (.errorRead b result)).log := by
    intro success hsuccess
    refine ⟨⟨tokens, hpoll⟩, hsettled, ?_⟩
    rw [Completes, show inFlight b (s.record (.errorRead b result)).log = _ from hflight]
    exact Or.inr (Or.inr ⟨result, rfl, hsuccess⟩)
  rcases result with error | error
  · exact Serves.after hmoved (serves_completeBackendProbe hk (hnew false (by simp)) _ _)
  · exact Serves.after hmoved (serves_completeBackendProbe hk (hnew _ (by simp)) _ _)

/-- What a poll has to complete: a probe whose deadline has come, or whose event has. -/
def Due (now : Time) (tokens : List ℕ) (probe : Probe) : Prop :=
  probe.token ≠ 0 ∧ (now ≥ probe.probeDeadline ∨ probe.token ∈ tokens)

/-- **A pass serves its backend**, leaves it with a token exactly if a probe is in flight,
and completes a probe that is due. -/
theorem serves_visitBackend {b : ℕ} {now : Time} {tokens : List ℕ} {s : TcpHealthChecker} (h : Kept s)
    (hidle : Idle b s) (hpoll : lastPoll s.log = some (now, tokens)) (hsettled : settled b s.log = false) :
    Serves (Failed b s) (visitBackend now tokens b) s fun _ s' =>
      Served b s s' ∧ (Due now tokens (s.probes b) → settled b s'.log = true) := by
  have hsame : Served b s s := ⟨h, .refl b s, hidle⟩
  unfold visitBackend
  refine Runs.get_bind (Runs.ite (fun htimeout => ?_) fun htimeout => Runs.ite (fun htoken => ?_) fun htoken => ?_)
  · refine (serves_completeBackendProbe h ⟨⟨tokens, hpoll⟩, hsettled, ?_⟩ _ _).post fun _ _ _ hq => ⟨hq.1, fun _ => hq.2⟩
    rw [Completes, h.flying b htimeout.1]
    exact Or.inl ⟨rfl, htimeout.2⟩
  · refine Runs.when (fun hmem => ?_) fun hmem => ⟨hsame, fun hdue => ?_⟩
    · exact (serves_readProbeEvent h hpoll hsettled htoken (lt_of_not_ge fun hd => htimeout ⟨htoken, hd⟩) hmem).post
        fun _ _ _ hq => ⟨hq.1, fun _ => hq.2⟩
    · exact absurd hdue.2 (not_or.mpr ⟨fun hd => htimeout ⟨htoken, hd⟩, hmem⟩)
  · refine Runs.when (fun hdue => ?_) fun _ => ⟨hsame, fun hdue => absurd hdue.1 htoken⟩
    refine (serves_startBackendProbe h hpoll ⟨hidle (not_not.mp htoken), hsettled, now, tokens, hpoll,
      fun time ht => ?_⟩).post fun _ _ _ hq => ⟨hq.1, fun hdue => absurd hdue.1 htoken⟩
    rw [← h.ready b time ht]
    exact hdue

/-- What has happened since is one poll, which has completed every probe that was due when it began. -/
def Processed (s s' : TcpHealthChecker) : Prop :=
  ∃ now tokens added, s'.log = added ++ .polled now tokens :: s.log ∧
    (∀ time tokens', .polled time tokens' ∉ added) ∧
    ∀ b < s.backendCount, Due now tokens (s.probes b) → ∃ success time, .completed b success time ∈ added

/-- What a poll throws leaves the checker in agreement with its history, and if it has not run out of tokens,
no probe half started. -/
def PollFailed (e : TcpHealthError) (s' : TcpHealthChecker) : Prop := Kept s' ∧ (e ≠ .tokenExhausted → ∀ b, Idle b s')

/-- **A poll keeps the checker in agreement with its history**, whatever it is told, and
completes every probe that is due. -/
theorem serves_processEvents {s : TcpHealthChecker} (h : Kept s) (hidle : ∀ b, Idle b s) (now : Time)
    (tokens : List ℕ) :
    Serves PollFailed (processEvents now tokens) s fun _ s' => Kept s' ∧ (∀ b, Idle b s') ∧ Processed s s' := by
  refine Runs.ite (fun _ => Runs.raise ⟨h, fun _ => hidle⟩) fun _ => ?_
  have hk : Kept (s.record (.polled now tokens)) :=
    h.record trivial (fun _ => rfl) (fun _ => rfl) (fun _ _ => rfl) fun _ _ _ => (by nofun)
  refine Runs.modify_bind (.single ⟨fun _ => hk, rfl, rfl⟩) (Runs.get_bind ?_)
  -- the backends to come are as they were and not settled; those gone through are if they were due
  refine (Runs.forEach_rest (Q := fun s' => Kept s' ∧ (∀ b, Idle b s') ∧ Processed s s')
    (fun rest s' => Kept s' ∧ (∀ b, Idle b s') ∧ Extends (.polled now tokens :: s.log) s'.log ∧ rest.Nodup ∧
      (∀ b ∈ rest, settled b s'.log = false ∧ s'.probes b = s.probes b) ∧
      ∀ b < s.backendCount, b ∉ rest → Due now tokens (s.probes b) → settled b s'.log = true)
    _ (fun b rest s₁ hI => ?_)
    (fun s' hI => ?_)
    ⟨hk, hidle, .refl _, List.nodup_range, fun _ _ => ⟨rfl, rfl⟩, fun b hb hnot =>
      absurd (List.mem_range.mpr hb) hnot⟩)
  swap
  · obtain ⟨hk', hidle', ⟨added, hlog, hnone⟩, -, -, hdone⟩ := hI
    refine ⟨hk', hidle', now, tokens, added, hlog, hnone, fun b hb hdue => ?_⟩
    have hsettled := hdone b hb List.not_mem_nil hdue
    rw [hlog] at hsettled
    exact completed_of_settled hsettled
  obtain ⟨hk₁, hidle₁, hextends, hnodup, htodo, hdone⟩ := hI
  have hpoll₁ : lastPoll s₁.log = some (now, tokens) := hextends.lastPoll
  obtain ⟨hnot, hnodup⟩ := List.nodup_cons.mp hnodup
  obtain ⟨hsettled₁, hprobe₁⟩ := htodo b List.mem_cons_self
  have hall : ∀ s₂, Moved b s₁ s₂ → Idle b s₂ → ∀ b', Idle b' s₂ := by
    intro s₂ hmoved hb b'
    by_cases he : b' = b
    · exact he ▸ hb
    · exact hmoved.idle he (hidle₁ b')
  refine Runs.bind (Q := fun _ s₂ => Served b s₁ s₂ ∧ (Due now tokens (s₁.probes b) → settled b s₂.log = true))
    ((serves_visitBackend hk₁ (hidle₁ b) hpoll₁ hsettled₁).mono ?_ ?_) ?_
  · rintro e s₂ - ⟨hk₂, hmoved, hb⟩
    exact ⟨hk₂, fun he => hall s₂ hmoved (hb he)⟩
  · exact fun _ _ _ hserved => hserved
  · rintro - s₂ - ⟨⟨hk₂, hmoved, hb⟩, hdue⟩
    refine Runs.pure ⟨hk₂, hall s₂ hmoved hb, hextends.trans hmoved.log, hnodup, fun b' hb' => ?_,
      fun b' hb' hnot' hdue' => ?_⟩
    · have hne : b' ≠ b := fun he => hnot (he ▸ hb')
      have := htodo b' (List.mem_cons_of_mem _ hb')
      exact ⟨(hmoved.settled b' hne).trans this.1, (hmoved.probes b' hne).trans this.2⟩
    · by_cases he : b' = b
      · subst he
        exact hdue (by rw [hprobe₁]; exact hdue')
      · rw [hmoved.settled b' he]
        exact hdone b' hb' (fun hm => (List.mem_cons.mp hm).elim he hnot') hdue'

/-- A poll whose wait was interrupted does nothing. -/
theorem serves_pollHealthProbes {s : TcpHealthChecker} (h : Kept s) (hidle : ∀ b, Idle b s) :
    Serves PollFailed pollHealthProbes s fun _ s' => Kept s' ∧ ∀ b, Idle b s' := by
  unfold pollHealthProbes
  refine Runs.call_bind fun now => Runs.call_bind fun answer => ?_
  rcases answer with error | tokens
  · exact Runs.ite (fun _ => Runs.pure ⟨h, hidle⟩) fun _ => Runs.raise ⟨h, fun _ => hidle⟩
  · exact (serves_processEvents h hidle now tokens).post fun _ _ _ hq => ⟨hq.1, hq.2.1⟩

/-- **A poll whose wait is not interrupted completes every probe that is due.** -/
theorem processed_pollHealthProbes {s : TcpHealthChecker} (h : Kept s) (hidle : ∀ b, Idle b s)
    {script : List (Answerer HealthCall HealthAnswer)}
    (hwait : ∀ answer ∈ script, answer .epollPoll ≠ .error Errno.EINTR)
    {w : World HealthCall HealthAnswer TcpHealthChecker} (hrun : pollHealthProbes ⟨script, s⟩ = (.ok (), w)) :
    Processed s w.state := by
  rcases script with _ | ⟨first, _ | ⟨second, rest⟩⟩
  · cases hrun
  · cases hrun
  cases hanswer : second .epollPoll with
  | error error =>
    have hne : error ≠ Errno.EINTR := fun he =>
      hwait second (List.mem_cons_of_mem _ List.mem_cons_self) (hanswer.trans (congrArg _ he))
    simp only [pollHealthProbes, askHealth, run_bind, run_call_cons, hanswer, if_neg hne, run_raise] at hrun
    cases hrun
  | ok tokens =>
    simp only [pollHealthProbes, askHealth, run_bind, run_call_cons, hanswer] at hrun
    exact ((serves_processEvents h hidle _ _).of_ok hrun).2.2.2

/-! ### Events of other probes -/

/-- The events of a poll that are of a probe in flight. -/
def ownEvents (s : TcpHealthChecker) (tokens : List ℕ) : List ℕ :=
  tokens.filter fun token => (List.range s.backendCount).any fun b => token ≠ 0 && (s.probes b).token = token

theorem mem_ownEvents {s : TcpHealthChecker} {tokens : List ℕ} {b : ℕ} (hb : b < s.backendCount)
    (htoken : (s.probes b).token ≠ 0) :
    (s.probes b).token ∈ ownEvents s tokens ↔ (s.probes b).token ∈ tokens := by
  simp only [ownEvents, List.mem_filter, and_iff_left_iff_imp, List.any_eq_true, List.mem_range]
  exact fun _ => ⟨b, hb, by simp [htoken]⟩

/-- A pass asks of the events only whether its own is among them. -/
theorem visitBackend_congr (now : Time) {tokens tokens' : List ℕ} {b : ℕ} {s : TcpHealthChecker}
    (h : (s.probes b).token ≠ 0 → ((s.probes b).token ∈ tokens ↔ (s.probes b).token ∈ tokens'))
    (script : List (Answerer HealthCall HealthAnswer)) :
    visitBackend now tokens b ⟨script, s⟩ = visitBackend now tokens' b ⟨script, s⟩ := by
  simp only [visitBackend, run_bind, run_get]
  by_cases htimeout : (s.probes b).token ≠ 0 ∧ now ≥ (s.probes b).probeDeadline
  · rw [if_pos htimeout, if_pos htimeout]
  · rw [if_neg htimeout, if_neg htimeout]
    by_cases htoken : (s.probes b).token ≠ 0
    · rw [if_pos htoken, if_pos htoken, Prog.when, Prog.when]
      by_cases hmem : (s.probes b).token ∈ tokens
      · rw [if_pos hmem, if_pos ((h htoken).mp hmem)]
      · rw [if_neg hmem, if_neg fun hm => hmem ((h htoken).mpr hm)]
    · rw [if_neg htoken, if_neg htoken]

/-- **Events of other probes do nothing**: a poll goes as if it had been told of those in flight alone. -/
theorem forEach_ownEvents {now : Time} {tokens : List ℕ} {s : TcpHealthChecker} (s₀ : TcpHealthChecker) {todo : List ℕ}
    (hk : Kept s) (hidle : ∀ b, Idle b s) (hpoll : lastPoll s.log = some (now, tokens))
    (hsettled : ∀ b ∈ todo, settled b s.log = false) (hnodup : todo.Nodup)
    (hsame : ∀ b ∈ todo, b < s₀.backendCount ∧ s.probes b = s₀.probes b)
    (script : List (Answerer HealthCall HealthAnswer)) :
    forEach (pollBackend now tokens) todo ⟨script, s⟩ =
      forEach (pollBackend now (ownEvents s₀ tokens)) todo ⟨script, s⟩ := by
  induction todo generalizing s script with
  | nil => rfl
  | cons b todo ih =>
    obtain ⟨hnot, hnodup⟩ := List.nodup_cons.mp hnodup
    obtain ⟨hb, hprobe⟩ := hsame b List.mem_cons_self
    have hvisit := @visitBackend_congr now tokens (ownEvents s₀ tokens) b s (fun htoken => by
        rw [hprobe] at htoken ⊢
        exact (mem_ownEvents hb htoken).symm) script
    have hserves := serves_visitBackend hk (hidle b) hpoll (hsettled b List.mem_cons_self)
    simp only [forEach, pollBackend, run_bind, run_pure, ← hvisit]
    rcases hrun : visitBackend now tokens b ⟨script, s⟩ with ⟨o, w⟩
    cases o with
    | thrown e => rfl
    | cut => rfl
    | ok u =>
      obtain ⟨-, ⟨hk₂, hmoved, hb₂⟩, -⟩ := hserves.of_ok hrun
      simp only [if_true]
      refine ih hk₂ (fun b' => ?_) (hmoved.log.lastPoll.trans hpoll) (fun b' hb' => ?_) hnodup (fun b' hb' => ?_) w.script
      · by_cases he : b' = b
        · exact he ▸ hb₂
        · exact hmoved.idle he (hidle b')
      · rw [hmoved.settled b' fun he => hnot (he ▸ hb')]
        exact hsettled b' (List.mem_cons_of_mem _ hb')
      · rw [hmoved.probes b' fun he => hnot (he ▸ hb')]
        exact hsame b' (List.mem_cons_of_mem _ hb')

/-! ### Every run -/

/-- The checkers between polls. A poll may have thrown; when the tokens have run out, the
run is over. -/
inductive Reachable (endpoints : List Endpoint) (options : TcpHealthCheckOptions) : TcpHealthChecker → Prop where
  /-- As it was constructed. -/
  | construct {s : TcpHealthChecker} (h : construct endpoints options none = .ok s) : Reachable endpoints options s
  /-- With its callback. -/
  | callback {s : TcpHealthChecker} (h : Reachable endpoints options s) :
      Reachable endpoints options s.setHealthChangeCallback
  /-- After a poll. -/
  | poll {s : TcpHealthChecker} (h : Reachable endpoints options s) {script : List (Answerer HealthCall HealthAnswer)}
      {w : World HealthCall HealthAnswer TcpHealthChecker} (hrun : pollHealthProbes ⟨script, s⟩ = (.ok (), w)) :
      Reachable endpoints options w.state
  /-- After a poll that threw. -/
  | failed {s : TcpHealthChecker} (h : Reachable endpoints options s)
      {script : List (Answerer HealthCall HealthAnswer)} {w : World HealthCall HealthAnswer TcpHealthChecker}
      {e : TcpHealthError} (hrun : pollHealthProbes ⟨script, s⟩ = (.thrown e, w)) (he : e ≠ .tokenExhausted) :
      Reachable endpoints options w.state

/-- The probe of a backend in flight is the one it has a token for. -/
def AtRest (s : TcpHealthChecker) : Prop :=
  ∀ b, inFlight b s.log =
    if (s.probes b).token = 0 then none else some (some ((s.probes b).token, (s.probes b).probeDeadline))

theorem atRest_iff {s : TcpHealthChecker} (h : Kept s) : AtRest s ↔ ∀ b, Idle b s := by
  refine forall_congr' fun b => ?_
  by_cases htoken : (s.probes b).token = 0
  · simp [Idle, htoken]
  · simp [Idle, htoken, h.flying b htoken]

theorem Reachable.kept {endpoints : List Endpoint} {options : TcpHealthCheckOptions} {s : TcpHealthChecker}
    (h : Reachable endpoints options s) : Kept s ∧ (∀ b, Idle b s) := by
  induction h with
  | @construct s h =>
    unfold TcpHealthChecker.construct at h
    split_ifs at h
    cases h
    exact ⟨⟨fun event rest hs => absurd hs (by simp), fun _ => rfl, fun _ _ ht => (by cases ht),
      fun _ ht => absurd rfl ht, fun _ _ _ hm => absurd hm List.not_mem_nil, Nat.one_ne_zero⟩, fun _ _ => rfl⟩
  | callback _ ih => exact ⟨⟨ih.1.legal, ih.1.state, ih.1.ready, ih.1.flying, ih.1.fresh, ih.1.pos⟩, ih.2⟩
  | poll _ hrun ih =>
    obtain ⟨-, hk, hidle⟩ := (serves_pollHealthProbes ih.1 ih.2).of_ok hrun
    exact ⟨hk, hidle⟩
  | failed _ hrun he ih =>
    obtain ⟨-, hk, hidle⟩ := (serves_pollHealthProbes ih.1 ih.2).of_thrown hrun
    exact ⟨hk, hidle he⟩

/-- Each probe that was started was completed once, or is in flight. -/
theorem starts_eq {options : TcpHealthCheckOptions} {log : List HealthEvent} (h : Legal options log) (b : ℕ) :
    starts b log = (results b log).length + (if inFlight b log = none then 0 else 1) := by
  induction log with
  | nil => rfl
  | cons event log ih =>
    have hlog : Legal options log := fun e rest hs => h e rest (hs.trans (List.suffix_cons _ _))
    have hnew := h event log List.suffix_rfl
    have ih := ih hlog
    cases event with
    | polled time tokens => exact ih
    | connected b' => exact ih
    | errorRead b' result => exact ih
    | started b' =>
      by_cases hb : b' = b
      · subst hb
        simp only [starts, results, inFlight, if_true, hnew.1] at ih ⊢
        simp [ih]
      · simpa [starts, results, inFlight, hb] using ih
    | launched b' token deadline =>
      by_cases hb : b' = b
      · subst hb
        simp only [starts, results, inFlight, if_true, hnew.1] at ih ⊢
        simpa using ih
      · simpa [starts, results, inFlight, hb] using ih
    | completed b' success time =>
      by_cases hb : b' = b
      · subst hb
        have hflight : inFlight b' log ≠ none := by
          intro hnone
          have := hnew.2.2
          rw [Completes, hnone] at this
          exact this
        simp only [starts, results, inFlight, if_true, if_neg hflight, List.length_append] at ih ⊢
        simpa using ih
      · simpa [starts, results, inFlight, hb] using ih

/-- Options and backends are those the checker was constructed with. -/
theorem Reachable.options {endpoints : List Endpoint} {options : TcpHealthCheckOptions} {s : TcpHealthChecker}
    (h : Reachable endpoints options s) : s.options = options ∧ s.endpoints = endpoints := by
  have hpoll : ∀ {s : TcpHealthChecker}, Reachable endpoints options s → s.options = options ∧ s.endpoints = endpoints →
      ∀ script, (pollHealthProbes ⟨script, s⟩).2.state.options = options ∧
        (pollHealthProbes ⟨script, s⟩).2.state.endpoints = endpoints := fun hs hsame script =>
    (serves_pollHealthProbes hs.kept.1 hs.kept.2).invariant (I := fun s' => s'.options = options ∧ s'.endpoints = endpoints)
      hsame (fun _ _ hstep hI => ⟨hstep.2.1.trans hI.1, hstep.2.2.trans hI.2⟩) script
  induction h with
  | construct h =>
    unfold TcpHealthChecker.construct at h
    split_ifs at h
    cases h
    exact ⟨rfl, rfl⟩
  | callback _ ih => exact ih
  | @poll _ hs script _ hrun ih =>
    have := hpoll hs ih script
    rwa [hrun] at this
  | @failed _ hs script _ _ hrun _ ih =>
    have := hpoll hs ih script
    rwa [hrun] at this

/-- **The protocol of the TCP health checker.** At every point of every poll of every run:
everything that happened was allowed when it did; each backend's state is what its own
results make it; each probe that was started was completed once or is in flight. After a
poll, a probe is in flight exactly when it has a token. A poll goes as if it had been told
of the events of the probes in flight alone. -/
theorem tcp_health_protocol {endpoints : List Endpoint} {options : TcpHealthCheckOptions} {s : TcpHealthChecker}
    (h : Reachable endpoints options s) (script : List (Answerer HealthCall HealthAnswer)) :
    let r := pollHealthProbes ⟨script, s⟩
    Legal options r.2.state.log ∧
      (∀ b, r.2.state.backendState b = HealthState.run {} (results b r.2.state.log)) ∧
      (∀ b, starts b r.2.state.log =
        (results b r.2.state.log).length + if inFlight b r.2.state.log = none then 0 else 1) ∧
      (r.1 = .ok () ∨ (∃ e, r.1 = .thrown e ∧ e ≠ .tokenExhausted) → AtRest r.2.state) ∧
      ∀ now tokens script', forEach (pollBackend now tokens) (List.range s.backendCount)
          ⟨script', s.record (.polled now tokens)⟩ =
        forEach (pollBackend now (ownEvents s tokens)) (List.range s.backendCount)
          ⟨script', s.record (.polled now tokens)⟩ := by
  intro r
  obtain ⟨hk, hidle⟩ := h.kept
  have hruns := serves_pollHealthProbes hk hidle
  obtain ⟨hk', hoptions⟩ := hruns.invariant (I := fun s' => Kept s' ∧ s'.options = s.options) ⟨hk, rfl⟩
    (fun _ _ hstep hI => ⟨hstep.1 hI.1, hstep.2.1.trans hI.2⟩) script
  have hlegal : Legal options r.2.state.log := by
    have := hk'.legal
    rwa [hoptions, h.options.1] at this
  refine ⟨hlegal, hk'.state, starts_eq hlegal, ?_, fun now tokens script' => ?_⟩
  · rintro (hok | ⟨e, hthrown, he⟩)
    · exact (atRest_iff hk').mpr (hruns.of_ok (Prod.ext hok rfl)).2.2
    · exact (atRest_iff hk').mpr ((hruns.of_thrown (Prod.ext hthrown rfl)).2.2 he)
  · have hpolled : Kept (s.record (.polled now tokens)) :=
      hk.record trivial (fun _ => rfl) (fun _ => rfl) (fun _ _ => rfl) fun _ _ _ => (by nofun)
    exact forEach_ownEvents s hpolled hidle rfl (fun _ _ => rfl) List.nodup_range
      (fun b hb => ⟨List.mem_range.mp hb, rfl⟩) script'

/-- A system on which every `connect` takes its time, at a moment, with the events of its wait. -/
def connecting (time : Time) (tokens : List ℕ) : Answerer HealthCall HealthAnswer
  | .now => time
  | .epollPoll => .ok tokens
  | .socket => .ok 3
  | .connect _ _ => some Errno.EINPROGRESS
  | .register _ _ => none
  | .socketError _ => .ok 0
  | .healthChange _ => false

/-- A first poll of two backends leaves their probes in flight; of the next, told twice of the second's probe and
once of none, the second is completed as a success, and the first is still in flight. -/
theorem tcp_health_protocol_two :
    let s : TcpHealthChecker := { endpoints := [{}, {}], options := {} }
    let first := pollHealthProbes ⟨List.replicate 10 (connecting 0 []), s⟩
    let second := pollHealthProbes ⟨List.replicate 10 (connecting (Time.milliseconds 20) [2, 9, 2]), first.2.state⟩
    first.1 = .ok () ∧ first.2.state.activeProbeCount = 2 ∧
      Legal {} second.2.state.log ∧ AtRest second.2.state ∧ second.2.state.activeProbeCount = 1 ∧
      results 1 second.2.state.log = [true] ∧ starts 1 second.2.state.log = 1 ∧
      inFlight 0 second.2.state.log = some (some (1, Time.milliseconds 1000)) := by
  intro s first second
  have hs : Reachable [{}, {}] {} s := .construct rfl
  have hfirst : first.1 = .ok () := by decide +kernel
  have h := tcp_health_protocol (.poll hs (Prod.fst_eq_iff.mp hfirst))
    (List.replicate 10 (connecting (Time.milliseconds 20) [2, 9, 2]))
  refine ⟨hfirst, by decide +kernel, h.1, h.2.2.2.1 (Or.inl ?_), by decide +kernel, by decide +kernel,
    by decide +kernel, by decide +kernel⟩
  decide +kernel

end L4lb.Health.TcpHealthChecker
