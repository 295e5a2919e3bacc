import L4lb.Net.TcpInterests

/-!
# The turns of sessions

What an event, a deadline or the draining does to a session, from a state in which every
session waits for events (`Poised`) to another. Only the session whose turn it is changes, and
what fails of it closes it.
-/

namespace L4lb.Net.Tcp

open Effect Prog

variable {options : TcpReactorOptions} {scene : Scene} {s s' : TcpReactor} {session : Session} {side : Side}

/-! ### Events -/

/-- A change of a session that leaves what is registered, queued and paused. -/
theorem Fit.update (h : Fit options scene session s) {f : Session → Session} (hf : Still f) (hh : Harmless f)
    (ho : Orderly s.tables scene.id f)
    (hpaused : ∀ session side, ((f session).ends side).paused = (session.ends side).paused)
    {E : TcpError → TcpReactor → Prop} :
    Serves options (updateSession scene.id f) s E fun _ s' => Fit options scene (f session) s' ∧ s'.stop = s.stop := by
  apply (h.toWithin.update hf hh ho).post
  rintro - s' - ⟨h', hstop⟩
  refine ⟨⟨h', fun side => by rw [hf.fd]; exact h.opened side, fun hrunning => ?_⟩, hstop⟩
  rw [hstop] at hrunning
  have hpaced := h.paced hrunning
  constructor
  · intro side hside
    rw [hpaused] at hside
    rw [hh.pending]
    exact hpaced.paused side hside
  · intro hdone
    refine hpaced.undone fun side => ?_
    have hside := hdone side
    rwa [hh.eof, hh.shutdown] at hside

/-- The clock is read. -/
theorem Fit.time (h : Fit options scene session s) {E : TcpError → TcpReactor → Prop} :
    Serves options currentTime s E fun _ s' => Fit options scene session s' ∧ s'.stop = s.stop := by
  apply (serves_currentTime h.toSane).post
  rintro time s' - ⟨hsane, ha, -⟩
  exact ⟨h.alike ha hsane, ha.stop⟩

/-- **What an error of an end leads to**, or the end of connecting. -/
theorem Fit.settleEndpoint (h : Fit options scene session s) (side : Side) (events : EpollEvents) (connectingEvent : Bool) :
    Serves options (settleEndpoint scene.id side events connectingEvent) s (Fails options scene) fun _ s' =>
      ∃ session', Fit options scene session' s' := by
  apply Runs.bind (h.report _ _ _ _)
  rintro - s₁ - ⟨h₁, -⟩
  apply serves_sessionAt_bind h₁.here
  apply Runs.bind (Q := fun _ s' => s' = s₁)
  · apply Runs.call_bind
    intro answer
    cases answer with
    | ok error => exact Runs.pure rfl
    | error error => exact Runs.raise (h₁.toWithin.fails (by simp [reserved]))
  rintro error s₂ - rfl
  apply Runs.bind (h₁.report _ _ _ _)
  rintro - s₃ - ⟨h₃, -⟩
  apply Runs.ite
  · exact fun _ => Runs.raise (h₃.toWithin.fails (by simp [reserved]))
  · intro _
    apply Runs.when
    · intro _
      apply Runs.bind h₃.time
      rintro time s₄ - ⟨h₄, -⟩
      have hstill : Still fun session => { session with connecting := false, deadline := ⟨time⟩ } :=
        ⟨⟨fun _ => rfl, fun _ _ => rfl, fun _ _ => rfl⟩, fun _ _ => rfl, fun _ _ => rfl⟩
      have hharmless : Harmless fun session => { session with connecting := false, deadline := ⟨time⟩ } :=
        ⟨fun _ _ => rfl, fun _ => rfl, fun _ => rfl, fun _ _ => rfl, fun _ _ => rfl⟩
      have horderly : Orderly s₄.tables scene.id
          fun session => { session with connecting := false, deadline := ⟨time⟩ } := by
        refine ⟨fun session' hsession => .inr ⟨rfl, ?_⟩, fun _ _ _ _ h => h⟩
        rw [h₄.here] at hsession
        exact Option.some.inj hsession ▸ h₄.opened .backend
      apply (h₄.update hstill hharmless horderly fun _ _ => rfl).post
      exact fun _ s₅ _ h₅ => ⟨_, h₅.1⟩
    · exact fun _ => ⟨session, h₃⟩

/-- An end that hung up is left alone for a time. -/
theorem Fit.deferEndpoint (h : Fit options scene session s) (side : Side) :
    Serves options (deferEndpoint scene.id side) s (Fails options scene) fun _ s' =>
      ∃ session', Fit options scene session' s' := by
  apply Runs.bind h.time
  rintro time s₁ - ⟨h₁, -⟩
  have hstill : Still (·.setEnd side fun endpoint => { endpoint with deferred := time + Time.milliseconds 100 }) :=
    Still.setEnd (fun _ => rfl) (fun _ => rfl) (fun _ => rfl) fun _ => rfl
  have hharmless : Harmless (·.setEnd side fun endpoint => { endpoint with deferred := time + Time.milliseconds 100 }) :=
    Harmless.setEnd (fun _ => rfl) (fun _ => rfl) fun _ => rfl
  have hpaused : ∀ session side', (((session : Session).setEnd side fun endpoint =>
      { endpoint with deferred := time + Time.milliseconds 100 }).ends side').paused = (session.ends side').paused := by
    intro session side'
    apply setEnd_field (·.paused)
    intro endpoint
    rfl
  apply Runs.bind (h₁.update hstill hharmless (Orderly.of_eq (fun _ => rfl) fun _ => rfl) hpaused)
  rintro - s₂ - ⟨h₂, -⟩
  apply Runs.bind (h₂.report _ _ _ _)
  rintro - s₃ - ⟨h₃, -⟩
  apply (h₃.removeEndpoint side).post
  exact fun _ s₄ _ h₄ => ⟨_, h₄.1⟩

/-- The session is pumped, and closed if there is nothing more to do. -/
theorem Fit.pump (h : Fit options scene session s) {rest : TcpM Unit}
    (hrest : ∀ {session' s'}, Fit options scene session' s' →
      Serves options rest s' (Fails options scene) fun _ s' => Rested options scene s') :
    Serves options (Tcp.advanceConnected options scene.id >>= fun finished =>
      if finished = true then Tcp.closeFinished scene.id else rest) s (Fails options scene)
      fun _ s' => Rested options scene s' := by
  apply Runs.bind h.advanceConnected
  rintro finished s₁ - ⟨session₁, h₁⟩
  cases finished with
  | true =>
    apply (h₁.1.closeFinished h₁.2).post
    exact fun _ s₂ _ h₂ => h₂.rested
  | false => exact hrest h₁

/-- **An event of an end.** -/
theorem Fit.handleEndpointEvent (h : Fit options scene session s) (side : Side) (events : EpollEvents) :
    Serves options (handleEndpointEvent options scene.id side events) s (Fails options scene) fun _ s' =>
      Rested options scene s' := by
  apply serves_sessionAt_bind h.here
  apply Runs.gets_bind
  apply Runs.ite
  · intro _
    apply (h.toWithin.close (by simp [reserved]) 0).post
    exact fun _ s₁ _ h₁ => h₁.rested
  · intro _
    apply Runs.bind (Q := fun _ s' => ∃ session', Fit options scene session' s')
    · exact Runs.when (fun _ => h.settleEndpoint side events _) fun _ => ⟨session, h⟩
    rintro - s₁ - ⟨session₁, h₁⟩
    apply serves_sessionAt_bind h₁.here
    apply h₁.pump
    intro session₂ s₂ h₂
    apply serves_sessionAt_bind h₂.here
    apply Runs.bind (Q := fun _ s' => ∃ session', Fit options scene session' s')
    · exact Runs.when (fun _ => h₂.deferEndpoint side) fun _ => ⟨session₂, h₂⟩
    rintro - s₃ - ⟨session₃, h₃⟩
    exact h₃.updateSessionInterests

/-! ### Failures -/

/-- A callback is told of something that leads to something due. -/
theorem Steady.notify (h : Steady options s) (event : TcpEvent) (hp : Plain event) (ha : Allowed options s.log event)
    {d d' : Due} (hdue : due (event :: s.log) = some d) (hthrown : d.next .callbackThrew = some d') :
    Serves options (notify event) s
      (fun e s' => (∃ exception, e = .callback exception) ∧ Steady options s' ∧ Alike s s' ∧ due s'.log = some d')
      fun _ s' => Steady options s' ∧ Alike s s' ∧ due s'.log = some d := by
  have hsound := h.sound.plain event hp ha (by rw [hdue]; rfl)
  have hrecorded : Steady options (s.record event) := h.alike (.record hp) hsound
  apply Runs.modify_bind (.single fun _ => hsound)
  apply Runs.call_bind
  intro answer
  cases answer with
  | none => exact Runs.pure ⟨hrecorded, .record hp, hdue⟩
  | some exception =>
    have hdue' : due (.callbackThrew :: event :: s.log) = some d' := by rw [due_cons hdue, hthrown]
    have hsound' := hsound.plain .callbackThrew trivial trivial (by
      rw [TcpReactor.record_log, hdue']
      rfl)
    have ha' : Alike s ((s.record event).record .callbackThrew) := (Alike.record hp).trans (.record trivial)
    apply Runs.modify_bind (.single fun _ => hsound')
    exact Runs.raise ⟨⟨exception, rfl⟩, h.alike ha' hsound', ha', hdue'⟩

/-- **A session that failed is closed**, and what is thrown otherwise is thrown on. -/
theorem serves_catchFailure {m : TcpM Unit}
    (hm : Serves options m s (Fails options scene) fun _ s' => Rested options scene s') :
    Serves options (catchFailure scene.id m) s (BreaksOff options scene) fun _ s' => Rested options scene s' := by
  apply Runs.handle hm
  rintro e s₁ - hfails
  cases e with
  | sessionFailure operation error =>
    obtain ⟨hoperation, session₁, h₁⟩ := hfails.failure operation error rfl
    have hcaught : due (.caught scene.id operation :: s₁.log) = some .failing := by
      rw [due_cons h₁.due]
      rfl
    have hsound := h₁.sound.plain (.caught scene.id operation) trivial trivial (by rw [hcaught]; rfl)
    have hsteady : Steady options (s₁.record (.caught scene.id operation)) := h₁.toSteady.alike (.record trivial) hsound
    have herror : due (.statistic ⟨.error, 1⟩ :: .caught scene.id operation :: s₁.log) = some .failed := by
      rw [due_cons hcaught]
      rfl
    apply Runs.modify_bind (.single fun _ => hsound)
    have hcounted : Serves options (reportStatEvent .error) (s₁.record (.caught scene.id operation))
        (BreaksOff options scene) fun _ s' =>
          Steady options s' ∧ Alike (s₁.record (.caught scene.id operation)) s' ∧
            due s'.log = some .failed := by
      apply (hsteady.notify (.statistic ⟨.error, 1⟩) (by simp [Plain, countsBytes]) (by simp [Allowed, countsBytes])
        herror rfl).mono
      · rintro e s₂ - ⟨hcallback, hsteady₂, ha₂, hdue₂⟩
        refine ⟨broken_of_callback ⟨hsteady₂, hdue₂⟩ hcallback, ?_⟩
        rw [ha₂.tables]
        exact h₁.others
      · exact fun _ _ _ hq => hq
    apply Runs.bind hcounted
    · rintro - s₂ - ⟨hsteady₂, ha₂, hdue₂⟩
      have ha : Alike s₁ s₂ := (Alike.record (show Plain (.caught scene.id operation) from trivial)).trans ha₂
      have hhere : s₂.tables.sessions.lookup scene.id = some session₁ := by rw [ha.tables, h₁.here]
      have hnext : ∀ left, Due.failed.next (.closed scene.id operation left) = some (.closing 0) := by
        simp only [reserved, List.mem_cons, List.not_mem_nil, or_false, not_or] at hoperation
        simp [Due.next, isExpiry, hoperation]
      apply (serves_closeSession hsteady₂ hhere hdue₂ hnext (hsteady₂.sound.closed_allowed hhere hoperation)).mono
      · refine fun e s₃ _ he => ⟨broken_of_callback he.2.1 he.1, he.2.2.others ?_⟩
        rw [ha.tables]
        exact h₁.others
      · rintro - s₃ - ⟨hsane₃, hw₃⟩
        refine (h₁.over hsane₃ ⟨?_, ?_, ?_, ?_, fun connection => ?_, ha.log.trans hw₃.log⟩).rested
        · rw [hw₃.sessions, ha.tables]
        · rw [hw₃.stop, ha.stop]
        · rw [hw₃.listenerFd, ha.listenerFd]
        · rw [hw₃.listenerDeferred, ha.listenerDeferred]
        · rw [hw₃.heard, ha.heard]
  | system | logicError | tokenExhausted | invalidOptions | outOfRange | selector | callback =>
    exact Runs.raise ⟨⟨hfails.toSane, hfails.sensible, by simp⟩, hfails.others⟩

/-! ### Turns -/

variable (options) in
/-- Between turns: every session waits for events. -/
structure Poised (s : TcpReactor) : Prop extends Settled options s where
  /-- The sessions. -/
  resting : ∀ {id session}, s.tables.sessions.lookup id = some session → session.Resting s.stop.draining

/-- The turn of a session, from a state. -/
def TcpReactor.turn (s : TcpReactor) (id : ℕ) : Scene where
  id := id
  others := s.tables.sessions.lookup
  running := !s.stop.draining
  deferred := s.Deferred
  failed := DelFailed s.log

/-- What has failed has failed, as long as the service is not stopping. -/
structure Since (s s' : TcpReactor) : Prop where
  /-- The stop is not taken back. -/
  running : s'.stop.draining = false → s.stop.draining = false
  /-- `EPOLL_CTL_DEL` has failed. -/
  failed : s'.stop.draining = false → DelFailed s.log → DelFailed s'.log

/-- And the listener was not deferred. -/
structure Onward (s s' : TcpReactor) : Prop extends Since s s' where
  /-- The listener was deferred before. -/
  deferred : s'.Deferred → s.Deferred

theorem Since.refl (s : TcpReactor) : Since s s := ⟨id, fun _ => id⟩

theorem Since.trans {s'' : TcpReactor} (h : Since s s') (h' : Since s' s'') : Since s s'' where
  running hlive := h.running (h'.running hlive)
  failed hlive hfailed := h'.failed hlive (h.failed (h'.running hlive) hfailed)

theorem Onward.refl (s : TcpReactor) : Onward s s := ⟨.refl s, id⟩

theorem Onward.trans {s'' : TcpReactor} (h : Onward s s') (h' : Onward s' s'') : Onward s s'' where
  toSince := h.toSince.trans h'.toSince
  deferred hdeferred := h.deferred (h'.deferred hdeferred)

theorem Alike.onward (h : Alike s s') : Onward s s' where
  running := by
    rw [h.stop]
    exact id
  failed _ := h.failed
  deferred := h.deferred

theorem Consumed.onward (h : Consumed s s') : Onward s s' where
  running hlive := by rw [← (h.alike hlive).stop, hlive]
  failed hlive := (h.alike hlive).failed
  deferred := h.deferred

theorem Rested.onward {id : ℕ} (h : Rested options (s.turn id) s') : Onward s s' where
  running hlive := by simpa [TcpReactor.turn] using h.running hlive
  failed := h.kept.2
  deferred := h.kept.1

/-- The turn of a session begins. -/
theorem Poised.fit (h : Poised options s) {id : ℕ} (hsession : s.tables.sessions.lookup id = some session) :
    Fit options (s.turn id) session s where
  toSettled := h.toSettled
  here := hsession
  others _ _ := rfl
  running hrunning := by simp [TcpReactor.turn, hrunning]
  kept := ⟨fun hdeferred => hdeferred, fun _ hfailed => hfailed⟩
  opened := (h.resting hsession).opened
  paced hrunning := ((h.resting hsession).rest hrunning).toPaced

/-- The turn of a session is over. -/
theorem Poised.rested (h : Poised options s) {id : ℕ} (hrested : Rested options (s.turn id) s') : Poised options s' where
  toSettled := hrested.toSettled
  resting := by
    intro id' session hsession
    by_cases hid : id' = id
    · subst hid
      exact hrested.here session hsession
    · rw [hrested.others id' hid] at hsession
      have hresting := h.resting hsession
      refine ⟨hresting.opened, fun hrunning => hresting.rest ?_⟩
      have hback := hrested.running hrunning
      simpa [TcpReactor.turn] using hback

/-- The end of a turn is recorded. -/
theorem Rested.visited (h : Rested options scene s) {before : Table ℕ Session}
    (hbefore : ∀ id ≠ scene.id, before.lookup id = scene.others id) :
    Rested options scene (s.record (.visited scene.id before s.tables.sessions s.stop.draining)) := by
  have hallowed : Allowed options s.log (.visited scene.id before s.tables.sessions s.stop.draining) := by
    refine ⟨fun id hid => by rw [h.others id hid, hbefore id hid], fun hrunning session hsession => ?_⟩
    exact ((h.here session hsession).rest hrunning).undone
  have hsane : Sane options (s.record (.visited scene.id before s.tables.sessions s.stop.draining)) :=
    h.toSane.record trivial hallowed rfl
  exact ⟨h.toSettled.alike (.record trivial) hsane, h.here, h.others, h.running,
    h.kept.onward rfl id (List.suffix_cons _ _)⟩

/-- That a turn was broken off is recorded. -/
theorem BreaksOff.brokenOff (h : BreaksOff options scene e s) {before : Table ℕ Session}
    (hbefore : ∀ id ≠ scene.id, before.lookup id = scene.others id) :
    BreaksOff options scene e (s.record (.brokenOff scene.id before s.tables.sessions)) := by
  have hsane : Sane options (s.record (.brokenOff scene.id before s.tables.sessions)) :=
    h.toSane.record trivial (fun id hid => by rw [h.others id hid, hbefore id hid]) rfl
  exact ⟨⟨hsane, h.sensible, h.general⟩, h.others⟩

/-- **A turn touches one session only**, also when it is broken off. -/
theorem Within.visiting (h : Within options scene session s) {m : TcpM Unit}
    (hm : Serves options m s (BreaksOff options scene) fun _ s' => Rested options scene s') :
    Serves options (visiting scene.id m) s (BreaksOff options scene) fun _ s' => Rested options scene s' := by
  apply Runs.gets_bind
  apply Runs.bind (Q := fun _ s' => Rested options scene s')
  · apply Runs.handle hm
    rintro e s₁ - h₁
    have hbroken := h₁.brokenOff h.others
    apply Runs.modify_bind (.single fun _ => hbroken.sound)
    exact Runs.raise hbroken
  rintro result s₁ - h₁
  have hvisited := h₁.visited h.others
  apply Runs.modify_bind (.single fun _ => hvisited.sound)
  exact Runs.pure hvisited

theorem Poised.alike (h : Poised options s) (ha : Alike s s') (hs : Sane options s') : Poised options s' where
  toSettled := h.toSettled.alike ha hs
  resting := by
    rw [ha.tables, ha.stop]
    exact h.resting

/-- A report of no consequence. -/
theorem Poised.notify (h : Poised options s) (event : TcpEvent) (hp : Plain event) (ha : Allowed options s.log event)
    (hstart : Due.start event = some .nothing) :
    Serves options (notify event) s (Broken options) fun _ s' => Poised options s' ∧ Alike s s' := by
  apply (serves_notify event h.toSane hp ha hstart).mono
  · exact fun e s' _ he => broken_of_callback he.1 he.2.2
  · exact fun _ s' _ hq => ⟨h.alike hq.2 hq.1, hq.2⟩

/-- `reportObservation` in particular. -/
theorem Poised.report (h : Poised options s) (kind : String) (id : ℕ) (side : Option Side) (value : ℤ) :
    Serves options (reportObservation kind id side value) s (Broken options) fun _ s' =>
      Poised options s' ∧ Alike s s' :=
  Runs.gets_bind (h.notify _ trivial trivial rfl)

/-- The clock is read. -/
theorem Poised.time (h : Poised options s) {E : TcpError → TcpReactor → Prop} :
    Serves options currentTime s E fun _ s' => Poised options s' ∧ Alike s s' := by
  apply (serves_currentTime h.toSane).post
  rintro time s' - ⟨hsane, ha, -⟩
  exact ⟨h.alike ha hsane, ha⟩

/-- The stop signals are consumed. -/
theorem Poised.consume (h : Poised options s) :
    Serves options (consumeStopSignals options) s (Broken options) fun result s' =>
      Poised options s' ∧ Consumed s s' ∧ (result = false → s'.stop.draining = false) := by
  apply (serves_consumeStopSignals h.toSettled).mono
  · exact fun e s' _ he => he.toBroken
  · rintro result s' - ⟨hsettled, hc, hresult⟩
    refine ⟨⟨hsettled, fun {id session} hsession => ?_⟩, hc, hresult⟩
    rw [hc.sessions] at hsession
    have hresting := h.resting hsession
    refine ⟨hresting.opened, fun hrunning => hresting.rest ?_⟩
    rw [← (hc.alike hrunning).stop, hrunning]

/-- What a session does about an event, and when that fails. -/
theorem Fit.visit (h : Fit options scene session s) (side : Side) (events : EpollEvents) :
    Serves options (visiting scene.id (do
        let _ ← sessionAt scene.id
        catchFailure scene.id (Tcp.handleEndpointEvent options scene.id side events))) s (BreaksOff options scene)
      fun _ s' => Rested options scene s' := by
  apply h.toWithin.visiting
  apply serves_sessionAt_bind h.here
  exact serves_catchFailure (h.handleEndpointEvent side events)

/-- **`dispatchEndpointEvent`**: what its token does not find, or the turn of the session that it finds. -/
theorem Poised.dispatchEndpointEvent (h : Poised options s) (token : ℕ) (events : EpollEvents) :
    Serves options (dispatchEndpointEvent options token events) s (Broken options) fun _ s' =>
      Poised options s' ∧ Onward s s' := by
  apply Runs.gets_bind
  cases htarget : s.tables.tokens.findEndpoint token with
  | none =>
    apply (h.report _ _ _ _).post
    rintro - s' - ⟨h', ha⟩
    exact ⟨h', ha.onward⟩
  | some target =>
    obtain ⟨session, hsession, -⟩ := h.sound.consistent.tables.token htarget
    apply ((h.fit hsession).visit target.side events).mono
    · exact fun e s' _ he => he.toBroken
    · rintro - s' - hrested
      exact ⟨h.rested hrested, hrested.onward⟩

/-! ### Deadlines -/

theorem still_resumed (now : Time) :
    Still fun session => { session with ends := fun side => (session.ends side).resumed now } where
  id _ := rfl
  fd session side := by
    show (EndpointState.resumed _ _).fd = _
    unfold EndpointState.resumed
    split <;> rfl
  token session side := by
    show (EndpointState.resumed _ _).token = _
    unfold EndpointState.resumed
    split <;> rfl
  registered session side := by
    show (EndpointState.resumed _ _).registered = _
    unfold EndpointState.resumed
    split <;> rfl
  interest session side := by
    show (EndpointState.resumed _ _).interest = _
    unfold EndpointState.resumed
    split <;> rfl

theorem harmless_resumed (now : Time) :
    Harmless fun session => { session with ends := fun side => (session.ends side).resumed now } where
  fd := (still_resumed now).fd
  pending _ := rfl
  sent _ := rfl
  eof session side := by
    show (EndpointState.resumed _ _).eof = _
    unfold EndpointState.resumed
    split <;> rfl
  shutdown session side := by
    show (EndpointState.resumed _ _).shutdown = _
    unfold EndpointState.resumed
    split <;> rfl

/-- A session whose time is over is closed. -/
theorem Fit.expire (h : Fit options scene session s) {reason : String} (hreason : isExpiry reason = true) :
    Serves options (do
        reportStatEvent .timeout
        closeSession scene.id reason .ETIMEDOUT) s (BreaksOff options scene) fun _ s' => Rested options scene s' := by
  have hdue : due (.statistic ⟨.timeout, 1⟩ :: s.log) = some .expiry := by
    rw [due_cons h.due]
    rfl
  have hcounted : Serves options (reportStatEvent .timeout) s (BreaksOff options scene)
      fun _ s' => Steady options s' ∧ Alike s s' ∧ due s'.log = some .expiry := by
    apply (h.toSteady.notify (.statistic ⟨.timeout, 1⟩) (by simp [Plain, countsBytes]) (by simp [Allowed, countsBytes])
      hdue rfl).mono
    · rintro e s₁ - ⟨hcallback, hsteady₁, ha₁, hdue₁⟩
      refine ⟨broken_of_callback ⟨hsteady₁, hdue₁⟩ hcallback, ?_⟩
      rw [ha₁.tables]
      exact h.others
    · exact fun _ _ _ hq => hq
  apply Runs.bind hcounted
  rintro - s₁ - ⟨hsteady₁, ha₁, hdue₁⟩
  have hhere : s₁.tables.sessions.lookup scene.id = some session := by rw [ha₁.tables, h.here]
  have hnext : ∀ left, Due.expiry.next (.closed scene.id reason left) = some (.closing 0) := by
    simp [Due.next, hreason]
  have hallowed : Allowed options s₁.log (.closed scene.id reason fun side => (session.pending side).size) := by
    refine ⟨hsteady₁.sound.entries.mp (Finmap.mem_of_lookup_eq_some hhere), ?_, ?_⟩ <;> rintro rfl <;>
      exact absurd hreason (by decide)
  apply (serves_closeSession hsteady₁ hhere hdue₁ hnext hallowed).mono
  · refine fun e s₂ _ he => ⟨broken_of_callback he.2.1 he.1, he.2.2.others ?_⟩
    rw [ha₁.tables]
    exact h.others
  · rintro - s₂ - ⟨hsane₂, hw₂⟩
    refine (h.toWithin.over hsane₂ ⟨?_, ?_, ?_, ?_, fun connection => ?_, ha₁.log.trans hw₂.log⟩).rested
    · rw [hw₂.sessions, ha₁.tables]
    · rw [hw₂.stop, ha₁.stop]
    · rw [hw₂.listenerFd, ha₁.listenerFd]
    · rw [hw₂.listenerDeferred, ha₁.listenerDeferred]
    · rw [hw₂.heard, ha₁.heard]

/-- **What the deadlines of a session lead to.** -/
theorem Fit.checkDeadline (h : Fit options scene session s) (hresting : session.Resting s.stop.draining) (now : Time) :
    Serves options (checkDeadline options now scene.id) s (BreaksOff options scene)
      fun _ s' => Rested options scene s' := by
  apply serves_sessionAt_bind h.here
  apply Runs.ite
  · intro _
    apply h.expire
    split <;> rfl
  · intro _
    have hpaused : ∀ (session : Session) side, ((session.ends side).resumed now).paused = (session.ends side).paused := by
      intro session side
      unfold EndpointState.resumed
      split <;> rfl
    apply Runs.bind (h.update (still_resumed now) (harmless_resumed now) (Orderly.of_eq (fun _ => rfl) fun _ => rfl) hpaused)
    rintro - s₁ - ⟨h₁, hstop₁⟩
    apply Runs.when
    · intro _
      apply serves_catchFailure
      apply Runs.bind (h₁.report _ _ _ _)
      rintro - s₂ - ⟨h₂, -⟩
      exact h₂.pump fun h' => h'.updateSessionInterests
    · -- nothing was to be resumed
      intro hnot
      rw [not_or] at hnot
      have hsame : ({ session with ends := fun side => (session.ends side).resumed now } : Session) = session := by
        have hends : (fun side => (session.ends side).resumed now) = session.ends := by
          funext side
          cases side with
          | client => exact if_neg hnot.1
          | backend => exact if_neg hnot.2
        rw [hends]
      rw [hsame] at h₁
      exact h₁.toWithin.rested (hstop₁ ▸ hresting)

/-- The sessions whose turn is still to come are there. -/
def Awaited (rest : List ℕ) (s : TcpReactor) : Prop := rest.Nodup ∧ ∀ id ∈ rest, id ∈ s.tables.sessions

/-- A turn takes only its own session away. -/
theorem Awaited.rested {id : ℕ} {rest : List ℕ} (h : Awaited (id :: rest) s) (hrested : Rested options (s.turn id) s') :
    Awaited rest s' := by
  obtain ⟨hnodup, hthere⟩ := h
  rw [List.nodup_cons] at hnodup
  refine ⟨hnodup.2, fun id' hmem => ?_⟩
  have hne : id' ≠ id := by
    rintro rfl
    exact hnodup.1 hmem
  have hsame : s'.tables.sessions.lookup id' = s.tables.sessions.lookup id' := hrested.others id' hne
  exact (Table.mem_congr hsame).mpr (hthere id' (List.mem_cons_of_mem _ hmem))

theorem awaited_order (s : TcpReactor) (rank : ℕ → ℕ) : Awaited (s.tables.sessions.order rank) s :=
  ⟨Table.nodup_order _ _, fun _ hmem => Table.mem_order.mp hmem⟩

/-- **The deadlines of all sessions**: each is there when its turn comes. -/
theorem Poised.deadlinePasses (h : Poised options s) (now : Time) (rest : List ℕ) (hawaited : Awaited rest s) :
    Serves options (forEach (deadlinePass options now) rest) s (Broken options) fun _ s' =>
      Poised options s' ∧ Onward s s' := by
  apply Runs.forEach_rest (Q := fun s' => Poised options s' ∧ Onward s s')
    (fun rest s' => (Poised options s' ∧ Onward s s') ∧ Awaited rest s')
    rest ?_ (fun s' h' => h'.1) ⟨⟨h, .refl s⟩, hawaited⟩
  rintro id rest s₁ ⟨⟨h₁, honward₁⟩, hawaited₁⟩
  apply Runs.gets_bind
  apply Runs.ite
  · exact fun _ => Runs.pure ⟨h₁, honward₁⟩
  · intro _
    obtain ⟨session, hsession⟩ := Finmap.mem_iff.mp (hawaited₁.2 id List.mem_cons_self)
    have hfit := h₁.fit hsession
    have hturn := hfit.toWithin.visiting (hfit.checkDeadline (h₁.resting hsession) now)
    apply Runs.bind (hturn.mono (fun e s' _ he => he.toBroken) fun _ _ _ hq => hq)
    rintro - s₂ - hrested
    exact Runs.pure ⟨⟨h₁.rested hrested, honward₁.trans hrested.onward⟩, hawaited₁.rested hrested⟩

/-! ### Draining -/

/-- An end is not left alone any longer when its time has come. -/
theorem Fit.clearDeferred (h : Fit options scene session s) (side : Side) :
    Serves options (clearDeferred scene.id side) s (BreaksOff options scene) fun _ s' =>
      (∃ session', Fit options scene session' s' ∧ ∀ side, (session'.ends side).token = (session.ends side).token) ∧
        s'.stop = s.stop := by
  apply Runs.bind h.time
  rintro time s₁ - ⟨h₁, hstop₁⟩
  have hstill : Still (·.setEnd side fun endpoint =>
      if time ≥ endpoint.deferred then { endpoint with deferred := 0 } else endpoint) := by
    apply Still.setEnd <;> intro endpoint <;> split <;> rfl
  have hharmless : Harmless (·.setEnd side fun endpoint =>
      if time ≥ endpoint.deferred then { endpoint with deferred := 0 } else endpoint) := by
    apply Harmless.setEnd <;> intro endpoint <;> split <;> rfl
  have hpaused : ∀ session side', (((session : Session).setEnd side fun endpoint =>
      if time ≥ endpoint.deferred then { endpoint with deferred := 0 } else endpoint).ends side').paused =
        (session.ends side').paused := by
    intro session side'
    apply setEnd_field (·.paused)
    intro endpoint
    split <;> rfl
  apply (h₁.update hstill hharmless (Orderly.of_eq (fun _ => rfl) fun _ => rfl) hpaused).post
  exact fun _ s₂ _ h₂ => ⟨⟨_, h₂.1, hstill.token session⟩, by rw [h₂.2, hstop₁]⟩

/-- **What the draining of a session leads to.** -/
theorem Fit.drainSession (h : Fit options scene session s) (hdraining : s.stop.draining = true) :
    Serves options (drainSession options scene.id) s (BreaksOff options scene) fun _ s' => Rested options scene s' := by
  have hstopping : ∀ {s' : TcpReactor}, s'.stop = s.stop → s'.stop.draining ≠ false := by
    intro s' hstop
    simp [hstop, hdraining]
  apply serves_sessionAt_bind h.here
  apply Runs.ite
  · intro _
    have hreason : "service-stop-connecting" ∉ reserved := by simp [reserved]
    apply (serves_closeSession_of_reason h.toSane h.here hreason 0).mono
    · exact fun e s₁ _ he => ⟨broken_of_callback he.2.1 he.1, he.2.2.others h.others⟩
    · exact fun _ s₁ _ hq => (h.toWithin.over hq.1 hq.2).rested
  · intro _
    apply Runs.bind (h.clearDeferred .client)
    rintro - s₁ - ⟨⟨session₁, h₁, htoken₁⟩, hstop₁⟩
    apply Runs.bind (h₁.clearDeferred .backend)
    rintro - s₂ - ⟨⟨session₂, h₂, htoken₂⟩, hstop₂⟩
    have hstop : s₂.stop = s.stop := hstop₂.trans hstop₁
    apply Runs.gets_bind
    cases htarget : s₂.tables.tokens.findEndpoint (session.ends .client).token with
    | none =>
      apply (serves_reportObservation h₂.toSane _ _ _ _).mono
      · exact fun e s₃ _ he => ⟨broken_of_callback he.1 he.2.2, (h₂.alike he.2.1 he.1).others⟩
      · rintro - s₃ - ⟨hsane₃, ha₃⟩
        exact (h₂.alike ha₃ hsane₃).rested fun hrunning => absurd hrunning (hstopping (ha₃.stop.trans hstop))
    | some target =>
      -- the token is that of the session
      have hconsistent := h₂.sound.consistent.tables
      have htoken : (session₂.ends .client).token = (session.ends .client).token := (htoken₂ _).trans (htoken₁ _)
      have hsome : (session₂.ends .client).token ≠ 0 := by
        intro hzero
        have hlow := (hconsistent.token_lt htarget).1
        omega
      have hentry := hconsistent.registered h₂.here hsome
      rw [htoken] at hentry
      obtain rfl := Option.some.inj (htarget.symm.trans hentry)
      exact h₂.visit .client 0

/-- **`advanceStopDrain`**: every session that is drained is there when its turn comes. -/
theorem Poised.advanceStopDrain (h : Poised options s) (hdraining : s.stop.draining = true) :
    Serves options (advanceStopDrain options) s (Broken options) fun _ s' => Poised options s' := by
  apply Runs.call_bind
  intro rank
  apply Runs.gets_bind
  apply Runs.forEach_rest (Q := fun s' => Poised options s')
    (fun rest s' => (Poised options s' ∧ s'.stop.draining = true) ∧ Awaited rest s') _ ?_ (fun s' h' => h'.1.1)
    ⟨⟨h, hdraining⟩, awaited_order s rank⟩
  rintro id rest s₁ ⟨⟨h₁, hdraining₁⟩, hawaited₁⟩
  apply Runs.bind h₁.consume
  rintro - s₂ - ⟨h₂, hc₂, -⟩
  have hdraining₂ : s₂.stop.draining = true := by
    by_contra hnot
    have hrunning := Bool.eq_false_of_not_eq_true hnot
    rw [(hc₂.alike hrunning).stop, hdraining₁] at hrunning
    cases hrunning
  have hawaited₂ : Awaited (id :: rest) s₂ := by
    refine ⟨hawaited₁.1, fun id' hmem => ?_⟩
    rw [hc₂.sessions]
    exact hawaited₁.2 id' hmem
  apply Runs.gets_bind
  apply Runs.ite
  · exact fun _ => Runs.pure h₂
  · intro _
    obtain ⟨session, hsession⟩ := Finmap.mem_iff.mp (hawaited₂.2 id List.mem_cons_self)
    have hfit := h₂.fit hsession
    have hturn := hfit.toWithin.visiting (hfit.drainSession hdraining₂)
    apply Runs.bind (hturn.mono (fun e s' _ he => he.toBroken) fun _ _ _ hq => hq)
    rintro - s₃ - hrested
    refine Runs.pure ⟨⟨h₂.rested hrested, ?_⟩, hawaited₂.rested hrested⟩
    by_contra hnot
    have hback := hrested.running (Bool.eq_false_of_not_eq_true hnot)
    rw [TcpReactor.turn, hdraining₂] at hback
    cases hback

end L4lb.Net.Tcp
