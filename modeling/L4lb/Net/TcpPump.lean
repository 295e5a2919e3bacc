import L4lb.Net.TcpTransfers

/-!
# The pump of a session

`advanceSessionIo` sends and receives both ways, and tells an end that no more comes when
all of it was sent. A session with nothing more to do is closed.
-/

namespace L4lb.Net.Tcp

open Effect Prog

variable {options : TcpReactorOptions} {scene : Scene} {s s' : TcpReactor} {session : Session} {side : Side}

/-! ### Telling that no more comes -/

/-- All that a side sent was sent on, and the other does not know yet. -/
structure Session.Spent (session : Session) (side : Side) : Prop where
  /-- It has ended. -/
  eof : (session.ends side).eof = true
  /-- Nothing of it is queued. -/
  empty : (session.pending side).size = 0
  /-- The other was not told. -/
  untold : (session.ends side.other).shutdown = false

/-- A pass of the loop around `shutdown`. -/
theorem Working.shutdownPass (h : Working options scene none session s) (hrunning : s.stop.draining = false)
    (hspent : session.Spent side) :
    Serves options (shutdownPass options (session.ends side.other).fd ()) s (Fails options scene) fun result s' =>
      Working options scene none session s' ∧ (result ≠ .inr (.ok ()) ∧ result ≠ .inl () ∨ s'.stop.draining = false) := by
  have hallowed := h.sound.shutdown_allowed hrunning h.here h.connected hspent.eof hspent.empty hspent.untold
  have hattempted := h.attempt .shutdown _ hallowed nofun
  apply Runs.modify_bind (.single fun _ => hattempted.sound)
  apply Runs.call_bind
  intro answer
  cases answer with
  | ok => exact Runs.pure ⟨hattempted, .inr hrunning⟩
  | error error =>
    apply Runs.ite
    · intro _
      apply Runs.bind hattempted.consume
      rintro result s₂ - ⟨h₂, -, hresult⟩
      apply Runs.ite
      · intro _
        apply Runs.call_bind
        exact fun error => Runs.pure ⟨h₂, .inl ⟨nofun, nofun⟩⟩
      · exact fun hnot => Runs.pure ⟨h₂, .inr (hresult (Bool.eq_false_of_not_eq_true hnot))⟩
    · exact fun _ => Runs.pure ⟨hattempted, .inl ⟨nofun, nofun⟩⟩

/-- The end is told. -/
theorem Working.shut (h : Working options scene none session s) (hrunning : s.stop.draining = false)
    (hspent : session.Spent side) :
    Working options scene none (session.setEnd side.other fun endpoint => { endpoint with shutdown := true })
      { s with
        log := .shut (s.tables.connection (session.ends side.other).fd) :: s.log
        tables := s.tables.update scene.id (·.setEnd side.other fun endpoint => { endpoint with shutdown := true }) } := by
  have hsound := h.sound.shut h.due h.counted hrunning h.here h.connected hspent.eof hspent.empty hspent.untold
  have hstill : Still (·.setEnd side.other fun endpoint => { endpoint with shutdown := true }) :=
    Still.setEnd (fun _ => rfl) (fun _ => rfl) (fun _ => rfl) fun _ => rfl
  refine ⟨h.toWithin.changed hstill hsound rfl (List.suffix_cons _ _) ?_ ?_ rfl rfl rfl, h.connected, ?_⟩
  · rw [due_cons h.due]
    rfl
  · intro c
    rw [hear_cons, Heard.after]
    split
    · exact h.counted c
    · exact h.counted c
  · intro hdraining side' hside hpaused
    have hsame : ((session.setEnd side.other fun endpoint => { endpoint with shutdown := true }).ends side').paused =
        (session.ends side').paused := by
      apply setEnd_field (·.paused)
      intro endpoint
      rfl
    exact h.easy hdraining side' hside (hsame ▸ hpaused)

/-- **An end is told that no more comes**, when all that the other side sent was sent on. -/
theorem Working.shutdownTarget (h : Working options scene none session s) (hrunning : s.stop.draining = false) :
    Serves options (shutdownTarget options scene.id side) s (Fails options scene) fun _ s' =>
      (∃ session', Working options scene none session' s') ∧ s'.stop.draining = false := by
  apply serves_sessionAt_bind h.here
  apply Runs.ite
  · rintro ⟨heof, hempty, hmore⟩
    have hspent : session.Spent side := ⟨heof, hempty, by simpa using hmore⟩
    apply Runs.bind (Runs.loop (Q := fun result s' => Working options scene none session s' ∧
      (result = .ok () → s'.stop.draining = false))
      (fun _ s' => Working options scene none session s' ∧ s'.stop.draining = false) ?_ ⟨h, hrunning⟩)
    · rintro result s₁ - ⟨h₁, hok⟩
      cases result with
      | error error => exact Runs.raise (h₁.toWithin.fails (by simp [reserved]))
      | ok =>
        have hrunning₁ := hok rfl
        have hshut := h₁.shut hrunning₁ hspent
        unfold updateSession modifyTables
        dsimp only
        apply Runs.modify_modify
        apply Runs.modify_bind (.single fun _ => hshut.sound)
        apply (hshut.report _ _ _ _).post
        rintro - s₂ - ⟨h₂, ha₂⟩
        exact ⟨⟨_, h₂⟩, by rw [ha₂.stop]; exact hrunning₁⟩
    · rintro ⟨⟩ s₁ ⟨h₁, hrunning₁⟩
      apply (h₁.shutdownPass hrunning₁ hspent).post
      rintro result s₂ - ⟨h₂, hresult⟩
      cases result with
      | inl u => exact ⟨h₂, hresult.resolve_left fun hne => hne.2 rfl⟩
      | inr answer =>
        refine ⟨h₂, ?_⟩
        rintro rfl
        exact hresult.resolve_left fun hne => hne.1 rfl
  · exact fun _ => Runs.pure ⟨⟨session, h⟩, hrunning⟩

/-! ### The pump -/

/-- Whether there is more to do. -/
structure Pumped (result : Bool) (session : Session) (draining : Bool) : Prop where
  /-- While the service is stopping, the queues are empty. -/
  emptied : draining = true → result = true → ∀ side, (session.pending side).size = 0
  /-- Before, both ways have ended. -/
  done : draining = false → (result = true ↔ session.Done)

/-- **`advanceSessionIo`.** -/
theorem Working.advanceSessionIo (h : Working options scene none session s) :
    Serves options (advanceSessionIo options scene.id) s (Fails options scene) fun result s' =>
      ∃ session', Working options scene none session' s' ∧ Pumped result session' s'.stop.draining := by
  apply Runs.bind (h.writeBufferedDirection .client _)
  rintro clientBudget s₁ - ⟨session₁, h₁⟩
  apply Runs.bind (h₁.writeBufferedDirection .backend _)
  rintro backendBudget s₂ - ⟨session₂, h₂⟩
  apply Runs.bind (h₂.readSessionDirection .client)
  rintro - s₃ - ⟨session₃, h₃⟩
  apply Runs.bind (h₃.readSessionDirection .backend)
  rintro - s₄ - ⟨session₄, h₄⟩
  apply Runs.bind (h₄.writeBufferedDirection .client _)
  rintro - s₅ - ⟨session₅, h₅⟩
  apply Runs.bind (h₅.writeBufferedDirection .backend _)
  rintro - s₆ - ⟨session₆, h₆⟩
  apply Runs.gets_bind
  apply Runs.ite
  · intro hdraining
    apply serves_sessionAt_bind h₆.here
    refine Runs.pure ⟨session₆, h₆, fun _ hresult side => ?_, fun hrunning => ?_⟩
    · simp only [Bool.and_eq_true, decide_eq_true_eq] at hresult
      cases side with
      | client => exact hresult.1
      | backend => exact hresult.2
    · rw [hdraining] at hrunning
      cases hrunning
  · intro hnot
    apply Runs.bind (h₆.shutdownTarget (Bool.eq_false_of_not_eq_true hnot))
    rintro - s₇ - ⟨⟨session₇, h₇⟩, hrunning₇⟩
    apply Runs.bind (h₇.shutdownTarget hrunning₇)
    rintro - s₈ - ⟨⟨session₈, h₈⟩, hrunning₈⟩
    apply serves_sessionAt_bind h₈.here
    refine Runs.pure ⟨session₈, h₈, fun hdraining => ?_, fun _ => ?_⟩
    · rw [hrunning₈] at hdraining
      cases hdraining
    · simp only [Bool.and_eq_true, Session.Done]
      constructor
      · rintro ⟨⟨⟨hclient, hbackend⟩, hclient'⟩, hbackend'⟩ side
        cases side with
        | client => exact ⟨hclient, hclient'⟩
        | backend => exact ⟨hbackend, hbackend'⟩
      · exact fun hdone => ⟨⟨⟨(hdone .client).1, (hdone .backend).1⟩, (hdone .client).2⟩, (hdone .backend).2⟩

/-! ### What a turn leads to -/

variable (options scene) in
/-- The session is in its turn, and can be pumped. -/
structure Fit (session : Session) (s : TcpReactor) : Prop extends Within options scene session s where
  /-- Both its ends are open. -/
  opened : ∀ side, (session.ends side).fd ≠ none
  /-- Before the service is stopping, there is more to do. -/
  paced : s.stop.draining = false → session.Paced

variable (options scene) in
/-- The session is no more. -/
structure Over (s : TcpReactor) : Prop extends Settled options s where
  /-- It is not there. -/
  gone : s.tables.sessions.lookup scene.id = none
  /-- The others are as they were. -/
  others : ∀ id ≠ scene.id, s.tables.sessions.lookup id = scene.others id
  /-- The stop is not taken back. -/
  running : s.stop.draining = false → scene.running = true
  /-- What is known of the listener is kept. -/
  kept : scene.Keeps s

theorem Fit.working (h : Fit options scene session s) (hconnected : session.connecting = false) :
    Working options scene none session s :=
  ⟨h.toWithin, hconnected, fun hrunning side _ => (h.paced hrunning).paused side⟩

theorem Working.fit (h : Working options scene none session s) (hundone : s.stop.draining = false → ¬ session.Done) :
    Fit options scene session s := by
  refine ⟨h.toWithin, fun side hnone => ?_, fun hrunning => ⟨fun side => h.easy hrunning side nofun, hundone hrunning⟩⟩
  have hconnecting := (h.sound.consistent.tables.opened h.here hnone).2
  rw [h.connected] at hconnecting
  cases hconnecting

theorem Fit.alike (h : Fit options scene session s) (ha : Alike s s') (hs : Sane options s') :
    Fit options scene session s' :=
  ⟨h.toWithin.alike ha hs, h.opened, by rw [ha.stop]; exact h.paced⟩

/-- A report of no consequence. -/
theorem Fit.notify (h : Fit options scene session s) (event : TcpEvent) (hp : Plain event)
    (ha : Allowed options s.log event) (hstart : Due.start event = some .nothing) :
    Serves options (notify event) s (Fails options scene) fun _ s' =>
      Fit options scene session s' ∧ s'.stop = s.stop := by
  apply (h.toWithin.notify event hp ha hstart).post
  rintro - s' - ⟨h', ha'⟩
  exact ⟨h.alike ha' h'.toSane, ha'.stop⟩

/-- `reportObservation` in particular. -/
theorem Fit.report (h : Fit options scene session s) (kind : String) (id : ℕ) (side : Option Side) (value : ℤ) :
    Serves options (reportObservation kind id side value) s (Fails options scene) fun _ s' =>
      Fit options scene session s' ∧ s'.stop = s.stop :=
  Runs.gets_bind (h.notify _ trivial trivial rfl)

/-- A session that was taken out is no more. -/
theorem Within.over (h : Within options scene session s) (hs : Sane options s') (hw : Without s scene.id s') :
    Over options scene s' where
  toSane := hs
  counted c := by rw [hw.heard, h.counted]
  gone := by rw [hw.sessions, Finmap.lookup_erase]
  others := hw.others h.others
  running := by rw [hw.stop]; exact h.running
  kept := h.kept.onward hw.listenerDeferred (by rw [hw.stop]; exact id) hw.log

/-- The session is closed. -/
theorem Within.closed (h : Within options scene session s) {reason : String} (error : Errno)
    (hexpiry : isExpiry reason = false)
    (ha : Allowed options s.log (.closed scene.id reason fun side => (session.pending side).size)) :
    Serves options (closeSession scene.id reason error) s (Fails options scene) fun _ s' => Over options scene s' := by
  have hnext : ∀ left, Due.nothing.next (.closed scene.id reason left) = some (.closing 0) := fun left => by
    simp [Due.next, Due.start, hexpiry]
  apply (serves_closeSession h.toSteady h.here h.due hnext ha).mono
  · exact fun e s' _ he => fails_of_callback he.2.1 (he.2.2.others h.others) he.1
  · exact fun _ s' _ hq => h.over hq.1 hq.2

/-- The session is closed for a reason that claims nothing. -/
theorem Within.close (h : Within options scene session s) {reason : String} (hreason : reason ∉ reserved) (error : Errno) :
    Serves options (closeSession scene.id reason error) s (Fails options scene) fun _ s' => Over options scene s' := by
  have hexpiry : isExpiry reason = false := by
    simp only [reserved, List.mem_cons, List.not_mem_nil, or_false, not_or] at hreason
    simp [isExpiry, hreason]
  exact h.closed error hexpiry (h.sound.closed_allowed h.here hreason)

/-- What is done is drained. -/
theorem Sound.drained (h : Sound options s) {id : ℕ} (hsession : s.tables.sessions.lookup id = some session)
    (hconnected : session.connecting = false) (hdone : session.Done) :
    (∀ side, (session.pending side).size = 0) ∧ Drained s.log id := by
  have htold := h.told (SessionTables.circuit_of_lookup hsession)
  have hqueue : ∀ side : Side, (s.tables.circuitOf session).queue side.other = [] := fun side =>
    (htold.finished side (hdone side).2).2
  constructor
  · intro side
    have hempty := hqueue side.other
    rw [Side.other_other] at hempty
    exact TcpPendingBuffer.content_eq_nil.mp hempty
  · intro side
    obtain ⟨c, c', hc, hc', hjoins, hside⟩ := h.joined hsession hconnected side
    have hwire : (s.tables.circuitOf session).wire side = some c := hc
    have hwire' : (s.tables.circuitOf session).wire side.other = some c' := hc'
    have hreceived := htold.received side
    rw [hqueue side, List.drop_nil, List.append_nil, hwire, hwire'] at hreceived
    refine ⟨c, c', hjoins, hside, ?_, ?_, hreceived.symm⟩
    · rw [← hwire, htold.eof side]
      exact (hdone side).1
    · rw [← hwire, htold.shutdown side]
      exact (hdone side).2

/-- **A session with nothing more to do is closed**, for the reason that it is. -/
theorem Working.closeFinished (h : Working options scene none session s)
    (hpumped : Pumped true session s.stop.draining) :
    Serves options (closeFinished scene.id) s (Fails options scene) fun _ s' => Over options scene s' := by
  apply Runs.gets_bind
  have hgoing := h.sound.entries.mp (Finmap.mem_of_lookup_eq_some h.here)
  by_cases hstopped : s.stop.stopRequested = true
  · rw [if_pos hstopped]
    exact h.toWithin.close h.sound.consistent.reason 0
  · rw [if_neg hstopped]
    by_cases hdraining : s.stop.draining = true
    · rw [if_pos hdraining]
      refine h.toWithin.closed 0 (by decide) ⟨hgoing, fun _ => hpumped.emptied hdraining rfl, fun hreason => ?_⟩
      exact absurd hreason (by decide)
    · rw [if_neg hdraining]
      have hdone := (hpumped.done (Bool.eq_false_of_not_eq_true hdraining)).mp rfl
      obtain ⟨hempty, hdrained⟩ := h.sound.drained h.here h.connected hdone
      exact h.toWithin.closed 0 (by decide) ⟨hgoing, fun _ => hempty, fun _ => ⟨hempty, hdrained⟩⟩

/-- **`advanceSessionIo`**, of a session that may not be connected yet. -/
theorem Fit.advanceConnected (h : Fit options scene session s) :
    Serves options (advanceConnected options scene.id) s (Fails options scene) fun result s' => ∃ session',
      if result then Working options scene none session' s' ∧ Pumped true session' s'.stop.draining
      else Fit options scene session' s' := by
  apply serves_sessionAt_bind h.here
  apply Runs.ite
  · exact fun _ => Runs.pure ⟨session, h⟩
  · intro hconnected
    apply (h.working (Bool.eq_false_of_not_eq_true hconnected)).advanceSessionIo.post
    rintro result s' - ⟨session', h', hpumped⟩
    refine ⟨session', ?_⟩
    cases result with
    | true => exact ⟨h', hpumped⟩
    | false =>
      refine h'.fit fun hrunning hdone => ?_
      exact Bool.noConfusion ((hpumped.done hrunning).mpr hdone)

end L4lb.Net.Tcp
