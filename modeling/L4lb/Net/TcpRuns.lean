import L4lb.Net.TcpLifetimes

/-!
# The runs of the TCP reactor

What holds between the calls of the reactor, and what the methods do that it is made of:
reports, registrations, closing a session, and the stop signals. Each keeps the state
sound, whatever is answered and whatever is thrown.

## Assertions

* `Steady` — the state is sound, and what the kernel has registered is what the sessions
  and the listener say (`Tracked`), as long as no `EPOLL_CTL_DEL` has failed.
* `Sane` — and nothing in particular has to come next.
* `Settled` — and all that was sent is counted.
-/

namespace L4lb.Net.Tcp

open Effect Prog

/-! ### Between calls -/

/-- What is registered is what the sessions and the listener say. -/
structure Tracked (s : TcpReactor) : Prop where
  /-- The ends of sessions. -/
  registered : s.tables.Registered
  /-- What is not open is not registered. -/
  unopened : ∀ {id session side}, s.tables.sessions.lookup id = some session →
    (session.ends side).fd = none → (session.ends side).registered = false
  /-- The listener. -/
  listener : ∀ {fd}, s.listenerFd = some fd →
    s.tables.interests.lookup fd = if s.listenerDeferred then none else some (1, EPOLLIN)
  /-- Only what is open is registered. -/
  opened : ∀ {fd}, fd ∈ s.tables.interests → fd ∈ s.tables.descriptors
  /-- Only the listener has its token. -/
  alone : ∀ {fd mask}, s.tables.interests.lookup fd = some (1, mask) → s.listenerFd = some fd

variable (options : TcpReactorOptions)

/-- Between calls. -/
structure Steady (s : TcpReactor) : Prop where
  /-- The state is sound. -/
  sound : Sound options s
  /-- The listener is what it is. -/
  listener : ∀ {fd}, s.listenerFd = some fd → s.tables.descriptors.lookup fd = some .listener
  /-- It is there until the service is stopping. -/
  listening : s.stop.draining = false → s.listenerFd ≠ none
  /-- What is registered is what is said. -/
  tracked : DelFailed s.log ∨ Tracked s

/-- And nothing has to come next. -/
structure Sane (s : TcpReactor) : Prop extends Steady options s where
  /-- Nothing is due. -/
  due : due s.log = some .nothing

/-- And all that was sent is counted. -/
structure Settled (s : TcpReactor) : Prop extends Sane options s where
  /-- All is counted. -/
  counted : AllCounted s.log

/-- The listener is deferred, and what is registered is known. -/
def TcpReactor.Deferred (s : TcpReactor) : Prop := s.listenerDeferred = true ∧ ¬ DelFailed s.log

/-- Nothing has changed but the clock, and what the history says of other things. -/
structure Alike (s s' : TcpReactor) : Prop where
  /-- The tables. -/
  tables : s'.tables = s.tables
  /-- How far the stop has come. -/
  stop : s'.stop = s.stop
  /-- The listener. -/
  listenerFd : s'.listenerFd = s.listenerFd
  /-- Whether it is registered. -/
  listenerDeferred : s'.listenerDeferred = s.listenerDeferred
  /-- What is heard of the connections. -/
  heard : ∀ connection, hear s'.log connection = hear s.log connection
  /-- What was recorded. -/
  log : s.log <:+ s'.log

/-- What is thrown is no error of the program. -/
structure TcpError.Sensible (e : TcpError) : Prop where
  /-- What is looked up is there. -/
  present : e ≠ .outOfRange
  /-- No buffer is written or read past its end. -/
  within : ∀ what, e ≠ .logicError what

/-- What is left when something is thrown that no session catches. -/
structure Broken (e : TcpError) (s : TcpReactor) : Prop extends Sane options s where
  /-- It is no error of the program. -/
  sensible : e.Sensible
  /-- It is not the failure of a session. -/
  general : ∀ operation error, e ≠ .sessionFailure operation error

variable {options} {s s' s'' : TcpReactor} {event : TcpEvent}

theorem Alike.refl (s : TcpReactor) : Alike s s := ⟨rfl, rfl, rfl, rfl, fun _ => rfl, List.suffix_refl _⟩

theorem Alike.trans (h : Alike s s') (h' : Alike s' s'') : Alike s s'' where
  tables := h'.tables.trans h.tables
  stop := h'.stop.trans h.stop
  listenerFd := h'.listenerFd.trans h.listenerFd
  listenerDeferred := h'.listenerDeferred.trans h.listenerDeferred
  heard connection := (h'.heard connection).trans (h.heard connection)
  log := h.log.trans h'.log

theorem DelFailed.suffix {log log' : List TcpEvent} (h : DelFailed log) (hlog : log <:+ log') : DelFailed log' := by
  obtain ⟨error, hmem⟩ := h
  exact ⟨error, hlog.subset hmem⟩

/-- It was deferred before. -/
theorem TcpReactor.Deferred.before (h : s'.Deferred) (hdeferred : s'.listenerDeferred = s.listenerDeferred)
    (hlog : s.log <:+ s'.log) : s.Deferred :=
  ⟨hdeferred ▸ h.1, fun hfailed => h.2 (hfailed.suffix hlog)⟩

theorem Alike.deferred (h : Alike s s') (hdeferred : s'.Deferred) : s.Deferred :=
  hdeferred.before h.listenerDeferred h.log

theorem Alike.failed (h : Alike s s') (hfailed : DelFailed s.log) : DelFailed s'.log := hfailed.suffix h.log

theorem Tracked.alike (h : Tracked s) (ha : Alike s s') : Tracked s' := by
  constructor
  · rw [ha.tables]
    exact h.registered
  · rw [ha.tables]
    exact h.unopened
  · rw [ha.tables, ha.listenerFd, ha.listenerDeferred]
    exact h.listener
  · rw [ha.tables]
    exact h.opened
  · rw [ha.tables, ha.listenerFd]
    exact h.alone

theorem Steady.alike (h : Steady options s) (ha : Alike s s') (hs : Sound options s') : Steady options s' := by
  constructor
  · exact hs
  · rw [ha.tables, ha.listenerFd]
    exact h.listener
  · rw [ha.stop, ha.listenerFd]
    exact h.listening
  · rcases h.tracked with hfailed | htracked
    · exact .inl (ha.failed hfailed)
    · exact .inr (htracked.alike ha)

theorem Settled.alike (h : Settled options s) (ha : Alike s s') (hs : Sane options s') : Settled options s' where
  toSane := hs
  counted c := by rw [ha.heard, h.counted]

theorem Alike.record (hp : Plain event) : Alike s (s.record event) :=
  ⟨rfl, rfl, rfl, rfl, hp.hear s.log, List.suffix_cons event s.log⟩

theorem sensible_callback (exception : ℕ) : (TcpError.callback exception).Sensible := ⟨nofun, nofun⟩

/-! ### Reports -/

/-- What is recorded and of no consequence. -/
theorem Sane.record (h : Sane options s) (hp : Plain event) (ha : Allowed options s.log event)
    (hstart : Due.start event = some .nothing) : Sane options (s.record event) := by
  have hd : Tcp.due (event :: s.log) = some .nothing := by
    rw [due_cons h.due]
    exact hstart
  have hs := h.sound.plain event hp ha (by rw [hd]; rfl)
  exact ⟨h.toSteady.alike (.record hp) hs, hd⟩

/-- A callback is told of something of no consequence. -/
theorem serves_notify (event : TcpEvent) (h : Sane options s) (hp : Plain event) (ha : Allowed options s.log event)
    (hstart : Due.start event = some .nothing) :
    Serves options (notify event) s
      (fun e s' => Sane options s' ∧ Alike s s' ∧ ∃ exception, e = .callback exception)
      fun _ s' => Sane options s' ∧ Alike s s' := by
  have hrecorded := h.record hp ha hstart
  apply Runs.modify_bind (.single fun _ => hrecorded.sound)
  apply Runs.call_bind
  intro answer
  cases answer with
  | none => exact Runs.pure ⟨hrecorded, .record hp⟩
  | some exception =>
    have hthrown : Sane options ((s.record event).record .callbackThrew) := hrecorded.record trivial trivial rfl
    apply Runs.modify_bind (.single fun _ => hthrown.sound)
    exact Runs.raise ⟨hthrown, (Alike.record hp).trans (.record trivial), exception, rfl⟩

/-- `reportObservation` in particular. -/
theorem serves_reportObservation (h : Sane options s) (kind : String) (session : ℕ) (side : Option Side)
    (value : ℤ) :
    Serves options (reportObservation kind session side value) s
      (fun e s' => Sane options s' ∧ Alike s s' ∧ ∃ exception, e = .callback exception)
      fun _ s' => Sane options s' ∧ Alike s s' :=
  Runs.gets_bind (serves_notify _ h trivial trivial rfl)

/-- The clock is read, and may have advanced. -/
theorem serves_currentTime (h : Sane options s) {E : TcpError → TcpReactor → Prop} :
    Serves options currentTime s E fun time s' => Sane options s' ∧ Alike s s' ∧ s'.log = s.log ∧
      time = s'.clock ∧ 0 ≤ time := by
  apply Runs.call_bind
  intro elapsed
  have hclock : 0 ≤ s.clock + elapsed := Int.add_nonneg h.sound.clock (Int.natCast_nonneg elapsed)
  have halike : Alike s { s with clock := s.clock + elapsed } :=
    ⟨rfl, rfl, rfl, rfl, fun _ => rfl, List.suffix_refl _⟩
  have hs : Sound options { s with clock := s.clock + elapsed } :=
    h.sound.quiet h.sound.consistent.tables (fun _ => rfl) rfl rfl rfl le_rfl le_rfl le_rfl hclock
  apply Runs.modify_bind (.single fun _ => hs)
  exact Runs.gets ⟨⟨h.toSteady.alike halike hs, h.due⟩, halike, rfl, rfl, hclock⟩

/-! ### Registration -/

/-- What the kernel allows of a registration. -/
def SessionTables.Legal (tables : SessionTables) (operation : EpollOperation) (fd : Option ℕ) : Prop :=
  ∃ n, fd = some n ∧ (n ∈ tables.interests ↔ operation ≠ .add)

theorem allowed_epoll {operation : EpollOperation} {fd : Option ℕ}
    (h : DelFailed s.log ∨ s.tables.Legal operation fd) :
    Allowed options s.log (.epoll operation fd (fd.any (· ∈ s.tables.interests))) := by
  rcases h with hfailed | ⟨n, rfl, hn⟩
  · exact .inl hfailed
  · right
    simp [hn]

/-- The tables do not depend on what is registered. -/
theorem SessionTables.Consistent.interests {tables : SessionTables} (h : tables.Consistent)
    (interests : Table ℕ (ℕ × EpollEvents)) : ({ tables with interests } : SessionTables).Consistent :=
  ⟨h.id, h.wired, h.opened, h.waiting, h.apart, h.numbered, h.distinct, h.token, h.registered, h.token_lt,
    h.next_ge⟩

/-- What is registered is all that `epoll_ctl` changes. -/
theorem SessionTables.control_eq (tables : SessionTables) (operation : EpollOperation) (fd : Option ℕ)
    (token : ℕ) (mask : EpollEvents) : tables.control operation fd token mask =
      { tables with interests := (tables.control operation fd token mask).interests } := by
  unfold SessionTables.control
  split <;> rfl

/-- What is registered changes. -/
theorem Sound.control (h : Sound options s) (operation : EpollOperation) (fd : Option ℕ) (token : ℕ)
    (mask : EpollEvents) : Sound options { s with tables := s.tables.control operation fd token mask } := by
  rw [SessionTables.control_eq]
  exact h.quiet (h.consistent.tables.interests _) (fun _ => rfl) rfl rfl rfl le_rfl le_rfl le_rfl h.clock

/-- `epoll_ctl` does what it is asked, or fails and is known to. -/
theorem serves_epollControl (h : Sound options s) {operation : EpollOperation} {fd : Option ℕ}
    (hlegal : DelFailed s.log ∨ s.tables.Legal operation fd) {token : ℕ} {mask : EpollEvents} {d : Due}
    (hd : due s.log = some d) (hcalled : ∀ known, d.next (.epoll operation fd known) = some d)
    (hfailed : ∀ error, (d.next (.epollFailed operation error)).isSome)
    {E : TcpError → TcpReactor → Prop} :
    Serves options (epollControl operation fd token mask) s E fun result s' => Sound options s' ∧
      match result with
      | .ok () => s' = { s.record (.epoll operation fd (fd.any (· ∈ s.tables.interests))) with
          tables := s.tables.control operation fd token mask }
      | .error error => s' = (s.record (.epoll operation fd (fd.any (· ∈ s.tables.interests)))).record
          (.epollFailed operation error) := by
  have hdue : due (.epoll operation fd (fd.any (· ∈ s.tables.interests)) :: s.log) = some d := by
    rw [due_cons hd, hcalled]
  have hrecorded := h.plain (.epoll operation fd (fd.any (· ∈ s.tables.interests))) trivial
    (allowed_epoll hlegal) (by rw [hdue]; rfl)
  apply Runs.modify_bind (.single fun _ => hrecorded)
  apply Runs.call_bind
  intro answer
  cases answer with
  | ok =>
    have hcontrolled := hrecorded.control operation fd token mask
    apply Runs.modify_bind (.single fun _ => hcontrolled)
    exact Runs.pure ⟨hcontrolled, rfl⟩
  | error error =>
    have hthrown := hrecorded.plain (.epollFailed operation error) trivial trivial (by
      rw [TcpReactor.record_log, due_cons hdue]
      exact hfailed error)
    apply Runs.modify_bind (.single fun _ => hthrown)
    exact Runs.pure ⟨hthrown, rfl⟩

end L4lb.Net.Tcp
