import L4lb.Net.TcpEvents

/-!
# Accepting clients

What `acceptClientSessions` does with the clients that wait, from a state in which every
session waits for events to another: each client is turned away, or becomes a session, which
is connected to its backend or is closed. When resources are short the listener is taken out
of `epoll` for a time.
-/

namespace L4lb.Net.Tcp

open Effect Prog

variable {options : TcpReactorOptions} {scene : Scene} {s s' : TcpReactor} {session : Session} {side : Side} {id fd : ℕ}

/-! ### Descriptors -/

/-- Nothing has changed that anything else depends on. -/
theorem Sane.aside (h : Sane options s) (ha : Alike s s') (hlog : s'.log = s.log) (hclock : s'.clock = s.clock) :
    Sane options s' := by
  have htables := ha.tables
  have hsound : Sound options s' := by
    refine h.sound.quiet (htables ▸ h.sound.consistent.tables) (fun id => by rw [htables]) hlog ha.stop
      (by rw [htables]) (by rw [htables]) (by rw [htables]) (by rw [htables]) ?_
    rw [hclock]
    exact h.sound.clock
  exact ⟨h.toSteady.alike ha hsound, hlog ▸ h.due⟩

/-- A connection that no session has. -/
structure Loose (fd : ℕ) (c : Connection) (s : TcpReactor) : Prop where
  /-- It is open. -/
  descriptor : s.tables.descriptors.lookup fd = some (.connection c)
  /-- No session has it. -/
  unused : s.tables.Unused fd

theorem Loose.alike {c : Connection} (h : Loose fd c s) (ha : Alike s s') : Loose fd c s' where
  descriptor := by rw [ha.tables, h.descriptor]
  unused := ha.tables ▸ h.unused

/-- A connection that is no session's. -/
structure Unclaimed (fd : ℕ) (c : Connection) (s : TcpReactor) : Prop extends Loose fd c s where
  /-- No session ever had it. -/
  fresh : ∀ id, .attached id (some c) ∉ s.log
  /-- It is not registered. -/
  unknown : DelFailed s.log ∨ fd ∉ s.tables.interests

theorem Unclaimed.alike {c : Connection} (h : Unclaimed fd c s) (ha : Alike s s')
    (hattached : ∀ id, .attached id (some c) ∈ s'.log → .attached id (some c) ∈ s.log) : Unclaimed fd c s' where
  toLoose := h.toLoose.alike ha
  fresh id hmem := h.fresh id (hattached id hmem)
  unknown := by
    rw [ha.tables]
    exact h.unknown.imp_left ha.failed

theorem Unclaimed.record {c : Connection} {event : TcpEvent} (h : Unclaimed fd c s) (hp : Plain event) :
    Unclaimed fd c (s.record event) := by
  refine h.alike (.record hp) fun id hmem => ?_
  exact hp.inner.attached.mp hmem

/-- The tables once something new is open. -/
theorem Sound.install (h : Sound options s) (hfd : fd ∉ s.tables.descriptors) {descriptor : TcpDescriptor}
    (hserial : ∀ connection, descriptor = .connection connection → connection.serial = s.tables.connections) :
    Sound options { s with tables := s.tables.install fd descriptor } :=
  h.quiet (h.consistent.tables.install hfd hserial) (fun id => h.consistent.tables.circuit_install hfd id) rfl rfl rfl
    le_rfl (Nat.le_succ _) le_rfl h.clock

/-- A connection that is opened gets the next number. -/
theorem serial_connection (side : Side) (serial : ℕ) (connection : Connection)
    (h : TcpDescriptor.connection ⟨side, serial⟩ = .connection connection) : connection.serial = serial :=
  TcpDescriptor.connection.inj h ▸ rfl

theorem Steady.install (h : Steady options s) (hfd : fd ∉ s.tables.descriptors) (side : Side) :
    Steady options { s with tables := s.tables.install fd (.connection ⟨side, s.tables.connections⟩) } := by
  have hold : ∀ {fd' descriptor}, s.tables.descriptors.lookup fd' = some descriptor →
      (s.tables.install fd (.connection ⟨side, s.tables.connections⟩)).descriptors.lookup fd' = some descriptor := by
    intro fd' descriptor hlookup
    have hne : fd' ≠ fd := by
      rintro rfl
      exact hfd (Finmap.mem_of_lookup_eq_some hlookup)
    exact (Finmap.lookup_insert_of_ne _ hne).trans hlookup
  refine ⟨h.sound.install hfd (serial_connection side _), fun hlistener => hold (h.listener hlistener), h.listening,
    h.tracked.imp_right ?_⟩
  intro htracked
  refine ⟨htracked.registered, htracked.unopened, htracked.listener, fun hknown => ?_, htracked.alone⟩
  exact Finmap.mem_insert.mpr (.inr (htracked.opened hknown))

/-- A new connection is no session's. -/
theorem Steady.unclaimed (h : Steady options s) (hfd : fd ∉ s.tables.descriptors) (side : Side) :
    Unclaimed fd ⟨side, s.tables.connections⟩
      { s with tables := s.tables.install fd (.connection ⟨side, s.tables.connections⟩) } where
  descriptor := Finmap.lookup_insert _
  unused := h.sound.consistent.tables.unused_of_notMem hfd
  fresh id hmem := by
    obtain ⟨-, connection, hc, hserial⟩ := h.sound.consistent.attached hmem
    rw [← Option.some.inj hc] at hserial
    exact Nat.lt_irrefl _ hserial
  unknown := h.tracked.imp_right fun htracked hknown => hfd (htracked.opened hknown)

/-- **A descriptor is opened**, or not. -/
theorem serves_installDescriptor (h : Sound options s) {descriptor : ℕ → TcpDescriptor}
    (hserial : ∀ serial connection, descriptor serial = .connection connection → connection.serial = serial)
    (answer : Except Errno ℕ) {E : TcpError → TcpReactor → Prop} :
    Serves options (installDescriptor descriptor answer) s E fun result s' =>
      match result with
      | .error _ => s' = s
      | .ok fd => fd ∉ s.tables.descriptors ∧
        s' = { s with tables := s.tables.install fd (descriptor s.tables.connections) } := by
  apply Runs.gets_bind
  cases answer with
  | error error => exact Runs.pure rfl
  | ok fd =>
    apply Runs.ite
    · exact fun _ => Runs.pure rfl
    · intro hfd
      apply Runs.modify_bind (.single fun _ => h.install hfd (hserial _))
      exact Runs.pure ⟨hfd, rfl⟩

/-- A connection that is no session's is closed. -/
theorem Loose.destroyFd {c : Connection} (hc : Loose fd c s) (h : Sane options s) {E : TcpError → TcpReactor → Prop} :
    Serves options (destroyFd (some fd)) s E fun _ s' => Sane options s' ∧ s' = s.close (some fd) := by
  have hsound : Sound options (s.close (some fd)) :=
    h.sound.quiet (h.sound.consistent.tables.release hc.unused) (SessionTables.circuit_release hc.unused) rfl rfl rfl le_rfl
      le_rfl le_rfl h.sound.clock
  have hlistener : ∀ {fd'}, s.listenerFd = some fd' → fd' ≠ fd := by
    rintro fd' hfd' rfl
    have hdescriptor := h.listener hfd'
    rw [hc.descriptor] at hdescriptor
    cases hdescriptor
  rw [destroyFd_eq]
  apply Runs.modify (.single fun _ => hsound)
  refine ⟨⟨⟨hsound, fun hfd' => ?_, h.listening, h.tracked.imp_right fun htracked => ?_⟩, h.due⟩, rfl⟩
  · exact (Finmap.lookup_erase_ne (hlistener hfd')).trans (h.listener hfd')
  · constructor
    · intro id session side fd' hsession hfd'
      have hne : fd' ≠ fd := by
        rintro rfl
        exact hc.unused id session side hsession hfd'
      exact (Finmap.lookup_erase_ne hne).trans (htracked.registered id session side fd' hsession hfd')
    · exact htracked.unopened
    · exact fun hfd' => (Finmap.lookup_erase_ne (hlistener hfd')).trans (htracked.listener hfd')
    · intro fd' hknown
      obtain ⟨hne, hknown⟩ := Finmap.mem_erase.mp hknown
      exact Finmap.mem_erase.mpr ⟨hne, htracked.opened hknown⟩
    · exact fun hknown => htracked.alone (Table.lookup_of_lookup_erase hknown)

/-! ### A session that begins -/

/-- A session that is being set up. -/
structure Session.Young (session : Session) : Prop where
  /-- Its client is open. -/
  client : (session.ends .client).fd ≠ none
  /-- No end is registered. -/
  unregistered : ∀ side, (session.ends side).registered = false
  /-- None has ended. -/
  unended : ∀ side, (session.ends side).eof = false
  /-- None is paused. -/
  unpaused : ∀ side, (session.ends side).paused = false

variable (options scene) in
/-- The turn of a session that is being set up, before the service is stopping. -/
structure Beginning (session : Session) (s : TcpReactor) : Prop extends Within options scene session s where
  /-- It is set up. -/
  young : session.Young
  /-- The service is not stopping. -/
  live : s.stop.draining = false

/-- **A session with no end registered takes the place of another, or of none.** -/
theorem Steady.reseated (h : Steady options s) (hs : Sound options s') {session' : Session}
    (hlookup : ∀ id', s'.tables.sessions.lookup id' =
      if id' = id then some session' else s.tables.sessions.lookup id')
    (hinterests : s'.tables.interests = s.tables.interests) (hdescriptors : s'.tables.descriptors = s.tables.descriptors)
    (hunregistered : ∀ side, (session'.ends side).registered = false)
    (hunknown : ∀ side fd, (session'.ends side).fd = some fd → DelFailed s.log ∨ fd ∉ s.tables.interests)
    (hstop : s'.stop = s.stop) (hlistenerFd : s'.listenerFd = s.listenerFd)
    (hdeferred : s'.listenerDeferred = s.listenerDeferred) (hlog : s.log <:+ s'.log) : Steady options s' := by
  have hfailed : DelFailed s.log → DelFailed s'.log := fun ⟨error, hmem⟩ => ⟨error, hlog.subset hmem⟩
  refine ⟨hs, ?_, ?_, ?_⟩
  · rw [hdescriptors, hlistenerFd]
    exact h.listener
  · rw [hstop, hlistenerFd]
    exact h.listening
  · by_cases hdel : DelFailed s.log
    · exact .inl (hfailed hdel)
    have htracked := h.tracked.resolve_left hdel
    right
    constructor
    · intro id' session'' side fd hsession hfd
      rw [hinterests]
      rw [hlookup] at hsession
      split at hsession
      · obtain rfl := Option.some.inj hsession
        rw [EndpointState.entry, hunregistered side, Finmap.lookup_eq_none.mpr ((hunknown side fd hfd).resolve_left hdel)]
        rfl
      · exact htracked.registered id' session'' side fd hsession hfd
    · intro id' session'' side hsession hfd
      rw [hlookup] at hsession
      split at hsession
      · obtain rfl := Option.some.inj hsession
        exact hunregistered side
      · exact htracked.unopened hsession hfd
    · rw [hinterests, hlistenerFd, hdeferred]
      exact htracked.listener
    · rw [hinterests, hdescriptors]
      exact htracked.opened
    · rw [hinterests, hlistenerFd]
      exact htracked.alone

/-- What an end has open is not known to `epoll`. -/
theorem Beginning.unknown (h : Beginning options scene session s) (side : Side) (fd : ℕ)
    (hfd : (session.ends side).fd = some fd) : DelFailed s.log ∨ fd ∉ s.tables.interests := by
  refine (h.toSteady.interest h.here hfd).imp_right fun hentry => ?_
  rw [EndpointState.entry, h.young.unregistered side] at hentry
  exact Finmap.lookup_eq_none.mp hentry

/-- An end of it is changed. -/
theorem Beginning.reseat (h : Beginning options scene session s) {f : EndpointState → EndpointState}
    (hs : Sound options s') (hsessions : s'.tables.sessions = (s.tables.update scene.id (·.setEnd side f)).sessions)
    (hinterests : s'.tables.interests = s.tables.interests) (hdescriptors : s'.tables.descriptors = s.tables.descriptors)
    (hfd : (f (session.ends side)).fd ≠ none) (hregistered : (f (session.ends side)).registered = false)
    (heof : (f (session.ends side)).eof = false) (hpaused : (f (session.ends side)).paused = false)
    (hunknown : ∀ fd, (f (session.ends side)).fd = some fd → DelFailed s.log ∨ fd ∉ s.tables.interests)
    (hstop : s'.stop = s.stop) (hlistenerFd : s'.listenerFd = s.listenerFd)
    (hdeferred : s'.listenerDeferred = s.listenerDeferred) (hlog : s.log <:+ s'.log)
    (hdue : due s'.log = some .nothing) (hcounted : AllCounted s'.log) :
    Beginning options scene (session.setEnd side f) s' := by
  have hlookup : ∀ id, s'.tables.sessions.lookup id =
      if id = scene.id then some (session.setEnd side f) else s.tables.sessions.lookup id := by
    intro id
    rw [hsessions]
    exact SessionTables.lookup_update h.here id
  -- what holds of both ends holds of the one that is changed and of the other
  have hends : ∀ P : EndpointState → Prop, P (f (session.ends side)) → (∀ side, P (session.ends side)) →
      ∀ side', P ((session.setEnd side f).ends side') := by
    intro P hchanged hother side'
    rw [Session.setEnd_ends]
    by_cases hside : side' = side
    · rw [hside, Function.update_self]
      exact hchanged
    · rw [Function.update_of_ne hside]
      exact hother side'
  have hyoung : (session.setEnd side f).Young := by
    refine ⟨?_, hends (·.registered = false) hregistered h.young.unregistered, hends (·.eof = false) heof h.young.unended,
      hends (·.paused = false) hpaused h.young.unpaused⟩
    rw [Session.setEnd_ends]
    by_cases hside : Side.client = side
    · rw [hside, Function.update_self]
      exact hfd
    · rw [Function.update_of_ne hside]
      exact h.young.client
  have hopen := hends (fun endpoint => ∀ fd, endpoint.fd = some fd → DelFailed s.log ∨ fd ∉ s.tables.interests)
    hunknown h.unknown
  refine ⟨⟨⟨⟨h.toSteady.reseated hs hlookup hinterests hdescriptors hyoung.unregistered
    hopen hstop hlistenerFd hdeferred hlog,
    hdue⟩, hcounted⟩, ?_, fun id hid => ?_, ?_, ?_⟩, hyoung, ?_⟩
  · rw [hlookup, if_pos rfl]
  · rw [hlookup, if_neg hid, h.others id hid]
  · rw [hstop]
    exact h.running
  · exact h.kept.onward hdeferred (by rw [hstop]; exact id) hlog
  · rw [hstop, h.live]

/-- **The backend of a session is opened.** -/
theorem Beginning.attachBackend {c : Connection} (h : Beginning options scene session s) (hc : Unclaimed fd c s)
    (hside : c.side = .backend) (hnone : (session.ends .backend).fd = none) :
    Serves options (attachBackend scene.id fd) s (Fails options scene) fun _ s' =>
      Beginning options scene (session.setEnd .backend fun endpoint => { endpoint with fd := some fd }) s' := by
  obtain ⟨_, serial⟩ := c
  obtain rfl := hside
  have hsound := h.sound.wired h.due h.live h.here hnone hc.descriptor hc.unused hc.fresh
  unfold Tcp.attachBackend
  apply Runs.modify (.single fun _ => hsound)
  refine h.reseat hsound rfl ?_ ?_ (by simp) (h.young.unregistered _) (h.young.unended _) (h.young.unpaused _) ?_ rfl rfl rfl
    (List.suffix_cons _ _) ?_ fun c' => ?_
  · show (s.tables.update _ _).interests = _
    rw [SessionTables.update_of_lookup h.here]
  · exact SessionTables.update_descriptors
  · intro fd' heq
    obtain rfl := Option.some.inj heq
    exact hc.unknown
  · show due (.attached _ (s.tables.connection (some fd)) :: s.log) = _
    rw [due_cons h.due, SessionTables.connection_of_lookup hc.descriptor]
    rfl
  · exact h.counted c'

/-- **An end of a session gets its token.** -/
theorem Beginning.registerEndpoint (h : Beginning options scene session s) (side : Side)
    (hopened : ∀ side, (session.ends side).fd ≠ none) (hzero : (session.ends side).token = 0) :
    Serves options (registerEndpoint scene.id side) s (Fails options scene) fun _ s' => ∃ token,
      Beginning options scene (session.setEnd side fun endpoint => { endpoint with token }) s' := by
  have hnone : ∀ token, s.tables.tokens.entries.lookup token ≠ some ⟨scene.id, side⟩ := by
    intro token hentry
    obtain ⟨session', hsession', htoken, -⟩ := h.sound.consistent.tables.token hentry
    rw [h.here] at hsession'
    obtain rfl := Option.some.inj hsession'
    have hlow := (h.sound.consistent.tables.token_lt hentry).1
    rw [hzero] at htoken
    omega
  apply Runs.gets_bind
  cases hregister : s.tables.tokens.registerEndpoint scene.id side with
  | none => exact Runs.raise ⟨h.toSane, h.others, ⟨nofun, nofun⟩, nofun⟩
  | some registered =>
    obtain ⟨token, tokens⟩ := registered
    have hsound := h.sound.registered h.due h.here (hopened .backend) hnone hregister
    apply Runs.modify (.single fun _ => hsound)
    refine ⟨token, h.reseat hsound ?_ ?_ ?_ (hopened side) (h.young.unregistered _) (h.young.unended _) (h.young.unpaused _)
      (h.unknown side) rfl rfl rfl (List.suffix_cons _ _) ?_ fun c => ?_⟩
    · show (SessionTables.update _ _ _).sessions = (SessionTables.update _ _ _).sessions
      rw [SessionTables.update_of_lookup (show
        ({ s.tables with tokens } : SessionTables).sessions.lookup scene.id = some session
        from h.here), SessionTables.update_of_lookup h.here]
    · show (SessionTables.update _ _ _).interests = _
      rw [SessionTables.update_of_lookup (show
        ({ s.tables with tokens } : SessionTables).sessions.lookup scene.id = some session
        from h.here)]
    · exact SessionTables.update_descriptors
    · rw [due_cons h.due]
      rfl
    · exact h.counted c

/-- A session that has both its ends can be pumped. -/
theorem Beginning.fit (h : Beginning options scene session s) (hopened : ∀ side, (session.ends side).fd ≠ none) :
    Fit options scene session s := by
  refine ⟨h.toWithin, hopened, fun _ => ⟨fun side hpaused => ?_, fun hdone => ?_⟩⟩
  · rw [h.young.unpaused side] at hpaused
    cases hpaused
  · have hended := (hdone .client).1
    rw [h.young.unended .client] at hended
    cases hended

/-- A new descriptor changes nothing of the session. -/
theorem Beginning.install (h : Beginning options scene session s) (hfd : fd ∉ s.tables.descriptors) (side : Side) :
    Beginning options scene session
      { s with tables := s.tables.install fd (.connection ⟨side, s.tables.connections⟩) } :=
  ⟨⟨⟨⟨h.toSteady.install hfd side, h.due⟩, h.counted⟩, h.here, h.others, h.running, h.kept⟩, h.young, h.live⟩

/-- **`connectSessionBackend`**: the session waits for events, or it fails. -/
theorem Beginning.connectSessionBackend (h : Beginning options scene session s)
    (hnone : (session.ends .backend).fd = none) (hzero : ∀ side, (session.ends side).token = 0) :
    Serves options (connectSessionBackend scene.id) s (Fails options scene) fun _ s' => Rested options scene s' := by
  apply Runs.call_bind
  intro answer
  apply Runs.bind (serves_installDescriptor h.sound (serial_connection .backend) answer)
  rintro result s₁ - hresult
  cases result with
  | error error =>
    obtain rfl := hresult
    exact Runs.raise (h.toWithin.fails (by simp [reserved]))
  | ok fd =>
    obtain ⟨hfd, rfl⟩ := hresult
    apply Runs.bind ((h.install hfd .backend).attachBackend (h.toSteady.unclaimed hfd .backend) rfl hnone)
    rintro - s₂ - h₂
    have hopened : ∀ side,
        ((session.setEnd .backend fun endpoint => { endpoint with fd := some fd }).ends side).fd ≠ none := by
      intro side
      cases side with
      | client => exact h.young.client
      | backend => simp
    have hzero₂ : ∀ side,
        ((session.setEnd .backend fun endpoint => { endpoint with fd := some fd }).ends side).token = 0 := by
      intro side
      cases side with
      | client => exact hzero .client
      | backend => simp [hzero .backend]
    apply Runs.bind (h₂.registerEndpoint .client hopened (hzero₂ .client))
    rintro - s₃ - ⟨token₃, h₃⟩
    have hopened₃ : ∀ side, (((session.setEnd .backend fun endpoint => { endpoint with fd := some fd }).setEnd .client
        fun endpoint => { endpoint with token := token₃ }).ends side).fd ≠ none := by
      intro side
      cases side with
      | client => exact hopened .client
      | backend => exact hopened .backend
    apply Runs.bind (h₃.registerEndpoint .backend hopened₃ (hzero₂ .backend))
    rintro - s₄ - ⟨token₄, h₄⟩
    have hopened₄ : ∀ side, ((((session.setEnd .backend fun endpoint => { endpoint with fd := some fd }).setEnd .client
        fun endpoint => { endpoint with token := token₃ }).setEnd .backend
        fun endpoint => { endpoint with token := token₄ }).ends side).fd ≠ none := by
      intro side
      cases side with
      | client => exact hopened₃ .client
      | backend => exact hopened₃ .backend
    generalize (((session.setEnd .backend fun endpoint => { endpoint with fd := some fd }).setEnd .client
        fun endpoint => { endpoint with token := token₃ }).setEnd .backend
        fun endpoint => { endpoint with token := token₄ }) = session₄ at h₄ hopened₄
    have hfit := h₄.fit hopened₄
    apply serves_sessionAt_bind h₄.here
    have hattempted : Fit options scene session₄
        (s₄.record (.attempted .connect (s₄.tables.connection (session₄.ends .backend).fd))) :=
      hfit.alike (.record trivial) (h₄.toSane.record trivial ⟨h₄.counted, h₄.sound.running h₄.live⟩ rfl)
    apply Runs.modify_bind (.single fun _ => hattempted.sound)
    apply Runs.call_bind
    intro answer
    cases answer with
    | ok =>
      apply Runs.bind hattempted.time
      rintro time s₅ - ⟨h₅, -⟩
      have hstill : Still fun session => { session with connecting := false, deadline := ⟨time⟩ } :=
        ⟨⟨fun _ => rfl, fun _ _ => rfl, fun _ _ => rfl⟩, fun _ _ => rfl, fun _ _ => rfl⟩
      have hharmless : Harmless fun session => { session with connecting := false, deadline := ⟨time⟩ } :=
        ⟨fun _ _ => rfl, fun _ => rfl, fun _ => rfl, fun _ _ => rfl, fun _ _ => rfl⟩
      have horderly : Orderly s₅.tables scene.id
          fun session => { session with connecting := false, deadline := ⟨time⟩ } := by
        refine ⟨fun session' hsession => .inr ⟨rfl, ?_⟩, fun _ _ _ _ h => h⟩
        rw [h₅.here] at hsession
        exact Option.some.inj hsession ▸ h₅.opened .backend
      apply Runs.bind (h₅.update hstill hharmless horderly fun _ _ => rfl)
      rintro - s₆ - ⟨h₆, -⟩
      apply Runs.bind (h₆.report _ _ _ _)
      rintro - s₇ - ⟨h₇, -⟩
      exact h₇.updateSessionInterests
    | error error =>
      apply Runs.ite
      · intro _
        apply Runs.bind (hattempted.report _ _ _ _)
        rintro - s₅ - ⟨h₅, -⟩
        exact h₅.updateSessionInterests
      · intro _
        apply Runs.bind (Q := fun _ _ => False) (Runs.raise (hattempted.toWithin.fails (by simp [reserved])))
        rintro - s₅ - hfalse
        exact hfalse.elim

/-! ### A new session -/

/-- The session that is built for a client. -/
def newSession (id : ℕ) (backend : Endpoint) (front : ℕ) (time : Time) : Session :=
  ({ id, backend, pending := fun _ => .empty, deadline := ⟨time⟩ } : Session).setEnd .client fun endpoint =>
    { endpoint with fd := some front }

variable (options scene) in
/-- A session that was put in the table, before the service is stopping. -/
structure Created (session : Session) (s : TcpReactor) : Prop extends Steady options s where
  /-- All is counted. -/
  counted : AllCounted s.log
  /-- The session is there. -/
  here : s.tables.sessions.lookup scene.id = some session
  /-- The others are as they were. -/
  others : ∀ id ≠ scene.id, s.tables.sessions.lookup id = scene.others id
  /-- There were none of that id. -/
  running : scene.running = true
  /-- What is known of the listener is kept. -/
  kept : scene.Keeps s
  /-- It is set up. -/
  young : session.Young
  /-- The service is not stopping. -/
  live : s.stop.draining = false

/-- Its turn begins once it is counted. -/
theorem Created.beginning (h : Created options scene session s) (ha : Alike s s') (hs : Sane options s') :
    Beginning options scene session s' where
  toSane := hs
  counted c := by rw [ha.heard, h.counted]
  here := by rw [ha.tables, h.here]
  others := by
    rw [ha.tables]
    exact h.others
  running _ := h.running
  kept := h.kept.onward ha.listenerDeferred (by rw [ha.stop]; exact id) ha.log
  young := h.young
  live := by rw [ha.stop, h.live]

theorem Beginning.alike (h : Beginning options scene session s) (ha : Alike s s') (hs : Sane options s') :
    Beginning options scene session s' where
  toWithin := h.toWithin.alike ha hs
  young := h.young
  live := by rw [ha.stop, h.live]

theorem newSession_end (id : ℕ) (backend : Endpoint) (front : ℕ) (time : Time) (side : Side) :
    (newSession id backend front time).ends side = if side = .client then { fd := some front } else {} := by
  cases side <;> rfl

theorem young_newSession (id : ℕ) (backend : Endpoint) (front : ℕ) (time : Time) :
    (newSession id backend front time).Young := by
  constructor
  · simp [newSession_end]
  all_goals
    intro side
    cases side <;> rfl

/-- **A client's session is put in the table**, with its client's connection. -/
theorem serves_createSession (h : Settled options s) (hlive : s.stop.draining = false)
    (hroom : Table.size s.tables.sessions < options.maxSessions) {serial : ℕ}
    (hc : Unclaimed fd ⟨.client, serial⟩ s) (backend : Endpoint) (time : Time) {E : TcpError → TcpReactor → Prop} :
    Serves options (createSession backend fd time) s E fun id s' => id = s.tables.nextSessionId ∧
      due s'.log = some .creation ∧
      Created options (s.turn id) (newSession id backend fd time) s' := by
  have hnew : s.tables.nextSessionId ∉ s.tables.sessions := by
    intro hmem
    obtain ⟨session, hsession⟩ := Finmap.mem_iff.mp hmem
    exact Nat.lt_irrefl _ (h.sound.consistent.tables.id hsession).2
  have hcircuit : s.tables.circuitOf (newSession s.tables.nextSessionId backend fd time) =
      Circuit.new ⟨.client, serial⟩ := by
    simp only [SessionTables.circuitOf, Circuit.new, Circuit.mk.injEq, newSession_end]
    refine ⟨?_, rfl, rfl, ?_, ?_⟩
    · funext side
      cases side with
      | client => exact SessionTables.connection_of_lookup hc.descriptor
      | backend => rfl
    all_goals
      funext side
      cases side <;> rfl
  have hid : (newSession s.tables.nextSessionId backend fd time).id = s.tables.nextSessionId := rfl
  have htokens : ∀ side, ((newSession s.tables.nextSessionId backend fd time).ends side).token = 0 := by
    intro side
    cases side <;> rfl
  have hsound := h.sound.created h.due hlive hroom hc.descriptor hc.unused hc.fresh hid rfl rfl rfl hcircuit htokens
  have hlookup : ∀ id, (Table.emplace s.tables.sessions s.tables.nextSessionId
      (newSession s.tables.nextSessionId backend fd time)).lookup id =
        if id = s.tables.nextSessionId then some (newSession s.tables.nextSessionId backend fd time)
        else s.tables.sessions.lookup id := by
    intro id
    rw [Table.emplace_of_notMem hnew]
    split
    · rename_i heq
      rw [heq, Finmap.lookup_insert]
    · rename_i hne
      rw [Finmap.lookup_insert_of_ne _ hne]
  have hunknown : ∀ side fd', ((newSession s.tables.nextSessionId backend fd time).ends side).fd = some fd' →
      DelFailed s.log ∨ fd' ∉ s.tables.interests := by
    intro side fd' hfd
    rw [newSession_end] at hfd
    split at hfd
    · obtain rfl := Option.some.inj hfd
      exact hc.unknown
    · cases hfd
  have hyoung := young_newSession s.tables.nextSessionId backend fd time
  apply Runs.gets_bind
  apply Runs.modify_bind (.single fun _ => hsound)
  refine Runs.pure ⟨rfl, ?_, ?_, fun c => h.counted c, ?_, fun id hne => ?_, ?_, ?_, hyoung, hlive⟩
  · rw [due_cons h.due, SessionTables.connection_of_lookup hc.descriptor]
    rfl
  · exact h.toSteady.reseated hsound hlookup rfl rfl hyoung.unregistered hunknown rfl rfl rfl (List.suffix_cons _ _)
  · exact (hlookup _).trans (if_pos rfl)
  · exact (hlookup _).trans (if_neg hne)
  · simp [TcpReactor.turn, hlive]
  · exact Scene.Keeps.onward ⟨id, fun _ => id⟩ rfl id (List.suffix_cons _ _)

/-! ### A client -/

variable (options) in
/-- While clients are accepted: the listener is registered, as far as is known. -/
structure Accepting (s : TcpReactor) : Prop extends Poised options s where
  /-- The service is not stopping. -/
  live : s.stop.draining = false
  /-- The listener is not deferred. -/
  listened : ¬ s.Deferred

theorem Accepting.alike (h : Accepting options s) (ha : Alike s s') (hs : Sane options s') : Accepting options s' where
  toPoised := h.toPoised.alike ha hs
  live := by rw [ha.stop, h.live]
  listened hdeferred := h.listened (ha.deferred hdeferred)

/-- A report of no consequence. -/
theorem Accepting.notify (h : Accepting options s) (event : TcpEvent) (hp : Plain event)
    (ha : Allowed options s.log event) (hstart : Due.start event = some .nothing) :
    Serves options (notify event) s (Broken options) fun _ s' => Accepting options s' ∧ Alike s s' := by
  apply (h.toPoised.notify event hp ha hstart).post
  exact fun _ s' _ hq => ⟨h.alike hq.2 hq.1.toSane, hq.2⟩

/-- **A client that has a backend becomes a session**, which is connected or closed. -/
theorem Accepting.startSession (h : Accepting options s) (hroom : Table.size s.tables.sessions < options.maxSessions)
    {serial : ℕ} (hc : Unclaimed fd ⟨.client, serial⟩ s) (backend : Endpoint) :
    Serves options (startSession backend fd) s (Broken options) fun _ s' => Poised options s' ∧ Onward s s' := by
  apply Runs.bind (serves_currentTime h.toSane)
  rintro time s₁ - ⟨hsane₁, ha₁, hlog₁, -⟩
  have h₁ := h.alike ha₁ hsane₁
  have hc₁ := hc.alike ha₁ fun id hmem => by rwa [hlog₁] at hmem
  have hroom₁ : Table.size s₁.tables.sessions < options.maxSessions := by rwa [ha₁.tables]
  apply Runs.bind (serves_createSession h₁.toSettled h₁.live hroom₁ hc₁ backend time)
  rintro id s₂ - ⟨rfl, hdue₂, h₂⟩
  have hcounted : due (.statistic ⟨.created, 1⟩ :: s₂.log) = some .nothing := by
    rw [due_cons hdue₂]
    rfl
  have hallowed : Allowed options s₂.log (.statistic ⟨.created, 1⟩) := by
    refine ⟨by simp [countsBytes], fun _ => ?_⟩
    rw [← h₂.sound.living]
    exact_mod_cast h₂.sound.bounded
  have hcreated : Serves options (reportStatEvent .created) s₂ (Broken options)
      fun _ s' => Beginning options (s₁.turn s₁.tables.nextSessionId)
        (newSession s₁.tables.nextSessionId backend fd time) s' := by
    apply (h₂.toSteady.notify (.statistic ⟨.created, 1⟩) (by simp [Plain, countsBytes]) hallowed hcounted rfl).mono
    · rintro e s₃ - ⟨hcallback, hsteady₃, -, hdue₃⟩
      exact broken_of_callback ⟨hsteady₃, hdue₃⟩ hcallback
    · rintro - s₃ - ⟨hsteady₃, ha₃, hdue₃⟩
      exact h₂.beginning ha₃ ⟨hsteady₃, hdue₃⟩
  apply Runs.bind hcreated
  rintro - s₃ - h₃
  apply serves_sessionAt_bind h₃.here
  have haccepted : Serves options (Tcp.notify (.sessionEvent
      { id := s₁.tables.nextSessionId, backend := backend, accepted := true, reason := "accepted" })) s₃ (Broken options)
        fun _ s' =>
        Beginning options (s₁.turn s₁.tables.nextSessionId) (newSession s₁.tables.nextSessionId backend fd time) s' := by
    apply (serves_notify _ h₃.toSane (by trivial) (by trivial) rfl).mono
    · exact fun e s' _ he => broken_of_callback he.1 he.2.2
    · exact fun _ s' _ hq => h₃.alike hq.2 hq.1
  apply Runs.bind haccepted
  rintro - s₄ - h₄
  apply (serves_catchFailure (h₄.connectSessionBackend rfl fun side => by cases side <;> rfl)).mono
  · exact fun e s₅ _ he => he.toBroken
  · exact fun _ s₅ _ hrested => ⟨h₁.toPoised.rested hrested, ha₁.onward.trans hrested.onward⟩

/-- What is thrown is thrown on once a connection is closed. -/
theorem Broken.destroyFd {e : TcpError} {c : Connection} (h : Broken options e s) (hc : Loose fd c s)
    {E : TcpError → TcpReactor → Prop} :
    Serves options (destroyFd (some fd)) s E fun _ s' => Broken options e s' := by
  apply (hc.destroyFd h.toSane).post
  exact fun _ s' _ hq => ⟨hq.1, h.sensible, h.general⟩

/-- What comes after is onward from before. -/
theorem serves_onward {α : Type} {m : TcpM α} {E : TcpError → TcpReactor → Prop} (ho : Onward s s')
    (hm : Serves options m s' E fun _ s'' => Poised options s'' ∧ Onward s' s'') :
    Serves options m s' E fun _ s'' => Poised options s'' ∧ Onward s s'' :=
  hm.post fun _ _ _ hq => ⟨hq.1, ho.trans hq.2⟩

/-- A connection is closed while clients are accepted. -/
theorem Accepting.destroyFd {c : Connection} (h : Accepting options s) (hc : Loose fd c s)
    {E : TcpError → TcpReactor → Prop} :
    Serves options (destroyFd (some fd)) s E fun _ s' => Poised options s' ∧ Onward s s' := by
  apply (hc.destroyFd h.toSane).post
  rintro - s' - ⟨hsane, rfl⟩
  exact ⟨⟨⟨hsane, h.counted⟩, h.resting⟩, ⟨id, fun _ => id⟩, id⟩

/-- **A client that is turned away**: that is reported, and its connection is closed. -/
theorem Loose.reject {c : Connection} (hc : Loose fd c s) {m : TcpM Unit}
    (hm : Serves options m s (fun e s' => Broken options e s' ∧ Alike s s')
      fun _ s' => Accepting options s' ∧ Alike s s') :
    Serves options (ensure (Tcp.destroyFd (some fd)) m) s (Broken options) fun _ s' =>
      Poised options s' ∧ Onward s s' := by
  apply Runs.ensure hm
  · exact fun _ s' _ hq => serves_onward hq.2.onward (hq.1.destroyFd (hc.alike hq.2))
  · exact fun e s' _ he => he.1.destroyFd (hc.alike he.2)

theorem Accepting.rejected (h : Accepting options s) :
    Serves options (reportStatEvent .rejected) s (fun e s' => Broken options e s' ∧ Alike s s')
      fun _ s' => Accepting options s' ∧ Alike s s' := by
  apply (serves_notify (.statistic ⟨.rejected, 1⟩) h.toSane (by simp [Plain, countsBytes]) (by simp [Allowed, countsBytes])
    rfl).mono
  · exact fun e s' _ he => ⟨broken_of_callback he.1 he.2.2, he.2.1⟩
  · exact fun _ s' _ hq => ⟨h.alike hq.2 hq.1, hq.2⟩

/-- **A client is accepted**: it becomes a session, or its connection is closed. -/
theorem Accepting.acceptClient (h : Accepting options s) {serial : ℕ} (hc : Unclaimed fd ⟨.client, serial⟩ s) :
    Serves options (acceptClient options fd) s (Broken options) fun _ s' => Poised options s' ∧ Onward s s' := by
  have ha₁ : Alike s { s with resourceWarning := false } := ⟨rfl, rfl, rfl, rfl, fun _ => rfl, List.suffix_refl _⟩
  have h₁ := h.alike ha₁ (h.toSane.aside ha₁ rfl rfl)
  have hc₁ := hc.alike ha₁ fun _ hmem => hmem
  have ho₁ := ha₁.onward
  apply Runs.modify_bind (.single fun _ => h₁.sound)
  apply Runs.gets_bind
  generalize ({ s with resourceWarning := false } : TcpReactor) = s₁ at h₁ hc₁ ho₁ ⊢
  have hallowed : Allowed options s₁.log (.accepted (Table.size s₁.tables.sessions)
      (Table.size s₁.tables.sessions < options.maxSessions)) := ⟨h₁.sound.living, rfl⟩
  have hdue := due_cons h₁.due (.accepted (Table.size s₁.tables.sessions)
    (Table.size s₁.tables.sessions < options.maxSessions))
  have hsound := h₁.sound.plain _ (by trivial) hallowed (by rw [hdue]; rfl)
  apply Runs.modify_bind (.single fun _ => hsound)
  apply Runs.ite
  · -- there is no room
    intro hfull
    have hroom : decide (Table.size s₁.tables.sessions < options.maxSessions) = false := by simpa using hfull
    rw [hroom] at hallowed ⊢
    have ha₂ : Alike s₁ (s₁.record (.accepted (Table.size s₁.tables.sessions) false)) := .record (by trivial)
    have h₂ := h₁.alike ha₂ (h₁.toSane.record (by trivial) hallowed rfl)
    apply serves_onward (ho₁.trans ha₂.onward)
    apply (hc₁.toLoose.alike ha₂).reject
    apply Runs.bind h₂.rejected
    rintro - s₃ - ⟨h₃, ha₃⟩
    apply (serves_reportObservation h₃.toSane _ _ _ _).mono
    · exact fun e s₄ _ he => ⟨broken_of_callback he.1 he.2.2, ha₃.trans he.2.1⟩
    · exact fun _ s₄ _ hq => ⟨h₃.alike hq.2 hq.1, ha₃.trans hq.2⟩
  · intro hroom
    rw [not_le] at hroom
    rw [decide_eq_true hroom] at hsound hdue hallowed ⊢
    have hattempt : Allowed options (.accepted (Table.size s₁.tables.sessions) true :: s₁.log)
        (.attempted .select none) := by
      refine ⟨fun c => h₁.counted c, ?_⟩
      exact fun hstopping => h₁.sound.running h₁.live ((Inner.stopping (by trivial)).mp hstopping)
    have hselect : due (.attempted .select none :: .accepted (Table.size s₁.tables.sessions) true :: s₁.log) =
        some .nothing := by
      rw [due_cons hdue]
      rfl
    have hsound₂ := hsound.plain (.attempted .select none) trivial hattempt (by
      rw [TcpReactor.record_log, hselect]
      rfl)
    have ha₂ : Alike s₁ ((s₁.record (.accepted (Table.size s₁.tables.sessions) true)).record (.attempted .select none)) :=
      (Alike.record (by trivial)).trans (.record (by trivial))
    have h₂ := h₁.alike ha₂ ⟨h₁.toSteady.alike ha₂ hsound₂, hselect⟩
    have hc₂ := (hc₁.record (show Plain (.accepted (Table.size s₁.tables.sessions) true) from trivial)).record
      (show Plain (.attempted .select none) from trivial)
    apply Runs.modify_bind (.single fun _ => hsound₂)
    apply Runs.call_bind
    intro answer
    cases answer with
    | error exception =>
      apply Runs.bind (hc₂.toLoose.destroyFd h₂.toSane)
      rintro - s₃ - ⟨hsane₃, -⟩
      exact Runs.raise ⟨hsane₃, ⟨nofun, nofun⟩, nofun⟩
    | ok selected =>
      have hselected : Allowed options ((s₁.record (.accepted (Table.size s₁.tables.sessions) true)).record
          (.attempted .select none)).log (.selected selected) := ⟨_, rfl⟩
      have ha₃ := Alike.record
        (s := (s₁.record (.accepted (Table.size s₁.tables.sessions) true)).record (.attempted .select none))
        (show Plain (.selected selected) from trivial)
      have h₃ := h₂.alike ha₃ (h₂.toSane.record (by trivial) hselected rfl)
      have hc₃ := hc₂.record (show Plain (.selected selected) from trivial)
      apply Runs.modify_bind (.single fun _ => h₃.sound)
      apply serves_onward (ho₁.trans (ha₂.trans ha₃).onward)
      cases selected with
      | none => exact hc₃.toLoose.reject h₃.rejected
      | some backend => exact h₃.startSession hroom hc₃ backend

/-! ### The listener -/

/-- What is left when `epoll_ctl` fails. -/
structure Refused (options : TcpReactorOptions) (s : TcpReactor) (e : TcpError) (s' : TcpReactor) : Prop where
  /-- The state is sound. -/
  sound : Sound options s'
  /-- Nothing has changed. -/
  alike : Alike s s'
  /-- Nothing is due. -/
  due : due s'.log = some .nothing
  /-- What is thrown. -/
  thrown : ∃ operation error, e = .system operation error

theorem Refused.broken {e : TcpError} (h : Refused options s e s') (hs : Steady options s) : Broken options e s' := by
  obtain ⟨operation, error, rfl⟩ := h.thrown
  exact broken_of_system ⟨hs.alike h.alike h.sound, h.due⟩

/-- `updateEpollRegistration` does what it is asked, or throws. -/
theorem serves_updateEpollRegistration (h : Sound options s) (hdue : due s.log = some .nothing)
    {operation : EpollOperation} {listener : Option ℕ} {token : ℕ} {mask : EpollEvents}
    (hlegal : DelFailed s.log ∨ s.tables.Legal operation listener) :
    Serves options (updateEpollRegistration operation listener token mask) s (Refused options s) fun _ s' =>
      Sound options s' ∧ s' = { s.record (.epoll operation listener (listener.any (· ∈ s.tables.interests))) with
        tables := s.tables.control operation listener token mask } := by
  apply Runs.bind (serves_epollControl h hlegal hdue (fun _ => rfl) fun _ => rfl)
  rintro (error | _) s' - ⟨hs', hresult⟩
  · have ha : Alike s s' := by
      rw [hresult]
      exact (Alike.record (by trivial)).trans (.record (by trivial))
    have hcalled : due (.epoll operation listener (listener.any (· ∈ s.tables.interests)) :: s.log) = some .nothing :=
      due_cons hdue _
    have hfailed : due s'.log = some .nothing := by
      rw [hresult]
      exact due_cons hcalled _
    exact Runs.raise ⟨hs', ha, hfailed, _, _, rfl⟩
  · exact Runs.pure ⟨hs', hresult⟩

/-- **The listener is registered or deferred**, and nothing else changes. -/
theorem Steady.relisten (h : Steady options s) (hfd : s.listenerFd = some fd) (hs : Sound options s')
    (hsessions : s'.tables.sessions = s.tables.sessions) (hdescriptors : s'.tables.descriptors = s.tables.descriptors)
    (hinterests : ∀ fd', s'.tables.interests.lookup fd' =
      if fd' = fd then if s'.listenerDeferred then none else some (1, EPOLLIN) else s.tables.interests.lookup fd')
    (hstop : s'.stop = s.stop) (hlistenerFd : s'.listenerFd = s.listenerFd) (hlog : s.log <:+ s'.log) :
    Steady options s' := by
  refine ⟨hs, ?_, ?_, ?_⟩
  · rw [hdescriptors, hlistenerFd]
    exact h.listener
  · rw [hstop, hlistenerFd]
    exact h.listening
  · rcases h.tracked with hfailed | htracked
    · exact .inl (hfailed.suffix hlog)
    · right
      constructor
      · intro id session side fd' hsession hside
        rw [hsessions] at hsession
        have hne : fd' ≠ fd := by
          rintro rfl
          exact h.unused_listener hfd id session side hsession hside
        rw [hinterests, if_neg hne]
        exact htracked.registered id session side fd' hsession hside
      · rw [hsessions]
        exact htracked.unopened
      · intro fd' hfd'
        rw [hlistenerFd, hfd] at hfd'
        obtain rfl := Option.some.inj hfd'
        rw [hinterests, if_pos rfl]
      · intro fd' hmem
        rw [hdescriptors]
        by_cases hne : fd' = fd
        · rw [hne]
          exact Finmap.mem_of_lookup_eq_some (h.listener hfd)
        · have hsame := hinterests fd'
          rw [if_neg hne] at hsame
          exact htracked.opened ((Table.mem_congr hsame).mp hmem)
      · intro fd' mask hentry
        rw [hlistenerFd]
        by_cases hne : fd' = fd
        · rw [hne, hfd]
        · rw [hinterests, if_neg hne] at hentry
          exact htracked.alone hentry

/-- What no session has to do with leaves them waiting. -/
theorem Poised.aside (h : Poised options s) (hs : Sane options s') (hsessions : s'.tables.sessions = s.tables.sessions)
    (hstop : s'.stop = s.stop) (hheard : ∀ connection, hear s'.log connection = hear s.log connection) :
    Poised options s' where
  toSane := hs
  counted c := by rw [hheard, h.counted]
  resting := by
    rw [hsessions, hstop]
    exact h.resting

/-- **The listener is deferred when resources are short.** -/
theorem Accepting.deferListener (h : Accepting options s) (error : Errno) :
    Serves options (deferListener error) s (Broken options) fun _ s' => Poised options s' ∧ Since s s' := by
  have hreported : Serves options (reportStatEvent .error) s
      (Broken options) fun _ s' => Accepting options s' ∧ Alike s s' :=
    h.notify (.statistic ⟨.error, 1⟩) (by simp [Plain, countsBytes]) (by simp [Allowed, countsBytes]) rfl
  apply Runs.bind hreported
  rintro - s₁ - ⟨h₁, ha₁⟩
  apply Runs.gets_bind
  apply Runs.bind (Q := fun _ s' => Accepting options s' ∧ Alike s s')
  · apply Runs.when
    · intro _
      apply (h₁.notify (.diagnostic "accept4 resource backoff" error) (by trivial) (by trivial) rfl).post
      exact fun _ s' _ hq => ⟨hq.1, ha₁.trans hq.2⟩
    · exact fun _ => ⟨h₁, ha₁⟩
  rintro - s₂ - ⟨h₂, ha₂⟩
  have hwarned : Alike s₂ { s₂ with resourceWarning := true } := ⟨rfl, rfl, rfl, rfl, fun _ => rfl, List.suffix_refl _⟩
  have h₃ := h₂.alike hwarned (h₂.toSane.aside hwarned rfl rfl)
  have ha₃ := ha₂.trans hwarned
  apply Runs.modify_bind (.single fun _ => h₃.sound)
  apply Runs.gets_bind
  generalize ({ s₂ with resourceWarning := true } : TcpReactor) = s₃ at h₃ ha₃ ⊢
  obtain ⟨fd, hfd⟩ := Option.ne_none_iff_exists'.mp (h₃.listening h₃.live)
  have hlegal : DelFailed s₃.log ∨ s₃.tables.Legal .del s₃.listenerFd := by
    by_cases hdel : DelFailed s₃.log
    · exact .inl hdel
    · apply h₃.toSteady.legal_listener hfd
      by_contra hdeferred
      exact h₃.listened ⟨Bool.eq_true_of_not_eq_false hdeferred, hdel⟩
  apply Runs.bind ((serves_updateEpollRegistration h₃.sound h₃.due hlegal).mono (fun e s₄ _ he => he.broken h₃.toSteady)
    fun _ _ _ hq => hq)
  rintro - s₄ - ⟨hsound₄, hs₄⟩
  have hsound₅ : Sound options { s₄ with listenerDeferred := true } :=
    hsound₄.quiet hsound₄.consistent.tables (fun _ => rfl) rfl rfl rfl le_rfl le_rfl le_rfl hsound₄.clock
  have hsteady₅ : Steady options { s₄ with listenerDeferred := true } := by
    subst hs₄
    rw [hfd] at hsound₅ ⊢
    apply h₃.toSteady.relisten hfd hsound₅ rfl rfl (fun fd' => ?_) rfl rfl (List.suffix_cons _ _)
    show (s₃.tables.interests.erase fd).lookup fd' = _
    by_cases hne : fd' = fd
    · rw [if_pos hne, hne, Finmap.lookup_erase]
      rfl
    · rw [if_neg hne, Finmap.lookup_erase_ne hne]
  have h₅ : Poised options { s₄ with listenerDeferred := true } := by
    apply h₃.toPoised.aside ⟨hsteady₅, ?_⟩
    · rw [hs₄, SessionTables.control_eq]
    · rw [hs₄]
      rfl
    · intro connection
      rw [hs₄]
      exact Plain.hear (by trivial) _ _
    · rw [hs₄]
      exact due_cons h₃.due _
  have hsince₅ : Since s { s₄ with listenerDeferred := true } := by
    apply ha₃.onward.toSince.trans
    rw [hs₄]
    exact ⟨id, fun _ hfailed => hfailed.suffix (List.suffix_cons _ _)⟩
  apply Runs.modify_bind (.single fun _ => hsound₅)
  apply Runs.bind h₅.time
  rintro time s₆ - ⟨h₆, ha₆⟩
  have hretry : Alike s₆ { s₆ with listenerRetryTime := time + Time.milliseconds 100 } :=
    ⟨rfl, rfl, rfl, rfl, fun _ => rfl, List.suffix_refl _⟩
  have h₇ := h₆.alike hretry (h₆.toSane.aside hretry rfl rfl)
  apply Runs.modify_bind (.single fun _ => h₇.sound)
  apply (h₇.report _ _ _ _).post
  exact fun _ s₈ _ hq => ⟨hq.1, hsince₅.trans ((ha₆.trans hretry).trans hq.2).onward.toSince⟩

/-- A connection is opened. -/
theorem Accepting.install (h : Accepting options s) (hfd : fd ∉ s.tables.descriptors) (side : Side) :
    Accepting options { s with tables := s.tables.install fd (.connection ⟨side, s.tables.connections⟩) } :=
  ⟨⟨⟨⟨h.toSteady.install hfd side, h.due⟩, h.counted⟩, h.resting⟩, h.live, fun hdeferred => h.listened hdeferred⟩

/-- **A pass of the loop that accepts.** -/
theorem Poised.acceptPass (h : Poised options s) (hlistened : ¬ s.Deferred) (sessionAttempt : ℕ) :
    Serves options (acceptPass options sessionAttempt) s (Broken options) fun result s' => Poised options s' ∧ Since s s' ∧
      ∀ attempt, result = .inl attempt → ¬ s'.Deferred := by
  apply Runs.ite
  · exact fun _ => Runs.pure ⟨h, .refl s, nofun⟩
  · intro _
    apply Runs.bind h.consume
    rintro stopped s₁ - ⟨h₁, hc₁, hlive₁⟩
    apply Runs.ite
    · exact fun _ => Runs.pure ⟨h₁, hc₁.onward.toSince, nofun⟩
    · intro hstopped
      have hlive := hlive₁ (Bool.eq_false_of_not_eq_true hstopped)
      have hallowed : Allowed options s₁.log (.attempted .accept none) :=
        ⟨fun c => h₁.counted c, h₁.sound.running hlive⟩
      have haccepting : Accepting options s₁ := ⟨h₁, hlive, fun hdeferred => hlistened (hc₁.deferred hdeferred)⟩
      have ha₂ := Alike.record (s := s₁) (show Plain (.attempted .accept none) from trivial)
      have h₂ := haccepting.alike ha₂ (h₁.toSane.record (by trivial) hallowed rfl)
      have hsince₂ := (hc₁.onward.trans ha₂.onward).toSince
      apply Runs.modify_bind (.single fun _ => h₂.sound)
      apply Runs.gets_bind
      apply Runs.call_bind
      intro answer
      apply Runs.bind (serves_installDescriptor h₂.sound (serial_connection .client) answer)
      rintro result s₃ - hresult
      cases result with
      | ok front =>
        obtain ⟨hfront, rfl⟩ := hresult
        have h₃ := h₂.install hfront .client
        apply Runs.bind (h₃.acceptClient (h₂.toSteady.unclaimed hfront .client))
        rintro - s₄ - ⟨h₄, honward₄⟩
        refine Runs.pure ⟨h₄, hsince₂.trans ⟨fun hlive => honward₄.running hlive, fun hlive hfailed => ?_⟩, fun _ _ hd => ?_⟩
        · exact honward₄.failed hlive hfailed
        · exact h₃.listened (honward₄.deferred hd)
      | error error =>
        obtain rfl := hresult
        apply Runs.ite
        · exact fun _ => Runs.pure ⟨h₂.toPoised, hsince₂, nofun⟩
        · intro _
          apply Runs.ite
          · exact fun _ => Runs.pure ⟨h₂.toPoised, hsince₂, fun _ _ => h₂.listened⟩
          · intro _
            apply Runs.ite
            · intro _
              apply Runs.bind (h₂.notify (.statistic ⟨.error, 1⟩)
                (by simp [Plain, countsBytes]) (by simp [Allowed, countsBytes])
                rfl)
              rintro - s₄ - ⟨h₄, ha₄⟩
              exact Runs.pure ⟨h₄.toPoised, hsince₂.trans ha₄.onward.toSince, fun _ _ => h₄.listened⟩
            · intro _
              apply Runs.ite
              · intro _
                apply Runs.bind (h₂.deferListener error)
                rintro - s₄ - ⟨h₄, hsince₄⟩
                exact Runs.pure ⟨h₄, hsince₂.trans hsince₄, nofun⟩
              · exact fun _ => Runs.raise (broken_of_system h₂.toSane)

/-- **Clients are accepted.** -/
theorem Poised.acceptClientSessions (h : Poised options s) (hlistened : ¬ s.Deferred) :
    Serves options (acceptClientSessions options) s (Broken options) fun _ s' => Poised options s' ∧ Since s s' := by
  apply Runs.loop (fun _ s' => (Poised options s' ∧ Since s s') ∧ ¬ s'.Deferred) _ ⟨⟨h, .refl s⟩, hlistened⟩
  rintro attempt s₁ ⟨⟨h₁, hsince₁⟩, hlistened₁⟩
  apply (h₁.acceptPass hlistened₁ attempt).post
  rintro (next | _) s₂ - ⟨h₂, hsince₂, hlistened₂⟩
  · exact ⟨⟨h₂, hsince₁.trans hsince₂⟩, hlistened₂ next rfl⟩
  · exact ⟨h₂, hsince₁.trans hsince₂⟩

end L4lb.Net.Tcp
