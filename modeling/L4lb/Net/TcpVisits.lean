import L4lb.Net.TcpStopping

/-!
# The turn of a session

A session has its turn when something happened to it or its time has come. What is done in
its turn changes no other session (`Within`), and what fails of it is caught with it still
there (`Fails`).
-/

namespace L4lb.Net.Tcp

open Effect Prog

/-- What a turn begins with. -/
structure Scene where
  /-- Whose turn it is. -/
  id : ℕ
  /-- The other sessions. -/
  others : ℕ → Option Session
  /-- The service is not stopping. -/
  running : Bool
  /-- The listener is deferred. -/
  deferred : Prop
  /-- `EPOLL_CTL_DEL` has failed. -/
  failed : Prop

/-- The listener is not deferred in the turn, and what has failed has failed. -/
def Scene.Keeps (scene : Scene) (s : TcpReactor) : Prop :=
  (s.Deferred → scene.deferred) ∧ (s.stop.draining = false → scene.failed → DelFailed s.log)

variable (options : TcpReactorOptions) (scene : Scene)

/-- In the turn of a session, between calls. -/
structure Within (session : Session) (s : TcpReactor) : Prop extends Settled options s where
  /-- The session is there. -/
  here : s.tables.sessions.lookup scene.id = some session
  /-- The others are as they were. -/
  others : ∀ id ≠ scene.id, s.tables.sessions.lookup id = scene.others id
  /-- The stop is not taken back. -/
  running : s.stop.draining = false → scene.running = true
  /-- What is known of the listener is kept. -/
  kept : scene.Keeps s

/-- What is left when something is thrown. -/
structure Fails (e : TcpError) (s : TcpReactor) : Prop extends Sane options s where
  /-- The other sessions are as they were. -/
  others : ∀ id ≠ scene.id, s.tables.sessions.lookup id = scene.others id
  /-- It is no error of the program. -/
  sensible : e.Sensible
  /-- When it is the failure of the session, that is there. -/
  failure : ∀ operation error, e = .sessionFailure operation error →
    operation ∉ reserved ∧ ∃ session, Within options scene session s

/-- What is left when something is thrown that the turn does not catch. -/
structure BreaksOff (e : TcpError) (s : TcpReactor) : Prop extends Broken options e s where
  /-- The other sessions are as they were. -/
  others : ∀ id ≠ scene.id, s.tables.sessions.lookup id = scene.others id

variable {options scene} {s s' : TcpReactor} {session : Session} {e : TcpError}

theorem Scene.Keeps.onward (h : scene.Keeps s) (hdeferred : s'.listenerDeferred = s.listenerDeferred)
    (hrunning : s'.stop.draining = false → s.stop.draining = false) (hlog : s.log <:+ s'.log) : scene.Keeps s' :=
  ⟨fun hd => h.1 (hd.before hdeferred hlog), fun hlive hfailed => (h.2 (hrunning hlive) hfailed).suffix hlog⟩

theorem BreaksOff.fails (h : BreaksOff options scene e s) : Fails options scene e s :=
  ⟨h.toSane, h.others, h.sensible, fun operation error he => absurd he (h.general operation error)⟩

theorem fails_of_callback (h : Sane options s) (hothers : ∀ id ≠ scene.id, s.tables.sessions.lookup id = scene.others id)
    (he : ∃ exception, e = .callback exception) : Fails options scene e s :=
  BreaksOff.fails ⟨broken_of_callback h he, hothers⟩

/-- The other sessions are as they were when one was taken out. -/
theorem Without.others (h : Without s scene.id s')
    (hothers : ∀ id ≠ scene.id, s.tables.sessions.lookup id = scene.others id) :
    ∀ id ≠ scene.id, s'.tables.sessions.lookup id = scene.others id := by
  intro id hid
  rw [h.sessions, Finmap.lookup_erase_ne hid, hothers id hid]

/-- The failure of a session. -/
theorem Within.fails (h : Within options scene session s) {operation : String} {error : Errno}
    (hoperation : operation ∉ reserved) : Fails options scene (.sessionFailure operation error) s := by
  refine ⟨h.toSane, h.others, ⟨nofun, nofun⟩, ?_⟩
  rintro _ _ he
  obtain ⟨rfl, rfl⟩ := TcpError.sessionFailure.inj he
  exact ⟨hoperation, session, h⟩

theorem Within.alike (h : Within options scene session s) (ha : Alike s s') (hs : Sane options s') :
    Within options scene session s' where
  toSettled := h.toSettled.alike ha hs
  here := by rw [ha.tables, h.here]
  others := by rw [ha.tables]; exact h.others
  running := by rw [ha.stop]; exact h.running
  kept := h.kept.onward ha.listenerDeferred (by rw [ha.stop]; exact id) ha.log

/-! ### What every method does -/

/-- A report of no consequence. -/
theorem Within.notify (h : Within options scene session s) (event : TcpEvent) (hp : Plain event)
    (ha : Allowed options s.log event) (hstart : Due.start event = some .nothing) :
    Serves options (notify event) s (Fails options scene) fun _ s' =>
      Within options scene session s' ∧ Alike s s' := by
  apply (serves_notify event h.toSane hp ha hstart).mono
  · exact fun e s' _ he => fails_of_callback he.1 (h.alike he.2.1 he.1).others he.2.2
  · exact fun _ s' _ hq => ⟨h.alike hq.2 hq.1, hq.2⟩

/-- `reportObservation` in particular. -/
theorem Within.report (h : Within options scene session s) (kind : String) (id : ℕ) (side : Option Side) (value : ℤ) :
    Serves options (reportObservation kind id side value) s (Fails options scene) fun _ s' =>
      Within options scene session s' ∧ Alike s s' :=
  Runs.gets_bind (h.notify _ trivial trivial rfl)

/-- The clock is read. -/
theorem Within.time (h : Within options scene session s) :
    Serves options currentTime s (Fails options scene) fun time s' =>
      Within options scene session s' ∧ Alike s s' ∧ 0 ≤ time := by
  apply (serves_currentTime h.toSane).post
  rintro time s' - ⟨hsane, ha, -, -, htime⟩
  exact ⟨h.alike ha hsane, ha, htime⟩

/-- The stop signals are consumed. -/
theorem Within.consume (h : Within options scene session s) :
    Serves options (consumeStopSignals options) s (Fails options scene) fun result s' =>
      Within options scene session s' ∧ (s'.stop.draining = false → s.stop.draining = false) ∧
        (result = false → s'.stop.draining = false) := by
  apply (serves_consumeStopSignals h.toSettled).mono
  · exact fun e s' _ he => BreaksOff.fails ⟨he.toBroken, by rw [he.sessions]; exact h.others⟩
  · rintro result s' - ⟨hsettled, hc, hresult⟩
    have hback : s'.stop.draining = false → s.stop.draining = false := by
      intro hrunning
      rw [← (hc.alike hrunning).stop, hrunning]
    refine ⟨⟨hsettled, ?_, ?_, fun hrunning => h.running (hback hrunning), ?_⟩,
      hback, hresult⟩
    · rw [hc.sessions, h.here]
    · rw [hc.sessions]
      exact h.others
    · exact ⟨fun hd => h.kept.1 (hc.deferred hd), fun hrunning hfailed =>
        (hc.alike hrunning).failed (h.kept.2 (hback hrunning) hfailed)⟩

/-- The session is there. -/
theorem serves_sessionAt_bind {α : Type} {id : ℕ} {f : Session → TcpM α} {E : TcpError → TcpReactor → Prop}
    {Q : α → TcpReactor → Prop} (hsession : s.tables.sessions.lookup id = some session)
    (h : Serves options (f session) s E Q) : Serves options (sessionAt id >>= f) s E Q := by
  have hat : Serves options (sessionAt id) s E fun session' s' => session' = session ∧ s' = s := by
    unfold sessionAt
    apply Runs.gets_bind
    rw [hsession]
    exact Runs.pure ⟨rfl, rfl⟩
  apply Runs.bind hat
  rintro _ _ - ⟨rfl, rfl⟩
  exact h

/-! ### Changes of the session -/

/-- What is registered does not change with a session that keeps what it asks for. -/
theorem Tracked.update (h : Tracked s) {id : ℕ} {f : Session → Session} (hf : Still f)
    (htables : s'.tables = s.tables.update id f) (hlistenerFd : s'.listenerFd = s.listenerFd)
    (hdeferred : s'.listenerDeferred = s.listenerDeferred) : Tracked s' := by
  cases hsession : s.tables.sessions.lookup id with
  | none =>
    have hsame : s'.tables = s.tables := by rw [htables, SessionTables.update, hsession]
    constructor
    · rw [hsame]
      exact h.registered
    · rw [hsame]
      exact h.unopened
    · rw [hsame, hlistenerFd, hdeferred]
      exact h.listener
    · rw [hsame]
      exact h.opened
    · rw [hsame, hlistenerFd]
      exact h.alone
  | some session =>
    have hinterests : s'.tables.interests = s.tables.interests := by
      rw [htables, SessionTables.update_of_lookup hsession]
    have hdescriptors : s'.tables.descriptors = s.tables.descriptors := by
      rw [htables, SessionTables.update_descriptors]
    -- an end afterwards asks for what it asked for
    have hback : ∀ {id' session'}, s'.tables.sessions.lookup id' = some session' →
        ∃ session'', s.tables.sessions.lookup id' = some session'' ∧ ∀ side,
          (session'.ends side).fd = (session''.ends side).fd ∧
          (session'.ends side).registered = (session''.ends side).registered ∧
          (session'.ends side).entry = (session''.ends side).entry := by
      intro id' session' h'
      rw [htables, SessionTables.lookup_update hsession] at h'
      split at h'
      · rename_i hid
        obtain rfl := Option.some.inj h'
        refine ⟨session, by rw [hid, hsession], fun side => ⟨hf.fd session side, hf.registered session side, ?_⟩⟩
        rw [EndpointState.entry, EndpointState.entry, hf.registered, hf.token, hf.interest]
      · exact ⟨session', h', fun _ => ⟨rfl, rfl, rfl⟩⟩
    constructor
    · intro id' session' side fd h' hfd
      obtain ⟨session'', h'', hends⟩ := hback h'
      rw [hinterests, (hends side).2.2]
      exact h.registered id' session'' side fd h'' (by rw [← (hends side).1, hfd])
    · intro id' session' side h' hfd
      obtain ⟨session'', h'', hends⟩ := hback h'
      rw [(hends side).2.1]
      exact h.unopened h'' (by rw [← (hends side).1, hfd])
    · rw [hinterests, hlistenerFd, hdeferred]
      exact h.listener
    · rw [hinterests, hdescriptors]
      exact h.opened
    · rw [hinterests, hlistenerFd]
      exact h.alone

/-- Something happened to the session, and it is changed. -/
theorem Steady.changed (h : Steady options s) (hhere : s.tables.sessions.lookup scene.id = some session)
    (hothers : ∀ id ≠ scene.id, s.tables.sessions.lookup id = scene.others id)
    (hback : s.stop.draining = false → scene.running = true)
    (hkept : scene.Keeps s) {f : Session → Session} (hf : Still f)
    (hs : Sound options s') (htables : s'.tables = s.tables.update scene.id f) (hlog : s.log <:+ s'.log)
    (hdue : due s'.log = some .nothing) (hcounted : AllCounted s'.log) (hstop : s'.stop = s.stop)
    (hlistenerFd : s'.listenerFd = s.listenerFd) (hdeferred : s'.listenerDeferred = s.listenerDeferred) :
    Within options scene (f session) s' := by
  refine ⟨⟨⟨⟨hs, ?_, ?_, ?_⟩, hdue⟩, hcounted⟩, ?_, ?_, ?_, ?_⟩
  · rw [htables, hlistenerFd, SessionTables.update_descriptors]
    exact h.listener
  · rw [hstop, hlistenerFd]
    exact h.listening
  · rcases h.tracked with ⟨error, hfailed⟩ | htracked
    · exact .inl ⟨error, hlog.subset hfailed⟩
    · exact .inr (htracked.update hf htables hlistenerFd hdeferred)
  · rw [htables, SessionTables.lookup_update hhere, if_pos rfl]
  · intro id hid
    rw [htables, SessionTables.lookup_update hhere, if_neg hid, hothers id hid]
  · rw [hstop]
    exact hback
  · exact hkept.onward hdeferred (by rw [hstop]; exact id) hlog

theorem Within.changed (h : Within options scene session s) {f : Session → Session} (hf : Still f)
    (hs : Sound options s') (htables : s'.tables = s.tables.update scene.id f) (hlog : s.log <:+ s'.log)
    (hdue : due s'.log = some .nothing) (hcounted : AllCounted s'.log) (hstop : s'.stop = s.stop)
    (hlistenerFd : s'.listenerFd = s.listenerFd) (hdeferred : s'.listenerDeferred = s.listenerDeferred) :
    Within options scene (f session) s' :=
  h.toSteady.changed h.here h.others h.running h.kept hf hs htables hlog hdue hcounted hstop hlistenerFd hdeferred

/-- A change that neither `epoll` nor the circuit depends on. -/
theorem Within.update (h : Within options scene session s) {f : Session → Session} (hf : Still f) (hh : Harmless f)
    (ho : Orderly s.tables scene.id f) {E : TcpError → TcpReactor → Prop} :
    Serves options (updateSession scene.id f) s E fun _ s' =>
      Within options scene (f session) s' ∧ s'.stop = s.stop := by
  have hs := h.sound.update hf.toTame ho hh
  unfold updateSession modifyTables
  apply Runs.modify (.single fun _ => hs)
  exact ⟨h.changed hf hs rfl (List.suffix_refl _) h.due h.counted rfl rfl rfl, rfl⟩

end L4lb.Net.Tcp
