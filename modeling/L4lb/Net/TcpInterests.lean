import L4lb.Net.TcpPump

/-!
# What a session asks for

`updateSessionInterests` registers each end of a session for what it has to wait for, and
`removeEndpoint` takes one out of `epoll`. What the session says of its ends and what the
kernel keeps change together, and an end whose interests are up to date will be woken when
there is something to do (`Session.Awake`).
-/

namespace L4lb.Net.Tcp

open Effect Prog

variable {options : TcpReactorOptions} {scene : Scene} {s s' : TcpReactor} {session : Session} {side : Side}

/-! ### Changes of what is registered -/

/-- A change of an end that is of what it is registered for only. -/
structure Rewires (f : EndpointState → EndpointState) : Prop where
  /-- What is open. -/
  fd : ∀ endpoint, (f endpoint).fd = endpoint.fd
  /-- What events carry. -/
  token : ∀ endpoint, (f endpoint).token = endpoint.token
  /-- Whether it has ended. -/
  eof : ∀ endpoint, (f endpoint).eof = endpoint.eof
  /-- Whether it was told. -/
  shutdown : ∀ endpoint, (f endpoint).shutdown = endpoint.shutdown
  /-- Whether it is paused. -/
  paused : ∀ endpoint, (f endpoint).paused = endpoint.paused
  /-- Until when it is left alone. -/
  deferred : ∀ endpoint, (f endpoint).deferred = endpoint.deferred

theorem rewires_detached : Rewires EndpointState.detached :=
  ⟨fun _ => rfl, fun _ => rfl, fun _ => rfl, fun _ => rfl, fun _ => rfl, fun _ => rfl⟩

theorem rewires_registered (mask : EpollEvents) :
    Rewires fun endpoint => { endpoint with registered := true, interest := mask } :=
  ⟨fun _ => rfl, fun _ => rfl, fun _ => rfl, fun _ => rfl, fun _ => rfl, fun _ => rfl⟩

namespace Rewires

variable {f : EndpointState → EndpointState}

theorem tame (hf : Rewires f) (side : Side) : Tame (·.setEnd side f) where
  id _ := rfl
  fd := setEnd_field (·.fd) hf.fd
  token := setEnd_field (·.token) hf.token

theorem harmless (hf : Rewires f) (side : Side) : Harmless (·.setEnd side f) :=
  Harmless.setEnd hf.fd hf.eof hf.shutdown

theorem paced (hf : Rewires f) (h : session.Paced) : (session.setEnd side f).Paced where
  paused side' hpaused := by
    rw [setEnd_field (·.paused) hf.paused session side'] at hpaused
    exact h.paused side' hpaused
  undone hdone := by
    refine h.undone fun side' => ?_
    have hside := hdone side'
    rw [setEnd_field (·.eof) hf.eof session side', setEnd_field (·.shutdown) hf.shutdown session side'] at hside
    exact hside

end Rewires

/-- An end of a session has a descriptor of its own. -/
theorem SessionTables.Consistent.end_alone {tables : SessionTables} (h : tables.Consistent) {id id' : ℕ}
    {session session' : Session} {side side' : Side} {fd : ℕ} (hsession : tables.sessions.lookup id = some session)
    (hsession' : tables.sessions.lookup id' = some session') (hfd : (session.ends side).fd = some fd)
    (hfd' : (session'.ends side').fd = some fd) : id' = id ∧ side' = side := by
  obtain ⟨serial, hdescriptor⟩ := h.wired hsession hfd
  obtain ⟨serial', hdescriptor'⟩ := h.wired hsession' hfd'
  rw [hdescriptor] at hdescriptor'
  obtain rfl := (Connection.mk.inj (TcpDescriptor.connection.inj (Option.some.inj hdescriptor'))).1
  exact ⟨(h.apart hsession hsession' hfd hfd').symm, rfl⟩

/-- **What an end is registered for changes with what the kernel keeps of it.** -/
theorem Fit.rewire (h : Fit options scene session s) {f : EndpointState → EndpointState} (hf : Rewires f)
    {interests : Table ℕ (ℕ × EpollEvents)} (hs : Sound options s')
    (htables : s'.tables = { s.tables.update scene.id (·.setEnd side f) with interests })
    (ha : Alike s { s' with tables := s.tables }) (hdue : due s'.log = some .nothing)
    (hinterests : DelFailed s'.log ∨ ∀ fd, interests.lookup fd =
      if (session.ends side).fd = some fd then (f (session.ends side)).entry else s.tables.interests.lookup fd) :
    Fit options scene (session.setEnd side f) s' := by
  have hlookup : ∀ id, s'.tables.sessions.lookup id =
      if id = scene.id then some (session.setEnd side f) else s.tables.sessions.lookup id := by
    intro id
    rw [htables]
    exact SessionTables.lookup_update h.here id
  have hdescriptors : s'.tables.descriptors = s.tables.descriptors := by
    rw [htables]
    exact SessionTables.update_descriptors
  have hkept : s'.tables.interests = interests := by rw [htables]
  have hconsistent := h.sound.consistent.tables
  have hends : ∀ side', ((session.setEnd side f).ends side').fd = (session.ends side').fd :=
    (hf.tame side).fd session
  refine ⟨⟨⟨⟨⟨hs, ?_, ?_, ?_⟩, hdue⟩, fun c => ?_⟩, ?_, ?_, ?_, ?_⟩, fun side' => ?_, fun hrunning => ?_⟩
  · intro fd hfd
    rw [hdescriptors]
    exact h.listener (ha.listenerFd ▸ hfd)
  · have hlistening := h.listening
    rw [← ha.stop, ← ha.listenerFd] at hlistening
    exact hlistening
  · rcases hinterests with hfailed | hinterests
    · exact .inl hfailed
    rcases h.tracked with hfailed | htracked
    · exact .inl (ha.failed hfailed)
    right
    constructor
    · intro id' session' side' fd hsession' hfd
      rw [hkept, hinterests]
      rw [hlookup] at hsession'
      split at hsession'
      · obtain rfl := Option.some.inj hsession'
        rw [hends] at hfd
        by_cases hside : side' = side
        · subst hside
          rw [if_pos hfd, Session.setEnd_ends, Function.update_self]
        · rw [if_neg fun hfd' => hside (hconsistent.end_alone h.here h.here hfd' hfd).2, Session.setEnd_ends,
            Function.update_of_ne hside]
          exact htracked.registered _ _ _ _ h.here hfd
      · rename_i hid
        rw [if_neg fun hfd' => hid (hconsistent.end_alone h.here hsession' hfd' hfd).1]
        exact htracked.registered _ _ _ _ hsession' hfd
    · intro id' session' side' hsession' hnone
      rw [hlookup] at hsession'
      split at hsession'
      · obtain rfl := Option.some.inj hsession'
        rw [hends] at hnone
        exact absurd hnone (h.opened side')
      · exact htracked.unopened hsession' hnone
    · intro fd hfd
      have hlistener : s.listenerFd = some fd := ha.listenerFd ▸ hfd
      rw [hkept, hinterests, if_neg]
      · rw [show s'.listenerDeferred = s.listenerDeferred from ha.listenerDeferred]
        exact htracked.listener hlistener
      · intro hfd'
        obtain ⟨serial, hdescriptor⟩ := hconsistent.wired h.here hfd'
        rw [h.listener hlistener] at hdescriptor
        cases hdescriptor
    · intro fd hfd
      rw [hdescriptors]
      by_cases hfd' : (session.ends side).fd = some fd
      · obtain ⟨serial, hdescriptor⟩ := hconsistent.wired h.here hfd'
        exact Finmap.mem_of_lookup_eq_some hdescriptor
      · refine htracked.opened ?_
        rw [hkept] at hfd
        have hsame : interests.lookup fd = s.tables.interests.lookup fd := by rw [hinterests, if_neg hfd']
        exact (Table.mem_congr hsame).mp hfd
    · intro fd mask hfd
      rw [hkept, hinterests] at hfd
      show s'.listenerFd = some fd
      rw [show s'.listenerFd = s.listenerFd from ha.listenerFd]
      split at hfd
      · -- the end has a token of its own, or none
        rename_i hfd'
        rw [EndpointState.entry] at hfd
        split at hfd
        · have htoken : (session.ends side).token = 1 := by
            rw [← hf.token]
            exact (Prod.mk.inj (Option.some.inj hfd)).1
          have hentry : s.tables.tokens.entries.lookup (session.ends side).token = some ⟨scene.id, side⟩ :=
            hconsistent.registered h.here (by rw [htoken]; decide)
          have hlow := (hconsistent.token_lt hentry).1
          omega
        · cases hfd
      · exact htracked.alone hfd
  · rw [show hear s'.log (some c) = hear s.log (some c) from ha.heard (some c)]
    exact h.counted c
  · rw [hlookup, if_pos rfl]
  · intro id hid
    rw [hlookup, if_neg hid, h.others id hid]
  · rw [show s'.stop = s.stop from ha.stop]
    exact h.running
  · exact h.kept.onward ha.listenerDeferred (by rw [show s'.stop = s.stop from ha.stop]; exact id) ha.log
  · rw [hends]
    exact h.opened side'
  · refine hf.paced (h.paced ?_)
    rw [← show s'.stop = s.stop from ha.stop]
    exact hrunning

theorem SessionTables.update_interests (tables : SessionTables) (id : ℕ) (f : Session → Session)
    (interests : Table ℕ (ℕ × EpollEvents)) :
    ({ tables with interests } : SessionTables).update id f = { tables.update id f with interests } := by
  unfold SessionTables.update
  cases tables.sessions.lookup id <;> rfl

/-- The session is changed as the kernel has been. -/
theorem Fit.rewired (h : Fit options scene session s) {f : EndpointState → EndpointState} (hf : Rewires f)
    {interests : Table ℕ (ℕ × EpollEvents)} (hs : Sound options s') (htables : s'.tables = { s.tables with interests })
    (ha : Alike s { s' with tables := s.tables }) (hdue : due s'.log = some .nothing)
    (hinterests : DelFailed s'.log ∨ ∀ fd, interests.lookup fd =
      if (session.ends side).fd = some fd then (f (session.ends side)).entry else s.tables.interests.lookup fd)
    {E : TcpError → TcpReactor → Prop} :
    Serves options (updateSession scene.id (·.setEnd side f)) s' E fun _ s'' =>
      Fit options scene (session.setEnd side f) s'' ∧ s''.stop = s.stop := by
  have hchanged : Sound options { s' with tables := s'.tables.update scene.id (·.setEnd side f) } :=
    hs.update (hf.tame side) (Orderly.of_eq (fun _ => rfl) fun _ => rfl) (hf.harmless side)
  unfold updateSession modifyTables
  apply Runs.modify (.single fun _ => hchanged)
  refine ⟨h.rewire hf hchanged ?_ ⟨rfl, ha.stop, ha.listenerFd, ha.listenerDeferred, ha.heard, ha.log⟩
    hdue hinterests, ha.stop⟩
  rw [← SessionTables.update_interests, ← htables]

theorem plain_epoll (operation : EpollOperation) (fd : Option ℕ) (known : Bool) : Plain (.epoll operation fd known) :=
  trivial

/-! ### Taking an end out -/

/-- An end that is registered is known, and another is not. -/
theorem Steady.interest (h : Steady options s) {id : ℕ} (hsession : s.tables.sessions.lookup id = some session)
    {fd : ℕ} (hfd : (session.ends side).fd = some fd) :
    DelFailed s.log ∨ s.tables.interests.lookup fd = (session.ends side).entry :=
  h.tracked.imp_right fun htracked => htracked.registered id session side fd hsession hfd

/-- What the kernel keeps of an end is forgotten. -/
theorem Fit.detach (h : Fit options scene session s) {E : TcpError → TcpReactor → Prop} :
    Serves options (detachError (session.ends side)) s E fun _ s' => ∃ interests, Sound options s' ∧
      s'.tables = { s.tables with interests } ∧ Alike s { s' with tables := s.tables } ∧
      due s'.log = some .nothing ∧ (DelFailed s'.log ∨ ∀ fd, interests.lookup fd =
        if (session.ends side).fd = some fd then none else s.tables.interests.lookup fd) := by
  obtain ⟨fd, hfd⟩ := Option.ne_none_iff_exists'.mp (h.opened side)
  unfold detachError
  apply Runs.ite
  · intro hregistered
    apply Runs.bind (serves_epollControl h.sound (h.legal_del h.here hregistered) h.due (fun _ => rfl) fun _ => rfl)
    rintro result s₁ - ⟨hs₁, hresult⟩
    cases result with
    | ok u =>
      subst hresult
      refine Runs.pure ⟨s.tables.interests.erase fd, hs₁, ?_, ?_, ?_, .inr fun fd' => ?_⟩
      · show s.tables.control .del (session.ends side).fd 0 0 = _
        rw [hfd]
        rfl
      · exact ⟨rfl, rfl, rfl, rfl, fun _ => (plain_epoll _ _ _).hear _ _, List.suffix_cons _ _⟩
      · exact due_cons h.due _
      · rw [hfd]
        by_cases hfd' : fd' = fd
        · rw [hfd', Finmap.lookup_erase, if_pos rfl]
        · rw [Finmap.lookup_erase_ne hfd', if_neg fun heq => hfd' (Option.some.inj heq).symm]
    | error error =>
      subst hresult
      refine Runs.pure ⟨s.tables.interests, hs₁, rfl, ?_, ?_, .inl ⟨error, List.mem_cons_self⟩⟩
      · exact (Alike.record (plain_epoll _ _ _)).trans (.record trivial)
      · show due (_ :: _ :: s.log) = _
        rw [due_cons (due_cons h.due _)]
        rfl
  · intro hnot
    refine Runs.pure ⟨s.tables.interests, h.sound, rfl, Alike.refl s, h.due, ?_⟩
    refine (h.interest h.here hfd).imp_right fun hentry fd' => ?_
    by_cases hfd' : (session.ends side).fd = some fd'
    · rw [if_pos hfd']
      obtain rfl := Option.some.inj (hfd.symm.trans hfd')
      rw [hentry, EndpointState.entry, if_neg hnot]
    · rw [if_neg hfd']

/-- **`removeEndpoint`.** -/
theorem Fit.removeEndpoint (h : Fit options scene session s) (side : Side) :
    Serves options (removeEndpoint scene.id side) s (Fails options scene) fun _ s' =>
      Fit options scene (session.setEnd side EndpointState.detached) s' ∧ s'.stop = s.stop := by
  apply serves_sessionAt_bind h.here
  apply Runs.bind h.detach
  rintro error s₁ - ⟨interests, hs₁, htables₁, ha₁, hdue₁, hinterests₁⟩
  apply Runs.bind (h.rewired rewires_detached hs₁ htables₁ ha₁ hdue₁ hinterests₁)
  rintro - s₂ - ⟨h₂, hstop₂⟩
  apply Runs.when
  · intro _
    apply Runs.bind (h₂.notify (.statistic ⟨.error, 1⟩) (by simp [Plain, countsBytes]) (by simp [Allowed, countsBytes]) rfl)
    rintro - s₃ - ⟨h₃, hstop₃⟩
    apply (h₃.notify (.diagnostic "epoll_ctl DEL" error) trivial trivial rfl).post
    rintro - s₄ - ⟨h₄, hstop₄⟩
    exact ⟨h₄, by rw [hstop₄, hstop₃, hstop₂]⟩
  · exact fun _ => ⟨h₂, hstop₂⟩

/-! ### What wakes an end -/

/-- An end that is left alone until its time has come is awake. -/
theorem Session.awake_of_deferred (hdeferred : (session.ends side).deferred ≠ 0)
    (hregistered : (session.ends side).registered = false) : session.Awake side where
  connecting _ _ := .inr hdeferred
  reading _ _ _ := .inr hdeferred
  writing _ := .inr hdeferred
  idle _ hwants := by
    rw [EndpointState.Wants, hregistered] at hwants
    exact Bool.noConfusion hwants.1

/-- An end that has nothing to wait for need not be woken. -/
theorem Session.awake_of_idle (hwaiting : session.connecting = true → (session.pending side.other).size = 0)
    (hmask : interestMask session false side = 0) (hregistered : (session.ends side).registered = false) :
    session.Awake side where
  connecting hconnecting hside := by
    subst hside
    simp only [interestMask, hconnecting, if_true, Bool.false_eq_true, if_false] at hmask
    exact absurd hmask (by decide)
  reading hconnected heof hpaused := by
    simp only [interestMask, hconnected, heof, hpaused, Bool.false_eq_true, if_false, Bool.not_false, Bool.and_self,
      if_true] at hmask
    split at hmask
    · exact absurd hmask (by decide)
    · exact absurd hmask (by decide)
  writing hsize := by
    have hconnected : session.connecting = false := by
      by_contra hconnecting
      exact hsize (hwaiting (Bool.eq_true_of_not_eq_false hconnecting))
    simp only [interestMask, hconnected, Bool.false_eq_true, if_false, if_pos hsize] at hmask
    split at hmask
    · exact absurd hmask (by decide)
    · exact absurd hmask (by decide)
  idle _ hwants := by
    rw [EndpointState.Wants, hregistered] at hwants
    exact Bool.noConfusion hwants.1

/-- **An end that is registered for what it has to wait for will be woken**, and for nothing else. -/
theorem Session.awake_of_mask (hwaiting : session.connecting = true → (session.pending side.other).size = 0)
    (hregistered : (session.ends side).registered = true)
    (hinterest : (session.ends side).interest = interestMask session false side) : session.Awake side where
  connecting hconnecting hside := by
    subst hside
    refine .inl ⟨hregistered, ?_⟩
    rw [hinterest]
    simp only [interestMask, hconnecting, if_true, Bool.false_eq_true, if_false]
    decide
  reading hconnected heof hpaused := by
    refine .inl ⟨hregistered, ?_⟩
    rw [hinterest]
    simp only [interestMask, hconnected, heof, hpaused, Bool.false_eq_true, if_false, Bool.not_false, Bool.and_self,
      if_true]
    split <;> decide
  writing hsize := by
    have hconnected : session.connecting = false := by
      by_contra hconnecting
      exact hsize (hwaiting (Bool.eq_true_of_not_eq_false hconnecting))
    refine .inl ⟨hregistered, ?_⟩
    rw [hinterest]
    simp only [interestMask, hconnected, Bool.false_eq_true, if_false, if_pos hsize]
    split <;> decide
  idle hconnected hwants := by
    intro hsize
    rw [EndpointState.Wants, hinterest] at hwants
    simp only [interestMask, hconnected, Bool.false_eq_true, if_false, hsize, ne_eq, not_true_eq_false] at hwants
    split at hwants
    · exact hwants.2 (by decide)
    · exact hwants.2 (by decide)

/-- What wakes an end does not depend on what the other is registered for. -/
theorem Session.Awake.rewire {f : EndpointState → EndpointState} {side' : Side} (h : session.Awake side)
    (hside : side ≠ side') : (session.setEnd side' f).Awake side := by
  have hends : (session.setEnd side' f).ends side = session.ends side := by
    rw [Session.setEnd_ends, Function.update_of_ne hside]
  constructor
  · rw [hends]
    exact h.connecting
  · rw [hends]
    exact h.reading
  · rw [hends]
    exact h.writing
  · rw [hends]
    exact h.idle

theorem interestMask_setEnd {f : EndpointState → EndpointState} (hf : Rewires f) (draining : Bool) :
    interestMask (session.setEnd side f) draining side = interestMask session draining side := by
  simp only [interestMask, setEnd_field (·.eof) hf.eof, setEnd_field (·.paused) hf.paused]
  rfl

/-- Nothing is queued for an end of a session that is not connected. -/
theorem Within.waiting (h : Within options scene session s) (hconnecting : session.connecting = true) (side : Side) :
    (session.pending side).size = 0 := h.sound.consistent.tables.waiting h.here hconnecting

/-! ### Asking -/

variable (options scene) in
/-- The session in its turn, with the interests of one end up to date. -/
structure Asked (session : Session) (side : Side) (f : EndpointState → EndpointState) (s : TcpReactor) : Prop
    extends Fit options scene (session.setEnd side f) s where
  /-- Only what it is registered for has changed. -/
  rewires : Rewires f
  /-- It will be woken. -/
  awake : s.stop.draining = false → (session.setEnd side f).Awake side

/-- A pass of the loop of `updateSessionInterests`. -/
theorem Fit.updateInterest (h : Fit options scene session s) (side : Side) :
    Serves options (updateInterest scene.id side) s (Fails options scene) fun _ s' =>
      (∃ f, Asked options scene session side f s') ∧ s'.stop = s.stop := by
  have hself : session.setEnd side id = session := by simp [Session.setEnd]
  have hid : Rewires id := ⟨fun _ => rfl, fun _ => rfl, fun _ => rfl, fun _ => rfl, fun _ => rfl, fun _ => rfl⟩
  have hend : ∀ f, ((session.setEnd side f).ends side) = f (session.ends side) := fun f => by
    rw [Session.setEnd_ends, Function.update_self]
  apply Runs.bind h.toWithin.time
  rintro time s₁ - ⟨hwithin₁, ha₁, htime⟩
  have h₁ : Fit options scene session s₁ := h.alike ha₁ hwithin₁.toSane
  apply serves_sessionAt_bind h₁.here
  apply Runs.ite
  · intro hdeferred
    apply (h₁.removeEndpoint side).post
    rintro - s₂ - ⟨h₂, hstop₂⟩
    refine ⟨⟨_, h₂, rewires_detached, fun _ => Session.awake_of_deferred ?_ ?_⟩, by rw [hstop₂, ha₁.stop]⟩
    · rw [hend]
      exact (Int.lt_of_le_of_lt htime hdeferred).ne'
    · rw [hend]
      rfl
  · intro _
    apply Runs.gets_bind
    apply Runs.bind (Q := fun _ s' => Fit options scene session s' ∧ s'.stop = s.stop)
    · apply Runs.when
      · intro _
        apply (h₁.report _ _ _ _).post
        exact fun _ s₂ _ h₂ => ⟨h₂.1, by rw [h₂.2, ha₁.stop]⟩
      · exact fun _ => ⟨h₁, ha₁.stop⟩
    rintro - s₂ - ⟨h₂, hstop₂⟩
    have hdraining : s₁.stop.draining = s₂.stop.draining := by rw [hstop₂, ha₁.stop]
    rw [hdraining]
    generalize hmask : interestMask session s₂.stop.draining side = mask
    have hwaiting : session.connecting = true → (session.pending side.other).size = 0 :=
      fun hconnecting => h₂.toWithin.waiting hconnecting side.other
    apply Runs.ite
    · intro hzero
      apply (h₂.removeEndpoint side).post
      rintro - s₃ - ⟨h₃, hstop₃⟩
      refine ⟨⟨_, h₃, rewires_detached, fun hrunning => Session.awake_of_idle hwaiting ?_ ?_⟩, by rw [hstop₃, hstop₂]⟩
      · rw [interestMask_setEnd rewires_detached, ← hzero, ← hmask, ← hstop₃, hrunning]
      · rw [hend]
        rfl
    · intro _
      apply Runs.ite
      · rintro ⟨hregistered, hinterest⟩
        refine Runs.pure ⟨⟨id, by rwa [hself], hid, fun hrunning => ?_⟩, hstop₂⟩
        rw [hself]
        refine Session.awake_of_mask hwaiting hregistered ?_
        rw [hinterest, ← hmask, hrunning]
      · intro _
        have hlegal : DelFailed s₂.log ∨ s₂.tables.Legal
            (if (session.ends side).registered = true then .mod else .add) (session.ends side).fd := by
          obtain ⟨fd, hfd⟩ := Option.ne_none_iff_exists'.mp (h₂.opened side)
          refine (h₂.interest h₂.here hfd).imp_right fun hentry => ⟨fd, hfd, ?_⟩
          rw [Finmap.mem_iff, hentry, EndpointState.entry]
          by_cases hregistered : (session.ends side).registered = true
          · simp [hregistered]
          · simp [hregistered]
        apply Runs.bind (serves_epollControl h₂.sound hlegal h₂.due (fun _ => rfl) fun _ => rfl)
        rintro result s₃ - ⟨hs₃, hresult⟩
        cases result with
        | error error =>
          subst hresult
          have ha₃ : Alike s₂ ((s₂.record (.epoll (if (session.ends side).registered = true then .mod else .add)
              (session.ends side).fd ((session.ends side).fd.any (· ∈ s₂.tables.interests)))).record
              (.epollFailed (if (session.ends side).registered = true then .mod else .add) error)) :=
            (Alike.record (plain_epoll _ _ _)).trans (.record trivial)
          have hdue₃ : due (.epollFailed (if (session.ends side).registered = true then .mod else .add) error ::
              .epoll (if (session.ends side).registered = true then .mod else .add) (session.ends side).fd
                ((session.ends side).fd.any (· ∈ s₂.tables.interests)) :: s₂.log) = some .nothing := by
            rw [due_cons (due_cons h₂.due _)]
            rfl
          exact Runs.raise ((h₂.toWithin.alike ha₃ ⟨h₂.toSteady.alike ha₃ hs₃, hdue₃⟩).fails (by simp [reserved]))
        | ok u =>
          subst hresult
          obtain ⟨fd, hfd⟩ := Option.ne_none_iff_exists'.mp (h₂.opened side)
          have hinterests : ∀ fd', (s₂.tables.interests.insert fd ((session.ends side).token, mask)).lookup fd' =
              if (session.ends side).fd = some fd' then some ((session.ends side).token, mask)
              else s₂.tables.interests.lookup fd' := by
            intro fd'
            rw [hfd]
            by_cases hfd' : fd' = fd
            · rw [hfd', Finmap.lookup_insert, if_pos rfl]
            · rw [Finmap.lookup_insert_of_ne _ hfd', if_neg fun heq => hfd' (Option.some.inj heq).symm]
          apply Runs.bind (h₂.rewired (rewires_registered mask) hs₃ ?_ ?_ (due_cons h₂.due _) (.inr hinterests))
          · rintro - s₄ - ⟨h₄, hstop₄⟩
            apply (h₄.report _ _ _ _).post
            rintro - s₅ - ⟨h₅, hstop₅⟩
            refine ⟨⟨_, h₅, rewires_registered mask, fun hrunning => Session.awake_of_mask hwaiting ?_ ?_⟩,
              by rw [hstop₅, hstop₄, hstop₂]⟩
            · rw [hend]
            · rw [hend, interestMask_setEnd (rewires_registered mask), ← hrunning, hstop₅, hstop₄, hmask]
          · show s₂.tables.control _ (session.ends side).fd _ _ = _
            rw [hfd]
            split <;> rfl
          · exact ⟨rfl, rfl, rfl, rfl, fun _ => (plain_epoll _ _ _).hear _ _, List.suffix_cons _ _⟩

/-! ### The end of a turn -/

/-- A session between turns. -/
structure Session.Resting (session : Session) (draining : Bool) : Prop where
  /-- Both its ends are open. -/
  opened : ∀ side, (session.ends side).fd ≠ none
  /-- Before the service is stopping, it will be woken. -/
  rest : draining = false → session.AtRest

variable (options scene) in
/-- The turn is over. -/
structure Rested (s : TcpReactor) : Prop extends Settled options s where
  /-- The session, if it is there. -/
  here : ∀ session, s.tables.sessions.lookup scene.id = some session → session.Resting s.stop.draining
  /-- The others are as they were. -/
  others : ∀ id ≠ scene.id, s.tables.sessions.lookup id = scene.others id
  /-- The stop is not taken back. -/
  running : s.stop.draining = false → scene.running = true
  /-- What is known of the listener is kept. -/
  kept : scene.Keeps s

theorem Over.rested (h : Over options scene s) : Rested options scene s where
  toSettled := h.toSettled
  here session hsession := by
    rw [h.gone] at hsession
    cases hsession
  others := h.others
  running := h.running
  kept := h.kept

theorem Within.rested (h : Within options scene session s) (hresting : session.Resting s.stop.draining) :
    Rested options scene s where
  toSettled := h.toSettled
  here session' hsession := by
    rw [h.here] at hsession
    exact Option.some.inj hsession ▸ hresting
  others := h.others
  running := h.running
  kept := h.kept

theorem Fit.rested (h : Fit options scene session s) (hawake : s.stop.draining = false → ∀ side, session.Awake side) :
    Rested options scene s :=
  h.toWithin.rested ⟨h.opened, fun hrunning => ⟨h.paced hrunning, hawake hrunning⟩⟩

/-- **`updateSessionInterests`**: the session waits for events. -/
theorem Fit.updateSessionInterests (h : Fit options scene session s) :
    Serves options (updateSessionInterests scene.id) s (Fails options scene) fun _ s' => Rested options scene s' := by
  apply Runs.bind (h.updateInterest .client)
  rintro - s₁ - ⟨⟨f, h₁⟩, -⟩
  apply (h₁.toFit.updateInterest .backend).post
  rintro - s₂ - ⟨⟨f', h₂⟩, hstop₂⟩
  refine h₂.toFit.rested fun hrunning side => ?_
  cases side with
  | client =>
    refine (h₁.awake ?_).rewire (by decide)
    rw [← hstop₂]
    exact hrunning
  | backend => exact h₂.awake hrunning

end L4lb.Net.Tcp
