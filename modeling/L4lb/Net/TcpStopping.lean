import L4lb.Net.TcpClosing

/-!
# The stop signals

`consumeStopSignals` reads the signals there are: the first closes the listener, the second
ends the draining, and so does the deadline. It touches no session, so it can be called in
the middle of anything.
-/

namespace L4lb.Net.Tcp

open Effect Prog

variable {options : TcpReactorOptions} {s s' s'' : TcpReactor}

/-- What the stop signals may have changed. -/
structure Consumed (s s' : TcpReactor) : Prop where
  /-- No session. -/
  sessions : s'.tables.sessions = s.tables.sessions
  /-- The listener is not deferred by them. -/
  deferred : s'.Deferred → s.Deferred
  /-- Nothing, if the service is not stopping then. -/
  alike : s'.stop.draining = false → Alike s s'

theorem Alike.consumed (h : Alike s s') : Consumed s s' where
  sessions := by rw [h.tables]
  deferred := h.deferred
  alike _ := h

theorem Consumed.trans (h : Consumed s s') (h' : Consumed s' s'') : Consumed s s'' where
  sessions := h'.sessions.trans h.sessions
  deferred hdeferred := h.deferred (h'.deferred hdeferred)
  alike hrunning := by
    have halike := h'.alike hrunning
    exact (h.alike (by rw [← halike.stop, hrunning])).trans halike

/-- The listener is taken out of `epoll`, or cannot be: it is registered or not, the rest is
as it was. -/
structure Unlistened (options : TcpReactorOptions) (listenerFd : Option ℕ) (s s' : TcpReactor) : Prop where
  /-- The state is sound. -/
  sound : Sound options s'
  /-- Nothing is due. -/
  due : due s'.log = some .nothing
  /-- What is registered of others. -/
  interests : ∃ interests, s'.tables = { s.tables with interests } ∧
    ∀ fd, listenerFd ≠ some fd → interests.lookup fd = s.tables.interests.lookup fd
  /-- How far the stop has come. -/
  stop : s'.stop = s.stop
  /-- What is heard of the connections. -/
  heard : ∀ connection, hear s'.log connection = hear s.log connection
  /-- What was recorded. -/
  log : s.log <:+ s'.log

theorem serves_detachListener (h : Sound options s) (hd : due s.log = some .nothing) {listenerFd : Option ℕ}
    {deferred : Bool} (hlegal : deferred = false → DelFailed s.log ∨ s.tables.Legal .del listenerFd)
    {E : TcpError → TcpReactor → Prop} :
    Serves options (if deferred then pure (.ok ()) else epollControl .del listenerFd 0 0) s E fun _ s' =>
      Unlistened options listenerFd s s' := by
  cases deferred with
  | true =>
    exact Runs.pure ⟨h, hd, ⟨s.tables.interests, rfl, fun _ _ => rfl⟩, rfl, fun _ => rfl, List.suffix_refl _⟩
  | false =>
    apply (serves_epollControl h (hlegal rfl) hd (fun _ => rfl) fun _ => rfl).post
    have hheard : ∀ known connection, hear (.epoll .del listenerFd known :: s.log) connection = hear s.log connection :=
      fun known connection => Plain.hear (show Plain (.epoll .del listenerFd known) from trivial) s.log connection
    rintro (error | _) s' - ⟨hs', rfl⟩
    · refine ⟨hs', ?_, ⟨s.tables.interests, rfl, fun _ _ => rfl⟩, rfl, fun connection => ?_,
        (List.suffix_cons _ _).trans (List.suffix_cons _ _)⟩
      · have hcalled : due (.epoll .del listenerFd (listenerFd.any (· ∈ s.tables.interests)) :: s.log) = some .nothing := by
          rw [due_cons hd]
          rfl
        exact due_cons hcalled _
      · rw [← hheard (listenerFd.any (· ∈ s.tables.interests)) connection]
        exact Plain.hear (show Plain (.epollFailed .del error) from trivial) _ connection
    · refine ⟨hs', ?_, ⟨(s.tables.control .del listenerFd 0 0).interests, SessionTables.control_eq _ _ _ _ _,
        fun fd hfd => ?_⟩, rfl, hheard _, List.suffix_cons _ _⟩
      · exact due_cons hd _
      · cases listenerFd with
        | none => rfl
        | some n =>
          have hne : fd ≠ n := fun he => hfd (by rw [he])
          exact Finmap.lookup_erase_ne hne

/-- What the listener has open is used by no session. -/
theorem Steady.unused_listener (h : Steady options s) {fd : ℕ} (hfd : s.listenerFd = some fd) : s.tables.Unused fd := by
  intro id session side hsession hside
  obtain ⟨serial, hdescriptor⟩ := h.sound.consistent.tables.wired hsession hside
  rw [h.listener hfd] at hdescriptor
  cases hdescriptor

/-- The listener is closed and forgotten. -/
theorem Unlistened.sane {fd : ℕ} (hu : Unlistened options (some fd) s s') (h : Sane options s)
    (hfd : s.listenerFd = some fd) (hdraining : s.stop.draining = true) :
    Sound options (s'.close (some fd)) ∧
      Sane options { s' with
        tables := s'.tables.release (some fd), closes := fd :: s'.closes,
          listenerFd := none, listenerDeferred := false } := by
  obtain ⟨interests, htables, hinterests⟩ := hu.interests
  have hunused : s'.tables.Unused fd := (h.unused_listener hfd).congr (by rw [htables])
  have hclosed : Sound options (s'.close (some fd)) :=
    hu.sound.quiet (hu.sound.consistent.tables.release hunused) (SessionTables.circuit_release hunused) rfl rfl rfl
      le_rfl le_rfl le_rfl hu.sound.clock
  refine ⟨hclosed, ⟨⟨?_, nofun, ?_, ?_⟩, hu.due⟩⟩
  · exact hclosed.quiet hclosed.consistent.tables (fun _ => rfl) rfl rfl rfl le_rfl le_rfl le_rfl hclosed.clock
  · intro hrunning
    rw [hu.stop, hdraining] at hrunning
    cases hrunning
  · rcases h.tracked with ⟨error, hfailed⟩ | htracked
    · exact .inl ⟨error, hu.log.subset hfailed⟩
    · right
      have hlookup : ∀ fd', fd' ≠ fd →
          (s'.tables.release (some fd)).interests.lookup fd' = s.tables.interests.lookup fd' := by
        intro fd' hne
        have hne' : some fd ≠ some fd' := fun he => hne (Option.some.inj he).symm
        show (s'.tables.interests.erase fd).lookup fd' = _
        rw [Finmap.lookup_erase_ne hne, htables]
        exact hinterests fd' hne'
      have hgone : ∀ {fd'}, fd' ∈ (s'.tables.release (some fd)).interests → fd' ≠ fd := by
        rintro fd' hmem rfl
        exact (Finmap.mem_erase.mp hmem).1 rfl
      constructor
      · intro id session side fd' hsession hside
        have hne : fd' ≠ fd := by
          rintro rfl
          exact hunused id session side hsession hside
        show (s'.tables.release (some fd)).interests.lookup fd' = _
        rw [hlookup fd' hne]
        rw [show (s'.tables.release (some fd)).sessions = s'.tables.sessions from rfl, htables] at hsession
        exact htracked.registered id session side fd' hsession hside
      · intro id session side hsession
        rw [show (s'.tables.release (some fd)).sessions = s'.tables.sessions from rfl, htables] at hsession
        exact htracked.unopened hsession
      · exact nofun
      · intro fd' hmem
        have hne := hgone hmem
        rw [Table.mem_congr (hlookup fd' hne)] at hmem
        show fd' ∈ s'.tables.descriptors.erase fd
        rw [Finmap.mem_erase, htables]
        exact ⟨hne, htracked.opened hmem⟩
      · intro fd' mask hentry
        have hne := hgone (Finmap.mem_of_lookup_eq_some hentry)
        rw [hlookup fd' hne] at hentry
        rw [htracked.alone hentry] at hfd
        exact absurd (Option.some.inj hfd) hne

/-- While it is there, the listener is registered unless it is deferred. -/
theorem Steady.legal_listener (h : Steady options s) {fd : ℕ} (hfd : s.listenerFd = some fd)
    (hdeferred : s.listenerDeferred = false) : DelFailed s.log ∨ s.tables.Legal .del s.listenerFd := by
  rcases h.tracked with hfailed | htracked
  · exact .inl hfailed
  · have hentry := htracked.listener hfd
    rw [hdeferred] at hentry
    exact .inr ⟨fd, hfd, fun _ => by decide, fun _ => Finmap.mem_of_lookup_eq_some hentry⟩

/-- What a callback threw leaves what it was told of. -/
theorem broken_of_callback {e : TcpError} (h : Sane options s) (he : ∃ exception, e = .callback exception) :
    Broken options e s := by
  obtain ⟨exception, rfl⟩ := he
  exact ⟨h, sensible_callback exception, nofun⟩

variable (options) in
/-- What is left when something is thrown at a stop signal. -/
structure Spared (s : TcpReactor) (e : TcpError) (s' : TcpReactor) : Prop extends Broken options e s' where
  /-- The sessions are as they were. -/
  sessions : s'.tables.sessions = s.tables.sessions

theorem Spared.before {s₁ : TcpReactor} {e : TcpError} (h : Spared options s₁ e s')
    (hsessions : s₁.tables.sessions = s.tables.sessions) : Spared options s e s' :=
  ⟨h.toBroken, h.sessions.trans hsessions⟩

/-- **The first stop signal**: the listener is closed, and the sessions are there to drain. -/
theorem serves_beginDraining (h : Settled options s) (hrunning : s.stop.draining = false) :
    Serves options (beginDraining options) s (Spared options s) fun _ s' =>
      Settled options s' ∧ s'.tables.sessions = s.tables.sessions ∧ s'.listenerDeferred = false ∧
        s'.stop.draining = true := by
  apply Runs.bind (serves_currentTime h.toSane)
  rintro time s₁ - ⟨h₁, ha₁, hlog₁, -, -⟩
  have hsettled₁ := h.alike ha₁ h₁
  have hrunning₁ : s₁.stop.draining = false := by rw [ha₁.stop, hrunning]
  obtain ⟨fd, hfd⟩ := Option.ne_none_iff_exists'.mp (h₁.listening hrunning₁)
  have hbarrier := h₁.sound.barrier h₁.due hsettled₁.counted hrunning₁ (time + options.drainTimeout)
  apply Runs.modify_bind (.single fun _ => hbarrier)
  generalize hs₂ : ({ s₁ with
    stop := { s₁.stop with draining := true, drainDeadline := time + options.drainTimeout }
    log := .barrier s₁.tables.sessions (time + options.drainTimeout) :: s₁.log } : TcpReactor) = s₂ at hbarrier ⊢
  have htables₂ : s₂.tables = s₁.tables := by rw [← hs₂]
  have hfd₂ : s₂.listenerFd = some fd := by rw [← hs₂, ← hfd]
  have hdraining₂ : s₂.stop.draining = true := by rw [← hs₂]
  have hmem₂ : .barrier s₁.tables.sessions s₂.stop.drainDeadline ∈ s₂.log := by
    rw [← hs₂]
    exact List.mem_cons_self
  have hcounted₂ : AllCounted s₂.log := by
    rw [← hs₂]
    exact hsettled₁.counted
  have hsane₂ : Sane options s₂ := by
    refine ⟨⟨hbarrier, ?_, ?_, ?_⟩, ?_⟩
    · rw [← hs₂]
      exact h₁.listener
    · rw [hdraining₂]
      exact nofun
    · rcases h₁.tracked with ⟨error, hfailed⟩ | htracked
      · left
        rw [← hs₂]
        exact ⟨error, List.mem_cons_of_mem _ hfailed⟩
      · right
        rw [← hs₂]
        exact ⟨htracked.registered, htracked.unopened, htracked.listener, htracked.opened, htracked.alone⟩
    · rw [← hs₂]
      exact due_cons h₁.due _
  apply Runs.gets_bind
  apply Runs.gets_bind
  apply Runs.bind (serves_detachListener hbarrier hsane₂.due (hsane₂.legal_listener hfd₂))
  intro detached s₃ _ hu
  rw [hfd₂] at hu ⊢
  obtain ⟨hclosed, hsane₃⟩ := hu.sane hsane₂ hfd₂ hdraining₂
  apply serves_closeFd_bind hclosed
  apply Runs.modify_bind (.single fun _ => hsane₃.sound)
  change Runs _ _ _ { s₃ with
    tables := s₃.tables.release (some fd), closes := fd :: s₃.closes, listenerFd := none, listenerDeferred := false } _
  generalize hs₄ : ({ s₃ with
    tables := s₃.tables.release (some fd)
    closes := fd :: s₃.closes
    listenerFd := none
    listenerDeferred := false } : TcpReactor) = s₄ at hsane₃ ⊢
  have hsessions₄ : s₄.tables.sessions = s₁.tables.sessions := by
    obtain ⟨interests, htables, -⟩ := hu.interests
    rw [← hs₄, ← htables₂]
    show s₃.tables.sessions = _
    rw [htables]
  have hstop₄ : s₄.stop = s₂.stop := by
    rw [← hs₄]
    exact hu.stop
  have hsettled₄ : Settled options s₄ := by
    refine ⟨hsane₃, fun c => ?_⟩
    rw [← hs₄]
    show (hear s₃.log (some c)).uncounted = []
    rw [hu.heard, hcounted₂]
  have hmem₄ : .barrier s₁.tables.sessions s₂.stop.drainDeadline ∈ s₄.log := by
    rw [← hs₄]
    exact hu.log.subset hmem₂
  have hthrown : ∀ {e s'}, Alike s₄ s' → Sane options s' → (∃ exception, e = .callback exception) →
      Spared options s e s' := by
    intro e s' ha hsane he
    refine ⟨broken_of_callback hsane he, ?_⟩
    rw [ha.tables, hsessions₄, ha₁.tables]
  have hdone : ∀ {s'}, Alike s₄ s' → Sane options s' → Settled options s' ∧
      s'.tables.sessions = s.tables.sessions ∧ s'.listenerDeferred = false ∧ s'.stop.draining = true := by
    intro s' ha hsane
    refine ⟨hsettled₄.alike ha hsane, ?_, ?_, ?_⟩
    · rw [ha.tables, hsessions₄, ha₁.tables]
    · rw [ha.listenerDeferred, ← hs₄]
    · rw [ha.stop, hstop₄, hdraining₂]
  apply Runs.gets_bind
  apply Runs.bind ((serves_reportObservation hsettled₄.toSane "draining" 0 none 0).mono
    (fun e s' _ he => hthrown he.2.1 he.1 he.2.2) fun _ _ _ hq => hq)
  rintro - s₅ - ⟨h₅, ha₅⟩
  have hstopping : Allowed options s₅.log
      (.stopping ⟨pendingTotal s₄.tables.sessions, s₄.stop.drainDeadline⟩) := by
    refine ⟨s₁.tables.sessions, ?_, ?_⟩
    · show .barrier s₁.tables.sessions s₄.stop.drainDeadline ∈ s₅.log
      rw [hstop₄]
      exact ha₅.log.subset hmem₄
    · show pendingTotal s₄.tables.sessions = _
      rw [hsessions₄]
  apply Runs.bind ((serves_notify (.stopping ⟨pendingTotal s₄.tables.sessions, s₄.stop.drainDeadline⟩)
      h₅ trivial hstopping rfl).mono
    (fun e s' _ he => hthrown (ha₅.trans he.2.1) he.1 he.2.2) fun _ _ _ hq => hq)
  rintro - s₆ - ⟨h₆, ha₆⟩
  cases detached with
  | ok => exact Runs.pure (hdone (ha₅.trans ha₆) h₆)
  | error error =>
    apply (serves_notify (.diagnostic "stop listener DEL" error) h₆ trivial trivial rfl).mono
    · exact fun e s' _ he => hthrown (ha₅.trans (ha₆.trans he.2.1)) he.1 he.2.2
    · exact fun _ s' _ hq => hdone (ha₅.trans (ha₆.trans hq.2)) hq.1

/-- The second stop signal, or the deadline. -/
theorem serves_requestStop (h : Settled options s) (hdraining : s.stop.draining = true) {reason : String}
    (hreason : reason ∉ reserved) (kind : String) :
    Serves options (requestStop reason kind) s (Spared options s) fun _ s' =>
      Settled options s' ∧ s'.tables.sessions = s.tables.sessions ∧ (s'.Deferred → s.Deferred) ∧
        s'.stop.draining = true ∧ s'.stop.stopRequested = true := by
  have hstop := h.sound.stop h.due hdraining hreason
  have hsettled : Settled options { s with
      stop := { s.stop with stopRequested := true, stopReason := reason }
      log := .stopped :: s.log } := by
    refine ⟨⟨⟨hstop, h.listener, h.listening, ?_⟩, due_cons h.due _⟩, h.counted⟩
    rcases h.tracked with ⟨error, hfailed⟩ | htracked
    · exact .inl ⟨error, List.mem_cons_of_mem _ hfailed⟩
    · exact .inr ⟨htracked.registered, htracked.unopened, htracked.listener, htracked.opened, htracked.alone⟩
  apply Runs.modify_bind (.single fun _ => hstop)
  apply (serves_reportObservation hsettled.toSane kind 0 none 0).mono
  · refine fun e s' _ he => ⟨broken_of_callback he.1 he.2.2, ?_⟩
    rw [he.2.1.tables]
  · rintro - s' - ⟨hsane, ha⟩
    refine ⟨hsettled.alike ha hsane, ?_, ?_, ?_, ?_⟩
    · rw [ha.tables]
    · exact fun hdeferred => hdeferred.before ha.listenerDeferred ((List.suffix_cons _ _).trans ha.log)
    · rw [ha.stop, hdraining]
    · rw [ha.stop]

/-- What the system says is no error of the program. -/
theorem broken_of_system {operation : String} {error : Errno} (h : Sane options s) :
    Broken options (.system operation error) s := ⟨h, ⟨nofun, nofun⟩, nofun⟩

/-- A read of the signals. -/
theorem serves_stopSignalPass (h : Settled options s) :
    Serves options (stopSignalPass options ()) s (Spared options s) fun result s' =>
      Settled options s' ∧ Consumed s s' ∧ (result = .inr true → s'.stop.stopRequested = true) := by
  apply Runs.call_bind
  intro answer
  cases answer with
  | error error =>
    apply Runs.ite
    · exact fun _ => Runs.pure ⟨h, (Alike.refl s).consumed, nofun⟩
    · intro _
      apply Runs.ite
      · exact fun _ => Runs.pure ⟨h, (Alike.refl s).consumed, nofun⟩
      · exact fun _ => Runs.raise ⟨broken_of_system h.toSane, rfl⟩
  | ok count =>
    apply Runs.ite
    · intro _
      apply Runs.gets_bind
      apply Runs.ite
      · intro hdraining
        apply Runs.bind (serves_requestStop h hdraining (by decide) "stop-forced")
        rintro - s' - ⟨hsettled, hsessions, hdeferred, hdraining', hstopped⟩
        refine Runs.pure ⟨hsettled, ⟨hsessions, hdeferred, ?_⟩, fun _ => hstopped⟩
        rw [hdraining']
        exact nofun
      · intro hdraining
        apply Runs.bind (serves_beginDraining h (Bool.eq_false_iff.mpr hdraining))
        rintro - s' - ⟨hsettled, hsessions, hdeferred, hdraining'⟩
        refine Runs.pure ⟨hsettled, ⟨hsessions, ?_, ?_⟩, nofun⟩
        · intro hd
          rw [TcpReactor.Deferred, hdeferred] at hd
          cases hd.1
        · rw [hdraining']
          exact nofun
    · exact fun _ => Runs.raise ⟨broken_of_system h.toSane, rfl⟩

/-- The deadline is looked at. -/
theorem serves_observeDeadline (h : Settled options s) :
    Serves options observeDeadline s (Spared options s) fun _ s' =>
      Settled options s' ∧ Consumed s s' := by
  apply Runs.gets_bind
  apply Runs.ite
  · intro hdraining
    apply Runs.bind (serves_currentTime h.toSane)
    rintro time s₁ - ⟨h₁, ha₁, -, -, -⟩
    have hsettled₁ := h.alike ha₁ h₁
    apply Runs.gets_bind
    apply Runs.when
    · intro _
      apply (serves_requestStop hsettled₁ (by rw [ha₁.stop, hdraining]) (by decide) "stop-deadline").mono
      · exact fun e s' _ he => he.before (by rw [ha₁.tables])
      · rintro - s' - ⟨hsettled, hsessions, hdeferred, hdraining', -⟩
        refine ⟨hsettled, ⟨by rw [hsessions, ha₁.tables], fun hd => ha₁.deferred (hdeferred hd), ?_⟩⟩
        rw [hdraining']
        exact nofun
    · exact fun _ => ⟨hsettled₁, ha₁.consumed⟩
  · exact fun _ => Runs.pure ⟨h, (Alike.refl s).consumed⟩

/-- **The stop signals there are are consumed**, whatever is in hand. -/
theorem serves_consumeStopSignals (h : Settled options s) :
    Serves options (consumeStopSignals options) s (Spared options s) fun result s' =>
      Settled options s' ∧ Consumed s s' ∧ (result = false → s'.stop.draining = false) := by
  apply Runs.gets_bind
  apply Runs.ite
  · exact fun _ => Runs.pure ⟨h, (Alike.refl s).consumed, nofun⟩
  · intro _
    have hpasses : Serves options (loop (stopSignalPass options) ()) s (Spared options s) fun _ s' =>
        Settled options s' ∧ Consumed s s' := by
      apply Runs.loop (fun _ s' => Settled options s' ∧ Consumed s s') _ ⟨h, (Alike.refl s).consumed⟩
      rintro - s₁ ⟨h₁, hc₁⟩
      apply (serves_stopSignalPass h₁).mono
      · exact fun e s' _ he => he.before hc₁.sessions
      · rintro (_ | _) s₂ - ⟨h₂, hc₂, -⟩
        · exact ⟨h₂, hc₁.trans hc₂⟩
        · exact ⟨h₂, hc₁.trans hc₂⟩
    apply Runs.bind hpasses
    rintro stopped s₁ - ⟨h₁, hc₁⟩
    apply Runs.ite
    · exact fun _ => Runs.pure ⟨h₁, hc₁, nofun⟩
    · intro _
      apply Runs.bind ((serves_observeDeadline h₁).mono (fun e s' _ he => he.before hc₁.sessions) fun _ _ _ hq => hq)
      rintro - s₂ - ⟨h₂, hc₂⟩
      refine Runs.gets ⟨h₂, hc₁.trans hc₂, fun hresult => ?_⟩
      exact (Bool.or_eq_false_iff.mp hresult).1

end L4lb.Net.Tcp
