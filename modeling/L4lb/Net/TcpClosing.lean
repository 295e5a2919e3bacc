import L4lb.Net.TcpRuns

/-!
# Closing sessions

`closeSession` takes a session out of the tables, takes its connections out of `epoll` and
closes them, and makes its reports; `closeAllSessions` does so until there are none. What a
report throws is thrown once all is done.
-/

namespace L4lb.Net.Tcp

open Effect Prog

variable {options : TcpReactorOptions} {s s' s₀ : TcpReactor} {id : ℕ} {session : Session}

/-- A session was taken out; the rest is as it was. -/
structure Without (s₀ : TcpReactor) (id : ℕ) (s : TcpReactor) : Prop where
  /-- The other sessions are there. -/
  sessions : s.tables.sessions = s₀.tables.sessions.erase id
  /-- How far the stop has come. -/
  stop : s.stop = s₀.stop
  /-- The listener. -/
  listenerFd : s.listenerFd = s₀.listenerFd
  /-- Whether it is registered. -/
  listenerDeferred : s.listenerDeferred = s₀.listenerDeferred
  /-- What is heard of the connections. -/
  heard : ∀ connection, hear s.log connection = hear s₀.log connection
  /-- What was recorded. -/
  log : s₀.log <:+ s.log

/-- In the middle of closing a session: the connections of `loose` are taken out of `epoll`,
and those of `done` are closed. -/
structure Closing (options : TcpReactorOptions) (s₀ : TcpReactor) (id : ℕ) (loose done : List ℕ) (d : Due)
    (s : TcpReactor) : Prop extends Without s₀ id s where
  /-- The state is sound. -/
  sound : Sound options s
  /-- What is due. -/
  due : due s.log = some d
  /-- The other descriptors are as they were. -/
  kept : ∀ fd ∉ done, s.tables.descriptors.lookup fd = s₀.tables.descriptors.lookup fd
  /-- And what is registered of them. -/
  registered : ∀ fd ∉ loose, s.tables.interests.lookup fd = s₀.tables.interests.lookup fd
  /-- These are gone. -/
  freed : ∀ fd ∈ done, s.tables.descriptors.lookup fd = none ∧ s.tables.interests.lookup fd = none

namespace Closing

variable {loose done : List ℕ} {d d' : Due} {n : ℕ}

/-- Something is recorded. -/
theorem record (h : Closing options s₀ id loose done d s) (event : TcpEvent) (hp : Plain event)
    (ha : Allowed options s.log event) (hd : d.next event = some d') :
    Closing options s₀ id loose done d' (s.record event) := by
  have hdue : Tcp.due (event :: s.log) = some d' := by
    rw [due_cons h.due, hd]
  refine ⟨⟨h.sessions, h.stop, h.listenerFd, h.listenerDeferred, fun connection => ?_,
    h.log.trans (List.suffix_cons _ _)⟩, h.sound.plain event hp ha (by rw [hdue]; rfl), hdue, h.kept, h.registered,
    h.freed⟩
  rw [TcpReactor.record_log, hp.hear, h.heard]

/-- A callback is told of it. -/
theorem notify (h : Closing options s₀ id loose done d s) (event : TcpEvent) (hp : Plain event)
    (ha : Allowed options s.log event) (hd : d.next event = some d') (hthrown : d'.next .callbackThrew = some d') :
    Serves options (notify event) s
      (fun e s' => (∃ exception, e = .callback exception) ∧ Closing options s₀ id loose done d' s')
      fun _ s' => Closing options s₀ id loose done d' s' := by
  have hrecorded := h.record event hp ha hd
  apply Runs.modify_bind (.single fun _ => hrecorded.sound)
  apply Runs.call_bind
  intro answer
  cases answer with
  | none => exact Runs.pure hrecorded
  | some exception =>
    have hthrew := hrecorded.record .callbackThrew trivial trivial hthrown
    apply Runs.modify_bind (.single fun _ => hthrew.sound)
    exact Runs.raise ⟨⟨exception, rfl⟩, hthrew⟩

/-- A connection is taken out of `epoll`, or it cannot be. -/
theorem detach (h : Closing options s₀ id loose done (.closing n) s) (endpoint : EndpointState)
    (hlegal : endpoint.registered = true → DelFailed s.log ∨ s.tables.Legal .del endpoint.fd)
    {E : TcpError → TcpReactor → Prop} :
    Serves options (detachError endpoint) s E fun error s' =>
      Closing options s₀ id (endpoint.fd.toList ++ loose) done (.closing (if error = 0 then n else n + 1)) s' := by
  have hweaken : ∀ {d s}, Closing options s₀ id loose done d s →
      Closing options s₀ id (endpoint.fd.toList ++ loose) done d s := fun h =>
    ⟨h.toWithout, h.sound, h.due, h.kept, fun fd hfd => h.registered fd fun hmem =>
      hfd (List.mem_append_right _ hmem), h.freed⟩
  unfold detachError
  cases hregistered : endpoint.registered with
  | false => exact Runs.pure (hweaken h)
  | true =>
    apply Runs.bind (serves_epollControl h.sound (hlegal hregistered) h.due (fun _ => rfl) fun _ => rfl)
    rintro (error | _) s' - ⟨hs', rfl⟩
    · have hcalled := h.record (.epoll .del endpoint.fd (endpoint.fd.any (· ∈ s.tables.interests))) trivial
        (allowed_epoll (hlegal hregistered)) rfl
      have hfailed := hcalled.record (.epollFailed .del error) trivial trivial rfl
      apply Runs.pure
      apply hweaken
      by_cases hzero : error = 0
      · simpa [hzero] using hfailed
      · by_cases hgone : error = .ENOENT ∨ error = .EBADF
        · simpa [hzero, hgone] using hfailed
        · simpa [hzero, hgone] using hfailed
    · apply Runs.pure
      have hcalled := h.record (.epoll .del endpoint.fd (endpoint.fd.any (· ∈ s.tables.interests))) trivial
        (allowed_epoll (hlegal hregistered)) rfl
      cases hfd : endpoint.fd with
      | none =>
        rw [hfd] at hcalled
        exact hcalled
      | some fd =>
        rw [hfd] at hcalled hs'
        refine ⟨⟨h.sessions, h.stop, h.listenerFd, h.listenerDeferred, hcalled.heard, hcalled.log⟩, hs', hcalled.due,
          h.kept, fun fd' hfd' => ?_, fun fd' hfd' => ?_⟩
        · have hne : fd' ≠ fd := by
            rintro rfl
            exact hfd' List.mem_cons_self
          show (s.tables.interests.erase fd).lookup fd' = _
          rw [Finmap.lookup_erase_ne hne]
          exact h.registered fd' fun hmem => hfd' (List.mem_cons_of_mem _ hmem)
        · refine ⟨(h.freed fd' hfd').1, ?_⟩
          show (s.tables.interests.erase fd).lookup fd' = none
          by_cases hne : fd' = fd
          · rw [hne, Finmap.lookup_erase]
          · rw [Finmap.lookup_erase_ne hne, (h.freed fd' hfd').2]

/-- What an end owns is closed. -/
theorem close (h : Closing options s₀ id loose done d s) (fd : Option ℕ) (hloose : fd.toList ⊆ loose)
    (hunused : ∀ n, fd = some n → s.tables.Unused n) {E : TcpError → TcpReactor → Prop} :
    Serves options (closeFd fd) s E fun owned s' =>
      owned = none ∧ Closing options s₀ id loose (fd.toList ++ done) d s' := by
  cases fd with
  | none => exact Runs.modify_bind (.single fun hs => hs) (Runs.pure ⟨rfl, h⟩)
  | some fd =>
    have hsound : Sound options (s.close (some fd)) :=
      h.sound.quiet (h.sound.consistent.tables.release (hunused fd rfl)) (SessionTables.circuit_release (hunused fd rfl))
        rfl rfl rfl le_rfl le_rfl le_rfl h.sound.clock
    refine Runs.modify_bind (.single fun _ => hsound) (Runs.pure ⟨rfl,
      ⟨h.sessions, h.stop, h.listenerFd, h.listenerDeferred, h.heard, h.log⟩,
      hsound, h.due, fun fd' hfd' => ?_, fun fd' hfd' => ?_, fun fd' hfd' => ?_⟩)
    · have hne : fd' ≠ fd := by
        rintro rfl
        exact hfd' List.mem_cons_self
      show (s.tables.descriptors.erase fd).lookup fd' = _
      rw [Finmap.lookup_erase_ne hne]
      exact h.kept fd' fun hmem => hfd' (List.mem_cons_of_mem _ hmem)
    · have hne : fd' ≠ fd := by
        rintro rfl
        exact hfd' (hloose List.mem_cons_self)
      show (s.tables.interests.erase fd).lookup fd' = _
      rw [Finmap.lookup_erase_ne hne]
      exact h.registered fd' hfd'
    · show (s.tables.descriptors.erase fd).lookup fd' = none ∧ (s.tables.interests.erase fd).lookup fd' = none
      by_cases hne : fd' = fd
      · rw [hne, Finmap.lookup_erase, Finmap.lookup_erase]
        exact ⟨rfl, rfl⟩
      · have hmem : fd' ∈ done := by
          rcases List.mem_cons.mp hfd' with heq | hmem
          · exact absurd heq hne
          · exact hmem
        rw [Finmap.lookup_erase_ne hne, Finmap.lookup_erase_ne hne]
        exact h.freed fd' hmem

end Closing

/-! ### Reports -/

/-- What a report threw, if it threw, is what a callback threw. -/
def Mild (failure : Option TcpError) : Prop := ∀ e, failure = some e → ∃ exception, e = .callback exception

theorem mild_none : Mild none := nofun

/-- An attempt to report keeps what the report keeps. -/
theorem serves_attemptTcpReport {failure : Option TcpError} {report : TcpM Unit} {I : TcpReactor → Prop}
    (hfailure : Mild failure)
    (hreport : Serves options report s (fun e s' => (∃ exception, e = .callback exception) ∧ I s') fun _ s' => I s')
    {E : TcpError → TcpReactor → Prop} :
    Serves options (attemptTcpReport failure report) s E fun failure' s' => Mild failure' ∧ I s' := by
  apply Runs.handle (Runs.bind hreport fun _ s' _ hI => Runs.pure ⟨hfailure, hI⟩)
  rintro e s' - ⟨⟨exception, rfl⟩, hI⟩
  apply Runs.pure
  refine ⟨fun e he => ?_, hI⟩
  cases failure with
  | none =>
    obtain rfl := Option.some.inj he
    exact ⟨exception, rfl⟩
  | some e' =>
    obtain rfl := Option.some.inj he
    exact hfailure _ rfl

namespace Closing

variable {loose done : List ℕ} {failure : Option TcpError}

/-- What could not be detached is counted and said. -/
theorem attemptDetachReports {n : ℕ} {code : Errno} (hfailure : Mild failure)
    (h : Closing options s₀ id loose done (.closing (if code = 0 then n else n + 1)) s)
    {E : TcpError → TcpReactor → Prop} :
    Serves options (attemptDetachReports code failure) s E fun failure' s' =>
      Mild failure' ∧ Closing options s₀ id loose done (.closing n) s' := by
  unfold Tcp.attemptDetachReports
  by_cases hcode : code = 0
  · rw [if_pos hcode] at h
    rw [if_neg (not_not.mpr hcode)]
    exact Runs.pure ⟨hfailure, h⟩
  · rw [if_neg hcode] at h
    rw [if_pos hcode]
    have hnext : (Due.closing (n + 1)).next (.statistic ⟨.error, 1⟩) = some (.closing n) := by simp [Due.next]
    apply Runs.bind (serves_attemptTcpReport hfailure
      (h.notify _ (by simp [Plain, countsBytes]) (by simp [Allowed, countsBytes]) hnext rfl))
    rintro failure' s' - ⟨hfailure', h'⟩
    exact serves_attemptTcpReport hfailure' (h'.notify (.diagnostic "epoll_ctl DEL" code) trivial trivial rfl rfl)

/-- When the end of the session is counted. -/
theorem reportObservation (h : Closing options s₀ id loose done .nothing s) (kind : String) :
    Serves options (reportObservation kind) s
      (fun e s' => (∃ exception, e = .callback exception) ∧ Closing options s₀ id loose done .nothing s')
      fun _ s' => Closing options s₀ id loose done .nothing s' :=
  Runs.gets_bind (h.notify _ trivial trivial rfl rfl)

/-- The reports of a close. -/
theorem reportClosed {session : Session} {reason : String} {error : Errno} {codes : Side → Errno} {n : ℕ}
    (h : Closing options s₀ id loose done (.closing n) s)
    (hn : n = (if codes .client = 0 then 0 else 1) + (if codes .backend = 0 then 0 else 1)) :
    Serves options (reportClosed session reason error codes) s
      (fun e s' => (∃ exception, e = .callback exception) ∧ Closing options s₀ id loose done .nothing s')
      fun _ s' => Closing options s₀ id loose done .nothing s' := by
  have hclient : Closing options s₀ id loose done
      (.closing (if codes .client = 0 then (if codes .backend = 0 then 0 else 1)
        else (if codes .backend = 0 then 0 else 1) + 1)) s := by
    convert h using 2
    rw [hn]
    split <;> omega
  apply Runs.bind (attemptDetachReports mild_none hclient)
  rintro failure s' - ⟨hfailure, h'⟩
  apply Runs.bind (attemptDetachReports hfailure h')
  rintro failure s' - ⟨hfailure, h'⟩
  apply Runs.bind (serves_attemptTcpReport hfailure
    (h'.notify (.sessionEvent ⟨session.id, session.backend, false, reason, error, session.sent⟩) trivial trivial
      rfl rfl))
  rintro failure s' - ⟨hfailure, h'⟩
  apply Runs.bind (serves_attemptTcpReport hfailure
    (h'.notify (.statistic ⟨.closed, 1⟩) (by simp [Plain, countsBytes]) (by simp [Allowed, countsBytes]) rfl rfl))
  rintro failure s' - ⟨hfailure, h'⟩
  apply Runs.bind (serves_attemptTcpReport hfailure (h'.reportObservation "closed"))
  rintro failure s' - ⟨hfailure, h'⟩
  cases failure with
  | none => exact Runs.pure h'
  | some e => exact Runs.raise ⟨hfailure e rfl, h'⟩

end Closing

/-! ### Closing a session -/

theorem SessionTables.Unused.congr {tables tables' : SessionTables} (h : tables'.sessions = tables.sessions) {fd : ℕ}
    (hunused : tables.Unused fd) : tables'.Unused fd := by
  intro id session side hsession
  rw [h] at hsession
  exact hunused id session side hsession

/-- The two ends of a session have different descriptors. -/
theorem SessionTables.Consistent.ends_ne {tables : SessionTables} (h : tables.Consistent)
    (hsession : tables.sessions.lookup id = some session) {fd fd' : ℕ}
    (hclient : (session.ends .client).fd = some fd) (hbackend : (session.ends .backend).fd = some fd') :
    fd' ≠ fd := by
  rintro rfl
  obtain ⟨serial, hdescriptor⟩ := h.wired hsession hclient
  obtain ⟨serial', hdescriptor'⟩ := h.wired hsession hbackend
  rw [hdescriptor] at hdescriptor'
  cases hdescriptor'

/-- When all is closed, the rest is as it was. -/
theorem Closing.sane {loose done : List ℕ} (h : Closing options s₀ id loose done .nothing s)
    (h₀ : Steady options s₀) (hsession : s₀.tables.sessions.lookup id = some session)
    (hloose : ∀ fd ∈ loose, ∃ side, (session.ends side).fd = some fd) (hdone : loose ⊆ done)
    (hdone' : done ⊆ loose) : Sane options s := by
  have hunused : ∀ fd ∈ loose, s.tables.Unused fd := by
    intro fd hfd
    obtain ⟨side, hside⟩ := hloose fd hfd
    exact (h₀.sound.consistent.tables.unused_remove hsession hside).congr h.sessions
  have hlistener : ∀ {fd}, s.listenerFd = some fd → s₀.listenerFd = some fd ∧ fd ∉ loose := by
    intro fd hfd
    rw [h.listenerFd] at hfd
    refine ⟨hfd, fun hmem => ?_⟩
    obtain ⟨side, hside⟩ := hloose fd hmem
    obtain ⟨serial, hdescriptor⟩ := h₀.sound.consistent.tables.wired hsession hside
    rw [h₀.listener hfd] at hdescriptor
    cases hdescriptor
  have hregistered : ∀ {fd}, fd ∈ s.tables.interests → fd ∉ loose := by
    intro fd hfd hmem
    obtain ⟨entry, hentry⟩ := Finmap.mem_iff.mp hfd
    rw [(h.freed fd (hdone hmem)).2] at hentry
    cases hentry
  refine ⟨⟨h.sound, ?_, ?_, ?_⟩, h.due⟩
  · intro fd hfd
    obtain ⟨hfd₀, hnot⟩ := hlistener hfd
    rw [h.kept fd fun hmem => hnot (hdone' hmem)]
    exact h₀.listener hfd₀
  · rw [h.stop, h.listenerFd]
    exact h₀.listening
  · rcases h₀.tracked with ⟨error, hfailed⟩ | htracked
    · exact .inl ⟨error, h.log.subset hfailed⟩
    · right
      constructor
      · intro id' session' side fd hsession' hfd
        have hnot : fd ∉ loose := fun hmem => hunused fd hmem id' session' side hsession' hfd
        rw [h.sessions] at hsession'
        rw [h.registered fd hnot]
        exact htracked.registered id' session' side fd (Table.lookup_of_lookup_erase hsession') hfd
      · intro id' session' side hsession'
        rw [h.sessions] at hsession'
        exact htracked.unopened (Table.lookup_of_lookup_erase hsession')
      · intro fd hfd
        obtain ⟨hfd₀, hnot⟩ := hlistener hfd
        rw [h.registered fd hnot, h.listenerDeferred]
        exact htracked.listener hfd₀
      · intro fd hfd
        have hnot := hregistered hfd
        rw [Table.mem_congr (h.registered fd hnot)] at hfd
        rw [Table.mem_congr (h.kept fd fun hmem => hnot (hdone' hmem))]
        exact htracked.opened hfd
      · intro fd mask hfd
        have hnot := hregistered (Finmap.mem_of_lookup_eq_some hfd)
        rw [h.registered fd hnot] at hfd
        rw [h.listenerFd]
        exact htracked.alone hfd

/-- What `epoll` is asked to forget is known to it. -/
theorem Steady.legal_del (h : Steady options s) (hsession : s.tables.sessions.lookup id = some session) {side : Side}
    (hregistered : (session.ends side).registered = true) :
    DelFailed s.log ∨ s.tables.Legal .del (session.ends side).fd := by
  rcases h.tracked with hfailed | htracked
  · exact .inl hfailed
  · right
    cases hfd : (session.ends side).fd with
    | none =>
      rw [htracked.unopened hsession hfd] at hregistered
      cases hregistered
    | some fd =>
      have hentry := htracked.registered id session side fd hsession hfd
      rw [EndpointState.entry, if_pos hregistered] at hentry
      exact ⟨fd, rfl, fun _ => by decide, fun _ => Finmap.mem_of_lookup_eq_some hentry⟩

/-- What is owned is closed, and then what comes next is done with nothing owned. -/
theorem serves_closeFd_bind {α : Type} {fd : Fd} {k : Fd → TcpM α} {E : TcpError → TcpReactor → Prop}
    {Q : α → TcpReactor → Prop} (hclosed : Sound options (s.close fd)) (h : Serves options (k none) (s.close fd) E Q) :
    Serves options (closeFd fd >>= k) s E Q := by
  have hclose : Serves options (modify (·.close fd) >>= fun _ => k none : TcpM α) s E Q :=
    Runs.modify_bind (.single fun _ => hclosed) h
  exact hclose

theorem destroyFd_eq (fd : Fd) : destroyFd fd = (modify fun s => s.close fd : TcpM Unit) := rfl

/-- Ends that were closed have nothing left to close when their session is destroyed. -/
theorem ensure_destroyFd_none {α : Type} (m : TcpM α) :
    ensure (destroyFd none >>= fun _ => destroyFd none) m = m :=
  ensure_pure m

/-- **A session is closed**, and what was thrown on the way is thrown then. -/
theorem serves_closeSession (h : Steady options s) (hsession : s.tables.sessions.lookup id = some session)
    {reason : String} {error : Errno} {d : Due} (hd : due s.log = some d)
    (hnext : ∀ left, d.next (.closed id reason left) = some (.closing 0))
    (ha : Allowed options s.log (.closed id reason fun side => (session.pending side).size)) :
    Serves options (closeSession id reason error) s
      (fun e s' => (∃ exception, e = .callback exception) ∧ Sane options s' ∧ Without s id s')
      fun _ s' => Sane options s' ∧ Without s id s' := by
  have hsound := h.sound.closed hsession ha (by rw [due_cons hd, hnext]; rfl)
  have hclosing : Closing options s id [] [] (.closing 0) { s with
      tables := s.tables.remove session id
      log := .closed id reason (fun side => (session.pending side).size) :: s.log } := by
    refine ⟨⟨rfl, rfl, rfl, rfl, fun connection => ?_, List.suffix_cons _ _⟩, hsound, ?_, fun _ _ => rfl,
      fun _ _ => rfl, nofun⟩
    · cases connection <;> rfl
    · rw [due_cons hd, hnext]
  have hlegal : ∀ {loose done n s'} side, Closing options s id loose done (.closing n) s' →
      (∀ fd, (session.ends side).fd = some fd → fd ∉ loose) → (session.ends side).registered = true →
      DelFailed s'.log ∨ s'.tables.Legal .del (session.ends side).fd := by
    intro loose done n s' side hs' hnot hregistered
    rcases h.legal_del hsession hregistered with ⟨error, hfailed⟩ | ⟨fd, hfd, hknown⟩
    · exact .inl ⟨error, hs'.log.subset hfailed⟩
    · right
      refine ⟨fd, hfd, ?_⟩
      rw [Table.mem_congr (hs'.registered fd (hnot fd hfd))]
      exact hknown
  have hunused : ∀ {loose done n s'} side, Closing options s id loose done (.closing n) s' →
      ∀ fd, (session.ends side).fd = some fd → s'.tables.Unused fd := by
    intro loose done n s' side hs' fd hfd
    exact (h.sound.consistent.tables.unused_remove hsession hfd).congr hs'.sessions
  unfold closeSession
  apply Runs.gets_bind
  rw [hsession]
  apply Runs.modify_bind (.single fun _ => hsound)
  apply Runs.bind (hclosing.detach (session.ends .client) (hlegal .client hclosing (by simp)))
  intro clientError s₁ _ h₁
  apply Runs.bind (h₁.close (session.ends .client).fd (by simp) (hunused .client h₁))
  rintro _ s₂ - ⟨rfl, h₂⟩
  have hapart : ∀ fd, (session.ends .backend).fd = some fd → fd ∉ (session.ends .client).fd.toList ++ [] := by
    intro fd hfd hmem
    simp only [List.append_nil, Option.mem_toList] at hmem
    exact h.sound.consistent.tables.ends_ne hsession hmem hfd rfl
  apply Runs.bind (h₂.detach (session.ends .backend) (hlegal .backend h₂ hapart))
  intro backendError s₃ _ h₃
  apply Runs.bind (h₃.close (session.ends .backend).fd (by simp) (hunused .backend h₃))
  rintro _ s₄ - ⟨rfl, h₄⟩
  rw [ensure_destroyFd_none]
  have hfds : ∀ fd ∈ (session.ends .backend).fd.toList ++ ((session.ends .client).fd.toList ++ []),
      ∃ side, (session.ends side).fd = some fd := by
    intro fd hfd
    simp only [List.append_nil, List.mem_append, Option.mem_toList] at hfd
    rcases hfd with hfd | hfd
    · exact ⟨.backend, hfd⟩
    · exact ⟨.client, hfd⟩
  have hdone : ∀ {s'}, Closing options s id _ _ .nothing s' → Sane options s' ∧ Without s id s' := fun h' =>
    ⟨h'.sane h hsession hfds (List.Subset.refl _) (List.Subset.refl _), h'.toWithout⟩
  apply (h₄.reportClosed _).mono
  · rintro e s' - ⟨hcallback, h'⟩
    exact ⟨hcallback, hdone h'⟩
  · intro _ s' _ h'
    exact hdone h'
  · split <;> split <;> rfl

/-- A session may be closed for a reason that claims nothing. -/
theorem Sound.closed_allowed (h : Sound options s) (hsession : s.tables.sessions.lookup id = some session)
    {reason : String} (hreason : reason ∉ reserved) :
    Allowed options s.log (.closed id reason fun side => (session.pending side).size) := by
  refine ⟨h.entries.mp (Finmap.mem_of_lookup_eq_some hsession), ?_, ?_⟩ <;> rintro rfl <;>
    exact absurd (by decide) hreason

theorem closed_next {reason : String} (hreason : reason ∉ reserved) (left : Side → ℕ) :
    Due.nothing.next (.closed id reason left) = some (.closing 0) := by
  have hexpiry : isExpiry reason = false := by
    simp only [reserved, List.mem_cons, List.not_mem_nil, or_false, not_or] at hreason
    simp [isExpiry, hreason]
  simp [Due.next, Due.start, hexpiry]

/-- A session is closed for a reason that claims nothing. -/
theorem serves_closeSession_of_reason (h : Sane options s) (hsession : s.tables.sessions.lookup id = some session)
    {reason : String} (hreason : reason ∉ reserved) (error : Errno) :
    Serves options (closeSession id reason error) s
      (fun e s' => (∃ exception, e = .callback exception) ∧ Sane options s' ∧ Without s id s')
      fun _ s' => Sane options s' ∧ Without s id s' :=
  serves_closeSession h.toSteady hsession h.due (closed_next hreason) (h.sound.closed_allowed hsession hreason)

/-- Sessions were closed; how far the stop has come is as it was. -/
structure Emptied (options : TcpReactorOptions) (s s' : TcpReactor) : Prop extends Sane options s' where
  /-- There are no sessions. -/
  empty : ∀ id, id ∉ s'.tables.sessions
  /-- How far the stop has come. -/
  stop : s'.stop = s.stop

/-- **All sessions are closed.** -/
theorem serves_closeAllSessions (h : Sane options s) {reason : String} (hreason : reason ∉ reserved) :
    Serves options (closeAllSessions reason) s
      (fun e s' => (∃ exception, e = .callback exception) ∧ Emptied options s s')
      fun _ s' => Emptied options s s' := by
  unfold closeAllSessions
  -- every pass closes one
  apply Runs.bind (Runs.loop (fun failure s' => Mild failure ∧ Sane options s' ∧ s'.stop = s.stop)
    (Q := fun failure s' => Mild failure ∧ Emptied options s s') _ ⟨mild_none, h, rfl⟩)
  · rintro failure s' - ⟨hfailure, hempty⟩
    cases failure with
    | none => exact Runs.pure hempty
    | some e => exact Runs.raise ⟨hfailure e rfl, hempty⟩
  · rintro failure s' ⟨hfailure, hsane, hstop⟩
    apply Runs.call_bind
    intro rank
    apply Runs.gets_bind
    cases hhead : (s'.tables.sessions.order rank).head? with
    | none =>
      refine Runs.pure ⟨hfailure, hsane, fun id hid => ?_, hstop⟩
      have hnil := List.head?_eq_none_iff.mp hhead
      have hmem : id ∈ s'.tables.sessions.order rank := Table.mem_order.mpr hid
      rw [hnil] at hmem
      cases hmem
    | some id =>
      obtain ⟨session, hsession⟩ := Finmap.mem_iff.mp (Table.mem_order.mp (List.mem_of_head? hhead))
      have hclose : Serves options (closeSession id reason 0) s'
          (fun e s'' => (∃ exception, e = .callback exception) ∧ Sane options s'' ∧ s''.stop = s.stop)
          fun _ s'' => Sane options s'' ∧ s''.stop = s.stop :=
        (serves_closeSession_of_reason hsane hsession hreason 0).mono
          (fun _ _ _ he => ⟨he.1, he.2.1, he.2.2.stop.trans hstop⟩) fun _ _ _ hq => ⟨hq.1, hq.2.stop.trans hstop⟩
      apply Runs.bind (serves_attemptTcpReport hfailure hclose)
      rintro failure' s'' - ⟨hfailure', hsane', hstop'⟩
      exact Runs.pure ⟨hfailure', hsane', hstop'⟩

end L4lb.Net.Tcp
