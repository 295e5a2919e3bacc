import L4lb.Net.TcpAccepting

/-!
# The event loop of the TCP reactor

What `runTcpEventLoop` does from one wait to the next keeps every session waiting for events
(`Poised`), and so every run of `runTcpReactor` records a legal history. A batch of events
tells of the listener once at most, and only if it was registered when the reactor waited
(`Heeds`).
-/

namespace L4lb.Net.Tcp

open Effect Prog

variable {options : TcpReactorOptions} {s s' : TcpReactor}

/-! ### The listener once more -/

/-- The listener is added to `epoll`. -/
theorem serves_addListener (h : Sound options s) (hdue : due s.log = some .nothing) (hcounted : AllCounted s.log)
    (hlive : s.stop.draining = false) (hlegal : DelFailed s.log ∨ s.tables.Legal .add s.listenerFd) :
    Serves options addListener s (Refused options s) fun _ s' => Sound options s' ∧
      s' = { (s.record (.attempted .listen none)).record
          (.epoll .add s.listenerFd (s.listenerFd.any (· ∈ s.tables.interests))) with
        tables := s.tables.control .add s.listenerFd 1 EPOLLIN } := by
  have hallowed : Allowed options s.log (.attempted .listen none) := ⟨hcounted, h.running hlive⟩
  have hattempted : due (.attempted .listen none :: s.log) = some .nothing := due_cons hdue _
  have hsound := h.plain (.attempted .listen none) trivial hallowed (by rw [hattempted]; rfl)
  have ha : Alike s (s.record (.attempted .listen none)) := .record trivial
  apply Runs.modify_bind (.single fun _ => hsound)
  apply Runs.gets_bind
  apply (serves_updateEpollRegistration hsound hattempted (hlegal.imp_left ha.failed)).mono
  · exact fun e s' _ he => ⟨he.sound, ha.trans he.alike, he.due, he.thrown⟩
  · exact fun _ s' _ hq => hq

/-- **The listener is registered again when its time has come.** -/
theorem Poised.resumeListener (h : Poised options s) (hlive : s.stop.draining = false) (now : Time) :
    Serves options (resumeListener now) s (Broken options) fun _ s' => Poised options s' ∧ Onward s s' := by
  apply Runs.gets_bind
  apply Runs.gets_bind
  apply Runs.when
  · rintro ⟨hdeferred, -⟩
    obtain ⟨fd, hfd⟩ := Option.ne_none_iff_exists'.mp (h.listening hlive)
    have hlegal : DelFailed s.log ∨ s.tables.Legal .add s.listenerFd := by
      refine h.tracked.imp_right fun htracked => ⟨fd, hfd, ?_⟩
      have hentry := htracked.listener hfd
      rw [if_pos hdeferred] at hentry
      simpa using Finmap.lookup_eq_none.mp hentry
    apply Runs.bind ((serves_addListener h.sound h.due h.counted hlive hlegal).mono
      (fun e s₁ _ he => he.broken h.toSteady) fun _ _ _ hq => hq)
    rintro - s₁ - ⟨hsound₁, hs₁⟩
    have hsound₂ : Sound options { s₁ with listenerDeferred := false } :=
      hsound₁.quiet hsound₁.consistent.tables (fun _ => rfl) rfl rfl rfl le_rfl le_rfl le_rfl hsound₁.clock
    have hlog : s.log <:+ s₁.log := by
      rw [hs₁]
      exact (List.suffix_cons _ _).trans (List.suffix_cons _ _)
    have hsteady₂ : Steady options { s₁ with listenerDeferred := false } := by
      apply h.toSteady.relisten hfd hsound₂
      · rw [hs₁, SessionTables.control_eq]
      · rw [hs₁, SessionTables.control_eq]
      · intro fd'
        rw [hs₁, hfd]
        show (s.tables.interests.insert fd (1, EPOLLIN)).lookup fd' = _
        by_cases hne : fd' = fd
        · rw [if_pos hne, hne, Finmap.lookup_insert]
          rfl
        · rw [if_neg hne, Finmap.lookup_insert_of_ne _ hne]
      · rw [hs₁]
        rfl
      · rw [hs₁]
        rfl
      · exact hlog
    apply Runs.modify (.single fun _ => hsound₂)
    constructor
    · apply h.aside ⟨hsteady₂, ?_⟩
      · rw [hs₁, SessionTables.control_eq]
      · rw [hs₁]
        rfl
      · intro connection
        rw [hs₁]
        exact (Plain.hear (by trivial) _ _).trans (Plain.hear (by trivial) _ _)
      · rw [hs₁]
        have hattempted : due (.attempted .listen none :: s.log) = some .nothing := due_cons h.due _
        exact due_cons hattempted _
    · refine ⟨⟨?_, fun _ hfailed => hfailed.suffix hlog⟩, fun hd => absurd hd.1 Bool.false_ne_true⟩
      rw [hs₁]
      exact id
  · exact fun _ => ⟨h, .refl s⟩

/-- **`processSessionDeadlines`.** -/
theorem Poised.processSessionDeadlines (h : Poised options s) :
    Serves options (processSessionDeadlines options) s (Broken options) fun _ s' =>
      Poised options s' ∧ Onward s s' := by
  apply Runs.gets_bind
  apply Runs.ite
  · exact fun _ => Runs.pure ⟨h, .refl s⟩
  · intro hstop
    rw [not_or] at hstop
    apply Runs.bind h.time
    rintro now s₁ - ⟨h₁, ha₁⟩
    have hlive₁ : s₁.stop.draining = false := by
      rw [ha₁.stop]
      exact Bool.eq_false_of_not_eq_true hstop.1
    apply Runs.bind (h₁.resumeListener hlive₁ now)
    rintro - s₂ - ⟨h₂, honward₂⟩
    apply Runs.call_bind
    intro rank
    apply Runs.gets_bind
    apply (h₂.deadlinePasses now _ (awaited_order s₂ rank)).post
    exact fun _ s₃ _ hq => ⟨hq.1, ha₁.onward.trans (honward₂.trans hq.2)⟩

/-! ### Batches of events -/

/-- The events to come tell of the listener once at most, and only if it is registered. -/
def Heeds (events : List (ℕ × EpollEvents)) (s : TcpReactor) : Prop :=
  s.stop.draining = false → DelFailed s.log ∨
    (events.map Prod.fst).count 1 ≤ 1 ∧ (1 ∈ events.map Prod.fst → ¬ s.Deferred)

theorem Heeds.onward {events : List (ℕ × EpollEvents)} (h : Heeds events s) (ho : Onward s s') : Heeds events s' := by
  intro hlive
  refine (h (ho.running hlive)).imp (ho.failed hlive) fun hlistener => ⟨hlistener.1, fun hmem hd => ?_⟩
  exact hlistener.2 hmem (ho.deferred hd)

/-- An event of the listener is the only one. -/
theorem Heeds.next {token : ℕ} {mask : EpollEvents} {rest : List (ℕ × EpollEvents)}
    (h : Heeds ((token, mask) :: rest) s) (hsince : Since s s') (honward : token ≠ 1 → Onward s s') : Heeds rest s' := by
  intro hlive
  refine (h (hsince.running hlive)).imp (hsince.failed hlive) fun ⟨hcount, hdeferred⟩ => ?_
  rw [List.map_cons, List.count_cons] at hcount
  refine ⟨by omega, fun hmem hd => ?_⟩
  have hpositive := List.one_le_count_iff.mpr hmem
  by_cases htoken : token = 1
  · simp only [htoken, beq_self_eq_true, if_true] at hcount
    omega
  · exact hdeferred (List.mem_cons_of_mem _ hmem) ((honward htoken).deferred hd)

/-- The tokens of the events are those of the descriptors that are ready. -/
theorem SessionTables.readyEvents_sublist (tables : SessionTables) (ready : List (ℕ × EpollEvents)) :
    ((tables.readyEvents ready).map Prod.fst).Sublist
      (ready.filterMap fun entry => (tables.interests.lookup entry.1).map Prod.fst) := by
  have hsame : (tables.readyEvents ready).map Prod.fst =
      (ready.filterMap fun entry => (tables.interests.lookup entry.1).map Prod.fst).take 128 := by
    rw [readyEvents, List.map_take, List.map_filterMap]
    congr 2
    funext entry
    show Option.map Prod.fst (Option.map _ (tables.interests.lookup entry.1)) = _
    cases tables.interests.lookup entry.1 <;> rfl
  rw [hsame]
  exact List.take_sublist _ _

/-- **What `epoll_wait` returns tells of the listener once at most.** -/
theorem Poised.heeds (h : Poised options s) {ready : List (ℕ × EpollEvents)} (hready : (ready.map Prod.fst).Nodup) :
    Heeds (s.tables.readyEvents ready) s := by
  intro hlive
  refine h.tracked.imp_right fun htracked => ?_
  obtain ⟨fd, hfd⟩ := Option.ne_none_iff_exists'.mp (h.listening hlive)
  -- what has its token is the listener
  have hlisten : ∀ {fd' token mask}, s.tables.interests.lookup fd' = some (token, mask) → token = 1 →
      fd' = fd ∧ s.listenerDeferred = false := by
    rintro fd' token mask hentry rfl
    have halone := htracked.alone hentry
    have hlistener := htracked.listener halone
    rw [hentry] at hlistener
    refine ⟨Option.some.inj (halone.symm.trans hfd), ?_⟩
    by_contra hdeferred
    rw [if_pos (Bool.eq_true_of_not_eq_false hdeferred)] at hlistener
    cases hlistener
  have htaken := s.tables.readyEvents_sublist ready
  constructor
  · apply (htaken.count_le 1).trans
    rw [List.count_eq_countP, List.countP_filterMap]
    apply le_trans _ (List.nodup_iff_count_le_one.mp hready fd)
    rw [List.count_eq_countP, List.countP_map]
    apply List.countP_mono_left
    rintro entry - hentry
    cases hlookup : s.tables.interests.lookup entry.1 with
    | none =>
      rw [hlookup] at hentry
      cases hentry
    | some registered =>
      rw [hlookup] at hentry
      have htoken : registered.1 = 1 := by simpa using hentry
      simpa using (hlisten hlookup htoken).1
  · intro hmem hd
    obtain ⟨entry, -, hentry⟩ := List.mem_filterMap.mp (htaken.subset hmem)
    obtain ⟨registered, hlookup, htoken⟩ := Option.map_eq_some_iff.mp hentry
    have hlistened := (hlisten hlookup htoken).2
    rw [TcpReactor.Deferred, hlistened] at hd
    cases hd.1

/-- **What is done about an event.** -/
theorem Poised.dispatchTcpReadyEvent (h : Poised options s) (token : ℕ) (mask : EpollEvents)
    (hlistened : token = 1 → s.stop.draining = false → ¬ s.Deferred) :
    Serves options (dispatchTcpReadyEvent options token mask) s (Broken options) fun _ s' =>
      Poised options s' ∧ Since s s' ∧ (token ≠ 1 → Onward s s') := by
  apply Runs.ite
  · intro htoken
    apply Runs.gets_bind
    apply Runs.ite
    · exact fun _ => Runs.pure ⟨h, .refl s, fun _ => .refl s⟩
    · intro hdraining
      have hlive := Bool.eq_false_of_not_eq_true hdraining
      apply Runs.ite
      · exact fun _ => Runs.raise (broken_of_system h.toSane)
      · intro _
        apply Runs.bind h.time
        rintro time s₁ - ⟨h₁, ha₁⟩
        apply Runs.gets_bind
        apply Runs.when
        · intro _
          apply (h₁.acceptClientSessions fun hd => hlistened htoken hlive (ha₁.deferred hd)).post
          exact fun _ s₂ _ hq => ⟨hq.1, ha₁.onward.toSince.trans hq.2, fun hne => absurd htoken hne⟩
        · exact fun _ => ⟨h₁, ha₁.onward.toSince, fun _ => ha₁.onward⟩
  · intro _
    apply Runs.ite
    · intro _
      apply (h.dispatchEndpointEvent token mask).post
      exact fun _ s₁ _ hq => ⟨hq.1, hq.2.toSince, fun _ => hq.2⟩
    · exact fun _ => Runs.pure ⟨h, .refl s, fun _ => .refl s⟩

/-- **`dispatchTcpReadyEvents`**: all the events, or those before a stop. -/
theorem Poised.dispatchTcpReadyEvents (h : Poised options s) {events : List (ℕ × EpollEvents)} (hheeds : Heeds events s) :
    Serves options (dispatchTcpReadyEvents options events) s (Broken options) fun _ s' => Poised options s' := by
  apply Runs.forEach_rest (Q := fun s' => Poised options s') (fun rest s' => Poised options s' ∧ Heeds rest s') events ?_
    (fun s' h' => h'.1) ⟨h, hheeds⟩
  rintro ⟨token, mask⟩ rest s₁ ⟨h₁, hheeds₁⟩
  apply Runs.bind h₁.consume
  rintro - s₂ - ⟨h₂, hc₂, -⟩
  have hheeds₂ := hheeds₁.onward hc₂.onward
  apply Runs.gets_bind
  apply Runs.ite
  · exact fun _ => Runs.pure h₂
  · intro _
    have hlistened : token = 1 → s₂.stop.draining = false → ¬ s₂.Deferred := by
      rintro rfl hlive hd
      rcases hheeds₂ hlive with hfailed | ⟨-, hdeferred⟩
      · exact hd.2 hfailed
      · exact hdeferred List.mem_cons_self hd
    apply Runs.bind (h₂.dispatchTcpReadyEvent token mask hlistened)
    rintro - s₃ - ⟨h₃, hsince₃, honward₃⟩
    exact Runs.pure ⟨h₃, hheeds₂.next hsince₃ honward₃⟩

/-! ### The loop -/

/-- A callback that may throw. -/
theorem Poised.runCallback (h : Poised options s) (answer : Option ℕ) :
    Serves options (runCallback answer) s (Broken options) fun _ s' => Poised options s' ∧ Onward s s' := by
  cases answer with
  | none => exact Runs.pure ⟨h, .refl s⟩
  | some exception => exact Runs.raise (broken_of_callback h.toSane ⟨exception, rfl⟩)

/-- What is done before the reactor waits; it returns when there is no session left to drain. -/
theorem Poised.beforePoll (h : Poised options s) :
    Serves options (beforePoll options) s (Broken options) fun finished s' => Poised options s' ∧
      (finished = true → Table.size s'.tables.sessions = 0) := by
  apply Runs.gets_bind
  apply Runs.ite
  · intro hdraining
    apply Runs.bind (h.advanceStopDrain hdraining)
    rintro - s₁ - h₁
    exact Runs.gets ⟨h₁, fun hsize => of_decide_eq_true hsize⟩
  · intro _
    apply Runs.bind h.processSessionDeadlines
    rintro - s₁ - ⟨h₁, -⟩
    exact Runs.pure ⟨h₁, nofun⟩

/-- How long the reactor waits. -/
theorem Poised.pollTimeout (h : Poised options s) :
    Serves options pollTimeout s (Broken options) fun _ s' => Poised options s' := by
  apply Runs.gets_bind
  apply Runs.ite
  · intro _
    apply Runs.bind h.time
    rintro time s₁ - ⟨h₁, -⟩
    apply Runs.gets_bind
    exact Runs.pure h₁
  · exact fun _ => Runs.pure h

/-- What is done after the reactor waited. -/
theorem Poised.afterPoll (h : Poised options s) :
    Serves options (afterPoll options) s (Broken options) fun _ s' => Poised options s' ∧ Onward s s' := by
  apply Runs.gets_bind
  apply Runs.ite
  · exact fun _ => Runs.pure ⟨h, .refl s⟩
  · intro _
    apply Runs.bind h.processSessionDeadlines
    rintro - s₁ - ⟨h₁, honward₁⟩
    apply Runs.gets_bind
    apply Runs.ite
    · exact fun _ => Runs.pure ⟨h₁, honward₁⟩
    · intro hdraining
      have hallowed : Allowed options s₁.log (.attempted .maintain none) :=
        ⟨h₁.counted, h₁.sound.running (Bool.eq_false_of_not_eq_true hdraining)⟩
      have ha₂ : Alike s₁ (s₁.record (.attempted .maintain none)) := .record trivial
      have h₂ := h₁.alike ha₂ (h₁.toSane.record trivial hallowed rfl)
      apply Runs.modify_bind (.single fun _ => h₂.sound)
      apply Runs.call_bind
      intro answer
      apply (h₂.runCallback answer).post
      exact fun _ s₃ _ hq => ⟨hq.1, honward₁.trans (ha₂.onward.trans hq.2)⟩

/-- **Whenever the reactor waits, every session will be woken.** -/
theorem Poised.polled (h : Poised options s) : Poised options (s.record (.polled s.tables s.stop.draining)) := by
  refine h.alike (.record trivial) (h.toSane.record trivial ⟨h.sound.living, fun hlive => ?_⟩ rfl)
  refine ⟨h.sound.running hlive, h.tracked.imp_right Tracked.registered, fun id session hsession => ?_⟩
  exact (h.resting hsession).rest hlive

/-- **A pass of the event loop**: there is to be another, or no session is left. -/
theorem Poised.tcpEventPass (h : Poised options s) :
    Serves options (tcpEventPass options ()) s (Broken options) fun result s' =>
      match result with
      | .inl _ => Poised options s'
      | .inr _ => Sane options s' ∧ ∀ id, id ∉ s'.tables.sessions := by
  apply Runs.bind h.consume
  rintro - s₁ - ⟨h₁, -, -⟩
  apply Runs.gets_bind
  apply Runs.ite
  · intro _
    apply Runs.bind ((serves_closeAllSessions h₁.toSane h₁.sound.consistent.reason).mono
      (fun e s₂ _ he => broken_of_callback he.2.toSane he.1) fun _ _ _ hq => hq)
    rintro - s₂ - hempty
    exact Runs.pure ⟨hempty.toSane, hempty.empty⟩
  · intro _
    apply Runs.bind h₁.beforePoll
    rintro finished s₂ - ⟨h₂, hfinished⟩
    apply Runs.ite
    · exact fun hdone => Runs.pure ⟨h₂.toSane, Table.notMem_of_size_eq_zero (hfinished hdone)⟩
    · intro _
      apply Runs.bind h₂.pollTimeout
      rintro timeout s₃ - h₃
      apply Runs.bind (h₃.report _ _ _ _)
      rintro - s₄ - ⟨h₄, -⟩
      have h₅ := h₄.polled
      apply Runs.modify_bind (.single fun _ => h₅.sound)
      generalize s₄.record (.polled s₄.tables s₄.stop.draining) = s₅ at h₅ ⊢
      apply Runs.call_bind
      intro answer
      cases answer with
      | error error =>
        apply Runs.ite
        · exact fun _ => Runs.pure h₅
        · exact fun _ => Runs.raise (broken_of_system h₅.toSane)
      | ok ready =>
        apply Runs.gets_bind
        have hheeds₅ := h₅.heeds ready.property
        apply Runs.bind h₅.consume
        rintro - s₆ - ⟨h₆, hc₆, -⟩
        apply Runs.gets_bind
        apply Runs.ite
        · exact fun _ => Runs.pure h₆
        · intro _
          apply Runs.bind h₆.afterPoll
          rintro - s₇ - ⟨h₇, honward₇⟩
          apply Runs.bind (h₇.dispatchTcpReadyEvents ((hheeds₅.onward hc₆.onward).onward honward₇))
          rintro - s₈ - h₈
          exact Runs.pure h₈

/-- No session is left, and so no token. -/
theorem Sane.returned (h : Sane options s) (hempty : ∀ id, id ∉ s.tables.sessions) :
    Sane options (s.record (.returned (Table.size s.tables.sessions) s.tables.tokens.size)) := by
  refine h.record trivial ⟨Table.size_eq_zero hempty, Table.size_eq_zero fun token hmem => ?_⟩ rfl
  obtain ⟨target, htarget⟩ := Finmap.mem_iff.mp hmem
  obtain ⟨session, hsession, -⟩ := h.sound.consistent.tables.token htarget
  exact hempty _ (Finmap.mem_of_lookup_eq_some hsession)

/-- **`runTcpEventLoop`.** -/
theorem Poised.runTcpEventLoop (h : Poised options s) :
    Serves options (runTcpEventLoop options) s (Broken options) fun _ s' => Sane options s' := by
  apply Runs.call_bind
  intro answer
  apply Runs.bind (h.runCallback answer)
  rintro - s₁ - ⟨h₁, -⟩
  apply Runs.bind (Q := fun _ s' => Sane options s' ∧ ∀ id, id ∉ s'.tables.sessions)
  · apply Runs.loop (fun _ s' => Poised options s') _ h₁
    rintro - s' h'
    apply h'.tcpEventPass.post
    rintro (_ | _) s'' - hq
    · exact hq
    · exact hq
  rintro result s₂ - ⟨h₂, hempty⟩
  have h₃ := h₂.returned hempty
  apply Runs.modify_bind (.single fun _ => h₃.sound)
  exact Runs.pure h₃

/-! ### From the constructor to the destructor -/

variable (options) in
/-- There are no sessions. -/
structure Vacant (s : TcpReactor) : Prop where
  /-- The state is sound. -/
  sound : Sound options s
  /-- Nothing is due. -/
  due : Tcp.due s.log = some .nothing
  /-- There are no sessions. -/
  empty : ∀ id, id ∉ s.tables.sessions

theorem Vacant.unused (h : Vacant options s) (fd : ℕ) : s.tables.Unused fd :=
  fun id _ _ hsession => absurd (Finmap.mem_of_lookup_eq_some hsession) (h.empty id)

/-- What is not the session's is as it was. -/
theorem Vacant.alike (h : Vacant options s) (ha : Alike s s') (hs : Sound options s')
    (hdue : Tcp.due s'.log = some .nothing) : Vacant options s' :=
  ⟨hs, hdue, by rw [ha.tables]; exact h.empty⟩

variable (options) in
/-- What is left when the whole run throws. -/
structure Undone (e : TcpError) (s : TcpReactor) : Prop extends Vacant options s where
  /-- It is no error of the program. -/
  sensible : e.Sensible

theorem Vacant.undone {e : TcpError} (h : Vacant options s) (he : Refused options s e s') : Undone options e s' := by
  obtain ⟨operation, error, rfl⟩ := he.thrown
  exact ⟨h.alike he.alike he.sound he.due, nofun, nofun⟩

/-- The descriptors are closed. -/
theorem Vacant.closeMembers (h : Vacant options s) (fds : List (Option ℕ)) {E : TcpError → TcpReactor → Prop} :
    Serves options (closeMembers fds) s E fun _ s' => Vacant options s' := by
  apply Runs.forEach (fun s' => Vacant options s') fds _ h
  rintro fd - s₁ h₁
  have hclosed : Vacant options (s₁.close fd) := by
    cases fd with
    | none => exact h₁
    | some fd =>
      have hunused := h₁.unused fd
      refine ⟨?_, h₁.due, h₁.empty⟩
      exact h₁.sound.quiet (h₁.sound.consistent.tables.release hunused) (SessionTables.circuit_release hunused) rfl rfl rfl
        le_rfl le_rfl le_rfl h₁.sound.clock
  rw [destroyFd_eq]
  apply Runs.modify_bind (.single fun _ => hclosed.sound)
  exact Runs.pure hclosed

/-- **The destructor leaves no session.** -/
theorem Sane.destroyTcpReactor (h : Sane options s) {E : TcpError → TcpReactor → Prop} :
    Serves options destroyTcpReactor s E fun _ s' => Vacant options s' := by
  have hclosed : Serves options (handle (closeAllSessions "service-error") fun _ => pure ()) s E fun _ s' =>
      Vacant options s' := by
    apply Runs.handle (E := fun _ s' => Vacant options s')
    · apply (serves_closeAllSessions h (by decide)).mono
      · exact fun e s' _ he => ⟨he.2.sound, he.2.due, he.2.empty⟩
      · exact fun _ s' _ hq => ⟨hq.sound, hq.due, hq.empty⟩
    · exact fun e s' _ he => Runs.pure he
  apply Runs.bind hclosed
  rintro - s₁ - h₁
  apply Runs.gets_bind
  exact h₁.closeMembers _

variable (options) in
/-- While the reactor is made. -/
structure Blank (s : TcpReactor) : Prop extends Vacant options s where
  /-- All is counted. -/
  counted : AllCounted s.log
  /-- The service is not stopping. -/
  live : s.stop.draining = false
  /-- The listener is not deferred. -/
  undeferred : s.listenerDeferred = false
  /-- Nothing is registered. -/
  interests : s.tables.interests = ∅

theorem consistent_empty : ({} : SessionTables).Consistent := by
  constructor <;> simp

/-- **What a reactor begins with.** -/
theorem blank_empty : Blank options {} := by
  have hempty : ∀ id, id ∉ (∅ : Table ℕ Session) := fun id => Finmap.notMem_empty
  have hsound : Sound options {} := by
    constructor
    · exact ⟨consistent_empty, fun h => absurd h List.not_mem_nil, fun h => absurd h List.not_mem_nil, by decide⟩
    · trivial
    · simp [Stopping]
    · exact fun h => absurd h List.not_mem_nil
    · simp
    · intro id circuit hcircuit
      simp [SessionTables.circuit] at hcircuit
    · intro id
      constructor
      · exact fun hid => absurd hid (hempty id)
      · exact fun hgoing => absurd hgoing.begun.choose_spec List.not_mem_nil
    · exact congrArg Nat.cast Table.size_empty
    · exact Table.size_empty.le.trans (Nat.zero_le _)
    · exact le_rfl
  exact ⟨⟨hsound, rfl, hempty⟩, fun _ => rfl, rfl, rfl, rfl⟩

theorem Blank.install (h : Blank options s) {fd : ℕ} (hfd : fd ∉ s.tables.descriptors) {descriptor : TcpDescriptor}
    (hserial : ∀ connection, descriptor = .connection connection → connection.serial = s.tables.connections) :
    Blank options { s with tables := s.tables.install fd descriptor } :=
  ⟨⟨h.sound.install hfd hserial, h.due, h.empty⟩, h.counted, h.live, h.undeferred, h.interests⟩

/-- A call that throws when it fails. -/
theorem Vacant.check_bind {α : Type} (h : Vacant options s) {operation : String} {result : Except Errno Unit}
    {f : Unit → TcpM α} {Q : α → TcpReactor → Prop} (hf : Serves options (f ()) s (Undone options) Q) :
    Serves options (check operation result >>= f) s (Undone options) Q := by
  cases result with
  | ok => exact Runs.pure_bind hf
  | error error => exact Runs.bind (Runs.raise ⟨h, nofun, nofun⟩) fun _ _ _ hq => hq

/-- **The listener begins to listen.** -/
theorem Blank.setupListener (h : Blank options s) {signalFd listenerFd : ℕ} (hlistener : s.listenerFd = some listenerFd)
    (hopen : s.tables.descriptors.lookup listenerFd = some .listener) (hsignal : signalFd ∈ s.tables.descriptors)
    (hne : signalFd ≠ listenerFd) :
    Serves options (setupListener signalFd listenerFd) s (Undone options) fun _ s' =>
      Poised options s' := by
  apply Runs.call_bind
  intro reused
  apply h.check_bind
  apply Runs.call_bind
  intro bound
  apply h.check_bind
  apply Runs.call_bind
  intro listening
  apply h.check_bind
  have hlegal : DelFailed s.log ∨ s.tables.Legal .add s.listenerFd := by
    refine .inr ⟨listenerFd, hlistener, ?_⟩
    simp [h.interests, Finmap.notMem_empty]
  apply Runs.bind ((serves_addListener h.sound h.due h.counted h.live hlegal).mono
    (fun e s' _ he => h.undone he) fun _ _ _ hq => hq)
  rintro - s₁ - ⟨hsound₁, hs₁⟩
  have hattempted : Tcp.due (.attempted .listen none :: s.log) = some .nothing := due_cons h.due _
  have hdue₁ : Tcp.due s₁.log = some .nothing := by
    rw [hs₁]
    exact due_cons hattempted _
  have htables₁ : s₁.tables = { s.tables with interests := s.tables.interests.insert listenerFd (1, EPOLLIN) } := by
    rw [hs₁, hlistener]
    rfl
  have hempty₁ : Vacant options s₁ := ⟨hsound₁, hdue₁, by rw [htables₁]; exact h.empty⟩
  have hunknown : signalFd ∉ s₁.tables.interests := by
    rw [htables₁]
    simp [h.interests, hne, Finmap.notMem_empty]
  apply (serves_updateEpollRegistration hsound₁ hdue₁ (.inr ⟨signalFd, rfl, by simp [hunknown]⟩)).mono
  · exact fun e s' _ he => hempty₁.undone he
  · rintro - s₂ - ⟨hsound₂, hs₂⟩
    have htables₂ : s₂.tables = { s.tables with
        interests := (s.tables.interests.insert listenerFd (1, EPOLLIN)).insert signalFd (2, EPOLLIN) } := by
      rw [hs₂]
      show s₁.tables.control .add (some signalFd) 2 EPOLLIN = _
      rw [htables₁]
      rfl
    have hlistener₂ : s₂.listenerFd = s.listenerFd := by rw [hs₂, hs₁]; rfl
    have hdeferred₂ : s₂.listenerDeferred = false := by rw [hs₂, hs₁, ← h.undeferred]; rfl
    have hsessions₂ : s₂.tables.sessions = s.tables.sessions := by rw [htables₂]
    have hnone : ∀ {id session}, s₂.tables.sessions.lookup id ≠ some session := by
      intro id session hsession
      rw [hsessions₂] at hsession
      exact h.empty id (Finmap.mem_of_lookup_eq_some hsession)
    have hinterests : ∀ {fd entry}, s₂.tables.interests.lookup fd = some entry →
        fd = signalFd ∧ entry = (2, EPOLLIN) ∨ fd = listenerFd ∧ entry = (1, EPOLLIN) := by
      intro fd entry hentry
      rw [htables₂] at hentry
      by_cases hfd : fd = signalFd
      · rw [hfd, Finmap.lookup_insert] at hentry
        exact .inl ⟨hfd, (Option.some.inj hentry).symm⟩
      · rw [Finmap.lookup_insert_of_ne _ hfd] at hentry
        by_cases hfd' : fd = listenerFd
        · rw [hfd', Finmap.lookup_insert] at hentry
          exact .inr ⟨hfd', (Option.some.inj hentry).symm⟩
        · rw [Finmap.lookup_insert_of_ne _ hfd', h.interests] at hentry
          cases hentry
    have hdescriptors₂ : s₂.tables.descriptors = s.tables.descriptors := by rw [htables₂]
    have hlistening : ∀ {fd}, s₂.listenerFd = some fd → fd = listenerFd := by
      intro fd hfd
      rw [hlistener₂, hlistener] at hfd
      exact (Option.some.inj hfd).symm
    have htracked : Tracked s₂ := by
      constructor
      · exact fun id session side fd hsession => absurd hsession hnone
      · exact fun hsession => absurd hsession hnone
      · intro fd hfd
        rw [hlistening hfd, hdeferred₂, htables₂]
        exact (Finmap.lookup_insert_of_ne _ hne.symm).trans (Finmap.lookup_insert _)
      · intro fd hfd
        obtain ⟨entry, hentry⟩ := Finmap.mem_iff.mp hfd
        rw [hdescriptors₂]
        rcases hinterests hentry with ⟨rfl, -⟩ | ⟨rfl, -⟩
        · exact hsignal
        · exact Finmap.mem_of_lookup_eq_some hopen
      · intro fd mask hentry
        rw [hlistener₂, hlistener]
        rcases hinterests hentry with ⟨-, hentry'⟩ | ⟨rfl, -⟩
        · cases hentry'
        · rfl
    refine ⟨⟨⟨⟨hsound₂, fun hfd => ?_, fun _ => ?_, .inr htracked⟩, ?_⟩, fun c => ?_⟩, fun hsession => absurd hsession hnone⟩
    · rw [hlistening hfd, hdescriptors₂, hopen]
    · rw [hlistener₂, hlistener]
      exact Option.some_ne_none _
    · rw [hs₂]
      exact due_cons hdue₁ _
    · rw [hs₂, hs₁]
      exact h.counted c

/-- A descriptor of the reactor is opened, or not. -/
theorem Blank.installDescriptor (h : Blank options s) {descriptor : TcpDescriptor}
    (hdescriptor : ∀ connection, descriptor ≠ .connection connection) (answer : Except Errno ℕ)
    {E : TcpError → TcpReactor → Prop} :
    Serves options (installDescriptor (fun _ => descriptor) answer) s E fun result s' => Blank options s' ∧
      (∀ fd, fd ∈ s.tables.descriptors → fd ∈ s'.tables.descriptors) ∧
      ∀ fd, result = .ok fd → fd ∉ s.tables.descriptors ∧ s'.tables.descriptors.lookup fd = some descriptor := by
  apply (serves_installDescriptor h.sound (fun _ connection hc => absurd hc (hdescriptor connection)) answer).post
  rintro (error | fd) s' - hresult
  · obtain rfl := hresult
    exact ⟨h, fun _ hfd => hfd, nofun⟩
  · obtain ⟨hfd, rfl⟩ := hresult
    refine ⟨h.install hfd fun connection hc => absurd hc (hdescriptor connection), fun fd' hfd' => ?_, ?_⟩
    · exact Finmap.mem_insert.mpr (.inr hfd')
    · rintro _ heq
      obtain rfl := Except.ok.inj heq
      exact ⟨hfd, Finmap.lookup_insert _⟩

/-- **The constructor**: the reactor is ready to run, or nothing is left. -/
theorem Blank.constructTcpReactor (h : Blank options s) :
    Serves options constructTcpReactor s (Undone options) fun _ s' => Poised options s' := by
  apply Runs.call_bind
  intro masked
  apply h.check_bind
  apply Runs.call_bind
  intro signalAnswer
  apply Runs.bind (h.installDescriptor (by simp) signalAnswer)
  rintro signal s₁ - ⟨h₁, -, hsignal⟩
  apply Runs.call_bind
  intro epollAnswer
  apply Runs.bind (h₁.installDescriptor (by simp) epollAnswer)
  rintro epoll s₂ - ⟨h₂, hkept₂, -⟩
  apply Runs.call_bind
  intro listenerAnswer
  apply Runs.bind (h₂.installDescriptor (by simp) listenerAnswer)
  rintro listener s₃ - ⟨h₃, hkept₃, hlistener⟩
  apply Runs.handle (E := Undone options)
  · cases signal with
    | error error => exact Runs.raise ⟨h₃.toVacant, nofun, nofun⟩
    | ok signalFd =>
      cases epoll with
      | error error => exact Runs.raise ⟨h₃.toVacant, nofun, nofun⟩
      | ok epollFd =>
        cases listener with
        | error error => exact Runs.raise ⟨h₃.toVacant, nofun, nofun⟩
        | ok listenerFd =>
          obtain ⟨hnew, hopen⟩ := hlistener listenerFd rfl
          have hthere := hkept₂ signalFd (Finmap.mem_of_lookup_eq_some (hsignal signalFd rfl).2)
          have hne : signalFd ≠ listenerFd := by
            rintro rfl
            exact hnew hthere
          have hsound : Sound options { s₃ with signalFd, epollFd, listenerFd := some listenerFd } :=
            h₃.sound.quiet h₃.sound.consistent.tables (fun _ => rfl) rfl rfl rfl le_rfl le_rfl le_rfl h₃.sound.clock
          have h₄ : Blank options { s₃ with signalFd, epollFd, listenerFd := some listenerFd } :=
            ⟨⟨hsound, h₃.due, h₃.empty⟩, h₃.counted, h₃.live, h₃.undeferred, h₃.interests⟩
          apply Runs.modify_bind (.single fun _ => hsound)
          exact h₄.setupListener rfl hopen (hkept₃ signalFd hthere) hne
  · rintro e s₄ - h₄
    apply Runs.bind (h₄.toVacant.closeMembers _)
    exact fun _ s₅ _ h₅ => Runs.raise ⟨h₅, h₄.sensible⟩

/-- **Every run of `runTcpReactor`**: the state is sound all along, and no session is left. -/
theorem serves_runTcpReactor (options : TcpReactorOptions) :
    Serves options (runTcpReactor options) {} (Undone options) fun _ s' => Vacant options s' := by
  have hblank : Blank options {} := blank_empty
  apply Runs.ite
  · exact fun _ => Runs.raise ⟨hblank.toVacant, nofun, nofun⟩
  · intro _
    apply Runs.bind hblank.constructTcpReactor
    rintro - s₁ - h₁
    apply Runs.ensure h₁.runTcpEventLoop
    · exact fun _ s₂ _ h₂ => h₂.destroyTcpReactor
    · exact fun e s₂ _ h₂ => h₂.toSane.destroyTcpReactor.post fun _ _ _ hq => ⟨hq, h₂.sensible⟩

/-- The state at a point of a run: when the answers of a script are used up, or the run is over. -/
def reached (options : TcpReactorOptions) (script : List (Answerer TcpCall TcpAnswer)) : TcpReactor :=
  (runTcpReactor options ⟨script, {}⟩).2.state

/-- **The state is sound at every point of every run.** -/
theorem sound_reached (options : TcpReactorOptions) (script : List (Answerer TcpCall TcpAnswer)) :
    Sound options (reached options script) :=
  (serves_runTcpReactor options).invariant blank_empty.sound (fun _ _ h => h) script

end L4lb.Net.Tcp
