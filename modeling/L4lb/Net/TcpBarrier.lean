import L4lb.Net.TcpLoop

/-!
# After the first stop signal

The first stop signal is a barrier: whichever call reads it, nothing begins after it, what is
sent after it was queued when it was read, and it is not put off.
-/

namespace L4lb.Net.Tcp

variable {options : TcpReactorOptions} {log before after : List TcpEvent} {event : TcpEvent} {id id' : ℕ}
  {c c' : Connection}

/-! ### Connections and sessions -/

/-- A connection is that of one session. -/
theorem Legal.attached_unique (h : Legal options log) (hc : .attached id (some c) ∈ log)
    (hc' : .attached id' (some c) ∈ log) : id = id' := by
  induction log with
  | nil => cases hc
  | cons event log ih =>
    obtain ⟨hallowed, -, hlegal⟩ := h
    have hfresh : ∀ {id₁ id₂}, event = .attached id₁ (some c) → .attached id₂ (some c) ∉ log := by
      rintro id₁ id₂ rfl hmem
      obtain ⟨-, c₁, hc₁, hfresh⟩ := hallowed
      obtain rfl := Option.some.inj hc₁
      exact hfresh.unattached id₂ hmem
    rcases List.mem_cons.mp hc with heq | hmem <;> rcases List.mem_cons.mp hc' with heq' | hmem'
    · exact (TcpEvent.attached.inj (heq.trans heq'.symm)).1
    · exact absurd hmem' (hfresh heq.symm)
    · exact absurd hmem (hfresh heq'.symm)
    · exact ih hlegal hmem hmem'

/-- A session has one connection to a side. -/
theorem Legal.end_unique (h : Legal options log) (hc : .attached id (some c) ∈ log)
    (hc' : .attached id (some c') ∈ log) (hside : c.side = c'.side) : c = c' := by
  induction log with
  | nil => cases hc
  | cons event log ih =>
    obtain ⟨hallowed, -, hlegal⟩ := h
    have hfresh : ∀ {c₁ c₂ : Connection}, event = .attached id (some c₁) → .attached id (some c₂) ∈ log →
        c₁.side ≠ c₂.side := by
      rintro c₁ c₂ rfl hmem hside
      obtain ⟨-, c₃, hc₃, hfresh⟩ := hallowed
      obtain rfl := Option.some.inj hc₃
      cases hclient : c₁.side with
      | client => exact Nat.lt_irrefl id (hfresh.client hclient id (some c₂) hmem)
      | backend =>
        obtain ⟨c₄, hc₄, hclient'⟩ := (hfresh.backend hclient).2 (some c₂) hmem
        obtain rfl := Option.some.inj hc₄
        rw [hside, hclient'] at hclient
        cases hclient
    rcases List.mem_cons.mp hc with heq | hmem <;> rcases List.mem_cons.mp hc' with heq' | hmem'
    · exact Option.some.inj (TcpEvent.attached.inj (heq.trans heq'.symm)).2
    · exact absurd hside (hfresh heq.symm hmem')
    · exact absurd hside.symm (hfresh heq'.symm hmem)
    · exact ih hlegal hmem hmem'

/-- The other end of a connection is one connection. -/
theorem Legal.joins_unique (h : Legal options log) {c'' : Connection} (hj : Joins log id c c') (hj' : Joins log id' c c'') :
    id' = id ∧ c'' = c' := by
  obtain rfl := h.attached_unique hj'.here hj.here
  exact ⟨rfl, h.end_unique hj'.there hj.there (hj'.across.trans hj.across.symm)⟩

/-! ### What follows the barrier -/

/-- An event that begins something: a connection or a byte comes in, a backend is selected or
connected, the listener is registered, or the service is maintained. -/
def TcpEvent.Begins : TcpEvent → Prop
  | .attempted what _ => what = .accept ∨ what = .select ∨ what = .connect ∨ what = .receive ∨
    what = .maintain ∨ what = .listen
  | .attached _ _ | .received _ _ | .barrier _ _ => True
  | _ => False

theorem Stopping.mono (h : Stopping before) (hs : before <:+ log) : Stopping log := by
  obtain ⟨sessions, deadline, hmem⟩ := h
  exact ⟨sessions, deadline, hs.subset hmem⟩

/-- Nothing begins once the service is stopping. -/
theorem Legal.not_begins (h : Legal options log) (hs : event :: before <:+ log) (hstopping : Stopping before) :
    ¬ event.Begins := by
  have hallowed := h.allowed hs
  intro hbegins
  cases event with
  | attempted what connection =>
    have hnot : ¬ Stopping before := by
      rcases hbegins with rfl | rfl | rfl | rfl | rfl | rfl
      · exact hallowed.2
      · exact hallowed.2
      · exact hallowed.2
      · exact hallowed.2.1
      · exact hallowed.2
      · exact hallowed.2
    exact hnot hstopping
  | attached | received | barrier => exact hallowed.1 hstopping
  | _ => exact hbegins

/-- Nothing is received once the service is stopping. -/
theorem Legal.received_eq (h : Legal options (after ++ before)) (hstopping : Stopping before) (c : Connection) :
    (hear (after ++ before) (some c)).received = (hear before (some c)).received := by
  induction after with
  | nil => rfl
  | cons event after ih =>
    have hnot := h.not_begins (List.suffix_refl _) (hstopping.mono (List.suffix_append after before))
    rw [List.cons_append, hear_cons, Heard.received_after, ih h.2.2]
    rintro bytes rfl
    exact hnot trivial

/-- No session begins, or gets its backend, once the service is stopping. -/
theorem Legal.joins_before (h : Legal options (after ++ before)) (hstopping : Stopping before)
    (hj : Joins (after ++ before) id c c') : Joins before id c c' := by
  induction after with
  | nil => exact hj
  | cons event after ih =>
    have hnot := h.not_begins (List.suffix_refl _) (hstopping.mono (List.suffix_append after before))
    have hearlier : ∀ {connection}, .attached id connection ∈ event :: (after ++ before) →
        .attached id connection ∈ after ++ before := by
      intro connection hmem
      rcases List.mem_cons.mp hmem with rfl | hmem
      · exact absurd trivial hnot
      · exact hmem
    exact ih h.2.2 ⟨hearlier hj.here, hearlier hj.there, hj.across,
      fun reason left hclosed => hj.going reason left (List.mem_cons_of_mem _ hclosed)⟩

/-- What is sent to a connection once the service is stopping was received before, from the
other end of its session. -/
theorem Legal.sent_append (h : Legal options (after ++ before)) (hstopping : Stopping before) (c : Connection) :
    ∃ bytes, (hear (after ++ before) (some c)).sent = (hear before (some c)).sent ++ bytes ∧
      (bytes = [] ∨ ∃ id c', Joins before id c c' ∧
        (hear before (some c)).sent ++ bytes <+: (hear before (some c')).received) := by
  induction after with
  | nil => exact ⟨[], (List.append_nil _).symm, .inl rfl⟩
  | cons event after ih =>
    obtain ⟨bytes, hsent, hbytes⟩ := ih h.2.2
    by_cases hmore : ∃ more, event = .sent (some c) more
    · -- more of what was received may be sent
      obtain ⟨more, rfl⟩ := hmore
      have hallowed : Allowed options (after ++ before) (.sent (some c) more) := h.1
      obtain ⟨-, -, -, id, c₁, c', hc, hjoins, -, hprefix⟩ := hallowed
      obtain rfl := Option.some.inj hc
      rw [h.2.2.received_eq hstopping, hsent, List.append_assoc] at hprefix
      refine ⟨bytes ++ more, ?_, .inr ⟨id, c', h.2.2.joins_before hstopping hjoins, hprefix⟩⟩
      rw [List.cons_append, hear_cons, Heard.after, if_pos rfl, hsent, List.append_assoc]
    · refine ⟨bytes, ?_, hbytes⟩
      rw [List.cons_append, hear_cons, Heard.sent_after, hsent]
      exact fun more heq => hmore ⟨more, heq⟩

/-- **What is sent to a connection after the first stop signal is the front of what was queued for
it then**, if there was a session that it was an end of. -/
theorem Legal.sent_of_barrier {sessions : Table ℕ Session} {deadline : Time} (h : Legal options log)
    (hs : .barrier sessions deadline :: before <:+ log) (c : Connection) :
    ∃ bytes, (hear log (some c)).sent = (hear before (some c)).sent ++ bytes ∧ (bytes = [] ∨
      ∃ id session c', sessions.lookup id = some session ∧ Joins before id c c' ∧
        bytes <+: (session.pending c'.side).content) := by
  have hallowed := h.allowed hs
  obtain ⟨-, -, hliving, hqueued⟩ := hallowed
  obtain ⟨after, rfl⟩ := hs
  obtain ⟨bytes, hsent, hbytes⟩ := h.sent_append ⟨sessions, deadline, List.mem_cons_self⟩ c
  refine ⟨bytes, hsent, hbytes.imp_right ?_⟩
  rintro ⟨id, c', hjoins, hprefix⟩
  have hbefore : Joins before id c c' := by
    refine ⟨?_, ?_, hjoins.across, fun reason left hmem => hjoins.going reason left (List.mem_cons_of_mem _ hmem)⟩
    · simpa using hjoins.here
    · simpa using hjoins.there
  have hgoing : Going before id := ⟨⟨_, hbefore.here⟩, hbefore.going⟩
  obtain ⟨session, hsession⟩ := Finmap.mem_iff.mp ((hliving id).mp hgoing)
  refine ⟨id, session, c', hsession, hbefore, ?_⟩
  have hreceived : (hear before (some c')).received = _ := hqueued id session c c' hsession hbefore
  rw [hear_cons, hear_cons, Heard.sent_after _ (by simp), Heard.received_after _ (by simp), hreceived] at hprefix
  exact (List.prefix_append_right_inj _).mp hprefix

/-! ### Every run -/

/-- What holds of the first stop signal in a state: it is a barrier. -/
structure Barred (s : TcpReactor) : Prop where
  /-- Nothing begins after it, and it is seen once. -/
  quiet : ∀ {event before}, event :: before <:+ s.log → Stopping before → ¬ event.Begins
  /-- The deadline that is in force is the one it set. -/
  deadline : ∀ {sessions deadline}, .barrier sessions deadline ∈ s.log → s.stop.drainDeadline = deadline
  /-- What is told of it are the queues there were, and the deadline. -/
  announced : ∀ {event}, .stopping event ∈ s.log → ∃ sessions, .barrier sessions event.deadlineNs ∈ s.log ∧
    event.pending = pendingTotal sessions
  /-- What is sent to an end of a session after it is the front of what was queued for it. -/
  sent : ∀ {sessions deadline before id session c c'}, .barrier sessions deadline :: before <:+ s.log →
    sessions.lookup id = some session → Joins before id c c' → ∃ bytes,
      (hear s.log (some c)).sent = (hear before (some c)).sent ++ bytes ∧ bytes <+: (session.pending c'.side).content
  /-- And nothing is sent to another connection. -/
  unsent : ∀ {sessions deadline before c}, .barrier sessions deadline :: before <:+ s.log →
    (∀ id session c', sessions.lookup id = some session → ¬ Joins before id c c') →
      (hear s.log (some c)).sent = (hear before (some c)).sent
  /-- A session that is drained has nothing queued. -/
  drained : ∀ {id left}, .closed id "service-stop-drained" left ∈ s.log → ∀ side, left side = 0
  /-- After the second one, or the deadline, nothing is sent. -/
  stopped : ∀ {connection before}, .attempted .send connection :: before <:+ s.log → .stopped ∉ before
  /-- When the event loop returns, there are no sessions and no tokens. -/
  returned : ∀ {sessions tokens}, .returned sessions tokens ∈ s.log → sessions = 0 ∧ tokens = 0

/-- Where an event was recorded. -/
theorem exists_suffix (h : event ∈ log) : ∃ before, event :: before <:+ log := by
  obtain ⟨after, before, rfl⟩ := List.append_of_mem h
  exact ⟨before, List.suffix_append _ _⟩

theorem Sound.barred {s : TcpReactor} (h : Sound options s) : Barred s := by
  constructor
  · exact fun hs hstopping => h.legal.not_begins hs hstopping
  · exact h.deadline
  · intro event hmem
    obtain ⟨before, hs⟩ := exists_suffix hmem
    obtain ⟨sessions, hbarrier, hpending⟩ := h.legal.allowed hs
    exact ⟨sessions, hs.subset (List.mem_cons_of_mem _ hbarrier), hpending⟩
  · intro sessions deadline before id session c c' hs hsession hjoins
    obtain ⟨bytes, hsent, rfl | ⟨id', session', c'', hsession', hjoins', hprefix⟩⟩ := h.legal.sent_of_barrier hs c
    · exact ⟨[], hsent, List.nil_prefix⟩
    · obtain ⟨rfl, rfl⟩ := (h.legal.suffix ((List.suffix_cons _ _).trans hs)).joins_unique hjoins hjoins'
      obtain rfl := Option.some.inj (hsession.symm.trans hsession')
      exact ⟨bytes, hsent, hprefix⟩
  · intro sessions deadline before c hs hnone
    obtain ⟨bytes, hsent, rfl | ⟨id', session', c'', hsession', hjoins', -⟩⟩ := h.legal.sent_of_barrier hs c
    · rw [hsent, List.append_nil]
    · exact absurd hjoins' (hnone id' session' c'' hsession')
  · intro id left hmem side
    obtain ⟨before, hs⟩ := exists_suffix hmem
    exact (h.legal.allowed hs).2.1 rfl side
  · exact fun hs => (h.legal.allowed hs).2.1
  · intro sessions tokens hmem
    obtain ⟨before, hs⟩ := exists_suffix hmem
    exact h.legal.allowed hs

/-- **The first stop signal is a barrier**, at every point of every run of the reactor. -/
theorem barred_reached (options : TcpReactorOptions) (script : List (Effect.Answerer TcpCall TcpAnswer)) :
    Barred (reached options script) := (sound_reached options script).barred

end L4lb.Net.Tcp
