import L4lb.Net.TcpSound

/-!
# How sessions and the service begin and end

The changes of the TCP reactor that a session begins or ends with, that give it its backend
and its tokens, and the two signals that stop the service. They keep the state sound.
-/

namespace L4lb.Net.Tcp

open Effect Prog

variable {options : TcpReactorOptions} {s : TcpReactor} {id : ℕ} {session : Session}

/-! ### Ends -/

/-- A session is taken out of the table. -/
theorem Sound.closed (h : Sound options s) (hsession : s.tables.sessions.lookup id = some session)
    {reason : String} {left : Side → ℕ}
    (ha : Allowed options s.log (.closed id reason left)) (hd : (due (.closed id reason left :: s.log)).isSome) :
    Sound options { s with tables := s.tables.remove session id, log := .closed id reason left :: s.log } := by
  have hmem := Finmap.mem_of_lookup_eq_some hsession
  have hsize := Table.size_erase hmem
  constructor
  · constructor
    · exact h.consistent.tables.remove hsession
    · intro id' c hattached
      exact h.consistent.attached (by simpa using hattached)
    · intro token target hregistered
      exact h.consistent.issued (by simpa using hregistered)
    · exact h.consistent.reason
  · exact ⟨ha, hd, h.legal⟩
  · simp [h.draining, Stopping]
  · intro sessions deadline hbarrier
    exact h.deadline (by simpa using hbarrier)
  · simp [h.stopped]
  · intro id' circuit hcircuit
    rw [SessionTables.circuit_remove] at hcircuit
    split at hcircuit
    · cases hcircuit
    · apply (h.told hcircuit).cons (by nofun)
      intro side
      cases circuit.wire side <;> rfl
  · intro id'
    show id' ∈ s.tables.sessions.erase id ↔ _
    rw [Finmap.mem_erase, h.entries]
    constructor
    · rintro ⟨hne, ⟨connection, hbegun⟩, hunclosed⟩
      refine ⟨⟨connection, List.mem_cons_of_mem _ hbegun⟩, fun reason' left' => ?_⟩
      simp [hne, hunclosed reason' left']
    · rintro ⟨⟨connection, hbegun⟩, hunclosed⟩
      refine ⟨?_, ⟨connection, by simpa using hbegun⟩, fun reason' left' hclosed =>
        hunclosed reason' left' (List.mem_cons_of_mem _ hclosed)⟩
      rintro rfl
      exact hunclosed reason left List.mem_cons_self
  · have hliving := h.living
    show (Table.size (s.tables.sessions.erase id) : ℤ) = Tcp.living s.log - 1
    omega
  · have hbounded := h.bounded
    show Table.size (s.tables.sessions.erase id) ≤ options.maxSessions
    omega
  · exact h.clock

/-- What is queued when the first stop signal is seen. -/
theorem Sound.queued (h : Sound options s) (hcounted : AllCounted s.log) : Queued s.log s.tables.sessions := by
  refine ⟨fun id => h.entries.symm, fun id session c c' hsession hjoins => ?_⟩
  have htold := h.told (SessionTables.circuit_of_lookup hsession)
  have hwire := htold.attached.mpr ⟨hjoins.here, rfl⟩
  have hwire' := htold.attached.mpr ⟨hjoins.there, hjoins.across⟩
  have hreceived := htold.received c.side
  rw [hwire, hwire', hcounted c, List.length_nil, List.drop_zero] at hreceived
  rw [hreceived, hjoins.across]
  rfl

/-- The first stop signal is seen. -/
theorem Sound.barrier (h : Sound options s) (hd : due s.log = some .nothing) (hcounted : AllCounted s.log)
    (hrunning : s.stop.draining = false) (deadline : Time) :
    Sound options { s with
      stop := { s.stop with draining := true, drainDeadline := deadline }
      log := .barrier s.tables.sessions deadline :: s.log } := by
  have hnot := h.running hrunning
  constructor
  · constructor
    · exact h.consistent.tables
    · intro id' c hattached
      exact h.consistent.attached (by simpa using hattached)
    · intro token target hregistered
      exact h.consistent.issued (by simpa using hregistered)
    · exact h.consistent.reason
  · refine ⟨⟨hnot, hcounted, h.queued hcounted⟩, ?_, h.legal⟩
    rw [due_cons hd]
    rfl
  · exact ⟨fun _ => ⟨_, _, List.mem_cons_self⟩, fun _ => rfl⟩
  · intro sessions deadline' hbarrier
    rcases List.mem_cons.mp hbarrier with he | hbarrier
    · exact (TcpEvent.barrier.inj he).2.symm
    · exact absurd ⟨sessions, deadline', hbarrier⟩ hnot
  · simp [h.stopped]
  · intro id' circuit hcircuit
    apply (h.told hcircuit).cons (by nofun)
    intro side
    cases circuit.wire side <;> rfl
  · intro id'
    rw [h.entries, going_cons (by nofun) (by nofun)]
  · exact h.living
  · exact h.bounded
  · exact h.clock

/-- The second stop signal is seen, or the deadline. -/
theorem Sound.stop (h : Sound options s) (hd : due s.log = some .nothing) (hdraining : s.stop.draining = true)
    {reason : String} (hreason : reason ∉ reserved) :
    Sound options { s with
      stop := { s.stop with stopRequested := true, stopReason := reason }
      log := .stopped :: s.log } := by
  constructor
  · constructor
    · exact h.consistent.tables
    · intro id' c hattached
      exact h.consistent.attached (by simpa using hattached)
    · intro token target hregistered
      exact h.consistent.issued (by simpa using hregistered)
    · exact hreason
  · refine ⟨h.draining.mp hdraining, ?_, h.legal⟩
    rw [due_cons hd]
    rfl
  · simp [h.draining, Stopping]
  · intro sessions deadline hbarrier
    exact h.deadline (by simpa using hbarrier)
  · simp
  · intro id' circuit hcircuit
    apply (h.told hcircuit).cons (by nofun)
    intro side
    cases circuit.wire side <;> rfl
  · intro id'
    rw [h.entries, going_cons (by nofun) (by nofun)]
  · exact h.living
  · exact h.bounded
  · exact h.clock

/-! ### Beginnings -/

/-- An end of a session gets its token. -/
theorem Sound.registered (h : Sound options s) (hd : due s.log = some .nothing)
    (hsession : s.tables.sessions.lookup id = some session) (hbackend : (session.ends .backend).fd ≠ none)
    {side : Side} (hnone : ∀ token, s.tables.tokens.entries.lookup token ≠ some ⟨id, side⟩)
    {token : ℕ} {tokens : EndpointTokens}
    (htoken : s.tables.tokens.registerEndpoint id side = some (token, tokens)) :
    Sound options { s with
      tables := ({ s.tables with tokens } : SessionTables).update id
        (·.setEnd side fun endpoint => { endpoint with token })
      log := .registered token ⟨id, side⟩ :: s.log } := by
  have hnew : s.tables.tokens.nextToken ∉ s.tables.tokens.entries := by
    intro hmem
    obtain ⟨target, htarget⟩ := Finmap.mem_iff.mp hmem
    have := (h.consistent.tables.token_lt htarget).2
    omega
  unfold EndpointTokens.registerEndpoint at htoken
  split at htoken
  · cases htoken
  · obtain ⟨rfl, rfl⟩ := Prod.mk.inj (Option.some.inj htoken)
    rw [Table.emplace_of_notMem hnew]
    have htables := h.consistent.tables.register hsession hbackend hnone
    have hharmless : Harmless (·.setEnd side fun endpoint =>
        { endpoint with token := s.tables.tokens.nextToken }) :=
      Harmless.setEnd (fun _ => rfl) (fun _ => rfl) fun _ => rfl
    refine h.inner (.registered s.tables.tokens.nextToken ⟨id, side⟩) trivial
      (fun token' target hmem => h.consistent.issued hmem) ?_ rfl ?_ rfl
      (SessionTables.keys_update _ _ _) rfl ?_
    · rw [due_cons hd]
      rfl
    · constructor
      · exact htables
      · intro id' c hattached
        rw [SessionTables.update_nextSessionId, SessionTables.update_connections]
        exact h.consistent.attached (by simpa using hattached)
      · intro token target hregistered
        rw [SessionTables.update_tokens]
        rcases List.mem_cons.mp hregistered with he | hregistered
        · obtain ⟨rfl, -⟩ := TcpEvent.registered.inj he
          exact Nat.lt_succ_self _
        · exact (h.consistent.issued hregistered).trans (Nat.lt_succ_self _)
      · exact h.consistent.reason
    · intro id' circuit hcircuit
      rw [hharmless.circuit] at hcircuit
      have htold : Told s.log id' circuit := h.told hcircuit
      apply htold.cons (by nofun)
      intro side
      cases circuit.wire side <;> rfl

/-- A session begins with the connection of a client. -/
theorem Sound.created (h : Sound options s) (hd : due s.log = some .nothing)
    (hrunning : s.stop.draining = false) (hroom : Table.size s.tables.sessions < options.maxSessions)
    {front serial : ℕ} (hdescriptor : s.tables.descriptors.lookup front = some (.connection ⟨.client, serial⟩))
    (hunused : s.tables.Unused front) (hfresh : ∀ id, .attached id (some ⟨.client, serial⟩) ∉ s.log)
    (hid : session.id = s.tables.nextSessionId) (hfront : (session.ends .client).fd = some front)
    (hbackend : (session.ends .backend).fd = none) (hconnecting : session.connecting = true)
    (hcircuit : s.tables.circuitOf session = Circuit.new ⟨.client, serial⟩)
    (htokens : ∀ side, (session.ends side).token = 0) :
    Sound options { s with
      tables := { s.tables with
        nextSessionId := s.tables.nextSessionId + 1
        sessions := Table.emplace s.tables.sessions s.tables.nextSessionId session }
      log := .attached s.tables.nextSessionId (s.tables.connection (some front)) :: s.log } := by
  have hconnection := SessionTables.connection_of_lookup hdescriptor
  have hnew : s.tables.nextSessionId ∉ s.tables.sessions := by
    intro hmem
    obtain ⟨session', hsession'⟩ := Finmap.mem_iff.mp hmem
    have := (h.consistent.tables.id hsession').2
    omega
  have hunbegun : ∀ connection, .attached s.tables.nextSessionId connection ∉ s.log := by
    intro connection hmem
    have := (h.consistent.attached hmem).1
    omega
  have hsize := Table.size_insert hnew session
  rw [hconnection, Table.emplace_of_notMem hnew]
  have htables : ({ s.tables with
      sessions := s.tables.sessions.insert s.tables.nextSessionId session
      nextSessionId := s.tables.nextSessionId + 1 } : SessionTables).Consistent := by
    apply h.consistent.tables.insert (Nat.le_succ _) ⟨hid, Nat.lt_succ_self _⟩
    · intro side fd hfd
      cases side with
      | client =>
        rw [hfront] at hfd
        obtain rfl := Option.some.inj hfd
        exact ⟨serial, hdescriptor⟩
      | backend =>
        rw [hbackend] at hfd
        cases hfd
    · intro side hnone
      cases side with
      | client =>
        rw [hfront] at hnone
        cases hnone
      | backend => exact ⟨rfl, hconnecting⟩
    · intro side
      have hqueue := congrArg (fun circuit => circuit.queue side) hcircuit
      exact TcpPendingBuffer.content_eq_nil.mp hqueue
    · intro id' session' side fd hsession' hfd' hfd
      cases side with
      | client =>
        rw [hfront] at hfd
        obtain rfl := Option.some.inj hfd
        exact absurd hfd' (hunused id' session' .client hsession')
      | backend =>
        rw [hbackend] at hfd
        cases hfd
    · exact htokens
    · intro token target htoken hid'
      obtain ⟨session', hsession', -⟩ := h.consistent.tables.token htoken
      rw [hid'] at hsession'
      exact hnew (Finmap.mem_of_lookup_eq_some hsession')
  constructor
  · constructor
    · exact htables
    · intro id' c hattached
      rcases List.mem_cons.mp hattached with he | hattached
      · obtain ⟨rfl, rfl⟩ := TcpEvent.attached.inj he
        exact ⟨Nat.lt_succ_self _, _, rfl, h.consistent.tables.numbered hdescriptor⟩
      · obtain ⟨hlt, hc⟩ := h.consistent.attached hattached
        exact ⟨hlt.trans (Nat.lt_succ_self _), hc⟩
    · intro token target hregistered
      exact h.consistent.issued (by simpa using hregistered)
    · exact h.consistent.reason
  · refine ⟨⟨h.running hrunning, _, rfl, hfresh, fun _ id' connection hmem => (h.consistent.attached hmem).1,
      nofun⟩, ?_, h.legal⟩
    rw [due_cons hd]
    rfl
  · simp [h.draining, Stopping]
  · intro sessions deadline hbarrier
    exact h.deadline (by simpa using hbarrier)
  · simp [h.stopped]
  · intro id' circuit hcircuit'
    by_cases hid' : id' = s.tables.nextSessionId
    · have hlookup : (s.tables.sessions.insert s.tables.nextSessionId session).lookup id' = some session := by
        rw [hid', Finmap.lookup_insert]
      obtain rfl : Circuit.new ⟨.client, serial⟩ = circuit := by
        rw [SessionTables.circuit, hlookup] at hcircuit'
        rw [← hcircuit]
        exact Option.some.inj hcircuit'
      rw [hid']
      exact Told.new rfl (h.legal.hear_of_unattached hfresh) hunbegun
    · have hlookup : (s.tables.sessions.insert s.tables.nextSessionId session).lookup id' =
          s.tables.sessions.lookup id' := Finmap.lookup_insert_of_ne _ hid'
      have hold : s.tables.circuit id' = some circuit := by
        rw [SessionTables.circuit, hlookup] at hcircuit'
        exact hcircuit'
      apply (h.told hold).cons
      · rintro c he
        exact hid' (TcpEvent.attached.inj he).1.symm
      · intro side
        cases circuit.wire side <;> rfl
  · intro id'
    show id' ∈ s.tables.sessions.insert s.tables.nextSessionId session ↔ _
    rw [Finmap.mem_insert, h.entries]
    constructor
    · rintro (rfl | ⟨⟨connection, hbegun⟩, hunclosed⟩)
      · refine ⟨⟨_, List.mem_cons_self⟩, fun reason left hclosed => ?_⟩
        obtain ⟨connection, hbegun⟩ := (h.legal.begun_of_closed (by simpa using hclosed))
        exact hunbegun connection hbegun
      · exact ⟨⟨connection, List.mem_cons_of_mem _ hbegun⟩, by simpa using hunclosed⟩
    · rintro ⟨⟨connection, hbegun⟩, hunclosed⟩
      rcases List.mem_cons.mp hbegun with he | hbegun
      · exact .inl (TcpEvent.attached.inj he).1
      · exact .inr ⟨⟨connection, hbegun⟩, by simpa using hunclosed⟩
  · have hliving := h.living
    show (Table.size (s.tables.sessions.insert s.tables.nextSessionId session) : ℤ) = Tcp.living s.log + 1
    omega
  · show Table.size (s.tables.sessions.insert s.tables.nextSessionId session) ≤ options.maxSessions
    omega
  · exact h.clock

/-- A session gets the connection of its backend. -/
theorem Sound.wired (h : Sound options s) (hd : due s.log = some .nothing)
    (hrunning : s.stop.draining = false) (hsession : s.tables.sessions.lookup id = some session)
    (hnone : (session.ends .backend).fd = none) {fd serial : ℕ}
    (hdescriptor : s.tables.descriptors.lookup fd = some (.connection ⟨.backend, serial⟩))
    (hunused : s.tables.Unused fd) (hfresh : ∀ id, .attached id (some ⟨.backend, serial⟩) ∉ s.log) :
    Sound options { s with
      tables := s.tables.update id (·.setEnd .backend fun endpoint => { endpoint with fd := some fd })
      log := .attached id (s.tables.connection (some fd)) :: s.log } := by
  have hmem := Finmap.mem_of_lookup_eq_some hsession
  have hkeys := SessionTables.keys_update s.tables id
    (·.setEnd .backend fun endpoint => { endpoint with fd := some fd })
  have htold := h.told (SessionTables.circuit_of_lookup hsession)
  have hunwired : (s.tables.circuitOf session).wire .backend = none := by
    show s.tables.connection (session.ends .backend).fd = none
    rw [hnone]
    rfl
  have hgoing := h.entries.mp hmem
  have hconnection := SessionTables.connection_of_lookup hdescriptor
  rw [hconnection]
  constructor
  · constructor
    · exact h.consistent.tables.attach hsession hnone hdescriptor hunused
    · intro id' c hattached
      rw [SessionTables.update_nextSessionId, SessionTables.update_connections]
      rcases List.mem_cons.mp hattached with he | hattached
      · obtain ⟨rfl, rfl⟩ := TcpEvent.attached.inj he
        exact ⟨(h.consistent.tables.id hsession).2, _, rfl, h.consistent.tables.numbered hdescriptor⟩
      · exact h.consistent.attached hattached
    · intro token target hregistered
      rw [SessionTables.update_tokens]
      exact h.consistent.issued (by simpa using hregistered)
    · exact h.consistent.reason
  · refine ⟨⟨h.running hrunning, _, rfl, hfresh, nofun, fun _ => ⟨hgoing, fun connection hattached => ?_⟩⟩,
      ?_, h.legal⟩
    · obtain ⟨-, c, rfl, -⟩ := h.consistent.attached hattached
      refine ⟨c, rfl, ?_⟩
      cases hside : c.side with
      | client => rfl
      | backend =>
        have hwire := htold.attached.mpr ⟨hattached, hside⟩
        rw [hunwired] at hwire
        cases hwire
    · rw [due_cons hd]
      rfl
  · simp [h.draining, Stopping]
  · intro sessions deadline hbarrier
    exact h.deadline (by simpa using hbarrier)
  · simp [h.stopped]
  · intro id' circuit hcircuit
    rw [SessionTables.circuit_update hsession] at hcircuit
    split at hcircuit
    · rename_i hid
      obtain rfl := Option.some.inj hcircuit
      have hattach : s.tables.circuitOf
          (session.setEnd .backend fun endpoint => { endpoint with fd := some fd }) =
            (s.tables.circuitOf session).attach ⟨.backend, serial⟩ := by
        simp only [SessionTables.circuitOf, Circuit.attach, Circuit.mk.injEq]
        refine ⟨?_, rfl, rfl, ?_, ?_⟩ <;> funext side <;> cases side
        · rfl
        · exact hconnection
        all_goals rfl
      rw [hid, hattach]
      exact htold.attach hunwired rfl (h.legal.hear_of_unattached hfresh)
    · rename_i hid
      apply (h.told hcircuit).cons
      · rintro c he
        exact hid (TcpEvent.attached.inj he).1.symm
      · intro side
        cases circuit.wire side <;> rfl
  · intro id'
    rw [mem_of_keys hkeys, h.entries]
    constructor
    · rintro ⟨⟨connection, hbegun⟩, hunclosed⟩
      exact ⟨⟨connection, List.mem_cons_of_mem _ hbegun⟩, by simpa using hunclosed⟩
    · rintro ⟨⟨connection, hbegun⟩, hunclosed⟩
      refine ⟨?_, by simpa using hunclosed⟩
      rcases List.mem_cons.mp hbegun with he | hbegun
      · rw [(TcpEvent.attached.inj he).1]
        exact hgoing.begun
      · exact ⟨connection, hbegun⟩
  · rw [size_of_keys hkeys, h.living]
    show Tcp.living s.log = Tcp.living s.log + 0
    omega
  · rw [size_of_keys hkeys]
    exact h.bounded
  · exact h.clock

end L4lb.Net.Tcp
