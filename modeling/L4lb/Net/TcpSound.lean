import L4lb.Net.TcpTables

/-!
# What is kept in every run of the TCP reactor

A state is `Sound` when its tables agree, its history is legal, and the one tells of the
other. Every change that the reactor makes keeps this: the ones that leave the history and
the circuits (`Sound.quiet`), the ones that only record something (`Sound.plain`), and then
one for each thing that happens to a circuit.
-/

namespace L4lb.Net.Tcp

open Effect Prog

@[simp] theorem TcpReactor.record_log (s : TcpReactor) (event : TcpEvent) : (s.record event).log = event :: s.log := rfl

@[simp] theorem TcpReactor.record_tables (s : TcpReactor) (event : TcpEvent) : (s.record event).tables = s.tables := rfl

/-- An event that neither begins nor ends a session, nor the service. -/
def Inner : TcpEvent → Prop
  | .attached _ _ | .closed _ _ _ | .barrier _ _ | .stopped => False
  | _ => True

/-- An event that nothing of what is heard depends on. -/
def Plain : TcpEvent → Prop
  | .statistic event => ¬ countsBytes event.kind
  | .attached _ _ | .registered _ _ | .received _ _ | .sent _ _ | .ended _ | .shut _ | .closed _ _ _
  | .barrier _ _ | .stopped => False
  | _ => True

theorem Plain.inner {event : TcpEvent} (h : Plain event) : Inner event := by
  cases event <;> first | exact trivial | exact h.elim

theorem Plain.after {event : TcpEvent} (h : Plain event) (c : Connection) (heard : Heard) :
    heard.after c event = heard := by
  cases event with
  | statistic event => exact if_neg fun he => h he.1
  | attached | registered | received | sent | ended | shut | closed | barrier | stopped => exact h.elim
  | _ => rfl

theorem Plain.hear {event : TcpEvent} (h : Plain event) (log : List TcpEvent) (connection : Option Connection) :
    hear (event :: log) connection = hear log connection := by
  cases connection with
  | none => rfl
  | some c => exact h.after c _

section Inner

variable {event : TcpEvent} {log : List TcpEvent}

theorem Inner.stopping (h : Inner event) : Stopping (event :: log) ↔ Stopping log := by
  constructor
  · rintro ⟨sessions, deadline, hmem⟩
    rcases List.mem_cons.mp hmem with rfl | hmem
    · exact h.elim
    · exact ⟨sessions, deadline, hmem⟩
  · rintro ⟨sessions, deadline, hmem⟩
    exact ⟨sessions, deadline, List.mem_cons_of_mem _ hmem⟩

theorem Inner.barrier (h : Inner event) {sessions : Table ℕ Session} {deadline : Time} :
    .barrier sessions deadline ∈ event :: log ↔ .barrier sessions deadline ∈ log := by
  rw [List.mem_cons, or_iff_right]
  rintro rfl
  exact h

theorem Inner.stopped (h : Inner event) : .stopped ∈ event :: log ↔ .stopped ∈ log := by
  rw [List.mem_cons, or_iff_right]
  rintro rfl
  exact h

theorem Inner.attached (h : Inner event) {id : ℕ} {connection : Option Connection} :
    .attached id connection ∈ event :: log ↔ .attached id connection ∈ log := by
  rw [List.mem_cons, or_iff_right]
  rintro rfl
  exact h

theorem going_cons (hattached : ∀ id connection, event ≠ .attached id connection)
    (hclosed : ∀ id reason left, event ≠ .closed id reason left) {id : ℕ} :
    Going (event :: log) id ↔ Going log id := by
  constructor
  · rintro ⟨⟨connection, hbegun⟩, hunclosed⟩
    rcases List.mem_cons.mp hbegun with heq | hbegun
    · exact absurd heq.symm (hattached id connection)
    · exact ⟨⟨connection, hbegun⟩, fun reason left hmem => hunclosed reason left (List.mem_cons_of_mem _ hmem)⟩
  · rintro ⟨⟨connection, hbegun⟩, hunclosed⟩
    refine ⟨⟨connection, List.mem_cons_of_mem _ hbegun⟩, fun reason left hmem => ?_⟩
    rcases List.mem_cons.mp hmem with heq | hmem
    · exact hclosed id reason left heq.symm
    · exact hunclosed reason left hmem

theorem Inner.going (h : Inner event) {id : ℕ} : Going (event :: log) id ↔ Going log id := by
  apply going_cons
  · rintro id connection rfl
    exact h
  · rintro id reason left rfl
    exact h

theorem Inner.living (h : Inner event) : living (event :: log) = living log := by
  cases event <;> first | rfl | exact h.elim

end Inner

/-! ### Sound states -/

variable (options : TcpReactorOptions)

/-- The tables agree, the history is legal, and the two say the same. -/
structure Sound (s : TcpReactor) : Prop where
  /-- The tables agree. -/
  consistent : Consistent s
  /-- The history is legal. -/
  legal : Legal options s.log
  /-- Whether the service is stopping. -/
  draining : s.stop.draining = true ↔ Stopping s.log
  /-- Until when it drains. -/
  deadline : ∀ {sessions deadline}, .barrier sessions deadline ∈ s.log → s.stop.drainDeadline = deadline
  /-- Whether it stops at once. -/
  stopped : s.stop.stopRequested = true ↔ .stopped ∈ s.log
  /-- The history tells of every circuit. -/
  told : ∀ {id circuit}, s.tables.circuit id = some circuit → Told s.log id circuit
  /-- The sessions in the table are those that have begun and are not over. -/
  entries : ∀ {id}, id ∈ s.tables.sessions ↔ Going s.log id
  /-- So many there are. -/
  living : (Table.size s.tables.sessions : ℤ) = living s.log
  /-- That is not too many. -/
  bounded : Table.size s.tables.sessions ≤ options.maxSessions
  /-- The clock runs from zero. -/
  clock : 0 ≤ s.clock

/-- Every run keeps the state sound. -/
abbrev Serves {α : Type} (m : TcpM α) (s : TcpReactor) (E : TcpError → TcpReactor → Prop)
    (Q : α → TcpReactor → Prop) : Prop :=
  Runs (fun s s' => Sound options s → Sound options s') E m s Q

variable {options} {s s' : TcpReactor} {event : TcpEvent} {id : ℕ} {circuit circuit' : Circuit}

namespace SessionTables

variable {tables : SessionTables}

theorem Consistent.wires_apart (h : tables.Consistent) {id id' : ℕ} {circuit circuit' : Circuit}
    {side side' : Side} {c : Connection} (hcircuit : tables.circuit id = some circuit)
    (hcircuit' : tables.circuit id' = some circuit') (hwire : circuit.wire side = some c)
    (hwire' : circuit'.wire side' = some c) : id = id' := by
  have hopen : ∀ {id circuit side}, tables.circuit id = some circuit → circuit.wire side = some c →
      ∃ session fd, tables.sessions.lookup id = some session ∧ (session.ends side).fd = some fd ∧
        tables.descriptors.lookup fd = some (.connection c) ∧ c.side = side := by
    intro id circuit side hcircuit hwire
    obtain ⟨session, hsession, rfl⟩ := Option.map_eq_some_iff.mp hcircuit
    have hconnection : tables.connection (session.ends side).fd = some c := hwire
    cases hfd : (session.ends side).fd with
    | none =>
      rw [hfd] at hconnection
      cases hconnection
    | some fd =>
      obtain ⟨serial, hdescriptor⟩ := h.wired hsession hfd
      rw [hfd, connection_of_lookup hdescriptor] at hconnection
      obtain rfl := Option.some.inj hconnection
      exact ⟨session, fd, hsession, hfd, hdescriptor, rfl⟩
  obtain ⟨session, fd, hsession, hfd, hdescriptor, rfl⟩ := hopen hcircuit hwire
  obtain ⟨session', fd', hsession', hfd', hdescriptor', rfl⟩ := hopen hcircuit' hwire'
  obtain rfl := h.distinct hdescriptor hdescriptor'
  exact h.apart hsession hsession' hfd hfd'

theorem keys_update (tables : SessionTables) (id : ℕ) (f : Session → Session) :
    (tables.update id f).sessions.keys = tables.sessions.keys := by
  ext id'
  simp only [Finmap.mem_keys, mem_update]

end SessionTables

theorem mem_of_keys {sessions sessions' : Table ℕ Session} (h : sessions'.keys = sessions.keys) {id : ℕ} :
    id ∈ sessions' ↔ id ∈ sessions := by
  rw [← Finmap.mem_keys, h, Finmap.mem_keys]

theorem size_of_keys {sessions sessions' : Table ℕ Session} (h : sessions'.keys = sessions.keys) :
    Table.size sessions' = Table.size sessions := by
  rw [Table.size, h, Table.size]

/-- What does not touch the numbers that are given out keeps the tables consistent with the rest. -/
theorem Consistent.inner (h : Consistent s) (event : TcpEvent) (hi : Inner event)
    (hr : ∀ token target, event ≠ .registered token target) (hlog : s'.log = event :: s.log)
    (htables : s'.tables.Consistent) (hids : s'.tables.nextSessionId = s.tables.nextSessionId)
    (hconnections : s'.tables.connections = s.tables.connections)
    (htokens : s'.tables.tokens = s.tables.tokens) (hstop : s'.stop = s.stop) : Consistent s' := by
  constructor
  · exact htables
  · intro id c hmem
    rw [hlog, hi.attached] at hmem
    rw [hids, hconnections]
    exact h.attached hmem
  · intro token target hmem
    rw [hlog, List.mem_cons] at hmem
    rcases hmem with he | hmem
    · exact absurd he.symm (hr token target)
    · rw [htokens]
      exact h.issued hmem
  · rw [hstop]
    exact h.reason

/-- Something happened that neither begins nor ends a session. -/
theorem Sound.inner (h : Sound options s) (event : TcpEvent) (hi : Inner event) (ha : Allowed options s.log event)
    (hd : (due (event :: s.log)).isSome) (hlog : s'.log = event :: s.log) (hconsistent : Consistent s')
    (hstop : s'.stop = s.stop) (hkeys : s'.tables.sessions.keys = s.tables.sessions.keys)
    (hclock : s'.clock = s.clock)
    (htold : ∀ {id circuit}, s'.tables.circuit id = some circuit → Told s'.log id circuit) :
    Sound options s' := by
  constructor
  · exact hconsistent
  · rw [hlog]
    exact ⟨ha, hd, h.legal⟩
  · rw [hstop, hlog, hi.stopping, h.draining]
  · intro sessions deadline hmem
    rw [hlog, hi.barrier] at hmem
    rw [hstop, h.deadline hmem]
  · rw [hstop, hlog, hi.stopped, h.stopped]
  · exact htold
  · intro id
    rw [mem_of_keys hkeys, h.entries, hlog, hi.going]
  · rw [size_of_keys hkeys, h.living, hlog, hi.living]
  · rw [size_of_keys hkeys]
    exact h.bounded
  · rw [hclock]
    exact h.clock

/-- Something is recorded, no more. -/
theorem Sound.plain (h : Sound options s) (event : TcpEvent) (hp : Plain event) (ha : Allowed options s.log event)
    (hd : (due (event :: s.log)).isSome) : Sound options (s.record event) := by
  have hr : ∀ token target, event ≠ .registered token target := by
    rintro token target rfl
    exact hp
  refine h.inner event hp.inner ha hd rfl ?_ rfl rfl rfl ?_
  · exact h.consistent.inner event hp.inner hr rfl h.consistent.tables rfl rfl rfl rfl
  · intro id circuit hcircuit
    apply (h.told hcircuit).cons
    · rintro c rfl
      exact hp
    · exact fun side => hp.hear s.log _

/-- The history and the circuits are left alone. -/
theorem Sound.quiet (h : Sound options s) (htables : s'.tables.Consistent)
    (hcircuits : ∀ id, s'.tables.circuit id = s.tables.circuit id) (hlog : s'.log = s.log)
    (hstop : s'.stop = s.stop) (hkeys : s'.tables.sessions.keys = s.tables.sessions.keys)
    (hids : s.tables.nextSessionId ≤ s'.tables.nextSessionId)
    (hconnections : s.tables.connections ≤ s'.tables.connections)
    (htokens : s.tables.tokens.nextToken ≤ s'.tables.tokens.nextToken) (hclock : 0 ≤ s'.clock) :
    Sound options s' := by
  constructor
  · constructor
    · exact htables
    · intro id c hmem
      rw [hlog] at hmem
      obtain ⟨hid, connection, hc, hserial⟩ := h.consistent.attached hmem
      exact ⟨by omega, connection, hc, by omega⟩
    · intro token target hmem
      rw [hlog] at hmem
      have := h.consistent.issued hmem
      omega
    · rw [hstop]
      exact h.consistent.reason
  · rw [hlog]
    exact h.legal
  · rw [hstop, hlog, h.draining]
  · intro sessions deadline hmem
    rw [hlog] at hmem
    rw [hstop, h.deadline hmem]
  · rw [hstop, hlog, h.stopped]
  · intro id circuit hcircuit
    rw [hcircuits] at hcircuit
    rw [hlog]
    exact h.told hcircuit
  · intro id
    rw [mem_of_keys hkeys, h.entries, hlog]
  · rw [size_of_keys hkeys, h.living, hlog]
  · rw [size_of_keys hkeys]
    exact h.bounded
  · exact hclock

/-- A session is changed in a way that its circuit does not depend on. -/
theorem Sound.update (h : Sound options s) {f : Session → Session} (hf : Tame f)
    (ho : Orderly s.tables id f) (hh : Harmless f) :
    Sound options { s with tables := s.tables.update id f } := by
  refine h.quiet ?_ (hh.circuit s.tables id) rfl rfl (SessionTables.keys_update s.tables id f) ?_ ?_ ?_ h.clock
  · exact h.consistent.tables.update hf ho
  · simp
  · simp
  · simp

/-- Something happened to the connections of a session. -/
theorem Sound.focus (h : Sound options s) (event : TcpEvent) (circuit' : Circuit) (hi : Inner event)
    (ha : Allowed options s.log event)
    (hd : (due (event :: s.log)).isSome) (hlog : s'.log = event :: s.log) (hconsistent : Consistent s')
    (hstop : s'.stop = s.stop) (hkeys : s'.tables.sessions.keys = s.tables.sessions.keys)
    (hclock : s'.clock = s.clock) {side : Side} {c : Connection}
    (hcircuit : s.tables.circuit id = some circuit) (hwire : circuit.wire side = some c)
    (hcircuits : ∀ id', s'.tables.circuit id' = if id' = id then some circuit' else s.tables.circuit id')
    (hevent : ∀ c', c' ≠ c → (hear s.log (some c')).after c' event = hear s.log (some c'))
    (htold : Told (event :: s.log) id circuit') : Sound options s' := by
  apply h.inner event hi ha hd hlog hconsistent hstop hkeys hclock
  intro id' circuit'' hcircuit''
  rw [hcircuits] at hcircuit''
  rw [hlog]
  split at hcircuit''
  · rename_i hid
    obtain rfl := Option.some.inj hcircuit''
    rwa [hid]
  · rename_i hid
    -- no other session has that connection
    apply (h.told hcircuit'').cons
    · rintro c' rfl
      exact hi
    · intro side'
      cases hwire' : circuit''.wire side' with
      | none => rfl
      | some c' =>
        apply hevent
        rintro rfl
        exact hid (h.consistent.tables.wires_apart hcircuit'' hcircuit hwire' hwire)

/-- Something happened to the connections of a session, and it is changed. -/
theorem Sound.change (h : Sound options s) (event : TcpEvent) (hi : Inner event)
    (hr : ∀ token target, event ≠ .registered token target) (ha : Allowed options s.log event)
    (hd : (due (event :: s.log)).isSome) {session : Session} {f : Session → Session} {side : Side}
    {c : Connection} (hsession : s.tables.sessions.lookup id = some session) (hf : Tame f)
    (ho : Orderly s.tables id f) (hwire : s.tables.connection (session.ends side).fd = some c)
    (hevent : ∀ c', c' ≠ c → (hear s.log (some c')).after c' event = hear s.log (some c'))
    (htold : Told (event :: s.log) id (s.tables.circuitOf (f session))) :
    Sound options { s with log := event :: s.log, tables := s.tables.update id f } := by
  refine h.focus event _ hi ha hd rfl ?_ rfl (SessionTables.keys_update s.tables id f) rfl
    (SessionTables.circuit_of_lookup hsession) hwire (SessionTables.circuit_update hsession) hevent htold
  exact h.consistent.inner event hi hr rfl (h.consistent.tables.update hf ho) SessionTables.update_nextSessionId
    SessionTables.update_connections SessionTables.update_tokens rfl

/-! ### What happens to a connected session -/

section Connected

variable {session : Session} {source : Side} {c : Connection}

/-- A connected session has two connections. -/
theorem Sound.joined (h : Sound options s) (hsession : s.tables.sessions.lookup id = some session)
    (hconnected : session.connecting = false) (side : Side) :
    ∃ c c', s.tables.connection (session.ends side).fd = some c ∧
      s.tables.connection (session.ends side.other).fd = some c' ∧ Joins s.log id c c' ∧ c.side = side := by
  have hopen : ∀ side, ∃ c, s.tables.connection (session.ends side).fd = some c := by
    intro side
    cases hfd : (session.ends side).fd with
    | none =>
      have hconnecting := (h.consistent.tables.opened hsession hfd).2
      rw [hconnected] at hconnecting
      cases hconnecting
    | some fd =>
      obtain ⟨c, hc, -⟩ := h.consistent.tables.wire hsession hfd
      exact ⟨c, by rw [← hfd, hc]⟩
  have htold := h.told (SessionTables.circuit_of_lookup hsession)
  obtain ⟨c, hc⟩ := hopen side
  obtain ⟨c', hc'⟩ := hopen side.other
  obtain ⟨hmem, hside⟩ := htold.attached.mp hc
  obtain ⟨hmem', hside'⟩ := htold.attached.mp hc'
  have hgoing : Going s.log id := h.entries.mp (Finmap.mem_of_lookup_eq_some hsession)
  exact ⟨c, c', hc, hc', ⟨hmem, hmem', by rw [hside, hside'], hgoing.unclosed⟩, hside⟩

theorem Sound.running (h : Sound options s) (hrunning : s.stop.draining = false) : ¬ Stopping s.log := by
  intro hstopping
  rw [← h.draining, hrunning] at hstopping
  cases hstopping

/-- What a connected session queues does not concern how it waits. -/
theorem orderly_of_connected {tables : SessionTables} {f : Session → Session}
    (hsession : tables.sessions.lookup id = some session) (hconnected : session.connecting = false)
    (hconnecting : ∀ session, (f session).connecting = session.connecting) : Orderly tables id f where
  connecting session _ := .inl (hconnecting session)
  waiting session' hsession' hwaiting := by
    rw [hsession] at hsession'
    obtain rfl := Option.some.inj hsession'
    rw [hconnected] at hwaiting
    cases hwaiting

/-- Bytes are received. -/
theorem Sound.received (h : Sound options s) (hd : due s.log = some .nothing)
    (hrunning : s.stop.draining = false) (hsession : s.tables.sessions.lookup id = some session)
    (hconnected : session.connecting = false) (hmore : (session.ends source).eof = false) {bytes : Bytes}
    {buffer : TcpPendingBuffer} (hbuffer : buffer.content = (session.pending source).content ++ bytes) :
    Sound options { s with
      log := .received (s.tables.connection (session.ends source).fd) bytes :: s.log
      tables := s.tables.update id fun session => { session with
        pending := Function.update session.pending source buffer } } := by
  obtain ⟨c, c', hc, -, hjoins, -⟩ := h.joined hsession hconnected source
  have htold := h.told (SessionTables.circuit_of_lookup hsession)
  have hended : (hear s.log (some c)).ended = false := by
    rw [← hc, ← hmore]
    exact htold.eof source
  rw [hc]
  refine h.change (.received (some c) bytes) trivial (by nofun) ⟨h.running hrunning, id, c, c', rfl, hjoins, hended⟩
    ?_ hsession
    ⟨fun _ => rfl, fun _ _ => rfl, fun _ _ => rfl⟩ (orderly_of_connected hsession hconnected fun _ => rfl)
    hc ?_ ?_
  · rw [due_cons hd]
    rfl
  · exact fun c' hne => if_neg fun he => hne (Option.some.inj he).symm
  · have hcircuit : s.tables.circuitOf { session with pending := Function.update session.pending source buffer } =
        (s.tables.circuitOf session).receive source bytes := by
      simp only [SessionTables.circuitOf, Circuit.receive, Circuit.mk.injEq, true_and, and_true]
      funext side
      by_cases hside : side = source
      · subst hside
        simp only [Function.update_self, hbuffer]
      · simp only [Function.update_of_ne hside]
    rw [hcircuit]
    exact htold.receive hc hmore bytes

/-- A side has ended. -/
theorem Sound.ended (h : Sound options s) (hd : due s.log = some .nothing)
    (hrunning : s.stop.draining = false) (hsession : s.tables.sessions.lookup id = some session)
    (hconnected : session.connecting = false) (hmore : (session.ends source).eof = false) :
    Sound options { s with
      log := .ended (s.tables.connection (session.ends source).fd) :: s.log
      tables := s.tables.update id (·.setEnd source fun endpoint => { endpoint with eof := true }) } := by
  obtain ⟨c, c', hc, -, hjoins, -⟩ := h.joined hsession hconnected source
  have htold := h.told (SessionTables.circuit_of_lookup hsession)
  have hended : (hear s.log (some c)).ended = false := by
    rw [← hc, ← hmore]
    exact htold.eof source
  have hstill : Still (·.setEnd source fun endpoint => { endpoint with eof := true }) :=
    Still.setEnd (fun _ => rfl) (fun _ => rfl) (fun _ => rfl) fun _ => rfl
  have htame := hstill.toTame
  rw [hc]
  refine h.change (.ended (some c)) trivial (by nofun) ⟨h.running hrunning, id, c, c', rfl, hjoins, hended⟩ ?_
    hsession htame (orderly_of_connected hsession hconnected fun _ => rfl) hc ?_ ?_
  · rw [due_cons hd]
    rfl
  · exact fun c' hne => if_neg fun he => hne (Option.some.inj he).symm
  · have hcircuit : s.tables.circuitOf (session.setEnd source fun endpoint => { endpoint with eof := true }) =
        (s.tables.circuitOf session).finish source := by
      simp only [SessionTables.circuitOf, Circuit.finish, Circuit.mk.injEq]
      refine ⟨?_, rfl, rfl, ?_, ?_⟩
      · funext side
        rw [htame.fd]
      · funext side
        by_cases hside : side = source
        · rw [hside, Session.setEnd_ends, Function.update_self, Function.update_self]
        · rw [Session.setEnd_ends, Function.update_of_ne hside, Function.update_of_ne hside]
      · funext side
        apply setEnd_field (·.shutdown)
        intro endpoint
        rfl
    rw [hcircuit]
    exact htold.finish hc

/-- A side for which something is queued was not told that nothing more comes. -/
theorem Sound.unshut (h : Sound options s) (hsession : s.tables.sessions.lookup id = some session)
    (hc : s.tables.connection (session.ends source.other).fd = some c) (hqueue : (session.pending source).content ≠ []) :
    (hear s.log (some c)).shut = false := by
  have htold := h.told (SessionTables.circuit_of_lookup hsession)
  have hwire : (s.tables.circuitOf session).wire source.other = some c := hc
  rw [← hwire, htold.shutdown source.other]
  cases hshutdown : (s.tables.circuitOf session).shutdown source.other with
  | false => rfl
  | true =>
    have hempty := (htold.finished source.other hshutdown).2
    rw [Side.other_other] at hempty
    exact absurd hempty hqueue

theorem Sound.going (h : Sound options s) (hgoing : s.stop.stopRequested = false) : .stopped ∉ s.log := by
  rw [← h.stopped, hgoing]
  exact Bool.false_ne_true

/-- What `send` is called for. -/
theorem Sound.send_allowed (h : Sound options s) (hgoing : s.stop.stopRequested = false)
    (hsession : s.tables.sessions.lookup id = some session) (hconnected : session.connecting = false)
    (hqueue : (session.pending source).content ≠ []) :
    TcpAttempt.Allowed s.log (s.tables.connection (session.ends source.other).fd) .send := by
  obtain ⟨c, c', hc, -, hjoins, -⟩ := h.joined hsession hconnected source.other
  exact ⟨h.going hgoing, id, c, c', hc, hjoins, h.unshut hsession hc hqueue⟩

/-- What `recv` is called for. -/
theorem Sound.receive_allowed (h : Sound options s) (hrunning : s.stop.draining = false)
    (hsession : s.tables.sessions.lookup id = some session) (hconnected : session.connecting = false)
    (hmore : (session.ends source).eof = false) :
    TcpAttempt.Allowed s.log (s.tables.connection (session.ends source).fd) .receive := by
  obtain ⟨c, c', hc, -, hjoins, -⟩ := h.joined hsession hconnected source
  have htold := h.told (SessionTables.circuit_of_lookup hsession)
  have hended : (hear s.log (some c)).ended = false := by
    rw [← hc, ← hmore]
    exact htold.eof source
  exact ⟨h.running hrunning, id, c, c', hc, hjoins, hended⟩

/-- Bytes are sent. -/
theorem Sound.sent (h : Sound options s) (hd : due s.log = some .nothing) (hcounted : AllCounted s.log)
    (hgoing : s.stop.stopRequested = false) (hsession : s.tables.sessions.lookup id = some session)
    (hconnected : session.connecting = false) {bytes : Bytes}
    (hbytes : bytes <+: (session.pending source).content) (hne : bytes ≠ []) :
    Sound options (s.record (.sent (s.tables.connection (session.ends source.other).fd) bytes)) := by
  obtain ⟨c, c', hc, hc', hjoins, -⟩ := h.joined hsession hconnected source.other
  have hcircuit := SessionTables.circuit_of_lookup hsession
  have htold := h.told hcircuit
  rw [Side.other_other] at hc'
  have hwire : (s.tables.circuitOf session).wire source.other = some c := hc
  have hqueue : (session.pending source).content ≠ [] := by
    intro hempty
    rw [hempty] at hbytes
    exact hne (List.prefix_nil.mp hbytes)
  have hfront : (hear s.log (some c)).sent ++ bytes <+: (hear s.log (some c')).received := by
    have hreceived := htold.received source.other
    rw [Side.other_other] at hreceived
    have hwire' : (s.tables.circuitOf session).wire source = some c' := hc'
    rw [hwire, hwire', hcounted c, List.length_nil, List.drop_zero] at hreceived
    rw [hreceived]
    exact (List.prefix_append_right_inj _).mpr hbytes
  rw [hc]
  refine h.focus (.sent (some c) bytes) (s.tables.circuitOf session) trivial
    ⟨hcounted, h.going hgoing, hne, id, c, c', rfl, hjoins, h.unshut hsession hc hqueue, hfront⟩
    ?_ rfl ?_ rfl rfl rfl hcircuit hwire ?_ ?_ ?_
  · rw [due_cons hd]
    rfl
  · exact h.consistent.inner (.sent (some c) bytes) trivial (by nofun) rfl h.consistent.tables rfl rfl rfl rfl
  · intro id'
    by_cases hid : id' = id
    · rw [if_pos hid, hid]
      exact hcircuit
    · rw [if_neg hid]
      rfl
  · exact fun c' hne => if_neg fun he => hne (Option.some.inj he).symm
  · exact htold.send hwire (hcounted c) hbytes

/-- What was sent is counted. -/
theorem Sound.counted (h : Sound options s) (hd : due s.log = some .nothing)
    (hsession : s.tables.sessions.lookup id = some session) (hconnected : session.connecting = false)
    {c : Connection} (hc : s.tables.connection (session.ends source.other).fd = some c)
    (hpending : (hear s.log (some c)).uncounted ≠ [])
    (hother : ∀ c', c' ≠ c → (hear s.log (some c')).uncounted = []) {buffer : TcpPendingBuffer} {n : ℕ}
    (hn : n = (hear s.log (some c)).uncounted.length)
    (hbuffer : buffer.content = (session.pending source).content.drop n) :
    Sound options { s with
      log := .statistic ⟨bytesKind source, n⟩ :: s.log
      tables := s.tables.update id fun session => { session with
        pending := Function.update session.pending source buffer
        sent := Function.update session.sent source (session.sent source + n) } } := by
  have htold := h.told (SessionTables.circuit_of_lookup hsession)
  have hwire : (s.tables.circuitOf session).wire source.other = some c := hc
  have hkind : countsBytes (bytesKind source) := by cases source <;> simp [countsBytes, bytesKind]
  have hside : c.side.other = source := by rw [(htold.attached.mp hwire).2, Side.other_other]
  subst hn
  refine h.change (.statistic ⟨bytesKind source, (hear s.log (some c)).uncounted.length⟩) trivial (by nofun)
    ⟨fun _ => ⟨c, hpending, by rw [hside]⟩, fun hcreated => ?_⟩ ?_ hsession ⟨fun _ => rfl, fun _ _ => rfl, fun _ _ => rfl⟩
    (orderly_of_connected hsession hconnected fun _ => rfl) hc ?_ ?_
  · cases source <;> cases hcreated
  · rw [due_cons hd]
    cases source <;> rfl
  · exact fun c' hne => if_neg fun he => he.2 (hother c' hne)
  · have hcircuit : s.tables.circuitOf { session with
        pending := Function.update session.pending source buffer
        sent := Function.update session.sent source
          (session.sent source + (hear s.log (some c)).uncounted.length) } =
        (s.tables.circuitOf session).account source (hear s.log (some c)).uncounted.length := by
      simp only [SessionTables.circuitOf, Circuit.account, Circuit.mk.injEq, true_and, and_true]
      funext side
      by_cases hside : side = source
      · rw [hside, Function.update_self, Function.update_self, hbuffer]
      · rw [Function.update_of_ne hside, Function.update_of_ne hside]
    rw [hcircuit]
    exact htold.account hwire hpending hkind hother

/-- What `shutdown` is called for. -/
theorem Sound.shutdown_allowed (h : Sound options s)
    (hrunning : s.stop.draining = false) (hsession : s.tables.sessions.lookup id = some session)
    (hconnected : session.connecting = false) (heof : (session.ends source).eof = true)
    (hempty : (session.pending source).size = 0) (hmore : (session.ends source.other).shutdown = false) :
    TcpAttempt.Allowed s.log (s.tables.connection (session.ends source.other).fd) .shutdown := by
  obtain ⟨c, c', hc, hc', hjoins, -⟩ := h.joined hsession hconnected source.other
  have htold := h.told (SessionTables.circuit_of_lookup hsession)
  rw [Side.other_other] at hc'
  have hwire : (s.tables.circuitOf session).wire source.other = some c := hc
  have hwire' : (s.tables.circuitOf session).wire source = some c' := hc'
  have hreceived := htold.received source.other
  have hqueue : (s.tables.circuitOf session).queue source = [] := TcpPendingBuffer.content_eq_nil.mpr hempty
  rw [Side.other_other, hqueue, List.drop_nil, List.append_nil, hwire, hwire'] at hreceived
  refine ⟨h.running hrunning, id, c, c', hc, hjoins, ?_, hreceived, ?_⟩
  · rw [← hwire', htold.eof source]
    exact heof
  · rw [← hwire, htold.shutdown source.other]
    exact hmore

/-- A side was told that no more will be sent. -/
theorem Sound.shut (h : Sound options s) (hd : due s.log = some .nothing) (hcounted : AllCounted s.log)
    (hrunning : s.stop.draining = false) (hsession : s.tables.sessions.lookup id = some session)
    (hconnected : session.connecting = false) (heof : (session.ends source).eof = true)
    (hempty : (session.pending source).size = 0) (hmore : (session.ends source.other).shutdown = false) :
    Sound options { s with
      log := .shut (s.tables.connection (session.ends source.other).fd) :: s.log
      tables := s.tables.update id (·.setEnd source.other fun endpoint => { endpoint with shutdown := true }) } := by
  have hallowed := h.shutdown_allowed hrunning hsession hconnected heof hempty hmore
  obtain ⟨c, -, hc, -⟩ := h.joined hsession hconnected source.other
  have htold := h.told (SessionTables.circuit_of_lookup hsession)
  have hstill : Still (·.setEnd source.other fun endpoint => { endpoint with shutdown := true }) :=
    Still.setEnd (fun _ => rfl) (fun _ => rfl) (fun _ => rfl) fun _ => rfl
  have htame := hstill.toTame
  rw [hc] at hallowed ⊢
  refine h.change (.shut (some c)) trivial (by nofun) ⟨hcounted, hallowed⟩ ?_ hsession htame
    (orderly_of_connected hsession hconnected fun _ => rfl) hc ?_ ?_
  · rw [due_cons hd]
    rfl
  · exact fun c' hne => if_neg fun he => hne (Option.some.inj he).symm
  · have hcircuit : s.tables.circuitOf
        (session.setEnd source.other fun endpoint => { endpoint with shutdown := true }) =
          (s.tables.circuitOf session).shut source.other := by
      simp only [SessionTables.circuitOf, Circuit.shut, Circuit.mk.injEq]
      refine ⟨?_, rfl, rfl, ?_, ?_⟩
      · funext side
        rw [htame.fd]
      · funext side
        apply setEnd_field (·.eof)
        intro endpoint
        rfl
      · funext side
        by_cases hside : side = source.other
        · rw [hside, Session.setEnd_ends, Function.update_self, Function.update_self]
        · rw [Session.setEnd_ends, Function.update_of_ne hside, Function.update_of_ne hside]
    rw [hcircuit]
    exact htold.shut hc heof (TcpPendingBuffer.content_eq_nil.mpr hempty)

end Connected

end L4lb.Net.Tcp
