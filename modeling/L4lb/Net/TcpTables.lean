import L4lb.Net.TcpCircuits

/-!
# The tables of the TCP reactor

The tables are `Consistent` whenever a call is made: sessions and tokens are found by
each other, and no two sessions share a connection. Each change of the tables keeps this.
-/

namespace L4lb.Net.Tcp

/-! ### Changes of a session -/

/-- A change of a session that the tables do not depend on. -/
structure Tame (f : Session → Session) : Prop where
  /-- The id. -/
  id : ∀ session, (f session).id = session.id
  /-- What is open. -/
  fd : ∀ session side, ((f session).ends side).fd = (session.ends side).fd
  /-- What events carry. -/
  token : ∀ session side, ((f session).ends side).token = (session.ends side).token

/-- A change that leaves what is registered. -/
structure Still (f : Session → Session) : Prop extends Tame f where
  /-- It is registered or not. -/
  registered : ∀ session side, ((f session).ends side).registered = (session.ends side).registered
  /-- What for. -/
  interest : ∀ session side, ((f session).ends side).interest = (session.ends side).interest

/-- A change that the circuit does not depend on. -/
structure Harmless (f : Session → Session) : Prop where
  /-- What is open. -/
  fd : ∀ session side, ((f session).ends side).fd = (session.ends side).fd
  /-- The queues. -/
  pending : ∀ session, (f session).pending = session.pending
  /-- The counts. -/
  sent : ∀ session, (f session).sent = session.sent
  /-- What has ended. -/
  eof : ∀ session side, ((f session).ends side).eof = (session.ends side).eof
  /-- Who was told. -/
  shutdown : ∀ session side, ((f session).ends side).shutdown = (session.ends side).shutdown

/-- A change of the session with an id that connects it only when it has its backend, and
queues nothing before. -/
structure Orderly (tables : SessionTables) (id : ℕ) (f : Session → Session) : Prop where
  /-- It is connected only when it has its backend. -/
  connecting : ∀ session, tables.sessions.lookup id = some session →
    (f session).connecting = session.connecting ∨
      (f session).connecting = false ∧ (session.ends .backend).fd ≠ none
  /-- Before, nothing is queued. -/
  waiting : ∀ session, tables.sessions.lookup id = some session → session.connecting = true →
    ∀ side, (session.pending side).size = 0 → ((f session).pending side).size = 0

theorem Orderly.of_eq {tables : SessionTables} {id : ℕ} {f : Session → Session}
    (hconnecting : ∀ session, (f session).connecting = session.connecting)
    (hpending : ∀ session, (f session).pending = session.pending) : Orderly tables id f where
  connecting session _ := .inl (hconnecting session)
  waiting session _ _ side h := by rw [hpending, h]

theorem Harmless.circuitOf {f : Session → Session} (hf : Harmless f) (tables : SessionTables)
    (session : Session) : tables.circuitOf (f session) = tables.circuitOf session := by
  simp only [SessionTables.circuitOf, hf.fd, hf.pending, hf.sent, hf.eof, hf.shutdown]

theorem Harmless.circuit {f : Session → Session} (hf : Harmless f) (tables : SessionTables)
    (id id' : ℕ) : (tables.update id f).circuit id' = tables.circuit id' := by
  cases h : tables.sessions.lookup id with
  | none => rw [SessionTables.update, h]
  | some session =>
    rw [SessionTables.circuit_update h, hf.circuitOf]
    split
    · rename_i hid
      rw [hid, SessionTables.circuit_of_lookup h]
    · rfl

@[simp] theorem Session.setEnd_ends (session : Session) (side : Side)
    (f : EndpointState → EndpointState) :
    (session.setEnd side f).ends = Function.update session.ends side (f (session.ends side)) := rfl

/-- What a change of one end leaves alone, of a field `g` of the ends. -/
theorem setEnd_field {α : Type} (g : EndpointState → α) {side : Side} {f : EndpointState → EndpointState}
    (h : ∀ endpoint, g (f endpoint) = g endpoint) (session : Session) (side' : Side) :
    g ((session.setEnd side f).ends side') = g (session.ends side') := by
  by_cases hside : side' = side
  · rw [hside, Session.setEnd_ends, Function.update_self, h]
  · rw [Session.setEnd_ends, Function.update_of_ne hside]

theorem Still.setEnd {side : Side} {f : EndpointState → EndpointState}
    (hfd : ∀ endpoint, (f endpoint).fd = endpoint.fd)
    (htoken : ∀ endpoint, (f endpoint).token = endpoint.token)
    (hregistered : ∀ endpoint, (f endpoint).registered = endpoint.registered)
    (hinterest : ∀ endpoint, (f endpoint).interest = endpoint.interest) : Still (·.setEnd side f) where
  id _ := rfl
  fd := setEnd_field (·.fd) hfd
  token := setEnd_field (·.token) htoken
  registered := setEnd_field (·.registered) hregistered
  interest := setEnd_field (·.interest) hinterest

theorem Harmless.setEnd {side : Side} {f : EndpointState → EndpointState}
    (hfd : ∀ endpoint, (f endpoint).fd = endpoint.fd) (heof : ∀ endpoint, (f endpoint).eof = endpoint.eof)
    (hshutdown : ∀ endpoint, (f endpoint).shutdown = endpoint.shutdown) :
    Harmless (·.setEnd side f) where
  fd := setEnd_field (·.fd) hfd
  pending _ := rfl
  sent _ := rfl
  eof := setEnd_field (·.eof) heof
  shutdown := setEnd_field (·.shutdown) hshutdown

/-! ### The tables between calls -/

/-- The tables agree. -/
structure SessionTables.Consistent (tables : SessionTables) : Prop where
  /-- A session is found by its id. -/
  id : ∀ {id session}, tables.sessions.lookup id = some session →
    session.id = id ∧ id < tables.nextSessionId
  /-- What a session has open is a connection to that side. -/
  wired : ∀ {id session side fd}, tables.sessions.lookup id = some session →
    (session.ends side).fd = some fd →
    ∃ serial, tables.descriptors.lookup fd = some (.connection ⟨side, serial⟩)
  /-- It has its client, and its backend when it is connected. -/
  opened : ∀ {id session side}, tables.sessions.lookup id = some session →
    (session.ends side).fd = none → side = .backend ∧ session.connecting = true
  /-- Nothing is queued before it is connected. -/
  waiting : ∀ {id session side}, tables.sessions.lookup id = some session → session.connecting = true →
    (session.pending side).size = 0
  /-- No two sessions share a connection. -/
  apart : ∀ {id id' session session' side fd}, tables.sessions.lookup id = some session →
    tables.sessions.lookup id' = some session' → (session.ends side).fd = some fd →
    (session'.ends side).fd = some fd → id = id'
  /-- Connections are numbered in order. -/
  numbered : ∀ {fd connection}, tables.descriptors.lookup fd = some (.connection connection) →
    connection.serial < tables.connections
  /-- No two numbers stand for one connection. -/
  distinct : ∀ {fd fd' connection}, tables.descriptors.lookup fd = some (.connection connection) →
    tables.descriptors.lookup fd' = some (.connection connection) → fd = fd'
  /-- A token is that of an end of a session that has its backend. -/
  token : ∀ {token target}, tables.tokens.entries.lookup token = some target →
    ∃ session, tables.sessions.lookup target.sessionId = some session ∧
      (session.ends target.side).token = token ∧ (session.ends .backend).fd ≠ none
  /-- The token of an end is its own, if it has one. -/
  registered : ∀ {id session side}, tables.sessions.lookup id = some session →
    (session.ends side).token ≠ 0 →
    tables.tokens.entries.lookup (session.ends side).token = some ⟨id, side⟩
  /-- Tokens are given out in order. -/
  token_lt : ∀ {token target}, tables.tokens.entries.lookup token = some target →
    3 ≤ token ∧ token < tables.tokens.nextToken
  /-- They start at three. -/
  next_ge : 3 ≤ tables.tokens.nextToken

/-- The reasons that claim something of a session. -/
def reserved : List String := ["service-stop-drained", "drained", "connect-timeout", "idle-timeout"]

/-- The tables agree, and with the rest. -/
structure Consistent (s : TcpReactor) : Prop where
  /-- The tables. -/
  tables : s.tables.Consistent
  /-- Sessions and connections are new. -/
  attached : ∀ {id c}, .attached id c ∈ s.log → id < s.tables.nextSessionId ∧
    ∃ connection, c = some connection ∧ connection.serial < s.tables.connections
  /-- Tokens are new. -/
  issued : ∀ {token target}, .registered token target ∈ s.log → token < s.tables.tokens.nextToken
  /-- A stop claims nothing of the sessions. -/
  reason : s.stop.stopReason ∉ reserved

namespace SessionTables

variable {tables : SessionTables} {id : ℕ} {session : Session} {f : Session → Session} {fd : ℕ}

theorem connection_of_lookup {connection : Connection}
    (h : tables.descriptors.lookup fd = some (.connection connection)) :
    tables.connection (some fd) = some connection := by
  simp only [SessionTables.connection, Option.bind_some, h]

theorem Consistent.wire (h : tables.Consistent) {side : Side}
    (hsession : tables.sessions.lookup id = some session) (hfd : (session.ends side).fd = some fd) :
    ∃ connection, tables.connection (session.ends side).fd = some connection ∧
      connection.side = side ∧ connection.serial < tables.connections := by
  obtain ⟨serial, hdescriptor⟩ := h.wired hsession hfd
  refine ⟨⟨side, serial⟩, ?_, rfl, h.numbered hdescriptor⟩
  rw [hfd]
  exact connection_of_lookup hdescriptor

/-- Changing a session; it is connected only when it has its backend. -/
theorem Consistent.update (h : tables.Consistent) (hf : Tame f) (ho : Orderly tables id f) :
    (tables.update id f).Consistent := by
  cases hsession : tables.sessions.lookup id with
  | none => rwa [SessionTables.update, hsession]
  | some session =>
    have hlookup := lookup_update (f := f) hsession
    -- a session afterwards is one from before, but for what `f` changes
    have hback : ∀ {id' session'}, (tables.update id f).sessions.lookup id' = some session' →
        ∃ session'', tables.sessions.lookup id' = some session'' ∧ session'.id = session''.id ∧
          ∀ side, (session'.ends side).fd = (session''.ends side).fd := by
      intro id' session' h'
      rw [hlookup] at h'
      split at h'
      · rename_i hid
        obtain rfl := Option.some.inj h'
        exact ⟨session, by rw [hid, hsession], hf.id session, hf.fd session⟩
      · exact ⟨session', h', rfl, fun _ => rfl⟩
    constructor
    · intro id' session' h'
      obtain ⟨session'', h'', hid, -⟩ := hback h'
      rw [hid, update_nextSessionId]
      exact h.id h''
    · intro id' session' side fd h' hfd
      obtain ⟨session'', h'', -, hends⟩ := hback h'
      rw [update_descriptors]
      exact h.wired h'' (by rw [← hends, hfd])
    · intro id' session' side h' hfd
      rw [hlookup] at h'
      split at h'
      · obtain rfl := Option.some.inj h'
        rw [hf.fd] at hfd
        obtain ⟨rfl, hconnecting⟩ := h.opened hsession hfd
        refine ⟨rfl, ?_⟩
        rcases ho.connecting session hsession with hsame | ⟨-, hbackend⟩
        · rw [hsame, hconnecting]
        · exact absurd hfd hbackend
      · exact h.opened h' hfd
    · intro id' session' side h' hconnecting
      rw [hlookup] at h'
      split at h'
      · obtain rfl := Option.some.inj h'
        rcases ho.connecting session hsession with hsame | ⟨hconnected, -⟩
        · rw [hsame] at hconnecting
          exact ho.waiting session hsession hconnecting side (h.waiting hsession hconnecting)
        · rw [hconnected] at hconnecting
          cases hconnecting
      · exact h.waiting h' hconnecting
    · intro id₁ id₂ session₁ session₂ side fd h₁ h₂ hfd₁ hfd₂
      obtain ⟨session₁', h₁', -, hends₁⟩ := hback h₁
      obtain ⟨session₂', h₂', -, hends₂⟩ := hback h₂
      exact h.apart h₁' h₂' (by rw [← hends₁, hfd₁]) (by rw [← hends₂, hfd₂])
    · intro fd connection hfd
      rw [update_descriptors] at hfd
      rw [update_connections]
      exact h.numbered hfd
    · intro fd fd' connection hfd hfd'
      rw [update_descriptors] at hfd hfd'
      exact h.distinct hfd hfd'
    · intro token target htoken
      rw [update_tokens] at htoken
      obtain ⟨session', h', hends, hbackend⟩ := h.token htoken
      rw [hlookup]
      by_cases hid : target.sessionId = id
      · rw [if_pos hid]
        rw [hid, hsession] at h'
        obtain rfl := Option.some.inj h'
        exact ⟨f session, rfl, by rw [hf.token, hends], by rwa [hf.fd]⟩
      · rw [if_neg hid]
        exact ⟨session', h', hends, hbackend⟩
    · intro id' session' side h' htoken
      rw [hlookup] at h'
      rw [update_tokens]
      split at h'
      · rename_i hid
        obtain rfl := Option.some.inj h'
        rw [hf.token] at htoken ⊢
        rw [hid]
        exact h.registered hsession htoken
      · exact h.registered h' htoken
    · intro token target htoken
      rw [update_tokens] at htoken ⊢
      exact h.token_lt htoken
    · rw [update_tokens]
      exact h.next_ge

/-- Closing what no session uses. -/
theorem Consistent.release (h : tables.Consistent) (hunused : tables.Unused fd) :
    (tables.release (some fd)).Consistent := by
  constructor
  · exact h.id
  · intro id session side fd' hsession hfd'
    have hne : fd' ≠ fd := fun he => hunused id session side hsession (by rw [hfd', he])
    simp only [SessionTables.release]
    rw [Finmap.lookup_erase_ne hne]
    exact h.wired hsession hfd'
  · exact h.opened
  · exact h.waiting
  · exact h.apart
  · exact fun h' => h.numbered (Table.lookup_of_lookup_erase h')
  · exact fun h₁ h₂ => h.distinct (Table.lookup_of_lookup_erase h₁) (Table.lookup_of_lookup_erase h₂)
  · exact h.token
  · exact h.registered
  · exact h.token_lt
  · exact h.next_ge

theorem circuit_release (hunused : tables.Unused fd) (id : ℕ) :
    (tables.release (some fd)).circuit id = tables.circuit id := by
  have hsessions : (tables.release (some fd)).sessions = tables.sessions := rfl
  refine circuit_congr hsessions (fun fd' hused => ?_) id
  have hne : fd' ≠ fd := by
    rintro rfl
    exact hused hunused
  exact Finmap.lookup_erase_ne hne

/-- A session is taken out. -/
theorem Consistent.remove (h : tables.Consistent) (hsession : tables.sessions.lookup id = some session) :
    (tables.remove session id).Consistent := by
  have hback : ∀ {id' session'}, (tables.remove session id).sessions.lookup id' = some session' →
      tables.sessions.lookup id' = some session' := Table.lookup_of_lookup_erase
  have hentry : ∀ {token target}, (tables.remove session id).tokens.entries.lookup token = some target →
      tables.tokens.entries.lookup token = some target := fun h' =>
    Table.lookup_of_lookup_erase (Table.lookup_of_lookup_erase h')
  constructor
  · exact fun h' => h.id (hback h')
  · exact fun h' => h.wired (hback h')
  · exact fun h' => h.opened (hback h')
  · exact fun h' => h.waiting (hback h')
  · exact fun h₁ h₂ => h.apart (hback h₁) (hback h₂)
  · exact h.numbered
  · exact h.distinct
  · intro token target htoken
    obtain ⟨session', h', hends, hbackend⟩ := h.token (hentry htoken)
    refine ⟨session', ?_, hends, hbackend⟩
    -- a token of the session taken out is not an entry any more
    have hne : target.sessionId ≠ id := by
      intro hid
      rw [hid, hsession] at h'
      obtain rfl := Option.some.inj h'
      have hgone : ∀ side, token ≠ (session.ends side).token := by
        intro side he
        subst he
        simp only [SessionTables.remove, EndpointTokens.unregisterEndpoint] at htoken
        cases side with
        | backend =>
          rw [Finmap.lookup_erase] at htoken
          cases htoken
        | client =>
          have := Table.lookup_of_lookup_erase htoken
          rw [Finmap.lookup_erase] at this
          cases this
      exact hgone target.side hends.symm
    simp only [SessionTables.remove]
    rwa [Finmap.lookup_erase_ne hne]
  · intro id' session' side' h' htoken
    have hlookup := hback h'
    have hentry' := h.registered hlookup htoken
    -- the tokens taken out are those of the session taken out
    have hne : ∀ side, (session'.ends side').token ≠ (session.ends side).token := by
      intro side he
      rw [he] at htoken hentry'
      rw [h.registered hsession htoken] at hentry'
      obtain ⟨rfl, -⟩ := TokenTarget.mk.inj (Option.some.inj hentry')
      rw [SessionTables.remove, Finmap.lookup_erase] at h'
      cases h'
    simp only [SessionTables.remove, EndpointTokens.unregisterEndpoint]
    rw [Finmap.lookup_erase_ne (hne .backend), Finmap.lookup_erase_ne (hne .client)]
    exact hentry'
  · exact fun h' => h.token_lt (hentry h')
  · exact h.next_ge

/-- What a session had open is unused when it is taken out. -/
theorem Consistent.unused_remove (h : tables.Consistent) {side : Side}
    (hsession : tables.sessions.lookup id = some session) (hfd : (session.ends side).fd = some fd) :
    (tables.remove session id).Unused fd := by
  intro id' session' side' h' hfd'
  have hlookup := Table.lookup_of_lookup_erase h'
  obtain ⟨serial, hdescriptor⟩ := h.wired hsession hfd
  obtain ⟨serial', hdescriptor'⟩ := h.wired hlookup hfd'
  rw [hdescriptor] at hdescriptor'
  obtain rfl : side = side' := by
    simp only [Option.some.injEq, TcpDescriptor.connection.injEq, Connection.mk.injEq] at hdescriptor'
    exact hdescriptor'.1
  obtain rfl := h.apart hsession hlookup hfd hfd'
  simp only [SessionTables.remove] at h'
  rw [Finmap.lookup_erase] at h'
  cases h'

theorem circuit_remove (id' : ℕ) :
    (tables.remove session id).circuit id' = if id' = id then none else tables.circuit id' := by
  have hof : ∀ session', (tables.remove session id).circuitOf session' = tables.circuitOf session' :=
    fun _ => rfl
  by_cases hid : id' = id
  · rw [if_pos hid, circuit_of_none]
    rw [hid]
    exact Finmap.lookup_erase _ _
  · rw [if_neg hid, circuit, circuit]
    simp only [SessionTables.remove]
    rw [Finmap.lookup_erase_ne hid]
    rfl

variable {side : Side} {descriptor : TcpDescriptor}

/-- What a session has open is under a number in use. -/
theorem Consistent.mem_of_used (h : tables.Consistent) (hused : ¬ tables.Unused fd) :
    fd ∈ tables.descriptors := by
  unfold SessionTables.Unused at hused
  push Not at hused
  obtain ⟨id, session, side, hsession, hfd⟩ := hused
  obtain ⟨serial, hdescriptor⟩ := h.wired hsession hfd
  exact Finmap.mem_of_lookup_eq_some hdescriptor

theorem Consistent.unused_of_notMem (h : tables.Consistent) (hfd : fd ∉ tables.descriptors) :
    tables.Unused fd := by
  by_contra hused
  exact hfd (h.mem_of_used hused)

theorem Consistent.circuit_install (h : tables.Consistent) (hfd : fd ∉ tables.descriptors) (id : ℕ) :
    (tables.install fd descriptor).circuit id = tables.circuit id := by
  have hsessions : (tables.install fd descriptor).sessions = tables.sessions := rfl
  refine circuit_congr hsessions (fun fd' hused => ?_) id
  have hne : fd' ≠ fd := by
    rintro rfl
    exact hfd (h.mem_of_used hused)
  exact Finmap.lookup_insert_of_ne _ hne

/-- Something is opened; a connection gets the next number. -/
theorem Consistent.install (h : tables.Consistent) (hfd : fd ∉ tables.descriptors)
    (hdescriptor : ∀ connection, descriptor = .connection connection →
      connection.serial = tables.connections) :
    (tables.install fd descriptor).Consistent := by
  have hlookup : ∀ {fd' descriptor'}, (tables.install fd descriptor).descriptors.lookup fd' =
      some descriptor' → fd' = fd ∧ descriptor' = descriptor ∨
        tables.descriptors.lookup fd' = some descriptor' := by
    intro fd' descriptor' h'
    by_cases hne : fd' = fd
    · left
      subst hne
      simp only [SessionTables.install, Finmap.lookup_insert] at h'
      exact ⟨rfl, (Option.some.inj h').symm⟩
    · right
      simp only [SessionTables.install] at h'
      rwa [Finmap.lookup_insert_of_ne _ hne] at h'
  constructor
  · exact h.id
  · intro id session side fd' hsession hfd'
    obtain ⟨serial, hold⟩ := h.wired hsession hfd'
    have hne : fd' ≠ fd := by
      rintro rfl
      exact hfd (Finmap.mem_of_lookup_eq_some hold)
    exact ⟨serial, by rw [SessionTables.install, Finmap.lookup_insert_of_ne _ hne, hold]⟩
  · exact h.opened
  · exact h.waiting
  · exact h.apart
  · intro fd' connection h'
    simp only [SessionTables.install]
    rcases hlookup h' with ⟨-, hnew⟩ | hold
    · have := hdescriptor connection hnew.symm
      omega
    · have := h.numbered hold
      omega
  · intro fd₁ fd₂ connection h₁ h₂
    rcases hlookup h₁ with ⟨rfl, hnew₁⟩ | hold₁ <;> rcases hlookup h₂ with ⟨hfd₂, hnew₂⟩ | hold₂
    · exact hfd₂.symm
    · have hserial := hdescriptor connection hnew₁.symm
      have hlt := h.numbered hold₂
      omega
    · have hserial := hdescriptor connection hnew₂.symm
      have hlt := h.numbered hold₁
      omega
    · exact h.distinct hold₁ hold₂
  · exact h.token
  · exact h.registered
  · exact h.token_lt
  · exact h.next_ge

/-- A session without tokens is put in the table. -/
theorem Consistent.insert (h : tables.Consistent) {next : ℕ} (hnext : tables.nextSessionId ≤ next)
    (hid : session.id = id ∧ id < next)
    (hwired : ∀ side fd, (session.ends side).fd = some fd →
      ∃ serial, tables.descriptors.lookup fd = some (.connection ⟨side, serial⟩))
    (hopened : ∀ side, (session.ends side).fd = none → side = .backend ∧ session.connecting = true)
    (hwaiting : ∀ side, (session.pending side).size = 0)
    (hapart : ∀ id' session' side fd, tables.sessions.lookup id' = some session' →
      (session'.ends side).fd = some fd → (session.ends side).fd = some fd → id' = id)
    (htokens : ∀ side, (session.ends side).token = 0)
    (hfresh : ∀ token target, tables.tokens.entries.lookup token = some target →
      target.sessionId ≠ id) :
    ({ tables with sessions := tables.sessions.insert id session, nextSessionId := next } :
      SessionTables).Consistent := by
  have hlookup : ∀ {id' session'}, (tables.sessions.insert id session).lookup id' = some session' →
      id' = id ∧ session' = session ∨ id' ≠ id ∧ tables.sessions.lookup id' = some session' := by
    intro id' session' h'
    by_cases hne : id' = id
    · left
      rw [hne, Finmap.lookup_insert] at h'
      exact ⟨hne, (Option.some.inj h').symm⟩
    · right
      rw [Finmap.lookup_insert_of_ne _ hne] at h'
      exact ⟨hne, h'⟩
  constructor
  · intro id' session' h'
    rcases hlookup h' with ⟨rfl, rfl⟩ | ⟨-, hold⟩
    · exact hid
    · exact ⟨(h.id hold).1, lt_of_lt_of_le (h.id hold).2 hnext⟩
  · intro id' session' side fd h' hfd
    rcases hlookup h' with ⟨rfl, rfl⟩ | ⟨-, hold⟩
    · exact hwired side fd hfd
    · exact h.wired hold hfd
  · intro id' session' side h' hfd
    rcases hlookup h' with ⟨rfl, rfl⟩ | ⟨-, hold⟩
    · exact hopened side hfd
    · exact h.opened hold hfd
  · intro id' session' side h' hconnecting
    rcases hlookup h' with ⟨rfl, rfl⟩ | ⟨-, hold⟩
    · exact hwaiting side
    · exact h.waiting hold hconnecting
  · intro id₁ id₂ session₁ session₂ side fd h₁ h₂ hfd₁ hfd₂
    rcases hlookup h₁ with ⟨rfl, rfl⟩ | ⟨-, hold₁⟩ <;> rcases hlookup h₂ with ⟨hid₂, rfl⟩ | ⟨-, hold₂⟩
    · exact hid₂.symm
    · exact (hapart _ _ side fd hold₂ hfd₂ hfd₁).symm
    · rw [hid₂]
      exact hapart _ _ side fd hold₁ hfd₁ hfd₂
    · exact h.apart hold₁ hold₂ hfd₁ hfd₂
  · exact h.numbered
  · exact h.distinct
  · intro token target htoken
    obtain ⟨session', h', hends⟩ := h.token htoken
    exact ⟨session', by rw [Finmap.lookup_insert_of_ne _ (hfresh token target htoken), h'], hends⟩
  · intro id' session' side h' htoken
    rcases hlookup h' with ⟨rfl, rfl⟩ | ⟨-, hold⟩
    · exact absurd (htokens side) htoken
    · exact h.registered hold htoken
  · exact h.token_lt
  · exact h.next_ge

/-- An end of a session that has its backend is registered. -/
theorem Consistent.register (h : tables.Consistent) (hsession : tables.sessions.lookup id = some session)
    (hbackend : (session.ends .backend).fd ≠ none)
    (hnone : ∀ token, tables.tokens.entries.lookup token ≠ some ⟨id, side⟩) :
    (({ tables with tokens := {
      nextToken := tables.tokens.nextToken + 1
      entries := tables.tokens.entries.insert tables.tokens.nextToken ⟨id, side⟩ } } :
        SessionTables).update id (·.setEnd side fun endpoint =>
          { endpoint with token := tables.tokens.nextToken })).Consistent := by
  generalize htables : ({ tables with tokens := {
    nextToken := tables.tokens.nextToken + 1
    entries := tables.tokens.entries.insert tables.tokens.nextToken ⟨id, side⟩ } } : SessionTables) = tables'
  have hlookup : ∀ id', (tables'.update id (·.setEnd side fun endpoint =>
      { endpoint with token := tables.tokens.nextToken })).sessions.lookup id' =
        if id' = id then some (session.setEnd side fun endpoint =>
          { endpoint with token := tables.tokens.nextToken }) else tables.sessions.lookup id' := by
    have hsession' : tables'.sessions.lookup id = some session := by rw [← htables, hsession]
    intro id'
    rw [lookup_update hsession', ← htables]
  have hfd : ∀ side', ((session.setEnd side fun endpoint =>
      { endpoint with token := tables.tokens.nextToken }).ends side').fd = (session.ends side').fd := by
    intro side'
    by_cases hside : side' = side
    · subst hside
      simp [Session.setEnd]
    · simp [Session.setEnd, hside]
  have hback : ∀ {id' session'}, (tables'.update id (·.setEnd side fun endpoint =>
      { endpoint with token := tables.tokens.nextToken })).sessions.lookup id' = some session' →
        ∃ session'', tables.sessions.lookup id' = some session'' ∧ session'.id = session''.id ∧
          session'.connecting = session''.connecting ∧
          (∀ side, (session'.ends side).fd = (session''.ends side).fd) ∧
          session'.pending = session''.pending := by
    intro id' session' h'
    rw [hlookup] at h'
    split at h'
    · rename_i hid
      obtain rfl := Option.some.inj h'
      exact ⟨session, by rw [hid, hsession], rfl, rfl, hfd, rfl⟩
    · exact ⟨session', h', rfl, rfl, fun _ => rfl, rfl⟩
  have hentries : ∀ {token target}, (tables.tokens.entries.insert tables.tokens.nextToken
      ⟨id, side⟩).lookup token = some target →
        token = tables.tokens.nextToken ∧ target = ⟨id, side⟩ ∨
          token ≠ tables.tokens.nextToken ∧ tables.tokens.entries.lookup token = some target := by
    intro token target h'
    by_cases hne : token = tables.tokens.nextToken
    · left
      rw [hne, Finmap.lookup_insert] at h'
      exact ⟨hne, (Option.some.inj h').symm⟩
    · right
      rw [Finmap.lookup_insert_of_ne _ hne] at h'
      exact ⟨hne, h'⟩
  have htokens : tables'.tokens.entries =
      tables.tokens.entries.insert tables.tokens.nextToken ⟨id, side⟩ := by rw [← htables]
  have hsame : tables'.nextSessionId = tables.nextSessionId ∧ tables'.descriptors = tables.descriptors ∧
      tables'.connections = tables.connections ∧
      tables'.tokens.nextToken = tables.tokens.nextToken + 1 := by
    rw [← htables]
    exact ⟨rfl, rfl, rfl, rfl⟩
  constructor
  · intro id' session' h'
    obtain ⟨session'', h'', hid, -⟩ := hback h'
    rw [hid, update_nextSessionId, hsame.1]
    exact h.id h''
  · intro id' session' side' fd h' hfd'
    obtain ⟨session'', h'', -, -, hends, -⟩ := hback h'
    rw [update_descriptors, hsame.2.1]
    exact h.wired h'' (by rw [← hends, hfd'])
  · intro id' session' side' h' hfd'
    obtain ⟨session'', h'', -, hconnecting, hends, -⟩ := hback h'
    rw [hconnecting]
    exact h.opened h'' (by rw [← hends, hfd'])
  · intro id' session' side' h' hwaits
    obtain ⟨session'', h'', -, hconnecting, -, hpending⟩ := hback h'
    rw [hconnecting] at hwaits
    rw [hpending]
    exact h.waiting h'' hwaits
  · intro id₁ id₂ session₁ session₂ side' fd h₁ h₂ hfd₁ hfd₂
    obtain ⟨session₁', h₁', -, -, hends₁, -⟩ := hback h₁
    obtain ⟨session₂', h₂', -, -, hends₂, -⟩ := hback h₂
    exact h.apart h₁' h₂' (by rw [← hends₁, hfd₁]) (by rw [← hends₂, hfd₂])
  · intro fd connection hfd'
    rw [update_descriptors, hsame.2.1] at hfd'
    rw [update_connections, hsame.2.2.1]
    exact h.numbered hfd'
  · intro fd fd' connection hfd₁ hfd₂
    rw [update_descriptors, hsame.2.1] at hfd₁ hfd₂
    exact h.distinct hfd₁ hfd₂
  · intro token target htoken
    rw [update_tokens, htokens] at htoken
    rw [hlookup]
    rcases hentries htoken with ⟨rfl, rfl⟩ | ⟨-, hold⟩
    · refine ⟨_, if_pos rfl, ?_, by rwa [hfd]⟩
      simp [Session.setEnd]
    · obtain ⟨session', h', hends, hbackend'⟩ := h.token hold
      by_cases hid : target.sessionId = id
      · rw [hid, hsession] at h'
        obtain rfl := Option.some.inj h'
        refine ⟨_, if_pos hid, ?_, by rwa [hfd]⟩
        -- the other end: this one had no token
        have hside : target.side ≠ side := by
          intro he
          refine hnone token ?_
          rw [hold, ← hid, ← he]
        simp only [Session.setEnd, Function.update_of_ne hside]
        exact hends
      · exact ⟨session', by rw [if_neg hid, h'], hends, hbackend'⟩
  · intro id' session' side' h' htoken
    rw [hlookup] at h'
    rw [update_tokens, htokens]
    have hold : ∀ {session''}, tables.sessions.lookup id' = some session'' →
        (session''.ends side').token ≠ 0 →
        (tables.tokens.entries.insert tables.tokens.nextToken ⟨id, side⟩).lookup
          (session''.ends side').token = some ⟨id', side'⟩ := by
      intro session'' h'' htoken'
      have hentry := h.registered h'' htoken'
      have hlt := (h.token_lt hentry).2
      rw [Finmap.lookup_insert_of_ne _ (by omega), hentry]
    split at h'
    · rename_i hid
      obtain rfl := Option.some.inj h'
      by_cases hside : side' = side
      · rw [Session.setEnd_ends, hside, Function.update_self, Finmap.lookup_insert, hid]
      · rw [Session.setEnd_ends, Function.update_of_ne hside] at htoken ⊢
        exact hold (by rw [hid, hsession]) htoken
    · exact hold h' htoken
  · intro token target htoken
    rw [update_tokens, htokens] at htoken
    rw [update_tokens, hsame.2.2.2]
    rcases hentries htoken with ⟨rfl, -⟩ | ⟨-, hold⟩
    · have := h.next_ge
      omega
    · have := h.token_lt hold
      omega
  · have := h.next_ge
    rw [update_tokens, hsame.2.2.2]
    omega

/-- A session gets its backend. -/
theorem Consistent.attach (h : tables.Consistent) (hsession : tables.sessions.lookup id = some session)
    (hnone : (session.ends .backend).fd = none) {serial : ℕ}
    (hdescriptor : tables.descriptors.lookup fd = some (.connection ⟨.backend, serial⟩))
    (hunused : tables.Unused fd) :
    (tables.update id (·.setEnd .backend fun endpoint => { endpoint with fd := some fd })).Consistent := by
  have hlookup := lookup_update (f := (·.setEnd .backend fun endpoint => { endpoint with fd := some fd })) hsession
  have htoken : ∀ side, ((session.setEnd .backend fun endpoint => { endpoint with fd := some fd }).ends side).token =
      (session.ends side).token := by
    intro side
    apply setEnd_field (·.token)
    intro endpoint
    rfl
  -- what an end has open afterwards is what it had open, or it is the backend's
  have hends : ∀ {id' session'}, (tables.update id (·.setEnd .backend fun endpoint =>
      { endpoint with fd := some fd })).sessions.lookup id' = some session' →
        ∃ session'', tables.sessions.lookup id' = some session'' ∧ session'.id = session''.id ∧
          session'.connecting = session''.connecting ∧ session'.pending = session''.pending ∧
          (∀ side, (session'.ends side).token = (session''.ends side).token) ∧
          ∀ side, (session'.ends side).fd = (session''.ends side).fd ∨
            id' = id ∧ side = .backend ∧ (session'.ends side).fd = some fd := by
    intro id' session' h'
    rw [hlookup] at h'
    split at h'
    · rename_i hid
      obtain rfl := Option.some.inj h'
      refine ⟨session, by rw [hid, hsession], rfl, rfl, rfl, htoken, fun side => ?_⟩
      cases side with
      | client => exact .inl rfl
      | backend => exact .inr ⟨hid, rfl, rfl⟩
    · exact ⟨session', h', rfl, rfl, rfl, fun _ => rfl, fun _ => .inl rfl⟩
  constructor
  · intro id' session' h'
    obtain ⟨session'', h'', hid, -⟩ := hends h'
    rw [hid, update_nextSessionId]
    exact h.id h''
  · intro id' session' side fd' h' hfd'
    obtain ⟨session'', h'', -, -, -, -, hfd⟩ := hends h'
    rw [update_descriptors]
    rcases hfd side with hsame | ⟨-, rfl, hnew⟩
    · exact h.wired h'' (by rw [← hsame, hfd'])
    · obtain rfl := Option.some.inj (hnew.symm.trans hfd')
      exact ⟨serial, hdescriptor⟩
  · intro id' session' side h' hfd'
    obtain ⟨session'', h'', -, hconnecting, -, -, hfd⟩ := hends h'
    rw [hconnecting]
    rcases hfd side with hsame | ⟨-, rfl, hnew⟩
    · exact h.opened h'' (by rw [← hsame, hfd'])
    · rw [hnew] at hfd'
      cases hfd'
  · intro id' session' side h' hwaits
    obtain ⟨session'', h'', -, hconnecting, hpending, -, -⟩ := hends h'
    rw [hconnecting] at hwaits
    rw [hpending]
    exact h.waiting h'' hwaits
  · intro id₁ id₂ session₁ session₂ side fd' h₁ h₂ hfd₁ hfd₂
    obtain ⟨session₁', h₁', -, -, -, -, hold₁⟩ := hends h₁
    obtain ⟨session₂', h₂', -, -, -, -, hold₂⟩ := hends h₂
    rcases hold₁ side with hsame₁ | ⟨hid₁, -, hnew₁⟩ <;> rcases hold₂ side with hsame₂ | ⟨hid₂, -, hnew₂⟩
    · exact h.apart h₁' h₂' (by rw [← hsame₁, hfd₁]) (by rw [← hsame₂, hfd₂])
    · obtain rfl := Option.some.inj (hnew₂.symm.trans hfd₂)
      exact absurd (by rw [← hsame₁, hfd₁]) (hunused id₁ session₁' side h₁')
    · obtain rfl := Option.some.inj (hnew₁.symm.trans hfd₁)
      exact absurd (by rw [← hsame₂, hfd₂]) (hunused id₂ session₂' side h₂')
    · rw [hid₁, hid₂]
  · intro fd' connection hfd'
    rw [update_descriptors] at hfd'
    rw [update_connections]
    exact h.numbered hfd'
  · intro fd₁ fd₂ connection h₁ h₂
    rw [update_descriptors] at h₁ h₂
    exact h.distinct h₁ h₂
  · intro token target hentry
    rw [update_tokens] at hentry
    obtain ⟨session', h', hends', hbackend⟩ := h.token hentry
    rw [hlookup]
    by_cases hid : target.sessionId = id
    · rw [hid, hsession] at h'
      obtain rfl := Option.some.inj h'
      exact absurd hnone hbackend
    · exact ⟨session', by rw [if_neg hid, h'], hends', hbackend⟩
  · intro id' session' side h' htoken'
    obtain ⟨session'', h'', -, -, -, hsame, -⟩ := hends h'
    rw [hsame] at htoken' ⊢
    rw [update_tokens]
    exact h.registered h'' htoken'
  · intro token target hentry
    rw [update_tokens] at hentry ⊢
    exact h.token_lt hentry
  · rw [update_tokens]
    exact h.next_ge

end SessionTables

end L4lb.Net.Tcp
