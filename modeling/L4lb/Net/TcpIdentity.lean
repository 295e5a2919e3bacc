import L4lb.Net.TcpLoop

/-!
# Tokens and sessions

An event carries a token, and a token is that of one end of one session for ever: what comes
for a session that is over finds none. So an event or a deadline touches the session it is for.
-/

namespace L4lb.Net.Tcp

variable {options : TcpReactorOptions} {s : TcpReactor}

/-- What holds of tokens and sessions in a state. -/
structure Identified (s : TcpReactor) : Prop where
  /-- The tokens in the table are those of the ends of the sessions that have one. -/
  tokens : ∀ token id side, s.tables.tokens.findEndpoint token = some ⟨id, side⟩ ↔ token ≠ 0 ∧
    ∃ session, s.tables.sessions.lookup id = some session ∧ (session.ends side).token = token
  /-- A token is given out once. -/
  issued : ∀ {before token target}, .registered token target :: before <:+ s.log →
    ∀ target', .registered token target' ∉ before
  /-- A session that begins has a new id. -/
  begun : ∀ {before id c}, .attached id (some c) :: before <:+ s.log → c.side = .client →
    ∀ connection, .attached id connection ∉ before
  /-- The turn of a session leaves every other session as it was. -/
  apart : ∀ {before id sessions sessions' draining}, .visited id sessions sessions' draining :: before <:+ s.log →
    ∀ id' ≠ id, sessions'.lookup id' = sessions.lookup id'
  /-- So does one that is broken off by what is thrown. -/
  brokenOff : ∀ {before id sessions sessions'}, .brokenOff id sessions sessions' :: before <:+ s.log →
    ∀ id' ≠ id, sessions'.lookup id' = sessions.lookup id'

theorem Sound.identified (h : Sound options s) : Identified s := by
  have htables := h.consistent.tables
  constructor
  · intro token id side
    constructor
    · intro hfind
      obtain ⟨session, hsession, htoken, -⟩ := htables.token hfind
      exact ⟨by have := (htables.token_lt hfind).1; omega, session, hsession, htoken⟩
    · rintro ⟨hne, session, hsession, rfl⟩
      exact htables.registered hsession hne
  · intro before token target hs target' hmem
    exact Nat.lt_irrefl token (h.legal.allowed hs token target' hmem)
  · intro before id c hs hside connection hmem
    obtain ⟨-, c', hc, hfresh⟩ := h.legal.allowed hs
    obtain rfl := Option.some.inj hc
    exact Nat.lt_irrefl id (hfresh.client hside id connection hmem)
  · intro before id sessions sessions' draining hs
    exact (h.legal.allowed hs).1
  · intro before id sessions sessions' hs
    exact h.legal.allowed hs

/-- **A token that is found is that of a session that is there**, at every point of every run, and
no session is looked up that is not. -/
theorem identified_reached (options : TcpReactorOptions) (script : List (Effect.Answerer TcpCall TcpAnswer)) :
    Identified (reached options script) ∧ (runTcpReactor options ⟨script, {}⟩).1 ≠ .thrown .outOfRange := by
  refine ⟨(sound_reached options script).identified, fun hthrown => ?_⟩
  have hmeets := (serves_runTcpReactor options script).2
  rw [hthrown] at hmeets
  have hundone : Undone options .outOfRange _ := hmeets
  exact hundone.sensible.present rfl

end L4lb.Net.Tcp
