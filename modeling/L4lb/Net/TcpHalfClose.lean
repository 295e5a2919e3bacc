import L4lb.Net.TcpBarrier

/-!
# Half-closed sessions

Each way of a session is closed by itself: when a client or a backend sends no more, the other
end is told once all of it was sent on, and a session is over when both were told.
-/

namespace L4lb.Net.Tcp

variable {options : TcpReactorOptions} {log before : List TcpEvent} {id : ℕ} {c : Connection}

/-- Both ends of a session have ended and were told, and all was sent on. -/
structure Finished (log : List TcpEvent) (id : ℕ) (c c' : Connection) : Prop where
  /-- They are the ends of the session. -/
  joins : Joins log id c c'
  /-- The end has ended. -/
  ended : .ended (some c) ∈ log
  /-- It was told that no more will be sent to it. -/
  shut : .shut (some c) ∈ log
  /-- What was received from the other end was sent to it. -/
  whole : (hear log (some c)).sent = (hear log (some c')).received

/-- What holds of the ways of sessions in a history. -/
structure HalfCloses (log : List TcpEvent) : Prop where
  /-- `shutdown` succeeds on a connection once at most. -/
  once : ∀ {before connection}, .shut connection :: before <:+ log → .shut connection ∉ before
  /-- It is called when the other end has ended and all that was received from it was sent on. -/
  called : ∀ {before connection}, .attempted .shutdown connection :: before <:+ log → ∃ id c c',
    connection = some c ∧ Joins before id c c' ∧ .ended (some c') ∈ before ∧
      (hear before (some c')).received = (hear before (some c)).sent
  /-- No `send` is called on a connection after it succeeded. -/
  silent : ∀ {before connection}, .attempted .send connection :: before <:+ log → .shut connection ∉ before
  /-- No `recv` is called on a connection that has ended. -/
  deaf : ∀ {before connection}, .attempted .receive connection :: before <:+ log → .ended connection ∉ before
  /-- A session is closed as drained when both ends are finished and nothing is queued. -/
  drained : ∀ {before id left}, .closed id "drained" left :: before <:+ log →
    (∀ side, left side = 0) ∧ ∀ side, ∃ c c', c.side = side ∧ Finished before id c c'
  /-- Unless the service is stopping, no turn of a session leaves it done. -/
  undone : ∀ {before id sessions sessions'}, .visited id sessions sessions' false :: before <:+ log →
    ∀ session, sessions'.lookup id = some session → ¬ session.Done

theorem Legal.halfCloses (h : Legal options log) : HalfCloses log := by
  have hfalse : ∀ {b : Bool} {p : Prop}, (b = true ↔ p) → b = false → ¬ p := by
    rintro b p hb rfl hp
    exact Bool.false_ne_true (hb.mpr hp)
  constructor
  · intro before connection hs
    obtain ⟨-, -, id, c, c', rfl, -, -, -, hshut⟩ := h.allowed hs
    exact hfalse hear_shut hshut
  · intro before connection hs
    obtain ⟨-, -, id, c, c', rfl, hjoins, hended, hwhole, -⟩ := h.allowed hs
    exact ⟨id, c, c', rfl, hjoins, hear_ended.mp hended, hwhole⟩
  · intro before connection hs
    obtain ⟨-, -, id, c, c', rfl, -, hshut⟩ := h.allowed hs
    exact hfalse hear_shut hshut
  · intro before connection hs
    obtain ⟨-, -, id, c, c', rfl, -, hended⟩ := h.allowed hs
    exact hfalse hear_ended hended
  · intro before id left hs
    obtain ⟨-, -, hdrained⟩ := h.allowed hs
    obtain ⟨hleft, hends⟩ := hdrained rfl
    refine ⟨hleft, fun side => ?_⟩
    obtain ⟨c, c', hjoins, hside, hended, hshut, hwhole⟩ := hends side
    exact ⟨c, c', hside, hjoins, hear_ended.mp hended, hear_shut.mp hshut, hwhole⟩
  · intro before id sessions sessions' hs
    exact (h.allowed hs).2 rfl

/-- **Sessions are closed one way at a time**, at every point of every run of the reactor. -/
theorem halfCloses_reached (options : TcpReactorOptions) (script : List (Effect.Answerer TcpCall TcpAnswer)) :
    HalfCloses (reached options script).log := (sound_reached options script).legal.halfCloses

end L4lb.Net.Tcp
