import L4lb.Net.TcpLoop

/-!
# What wakes the sessions

Whenever the reactor waits for events, every session that can go on has asked `epoll` for the
event that lets it, or has a time set; and what is asked of `epoll` is always in order.
-/

namespace L4lb.Net.Tcp

variable {options : TcpReactorOptions} {log : List TcpEvent} {session : Session} {side : Side}

/-- An end will be woken: it asks for these events, or is left alone until a time. -/
def EndpointState.Woken (endpoint : EndpointState) (mask : EpollEvents) : Prop :=
  endpoint.Wants mask ∨ endpoint.deferred ≠ 0

/-- What holds of a session that waits. -/
structure Session.Waits (session : Session) : Prop where
  /-- A connection that is being made is waited for. -/
  connecting : session.connecting = true → (session.ends .backend).Woken EPOLLOUT
  /-- So is what an end may send. -/
  reading : session.connecting = false → ∀ side, (session.ends side).eof = false →
    (session.ends side).paused = false → (session.ends side).Woken EPOLLIN
  /-- So is an end that something is queued for. -/
  writing : ∀ side, (session.pending side.other).size ≠ 0 → (session.ends side).Woken EPOLLOUT
  /-- An end that is paused has more queued than the low water, and the other end is waited for. -/
  paused : ∀ side, (session.ends side).paused = true → kLowWater < (session.pending side).size ∧
    (session.ends side.other).Woken EPOLLOUT
  /-- No end is waited for that nothing is queued for. -/
  idle : session.connecting = false → ∀ side, (session.ends side).Wants EPOLLOUT →
    (session.pending side.other).size ≠ 0

theorem Session.AtRest.waits (h : session.AtRest) : session.Waits where
  connecting hconnecting := (h.awake .backend).connecting hconnecting rfl
  reading hconnecting side := (h.awake side).reading hconnecting
  writing side := (h.awake side).writing
  paused side hpaused := by
    have hqueued := h.paused side hpaused
    refine ⟨hqueued, (h.awake side.other).writing ?_⟩
    rw [Side.other_other]
    omega
  idle hconnecting side := (h.awake side).idle hconnecting

/-- What holds of the waits and of what is asked of `epoll`, in a history. -/
structure Wakes (log : List TcpEvent) : Prop where
  /-- What `epoll` has registered for an end is what the session says. -/
  registered : ∀ {before tables}, .polled tables false :: before <:+ log → ¬ DelFailed before →
    ∀ id session side fd, tables.sessions.lookup id = some session → (session.ends side).fd = some fd →
      tables.interests.lookup fd = (session.ends side).entry
  /-- Every session waits. -/
  waiting : ∀ {before tables}, .polled tables false :: before <:+ log →
    ∀ id session, tables.sessions.lookup id = some session → session.Waits
  /-- What is added to `epoll` is not registered, and what is changed or deleted is. -/
  asked : ∀ {before operation fd known}, .epoll operation fd known :: before <:+ log → ¬ DelFailed before →
    fd ≠ none ∧ known = decide (operation ≠ .add)

theorem Legal.wakes (h : Legal options log) : Wakes log := by
  constructor
  · intro before tables hs hfailed
    obtain ⟨-, hregistered, -⟩ := (h.allowed hs).2 rfl
    exact hregistered.resolve_left hfailed
  · intro before tables hs id session hsession
    obtain ⟨-, -, hresting⟩ := (h.allowed hs).2 rfl
    exact (hresting id session hsession).waits
  · intro before operation fd known hs hfailed
    exact (h.allowed hs).resolve_left hfailed

/-- **No wakeup is lost**, whenever the reactor waits in a run. -/
theorem wakes_reached (options : TcpReactorOptions) (script : List (Effect.Answerer TcpCall TcpAnswer)) :
    Wakes (reached options script).log := (sound_reached options script).legal.wakes

end L4lb.Net.Tcp
