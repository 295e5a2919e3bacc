import L4lb.Net.TcpReactor

/-!
# What a run of the TCP reactor may record

What a history says of a connection (`hear`), what has to come next in it (`due`), and
when an event may follow it (`Allowed`). A history is `Legal` if each event could follow
those before it; what is claimed of the reactor's runs is read off that.

## What is in order

* Bytes are received and sent between the two connections of a session that is not over,
  and what is sent to one is the front of what came from the other.
* What was sent is counted before anything else is attempted.
* Nothing begins once the service is stopping, and nothing is sent once it stopped.
* A connection is shut down when the other one has ended and all of it was sent, once.
* `Due` is what the next report or change has to be, where one has to be the next.
-/

namespace L4lb.Net.Tcp

/-! ### What is heard of a connection -/

/-- The kinds that count bytes. -/
def countsBytes (kind : StatKind) : Prop := kind = .bytesC2b ∨ kind = .bytesB2c

instance (kind : StatKind) : Decidable (countsBytes kind) := inferInstanceAs (Decidable (_ ∨ _))

/-- What is heard of a connection. -/
structure Heard where
  /-- What was received from it. -/
  received : Bytes := []
  /-- What was sent to it. -/
  sent : Bytes := []
  /-- What was sent to it last, if that is still to be counted. -/
  uncounted : Bytes := []
  /-- How many bytes were counted. -/
  counted : ℕ := 0
  /-- All that it sends was received. -/
  ended : Bool := false
  /-- It was told that no more will be sent to it. -/
  shut : Bool := false
  deriving DecidableEq, Repr

/-- What is heard of a connection after an event. -/
def Heard.after (c : Connection) (heard : Heard) : TcpEvent → Heard
  | .received connection bytes =>
    if connection = some c then { heard with received := heard.received ++ bytes } else heard
  | .sent connection bytes =>
    if connection = some c then { heard with sent := heard.sent ++ bytes, uncounted := bytes } else heard
  | .ended connection => if connection = some c then { heard with ended := true } else heard
  | .shut connection => if connection = some c then { heard with shut := true } else heard
  | .statistic event =>
    if countsBytes event.kind ∧ heard.uncounted ≠ [] then
      { heard with uncounted := [], counted := heard.counted + event.amount }
    else heard
  | _ => heard

section After

variable {event : TcpEvent} {c : Connection}

theorem Heard.received_after (heard : Heard) (h : ∀ bytes, event ≠ .received (some c) bytes) :
    (heard.after c event).received = heard.received := by
  cases event with
  | received connection bytes =>
    have hne : connection ≠ some c := by
      rintro rfl
      exact h bytes rfl
    simp only [after, if_neg hne]
  | sent | ended | shut | statistic =>
    simp only [after]
    split <;> rfl
  | _ => rfl

theorem Heard.sent_after (heard : Heard) (h : ∀ bytes, event ≠ .sent (some c) bytes) :
    (heard.after c event).sent = heard.sent := by
  cases event with
  | sent connection bytes =>
    have hne : connection ≠ some c := by
      rintro rfl
      exact h bytes rfl
    simp only [after, if_neg hne]
  | received | ended | shut | statistic =>
    simp only [after]
    split <;> rfl
  | _ => rfl

theorem Heard.ended_after (heard : Heard) :
    (heard.after c event).ended = true ↔ heard.ended = true ∨ event = .ended (some c) := by
  cases event with
  | ended connection => by_cases hc : connection = some c <;> simp [after, hc]
  | received | sent | shut | statistic =>
    simp only [after]
    split <;> simp
  | _ => simp [after]

theorem Heard.shut_after (heard : Heard) :
    (heard.after c event).shut = true ↔ heard.shut = true ∨ event = .shut (some c) := by
  cases event with
  | shut connection => by_cases hc : connection = some c <;> simp [after, hc]
  | received | sent | ended | statistic =>
    simp only [after]
    split <;> simp
  | _ => simp [after]

end After

/-- What a history says of a connection. -/
def hear (log : List TcpEvent) : Option Connection → Heard
  | none => {}
  | some c => log.foldr (fun event heard => heard.after c event) {}

@[simp] theorem hear_none (log : List TcpEvent) : hear log none = {} := rfl

@[simp] theorem hear_nil (connection : Option Connection) : hear [] connection = {} := by
  cases connection <;> rfl

@[simp] theorem hear_cons (event : TcpEvent) (log : List TcpEvent) (c : Connection) :
    hear (event :: log) (some c) = (hear log (some c)).after c event := rfl

/-- That a connection has ended is recorded. -/
theorem hear_ended {log : List TcpEvent} {c : Connection} :
    (hear log (some c)).ended = true ↔ .ended (some c) ∈ log := by
  induction log with
  | nil => simp
  | cons event log ih => rw [hear_cons, Heard.ended_after, ih, List.mem_cons, or_comm, eq_comm]

/-- That a connection was shut down is recorded. -/
theorem hear_shut {log : List TcpEvent} {c : Connection} :
    (hear log (some c)).shut = true ↔ .shut (some c) ∈ log := by
  induction log with
  | nil => simp
  | cons event log ih => rw [hear_cons, Heard.shut_after, ih, List.mem_cons, or_comm, eq_comm]

/-- All that was sent is counted. -/
def AllCounted (log : List TcpEvent) : Prop := ∀ c, (hear log (some c)).uncounted = []

/-! ### What is due -/

/-- The closes that are the end of waiting. -/
def isExpiry (reason : String) : Bool := reason = "connect-timeout" || reason = "idle-timeout"

/-- What has to come next, where something has to. -/
inductive Due where
  /-- Anything. -/
  | nothing
  /-- A backend is to be selected. -/
  | selection
  /-- A session is to be counted. -/
  | creation
  /-- A session is to be closed, its time being over. -/
  | expiry
  /-- The failure of a session is to be counted. -/
  | failing
  /-- The session that failed is to be closed. -/
  | failed
  /-- The end of a session is to be counted, and before it so many errors. -/
  | closing (errors : ℕ)
  deriving DecidableEq, Repr

/-- What is due after an event, where nothing was. -/
def Due.start : TcpEvent → Option Due
  | .accepted _ room => some (if room then .selection else .nothing)
  | .attempted .select _ => none
  | .attached _ connection => some (if connection.any (·.side = .client) then .creation else .nothing)
  | .statistic event =>
    match event.kind with
    | .created | .closed | .datagramC2b | .datagramB2c | .dropped => none
    | .timeout => some .expiry
    | _ => some .nothing
  | .caught _ _ => some .failing
  | .closed _ reason _ => if isExpiry reason then none else some (.closing 0)
  | _ => some .nothing

/-- What is due after an event, if the event was in order. -/
def Due.next : Due → TcpEvent → Option Due
  | .nothing, event => start event
  | .selection, .attempted .select _ => some .nothing
  | .creation, .statistic event => if event = ⟨.created, 1⟩ then some .nothing else none
  | .expiry, .closed _ reason _ => if isExpiry reason then some (.closing 0) else none
  | .failing, .statistic event => if event = ⟨.error, 1⟩ then some .failed else none
  | .failed, .closed _ reason _ => if isExpiry reason then none else some (.closing 0)
  | .expiry, .callbackThrew | .failed, .callbackThrew => some .nothing
  | .closing errors, .statistic event =>
    if event = ⟨.error, 1⟩ ∧ 0 < errors then some (.closing (errors - 1))
    else if event = ⟨.closed, 1⟩ ∧ errors = 0 then some .nothing
    else none
  | .closing errors, .epollFailed .del error =>
    some (.closing (if error = 0 ∨ error = .ENOENT ∨ error = .EBADF then errors else errors + 1))
  | .closing errors, .epoll .del _ _ | .closing errors, .diagnostic _ _
  | .closing errors, .sessionEvent _ | .closing errors, .callbackThrew => some (.closing errors)
  | _, _ => none

/-- What is due after a history, if all was in order. -/
def due : List TcpEvent → Option Due
  | [] => some .nothing
  | event :: log => (due log).bind (·.next event)

theorem due_cons {log : List TcpEvent} {d : Due} (h : due log = some d) (event : TcpEvent) :
    due (event :: log) = d.next event := by
  rw [due, h, Option.bind_some]

/-! ### What happened -/

/-- `EPOLL_CTL_DEL` has failed. -/
def DelFailed (log : List TcpEvent) : Prop := ∃ error, .epollFailed .del error ∈ log

/-- The service is stopping. -/
def Stopping (log : List TcpEvent) : Prop := ∃ sessions deadline, .barrier sessions deadline ∈ log

/-- A session has begun and is not over. -/
structure Going (log : List TcpEvent) (id : ℕ) : Prop where
  /-- It has begun. -/
  begun : ∃ connection, .attached id connection ∈ log
  /-- It is not over. -/
  unclosed : ∀ reason left, .closed id reason left ∉ log

/-- A connection and the one at the other end, of a session that is not over. -/
structure Joins (log : List TcpEvent) (id : ℕ) (c c' : Connection) : Prop where
  /-- The one. -/
  here : .attached id (some c) ∈ log
  /-- The other. -/
  there : .attached id (some c') ∈ log
  /-- They are the two ends. -/
  across : c'.side = c.side.other
  /-- The session is not over. -/
  going : ∀ reason left, .closed id reason left ∉ log

/-- How many sessions there are. -/
def living : List TcpEvent → ℤ
  | [] => 0
  | .attached _ connection :: log => living log + if connection.any (·.side = .client) then 1 else 0
  | .closed _ _ _ :: log => living log - 1
  | _ :: log => living log

/-! ### What a session asks for -/

/-- An end asks for these events. -/
def EndpointState.Wants (endpoint : EndpointState) (mask : EpollEvents) : Prop :=
  endpoint.registered = true ∧ endpoint.interest &&& mask ≠ 0

/-- Something will wake an end of a session when there is something to do. -/
structure Session.Awake (session : Session) (side : Side) : Prop where
  /-- A connection that is being made. -/
  connecting : session.connecting = true → side = .backend →
    (session.ends side).Wants EPOLLOUT ∨ (session.ends side).deferred ≠ 0
  /-- Something to receive. -/
  reading : session.connecting = false → (session.ends side).eof = false →
    (session.ends side).paused = false →
    (session.ends side).Wants EPOLLIN ∨ (session.ends side).deferred ≠ 0
  /-- Something to send. -/
  writing : (session.pending side.other).size ≠ 0 →
    (session.ends side).Wants EPOLLOUT ∨ (session.ends side).deferred ≠ 0
  /-- Nothing wakes it when there is nothing to send. -/
  idle : session.connecting = false → (session.ends side).Wants EPOLLOUT →
    (session.pending side.other).size ≠ 0

/-- Both ways of a session have ended, and both ends were told. -/
def Session.Done (session : Session) : Prop :=
  ∀ side, (session.ends side).eof = true ∧ (session.ends side).shutdown = true

/-- A side is paused only while enough is queued, and the session is not done. -/
structure Session.Paced (session : Session) : Prop where
  /-- What is paused has enough queued. -/
  paused : ∀ side, (session.ends side).paused = true → kLowWater < (session.pending side).size
  /-- There is more to do. -/
  undone : ¬ session.Done

/-- A session that waits for events. -/
structure Session.AtRest (session : Session) : Prop extends Session.Paced session where
  /-- It will be woken. -/
  awake : ∀ side, session.Awake side

/-- What is registered for an end of a session. -/
def EndpointState.entry (endpoint : EndpointState) : Option (ℕ × EpollEvents) :=
  if endpoint.registered then some (endpoint.token, endpoint.interest) else none

/-- What is registered is what the sessions say. -/
def SessionTables.Registered (tables : SessionTables) : Prop :=
  ∀ id session side fd, tables.sessions.lookup id = some session → (session.ends side).fd = some fd →
    tables.interests.lookup fd = (session.ends side).entry

/-! ### What is in order -/

/-- A call may be made, about a connection if it is about one. -/
def TcpAttempt.Allowed (log : List TcpEvent) (connection : Option Connection) : TcpAttempt → Prop
  | .send => .stopped ∉ log ∧ ∃ id c c', connection = some c ∧ Joins log id c c' ∧
    (hear log (some c)).shut = false
  | .receive => ¬ Stopping log ∧ ∃ id c c', connection = some c ∧ Joins log id c c' ∧
    (hear log (some c)).ended = false
  | .shutdown => ¬ Stopping log ∧ ∃ id c c', connection = some c ∧ Joins log id c c' ∧
    (hear log (some c')).ended = true ∧ (hear log (some c')).received = (hear log (some c)).sent ∧
    (hear log (some c)).shut = false
  | _ => ¬ Stopping log

/-- Both ways of a session have ended: all that was received was sent, and both ends were
told. -/
def Drained (log : List TcpEvent) (id : ℕ) : Prop :=
  ∀ side, ∃ c c', Joins log id c c' ∧ c.side = side ∧ (hear log (some c)).ended = true ∧
    (hear log (some c)).shut = true ∧ (hear log (some c)).sent = (hear log (some c')).received

/-- A connection is new: it is no session's yet, and what it begins or joins is right for it. -/
structure Fresh (log : List TcpEvent) (id : ℕ) (c : Connection) : Prop where
  /-- It is no session's. -/
  unattached : ∀ id', .attached id' (some c) ∉ log
  /-- That of a client begins a session that there was not. -/
  client : c.side = .client → ∀ id' connection, .attached id' connection ∈ log → id' < id
  /-- That of a backend joins one that has a client only. -/
  backend : c.side = .backend → Going log id ∧
    ∀ connection, .attached id connection ∈ log → ∃ c', connection = some c' ∧ c'.side = .client

/-- What is queued in the sessions there are is what was received and not sent. -/
def Queued (log : List TcpEvent) (sessions : Table ℕ Session) : Prop :=
  (∀ id, Going log id ↔ id ∈ sessions) ∧
  ∀ id session c c', sessions.lookup id = some session → Joins log id c c' →
    (hear log (some c')).received = (hear log (some c)).sent ++ (session.pending c'.side).content

variable (options : TcpReactorOptions)

/-- An event may follow a history. -/
def Allowed (log : List TcpEvent) : TcpEvent → Prop
  | .statistic event => (countsBytes event.kind → ∃ c, (hear log (some c)).uncounted ≠ [] ∧
      event = ⟨bytesKind c.side.other, (hear log (some c)).uncounted.length⟩) ∧
    (event.kind = .created → living log ≤ options.maxSessions)
  | .stopping event =>
    ∃ sessions, .barrier sessions event.deadlineNs ∈ log ∧ event.pending = pendingTotal sessions
  | .attempted what connection => AllCounted log ∧ what.Allowed log connection
  | .accepted sessions room => (sessions : ℤ) = living log ∧ room = decide (sessions < options.maxSessions)
  | .selected _ => ∃ before, log = .attempted .select none :: before
  | .attached id connection => ¬ Stopping log ∧ ∃ c, connection = some c ∧ Fresh log id c
  | .registered token _ => ∀ token' target, .registered token' target ∈ log → token' < token
  | .received connection _ | .ended connection => ¬ Stopping log ∧
    ∃ id c c', connection = some c ∧ Joins log id c c' ∧ (hear log (some c)).ended = false
  | .sent connection bytes => AllCounted log ∧ .stopped ∉ log ∧ bytes ≠ [] ∧
    ∃ id c c', connection = some c ∧ Joins log id c c' ∧ (hear log (some c)).shut = false ∧
      (hear log (some c)).sent ++ bytes <+: (hear log (some c')).received
  | .shut connection => AllCounted log ∧ TcpAttempt.Allowed log connection .shutdown
  | .epoll operation fd known => DelFailed log ∨ fd ≠ none ∧ known = decide (operation ≠ .add)
  | .visited id before after draining => (∀ id' ≠ id, after.lookup id' = before.lookup id') ∧
    (draining = false → ∀ session, after.lookup id = some session → ¬ session.Done)
  | .brokenOff id before after => ∀ id' ≠ id, after.lookup id' = before.lookup id'
  | .polled tables draining => (Table.size tables.sessions : ℤ) = living log ∧
    (draining = false → ¬ Stopping log ∧ (DelFailed log ∨ tables.Registered) ∧
      ∀ id session, tables.sessions.lookup id = some session → session.AtRest)
  | .closed id reason left => Going log id ∧
    (reason = "service-stop-drained" → ∀ side, left side = 0) ∧
    (reason = "drained" → (∀ side, left side = 0) ∧ Drained log id)
  | .barrier sessions _ => ¬ Stopping log ∧ AllCounted log ∧ Queued log sessions
  | .stopped => Stopping log
  | .returned sessions tokens => sessions = 0 ∧ tokens = 0
  | _ => True

/-- Each event could follow those before it. -/
def Legal : List TcpEvent → Prop
  | [] => True
  | event :: log => Allowed options log event ∧ (due (event :: log)).isSome ∧ Legal log

variable {options}

theorem Legal.suffix {log log' : List TcpEvent} (h : Legal options log) (hs : log' <:+ log) :
    Legal options log' := by
  induction log with
  | nil => rwa [List.suffix_nil.mp hs]
  | cons event log ih =>
    rcases List.suffix_cons_iff.mp hs with rfl | hs
    · exact h
    · exact ih h.2.2 hs

/-- Of every event in a legal history. -/
theorem Legal.allowed {log before : List TcpEvent} {event : TcpEvent} (h : Legal options log)
    (hs : event :: before <:+ log) : Allowed options before event := (h.suffix hs).1

/-- What is over has begun. -/
theorem Legal.begun_of_closed {log : List TcpEvent} (h : Legal options log) {id : ℕ} {reason : String}
    {left : Side → ℕ} (hclosed : .closed id reason left ∈ log) : ∃ connection, .attached id connection ∈ log := by
  induction log with
  | nil => cases hclosed
  | cons event log ih =>
    rcases List.mem_cons.mp hclosed with rfl | hclosed
    · obtain ⟨connection, hbegun⟩ := h.1.1.begun
      exact ⟨connection, List.mem_cons_of_mem _ hbegun⟩
    · obtain ⟨connection, hbegun⟩ := ih h.2.2 hclosed
      exact ⟨connection, List.mem_cons_of_mem _ hbegun⟩

/-- **Nothing is heard of a connection that is no session's.** -/
theorem Legal.hear_of_unattached {log : List TcpEvent} (h : Legal options log) {c : Connection}
    (hc : ∀ id, .attached id (some c) ∉ log) : hear log (some c) = {} := by
  induction log with
  | nil => rfl
  | cons event log ih =>
    obtain ⟨hallowed, -, hlegal⟩ := h
    have hunattached : ∀ id, .attached id (some c) ∉ log := fun id hmem =>
      hc id (List.mem_cons_of_mem _ hmem)
    have hno : ∀ {id c' c'' connection}, connection = some c' → Joins log id c' c'' → connection ≠ some c := by
      rintro id c' c'' connection rfl hjoins heq
      obtain rfl := Option.some.inj heq
      exact hunattached id hjoins.here
    rw [hear_cons, ih hlegal hunattached]
    cases event with
    | received connection bytes | ended connection =>
      obtain ⟨-, id, c', c'', hconnection, hjoins, -⟩ := hallowed
      exact if_neg (hno hconnection hjoins)
    | sent connection bytes =>
      obtain ⟨-, -, -, id, c', c'', hconnection, hjoins, -⟩ := hallowed
      exact if_neg (hno hconnection hjoins)
    | shut connection =>
      obtain ⟨-, -, id, c', c'', hconnection, hjoins, -⟩ := hallowed
      exact if_neg (hno hconnection hjoins)
    | statistic event =>
      have huncounted : ¬ (countsBytes event.kind ∧ ([] : Bytes) ≠ []) := fun h => h.2 rfl
      exact if_neg huncounted
    | _ => rfl

end L4lb.Net.Tcp
