import L4lb.Net.TcpState
import Mathlib.Algebra.BigOperators.Group.Finset.Basic

/-!
# The TCP reactor

`TcpReactor.cpp`: clients are accepted from one listener; each becomes a session with a
connection of its own to the backend chosen for it, and what either end sends is queued
and sent on to the other. A first stop signal closes the listener and lets the queues
drain until a deadline; a second one, or the deadline, ends that.

## The model

The reactor's members are the state, and what it asks of the system and of its callbacks
are calls (`TcpCall`). A reference to a session is its id, read from the table again where
the source goes through the reference. The kernel keeps what is registered with `epoll`:
readiness is of any descriptors that are, each with any events. `send` takes any part of
what it is given and `recv` gives any bytes that fit, or either fails, at any time; a stop
signal can come in at any look for one. The clock does not go back. Every callback can
throw. The number of an error is taken to survive the report made of it.

`log` is a history, newest first, of what was done, and `closes` of what was closed; no
method reads them.
-/

namespace L4lb.Net.Tcp

open Effect Prog

abbrev EPOLLRDHUP : EpollEvents := 0x2000

/-! ### Sessions -/

/-- `EndpointState`. -/
structure EndpointState where
  /-- `fd`. -/
  fd : Option ℕ := none
  /-- What its events carry. -/
  token : ℕ := 0
  /-- It is registered with `epoll`. -/
  registered : Bool := false
  /-- All it sends was received. -/
  eof : Bool := false
  /-- All that is sent to it was sent. -/
  shutdown : Bool := false
  /-- Nothing is received from it, its queue being full. -/
  paused : Bool := false
  /-- What it is registered for. -/
  interest : EpollEvents := 0
  /-- Until when it is left alone. -/
  deferred : Time := 0

/-- `Session`. -/
structure Session where
  /-- `id`. -/
  id : ℕ
  /-- Where it goes. -/
  backend : Endpoint
  /-- `ends`. -/
  ends : Side → EndpointState := fun _ => {}
  /-- `pending`: what was received from a side. -/
  pending : Side → TcpPendingBuffer := fun _ => {}
  /-- The backend is not connected yet. -/
  connecting : Bool := true
  /-- When it goes idle. -/
  deadline : TcpIdleDeadline
  /-- How many bytes received from a side were sent on. -/
  sent : Side → ℕ := fun _ => 0

/-- Change one end. -/
def Session.setEnd (session : Session) (side : Side) (f : EndpointState → EndpointState) : Session :=
  { session with ends := Function.update session.ends side (f (session.ends side)) }

/-- A connection: whose end it is, and its number among all connections. -/
structure Connection where
  /-- Whom it goes to. -/
  side : Side
  /-- Its number. -/
  serial : ℕ
  deriving DecidableEq, Repr

/-- What a descriptor stands for. -/
inductive TcpDescriptor where
  /-- `signalFd_`. -/
  | signal
  /-- `epollFd_`. -/
  | epoll
  /-- `listenerFd_`. -/
  | listener
  /-- An end of a session. -/
  | connection (connection : Connection)
  deriving DecidableEq, Repr

/-- `TcpReactorOptions`, without the functions injected. -/
structure TcpReactorOptions where
  /-- How many sessions there may be. -/
  maxSessions : ℕ := 1024
  /-- How long connecting may take. -/
  connectTimeout : Time := Time.milliseconds 5000
  /-- How long a session may be idle. -/
  idleTimeout : Time := Time.milliseconds 60000
  /-- How long the queues may take to drain. -/
  drainTimeout : Time := Time.milliseconds 1000

/-! ### The state -/

/-- `SessionEvent`. -/
structure SessionEvent where
  /-- Which session. -/
  id : ℕ
  /-- Its backend. -/
  backend : Endpoint
  /-- It has begun; else it has ended. -/
  accepted : Bool
  /-- Why. -/
  reason : String
  /-- The error, if there was one. -/
  error : Errno := 0
  /-- How many bytes of each side were sent on. -/
  sent : Side → ℕ := fun _ => 0

/-- `StopEvent`. -/
structure StopEvent where
  /-- How many bytes of each side are queued. -/
  pending : Side → ℕ
  /-- When draining ends. -/
  deadlineNs : Time

/-- A call that is made. -/
inductive TcpAttempt where
  /-- `accept4`. -/
  | accept
  /-- `backendSelector`. -/
  | select
  /-- `connect`. -/
  | connect
  /-- `recv`. -/
  | receive
  /-- `maintenanceCallback`. -/
  | maintain
  /-- `EPOLL_CTL_ADD` of the listener. -/
  | listen
  /-- `shutdown`. -/
  | shutdown
  /-- `send`. -/
  | send
  deriving DecidableEq, Repr

/-- The operations of `epoll_ctl`. -/
inductive EpollOperation where
  /-- `EPOLL_CTL_ADD`. -/
  | add
  /-- `EPOLL_CTL_MOD`. -/
  | mod
  /-- `EPOLL_CTL_DEL`. -/
  | del
  deriving DecidableEq, Repr

/-- The tables, and what numbers their entries. -/
structure SessionTables where
  /-- `tokens_`. -/
  tokens : EndpointTokens := {}
  /-- `sessions_`. -/
  sessions : Table ℕ Session := ∅
  /-- `nextSessionId_`. -/
  nextSessionId : ℕ := 1
  /-- What the kernel keeps under each number. -/
  descriptors : Table ℕ TcpDescriptor := ∅
  /-- What is registered with `epoll`: the token, and the events asked for. -/
  interests : Table ℕ (ℕ × EpollEvents) := ∅
  /-- How many connections there have been. -/
  connections : ℕ := 0

/-- What happened, for the record. -/
inductive TcpEvent where
  /-- `statisticsCallback`. -/
  | statistic (event : StatEvent)
  /-- `observationCallback`. -/
  | observation (kind : String) (session : ℕ) (side : Option Side) (value : ℤ) (sessions tokens : ℕ)
  /-- `diagnosticCallback`. -/
  | diagnostic (kind : String) (error : Errno)
  /-- `sessionCallback`. -/
  | sessionEvent (event : SessionEvent)
  /-- `stoppingCallback`. -/
  | stopping (event : StopEvent)
  /-- One of these five threw. -/
  | callbackThrew
  /-- A call is made, about a connection if it is about one. -/
  | attempted (what : TcpAttempt) (connection : Option Connection)
  /-- A client was accepted, with so many sessions there, and there was room for one more. -/
  | accepted (sessions : ℕ) (room : Bool)
  /-- A backend was selected, or none was. -/
  | selected (backend : Option Endpoint)
  /-- A connection became an end of a session. -/
  | attached (id : ℕ) (connection : Option Connection)
  /-- An end of a session got its token. -/
  | registered (token : ℕ) (target : TokenTarget)
  /-- Bytes were received. -/
  | received (connection : Option Connection) (bytes : Bytes)
  /-- Bytes were sent. -/
  | sent (connection : Option Connection) (bytes : Bytes)
  /-- `recv` returned nothing: all that there is was received. -/
  | ended (connection : Option Connection)
  /-- `shutdown` succeeded. -/
  | shut (connection : Option Connection)
  /-- `epoll_ctl` is called; whether the descriptor was registered then. -/
  | epoll (operation : EpollOperation) (fd : Option ℕ) (known : Bool)
  /-- It failed. -/
  | epollFailed (operation : EpollOperation) (error : Errno)
  /-- A `SessionFailure` was caught. -/
  | caught (id : ℕ) (operation : String)
  /-- A session had its turn: the sessions before and after, and whether the service is
  stopping then. -/
  | visited (id : ℕ) (before after : Table ℕ Session) (draining : Bool)
  /-- The turn of a session was broken off by what was thrown: the sessions before and after. -/
  | brokenOff (id : ℕ) (before after : Table ℕ Session)
  /-- The reactor waits for events. -/
  | polled (tables : SessionTables) (draining : Bool)
  /-- A session was taken out of the table, with so much queued. -/
  | closed (id : ℕ) (reason : String) (left : Side → ℕ)
  /-- The first stop signal was seen: the sessions there were, and the deadline set. -/
  | barrier (sessions : Table ℕ Session) (deadline : Time)
  /-- The second stop signal was seen, or the deadline. -/
  | stopped
  /-- `runTcpEventLoop` returned, with so many sessions and tokens. -/
  | returned (sessions tokens : ℕ)

/-- How far the stop has come. -/
structure StopState where
  /-- `draining_`. -/
  draining : Bool := false
  /-- `stopRequested_`. -/
  stopRequested : Bool := false
  /-- `drainDeadline_`. -/
  drainDeadline : Time := 0
  /-- `stopReason_`. -/
  stopReason : String := "service-stop-deadline"

/-- `TcpReactor`. -/
structure TcpReactor where
  /-- `signalFd_`. -/
  signalFd : ℕ := 0
  /-- `epollFd_`. -/
  epollFd : ℕ := 0
  /-- `listenerFd_`. -/
  listenerFd : Option ℕ := none
  /-- The tables. -/
  tables : SessionTables := {}
  /-- How far the stop has come. -/
  stop : StopState := {}
  /-- `listenerRetryTime_`. -/
  listenerRetryTime : Time := 0
  /-- `listenerDeferred_`. -/
  listenerDeferred : Bool := false
  /-- `resourceWarning_`. -/
  resourceWarning : Bool := false
  /-- What the clock read last. -/
  clock : Time := 0
  /-- What `::close` was called with, the last first. -/
  closes : List ℕ := []
  /-- The history. -/
  log : List TcpEvent := []

/-- Add to the history. -/
def TcpReactor.record (s : TcpReactor) (event : TcpEvent) : TcpReactor :=
  { s with log := event :: s.log }

/-- The connection under a number. -/
def SessionTables.connection (tables : SessionTables) (fd : Option ℕ) : Option Connection :=
  match fd.bind tables.descriptors.lookup with
  | some (.connection connection) => some connection
  | _ => none

/-- Change a session. -/
def SessionTables.update (tables : SessionTables) (id : ℕ) (f : Session → Session) : SessionTables :=
  match tables.sessions.lookup id with
  | none => tables
  | some session => { tables with sessions := tables.sessions.insert id (f session) }

/-- What is thrown. -/
inductive TcpError where
  /-- `SessionFailure`. -/
  | sessionFailure (operation : String) (error : Errno)
  /-- `std::system_error`. -/
  | system (operation : String) (error : Errno)
  /-- `std::logic_error`. -/
  | logicError (what : String)
  /-- `endpoint token exhausted`. -/
  | tokenExhausted
  /-- `invalid TCP drain timeout`. -/
  | invalidOptions
  /-- What `at` throws. -/
  | outOfRange
  /-- What the selector threw. -/
  | selector (exception : ℕ)
  /-- What another callback threw. -/
  | callback (exception : ℕ)
  deriving DecidableEq, Repr

/-- What the reactor asks of its surroundings. -/
inductive TcpCall where
  /-- How far the clock has moved. -/
  | now
  /-- One of the callbacks that are told what happened. -/
  | notify (event : TcpEvent)
  /-- `readyCallback`. -/
  | ready
  /-- `maintenanceCallback`. -/
  | maintenance
  /-- `backendSelector`. -/
  | selectBackend
  /-- `sigprocmask`. -/
  | sigprocmask
  /-- `signalfd`, `epoll_create1` and `socket`. -/
  | openDescriptor
  /-- `SO_REUSEADDR`. -/
  | setsockopt (fd : ℕ)
  /-- `bind`. -/
  | bind (fd : ℕ)
  /-- `listen`. -/
  | listen (fd : ℕ)
  /-- `accept4`. -/
  | accept (fd : Option ℕ)
  /-- `connect`. -/
  | connect (fd : Option ℕ) (peer : Endpoint)
  /-- `recv`. -/
  | recv (fd : Option ℕ) (size : ℕ)
  /-- `send`. -/
  | send (fd : Option ℕ) (bytes : Bytes)
  /-- `shutdown` with `SHUT_WR`. -/
  | shutdown (fd : Option ℕ)
  /-- `SO_ERROR`. -/
  | socketError (fd : Option ℕ)
  /-- `epoll_ctl`. -/
  | epollCtl (operation : EpollOperation) (fd : Option ℕ) (token : ℕ) (mask : EpollEvents)
  /-- `epoll_wait`. -/
  | epollWait (timeout : ℤ)
  /-- `read` of the signal descriptor. -/
  | readSignal
  /-- What `errno` holds after other calls. -/
  | errno
  /-- How the keys of a table are ranked. -/
  | rank

/-- The answers. -/
abbrev TcpAnswer : TcpCall → Type
  | .now => ℕ
  | .notify _ => Option ℕ
  | .ready => Option ℕ
  | .maintenance => Option ℕ
  | .selectBackend => Except ℕ (Option Endpoint)
  | .sigprocmask => Except Errno Unit
  | .openDescriptor => Except Errno ℕ
  | .setsockopt _ => Except Errno Unit
  | .bind _ => Except Errno Unit
  | .listen _ => Except Errno Unit
  | .accept _ => Except Errno ℕ
  | .connect _ _ => Except Errno Unit
  | .recv _ size => Except Errno { bytes : Bytes // bytes.length ≤ size }
  | .send _ bytes => Except Errno (Fin (bytes.length + 1))
  | .shutdown _ => Except Errno Unit
  | .socketError _ => Except Errno Errno
  | .epollCtl _ _ _ _ => Except Errno Unit
  | .epollWait _ => Except Errno { ready : List (ℕ × EpollEvents) // (ready.map Prod.fst).Nodup }
  | .readSignal => Except Errno ℕ
  | .errno => Errno
  | .rank => ℕ → ℕ

/-- The methods of the reactor. -/
abbrev TcpM := Prog TcpCall TcpAnswer TcpReactor TcpError

/-- Make a call. -/
def askTcp (c : TcpCall) : TcpM (TcpAnswer c) := call c

/-- `throwTcpSystemError`. -/
def throwTcpSystemError {α : Type} (operation : String) (error : Errno) : TcpM α :=
  raise (.system operation error)

/-- A call that throws when it fails. -/
def check (operation : String) (result : Except Errno Unit) : TcpM Unit :=
  match result with
  | .ok () => pure ()
  | .error error => throwTcpSystemError operation error

/-! ### Descriptors and tables -/

/-- Change the tables. -/
def modifyTables (f : SessionTables → SessionTables) : TcpM Unit :=
  modify fun s => { s with tables := f s.tables }

/-- The tables with something under a number. -/
def SessionTables.install (tables : SessionTables) (fd : ℕ) (descriptor : TcpDescriptor) : SessionTables :=
  { tables with
    descriptors := tables.descriptors.insert fd descriptor
    connections := tables.connections + 1 }

/-- A new descriptor: the kernel gives it a number that is not in use. -/
def installDescriptor (descriptor : ℕ → TcpDescriptor) (answer : Except Errno ℕ) :
    TcpM (Except Errno ℕ) := do
  let tables ← gets (·.tables)
  match answer with
  | .error error => pure (.error error)
  | .ok fd =>
    if fd ∈ tables.descriptors then pure (.error .EMFILE)
    else do
      modifyTables fun tables => tables.install fd (descriptor tables.connections)
      pure (.ok fd)

/-- The tables without what is under a number. -/
def SessionTables.release (tables : SessionTables) : Option ℕ → SessionTables
  | none => tables
  | some fd => { tables with
      descriptors := tables.descriptors.erase fd
      interests := tables.interests.erase fd }

/-- `::close`, if it is called: the number stands for nothing any more. -/
def TcpReactor.close (s : TcpReactor) (fd : Option ℕ) : TcpReactor :=
  { s with tables := s.tables.release fd, closes := fd.toList ++ s.closes }

/-- `Fd::closeFd`, and what is owned then. -/
def closeFd (fd : Fd) : TcpM Fd := do
  modify (·.close fd.closeFd.1)
  pure fd.closeFd.2

/-- `~Fd`. -/
def destroyFd (fd : Fd) : TcpM Unit := closeFd fd >>= fun _ => pure ()

/-- The session with an id, as `at` or a reference gives it. -/
def sessionAt (id : ℕ) : TcpM Session := do
  match ← gets (·.tables.sessions.lookup id) with
  | some session => pure session
  | none => raise .outOfRange

/-- Change a session through a reference. -/
def updateSession (id : ℕ) (f : Session → Session) : TcpM Unit := modifyTables (·.update id f)

/-! ### Reports -/

/-- Tell a callback what happened. -/
def notify (event : TcpEvent) : TcpM Unit := do
  modify (·.record event)
  match ← askTcp (.notify event) with
  | none => pure ()
  | some exception => do
    modify (·.record .callbackThrew)
    raise (.callback exception)

/-- `reportStatEvent`. -/
def reportStatEvent (kind : StatKind) (amount : ℕ := 1) : TcpM Unit := notify (.statistic ⟨kind, amount⟩)

/-- `reportObservation`. -/
def reportObservation (kind : String) (session : ℕ := 0) (side : Option Side := none) (value : ℤ := 0) :
    TcpM Unit := do
  let tables ← gets (·.tables)
  notify (.observation kind session side value (Table.size tables.sessions) tables.tokens.size)

/-- `Clock::now`. -/
def currentTime : TcpM Time := do
  let elapsed ← askTcp .now
  modify fun s => { s with clock := s.clock + elapsed }
  gets (·.clock)

/-! ### Registration -/

/-- What the kernel does of an `epoll_ctl` that succeeds. -/
def SessionTables.control (tables : SessionTables) (operation : EpollOperation) (fd : Option ℕ)
    (token : ℕ) (mask : EpollEvents) : SessionTables :=
  match fd, operation with
  | none, _ => tables
  | some fd, .del => { tables with interests := tables.interests.erase fd }
  | some fd, _ => { tables with interests := tables.interests.insert fd (token, mask) }

/-- `epoll_ctl`. -/
def epollControl (operation : EpollOperation) (fd : Option ℕ) (token : ℕ) (mask : EpollEvents) :
    TcpM (Except Errno Unit) := do
  modify fun s => s.record (.epoll operation fd (fd.any (· ∈ s.tables.interests)))
  match ← askTcp (.epollCtl operation fd token mask) with
  | .ok () => do
    modifyTables (·.control operation fd token mask)
    pure (.ok ())
  | .error error => do
    modify (·.record (.epollFailed operation error))
    pure (.error error)

/-- `updateEpollRegistration`. -/
def updateEpollRegistration (operation : EpollOperation) (fd : Option ℕ) (token : ℕ)
    (mask : EpollEvents) : TcpM Unit := do
  check "epoll_ctl" (← epollControl operation fd token mask)

/-- `updateEpollRegistration` that adds the listener. -/
def addListener : TcpM Unit := do
  modify (·.record (.attempted .listen none))
  updateEpollRegistration .add (← gets (·.listenerFd)) 1 EPOLLIN

/-- A session has its turn, to its end or until something is thrown. -/
def visiting {α : Type} (id : ℕ) (m : TcpM α) : TcpM α := do
  let before ← gets (·.tables.sessions)
  let result ← handle m fun e => do
    modify fun s => s.record (.brokenOff id before s.tables.sessions)
    raise e
  modify fun s => s.record (.visited id before s.tables.sessions s.stop.draining)
  pure result

/-! ### Closing -/

/-- The call of `detachEndpointFromEpoll`: the error it returns. -/
def detachError (endpoint : EndpointState) : TcpM Errno :=
  if endpoint.registered then do
    match ← epollControl .del endpoint.fd 0 0 with
    | .ok () => pure 0
    | .error error => pure (if error = .ENOENT ∨ error = .EBADF then 0 else error)
  else pure 0

/-- What `detachEndpointFromEpoll` leaves of an end. -/
def EndpointState.detached (endpoint : EndpointState) : EndpointState :=
  { endpoint with registered := false, interest := 0 }

/-- `removeEndpoint`. -/
def removeEndpoint (id : ℕ) (side : Side) : TcpM Unit := do
  let session ← sessionAt id
  let error ← detachError (session.ends side)
  updateSession id (·.setEnd side EndpointState.detached)
  when (error ≠ 0) (do
    reportStatEvent .error
    notify (.diagnostic "epoll_ctl DEL" error))

/-- What the five attempts of a close share: what a report throws is kept, if it is the
first. -/
def attemptTcpReport (firstFailure : Option TcpError) (report : TcpM Unit) : TcpM (Option TcpError) :=
  handle (report >>= fun _ => pure firstFailure) fun e => pure (firstFailure.or (some e))

/-- `attemptCloseErrorReport`. -/
def attemptCloseErrorReport (firstFailure : Option TcpError) : TcpM (Option TcpError) :=
  attemptTcpReport firstFailure (reportStatEvent .error)

/-- `attemptCloseDiagnosticReport`. -/
def attemptCloseDiagnosticReport (code : Errno) (firstFailure : Option TcpError) :
    TcpM (Option TcpError) :=
  attemptTcpReport firstFailure (notify (.diagnostic "epoll_ctl DEL" code))

/-- `attemptSessionEventReport`. -/
def attemptSessionEventReport (session : Session) (reason : String) (error : Errno)
    (firstFailure : Option TcpError) : TcpM (Option TcpError) :=
  attemptTcpReport firstFailure
    (notify (.sessionEvent ⟨session.id, session.backend, false, reason, error, session.sent⟩))

/-- `attemptClosedStatReport`. -/
def attemptClosedStatReport (firstFailure : Option TcpError) : TcpM (Option TcpError) :=
  attemptTcpReport firstFailure (reportStatEvent .closed)

/-- `attemptClosedObservationReport`. -/
def attemptClosedObservationReport (firstFailure : Option TcpError) : TcpM (Option TcpError) :=
  attemptTcpReport firstFailure (reportObservation "closed")

/-- What `closeSession` reports of an end that could not be detached. -/
def attemptDetachReports (code : Errno) (firstFailure : Option TcpError) : TcpM (Option TcpError) :=
  if code ≠ 0 then do
    let failure ← attemptCloseErrorReport firstFailure
    attemptCloseDiagnosticReport code failure
  else pure firstFailure

/-- The tables without a session. -/
def SessionTables.remove (tables : SessionTables) (session : Session) (id : ℕ) : SessionTables :=
  { tables with
    sessions := tables.sessions.erase id
    tokens := (tables.tokens.unregisterEndpoint (session.ends .client).token).unregisterEndpoint
      (session.ends .backend).token }

/-- What `closeSession` reports. -/
def reportClosed (session : Session) (reason : String) (error : Errno) (codes : Side → Errno) :
    TcpM Unit := do
  let failure ← attemptDetachReports (codes .client) none
  let failure ← attemptDetachReports (codes .backend) failure
  let failure ← attemptSessionEventReport session reason error failure
  let failure ← attemptClosedStatReport failure
  let failure ← attemptClosedObservationReport failure
  match failure with
  | none => pure ()
  | some e => raise e

/-- `closeSession`. -/
def closeSession (id : ℕ) (reason : String) (error : Errno) : TcpM Unit := do
  match ← gets (·.tables.sessions.lookup id) with
  | none => pure ()
  | some session => do
    modify fun s => { s with
      tables := s.tables.remove session id
      log := .closed id reason (fun side => (session.pending side).size) :: s.log }
    let clientError ← detachError (session.ends .client)
    let clientFd ← closeFd (session.ends .client).fd
    let backendError ← detachError (session.ends .backend)
    let backendFd ← closeFd (session.ends .backend).fd
    -- The session goes out of scope on the way out, with what its ends own by then.
    ensure (destroyFd backendFd >>= fun _ => destroyFd clientFd)
      (reportClosed session reason error fun | .client => clientError | .backend => backendError)

/-- What the loop of `closeAllSessions` does while there are sessions. -/
def closeFirstSession (reason : String) (failure : Option TcpError) :
    TcpM (Option TcpError ⊕ Option TcpError) := do
  let rank ← askTcp .rank
  match (← gets (·.tables.sessions.order rank)).head? with
  | none => pure (.inr failure)
  | some id => .inl <$> attemptTcpReport failure (closeSession id reason 0)

/-- `closeAllSessions`. -/
def closeAllSessions (reason : String) : TcpM Unit := do
  match ← loop (closeFirstSession reason) none with
  | none => pure ()
  | some e => raise e

/-- A `catch` of `SessionFailure`: the session is closed. -/
def catchFailure (id : ℕ) (m : TcpM Unit) : TcpM Unit :=
  handle m fun e =>
    match e with
    | .sessionFailure operation error => do
      modify (·.record (.caught id operation))
      reportStatEvent .error
      closeSession id operation error
    | e => raise e

variable (options : TcpReactorOptions)

/-! ### Stopping -/

/-- How much is queued of what a side sent. -/
def pendingTotal (sessions : Table ℕ Session) (side : Side) : ℕ :=
  ∑ id ∈ sessions.keys, ((sessions.lookup id).map fun session => (session.pending side).size).getD 0

/-- What `consumeStopSignals` does about the first stop signal. -/
def beginDraining : TcpM Unit := do
  let time ← currentTime
  modify fun s => { s with
    stop := { s.stop with draining := true, drainDeadline := time + options.drainTimeout }
    log := .barrier s.tables.sessions (time + options.drainTimeout) :: s.log }
  let listenerFd ← gets (·.listenerFd)
  let deferred ← gets (·.listenerDeferred)
  let detached ← (if deferred then pure (.ok ()) else epollControl .del listenerFd 0 0)
  let listenerFd ← closeFd listenerFd
  modify fun s => { s with listenerFd, listenerDeferred := false }
  let event ← gets fun s => StopEvent.mk (pendingTotal s.tables.sessions) s.stop.drainDeadline
  reportObservation "draining"
  notify (.stopping event)
  match detached with
  | .ok () => pure ()
  | .error detachError => notify (.diagnostic "stop listener DEL" detachError)

/-- The stop is no longer put off. -/
def requestStop (reason kind : String) : TcpM Unit := do
  modify fun s => { s with
    stop := { s.stop with stopRequested := true, stopReason := reason }
    log := .stopped :: s.log }
  reportObservation kind

/-- A pass of the loop of `consumeStopSignals`; it leaves with whether the method returns. -/
def stopSignalPass (_ : Unit) : TcpM (Unit ⊕ Bool) := do
  match ← askTcp .readSignal with
  | .ok count =>
    if count = 128 then
      if ← gets (·.stop.draining) then do
        requestStop "service-stop-forced" "stop-forced"
        pure (.inr true)
      else do
        beginDraining options
        pure (.inl ())
    else throwTcpSystemError "read signalfd" Errno.EIO
  | .error error =>
    if error = .EINTR then pure (.inl ())
    else if error = .EAGAIN then pure (.inr false)
    else throwTcpSystemError "read signalfd" error

/-- What `consumeStopSignals` does about the deadline. -/
def observeDeadline : TcpM Unit := do
  if ← gets (·.stop.draining) then do
    let time ← currentTime
    let drainDeadline ← gets (·.stop.drainDeadline)
    when (time ≥ drainDeadline) (requestStop "service-stop-deadline" "stop-deadline")
  else pure ()

/-- `consumeStopSignals`. -/
def consumeStopSignals : TcpM Bool := do
  if ← gets (·.stop.stopRequested) then pure true
  else do
    if ← loop (stopSignalPass options) () then pure true
    else do
      observeDeadline
      gets fun s => s.stop.draining || s.stop.stopRequested

/-! ### Data -/

/-- What a session end is registered for. -/
def interestMask (session : Session) (draining : Bool) (side : Side) : EpollEvents :=
  let endpoint := session.ends side
  let writing : EpollEvents := if (session.pending side.other).size ≠ 0 then EPOLLOUT else 0
  if draining then writing
  else if session.connecting then
    match side with
    | .backend => EPOLLOUT
    | .client => EPOLLRDHUP
  else (if !endpoint.eof && !endpoint.paused then EPOLLIN ||| EPOLLRDHUP else 0) ||| writing

/-- A pass of the loop of `updateSessionInterests`. -/
def updateInterest (id : ℕ) (side : Side) : TcpM Unit := do
  let time ← currentTime
  let session ← sessionAt id
  let endpoint := session.ends side
  if time < endpoint.deferred then removeEndpoint id side
  else do
    let mask ← gets fun s => interestMask session s.stop.draining side
    when endpoint.paused (reportObservation "read-suspended" id side mask.toNat)
    if mask = 0 then removeEndpoint id side
    else if endpoint.registered ∧ endpoint.interest = mask then pure ()
    else
      match ← epollControl (if endpoint.registered then .mod else .add) endpoint.fd endpoint.token mask with
      | .error error => raise (.sessionFailure "epoll_ctl session" error)
      | .ok () => do
        updateSession id (·.setEnd side fun endpoint =>
          { endpoint with registered := true, interest := mask })
        reportObservation "interest" id side mask.toNat

/-- `updateSessionInterests`. -/
def updateSessionInterests (id : ℕ) : TcpM Unit := do
  updateInterest id .client
  updateInterest id .backend

/-- The bytes of this side that were sent on. -/
def bytesKind : Side → StatKind
  | .client => .bytesC2b
  | .backend => .bytesB2c

/-- What `writeBufferedDirection` does of what was sent. -/
def accountSent (id : ℕ) (source : Side) (sentBytes : ℕ) : TcpM Unit := do
  let session ← sessionAt id
  match (session.pending source).consumeReadableBytes sentBytes with
  | none => raise (.logicError "buffer underflow")
  | some buffer => do
    updateSession id fun session => { session with
      pending := Function.update session.pending source buffer
      sent := Function.update session.sent source (session.sent source + sentBytes) }
    reportStatEvent (bytesKind source) sentBytes

/-- Bytes went in or out. -/
def recordIoProgress (id : ℕ) (bytes : ℕ) : TcpM Unit := do
  let time ← currentTime
  updateSession id fun session => { session with deadline := session.deadline.recordIoProgress time bytes }

/-- What `writeBufferedDirection` does with so much of a queue: how much was sent, or
`none` for the loop to end, or nothing for another try. -/
def sendBuffered (id : ℕ) (source : Side) (budget : ℕ) : TcpM (Option ℕ) := do
  let session ← sessionAt id
  let buffer := session.pending source
  let size := min buffer.readableBytes budget
  let fd := (session.ends source.other).fd
  modify fun s => s.record (.attempted .send (s.tables.connection fd))
  match ← askTcp (.send fd (buffer.data size)) with
  | .error error =>
    if error = .EINTR then pure (some 0)
    else if error = .EAGAIN ∨ error = .EWOULDBLOCK then do
      reportObservation "send-eagain" id source
      pure none
    else raise (.sessionFailure "send" error)
  | .ok sentBytes =>
    if sentBytes.val = 0 then raise (.sessionFailure "send zero" Errno.EIO)
    else do
      modify fun s => s.record (.sent (s.tables.connection fd) ((buffer.data size).take sentBytes))
      when (sentBytes.val < size) (reportObservation "short-send" id source sentBytes.val)
      accountSent id source sentBytes
      recordIoProgress id sentBytes
      pure (some sentBytes)

/-- A pass of the loop of `writeBufferedDirection`. -/
def writePass (id : ℕ) (source : Side) (budget : ℕ) : TcpM (ℕ ⊕ ℕ) := do
  let session ← sessionAt id
  if (session.pending source).size = 0 ∨ budget = 0 then pure (.inr budget)
  else do
    let _ ← consumeStopSignals options
    if ← gets (·.stop.stopRequested) then pure (.inr budget)
    else
      match ← sendBuffered id source budget with
      | none => pure (.inr budget)
      | some sentBytes => pure (.inl (budget - sentBytes))

/-- `writeBufferedDirection`: what is left of the budget. -/
def writeBufferedDirection (id : ℕ) (source : Side) (budget : ℕ) : TcpM ℕ := do
  let budget ← loop (writePass options id source) budget
  let session ← sessionAt id
  let draining ← gets (·.stop.draining)
  when (draining = false ∧ (session.ends source).paused ∧ (session.pending source).size ≤ kLowWater) (do
    updateSession id (·.setEnd source fun endpoint => { endpoint with paused := false })
    reportObservation "resume" id source (session.pending source).size)
  pure budget

/-- What `readSessionDirection` does of what was received. -/
def storeReceived (id : ℕ) (source : Side) (bytes : Bytes) : TcpM Unit := do
  let session ← sessionAt id
  modify fun s => s.record (.received (s.tables.connection (session.ends source).fd) bytes)
  match ((session.pending source).write bytes).commitWrittenBytes bytes.length with
  | none => raise (.logicError "buffer write span overflow")
  | some buffer => do
    updateSession id fun session => { session with
      pending := Function.update session.pending source buffer }
    recordIoProgress id bytes.length
    reportObservation "buffer" id source buffer.size
    when (buffer.size = kBufferLimit) (do
      updateSession id (·.setEnd source fun endpoint => { endpoint with paused := true })
      reportObservation "pause" id source buffer.size)

/-- There is nothing more to receive from a side. -/
def endReceiving (id : ℕ) (source : Side) : TcpM Unit := do
  let session ← sessionAt id
  modify fun s => s.record (.ended (s.tables.connection (session.ends source).fd))
  updateSession id (·.setEnd source fun endpoint => { endpoint with eof := true })

/-- What `readSessionDirection` does with so much room; the answers are as those of
`sendBuffered`. -/
def receiveBuffered (id : ℕ) (source : Side) (budget : ℕ) : TcpM (Option ℕ) := do
  let session ← sessionAt id
  let size := min (session.pending source).writableBytes budget
  if size = 0 then pure none
  else do
    let fd := (session.ends source).fd
    modify fun s => s.record (.attempted .receive (s.tables.connection fd))
    match ← askTcp (.recv fd size) with
    | .error error =>
      if error = .EINTR then pure (some 0)
      else if error = .EAGAIN ∨ error = .EWOULDBLOCK then pure none
      else raise (.sessionFailure "recv" error)
    | .ok received =>
      if received.val.length = 0 then do
        endReceiving id source
        reportObservation "eof" id source
        pure none
      else do
        storeReceived id source received.val
        pure (some received.val.length)

/-- A pass of the loop of `readSessionDirection`. -/
def readPass (id : ℕ) (source : Side) (budget : ℕ) : TcpM (ℕ ⊕ Unit) := do
  let session ← sessionAt id
  if (session.ends source).eof ∨ (session.ends source).paused ∨ budget = 0 then pure (.inr ())
  else do
    if ← consumeStopSignals options then pure (.inr ())
    else
      match ← receiveBuffered id source budget with
      | none => pure (.inr ())
      | some receivedBytes => pure (.inl (budget - receivedBytes))

/-- `readSessionDirection`. -/
def readSessionDirection (id : ℕ) (source : Side) : TcpM Unit :=
  loop (readPass options id source) kBufferLimit

/-- A pass of the loop of `advanceSessionIo` around `shutdown`. -/
def shutdownPass (fd : Option ℕ) (_ : Unit) : TcpM (Unit ⊕ Except Errno Unit) := do
  modify fun s => s.record (.attempted .shutdown (s.tables.connection fd))
  match ← askTcp (.shutdown fd) with
  | .ok () => pure (.inr (.ok ()))
  | .error error =>
    if error = .EINTR then do
      if ← consumeStopSignals options then do
        let error ← askTcp .errno
        pure (.inr (.error error))
      else pure (.inl ())
    else pure (.inr (.error error))

/-- What `advanceSessionIo` does about the end of what a side sends. -/
def shutdownTarget (id : ℕ) (side : Side) : TcpM Unit := do
  let session ← sessionAt id
  let target := session.ends side.other
  if (session.ends side).eof ∧ (session.pending side).size = 0 ∧ !target.shutdown then
    match ← loop (shutdownPass options target.fd) () with
    | .error error => raise (.sessionFailure "shutdown SHUT_WR" error)
    | .ok () => do
      modify fun s => s.record (.shut (s.tables.connection target.fd))
      updateSession id (·.setEnd side.other fun endpoint => { endpoint with shutdown := true })
      reportObservation "shutdown" id side.other
  else pure ()

/-- `advanceSessionIo`. -/
def advanceSessionIo (id : ℕ) : TcpM Bool := do
  let clientBudget ← writeBufferedDirection options id .client kBufferLimit
  let backendBudget ← writeBufferedDirection options id .backend kBufferLimit
  readSessionDirection options id .client
  readSessionDirection options id .backend
  let _ ← writeBufferedDirection options id .client clientBudget
  let _ ← writeBufferedDirection options id .backend backendBudget
  if ← gets (·.stop.draining) then do
    let session ← sessionAt id
    pure ((session.pending .client).size = 0 && (session.pending .backend).size = 0)
  else do
    shutdownTarget options id .client
    shutdownTarget options id .backend
    let session ← sessionAt id
    pure ((session.ends .client).eof && (session.ends .backend).eof && (session.ends .client).shutdown &&
      (session.ends .backend).shutdown)

/-- `advanceSessionIo`, of a session that is connected. -/
def advanceConnected (id : ℕ) : TcpM Bool := do
  let session ← sessionAt id
  if session.connecting then pure false else advanceSessionIo options id

/-- A session that has nothing more to do is closed. -/
def closeFinished (id : ℕ) : TcpM Unit := do
  let stop ← gets (·.stop)
  closeSession id (if stop.stopRequested then stop.stopReason
    else if stop.draining then "service-stop-drained" else "drained") 0

/-! ### Events -/

/-- `readSocketError`. -/
def readSocketError (fd : Option ℕ) : TcpM Errno := do
  match ← askTcp (.socketError fd) with
  | .ok error => pure error
  | .error error => raise (.sessionFailure "getsockopt SO_ERROR" error)

/-- What `dispatchEndpointEvent` does about an error, or the end of connecting. -/
def settleEndpoint (id : ℕ) (side : Side) (events : EpollEvents) (connectingEvent : Bool) : TcpM Unit := do
  reportObservation "error-event" id side events.toNat
  let session ← sessionAt id
  let error ← readSocketError (session.ends side).fd
  reportObservation "so-error" id side error
  if error ≠ 0 then raise (.sessionFailure "SO_ERROR" error)
  else when connectingEvent (do
    let time ← currentTime
    updateSession id fun session => { session with connecting := false, deadline := ⟨time⟩ })

/-- What `dispatchEndpointEvent` does about an end that hung up without progress. -/
def deferEndpoint (id : ℕ) (side : Side) : TcpM Unit := do
  let time ← currentTime
  updateSession id (·.setEnd side fun endpoint =>
    { endpoint with deferred := time + Time.milliseconds 100 })
  reportObservation "hup-defer" id side
  removeEndpoint id side

/-- The `try` of `dispatchEndpointEvent`. -/
def handleEndpointEvent (id : ℕ) (side : Side) (events : EpollEvents) : TcpM Unit := do
  let session ← sessionAt id
  let draining ← gets (·.stop.draining)
  if draining ∧ session.connecting then closeSession id "service-stop-connecting" 0
  else do
    let connectingEvent : Bool :=
      session.connecting ∧ side = .backend ∧ events &&& (EPOLLOUT ||| EPOLLERR ||| EPOLLHUP) ≠ 0
    when (connectingEvent ∨ events &&& EPOLLERR ≠ 0) (settleEndpoint id side events connectingEvent)
    let before := (← sessionAt id).deadline.lastIoTime
    if ← advanceConnected options id then closeFinished id
    else do
      let after := (← sessionAt id).deadline.lastIoTime
      when (events &&& (EPOLLHUP ||| EPOLLRDHUP) ≠ 0 ∧ after = before) (deferEndpoint id side)
      updateSessionInterests id

/-- `dispatchEndpointEvent`. -/
def dispatchEndpointEvent (token : ℕ) (events : EpollEvents) : TcpM Unit := do
  match ← gets (·.tables.tokens.findEndpoint token) with
  | none => reportObservation "stale-token"
  | some target => visiting target.sessionId (do
    let _ ← sessionAt target.sessionId
    catchFailure target.sessionId (handleEndpointEvent options target.sessionId target.side events))

/-- Whether the time has come for an end that was left alone. -/
def EndpointState.due (endpoint : EndpointState) (now : Time) : Bool :=
  endpoint.deferred ≠ 0 ∧ now ≥ endpoint.deferred

/-- An end that was left alone is so no longer. -/
def EndpointState.resumed (endpoint : EndpointState) (now : Time) : EndpointState :=
  if endpoint.due now then { endpoint with deferred := 0 } else endpoint

/-- What `processSessionDeadlines` does about a session. -/
def checkDeadline (now : Time) (id : ℕ) : TcpM Unit := do
  let session ← sessionAt id
  if session.deadline.expired now
      (if session.connecting then options.connectTimeout else options.idleTimeout) then do
    reportStatEvent .timeout
    closeSession id (if session.connecting then "connect-timeout" else "idle-timeout") .ETIMEDOUT
  else do
    updateSession id fun session => { session with ends := fun side => (session.ends side).resumed now }
    when ((session.ends .client).due now ∨ (session.ends .backend).due now) (catchFailure id (do
      reportObservation "hup-retry" id
      if ← advanceConnected options id then closeFinished id else updateSessionInterests id))

/-- A pass of the loop of `processSessionDeadlines`: whether there is to be another. -/
def deadlinePass (now : Time) (id : ℕ) : TcpM Bool := do
  let stop ← gets (·.stop)
  if stop.draining ∨ stop.stopRequested then pure false
  else do
    visiting id (checkDeadline options now id)
    pure true

/-- What `processSessionDeadlines` does about the listener. -/
def resumeListener (now : Time) : TcpM Unit := do
  let deferred ← gets (·.listenerDeferred)
  let retryTime ← gets (·.listenerRetryTime)
  when (deferred ∧ now ≥ retryTime) (do
    addListener
    modify fun s => { s with listenerDeferred := false })

/-- `processSessionDeadlines`. -/
def processSessionDeadlines : TcpM Unit := do
  let stop ← gets (·.stop)
  if stop.draining ∨ stop.stopRequested then pure ()
  else do
    let now ← currentTime
    resumeListener now
    let rank ← askTcp .rank
    forEach (deadlinePass options now) (← gets (·.tables.sessions.order rank))

/-- What `advanceStopDrain` does to an end first. -/
def clearDeferred (id : ℕ) (side : Side) : TcpM Unit := do
  let time ← currentTime
  updateSession id (·.setEnd side fun endpoint =>
    if time ≥ endpoint.deferred then { endpoint with deferred := 0 } else endpoint)

/-- What `advanceStopDrain` does about a session. -/
def drainSession (id : ℕ) : TcpM Unit := do
  let session ← sessionAt id
  if session.connecting then closeSession id "service-stop-connecting" 0
  else do
    clearDeferred id .client
    clearDeferred id .backend
    dispatchEndpointEvent options (session.ends .client).token 0

/-- A pass of the loop of `advanceStopDrain`. -/
def drainPass (id : ℕ) : TcpM Bool := do
  let _ ← consumeStopSignals options
  if ← gets (·.stop.stopRequested) then pure false
  else do
    visiting id (drainSession options id)
    pure true

/-- `advanceStopDrain`. -/
def advanceStopDrain : TcpM Unit := do
  let rank ← askTcp .rank
  forEach (drainPass options) (← gets (·.tables.sessions.order rank))

/-! ### Accepting -/

/-- `registerEndpoint`, of an end of a session. -/
def registerEndpoint (id : ℕ) (side : Side) : TcpM Unit := do
  match ← gets (·.tables.tokens.registerEndpoint id side) with
  | none => raise .tokenExhausted
  | some (token, tokens) => modify fun s => { s with
      tables := { s.tables with tokens }.update id (·.setEnd side fun endpoint => { endpoint with token })
      log := .registered token ⟨id, side⟩ :: s.log }

/-- The socket of `connectSessionBackend` becomes the session's. -/
def attachBackend (id fd : ℕ) : TcpM Unit :=
  modify fun s => { s with
    tables := s.tables.update id (·.setEnd .backend fun endpoint => { endpoint with fd := some fd })
    log := .attached id (s.tables.connection (some fd)) :: s.log }

/-- `connectSessionBackend`. -/
def connectSessionBackend (id : ℕ) : TcpM Unit := do
  match ← installDescriptor (fun serial => .connection ⟨.backend, serial⟩) (← askTcp .openDescriptor) with
  | .error error => raise (.sessionFailure "socket backend" error)
  | .ok fd => do
    attachBackend id fd
    registerEndpoint id .client
    registerEndpoint id .backend
    let session ← sessionAt id
    let backendFd := (session.ends .backend).fd
    modify fun s => s.record (.attempted .connect (s.tables.connection backendFd))
    match ← askTcp (.connect backendFd session.backend) with
    | .ok () => do
      let time ← currentTime
      updateSession id fun session => { session with connecting := false, deadline := ⟨time⟩ }
      reportObservation "connect-immediate" id
    | .error error =>
      if error = .EINPROGRESS then reportObservation "connect-inprogress" id
      else raise (.sessionFailure "connect" error)
    updateSessionInterests id

/-- The session that `acceptClientSessions` builds is put in the table. -/
def createSession (backend : Endpoint) (front : ℕ) (time : Time) : TcpM ℕ := do
  let id ← gets (·.tables.nextSessionId)
  let session : Session := { id, backend, deadline := ⟨time⟩ }
  let session := session.setEnd .client fun endpoint => { endpoint with fd := some front }
  modify fun s => { s with
    tables := { s.tables with
      nextSessionId := id + 1
      sessions := Table.emplace s.tables.sessions id session }
    log := .attached id (s.tables.connection (some front)) :: s.log }
  pure id

/-- What `acceptClientSessions` does with a backend for a client. -/
def startSession (backend : Endpoint) (front : ℕ) : TcpM Unit := do
  let time ← currentTime
  let id ← createSession backend front time
  reportStatEvent .created
  let session ← sessionAt id
  notify (.sessionEvent { id, backend := session.backend, accepted := true, reason := "accepted" })
  catchFailure id (connectSessionBackend id)

/-- What `acceptClientSessions` does with a client; where it does not become a session's,
its socket is closed. -/
def acceptClient (front : ℕ) : TcpM Unit := do
  modify fun s => { s with resourceWarning := false }
  let sessions ← gets fun s => Table.size s.tables.sessions
  modify (·.record (.accepted sessions (sessions < options.maxSessions)))
  if sessions ≥ options.maxSessions then
    ensure (destroyFd (some front)) (do
      reportStatEvent .rejected
      reportObservation "capacity-reject")
  else do
    modify (·.record (.attempted .select none))
    match ← askTcp .selectBackend with
    | .error exception => do
      destroyFd (some front)
      raise (.selector exception)
    | .ok selected => do
      modify (·.record (.selected selected))
      match selected with
      | none => ensure (destroyFd (some front)) (reportStatEvent .rejected)
      | some backend => startSession backend front

/-- The errors of `accept4` that concern one client only. -/
def isClientError (error : Errno) : Bool :=
  error = .ECONNABORTED || error = .EPROTO || error = .ENETDOWN || error = .ENOPROTOOPT ||
    error = .EHOSTDOWN || error = .ENONET || error = .EHOSTUNREACH || error = .EOPNOTSUPP ||
    error = .ENETUNREACH

/-- The errors of `accept4` that want of resources causes. -/
def isAcceptPressure (error : Errno) : Bool :=
  error = .EMFILE || error = .ENFILE || error = .ENOBUFS || error = .ENOMEM

/-- What `acceptClientSessions` does when resources are short. -/
def deferListener (error : Errno) : TcpM Unit := do
  reportStatEvent .error
  let warned ← gets (·.resourceWarning)
  when (!warned) (notify (.diagnostic "accept4 resource backoff" error))
  modify fun s => { s with resourceWarning := true }
  updateEpollRegistration .del (← gets (·.listenerFd)) 1 0
  modify fun s => { s with listenerDeferred := true }
  let time ← currentTime
  modify fun s => { s with listenerRetryTime := time + Time.milliseconds 100 }
  reportObservation "listener-backoff"

/-- A pass of the loop of `acceptClientSessions`. -/
def acceptPass (sessionAttempt : ℕ) : TcpM (ℕ ⊕ Unit) := do
  if sessionAttempt ≥ 64 then pure (.inr ())
  else do
    if ← consumeStopSignals options then pure (.inr ())
    else do
      modify (·.record (.attempted .accept none))
      let listenerFd ← gets (·.listenerFd)
      match ← installDescriptor (fun serial => .connection ⟨.client, serial⟩)
        (← askTcp (.accept listenerFd)) with
      | .ok front => do
        acceptClient options front
        pure (.inl (sessionAttempt + 1))
      | .error error =>
        if error = .EAGAIN ∨ error = .EWOULDBLOCK then pure (.inr ())
        else if error = .EINTR then pure (.inl sessionAttempt)
        else if isClientError error then do
          reportStatEvent .error
          pure (.inl (sessionAttempt + 1))
        else if isAcceptPressure error then do
          deferListener error
          pure (.inr ())
        else throwTcpSystemError "accept4" error

/-- `acceptClientSessions`. -/
def acceptClientSessions : TcpM Unit := loop (acceptPass options) 0

/-! ### Running -/

/-- What `dispatchTcpReadyEvents` does about an event. -/
def dispatchTcpReadyEvent (token : ℕ) (events : EpollEvents) : TcpM Unit := do
  if token = 1 then
    if ← gets (·.stop.draining) then pure ()
    else if events &&& (EPOLLERR ||| EPOLLHUP) ≠ 0 then throwTcpSystemError "listener epoll" Errno.EIO
    else do
      let time ← currentTime
      let retryTime ← gets (·.listenerRetryTime)
      when (time ≥ retryTime) (acceptClientSessions options)
  else if token ≠ 2 then dispatchEndpointEvent options token events
  else pure ()

/-- `dispatchTcpReadyEvents`. -/
def dispatchTcpReadyEvents (events : List (ℕ × EpollEvents)) : TcpM Unit :=
  forEach (fun (token, mask) => do
    let _ ← consumeStopSignals options
    if ← gets (·.stop.stopRequested) then pure false
    else do
      dispatchTcpReadyEvent options token mask
      pure true) events

/-- A callback that may throw. -/
def runCallback (answer : Option ℕ) : TcpM Unit :=
  match answer with
  | none => pure ()
  | some exception => raise (.callback exception)

/-- What `runTcpEventLoop` does before it waits: whether it returns. -/
def beforePoll : TcpM Bool := do
  if ← gets (·.stop.draining) then do
    advanceStopDrain options
    gets fun s => Table.size s.tables.sessions = 0
  else do
    processSessionDeadlines options
    pure false

/-- How long `runTcpEventLoop` waits. -/
def pollTimeout : TcpM ℤ := do
  if ← gets (·.stop.draining) then do
    let time ← currentTime
    let drainDeadline ← gets (·.stop.drainDeadline)
    -- the time left, in milliseconds, rounded up
    pure (max 0 (min 100 (-(-(drainDeadline - time) / 1000000))))
  else pure 100

/-- What `runTcpEventLoop` does after it waited, before the events. -/
def afterPoll : TcpM Unit := do
  if ← gets (·.stop.draining) then pure ()
  else do
    processSessionDeadlines options
    if ← gets (·.stop.draining) then pure ()
    else do
      modify (·.record (.attempted .maintain none))
      runCallback (← askTcp .maintenance)

/-- What `epoll_wait` says of descriptors that are ready: of those registered, their tokens. -/
def SessionTables.readyEvents (tables : SessionTables) (ready : List (ℕ × EpollEvents)) :
    List (ℕ × EpollEvents) :=
  (ready.filterMap fun (fd, mask) => (tables.interests.lookup fd).map fun (token, _) => (token, mask)).take 128

/-- A pass of the loop of `runTcpEventLoop`. -/
def tcpEventPass (_ : Unit) : TcpM (Unit ⊕ ℕ) := do
  let _ ← consumeStopSignals options
  let stop ← gets (·.stop)
  if stop.stopRequested then do
    closeAllSessions stop.stopReason
    pure (.inr 0)
  else if ← beforePoll options then pure (.inr 0)
  else do
    let timeout ← pollTimeout
    reportObservation "poll" 0 none timeout
    modify fun s => s.record (.polled s.tables s.stop.draining)
    match ← askTcp (.epollWait timeout) with
    | .error error => if error = .EINTR then pure (.inl ()) else throwTcpSystemError "epoll_wait" error
    | .ok ready => do
      let events ← gets (·.tables.readyEvents ready.val)
      let _ ← consumeStopSignals options
      if ← gets (·.stop.stopRequested) then pure (.inl ())
      else do
        afterPoll options
        dispatchTcpReadyEvents options events
        pure (.inl ())

/-- `runTcpEventLoop`. -/
def runTcpEventLoop : TcpM ℕ := do
  runCallback (← askTcp .ready)
  let result ← loop (tcpEventPass options) ()
  modify fun s => s.record (.returned (Table.size s.tables.sessions) s.tables.tokens.size)
  pure result

/-- What is left when the constructor throws, or after the destructor: the descriptors of
the members are closed. -/
def closeMembers (fds : List (Option ℕ)) : TcpM Unit :=
  forEach (fun fd => destroyFd fd >>= fun _ => pure true) fds

/-- The constructor, once its descriptors are open. -/
def setupListener (signalFd listenerFd : ℕ) : TcpM Unit := do
  check "setsockopt SO_REUSEADDR" (← askTcp (.setsockopt listenerFd))
  check "bind" (← askTcp (.bind listenerFd))
  check "listen" (← askTcp (.listen listenerFd))
  addListener
  updateEpollRegistration .add (some signalFd) 2 EPOLLIN

/-- `TcpReactor`, the constructor: the three descriptors are members, so each is opened
before the first is tested. -/
def constructTcpReactor : TcpM Unit := do
  check "sigprocmask" (← askTcp .sigprocmask)
  let signal ← installDescriptor (fun _ => .signal) (← askTcp .openDescriptor)
  let epoll ← installDescriptor (fun _ => .epoll) (← askTcp .openDescriptor)
  let listener ← installDescriptor (fun _ => .listener) (← askTcp .openDescriptor)
  let opened := [listener, epoll, signal].map Except.toOption
  handle (match signal, epoll, listener with
    | .error error, _, _ => throwTcpSystemError "signalfd" error
    | _, .error error, _ => throwTcpSystemError "epoll_create1" error
    | _, _, .error error => throwTcpSystemError "socket listener" error
    | .ok signalFd, .ok epollFd, .ok listenerFd => do
      modify fun s => { s with signalFd, epollFd, listenerFd := some listenerFd }
      setupListener signalFd listenerFd) fun e => closeMembers opened >>= fun _ => raise e

/-- The destructor. -/
def destroyTcpReactor : TcpM Unit := do
  handle (closeAllSessions "service-error") fun _ => pure ()
  closeMembers (← gets fun s => [s.listenerFd, some s.epollFd, some s.signalFd])

/-- What makes `runTcpReactor` refuse the options. -/
def TcpReactorOptions.Invalid : Prop :=
  options.drainTimeout ≤ 0 ∨ options.drainTimeout > Time.milliseconds (2 ^ 31 - 1)

instance : Decidable options.Invalid := inferInstanceAs (Decidable (_ ∨ _))

/-- `runTcpReactor`. -/
def runTcpReactor : TcpM ℕ := do
  if options.Invalid then raise .invalidOptions
  else do
    constructTcpReactor
    ensure destroyTcpReactor (runTcpEventLoop options)

end L4lb.Net.Tcp
