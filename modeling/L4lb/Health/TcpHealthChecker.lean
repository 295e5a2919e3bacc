import L4lb.Core.System
import L4lb.Effect.Prog
import L4lb.Health.HealthState

/-!
# The TCP health checker

`TcpHealthChecker.cpp`: one connection attempt a backend at a time, known by a token that
is never used twice; a poll times probes out, completes those the events name, and
starts those that are due.

## The model

The clock, the system calls and the callback are calls (`HealthCall`), so the clock may
jump and the events may name anything. A probe's descriptor, its removal from the epoll
set and its token go in one change, as nothing can come between. `log` is a history,
newest first, that no method reads.
-/

namespace L4lb.Health

open Effect Prog

/-- `HealthChange`. -/
structure HealthChange where
  /-- Whose state. -/
  backend : ℕ
  /-- The status it left. -/
  «from» : HealthStatus
  /-- The status it has. -/
  «to» : HealthStatus
  /-- Why. -/
  reason : String
  /-- The error, if there was one. -/
  error : Errno
  deriving DecidableEq, Repr

/-- `TcpHealthCheckOptions`. -/
structure TcpHealthCheckOptions where
  /-- From a completion to the next probe. -/
  interval : Time := Time.milliseconds 1000
  /-- From the start of a probe to its deadline. -/
  timeout : Time := Time.milliseconds 1000
  deriving DecidableEq

/-- `TcpHealthChecker::Probe`. -/
structure TcpHealthChecker.Probe where
  /-- The results so far. -/
  state : HealthState := {}
  /-- The socket of the probe in flight. -/
  fd : Option ℕ := none
  /-- The token of the probe in flight, or `0`. -/
  token : ℕ := 0
  /-- When the next probe may start. -/
  nextProbeTime : Time := 0
  /-- When the probe in flight times out. -/
  probeDeadline : Time := 0
  deriving DecidableEq

/-- What a method throws. -/
inductive TcpHealthError where
  /-- `invalid health checker options`. -/
  | invalidOptions
  /-- `health epoll_create1`. -/
  | epollCreate (error : Errno)
  /-- `health epoll_wait`. -/
  | epollWait (error : Errno)
  /-- `health invalid event count`. -/
  | invalidEventCount
  /-- `health token exhausted`. -/
  | tokenExhausted
  /-- What the callback throws. -/
  | callbackThrew
  deriving DecidableEq

/-- What happened, for the record. -/
inductive HealthEvent where
  /-- A poll took the events of these tokens, at a time. -/
  | polled (time : Time) (tokens : List ℕ)
  /-- A probe of a backend was started. -/
  | started (backend : ℕ)
  /-- Its `connect` returned 0. -/
  | connected (backend : ℕ)
  /-- Its `connect` is under way, and it has a token. -/
  | launched (backend token : ℕ) (deadline : Time)
  /-- Its `SO_ERROR` was read. -/
  | errorRead (backend : ℕ) (result : Except Errno Errno)
  /-- It was completed. -/
  | completed (backend : ℕ) (success : Bool) (time : Time)

/-- `TcpHealthChecker`; there is a probe for each endpoint. -/
structure TcpHealthChecker where
  /-- The backends. -/
  endpoints : List Endpoint
  /-- The options. -/
  options : TcpHealthCheckOptions
  /-- `setHealthChangeCallback` was called. -/
  hasHealthChangeCallback : Bool := false
  /-- The probes. -/
  probes : ℕ → TcpHealthChecker.Probe := fun _ => {}
  /-- The next token. -/
  nextProbeToken : ℕ := 1
  /-- The history. -/
  log : List HealthEvent := []

/-- What the checker asks of its surroundings. -/
inductive HealthCall where
  /-- `now`. -/
  | now
  /-- `epoll_wait`: the tokens of the events. -/
  | epollPoll
  /-- `socket`. -/
  | socket
  /-- `connect`: the error, if it does not return 0. -/
  | connect (fd : ℕ) (endpoint : Endpoint)
  /-- `epoll_ctl` with `EPOLL_CTL_ADD`: the error, if it fails. -/
  | register (fd token : ℕ)
  /-- `getsockopt` of `SO_ERROR`. -/
  | socketError (fd : Option ℕ)
  /-- The callback: whether it throws. -/
  | healthChange (change : HealthChange)

/-- The answers. -/
abbrev HealthAnswer : HealthCall → Type
  | .now => Time
  | .epollPoll => Except Errno (List ℕ)
  | .socket => Except Errno ℕ
  | .connect _ _ => Option Errno
  | .register _ _ => Option Errno
  | .socketError _ => Except Errno Errno
  | .healthChange _ => Bool

/-- The methods of the checker. -/
abbrev HealthM := Prog HealthCall HealthAnswer TcpHealthChecker TcpHealthError

/-- Make a call. -/
def askHealth (c : HealthCall) : HealthM (HealthAnswer c) := call c

/-- `std::numeric_limits<std::uint64_t>::max()`. -/
def maxProbeToken : ℕ := 2 ^ 64 - 1

/-- `isLocalResourceError`. -/
def isLocalResourceError (socketError : Errno) : Bool :=
  socketError = .EMFILE || socketError = .ENFILE || socketError = .ENOMEM || socketError = .ENOBUFS

/-- Why a probe failed with an error of its socket. -/
def connectErrorReason (error : Errno) : String :=
  if isLocalResourceError error then "local_error" else "connect_error"

namespace TcpHealthChecker

/-- The constructor; `epoll` is the error of `epoll_create1`, if it failed. -/
def construct (endpoints : List Endpoint) (options : TcpHealthCheckOptions) (epoll : Option Errno) :
    Except TcpHealthError TcpHealthChecker :=
  if endpoints = [] ∨ endpoints.length > 256 ∨ options.interval ≤ 0 ∨ options.timeout ≤ 0 then
    .error .invalidOptions
  else
    match epoll with
    | some error => .error (.epollCreate error)
    | none => .ok { endpoints, options }

/-- `setHealthChangeCallback`. -/
def setHealthChangeCallback (s : TcpHealthChecker) : TcpHealthChecker :=
  { s with hasHealthChangeCallback := true }

/-- `backendCount`. -/
def backendCount (s : TcpHealthChecker) : ℕ := s.endpoints.length

/-- `backendState`. -/
def backendState (s : TcpHealthChecker) (backendIndex : ℕ) : HealthState := (s.probes backendIndex).state

/-- `activeProbeCount`. -/
def activeProbeCount (s : TcpHealthChecker) : ℕ :=
  (List.range s.backendCount).countP fun backendIndex => (s.probes backendIndex).token ≠ 0

/-- Add to the history. -/
def record (s : TcpHealthChecker) (event : HealthEvent) : TcpHealthChecker :=
  { s with log := event :: s.log }

/-- Change a probe. -/
def setProbe (s : TcpHealthChecker) (backendIndex : ℕ) (probe : Probe) : TcpHealthChecker :=
  { s with probes := Function.update s.probes backendIndex probe }

/-- A probe after its completion: its identity is revoked and its socket closed. -/
def Probe.complete (probe : Probe) (success : Bool) (nextProbeTime : Time) : Probe :=
  { probe with
    token := 0
    fd := none
    nextProbeTime
    state := (probe.state.applyProbeResult success).2 }

/-- The checker after the completion of a probe. -/
def complete (s : TcpHealthChecker) (backendIndex : ℕ) (success : Bool) (time : Time) : TcpHealthChecker :=
  (s.setProbe backendIndex
    ((s.probes backendIndex).complete success (time + s.options.interval))).record
      (.completed backendIndex success time)

/-- The checker after a probe got its token and its deadline. -/
def launch (s : TcpHealthChecker) (backendIndex : ℕ) (time : Time) : TcpHealthChecker :=
  let probeDeadline := time + s.options.timeout
  { (s.setProbe backendIndex
      { s.probes backendIndex with token := s.nextProbeToken, probeDeadline }).record
        (.launched backendIndex s.nextProbeToken probeDeadline) with
    nextProbeToken := s.nextProbeToken + 1 }

end TcpHealthChecker

/-- `completeBackendProbe`. -/
def completeBackendProbe (backendIndex : ℕ) (success : Bool) (reason : String) (error : Errno) (time : Time) :
    HealthM Unit := do
  let s ← get
  modify fun s => s.complete backendIndex success time
  let before := (s.probes backendIndex).state
  let applied := before.applyProbeResult success
  if applied.1 = true ∧ s.hasHealthChangeCallback = true then
    let threw ← askHealth (.healthChange ⟨backendIndex, before.status, applied.2.status, reason, error⟩)
    if threw = true then raise .callbackThrew else pure ()
  else pure ()

/-- The last part of `startBackendProbe`: a `connect` is under way. -/
def launchBackendProbe (backendIndex fd : ℕ) (time : Time) : HealthM Unit := do
  let s ← get
  if s.nextProbeToken = maxProbeToken then raise .tokenExhausted
  else
    modify fun s => s.launch backendIndex time
    match ← askHealth (.register fd s.nextProbeToken) with
    | none => pure ()
    | some error => completeBackendProbe backendIndex false "local_error" error time

/-- `startBackendProbe`. -/
def startBackendProbe (backendIndex : ℕ) (time : Time) : HealthM Unit := do
  modify fun s => s.record (.started backendIndex)
  match ← askHealth .socket with
  | .error error => completeBackendProbe backendIndex false "local_error" error time
  | .ok fd =>
    modify fun s => s.setProbe backendIndex { s.probes backendIndex with fd := some fd }
    let s ← get
    match ← askHealth (.connect fd ((s.endpoints[backendIndex]?).getD {})) with
    | none =>
      modify fun s => s.record (.connected backendIndex)
      completeBackendProbe backendIndex true "connected" 0 time
    | some error =>
      if error ≠ Errno.EINPROGRESS then
        completeBackendProbe backendIndex false (connectErrorReason error) error time
      else launchBackendProbe backendIndex fd time

/-- What is done of the event of a probe: its `SO_ERROR` decides. -/
def readProbeEvent (backendIndex : ℕ) (time : Time) : HealthM Unit := do
  let s ← get
  let result ← askHealth (.socketError (s.probes backendIndex).fd)
  modify fun s => s.record (.errorRead backendIndex result)
  match result with
  | .error error => completeBackendProbe backendIndex false "local_error" error time
  | .ok error =>
    completeBackendProbe backendIndex (error = 0)
      (if error = 0 then "connected" else connectErrorReason error) error time

/-- The body of the loop of `pollHealthProbes`. -/
def visitBackend (time : Time) (tokens : List ℕ) (backendIndex : ℕ) : HealthM Unit := do
  let s ← get
  let probe := s.probes backendIndex
  if probe.token ≠ 0 ∧ time ≥ probe.probeDeadline then
    completeBackendProbe backendIndex false "timeout" .ETIMEDOUT time
  else if probe.token ≠ 0 then
    -- The first event of the probe counts, and no other.
    when (probe.token ∈ tokens) (readProbeEvent backendIndex time)
  else when (time ≥ probe.nextProbeTime) (startBackendProbe backendIndex time)

/-- A pass of the loop of `pollHealthProbes`. -/
def pollBackend (time : Time) (tokens : List ℕ) (backendIndex : ℕ) : HealthM Bool := do
  visitBackend time tokens backendIndex
  pure true

/-- What `pollHealthProbes` does once its wait has returned. -/
def processEvents (time : Time) (tokens : List ℕ) : HealthM Unit :=
  if tokens.length > 256 then raise .invalidEventCount
  else do
    modify fun s => s.record (.polled time tokens)
    let s ← get
    forEach (pollBackend time tokens) (List.range s.backendCount)

/-- `pollHealthProbes`. -/
def pollHealthProbes : HealthM Unit := do
  let time ← askHealth .now
  match ← askHealth .epollPoll with
  | .error error => if error = Errno.EINTR then pure () else raise (.epollWait error)
  | .ok tokens => processEvents time tokens

end L4lb.Health
