import L4lb.Core.System
import L4lb.Effect.Prog
import L4lb.Health.HealthState

/-!
# The UDP probe checker

`UdpProbeChecker.cpp`: each target is sent a 24-byte token once a second and is to
echo it within half a second; two echoes in a row make it healthy, three probes in a
row without one make it unhealthy.

## The model

The checkers of a process share one nonce sequence, so the state is that of the process
(`ProbeProcess`) and a method takes the number of its checker as `self`. Sockets and the
completion clock are calls (`ProbeCall`): a socket answers with any datagram or error at
any time, so what arrives where, and in which order, is open; and so is the time that a
completion clock answers, which may be before the time of the poll. A poll is made at any
time. `log` is a history, newest first, of what the checkers did; no method reads it.
-/

namespace L4lb.Health

open Effect Prog

/-- `ProbeState`. -/
inductive ProbeState where
  /-- `kUnknown`. -/
  | unknown
  /-- `kHealthy`. -/
  | healthy
  /-- `kUnhealthy`. -/
  | unhealthy
  deriving DecidableEq, Repr

/-- `kInterval`. -/
def kInterval : Time := Time.seconds 1

/-- `kTimeout`. -/
def kTimeout : Time := Time.milliseconds 500

/-- `kReceiveBudget`. -/
def kReceiveBudget : ℕ := 256

/-- `ProbePacket`. -/
abbrev ProbePacket := Vector UInt8 24

/-- `ProbeTarget`: the address and port are in network byte order. -/
structure ProbeTarget where
  /-- The name of the target. -/
  id : Bytes
  /-- The interface it is probed through. -/
  interfaceName : Bytes
  /-- The index of that interface. -/
  ifindex : UInt32
  /-- The address frames are sent from. -/
  sourceMac : Mac
  /-- The address frames are sent to. -/
  destinationMac : Mac
  /-- Where probes go. -/
  probeAddress : UInt32
  /-- The port they go to. -/
  probePort : UInt16
  deriving DecidableEq, Repr

instance : Inhabited ProbeTarget := ⟨⟨[], [], 0, .replicate 6 0, .replicate 6 0, 0, 0⟩⟩

/-- `sameProbeIdentity`: everything but the interface's name. -/
def sameProbeIdentity (first second : ProbeTarget) : Bool :=
  first.id = second.id && first.ifindex = second.ifindex &&
    first.sourceMac = second.sourceMac && first.destinationMac = second.destinationMac &&
    first.probeAddress = second.probeAddress && first.probePort = second.probePort

/-- `ProbeSnapshot`. -/
structure ProbeSnapshot where
  /-- Whose it is. -/
  target : ProbeTarget
  /-- Its state. -/
  state : ProbeState := .unknown
  /-- Successes in a row. -/
  consecutiveSuccesses : ℕ := 0
  /-- Failures in a row. -/
  consecutiveFailures : ℕ := 0
  deriving DecidableEq, Repr, Inhabited

/-- `ProbeTransition`. -/
structure ProbeTransition where
  /-- The target. -/
  id : Bytes
  /-- The state it left. -/
  «from» : ProbeState
  /-- The state it is in. -/
  «to» : ProbeState
  /-- Why. -/
  reason : String
  /-- The error, if there was one. -/
  error : Errno
  deriving DecidableEq, Repr

/-- `ProbeIoResult`. -/
structure ProbeIoResult where
  /-- The length of the datagram, or `-1`. -/
  bytes : ℤ
  /-- The error, or `0`. -/
  error : Errno

/-- `Probe`. -/
structure Probe where
  /-- The target with its state and counters. -/
  snapshot : ProbeSnapshot
  /-- Its socket, `-1` when closed. -/
  handle : ℤ := -1
  /-- A probe is in flight. -/
  awaitingReply : Bool := false
  /-- The token of the probe in flight. -/
  token : ProbePacket := .replicate 24 0
  /-- When the next probe may go out. -/
  nextProbeTime : Time := 0
  /-- When the probe in flight times out. -/
  probeDeadline : Time := 0
  deriving Inhabited

/-- `UdpProbeChecker`. -/
structure UdpProbeChecker where
  /-- One probe for each target. -/
  probes : List Probe := []
  /-- The time of the last poll. -/
  lastPollTime : Time := 0
  /-- There has been a poll. -/
  hasPolled : Bool := false
  /-- The target the next poll reads first. -/
  receiveCursor : ℕ := 0
  /-- What the last poll spent of its budget. -/
  lastReceiveEventCount : ℕ := 0
  deriving Inhabited

/-- What a method throws. -/
inductive ProbeError where
  /-- `probe target limit is 64`. -/
  | tooManyTargets
  /-- `invalid or duplicate probe target`. -/
  | invalidTarget
  /-- `invalid imported probe counters`. -/
  | invalidImportedCounters
  /-- What `openProbeSocket` throws. -/
  | openFailed
  /-- `probe transport returned invalid handle`. -/
  | invalidHandle
  /-- `probe checker has terminated`. -/
  | terminated
  /-- `partial UDP probe send`. -/
  | partialSend
  /-- `probe transport invariant failed`. -/
  | transportInvariant
  /-- `probe clock moved backwards`. -/
  | pollClockBackwards
  /-- `probe completion clock moved backwards`. -/
  | completionClockBackwards
  /-- `probe sequence exhausted`. -/
  | sequenceExhausted
  deriving DecidableEq, Repr

/-! ### Tokens -/

/-- `ProbeNonceSequence`. -/
structure ProbeNonceSequence where
  /-- Drawn once for the process. -/
  epoch : UInt64
  /-- The number of the last token. -/
  lastSequence : UInt64

/-- Eight bytes, the most significant first. -/
def bigEndian (x : UInt64) : Vector UInt8 8 :=
  .ofFn fun index => (x >>> (56 - 8 * index.val.toUInt64)).toUInt8

/-- `L4LBHC01`. -/
def probeMagic : Vector UInt8 8 := #v[0x4c, 0x34, 0x4c, 0x42, 0x48, 0x43, 0x30, 0x31]

/-- The token of a number. -/
def encodeProbePacket (epoch sequence : UInt64) : ProbePacket :=
  probeMagic ++ bigEndian epoch ++ bigEndian sequence

/-- `generateProbePacket`: the next token, unless the numbers have run out. -/
def ProbeNonceSequence.generateProbePacket (nonce : ProbeNonceSequence) :
    Option (ProbePacket × ProbeNonceSequence) :=
  if nonce.lastSequence = 0xffffffffffffffff then none
  else
    let sequence := nonce.lastSequence + 1
    some (encodeProbePacket nonce.epoch sequence, { nonce with lastSequence := sequence })

/-! ### The process -/

/-- What happened, for the record. -/
inductive ProbeEvent where
  /-- A token was made. -/
  | generated (token : ProbePacket)
  /-- A probe went in flight at a poll. -/
  | sent (checker index : ℕ) (token : ProbePacket) (pollTime : Time)
  /-- A datagram was read, and then the completion time. -/
  | received (checker index : ℕ) (payload : Bytes) (completedAt : Time)
  /-- A socket was read, and then a completion time before the time of the poll. -/
  | rewound (checker index : ℕ) (payload : Option Bytes) (completedAt pollTime : Time)
  /-- A probe of a target was completed. -/
  | completed (checker index : ℕ) (target : ProbeTarget) (success : Bool)
  /-- The probes of a checker were cancelled and its sockets closed. -/
  | cancelled (checker : ℕ)
  /-- A checker was constructed. -/
  | configured (checker : ℕ) (targets : List ProbeTarget)
  /-- A checker has taken the place of the one before it. -/
  | adopted (checker : ℕ) (targets : List ProbeTarget)
  /-- A checker was not constructed. -/
  | rejected (error : ProbeError)
  /-- A poll of a checker has failed. -/
  | pollFailed (checker : ℕ) (error : ProbeError)
  /-- A probe was enrolled, from a snapshot. -/
  | enrolled (checker index : ℕ) (snapshot : ProbeSnapshot)
  /-- A socket was opened. -/
  | opened (checker index : ℕ) (handle : ℤ)
  /-- A socket was closed. -/
  | closed (checker index : ℕ) (handle : ℤ)
  /-- A poll has begun. -/
  | polled (checker : ℕ) (pollTime : Time)
  /-- A token is about to be sent. -/
  | attempted (checker index : ℕ) (handle : ℤ) (token : ProbePacket) (pollTime : Time)
  /-- A socket is about to be read. -/
  | reading (checker index : ℕ) (handle : ℤ)
  /-- What was read was counted. -/
  | handled (checker index : ℕ)
  /-- A poll has returned. -/
  | reported (checker : ℕ) (transitions : List ProbeTransition)
  deriving DecidableEq

/-- The checkers of a process and what they share. -/
structure ProbeProcess where
  /-- `sharedProcessNonceSource`. -/
  nonceSource : ProbeNonceSequence
  /-- The steady clock, which those who poll may read. -/
  clock : Time
  /-- The checkers, by number. -/
  checkers : ℕ → UdpProbeChecker := fun _ => {}
  /-- The number of the next checker. -/
  nextChecker : ℕ := 0
  /-- The transitions of the poll under way. -/
  transitions : List ProbeTransition := []
  /-- The history. -/
  log : List ProbeEvent := []

namespace ProbeProcess

/-- A probe of a checker. -/
def probe (s : ProbeProcess) (self index : ℕ) : Probe :=
  ((s.checkers self).probes[index]?).getD default

/-- Change a checker. -/
def setChecker (s : ProbeProcess) (self : ℕ) (f : UdpProbeChecker → UdpProbeChecker) :
    ProbeProcess :=
  { s with checkers := Function.update s.checkers self (f (s.checkers self)) }

/-- Replace a probe of a checker. -/
def setProbe (s : ProbeProcess) (self index : ℕ) (probe : Probe) : ProbeProcess :=
  s.setChecker self fun checker => { checker with probes := checker.probes.set index probe }

/-- Add to the history. -/
def record (s : ProbeProcess) (event : ProbeEvent) : ProbeProcess :=
  { s with log := event :: s.log }

end ProbeProcess

/-- What the checkers, and whoever drives them, ask of their surroundings. -/
inductive ProbeCall where
  /-- `openProbeSocket`. -/
  | openProbeSocket (target : ProbeTarget)
  /-- `send`. -/
  | send (handle : ℤ) (packet : ProbePacket)
  /-- `recv` with `MSG_TRUNC`. -/
  | recv (handle : ℤ)
  /-- `ProbeCompletionClock::nowAtCompletion`. -/
  | nowAtCompletion (pollTime : Time)
  /-- How far the steady clock has advanced. -/
  | now
  /-- What is done next. -/
  | next
  /-- What is done next with the checker in place. -/
  | follow

/-- What is done with the checkers of a process. -/
inductive ProbeRequest where
  /-- Construct one. -/
  | construct (targets : List ProbeTarget) (previous : List ProbeSnapshot)
  /-- Poll one. -/
  | poll (checker : ℕ) (pollTime : Time)
  /-- Destroy one. -/
  | destroy (checker : ℕ)

/-- What is done with the checker in place. -/
inductive ChainRequest where
  /-- Construct its successor from its snapshots, and put it in place or drop it. -/
  | reload (targets : List ProbeTarget) (commit : Bool)
  /-- Poll it. -/
  | poll (pollTime : Time)

/-- The answers. -/
abbrev ProbeAnswer : ProbeCall → Type
  | .openProbeSocket _ => Option ℤ
  | .send _ _ => Except Errno ℕ
  | .recv _ => Except Errno Bytes
  | .nowAtCompletion _ => Time
  | .now => ℕ
  | .next => ProbeRequest
  | .follow => ChainRequest

/-- The methods of a checker. -/
abbrev CheckerM := Prog ProbeCall ProbeAnswer ProbeProcess ProbeError

/-- Make a call. -/
def ask (c : ProbeCall) : CheckerM (ProbeAnswer c) := call c

/-! ### Sockets and the clock -/

/-- `isLocalProbeError`. -/
def isLocalProbeError (error : Errno) : Bool :=
  error = .ENOBUFS || error = .ENOMEM || error = .EMFILE || error = .ENFILE ||
    error = .EAGAIN || error = .EINTR || error = .EADDRNOTAVAIL || error = .EACCES ||
    error = .EPERM

/-- What makes `validateProbeIoResult` throw. -/
def ProbeIoResult.Invalid (result : ProbeIoResult) : Prop :=
  result.bytes ≥ 0 ∧ result.error ≠ 0 ∨ result.bytes < 0 ∧ result.error = 0 ∨
    result.error = .EBADF ∨ result.error = .ENOTSOCK ∨ result.error = .EFAULT ∨
    result.error = .EINVAL

instance (result : ProbeIoResult) : Decidable result.Invalid :=
  inferInstanceAs (Decidable (_ ∨ _ ∨ _ ∨ _ ∨ _ ∨ _))

/-- `validateProbeIoResult`. -/
def validateProbeIoResult (result : ProbeIoResult) : CheckerM Unit :=
  if result.Invalid then raise .transportInvariant else pure ()

/-- `sendProbePacket`. -/
def sendProbePacket (handle : ℤ) (packet : ProbePacket) : CheckerM ProbeIoResult := do
  match ← ask (.send handle packet) with
  | .ok bytes => pure ⟨bytes, 0⟩
  | .error error => pure ⟨-1, error⟩

/-- The buffer of 25 bytes after a datagram was copied into it. -/
def replyBuffer (payload : Bytes) : Bytes := (payload ++ List.replicate 25 0).take 25

/-- `receiveProbePacket`: the result, and the datagram. -/
def receiveProbePacket (handle : ℤ) : CheckerM (ProbeIoResult × Option Bytes) := do
  match ← ask (.recv handle) with
  | .ok payload => pure (⟨payload.length, 0⟩, some payload)
  | .error error => pure (⟨-1, error⟩, none)

/-- `nowAtCompletion`. -/
def nowAtCompletion (pollTime : Time) : CheckerM Time := ask (.nowAtCompletion pollTime)

/-! ### The methods -/

/-- The counters and the state after a result. -/
def ProbeSnapshot.applyResult (snapshot : ProbeSnapshot) (success : Bool) : ProbeSnapshot :=
  if success then
    let consecutiveSuccesses := min (snapshot.consecutiveSuccesses + 1) 2
    { snapshot with
      consecutiveFailures := 0
      consecutiveSuccesses
      state := if consecutiveSuccesses = 2 then .healthy else snapshot.state }
  else
    let consecutiveFailures := min (snapshot.consecutiveFailures + 1) 3
    { snapshot with
      consecutiveSuccesses := 0
      consecutiveFailures
      state := if consecutiveFailures = 3 then .unhealthy else snapshot.state }

/-- A probe after its result. -/
def Probe.complete (probe : Probe) (success : Bool) : Probe :=
  { probe with
    awaitingReply := false
    token := .replicate 24 0
    snapshot := probe.snapshot.applyResult success }

/-- The state of the process after a probe's result. -/
def ProbeProcess.complete (s : ProbeProcess) (self index : ℕ) (success : Bool) (reason : String)
    (error : Errno) : ProbeProcess :=
  let probe := s.probe self index
  let completed := probe.complete success
  { s.setProbe self index completed with
    transitions :=
      if probe.snapshot.state ≠ completed.snapshot.state then
        s.transitions ++
          [⟨probe.snapshot.target.id, probe.snapshot.state, completed.snapshot.state, reason, error⟩]
      else s.transitions
    log := .completed self index probe.snapshot.target success :: s.log }

/-- `completeProbeResult`. -/
def completeProbeResult (self index : ℕ) (success : Bool) (reason : String) (error : Errno) :
    CheckerM Unit :=
  modify fun s => s.complete self index success reason error

/-- `local_error` or `target_error`. -/
def probeErrorReason (error : Errno) : String :=
  if isLocalProbeError error then "local_error" else "target_error"

/-- A new token for a probe that is about to be sent, with its times. -/
def prepareProbe (self index : ℕ) (pollTime : Time) : CheckerM Unit := do
  let s ← get
  match s.nonceSource.generateProbePacket with
  | none => raise .sequenceExhausted
  | some (token, nonceSource) =>
    modify fun s =>
      { s.setProbe self index
          { s.probe self index with
            token
            nextProbeTime := pollTime + kInterval
            probeDeadline := pollTime + kTimeout } with
        nonceSource
        log := .attempted self index (s.probe self index).handle token pollTime :: .generated token :: s.log }

/-- The probe is in flight. -/
def launchProbe (self index : ℕ) (pollTime : Time) : CheckerM Unit :=
  modify fun s =>
    (s.setProbe self index { s.probe self index with awaitingReply := true }).record
      (.sent self index (s.probe self index).token pollTime)

/-- Send a probe that is due, and see what came of it. -/
def sendProbe (self : ℕ) (pollTime : Time) (index : ℕ) : CheckerM Unit := do
  prepareProbe self index pollTime
  let probe ← gets (·.probe self index)
  let sent ← sendProbePacket probe.handle probe.token
  validateProbeIoResult sent
  if sent.bytes ≠ 24 then
    if sent.bytes ≥ 0 then raise .partialSend
    else completeProbeResult self index false (probeErrorReason sent.error) sent.error
  else launchProbe self index pollTime

/-- A pass of `sendDueProbePackets`. -/
def sendDueProbePacket (self : ℕ) (pollTime : Time) (index : ℕ) : CheckerM Bool := do
  let probe ← gets (·.probe self index)
  if probe.handle < 0 then raise .terminated
  else
    -- The deadline comes before queued replies, also at the very time.
    when (probe.awaitingReply ∧ pollTime ≥ probe.probeDeadline)
      (completeProbeResult self index false "timeout" .ETIMEDOUT)
    let probe ← gets (·.probe self index)
    if probe.awaitingReply ∨ pollTime < probe.nextProbeTime then pure true
    else
      sendProbe self pollTime index
      pure true

/-- `sendDueProbePackets`. -/
def sendDueProbePackets (self : ℕ) (pollTime : Time) : CheckerM Unit := do
  let s ← get
  forEach (sendDueProbePacket self pollTime) (List.range (s.checkers self).probes.length)

/-- One more of the budget spent. -/
def countReceiveEvent (self index : ℕ) : CheckerM Unit :=
  modify fun s => (s.setChecker self fun checker =>
    { checker with lastReceiveEventCount := checker.lastReceiveEventCount + 1 }).record (.handled self index)

/-- A datagram read before the deadline: it completes the probe if it is its echo. -/
def acceptReply (self index : ℕ) (payload : Bytes) (completedAt : Time) : CheckerM Unit := do
  modify fun s => s.record (.received self index payload completedAt)
  let probe ← gets (·.probe self index)
  when (payload.length = 24 ∧ (replyBuffer payload).take 24 = probe.token.toList)
    (completeProbeResult self index true "success" 0)

/-- What comes after a datagram or an error was read, at `completedAt`: whether to read on. -/
def settleReply (self index : ℕ) (probe : Probe) (result : ProbeIoResult)
    (payload : Option Bytes) (wouldBlock : Bool) (completedAt : Time) : CheckerM (Unit ⊕ Unit) :=
  if completedAt ≥ probe.probeDeadline then do
    modify fun s => (payload.elim s fun payload =>
      s.record (.received self index payload completedAt)).complete self index false "timeout"
        .ETIMEDOUT
    pure (.inr ())
  else if wouldBlock then pure (.inr ())
  else
    match payload with
    | none =>
      if result.error = .EINTR then pure (.inl ())
      else do
        completeProbeResult self index false (probeErrorReason result.error) result.error
        pure (.inr ())
    | some payload => do
      acceptReply self index payload completedAt
      pure (.inl ())

/-- A pass of the inner loop of `receivePendingProbeReplies`. -/
def receiveProbeReply (self : ℕ) (pollTime : Time) (index : ℕ) : CheckerM (Unit ⊕ Unit) := do
  let s ← get
  let probe := s.probe self index
  if probe.awaitingReply ∧ (s.checkers self).lastReceiveEventCount < kReceiveBudget then
    modify fun s => s.record (.reading self index probe.handle)
    let received ← receiveProbePacket probe.handle
    let result := received.1
    validateProbeIoResult result
    let wouldBlock := result.bytes < 0 && (result.error = .EAGAIN || result.error = .EWOULDBLOCK)
    when (¬ wouldBlock) (countReceiveEvent self index)
    let completedAt ← nowAtCompletion pollTime
    if completedAt < pollTime then
      modify fun s => s.record (.rewound self index received.2 completedAt pollTime)
      raise .completionClockBackwards
    else settleReply self index probe result received.2 wouldBlock completedAt
  else pure (.inr ())

/-- A pass of the outer loop: a target's socket, while there is budget. -/
def receiveTargetReplies (self : ℕ) (pollTime : Time) (offset : ℕ) : CheckerM Bool := do
  let s ← get
  let checker := s.checkers self
  if checker.lastReceiveEventCount < kReceiveBudget then
    let index := (checker.receiveCursor + offset) % checker.probes.length
    loop (fun _ => receiveProbeReply self pollTime index) ()
    pure true
  else pure false

/-- `receivePendingProbeReplies`. -/
def receivePendingProbeReplies (self : ℕ) (pollTime : Time) : CheckerM Unit := do
  let s ← get
  let count := (s.checkers self).probes.length
  forEach (receiveTargetReplies self pollTime) (List.range count)
  when (count ≠ 0) (modify fun s => s.setChecker self fun checker =>
    { checker with receiveCursor := (checker.receiveCursor + 1) % count })

/-- A probe with its socket closed and its token revoked. -/
def Probe.cancel (probe : Probe) : Probe :=
  { probe with awaitingReply := false, token := .replicate 24 0, handle := -1 }

/-- The state of the process with the probes of a checker cancelled. -/
def ProbeProcess.cancel (s : ProbeProcess) (self : ℕ) : ProbeProcess :=
  let probes := (s.checkers self).probes
  { s.setChecker self fun checker => { checker with probes := probes.map Probe.cancel } with
    log := .cancelled self ::
      (probes.zipIdx.filter (·.1.handle ≥ 0)).reverse.map (fun p => ProbeEvent.closed self p.2 p.1.handle) ++
        s.log }

/-- `cancelAllProbes`, which closes each open socket. -/
def cancelAllProbes (self : ℕ) : CheckerM Unit := modify fun s => s.cancel self

/-- `pollProbeTransitions`. -/
def pollProbeTransitions (self : ℕ) (pollTime : Time) : CheckerM (List ProbeTransition) := do
  modify fun s => { s with transitions := [] }
  handle (do
    let s ← get
    if (s.checkers self).hasPolled ∧ pollTime < (s.checkers self).lastPollTime then
      raise .pollClockBackwards
    else
      modify fun s => (s.setChecker self fun checker =>
        { checker with lastPollTime := pollTime, hasPolled := true, lastReceiveEventCount := 0 }).record
          (.polled self pollTime)
      sendDueProbePackets self pollTime
      receivePendingProbeReplies self pollTime)
    fun error => do
      cancelAllProbes self
      raise error
  let transitions ← gets (·.transitions)
  modify fun s => s.record (.reported self transitions)
  pure transitions

/-- `copyProbeSnapshots`. -/
def UdpProbeChecker.copyProbeSnapshots (checker : UdpProbeChecker) : List ProbeSnapshot :=
  checker.probes.map (·.snapshot)

/-- `copyHealthyProbeTargets`. -/
def UdpProbeChecker.copyHealthyProbeTargets (checker : UdpProbeChecker) : List ProbeTarget :=
  (checker.probes.filter (·.snapshot.state = .healthy)).map (·.snapshot.target)

/-! ### Construction and destruction -/

/-- What a target must be. -/
def ProbeTarget.Valid (target : ProbeTarget) : Prop :=
  target.id ≠ [] ∧ target.ifindex ≠ 0 ∧ target.interfaceName ≠ [] ∧
    target.interfaceName.length < 16 ∧ target.probeAddress ≠ 0 ∧ target.probePort ≠ 0

instance (target : ProbeTarget) : Decidable target.Valid :=
  inferInstanceAs (Decidable (_ ∧ _ ∧ _ ∧ _ ∧ _ ∧ _))

/-- The targets are valid and no two have one name. -/
def validTargets (targets : List ProbeTarget) : Prop :=
  (∀ target ∈ targets, target.Valid) ∧ (targets.map (·.id)).Nodup

instance (targets : List ProbeTarget) : Decidable (validTargets targets) :=
  inferInstanceAs (Decidable (_ ∧ _))

/-- The counters an import may have. -/
def ProbeSnapshot.Importable (old : ProbeSnapshot) : Prop :=
  old.consecutiveSuccesses ≤ 2 ∧ old.consecutiveFailures ≤ 3 ∧
    (old.consecutiveSuccesses = 0 ∨ old.consecutiveFailures = 0)

instance (old : ProbeSnapshot) : Decidable old.Importable :=
  inferInstanceAs (Decidable (_ ∧ _ ∧ _))

/-- What a target starts from: the first snapshot of its identity, if there is one. -/
def importSnapshot (previous : List ProbeSnapshot) (target : ProbeTarget) : Option ProbeSnapshot :=
  match previous.find? (fun old => sameProbeIdentity target old.target) with
  | none => some { target }
  | some old => if old.Importable then some { old with target } else none

/-- The state of the process with one more probe in a checker. -/
def ProbeProcess.enroll (s : ProbeProcess) (self : ℕ) (snapshot : ProbeSnapshot) : ProbeProcess :=
  (s.setChecker self fun checker => { checker with probes := checker.probes ++ [{ snapshot }] }).record
    (.enrolled self (s.checkers self).probes.length snapshot)

/-- The state of the process with what came of opening a probe's socket. -/
def ProbeProcess.opened (s : ProbeProcess) (self index : ℕ) (handle : ℤ) : ProbeProcess :=
  let s := s.setProbe self index { s.probe self index with handle }
  if handle < 0 then s else s.record (.opened self index handle)

/-- A pass of the constructor: the probe is enrolled before its socket is opened. -/
def enrollProbe (self : ℕ) (previous : List ProbeSnapshot) (target : ProbeTarget) :
    CheckerM Bool :=
  match importSnapshot previous target with
  | none => raise .invalidImportedCounters
  | some snapshot => do
    modify fun s => s.enroll self snapshot
    match ← ask (.openProbeSocket target) with
    | none => raise .openFailed
    | some handle => do
      modify fun s => s.opened self ((s.checkers self).probes.length - 1) handle
      if handle < 0 then raise .invalidHandle else pure true

/-- The constructor: the number of the new checker. -/
def constructChecker (targets : List ProbeTarget) (previous : List ProbeSnapshot) :
    CheckerM ℕ := do
  let self ← gets (·.nextChecker)
  if targets.length > 64 then raise .tooManyTargets
  else if ¬ validTargets targets then raise .invalidTarget
  else
    modify fun s => { s.setChecker self fun _ => {} with nextChecker := self + 1 }
    handle (forEach (enrollProbe self previous) targets) fun error => do
      cancelAllProbes self
      raise error
    modify fun s => s.record (.configured self targets)
    pure self

end L4lb.Health
