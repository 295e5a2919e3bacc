import L4lb.Net.Shared

/-!
# The UDP reactor

`UdpReactor.cpp`: datagrams of clients come in on one listener; each client and local
address it wrote to is a flow, with a socket of its own connected to the backend chosen
for it, and what comes back on that socket is sent to the client from that address.

## The model

The reactor's members are the state, and what it asks of the system and of its callbacks
are calls (`UdpCall`). A descriptor is what the kernel keeps under a number: a new one
has any number not in use, and one that is closed can come back. A socket answers with
any datagram or error at any time, and readiness names any tokens. Every callback can
throw. A datagram is read whole or truncated as the buffer given allows; an answer that
claims to be longer than any datagram stands for what an injected call may say. The
number of an error is taken to survive the report made of it.

`log` is a history, newest first, of what was done, and `closes` of what was closed; no
method reads them.
-/

namespace L4lb.Net

open Effect Prog

/-- `kUdpPayloadLimit`. -/
def kUdpPayloadLimit : ℕ := 65507

/-! ### Flows -/

/-- `UdpFlowKey`. -/
structure UdpFlowKey where
  /-- Who sends. -/
  client : Endpoint
  /-- The address it sends to. -/
  localAddress : Address
  deriving DecidableEq, Repr

/-- `UdpIdleDeadline`. -/
structure UdpIdleDeadline where
  /-- When a datagram was last sent on. -/
  lastSubmissionTime : Time
  deriving DecidableEq, Repr

/-- `UdpIdleDeadline::recordSubmission`. -/
def UdpIdleDeadline.recordSubmission (_ : UdpIdleDeadline) (now : Time) : UdpIdleDeadline := ⟨now⟩

/-- `UdpIdleDeadline::expired`. -/
def UdpIdleDeadline.expired (deadline : UdpIdleDeadline) (now timeout : Time) : Bool :=
  now - deadline.lastSubmissionTime ≥ timeout

/-- `UdpFlow`. -/
structure UdpFlow where
  /-- Whose it is. -/
  key : UdpFlowKey
  /-- Where it goes. -/
  backend : Endpoint
  /-- Its socket. -/
  fd : ℕ
  /-- What its events carry. -/
  token : ℕ
  /-- When it goes idle. -/
  deadline : UdpIdleDeadline
  deriving DecidableEq, Repr

/-- What a descriptor stands for. -/
inductive UdpDescriptor where
  /-- `signalFd_`. -/
  | signal
  /-- `epollFd_`. -/
  | epoll
  /-- `listenerFd_`. -/
  | listener
  /-- A socket of a flow, and the peer it was connected to. -/
  | socket (serial : ℕ) (peer : Option Endpoint)
  deriving DecidableEq, Repr

/-- `UdpReactorOptions`, without the functions injected. -/
structure UdpReactorOptions where
  /-- How many flows there may be. -/
  maxFlows : ℕ := 1024
  /-- How long a flow may be idle. -/
  idleTimeout : Time := Time.milliseconds 60000
  /-- How long to wait for events, in milliseconds. -/
  pollInterval : ℤ := 100
  /-- How much of a datagram to take. -/
  receiveSize : ℕ := kUdpPayloadLimit

/-! ### Datagrams -/

/-- A control message. -/
structure ControlMessage where
  /-- It is `IPPROTO_IP` and `IP_PKTINFO`. -/
  packetInfo : Bool
  /-- Its length is that of an `in_pktinfo`, all of it within the control buffer. -/
  whole : Bool
  /-- `ipi_addr`. -/
  destination : Address
  /-- `ipi_spec_dst`. -/
  localAddress : Address
  deriving DecidableEq, Repr

/-- What `recvmsg` took and said. -/
structure UdpReceipt where
  /-- The datagram. -/
  datagram : Bytes
  /-- `MSG_TRUNC`, though the buffer was long enough. -/
  truncated : Bool := false
  /-- The length claimed beyond the longest there is. -/
  excess : Option ℕ := none
  /-- `msg_namelen` is that of a `sockaddr_in`, and its family `AF_INET`. -/
  named : Bool := true
  /-- Who sent it. -/
  sender : Endpoint := {}
  /-- `MSG_CTRUNC`. -/
  controlTruncated : Bool := false
  /-- The control messages. -/
  control : List ControlMessage := []
  deriving DecidableEq, Repr

/-- Whether `MSG_TRUNC` is set. -/
def UdpReceipt.flaggedTruncated (receipt : UdpReceipt) (size : ℕ) : Bool :=
  receipt.truncated || size < receipt.datagram.length

/-- The number of bytes returned. -/
def UdpReceipt.receivedBytes (receipt : UdpReceipt) (size : ℕ) : ℕ :=
  match receipt.excess with
  | some n => kUdpPayloadLimit + 1 + n
  | none => (receipt.datagram.take size).length

/-- What `sendmsg` is given. -/
structure UdpMessage where
  /-- The data. -/
  payload : Bytes
  /-- `msg_name`, for the listener. -/
  destination : Option Endpoint
  /-- `ipi_spec_dst`, for the listener. -/
  source : Option Address
  deriving DecidableEq, Repr

/-- `isUnicastAddress`. -/
def isUnicastAddress (addressBytes : Address) : Bool :=
  addressBytes ≠ anyAddress && addressBytes ≠ broadcastAddress &&
    !(addressBytes.get 0 ≥ 224 && addressBytes.get 0 ≤ 239)

/-- `isResourcePressure`. -/
def isResourcePressure (socketError : Errno) : Bool :=
  socketError = .EAGAIN || socketError = .EWOULDBLOCK || socketError = .ENOBUFS ||
    socketError = .ENOMEM || socketError = .EMSGSIZE

/-- `isSharedSocketError`. -/
def isSharedSocketError (socketError : Errno) : Bool :=
  isResourcePressure socketError || socketError = .ECONNREFUSED || socketError = .ECONNRESET ||
    socketError = .ENETUNREACH || socketError = .EHOSTUNREACH || socketError = .EACCES

/-- The loop of `parsePacketMetadata` over the control messages: the address found, after
one was found or not. -/
def findLocalAddress : List ControlMessage → Option Address → Option (Option Address)
  | [], found => some found
  | message :: rest, found =>
    if !message.packetInfo then findLocalAddress rest found
    else if !message.whole then none
    else if found.isSome || !isUnicastAddress message.destination ||
        message.destination ≠ message.localAddress then none
    else findLocalAddress rest (some message.destination)

/-- `parsePacketMetadata`. -/
def parsePacketMetadata (listenEndpoint : Endpoint) (receipt : UdpReceipt) : Option UdpFlowKey :=
  if !receipt.named || receipt.sender.port = 0 || receipt.controlTruncated then none
  else if !isUnicastAddress receipt.sender.address then none
  else
    match findLocalAddress receipt.control none with
    | some (some address) =>
      if listenEndpoint.address = anyAddress || listenEndpoint.address = address then
        some ⟨receipt.sender, address⟩
      else none
    | _ => none

/-! ### The state -/

/-- The tables, and what numbers their entries. -/
structure FlowTables where
  /-- `nextFlowToken_`. -/
  nextFlowToken : ℕ := 3
  /-- `flowTokensByKey_`. -/
  flowTokensByKey : Table UdpFlowKey ℕ := ∅
  /-- `flows_`. -/
  flows : Table ℕ UdpFlow := ∅
  /-- What the kernel keeps under each number. -/
  descriptors : Table ℕ UdpDescriptor := ∅
  /-- How many sockets there have been. -/
  sockets : ℕ := 0

/-- What happened, for the record. -/
inductive UdpEvent where
  /-- `statisticsCallback`. -/
  | statistic (event : StatEvent)
  /-- `observationCallback`. -/
  | observation (kind : String) (token : ℕ) (fd : ℤ) (flows tokens : ℕ)
  /-- `diagnosticCallback`. -/
  | diagnostic (kind : String) (error : Errno)
  /-- `flowCallback`. -/
  | flowEvent (id : ℕ) (backend : Endpoint) (reason : String) (error : Errno)
  /-- One of these four threw. -/
  | callbackThrew
  /-- A backend was selected, or none was. -/
  | selected (backend : Option Endpoint)
  /-- A datagram was taken from what is given. -/
  | received (source : Option UdpDescriptor) (receipt : UdpReceipt)
  /-- A datagram was handed to what is given. -/
  | handed (via : Option UdpDescriptor) (message : UdpMessage)
  /-- A flow was put in the tables, with the socket given. -/
  | inserted (flow : UdpFlow) (socket : Option UdpDescriptor)
  /-- The flow with this token was taken out. -/
  | erased (token : ℕ)
  /-- A flow was not created: the tables after the sweep, and at the end. -/
  | abandoned (key : UdpFlowKey) (before after : FlowTables)
  /-- The flow with this token is about to be closed, and why. -/
  | closing (token : ℕ) (reason : String)
  /-- A flow was checked for a datagram or an event: its last submission, and the time. -/
  | checked (token : ℕ) (last time : Time)
  /-- A flow was checked in a sweep: its last submission, and the time. -/
  | swept (token : ℕ) (last time : Time)
  /-- What came of handing over a datagram of so many bytes for a flow. -/
  | answered (token size : ℕ) (result : Except Errno ℕ)
  /-- A submission of a flow was recorded, at this time. -/
  | refreshed (token : ℕ) (time : Time)
  /-- Whoever called a method caught what it threw. -/
  | caught

/-- `UdpReactor`. -/
structure UdpReactor where
  /-- `signalFd_`. -/
  signalFd : ℕ := 0
  /-- `epollFd_`. -/
  epollFd : ℕ := 0
  /-- `listenerFd_`. -/
  listenerFd : ℕ := 0
  /-- `receiveBuffer_`. -/
  receiveBuffer : Bytes := []
  /-- The tables. -/
  tables : FlowTables := {}
  /-- `lastDiagnosticTimes_`. -/
  lastDiagnosticTimes : String → Option Time := fun _ => none
  /-- What the clock read last. -/
  clock : Time := 0
  /-- What `::close` was called with, the last first. -/
  closes : List ℕ := []
  /-- The history. -/
  log : List UdpEvent := []

/-- Add to the history. -/
def UdpReactor.record (s : UdpReactor) (event : UdpEvent) : UdpReactor :=
  { s with log := event :: s.log }

/-- What is thrown. -/
inductive UdpError where
  /-- `std::system_error`. -/
  | system (operation : String) (error : Errno)
  /-- `std::bad_alloc`. -/
  | badAlloc
  /-- `UDP token exhausted`. -/
  | tokenExhausted
  /-- `invalid UDP options/callbacks`. -/
  | invalidOptions
  /-- What `at` throws. -/
  | outOfRange
  /-- What the selector threw. -/
  | selector (exception : ℕ)
  /-- What another callback threw. -/
  | callback (exception : ℕ)
  deriving DecidableEq, Repr

/-- What the reactor asks of its surroundings. -/
inductive UdpCall where
  /-- How far the clock has moved. -/
  | now
  /-- One of the callbacks that are told what happened. -/
  | notify (event : UdpEvent)
  /-- `readyCallback`. -/
  | ready
  /-- `maintenanceCallback`. -/
  | maintenance
  /-- `backendSelector`. -/
  | selectBackend
  /-- `sigprocmask`. -/
  | sigprocmask
  /-- `signalfd`, `epoll_create1` and `socket`. -/
  | openDescriptor
  /-- `IP_PKTINFO`. -/
  | setsockopt (fd : ℕ)
  /-- `bind`. -/
  | bind (fd : ℕ)
  /-- `connect`. -/
  | connect (fd : ℕ) (peer : Endpoint)
  /-- `setupError` with `epoll`. -/
  | setupEpoll (fd : ℕ)
  /-- An allocation. -/
  | allocate
  /-- `EPOLL_CTL_ADD`. -/
  | epollAdd (fd token : ℕ)
  /-- `EPOLL_CTL_DEL`. -/
  | epollDel (fd : ℕ)
  /-- `epoll_wait`. -/
  | epollWait
  /-- `read` of the signal descriptor. -/
  | readSignal
  /-- `recvmsg`. -/
  | recvmsg (fd size : ℕ)
  /-- `sendmsg` and `send`. -/
  | sendmsg (fd : ℕ) (message : UdpMessage)
  /-- `SO_ERROR`. -/
  | socketError (fd : ℕ)
  /-- How the keys of a table are ranked. -/
  | rank

/-- The answers. -/
abbrev UdpAnswer : UdpCall → Type
  | .now => ℤ
  | .notify _ => Option ℕ
  | .ready => Option ℕ
  | .maintenance => Option ℕ
  | .selectBackend => Except ℕ (Option Endpoint)
  | .sigprocmask => Except Errno Unit
  | .openDescriptor => Except Errno ℕ
  | .setsockopt _ => Except Errno Unit
  | .bind _ => Except Errno Unit
  | .connect _ _ => Except Errno Unit
  | .setupEpoll _ => Errno
  | .allocate => Bool
  | .epollAdd _ _ => Except Errno Unit
  | .epollDel _ => Except Errno Unit
  | .epollWait => Except Errno (List (ℕ × EpollEvents))
  | .readSignal => Except Errno ℕ
  | .recvmsg _ _ => Except Errno UdpReceipt
  | .sendmsg _ _ => Except Errno ℕ
  | .socketError _ => Except Errno Errno
  | .rank => ℕ → ℕ

/-- The methods of the reactor. -/
abbrev UdpM := Prog UdpCall UdpAnswer UdpReactor UdpError

/-- Make a call. -/
def askUdp (c : UdpCall) : UdpM (UdpAnswer c) := call c

/-- `throwUdpSystemError`. -/
def throwUdpSystemError {α : Type} (operation : String) (error : Errno) : UdpM α :=
  raise (.system operation error)

/-- A call that throws when it fails. -/
def check (operation : String) (result : Except Errno Unit) : UdpM Unit :=
  match result with
  | .ok () => pure ()
  | .error error => throwUdpSystemError operation error

/-! ### Descriptors -/

/-- Change the tables. -/
def modifyTables (f : FlowTables → FlowTables) : UdpM Unit :=
  modify fun s => { s with tables := f s.tables }

/-- A new descriptor: the kernel gives it a number that is not in use. -/
def openDescriptor (descriptor : ℕ → UdpDescriptor) : UdpM (Except Errno ℕ) := do
  let answer ← askUdp .openDescriptor
  let tables ← gets (·.tables)
  match answer with
  | .error error => pure (.error error)
  | .ok fd =>
    if fd ∈ tables.descriptors then pure (.error .EMFILE)
    else do
      modifyTables fun tables => { tables with
        descriptors := tables.descriptors.insert fd (descriptor tables.sockets)
        sockets := tables.sockets + 1 }
      pure (.ok fd)

/-- `::close`, if it is called: the number stands for nothing any more. -/
def UdpReactor.close (s : UdpReactor) : Option ℕ → UdpReactor
  | none => s
  | some fd => { s with
      tables := { s.tables with descriptors := s.tables.descriptors.erase fd }
      closes := fd :: s.closes }

/-- `Fd::closeFd`, and what is owned then. -/
def closeFd (fd : Fd) : UdpM Fd := do
  modify (·.close fd.closeFd.1)
  pure fd.closeFd.2

/-- `~Fd`. -/
def destroyFd (fd : Fd) : UdpM Unit := closeFd fd >>= fun _ => pure ()

/-! ### Reports -/

/-- Tell a callback what happened. -/
def notify (event : UdpEvent) : UdpM Unit := do
  modify (·.record event)
  match ← askUdp (.notify event) with
  | none => pure ()
  | some exception => do
    modify (·.record .callbackThrew)
    raise (.callback exception)

/-- `reportStatEvent`. -/
def reportStatEvent (kind : StatKind) (amount : ℕ := 1) : UdpM Unit := notify (.statistic ⟨kind, amount⟩)

/-- `currentTime`. -/
def currentTime : UdpM Time := do
  let elapsed ← askUdp .now
  modify fun s => { s with clock := s.clock + elapsed }
  gets (·.clock)

/-- `reportObservation`. -/
def reportObservation (kind : String) (token : ℕ := 0) (fd : ℤ := -1) : UdpM Unit := do
  let tables ← gets (·.tables)
  notify (.observation kind token fd (Table.size tables.flows) (Table.size tables.flowTokensByKey))

/-- `reportDiagnostic`. -/
def reportDiagnostic (kind : String) (error : Errno := 0) : UdpM Unit := do
  reportObservation kind
  let time ← currentTime
  let last ← gets (·.lastDiagnosticTimes kind)
  if last.any fun last => time - last < Time.seconds 1 then pure ()
  else do
    modify fun s => { s with
      lastDiagnosticTimes := Function.update s.lastDiagnosticTimes kind (some time) }
    notify (.diagnostic kind error)

/-- `registerFlowSocket`. -/
def registerFlowSocket (fd token : ℕ) : UdpM Unit := do
  check "UDP epoll add" (← askUdp (.epollAdd fd token))

/-- `consumeStopSignals`. -/
def consumeStopSignals : UdpM Bool := do
  match ← askUdp .readSignal with
  | .ok bytes => if bytes = 128 then pure true else throwUdpSystemError "UDP signalfd read" Errno.EIO
  | .error error =>
    if error = .EAGAIN ∨ error = .EINTR then pure false
    else throwUdpSystemError "UDP signalfd read" error

/-! ### Closing -/

/-- `attemptCloseErrorReport` and its like: what a report throws is kept, if it is the
first. -/
def attemptReport (firstFailure : Option UdpError) (report : UdpM Unit) : UdpM (Option UdpError) :=
  handle (report >>= fun _ => pure firstFailure) fun e => pure (firstFailure.or (some e))

/-- What `closeFlow` reports when the socket could not be detached. -/
def attemptDetachReports (detachError : Errno) : UdpM (Option UdpError) :=
  if detachError ≠ 0 then do
    let failure ← attemptReport none (reportStatEvent .error)
    attemptReport failure (notify (.diagnostic "UDP epoll DEL" detachError))
  else pure none

/-- What `closeFlow` reports, once the socket is closed. -/
def reportClosed (token : ℕ) (flow : UdpFlow) (reason : String) (error detachError : Errno) : UdpM Unit := do
  let failure ← attemptDetachReports detachError
  let failure ← attemptReport failure (reportStatEvent .closed)
  let failure ← attemptReport failure (reportObservation reason token flow.fd)
  let failure ← attemptReport failure (notify (.flowEvent token flow.backend reason error))
  match failure with
  | none => pure ()
  | some e => raise e

/-- `closeFlow`. -/
def closeFlow (token : ℕ) (reason : String) (error : Errno := 0) : UdpM Unit := do
  match ← gets (·.tables.flows.lookup token) with
  | none => pure ()
  | some flow => do
    modify fun s => { s with
      tables := { s.tables with
        flowTokensByKey := s.tables.flowTokensByKey.erase flow.key
        flows := s.tables.flows.erase token }
      log := .erased token :: .closing token reason :: s.log }
    let detachError : Errno := match ← askUdp (.epollDel flow.fd) with
      | .ok () => 0
      | .error error => if error = .ENOENT ∨ error = .EBADF then 0 else error
    let fd ← closeFd flow.fd
    -- The flow goes out of scope on the way out, with what its `Fd` owns by then.
    ensure (destroyFd fd) (reportClosed token flow reason error detachError)

/-- What the loop of `closeAllFlows` does while there are flows. -/
def closeFirstFlow (failure : Option UdpError) : UdpM (Option UdpError ⊕ Option UdpError) := do
  let rank ← askUdp .rank
  match (← gets (·.tables.flows.order rank)).head? with
  | none => pure (.inr failure)
  | some token => .inl <$> attemptReport failure (closeFlow token "service-stop")

/-- `closeAllFlows`. -/
def closeAllFlows : UdpM Unit := do
  match ← loop closeFirstFlow none with
  | none => pure ()
  | some e => raise e

variable (listenEndpoint : Endpoint) (options : UdpReactorOptions)

/-- `expireIdleFlows`. -/
def expireIdleFlows : UdpM Unit := do
  let time ← currentTime
  let rank ← askUdp .rank
  forEach (fun token => do
    match ← gets (·.tables.flows.lookup token) with
    | none => pure true
    | some flow => do
      modify (·.record (.swept token flow.deadline.lastSubmissionTime time))
      if flow.deadline.expired time options.idleTimeout then do
        reportStatEvent .timeout
        closeFlow token "idle-timeout"
        pure true
      else pure true) (← gets (·.tables.flows.order rank))

/-- Whether a flow is expired now, noted for the record. -/
def isExpired (token : ℕ) (flow : UdpFlow) : UdpM Bool := do
  let time ← currentTime
  modify (·.record (.checked token flow.deadline.lastSubmissionTime time))
  pure (flow.deadline.expired time options.idleTimeout)

/-! ### Creating -/

/-- A step of the creation of a flow has failed. -/
def setupDrop (error : Errno) : UdpM Unit := do
  reportStatEvent .error
  reportDiagnostic "setup-drop" error

/-- `flows_.erase(token)`, where the flow closes its socket. -/
def eraseFlow (token : ℕ) : UdpM Unit := do
  match ← gets (·.tables.flows.lookup token) with
  | none => pure ()
  | some flow => modify fun s => { s with
      tables := { s.tables with
        flows := s.tables.flows.erase token
        descriptors := s.tables.descriptors.erase flow.fd }
      closes := flow.fd :: s.closes
      log := .erased token :: s.log }

/-- The catch clauses of `registerFlowIndexesAndSocket`: the flow is taken out again. -/
def unregisterFlow (key : UdpFlowKey) (token : ℕ) (indexed : Bool) : UdpM Unit := do
  when indexed (modifyTables fun tables => { tables with
    flowTokensByKey := tables.flowTokensByKey.erase key })
  eraseFlow token

/-- `registerFlowIndexesAndSocket`. -/
def registerFlowIndexesAndSocket (key : UdpFlowKey) (token : ℕ) (flow : UdpFlow) : UdpM Bool := do
  if !(← askUdp .allocate) then do
    unregisterFlow key token false
    ensure (destroyFd flow.fd) (setupDrop .ENOMEM >>= fun _ => pure false)
  else do
    modifyTables fun tables => { tables with
      flowTokensByKey := Table.emplace tables.flowTokensByKey key token }
    if !(← askUdp .allocate) then do
      unregisterFlow key token true
      ensure (destroyFd flow.fd) (setupDrop .ENOMEM >>= fun _ => pure false)
    else do
      modify fun s => { s with
        tables := { s.tables with flows := Table.emplace s.tables.flows token flow }
        log := .inserted flow (s.tables.descriptors.lookup flow.fd) :: s.log }
      match ← askUdp (.epollAdd flow.fd token) with
      | .ok () => pure true
      | .error error => do
        unregisterFlow key token true
        if error = .EBADF ∨ error = .EINVAL then throwUdpSystemError "UDP epoll add" error
        else do
          setupDrop error
          pure false

/-- The socket of a flow to be: it is closed on every way out but with the flow. -/
def owning (fd : ℕ) (m : UdpM (Option UdpFlow)) : UdpM (Option UdpFlow) :=
  handle m (fun e => destroyFd fd >>= fun _ => raise e) >>= fun
    | none => destroyFd fd >>= fun _ => pure none
    | some flow => pure (some flow)

/-- The kernel connects a socket. -/
def FlowTables.connect (tables : FlowTables) (fd : ℕ) (peer : Endpoint) : FlowTables :=
  match tables.descriptors.lookup fd with
  | some (.socket serial _) => { tables with
      descriptors := tables.descriptors.insert fd (.socket serial (some peer)) }
  | _ => tables

/-- `createFlow` from its socket to its flow. -/
def prepareFlow (key : UdpFlowKey) (backend : Endpoint) (fd : ℕ) : UdpM (Option UdpFlow) := do
  match ← askUdp (.bind fd) with
  | .error error => setupDrop error >>= fun _ => pure none
  | .ok () =>
    match ← askUdp (.connect fd backend) with
    | .error error => setupDrop error >>= fun _ => pure none
    | .ok () => do
      modifyTables (·.connect fd backend)
      let token ← gets (·.tables.nextFlowToken)
      if token = 2 ^ 64 - 1 then raise .tokenExhausted
      else do
        modifyTables fun tables => { tables with nextFlowToken := token + 1 }
        let time ← currentTime
        if !(← askUdp .allocate) then setupDrop .ENOMEM >>= fun _ => pure none
        else do
          let error ← askUdp (.setupEpoll fd)
          if error ≠ 0 then setupDrop error >>= fun _ => pure none
          else pure (some ⟨key, backend, fd, token, ⟨time⟩⟩)

/-- `createFlow` from its selection on, up to where the flow is in the tables. -/
def establishFlow (key : UdpFlowKey) : UdpM (Option UdpFlow) := do
  let tables ← gets (·.tables)
  if Table.size tables.flows ≥ options.maxFlows then do
    reportStatEvent .rejected
    reportDiagnostic "capacity-drop"
    pure none
  else
    match ← askUdp .selectBackend with
    | .error exception => raise (.selector exception)
    | .ok selected => do
      modify (·.record (.selected selected))
      match selected with
      | none => do
        reportStatEvent .rejected
        pure none
      | some backend =>
        match ← openDescriptor (.socket · none) with
        | .error error => setupDrop error >>= fun _ => pure none
        | .ok fd =>
          match ← owning fd (prepareFlow key backend fd) with
          | none => pure none
          | some flow => do
            if ← registerFlowIndexesAndSocket key flow.token flow then pure (some flow)
            else pure none

/-- Note for the record that a flow was not created. -/
def recordAbandoned (key : UdpFlowKey) (before : FlowTables) : UdpM Unit :=
  modify fun s => s.record (.abandoned key before s.tables)

/-- `createFlow`. -/
def createFlow (key : UdpFlowKey) : UdpM ℕ := do
  expireIdleFlows options
  let before ← gets (·.tables)
  let established ← handle (establishFlow options key) fun e =>
    recordAbandoned key before >>= fun _ => raise e
  match established with
  | none => recordAbandoned key before >>= fun _ => pure 0
  | some flow => do
    reportStatEvent .created
    reportObservation "created" flow.token flow.fd
    notify (.flowEvent flow.token flow.backend "created" 0)
    pure flow.token

/-! ### Datagrams -/

/-- `receiveDatagram`: the buffer holds what was taken, and behind it what it held. -/
def receiveDatagram (fd : ℕ) : UdpM (Except Errno UdpReceipt) := do
  match ← askUdp (.recvmsg fd options.receiveSize) with
  | .error error => pure (.error error)
  | .ok receipt => do
    let taken := receipt.datagram.take options.receiveSize
    modify fun s => { s with
      receiveBuffer := taken ++ s.receiveBuffer.drop taken.length
      log := .received (s.tables.descriptors.lookup fd) receipt :: s.log }
    pure (.ok receipt)

/-- `handleSocketError`. -/
def handleSocketError (code : Errno) (listener : Bool) (token : ℕ) (kind : String) : UdpM Bool := do
  let reportError : UdpM Unit :=
    when (code ≠ .EAGAIN ∧ code ≠ .EWOULDBLOCK ∧ code ≠ .EINTR) (reportStatEvent .error)
  if code = .EBADF ∨ code = .ENOTSOCK ∨ code = .EINVAL then throwUdpSystemError kind code
  else if listener then
    if !isSharedSocketError code then throwUdpSystemError kind code
    else do
      reportError
      reportDiagnostic kind code
      pure true
  else if isResourcePressure code then do
    reportError
    reportDiagnostic kind code
    pure true
  else do
    reportError
    closeFlow token kind code
    pure false

/-- `flow.deadline.recordSubmission`, of the flow in the table. -/
def FlowTables.recordSubmission (tables : FlowTables) (token : ℕ) (now : Time) : FlowTables :=
  match tables.flows.lookup token with
  | none => tables
  | some flow => { tables with
      flows := tables.flows.insert token { flow with deadline := flow.deadline.recordSubmission now } }

/-- The state with a submission of a flow recorded. -/
def UdpReactor.refresh (s : UdpReactor) (token : ℕ) (now : Time) : UdpReactor :=
  { s with tables := s.tables.recordSubmission token now, log := .refreshed token now :: s.log }

/-- The message that `sendFlowDatagram` builds. -/
def flowMessage (flow : UdpFlow) (payload : Bytes) (reply : Bool) : UdpMessage :=
  if reply then ⟨payload, some flow.key.client, some flow.key.localAddress⟩ else ⟨payload, none, none⟩

/-- A pass of the loop of `sendFlowDatagram`. -/
def sendAttempt (flow : UdpFlow) (fd size : ℕ) (reply : Bool) : UdpM (Option Unit) := do
  let message ← gets fun s => flowMessage flow (s.receiveBuffer.take size) reply
  modify fun s => s.record (.handed (s.tables.descriptors.lookup fd) message)
  let answer ← askUdp (.sendmsg fd message)
  modify (·.record (.answered flow.token size answer))
  match answer with
  | .ok sentBytes =>
    if sentBytes = size then do
      reportStatEvent (if reply then .bytesB2c else .bytesC2b) size
      reportStatEvent (if reply then .datagramB2c else .datagramC2b)
      let time ← currentTime
      modify (·.refresh flow.token time)
      reportObservation (if reply then "sent-reply" else "sent-request") flow.token fd
      pure (some ())
    else do
      reportStatEvent .error
      reportStatEvent .dropped
      reportDiagnostic "short-send-drop"
      pure (some ())
  | .error error =>
    if error = .EINTR then pure none
    else do
      reportStatEvent .dropped
      let _ ← handleSocketError error reply flow.token
        (if reply then "listener-send-drop" else "backend-send-error")
      pure (some ())

/-- `sendFlowDatagram`. -/
def sendFlowDatagram (flow : UdpFlow) (size : ℕ) (reply : Bool) : UdpM Unit := do
  let fd ← gets fun s => if reply then s.listenerFd else flow.fd
  match ← attempts (sendAttempt flow fd size reply) 4 with
  | some () => pure ()
  | none => do
    reportStatEvent .dropped
    reportDiagnostic "send-budget-drop"

/-- `resolveFlowTokenForDatagram` where it has to create the flow. -/
def createFlowForDatagram (key : UdpFlowKey) : UdpM ℕ :=
  handle (createFlow options key) fun e => reportStatEvent .dropped >>= fun _ => raise e

/-- `resolveFlowTokenForDatagram`. -/
def resolveFlowTokenForDatagram (key : UdpFlowKey) : UdpM ℕ := do
  match ← gets (·.tables.flowTokensByKey.lookup key) with
  | none => createFlowForDatagram options key
  | some token =>
    match ← gets (·.tables.flows.lookup token) with
    | none => raise .outOfRange
    | some flow =>
      if ← isExpired options token flow then do
        reportStatEvent .timeout
        closeFlow token "idle-timeout"
        createFlowForDatagram options key
      else pure token

/-- A pass of the loop of `handleListenerRead`. -/
def listenerReadAttempt : UdpM (Option Unit) := do
  let fd ← gets (·.listenerFd)
  match ← receiveDatagram options fd with
  | .error error =>
    if error = .EINTR then pure none
    else if error = .EAGAIN ∨ error = .EWOULDBLOCK then pure (some ())
    else do
      let _ ← handleSocketError error true 0 "listener-recv-error"
      pure (some ())
  | .ok receipt =>
    let size := receipt.receivedBytes options.receiveSize
    if receipt.flaggedTruncated options.receiveSize ∨ size > kUdpPayloadLimit then do
      reportStatEvent .dropped
      reportDiagnostic "listener-truncated"
      pure none
    else
      match parsePacketMetadata listenEndpoint receipt with
      | none => do
        reportStatEvent .dropped
        reportDiagnostic "metadata-drop"
        pure none
      | some key => do
        let token ← resolveFlowTokenForDatagram options key
        if token ≠ 0 then
          match ← gets (·.tables.flows.lookup token) with
          | none => raise .outOfRange
          | some flow => do
            sendFlowDatagram flow size false
            pure none
        else do
          reportStatEvent .dropped
          pure none

/-- `handleListenerRead`. -/
def handleListenerRead : UdpM Unit := do
  match ← attempts (listenerReadAttempt listenEndpoint options) 64 with
  | some () => pure ()
  | none => reportObservation "listener-budget"

/-- A pass of the loop of `handleBackendRead`. -/
def backendReadAttempt (token : ℕ) : UdpM (Option Unit) := do
  match ← gets (·.tables.flows.lookup token) with
  | none => pure (some ())
  | some flow =>
    if ← isExpired options token flow then do
      reportStatEvent .timeout
      closeFlow token "idle-timeout"
      pure (some ())
    else
      match ← receiveDatagram options flow.fd with
      | .error error =>
        if error = .EINTR then pure none
        else if error = .EAGAIN ∨ error = .EWOULDBLOCK then pure (some ())
        else do
          let _ ← handleSocketError error false token "backend-recv-error"
          pure (some ())
      | .ok receipt =>
        let size := receipt.receivedBytes options.receiveSize
        if receipt.flaggedTruncated options.receiveSize ∨ size > kUdpPayloadLimit then do
          reportStatEvent .dropped
          reportDiagnostic "backend-truncated"
          pure none
        else do
          sendFlowDatagram flow size true
          pure none

/-- `handleBackendRead`. -/
def handleBackendRead (token : ℕ) : UdpM Unit := do
  match ← attempts (backendReadAttempt options token) 64 with
  | some () => pure ()
  | none => reportObservation "backend-budget" token

/-! ### Events -/

/-- What `dispatchFlowEvent` does about `EPOLLERR`: whether it goes on. -/
def readSocketError (token : ℕ) (listener : Bool) (fd : ℕ) : UdpM Bool := do
  match ← askUdp (.socketError fd) with
  | .error error =>
    if listener then throwUdpSystemError "listener SO_ERROR" error
    else if error = .EBADF ∨ error = .ENOTSOCK then throwUdpSystemError "backend SO_ERROR" error
    else do
      when (error ≠ .EAGAIN ∧ error ≠ .EWOULDBLOCK ∧ error ≠ .EINTR) (reportStatEvent .error)
      closeFlow token "socket-error-read" error
      pure false
  | .ok code => do
    reportObservation "epoll-error" token fd
    if code ≠ 0 then
      handleSocketError code listener token
        (if listener then "listener-async-error" else "backend-async-error")
    else pure true

/-- `dispatchFlowEvent` for the listener, or for a flow that is there and not expired. -/
def dispatchReadyEvent (token : ℕ) (events : EpollEvents) (listener : Bool) (fd : ℕ) : UdpM Unit := do
  let proceed ← (if events &&& EPOLLERR ≠ 0 then readSocketError token listener fd else pure true)
  if !proceed then pure ()
  else if events &&& EPOLLHUP ≠ 0 then
    if listener then throwUdpSystemError "UDP listener HUP" Errno.EIO
    else do
      reportStatEvent .error
      closeFlow token "backend-hup"
  else if events &&& EPOLLIN ≠ 0 then
    if listener then handleListenerRead listenEndpoint options else handleBackendRead options token
  else pure ()

/-- `dispatchFlowEvent`. -/
def dispatchFlowEvent (token : ℕ) (events : EpollEvents) : UdpM Unit := do
  if token = 2 then pure ()
  else if token = 1 then
    dispatchReadyEvent listenEndpoint options token events true (← gets (·.listenerFd))
  else
    match ← gets (·.tables.flows.lookup token) with
    | none => reportObservation "stale-token" token
    | some flow =>
      if ← isExpired options token flow then do
        reportStatEvent .timeout
        closeFlow token "idle-timeout"
      else dispatchReadyEvent listenEndpoint options token events false flow.fd

/-! ### Running -/

/-- A callback that may throw. -/
def runCallback (answer : Option ℕ) : UdpM Unit :=
  match answer with
  | none => pure ()
  | some exception => raise (.callback exception)

/-- What is left when the constructor throws, or after the destructor: the descriptors of
the members are closed. -/
def closeMembers (fds : List ℕ) : UdpM Unit := forEach (fun fd : ℕ => destroyFd fd >>= fun _ => pure true) fds

/-- The constructor, once its descriptors are open. -/
def setupListener (signalFd listenerFd : ℕ) : UdpM Unit := do
  check "IP_PKTINFO" (← askUdp (.setsockopt listenerFd))
  check "UDP bind" (← askUdp (.bind listenerFd))
  registerFlowSocket listenerFd 1
  registerFlowSocket signalFd 2

/-- `UdpReactor`, the constructor: the three descriptors are members, so each is opened
before the first is tested. -/
def constructUdpReactor : UdpM Unit := do
  check "sigprocmask" (← askUdp .sigprocmask)
  let signal ← openDescriptor fun _ => .signal
  let epoll ← openDescriptor fun _ => .epoll
  let listener ← openDescriptor fun _ => .listener
  let opened := [signal, epoll, listener].filterMap Except.toOption
  handle (match signal, epoll, listener with
    | .error error, _, _ => throwUdpSystemError "signalfd" error
    | _, .error error, _ => throwUdpSystemError "epoll_create1" error
    | _, _, .error error => throwUdpSystemError "UDP listener socket" error
    | .ok signalFd, .ok epollFd, .ok listenerFd => do
      modify fun s => { s with
        signalFd, epollFd, listenerFd, receiveBuffer := List.replicate kUdpPayloadLimit 0 }
      setupListener signalFd listenerFd) fun e => closeMembers opened >>= fun _ => raise e

/-- The destructor. -/
def destroyUdpReactor : UdpM Unit := do
  handle closeAllFlows fun _ => pure ()
  closeMembers (← gets fun s => [s.listenerFd, s.epollFd, s.signalFd])

/-- The loop of `runUdpEventLoop` over the events: whether it ran to its end. -/
def dispatchEvents (events : List (ℕ × EpollEvents)) : UdpM Bool := do
  match events with
  | [] => pure true
  | (token, mask) :: rest => do
    if ← consumeStopSignals then pure false
    else do
      dispatchFlowEvent listenEndpoint options token mask
      dispatchEvents rest

/-- A pass of the loop of `runUdpEventLoop`. -/
def udpEventPass (_ : Unit) : UdpM (Unit ⊕ ℕ) := do
  if ← consumeStopSignals then pure (.inr 0)
  else do
    expireIdleFlows options
    match ← askUdp .epollWait with
    | .error error =>
      if error = .EINTR then pure (.inl ()) else throwUdpSystemError "UDP epoll_wait" error
    | .ok events => do
      if ← consumeStopSignals then pure (.inr 0)
      else do
        expireIdleFlows options
        runCallback (← askUdp .maintenance)
        if ← dispatchEvents listenEndpoint options (events.take 128) then pure (.inl ())
        else pure (.inr 0)

/-- `runUdpEventLoop`. -/
def runUdpEventLoop : UdpM ℕ := do
  runCallback (← askUdp .ready)
  loop (udpEventPass listenEndpoint options) ()

/-- What makes `runUdpReactor` refuse the options. -/
def UdpReactorOptions.Invalid : Prop :=
  options.maxFlows = 0 ∨ options.idleTimeout ≤ 0 ∨ options.pollInterval ≤ 0 ∨
    options.pollInterval > 2 ^ 31 - 1 ∨ options.receiveSize = 0 ∨ options.receiveSize > kUdpPayloadLimit

instance : Decidable options.Invalid := inferInstanceAs (Decidable (_ ∨ _ ∨ _ ∨ _ ∨ _ ∨ _))

/-- `runUdpReactor`. -/
def runUdpReactor : UdpM ℕ := do
  if options.Invalid then raise .invalidOptions
  else do
    constructUdpReactor
    ensure destroyUdpReactor (do
      let result ← runUdpEventLoop listenEndpoint options
      closeAllFlows
      pure result)

end L4lb.Net
