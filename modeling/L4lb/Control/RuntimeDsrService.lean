import L4lb.Control.RuntimeSnapshot
import L4lb.Xdp.PublishFailure
import L4lb.Xdp.XdpAttachment

/-!
# The control loop of the runtime profile

`runRuntimeDsrControlLoop` of `RuntimeDsrService.cpp`: a configuration is loaded and its
snapshot published with the program; then, until a signal stops it, the loop polls the
probes, loads the configuration again when it is told to, and publishes a snapshot when
the configuration or the healthy targets have changed.

## The model

The locals of the function, the attachment with its store, the checkers and the maps of
the kernel are the state `RuntimeService`. The configuration, the checkers, the attachment
and the store are the programs of their modules. All calls are answered as they may be;
a map operation as `Records` allows. A line of output may find no memory. The clock is
that of the checkers, and only advances. `log` is a history, newest first; nothing reads it.
-/

namespace L4lb.Control

open Effect Effect.Prog Health Text Xdp

/-- What the loop throws. -/
inductive ServiceError where
  /-- A `RuntimeControlError`. -/
  | control (message : String)
  /-- What `RuntimeMapStore` throws. -/
  | publish (error : PublishError)
  /-- What loading a configuration throws. -/
  | config (error : ConfigError)
  /-- What a checker throws. -/
  | probe (error : ProbeError)
  /-- What `XdpAttachment` throws. -/
  | attachment (error : AttachmentError)
  /-- A `std::bad_alloc`. -/
  | badAlloc
  /-- Any other `std::exception`. -/
  | other (message : String)
  deriving DecidableEq, Repr

/-- It is a `RuntimePublishError`, which says that the snapshot was committed. -/
def ServiceError.committed : ServiceError → Bool
  | .publish error => error.committed
  | _ => false

/-- It is a `RuntimeControlError`. -/
def ServiceError.isControl : ServiceError → Bool
  | .control _ => true
  | _ => false

/-! ### Signals -/

/-- `SIGHUP`. -/
def SIGHUP : ℕ := 1

/-- `SIGPIPE`. -/
def SIGPIPE : ℕ := 13

/-- `SignalState`. -/
structure SignalState where
  /-- `reload`. -/
  reload : Bool := false
  /-- `stop`. -/
  stop : Bool := false
  /-- `brokenPipe`. -/
  brokenPipe : Bool := false
  deriving DecidableEq, Repr

/-! ### Output -/

/-- Why a snapshot was published. -/
inductive PublishReason where
  /-- `health`. -/
  | health
  /-- `reload`. -/
  | reload
  deriving DecidableEq, Repr

/-- The lines of output, with the snapshot they describe. -/
inductive OutputLine where
  /-- `READY`. -/
  | ready (dev : Bytes) (mode : XdpAttachMode) (programId : ℕ) (configured : ℕ) (applied : UdpRuntimeSnapshot)
  /-- `XDP_HEALTH`. -/
  | health (transition : ProbeTransition)
  /-- `XDP_PUBLISH status=applied`. -/
  | publishApplied (reason : PublishReason) (applied : UdpRuntimeSnapshot)
  /-- `XDP_PUBLISH status=failed`. -/
  | publishFailed (reason : PublishReason) (applied : UdpRuntimeSnapshot)
  /-- `XDP_RELOAD status=unchanged`. -/
  | reloadUnchanged (applied : UdpRuntimeSnapshot)
  /-- `XDP_RELOAD status=applied`. -/
  | reloadApplied (configured : ℕ) (applied : UdpRuntimeSnapshot)
  /-- `XDP_RELOAD status=rejected`. -/
  | reloadRejected (reason : Bytes) (applied : UdpRuntimeSnapshot)
  /-- `XDP_STATS`. -/
  | statistics (stats : UdpDsrStatsValue)
  /-- `DETACHED`. -/
  | detached (dev : Bytes) (mode : XdpAttachMode) (programId : ℕ)

/-- `std::to_string`. -/
def decimal (n : ℕ) : Bytes := literal (toString n)

/-- `xdpAttachModeName`. -/
def xdpAttachModeName : XdpAttachMode → Bytes
  | .kGeneric => literal "generic"
  | .kNative => literal "native"

/-- `probeStateName`. -/
def probeStateName : ProbeState → Bytes
  | .unknown => literal "Unknown"
  | .healthy => literal "Healthy"
  | .unhealthy => literal "Unhealthy"

/-- `formatAppliedSnapshotFields`. -/
def formatAppliedSnapshotFields (applied : UdpRuntimeSnapshot) : Bytes :=
  literal " generation=" ++ decimal applied.generation.toNat ++
    literal " active_backends=" ++ decimal applied.backendCount.toNat

/-- `formatRuntimeStatisticsLine`. -/
def formatRuntimeStatisticsLine (stats : UdpDsrStatsValue) : Bytes :=
  literal "XDP_STATS schema=3 total_packets=" ++ decimal (stats .totalPackets).toNat ++
    literal " pass_packets=" ++ decimal (stats .passPackets).toNat ++
    literal " redirect_requests=" ++ decimal (stats .redirectRequests).toNat ++
    literal " drop_packets=" ++ decimal (stats .dropPackets).toNat ++
    literal " unsupported_packets=" ++ decimal (stats .unsupportedPackets).toNat ++
    literal " no_backend_packets=" ++ decimal (stats .noBackendPackets).toNat ++
    literal " invalid_config_packets=" ++ decimal (stats .invalidConfigPackets).toNat ++
    literal " helper_error_packets=" ++ decimal (stats .helperErrorPackets).toNat

/-- `reason=health` or `reason=reload`. -/
def PublishReason.text : PublishReason → Bytes
  | .health => literal " reason=health"
  | .reload => literal " reason=reload"

/-- The text of a line, without its end. -/
def OutputLine.text : OutputLine → Bytes
  | .ready dev mode programId configured applied =>
    literal "READY dev=" ++ dev ++ literal " mode=" ++ xdpAttachModeName mode ++ literal " prog_id=" ++
      decimal programId ++ literal " schema=3 profile=udp-dsr-runtime configured_backends=" ++
      decimal configured ++ formatAppliedSnapshotFields applied
  | .health transition =>
    literal "XDP_HEALTH target=" ++ transition.id ++ literal " from=" ++ probeStateName transition.from ++
      literal " to=" ++ probeStateName transition.to ++ literal " reason=" ++ literal transition.reason
  | .publishApplied reason applied =>
    literal "XDP_PUBLISH status=applied" ++ reason.text ++ formatAppliedSnapshotFields applied
  | .publishFailed reason applied =>
    literal "XDP_PUBLISH status=failed" ++ reason.text ++ formatAppliedSnapshotFields applied
  | .reloadUnchanged applied => literal "XDP_RELOAD status=unchanged" ++ formatAppliedSnapshotFields applied
  | .reloadApplied configured applied =>
    literal "XDP_RELOAD status=applied configured_backends=" ++ decimal configured ++
      formatAppliedSnapshotFields applied
  | .reloadRejected reason applied =>
    literal "XDP_RELOAD status=rejected reason=" ++ reason ++ formatAppliedSnapshotFields applied
  | .statistics stats => formatRuntimeStatisticsLine stats
  | .detached dev mode programId =>
    literal "DETACHED dev=" ++ dev ++ literal " mode=" ++ xdpAttachModeName mode ++ literal " prog_id=" ++
      decimal programId

/-- `sanitizeErrorReason`, of a text. -/
def sanitizeErrorReason (what : Bytes) : Bytes :=
  (what.map fun c => if c ≤ 32 then char '_' else c).take 512

/-! ### The state -/

/-- What the loop has in hand: what it applied, and what is published. -/
structure ServiceView where
  /-- `configuration`. -/
  configuration : RuntimeDsrConfiguration
  /-- `checker`, by number. -/
  checkerId : ℕ
  /-- What it is. -/
  checker : UdpProbeChecker
  /-- `applied`. -/
  applied : UdpRuntimeSnapshot
  /-- The store of the attachment. -/
  store : Option RuntimeMapStore
  /-- The map in the slot of the outer map, with its value. -/
  active : Option (ℕ × UdpRuntimeSnapshot)

/-- What happened, for the record. -/
inductive ServiceEvent where
  /-- The head of the loop. -/
  | head (view : ServiceView)
  /-- A stop signal was consumed. -/
  | stopSeen
  /-- A `SIGHUP` was consumed. -/
  | hangup
  /-- A `loadRuntimeConfig` starts, because of the flag. -/
  | loading
  /-- A reload or a publication for health begins. -/
  | begun (view : ServiceView)
  /-- A snapshot was built, of a configuration and the snapshots of its checker. -/
  | built (configuration : RuntimeDsrConfiguration) (probes : List ProbeSnapshot) (snapshot : UdpRuntimeSnapshot)
  /-- `publishRuntime` is called. -/
  | attempted (time : Time)
  /-- What went wrong in it was caught, and the loop goes on. -/
  | failed (view : ServiceView)
  /-- What went wrong in it was caught, and thrown again. -/
  | rethrown (view : ServiceView)
  /-- A line was put in the output. -/
  | printed (line : OutputLine) (time : Time) (view : ServiceView)
  /-- The function returns. -/
  | returned

/-- The locals of `runRuntimeDsrControlLoop`, and what it works with. -/
structure RuntimeService where
  /-- The checkers, and the clock. -/
  process : ProbeProcess
  /-- The maps of the kernel. -/
  ledger : Ledger
  /-- `attachment`. -/
  attachment : XdpAttachment := {}
  /-- Its `runtimeMaps_`. -/
  store : Option RuntimeMapStore := none
  /-- `configuration`. -/
  configuration : RuntimeDsrConfiguration := ⟨0, 0, []⟩
  /-- `checker`. -/
  checker : ℕ := 0
  /-- `applied`. -/
  applied : UdpRuntimeSnapshot := default
  /-- `signalState`. -/
  signals : SignalState := {}
  /-- `nextPublish`. -/
  nextPublish : Time := 0
  /-- `committed`. -/
  committed : Bool := false
  /-- `publishAttempted`. -/
  publishAttempted : Bool := false
  /-- `pendingOutput_`. -/
  pendingOutput : Bytes := []
  /-- The history. -/
  log : List ServiceEvent := []

/-- The map in the slot, with its value. -/
def activeMap (kernel : MapKernel) : Option (ℕ × UdpRuntimeSnapshot) :=
  kernel.outer.map fun map => (map, (kernel.maps map).value)

/-- What is in hand. -/
def RuntimeService.view (s : RuntimeService) : ServiceView where
  configuration := s.configuration
  checkerId := s.checker
  checker := s.process.checkers s.checker
  applied := s.applied
  store := s.store
  active := activeMap s.ledger.kernel

/-- Add to the history. -/
def RuntimeService.record (s : RuntimeService) (event : ServiceEvent) : RuntimeService :=
  { s with log := event :: s.log }

/-! ### What is asked of the system -/

/-- The calls. -/
inductive ServiceCall where
  /-- Of the loader of configurations. -/
  | config (c : ConfigCall)
  /-- Of the checkers. -/
  | probe (c : ProbeCall)
  /-- Of the attachment. -/
  | attachment (c : AttachmentCall)
  /-- Of the maps. -/
  | map (c : MapCall)
  /-- The constructor of `RuntimeMapStore`, and why it failed. -/
  | openStore
  /-- `std::filesystem::absolute`. -/
  | absolute (path : Bytes)
  /-- `signalfd`: it was opened. -/
  | signalfd
  /-- `fcntl` of `RuntimeOutput`: it was done. -/
  | openOutput
  /-- `resolveInterfaceIndex`. -/
  | resolveInterface (name : Bytes)
  /-- `sigtimedwait`. -/
  | sigtimedwait
  /-- `read` of the signal descriptor: a signal, or a short read. -/
  | readSignal
  /-- Memory for a line of output: there is some. -/
  | allocate
  /-- `write` to the standard output: how much was written. -/
  | write (bytes : Bytes)
  /-- `poll`, and whether a descriptor is broken. -/
  | poll
  /-- `readRuntimeStats`. -/
  | readStats
  /-- `what()` of an exception. -/
  | what (error : ServiceError)

/-- The answers. -/
abbrev ServiceAnswer : ServiceCall → Type
  | .config c => ConfigAnswer c
  | .probe c => ProbeAnswer c
  | .attachment c => AttachmentAnswer c
  | .map c => (l : Ledger) → { r : MapAnswer c × Ledger // Records c l r.1 r.2 }
  | .openStore => Option String
  | .absolute _ => Option Bytes
  | .signalfd | .openOutput | .allocate => Bool
  | .resolveInterface _ => Except AttachmentError ℤ
  | .sigtimedwait => Except Errno ℕ
  | .readSignal => Except Errno (Option ℕ)
  | .write _ => Except Errno ℕ
  | .poll => Except Errno Bool
  | .readStats => Except String UdpDsrStatsValue
  | .what _ => Bytes

/-- The control loop. -/
abbrev ControlM := Prog ServiceCall ServiceAnswer RuntimeService ServiceError

/-- Make a call. -/
def asks (c : ServiceCall) : ControlM (ServiceAnswer c) := call c

/-- A program that reads a configuration. -/
def configM {α : Type} (m : ConfigM α) : ControlM α :=
  zoom ServiceCall.config (fun _ a => a) (fun _ => ()) (fun _ s => s) .config m

/-- A method of a checker. -/
def checkerM {α : Type} (m : CheckerM α) : ControlM α :=
  zoom ServiceCall.probe (fun _ a => a) (·.process) (fun process s => { s with process }) .probe m

/-- The steady clock advances, and is read. -/
def steadyNow : CheckerM Time := do
  let elapsed ← call ProbeCall.now
  modify fun s => { s with clock := s.clock + elapsed }
  gets (·.clock)

/-- `Clock::now()`. -/
def clockNow : ControlM Time := checkerM steadyNow

/-- A program of map operations. -/
def mapsM {α : Type} : MapProgram α → ControlM α
  | .ret a => pure a
  | .call c k => do
    let respond ← asks (.map c)
    let ledger ← gets (·.ledger)
    modify fun s => { s with ledger := (respond ledger).val.2 }
    mapsM (k (respond ledger).val.1)

/-! ### Output -/

/-- A pass of the loop of `flushPendingOutput`. -/
def flushPass : ControlM (Option Unit) := do
  let s ← get
  if s.pendingOutput = [] then pure (some ())
  else
    match ← asks (.write s.pendingOutput) with
    | .error error =>
      if error = .EINTR then pure none
      else if error = .EAGAIN ∨ error = .EWOULDBLOCK then pure (some ())
      else raise (.control "runtime 输出失败")
    | .ok count =>
      if count = 0 then raise (.control "runtime 输出失败")
      else do
        modify fun s => { s with pendingOutput := s.pendingOutput.drop count }
        pure none

/-- `flushPendingOutput`. -/
def flushPendingOutput : ControlM Unit := do
  let _ ← attempts flushPass 64

/-- `appendOutputLine`. -/
def appendOutputLine (line : OutputLine) : ControlM Unit := do
  if ← asks .allocate then
    let s ← get
    if s.pendingOutput.length + line.text.length + 1 > 64 * 1024 then
      raise (.control "runtime 输出队列超过64KiB")
    else
      modify fun s =>
        { s.record (.printed line s.process.clock s.view) with
          pendingOutput := s.pendingOutput ++ line.text ++ [10] }
      flushPendingOutput
  else raise .badAlloc

/-- A pass of the loop of `drainOutputOnStop`. -/
def drainPass (deadline : Time) (_ : Unit) : ControlM (Unit ⊕ Unit) := do
  if (← get).pendingOutput = [] then pure (.inr ())
  else
    flushPendingOutput
    if (← get).pendingOutput = [] then pure (.inr ())
    else if (← clockNow) ≥ deadline then raise (.control "停止后 runtime 输出背压超时")
    else
      match ← asks .poll with
      | .error error => if error ≠ .EINTR then raise (.control "runtime 输出等待失败") else pure (.inl ())
      | .ok _ => pure (.inl ())

/-- `drainOutputOnStop`. -/
def drainOutputOnStop : ControlM Unit := do
  let now ← clockNow
  loop (drainPass (now + Time.seconds 1)) ()

/-! ### Signals -/

/-- The state after a signal. -/
def RuntimeService.observe (s : RuntimeService) (signal : ℕ) : RuntimeService :=
  if signal = SIGHUP then { s.record .hangup with signals := { s.signals with reload := true } }
  else { s.record .stopSeen with
    signals := { s.signals with stop := true, brokenPipe := s.signals.brokenPipe || signal = SIGPIPE } }

/-- The state after a stop signal that was waited for. -/
def RuntimeService.observeStop (s : RuntimeService) (signal : ℕ) : RuntimeService :=
  { s.record .stopSeen with
    signals := { s.signals with stop := true, brokenPipe := s.signals.brokenPipe || signal = SIGPIPE } }

/-- A pass of the loop of `consumeRuntimeSignals`. -/
def signalPass : ControlM (Option Unit) := do
  match ← asks .readSignal with
  | .error error =>
    if error = .EINTR then pure none
    else if error = .EAGAIN then pure (some ())
    else raise (.control "runtime 信号读取失败")
  | .ok none => raise (.control "runtime 信号读取失败")
  | .ok (some signal) => do
    modify fun s => s.observe signal
    pure none

/-- `consumeRuntimeSignals`. -/
def consumeRuntimeSignals : ControlM Unit := do
  match ← asks .sigtimedwait with
  | .ok signal => modify fun s => s.observeStop signal
  | .error error =>
    if error ≠ .EAGAIN ∧ error ≠ .EINTR then raise (.control "runtime 停止信号检查失败")
    else
      let _ ← attempts signalPass 64

/-- `waitForRuntimeSignalsOrOutput`. -/
def waitForRuntimeSignalsOrOutput : ControlM Unit := do
  match ← asks .poll with
  | .error error => if error ≠ .EINTR then raise (.control "runtime poll 失败") else pure ()
  | .ok broken => if broken then raise (.control "runtime 输出或信号描述符失效") else pure ()

/-! ### The attachment -/

/-- `XdpAttachment::publishRuntime`, or what `loadObject` does in its place. -/
def publishSnapshotOf (snapshot : UdpRuntimeSnapshot) : ControlM (Except PublishError Unit) := do
  match (← get).store with
  | none => raise (.other "runtime profile 未加载")
  | some store => do
    let (store, result) ← mapsM (publishSnapshot store snapshot)
    modify fun s => { s with store := some store }
    pure result

/-- `XdpAttachment::publishRuntime`. -/
def publishRuntime (snapshot : UdpRuntimeSnapshot) : ControlM Unit := do
  modify fun s => s.record (.attempted s.process.clock)
  match ← publishSnapshotOf snapshot with
  | .error error => raise (.publish error)
  | .ok () => pure ()

/-- What `loadObject` does with the maps of the profile. -/
def configureRuntimeMaps (snapshot : UdpRuntimeSnapshot) : ControlM (Except AttachmentError Unit) := do
  match ← asks .openStore with
  | some message => pure (.error (.object message))
  | none => do
    modify fun s => { s with store := some {} }
    match ← publishSnapshotOf snapshot with
    | .error error => pure (.error (.object error.what))
    | .ok () => pure (.ok ())

/-- An operation of the attachment, the maps of whose profile hold the snapshot. -/
def attachmentM {α : Type} (snapshot : UdpRuntimeSnapshot) : AttachmentProgram α → ControlM α
  | .ret a => pure a
  | .call .configureMaps k => do
    let result ← configureRuntimeMaps snapshot
    attachmentM snapshot (k result)
  | .call c k => do
    let answer ← asks (.attachment c)
    attachmentM snapshot (k answer)

/-- An operation of the attachment changes it, and throws. -/
def attachmentOperation (operation : XdpAttachment → AttachmentProgram (XdpAttachment × Except AttachmentError Unit)) :
    ControlM Unit := do
  let s ← get
  let (attachment, result) ← attachmentM s.applied (operation s.attachment)
  modify fun s => { s with attachment }
  match result with
  | .error error => raise (.attachment error)
  | .ok () => pure ()

/-! ### Publishing -/

/-- `buildRuntimeSnapshot`, for the generation after the applied one. -/
def buildNextSnapshot (configuration : RuntimeDsrConfiguration) (checker : ℕ) : ControlM UdpRuntimeSnapshot := do
  let s ← get
  match nextRuntimeGeneration s.applied with
  | none => raise (.control "runtime generation 已耗尽")
  | some generation =>
    match buildRuntimeSnapshot configuration (s.process.checkers checker) generation with
    | none => raise (.other "runtime 健康目标超界")
    | some snapshot => do
      modify fun s => s.record (.built configuration (s.process.checkers checker).copyProbeSnapshots snapshot)
      pure snapshot

/-- `nextPublish = Clock::now() + 1s`. -/
def setNextPublish : ControlM Unit := do
  let now ← clockNow
  modify fun s => { s with nextPublish := now + Time.seconds 1 }

/-- Throw again. -/
def rethrow {α : Type} (error : ServiceError) : ControlM α := do
  modify fun s => s.record (.rethrown s.view)
  raise error

/-- The `try` of `publishChangedHealthySnapshot`. -/
def tryPublishHealthy (snapshot : UdpRuntimeSnapshot) : ControlM Unit := do
  publishRuntime snapshot
  modify fun s => { s with committed := true, applied := snapshot }
  appendOutputLine (.publishApplied .health (← get).applied)

/-- Its clauses. -/
def catchHealthy (error : ServiceError) : ControlM Unit := do
  if error.committed then rethrow error
  else if error.isControl then rethrow error
  else if (← get).committed then rethrow error
  else
    modify fun s => s.record (.failed s.view)
    appendOutputLine (.publishFailed .health (← get).applied)

/-- `publishChangedHealthySnapshot`. -/
def publishChangedHealthySnapshot : ControlM Bool := do
  let now ← clockNow
  let s ← get
  if now ≥ s.nextPublish then
    let snapshot ← buildNextSnapshot s.configuration s.checker
    if haveSameActiveTargets snapshot s.applied then pure true
    else
      consumeRuntimeSignals
      if (← get).signals.stop then pure false
      else
        setNextPublish
        modify fun s => { s.record (.begun s.view) with committed := false }
        handle (tryPublishHealthy snapshot) catchHealthy
        pure true
  else pure true

/-! ### Reloading -/

/-- `publishRuntime` of a candidate, and what follows it. -/
def commitCandidate (candidate : RuntimeDsrConfiguration) (candidateChecker : ℕ) (snapshot : UdpRuntimeSnapshot) :
    ControlM Unit := do
  setNextPublish
  modify fun s => { s with publishAttempted := true }
  publishRuntime snapshot
  let previous ← gets (·.checker)
  modify fun s =>
    { s with committed := true, applied := snapshot, configuration := candidate, checker := candidateChecker }
  -- the checker that was replaced is gone
  checkerM (cancelAllProbes previous)
  appendOutputLine (.publishApplied .reload (← get).applied)
  let s ← get
  appendOutputLine (.reloadApplied s.configuration.targets.length s.applied)

/-- What is done with a candidate and its checker; whether the loop goes on. -/
def publishCandidate (candidate : RuntimeDsrConfiguration) (candidateChecker : ℕ) : ControlM Bool := do
  let snapshot ← buildNextSnapshot candidate candidateChecker
  consumeRuntimeSignals
  if (← get).signals.stop then pure false
  else
    commitCandidate candidate candidateChecker snapshot
    pure true

/-- A candidate's checker that did not take the place of the other is gone. -/
def dropCandidate (candidateChecker : ℕ) : ControlM Unit := do
  let s ← get
  when (s.checker ≠ candidateChecker) (checkerM (cancelAllProbes candidateChecker))

/-- The `try` of a reload; whether the loop goes on. -/
def tryReload (path ingress vip : Bytes) : ControlM Bool := do
  let candidate ← configM (loadRuntimeConfig path ingress vip)
  let s ← get
  if sameRuntimeConfig candidate s.configuration then
    appendOutputLine (.reloadUnchanged s.applied)
    pure true
  else
    let candidateChecker ← checkerM (constructChecker (buildProbeTargets candidate)
      (s.process.checkers s.checker).copyProbeSnapshots)
    ensure (dropCandidate candidateChecker) (publishCandidate candidate candidateChecker)

/-- Its clauses. -/
def catchReload (error : ServiceError) : ControlM Bool := do
  if error.committed then rethrow error
  else if error.isControl then rethrow error
  else if (← get).committed then rethrow error
  else
    modify fun s => s.record (.failed s.view)
    let s ← get
    when (s.publishAttempted = true) (appendOutputLine (.publishFailed .reload s.applied))
    let what ← asks (.what error)
    appendOutputLine (.reloadRejected (sanitizeErrorReason what) (← get).applied)
    pure true

/-- A reload. -/
def reload (path ingress vip : Bytes) : ControlM Bool := do
  modify fun s => { (s.record (.begun s.view)).record .loading with
    signals := { s.signals with reload := false }
    committed := false
    publishAttempted := false }
  handle (tryReload path ingress vip) catchReload

/-- A reload, if one is to be made at the time that was read before the probes. -/
def reloadIfDue (path ingress vip : Bytes) (now : Time) : ControlM Bool := do
  let s ← get
  if s.signals.reload = true ∧ now ≥ s.nextPublish then reload path ingress vip else pure true

/-! ### The loop -/

/-- The lines of a poll. -/
def reportTransitions (now : Time) : ControlM Unit := do
  let checker ← gets (·.checker)
  let transitions ← checkerM (pollProbeTransitions checker now)
  forEach (fun transition => do
    appendOutputLine (.health transition)
    pure true) transitions

/-- A pass of the loop of `runRuntimeDsrControlLoop`. -/
def controlPass (path ingress vip : Bytes) (_ : Unit) : ControlM (Unit ⊕ Unit) := do
  modify fun s => s.record (.head s.view)
  if (← get).signals.stop then pure (.inr ())
  else
    consumeRuntimeSignals
    if (← get).signals.stop then pure (.inr ())
    else
      let now ← clockNow
      reportTransitions now
      consumeRuntimeSignals
      if (← get).signals.stop then pure (.inr ())
      else if ← reloadIfDue path ingress vip now then
        if ← publishChangedHealthySnapshot then
          flushPendingOutput
          waitForRuntimeSignalsOrOutput
          pure (.inl ())
        else pure (.inr ())
      else pure (.inr ())

/-- What comes after the loop. -/
def finishControlLoop (ingress : Bytes) (mode : XdpAttachMode) : ControlM ℕ := do
  attachmentOperation XdpAttachment.detachProgram
  checkerM (cancelAllProbes (← get).checker)
  match ← asks .readStats with
  | .error message => raise (.other message)
  | .ok stats => do
    appendOutputLine (.statistics stats)
    appendOutputLine (.detached ingress mode (← get).attachment.programId)
    drainOutputOnStop
    modify fun s => s.record .returned
    pure (if (← get).signals.brokenPipe then 1 else 0)

/-- What comes before the loop, with the program attached. -/
def announceReady (ingress : Bytes) (mode : XdpAttachMode) : ControlM Unit := do
  let s ← get
  appendOutputLine
    (.ready ingress mode s.attachment.programId s.configuration.targets.length s.applied)
  setNextPublish

/-- The `try` of `runRuntimeDsrControlLoop`. -/
def runAttached (path ingress vip : Bytes) (mode : XdpAttachMode) : ControlM ℕ := do
  announceReady ingress mode
  loop (controlPass path ingress vip) ()
  finishControlLoop ingress mode

/-- What is thrown there: the program is detached first, and errors of that ignored. -/
def cleanUp (error : ServiceError) : ControlM ℕ := do
  handle (attachmentOperation XdpAttachment.detachProgram) fun _ => pure ()
  raise error

/-- The first configuration and its checker; the path it was read from. -/
def constructFirst (configurationPath ingress vip : Bytes) : ControlM Bytes := do
  match ← asks (.absolute configurationPath) with
  | none => raise (.other "std::filesystem::absolute")
  | some path =>
    let configuration ← configM (loadRuntimeConfig path ingress vip)
    let checker ← checkerM (constructChecker (buildProbeTargets configuration) [])
    modify fun s => { s with configuration, checker }
    pure path

/-- The first snapshot. -/
def buildFirst : ControlM Unit := do
  let s ← get
  let checker := s.process.checkers s.checker
  match buildRuntimeSnapshot s.configuration checker 1 with
  | none => raise (.other "runtime 健康目标超界")
  | some applied =>
    modify fun s => { s.record (.built s.configuration checker.copyProbeSnapshots applied) with applied }

/-- What comes after the first checker. -/
def runWithChecker (object : String) (path ingress vip : Bytes) (mode : XdpAttachMode) : ControlM ℕ := do
  buildFirst
  if ← asks .signalfd then
    if ← asks .openOutput then
      attachmentOperation (·.loadObject object)
      match ← asks (.resolveInterface ingress) with
      | .error error => raise (.attachment error)
      | .ok ifindex => do
        attachmentOperation (·.attachProgram ifindex mode)
        handle (runAttached path ingress vip mode) cleanUp
    else raise (.other "无法设置 runtime 非阻塞输出")
  else raise (.other "无法创建 runtime signalfd")

/-- `runRuntimeDsrControlLoop`; the checker in hand is gone in any case. -/
def runRuntimeDsrControlLoop (object : String) (ingress vip configurationPath : Bytes) (mode : XdpAttachMode) :
    ControlM ℕ := do
  let path ← constructFirst configurationPath ingress vip
  handle (runWithChecker object path ingress vip mode) fun error => do
    checkerM (cancelAllProbes (← get).checker)
    raise error

/-- What it is called with: checkers of the process, a clock, and the maps of the kernel. -/
def RuntimeService.start (process : ProbeProcess) (kernel : MapKernel) : RuntimeService where
  process := process
  ledger := ⟨{ kernel with installs := [] }, []⟩

end L4lb.Control
