import L4lb.Control.DsrConfigSync

/-!
# The configuration file of the runtime profile

`RuntimeDsrConfig.cpp`: a text of lines is made entries, each checked as text; the entries
are then resolved against the interfaces, and their probes checked.
-/

namespace L4lb.Control

open Effect Effect.Prog Text Xdp

/-- `RuntimeTargetText`. -/
structure RuntimeTargetText where
  /-- The name. -/
  id : Bytes
  /-- The interface. -/
  egress : Bytes
  /-- The address. -/
  destinationMac : Bytes
  /-- Where probes go. -/
  probeEndpoint : Bytes
  deriving DecidableEq, Repr

/-- `RuntimeTarget`. -/
structure RuntimeTarget where
  /-- The name. -/
  id : Bytes
  /-- The interface. -/
  egress : Bytes
  /-- The backend. -/
  backend : UdpDsrBackendValue
  /-- Where probes go. -/
  probeAddress : UInt32
  /-- The port they go to. -/
  probePort : UInt16
  deriving DecidableEq, Repr

/-- `RuntimeDsrConfiguration`. -/
structure RuntimeDsrConfiguration where
  /-- The address served. -/
  vipAddress : UInt32
  /-- The port served. -/
  vipPort : UInt16
  /-- The targets, in the order of the file. -/
  targets : List RuntimeTarget
  deriving DecidableEq, Repr

/-- `kMaxFileBytes`. -/
def kMaxFileBytes : ℕ := 64 * 1024

/-! ### Literals -/

/-- `isRuntimeTargetIdCharacter`. -/
def isRuntimeTargetIdCharacter (c : UInt8) : Bool :=
  (char 'A' ≤ c && c ≤ char 'Z') || (char 'a' ≤ c && c ≤ char 'z') || (char '0' ≤ c && c ≤ char '9') ||
    c = char '_' || c = char '-'

/-- `isValidRuntimeTargetId`. -/
def isValidRuntimeTargetId (id : Bytes) : Bool :=
  id ≠ [] && id.length ≤ 32 && id.all isRuntimeTargetIdCharacter

/-- A pass of the loop over the bytes of an address: `combined` with one more. -/
def combineMacByte (text : Bytes) (combined : ℕ) (index : ℕ) : Except ConfigError ℕ :=
  match number 16 ((text.drop (3 * index)).take 2) with
  | none => .error .targetMacUnicast
  | some byte =>
    if index < 5 ∧ text[3 * index + 2]? ≠ some 58 ∨ index = 0 ∧ byte &&& 1 ≠ 0 then .error .targetMacUnicast
    else .ok (combined ||| byte)

/-- The checks of the address in `validateRuntimeTargetLiteral`. -/
def validateTargetMac (text : Bytes) : Except ConfigError Unit :=
  if text.length ≠ 17 then .error .targetMac
  else do
    let combined ← (List.range 6).foldlM (combineMacByte text) 0
    if combined = 0 then .error .targetMacZero else .ok ()

/-- `validateRuntimeTargetLiteral`. -/
def validateRuntimeTargetLiteral (target : RuntimeTargetText) : Except ConfigError Unit :=
  if isValidRuntimeTargetId target.id = false then .error .targetId
  else if target.egress = [] ∨ target.egress.length ≥ 16 ∨ target.egress.any isSeparator then
    .error .targetEgress
  else do
    validateTargetMac target.destinationMac
    let _ ← parseXdpBackends [target.probeEndpoint]
    pure ()

/-! ### The text -/

/-- Where `parseRuntimeConfigText` is. -/
structure ConfigText where
  /-- The entries so far. -/
  targets : List RuntimeTargetText := []
  /-- Their names. -/
  ids : List Bytes := []
  /-- There was a `schema=1`. -/
  schemaSeen : Bool := false
  /-- The lines so far. -/
  lines : ℕ := 0

/-- A line that says a target. -/
def ConfigText.addTarget (state : ConfigText) (first link probe : Bytes) : Except ConfigError ConfigText :=
  match cut 64 link with
  | none => .error .targetLink
  | some (egress, destinationMac) => do
    let target : RuntimeTargetText := ⟨first.drop 7, egress, destinationMac, probe⟩
    validateRuntimeTargetLiteral target
    if target.id ∈ state.ids then .error .duplicateTargetId
    else if state.targets.length + 1 > 64 then .error .tooManyTargets
    else .ok { state with targets := state.targets ++ [target], ids := state.ids ++ [target.id] }

/-- A line that is neither blank nor a comment. -/
def ConfigText.addFields (state : ConfigText) (fields : List Bytes) : Except ConfigError ConfigText :=
  match fields with
  | first :: rest =>
    if first = literal "schema=1" then
      if state.schemaSeen ∨ rest ≠ [] then .error .schemaLine else .ok { state with schemaSeen := true }
    else if (literal "target=").isPrefixOf first = false then .error .unknownLine
    else
      match rest with
      | [link, probe] => state.addTarget first link probe
      | _ => .error .unknownLine
  | [] => .error .unknownLine

/-- A pass of the loop of `parseRuntimeConfigText`. -/
def ConfigText.addLine (state : ConfigText) (line : Bytes) : Except ConfigError ConfigText :=
  let state := { state with lines := state.lines + 1 }
  if state.lines > 256 then .error .tooManyLines
  else
    let line := if line.getLast? = some 13 then line.dropLast else line
    if line.length > 1024 ∨ 13 ∈ line then .error .invalidLine
    else
      match line.dropWhile fun c => c = 32 || c = 9 with
      | [] => .ok state
      | c :: rest => if c = 35 then .ok state else state.addFields (words (c :: rest))

/-- A character that may not be in the text. -/
def isInvalidCharacter (c : UInt8) : Bool :=
  c = 0 || c > 127 || (c < 32 && c ≠ 10 && c ≠ 13 && c ≠ 9)

/-- `parseRuntimeConfigText`. -/
def parseRuntimeConfigText (text : Bytes) : Except ConfigError (List RuntimeTargetText) :=
  if text.length > kMaxFileBytes then .error .textTooLong
  else if text.any isInvalidCharacter then .error .textNotAscii
  else do
    let state ← (lines text).foldlM ConfigText.addLine {}
    if state.schemaSeen = false then .error .noSchema else .ok state.targets

/-! ### The file -/

/-- `sameFileVersion`. -/
def sameFileVersion (before after : FileStat) : Bool :=
  before.device = after.device && before.inode = after.inode && before.size = after.size &&
    before.modified = after.modified && before.changed = after.changed

/-- A pass of the loop of `readRuntimeConfigFile`. -/
def readPass (bytes : Bytes) : ConfigM (Bytes ⊕ Bytes) := do
  match ← ask .read with
  | .error error => if error = .EINTR then pure (.inl bytes) else raise .fileRead
  | .ok [] => pure (.inr bytes)
  | .ok buffer =>
    if (bytes ++ buffer).length > kMaxFileBytes then raise .fileTooLong else pure (.inl (bytes ++ buffer))

/-- What is done with the file that was opened. -/
def readOpenFile : ConfigM Bytes := do
  match ← ask .fstat with
  | none => raise .fileKind
  | some before =>
    if before.regular = false ∨ before.size < 0 ∨ before.size > kMaxFileBytes then raise .fileKind
    else
      let bytes ← loop readPass []
      match ← ask .fstat with
      | none => raise .fileChanged
      | some after =>
        if sameFileVersion before after = false ∨ bytes.length ≠ before.size then raise .fileChanged
        else pure bytes

/-- `readRuntimeConfigFile`. -/
def readRuntimeConfigFile (path : Bytes) : ConfigM Bytes := do
  match ← ask (.openFile path) with
  | some error => raise (.fileOpen error)
  | none => ensure (ask .closeFile) readOpenFile

/-- The literals of an entry. -/
def RuntimeTargetText.link (entry : RuntimeTargetText) : Bytes :=
  entry.egress ++ 64 :: entry.destinationMac

/-- The loop of `loadRuntimeConfig` over the entries, with their backends. -/
def resolveProbes (vipAddress : UInt32) :
    List RuntimeTarget → List (RuntimeTargetText × UdpDsrBackendValue) → Except ConfigError (List RuntimeTarget)
  | targets, [] => .ok targets
  | targets, (entry, backend) :: rest => do
    let endpoint := ((← parseXdpBackends [entry.probeEndpoint]).headD ⟨0, 0, 0⟩)
    if endpoint.address = vipAddress then .error .probeIsVip
    else if (backend.ifindex, endpoint.address, endpoint.port) ∈
        targets.map (fun t => (t.backend.ifindex, t.probeAddress, t.probePort)) then .error .duplicateProbe
    else
      resolveProbes vipAddress
        (targets ++ [⟨entry.id, entry.egress, backend, endpoint.address, endpoint.port⟩]) rest

/-- `loadRuntimeConfig`. -/
def loadRuntimeConfig (path ingress vip : Bytes) : ConfigM RuntimeDsrConfiguration := do
  let text ← readRuntimeConfigFile path
  let entries ← ConfigM.ofExcept (parseRuntimeConfigText text)
  let dsr ← parseDsrConfiguration ingress vip (entries.map RuntimeTargetText.link)
  let targets ← ConfigM.ofExcept (resolveProbes dsr.config.vipAddress [] (entries.zip dsr.backends))
  pure ⟨dsr.config.vipAddress, dsr.config.vipPort, targets⟩

/-- `sameRuntimeTarget`. -/
def sameRuntimeTarget (left right : RuntimeTarget) : Bool :=
  left.id = right.id && left.backend = right.backend && left.probeAddress = right.probeAddress &&
    left.probePort = right.probePort

/-- `sameRuntimeConfig`. -/
def sameRuntimeConfig (left right : RuntimeDsrConfiguration) : Bool :=
  left.vipAddress = right.vipAddress && left.vipPort = right.vipPort &&
    left.targets.length = right.targets.length &&
    (left.targets.zip right.targets).all fun p => sameRuntimeTarget p.1 p.2

end L4lb.Control
