import L4lb.Control.XdpConfigSync
import L4lb.Effect.Prog
import L4lb.Xdp.UdpDsr

/-!
# The configuration of the static profile

`DsrConfigSync.cpp`: literals and interfaces are made a configuration, and a
configuration is written to the maps, read back and frozen.

## The model

What is asked of interfaces is answered as it may be. A write to a map that does not fail
may still leave anything there; what is read is what is there.
-/

namespace L4lb.Control

open Effect Effect.Prog Text Xdp

/-- `validMac`. -/
def validMac (mac : Mac) : Bool :=
  mac.get 0 &&& 1 == 0 && mac.get 0 ||| mac.get 1 ||| mac.get 2 ||| mac.get 3 ||| mac.get 4 ||| mac.get 5 != 0

theorem validMac_mk (a b c d e f : UInt8) : validMac #v[a, b, c, d, e, f] =
    (a &&& 1 == 0 && a ||| b ||| c ||| d ||| e ||| f != 0) := rfl

theorem validMac_eq (mac : Mac) : validMac mac = Xdp.validMac mac := rfl

/-- `InterfaceInfo`. -/
structure InterfaceInfo where
  /-- The index. -/
  index : UInt32
  /-- The address. -/
  mac : Mac
  deriving DecidableEq, Repr

/-- `DsrConfiguration`. -/
structure DsrConfiguration where
  /-- The value of the configuration map. -/
  config : UdpDsrConfigValue
  /-- The backends. -/
  backends : List UdpDsrBackendValue
  deriving DecidableEq, Repr

/-! ### Interfaces -/

/-- What `fstat` says of a file, as far as it is looked at. -/
structure FileStat where
  /-- `S_ISREG(st_mode)`. -/
  regular : Bool
  /-- `st_dev`. -/
  device : ℕ
  /-- `st_ino`. -/
  inode : ℕ
  /-- `st_size`. -/
  size : ℤ
  /-- `st_mtim`. -/
  modified : ℤ × ℤ
  /-- `st_ctim`. -/
  changed : ℤ × ℤ
  deriving DecidableEq, Repr

/-- What is asked of the system. -/
inductive ConfigCall where
  /-- `socket(AF_INET, SOCK_DGRAM | SOCK_CLOEXEC, 0)`: it was opened. -/
  | socket
  /-- `SIOCGIFINDEX`. -/
  | ifIndex (name : Bytes)
  /-- `SIOCGIFFLAGS`: the interface is up. -/
  | ifUp (name : Bytes)
  /-- `SIOCGIFMTU`. -/
  | ifMtu (name : Bytes)
  /-- `SIOCGIFHWADDR`: the address, and whether it is of an Ethernet. -/
  | ifHardware (name : Bytes)
  /-- `open` of a file to be read. -/
  | openFile (path : Bytes)
  /-- `fstat`. -/
  | fstat
  /-- `read` of up to 4096 bytes. -/
  | read
  /-- `close`. -/
  | closeFile

/-- The answers; interfaces are numbered from one. -/
abbrev ConfigAnswer : ConfigCall → Type
  | .socket => Bool
  | .ifIndex _ => Option { index : UInt32 // 1 ≤ index }
  | .ifUp _ => Option Bool
  | .ifMtu _ => Option ℤ
  | .ifHardware _ => Option (Bool × Mac)
  | .openFile _ => Option Errno
  | .fstat => Option FileStat
  | .read => Except Errno Bytes
  | .closeFile => Unit

/-- A program that reads a configuration. -/
abbrev ConfigM := Prog ConfigCall ConfigAnswer Unit ConfigError

/-- Make a call. -/
def ask (c : ConfigCall) : ConfigM (ConfigAnswer c) := call c

/-- The characters of `/ \t\r\n:@`. -/
def isSeparator (c : UInt8) : Bool :=
  c = char '/' || c = char ' ' || c = 9 || c = 13 || c = 10 || c = char ':' || c = char '@'

/-- `IF_NAMESIZE`. -/
def IF_NAMESIZE : ℕ := 16

/-- `inspectInterface`. -/
def inspectInterface (name : Bytes) : ConfigM InterfaceInfo :=
  if name = [] ∨ name.length ≥ IF_NAMESIZE ∨ name.any isSeparator then raise (.interfaceName name)
  else do
    if ← ask .socket then
      match ← ask (.ifIndex name) with
      | none => raise (.noInterface name)
      | some index =>
        let up ← ask (.ifUp name)
        if up ≠ some true then raise (.interfaceDown name)
        else
          match ← ask (.ifMtu name) with
          | none => raise (.interfaceMtu name)
          | some mtu =>
            if mtu < 1500 then raise (.interfaceMtu name)
            else
              match ← ask (.ifHardware name) with
              | some (true, mac) =>
                if validMac mac = false then raise (.interfaceMac name) else pure ⟨index, mac⟩
              | _ => raise (.notEthernet name)
    else raise .interfaceSocket

/-! ### Literals -/

/-- A byte of an address in text: two digits, and a colon but for the last. -/
def macByte (text : Bytes) (i : ℕ) : Option UInt8 :=
  match number 16 ((text.drop (3 * i)).take 2) with
  | none => none
  | some byte => if i < 5 ∧ text[3 * i + 2]? ≠ some 58 then none else some byte.toUInt8

/-- `parseMac`. -/
def parseMac (text : Bytes) : Except ConfigError Mac :=
  if text.length ≠ 17 then .error .macLength
  else
    match (List.range 6).mapM (macByte text) with
    | some [a, b, c, d, e, f] =>
      if validMac #v[a, b, c, d, e, f] = false then .error (.notUnicastMac text) else .ok #v[a, b, c, d, e, f]
    | _ => .error (.invalidMac text)

/-- The loop of `parseDsrConfiguration` over the literals. -/
def parseTargets : List Bytes → Except ConfigError (List (Bytes × Mac))
  | [] => .ok []
  | target :: targets =>
    match cut 64 target with
    | none => .error .targetForm
    | some (name, macText) => do
      let mac ← parseMac macText
      let rest ← parseTargets targets
      pure ((name, mac) :: rest)

/-- The loop of `parseDsrConfiguration` over the interfaces, after the targets `seen`. -/
def resolveTargets (input : InterfaceInfo) :
    List UdpDsrBackendValue → List (Bytes × Mac) → ConfigM (List UdpDsrBackendValue)
  | backends, [] => pure backends
  | backends, (name, mac) :: targets => do
    let output ← inspectInterface name
    if output.index = input.index then raise .egressIsIngress
    else if (output.index, mac) ∈ backends.map (fun b => (b.ifindex, b.destinationMac)) then
      raise .duplicateTarget
    else resolveTargets input (backends ++ [⟨output.index, mac, output.mac⟩]) targets

/-- Throw, or go on. -/
def ConfigM.ofExcept {α : Type} : Except ConfigError α → ConfigM α
  | .ok a => pure a
  | .error e => raise e

/-- `parseDsrConfiguration`. -/
def parseDsrConfiguration (ingress vip : Bytes) (targets : List Bytes) : ConfigM DsrConfiguration := do
  let endpoint ← ConfigM.ofExcept ((parseXdpBackends [vip]).map (·.headD ⟨0, 0, 0⟩))
  if targets.length > L4LB_DSR_MAX_BACKENDS then raise .tooManyBackends
  else
    let parsedTargets ← ConfigM.ofExcept (parseTargets targets)
    let input ← inspectInterface ingress
    let backends ← resolveTargets input [] parsedTargets
    pure ⟨⟨L4LB_DSR_SCHEMA_VERSION, targets.length.toUInt32, endpoint.address, endpoint.port, 0⟩, backends⟩

/-! ### The maps -/

/-- The operations of `DsrMapAccess`. -/
inductive DsrMapCall where
  /-- `writeBackend`. -/
  | writeBackend (index : ℕ) (value : UdpDsrBackendValue)
  /-- `writeConfig`. -/
  | writeConfig (value : UdpDsrConfigValue)
  /-- `readBackend`. -/
  | readBackend (index : ℕ)
  /-- `readConfig`. -/
  | readConfig
  /-- `freezeBackends`. -/
  | freezeBackends
  /-- `freezeConfig`. -/
  | freezeConfig

/-- The answers: why an operation failed, and what a write has left. -/
abbrev DsrMapAnswer : DsrMapCall → Type
  | .writeBackend _ _ => Option Errno × UdpDsrBackendValue
  | .writeConfig _ => Option Errno × UdpDsrConfigValue
  | _ => Option Errno

/-- A program of such operations. -/
abbrev DsrMapM := Prog DsrMapCall DsrMapAnswer XdpMaps ConfigError

/-- Make a call. -/
def askMap (c : DsrMapCall) : DsrMapM (DsrMapAnswer c) := call c

/-- Throw if an operation has failed. -/
def checkMapOperation (operation : String) : Option Errno → DsrMapM Unit
  | none => pure ()
  | some error => raise (.mapOperation operation error)

/-- `DsrMapStore::writeBackend`. -/
def writeBackend (index : ℕ) (value : UdpDsrBackendValue) : DsrMapM Unit := do
  let (failure, left) ← askMap (.writeBackend index value)
  modify fun maps => { maps with backends := maps.backends.setIfInBounds index left }
  checkMapOperation s!"写入 backend index={index}" failure

/-- `DsrMapStore::writeConfig`. -/
def writeConfig (value : UdpDsrConfigValue) : DsrMapM Unit := do
  let (failure, left) ← askMap (.writeConfig value)
  modify fun maps => { maps with config := left }
  checkMapOperation "写入 cfg" failure

/-- `DsrMapStore::readBackend`. -/
def readBackend (index : ℕ) : DsrMapM UdpDsrBackendValue := do
  let failure ← askMap (.readBackend index)
  checkMapOperation s!"回读 backend index={index}" failure
  gets fun maps => (maps.backends[index]?).getD default

/-- `DsrMapStore::readConfig`. -/
def readConfig : DsrMapM UdpDsrConfigValue := do
  let failure ← askMap .readConfig
  checkMapOperation "回读 cfg" failure
  gets (·.config)

/-- `DsrMapStore::freezeBackends`. -/
def freezeBackends : DsrMapM Unit := do
  let failure ← askMap .freezeBackends
  checkMapOperation "freeze backends" failure

/-- `DsrMapStore::freezeConfig`. -/
def freezeConfig : DsrMapM Unit := do
  let failure ← askMap .freezeConfig
  checkMapOperation "freeze cfg" failure

/-- What makes `synchronizeDsrConfig` refuse a configuration. -/
def DsrConfiguration.Invalid (configuration : DsrConfiguration) : Prop :=
  let config := configuration.config
  config.schemaVersion ≠ L4LB_DSR_SCHEMA_VERSION ∨
    config.backendCount.toNat ≠ configuration.backends.length ∨ config.reserved ≠ 0 ∨
    config.vipPort = 0 ∨ notUnicast (ntohl config.vipAddress)

instance (configuration : DsrConfiguration) : Decidable configuration.Invalid :=
  inferInstanceAs (Decidable (_ ∨ _ ∨ _ ∨ _ ∨ _))

/-- What makes it refuse a backend. -/
def invalidDsrBackend (backend : UdpDsrBackendValue) : Prop :=
  backend.ifindex = 0 ∨ validMac backend.destinationMac = false ∨ validMac backend.sourceMac = false

instance (backend : UdpDsrBackendValue) : Decidable (invalidDsrBackend backend) :=
  inferInstanceAs (Decidable (_ ∨ _ ∨ _))

/-- `index < backends.size() ? backends[index] : UdpDsrBackendValue{}`. -/
def slotBackend (backends : List UdpDsrBackendValue) (index : ℕ) : UdpDsrBackendValue :=
  (backends[index]?).getD default

/-- A pass of the loop that reads the backends back. -/
def checkBackend (backends : List UdpDsrBackendValue) (index : ℕ) : DsrMapM Bool := do
  let actual ← readBackend index
  if actual ≠ slotBackend backends index then raise (.backendReadback index) else pure true

/-- `synchronizeDsrConfig`. -/
def synchronizeDsrConfig (configuration : DsrConfiguration) : DsrMapM Unit := do
  let backends := configuration.backends
  if backends.length > L4LB_DSR_MAX_BACKENDS then raise .tooManyBackends
  else if configuration.Invalid then raise .invalidDsrConfig
  else if ∃ backend ∈ backends, invalidDsrBackend backend then raise .invalidDsrBackend
  else
    forEach (fun index => do
      writeBackend index (slotBackend backends index)
      pure true) (List.range L4LB_DSR_MAX_BACKENDS)
    writeConfig configuration.config
    let actualConfig ← readConfig
    if actualConfig ≠ configuration.config then raise .configReadback
    else
      forEach (checkBackend backends) (List.range L4LB_DSR_MAX_BACKENDS)
      freezeBackends
      freezeConfig

end L4lb.Control
