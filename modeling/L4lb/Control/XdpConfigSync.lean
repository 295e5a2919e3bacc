import L4lb.Core.System
import L4lb.Text.Chars

/-!
# Endpoints in text

`parseXdpBackends` of `XdpConfigSync.cpp`, and what the parsers of configurations throw.
Addresses and ports are kept in the order of the wire, the first byte in the low place.
-/

namespace L4lb.Control

open Text

/-- What the parsers and checks of configurations throw. -/
inductive ConfigError where
  /-- `后端最多 64 个`. -/
  | tooManyBackends
  /-- `后端必须为 IPv4:PORT`. -/
  | endpointForm (endpoint : Bytes)
  /-- `无效 IPv4 后端`. -/
  | invalidEndpoint (endpoint : Bytes)
  /-- `后端必须为 IPv4 单播地址`. -/
  | notUnicastEndpoint (endpoint : Bytes)
  /-- `重复后端`. -/
  | duplicateEndpoint (endpoint : Bytes)
  /-- `target 必须为 EGRESS@MAC`. -/
  | targetForm
  /-- `MAC 必须为六组两位十六进制`. -/
  | macLength
  /-- `无效 MAC`. -/
  | invalidMac (mac : Bytes)
  /-- `MAC 必须为非零单播`. -/
  | notUnicastMac (mac : Bytes)
  /-- `无效接口名称`. -/
  | interfaceName (name : Bytes)
  /-- `无法打开接口查询 socket`. -/
  | interfaceSocket
  /-- `接口不存在`. -/
  | noInterface (name : Bytes)
  /-- `接口必须 UP`. -/
  | interfaceDown (name : Bytes)
  /-- `接口 MTU 必须至少1500`. -/
  | interfaceMtu (name : Bytes)
  /-- `接口必须为 Ethernet`. -/
  | notEthernet (name : Bytes)
  /-- `接口 MAC 无效`. -/
  | interfaceMac (name : Bytes)
  /-- `出口不能等于入口`. -/
  | egressIsIngress
  /-- `重复 target`. -/
  | duplicateTarget
  /-- `无效 DSR 配置`. -/
  | invalidDsrConfig
  /-- `无效 DSR backend`. -/
  | invalidDsrBackend
  /-- A map operation failed: `throwMapSystemError`. -/
  | mapOperation (operation : String) (error : Errno)
  /-- `cfg 回读不一致`. -/
  | configReadback
  /-- `backend 回读不一致`. -/
  | backendReadback (index : ℕ)
  /-- `runtime 配置超过64KiB`. -/
  | textTooLong
  /-- `runtime 配置必须为有效 ASCII 文本`. -/
  | textNotAscii
  /-- `runtime 配置超过256行`. -/
  | tooManyLines
  /-- `runtime 配置行过长或含裸CR`. -/
  | invalidLine
  /-- `schema 重复或存在额外字段`. -/
  | schemaLine
  /-- `未知或不完整 runtime 配置行`. -/
  | unknownLine
  /-- `target 缺少 EGRESS@MAC`. -/
  | targetLink
  /-- `无效 target ID`. -/
  | targetId
  /-- `无效 target 出口`. -/
  | targetEgress
  /-- `无效 target MAC`. -/
  | targetMac
  /-- `target MAC 必须为单播`. -/
  | targetMacUnicast
  /-- `target MAC 不能全零`. -/
  | targetMacZero
  /-- `重复 target ID`. -/
  | duplicateTargetId
  /-- `target 超过64个`. -/
  | tooManyTargets
  /-- `缺少 schema=1`. -/
  | noSchema
  /-- `无法打开 runtime 配置`. -/
  | fileOpen (error : Errno)
  /-- `runtime 配置必须为不超过64KiB的普通文件`. -/
  | fileKind
  /-- `读取 runtime 配置失败`. -/
  | fileRead
  /-- `runtime 配置读取时超过64KiB`. -/
  | fileTooLong
  /-- `runtime 配置读取期间变化，请原子替换后重试`. -/
  | fileChanged
  /-- `probe 必须使用独立地址，不能是共享VIP`. -/
  | probeIsVip
  /-- `重复出口探测端点`. -/
  | duplicateProbe
  deriving DecidableEq, Repr

/-- `what()`. -/
def ConfigError.what : ConfigError → Bytes
  | .tooManyBackends => literal "后端最多 64 个"
  | .endpointForm endpoint => literal "后端必须为 IPv4:PORT：" ++ endpoint
  | .invalidEndpoint endpoint => literal "无效 IPv4 后端：" ++ endpoint
  | .notUnicastEndpoint endpoint => literal "后端必须为 IPv4 单播地址：" ++ endpoint
  | .duplicateEndpoint endpoint => literal "重复后端：" ++ endpoint
  | .targetForm => literal "target 必须为 EGRESS@MAC"
  | .macLength => literal "MAC 必须为六组两位十六进制"
  | .invalidMac mac => literal "无效 MAC：" ++ mac
  | .notUnicastMac mac => literal "MAC 必须为非零单播：" ++ mac
  | .interfaceName name => literal "无效接口名称：" ++ name
  | .interfaceSocket => literal "无法打开接口查询 socket"
  | .noInterface name => literal "接口不存在：" ++ name
  | .interfaceDown name => literal "接口必须 UP：" ++ name
  | .interfaceMtu name => literal "接口 MTU 必须至少1500：" ++ name
  | .notEthernet name => literal "接口必须为 Ethernet：" ++ name
  | .interfaceMac name => literal "接口 MAC 无效：" ++ name
  | .egressIsIngress => literal "出口不能等于入口"
  | .duplicateTarget => literal "重复 target"
  | .invalidDsrConfig => literal "无效 DSR 配置"
  | .invalidDsrBackend => literal "无效 DSR backend"
  | .mapOperation operation error => literal s!"{operation} errno={error}: "
  | .configReadback => literal "cfg 回读不一致"
  | .backendReadback index => literal s!"backend 回读不一致 index={index}"
  | .textTooLong => literal "runtime 配置超过64KiB"
  | .textNotAscii => literal "runtime 配置必须为有效 ASCII 文本"
  | .tooManyLines => literal "runtime 配置超过256行"
  | .invalidLine => literal "runtime 配置行过长或含裸CR"
  | .schemaLine => literal "schema 重复或存在额外字段"
  | .unknownLine => literal "未知或不完整 runtime 配置行"
  | .targetLink => literal "target 缺少 EGRESS@MAC"
  | .targetId => literal "无效 target ID"
  | .targetEgress => literal "无效 target 出口"
  | .targetMac => literal "无效 target MAC"
  | .targetMacUnicast => literal "target MAC 必须为单播"
  | .targetMacZero => literal "target MAC 不能全零"
  | .duplicateTargetId => literal "重复 target ID"
  | .tooManyTargets => literal "target 超过64个"
  | .noSchema => literal "缺少 schema=1"
  | .fileOpen _ => literal "无法打开 runtime 配置："
  | .fileKind => literal "runtime 配置必须为不超过64KiB的普通文件"
  | .fileRead => literal "读取 runtime 配置失败"
  | .fileTooLong => literal "runtime 配置读取时超过64KiB"
  | .fileChanged => literal "runtime 配置读取期间变化，请原子替换后重试"
  | .probeIsVip => literal "probe 必须使用独立地址，不能是共享VIP"
  | .duplicateProbe => literal "重复出口探测端点"

/-! ### The order of the wire -/

/-- An address, as its bytes are copied to a number. -/
def wireAddress (a : Address) : UInt32 :=
  ((a.get 0).toNat + (a.get 1).toNat * 256 + (a.get 2).toNat * 65536 + (a.get 3).toNat * 16777216).toUInt32

/-- `ntohl`. -/
def ntohl (x : UInt32) : UInt32 :=
  (x.toNat % 256 * 16777216 + x.toNat / 256 % 256 * 65536 + x.toNat / 65536 % 256 * 256 +
    x.toNat / 16777216).toUInt32

/-- `htons`. -/
def htons (x : UInt16) : UInt16 := (x.toNat % 256 * 256 + x.toNat / 256).toUInt16

theorem ntohl_zero : ntohl 0 = 0 := rfl

theorem htons_ne_zero {x : UInt16} (h : x ≠ 0) : htons x ≠ 0 := by
  have hx := x.toNat_lt
  have hpos : x.toNat ≠ 0 := fun hz => h (UInt16.toNat_inj.mp hz)
  intro hz
  have hnat := congrArg UInt16.toNat hz
  rw [htons, Nat.toUInt16, UInt16.toNat_ofNat_of_lt' (by simp only [UInt16.size]; omega)] at hnat
  simp only [UInt16.toNat_zero] at hnat
  omega

/-! ### Backends -/

/-- `XdpBackendValue`. -/
structure XdpBackendValue where
  /-- The address. -/
  address : UInt32
  /-- The port. -/
  port : UInt16
  /-- Zero. -/
  reserved : UInt16 := 0
  deriving DecidableEq, Repr

/-- An address that no station has: none, all or many. -/
def notUnicast (hostAddress : UInt32) : Prop :=
  hostAddress = 0 ∨ hostAddress = 0xffffffff ∨ hostAddress &&& 0xf0000000 = 0xe0000000

instance (hostAddress : UInt32) : Decidable (notUnicast hostAddress) :=
  inferInstanceAs (Decidable (_ ∨ _ ∨ _))

/-- A pass of the loop of `parseXdpBackends`, but for the duplicates. -/
def parseXdpBackend (endpoint : Bytes) : Except ConfigError XdpBackendValue :=
  match cut 58 endpoint with
  | none => .error (.endpointForm endpoint)
  | some (address, portText) =>
    match inetPton (cString address), number 10 portText with
    | some a, some port =>
      if port = 0 ∨ port > 65535 then .error (.invalidEndpoint endpoint)
      else if notUnicast (ntohl (wireAddress a)) then .error (.notUnicastEndpoint endpoint)
      else .ok { address := wireAddress a, port := htons port.toUInt16 }
    | _, _ => .error (.invalidEndpoint endpoint)

/-- The loop of `parseXdpBackends`, after the backends `seen`. -/
def parseXdpBackendsFrom (seen : List XdpBackendValue) : List Bytes → Except ConfigError (List XdpBackendValue)
  | [] => .ok seen
  | endpoint :: endpoints => do
    let backend ← parseXdpBackend endpoint
    if (backend.address, backend.port) ∈ seen.map (fun b => (b.address, b.port)) then
      .error (.duplicateEndpoint endpoint)
    else parseXdpBackendsFrom (seen ++ [backend]) endpoints

/-- `parseXdpBackends`. -/
def parseXdpBackends (endpoints : List Bytes) : Except ConfigError (List XdpBackendValue) :=
  if endpoints.length > 64 then .error .tooManyBackends else parseXdpBackendsFrom [] endpoints

/-- Of one endpoint. -/
theorem parseXdpBackends_singleton (endpoint : Bytes) :
    parseXdpBackends [endpoint] = (parseXdpBackend endpoint).map fun b => [b] := by
  unfold parseXdpBackends
  rw [if_neg (by simp)]
  unfold parseXdpBackendsFrom
  cases parseXdpBackend endpoint <;> rfl

/-- An endpoint that is accepted has the address of a station, and a port. -/
theorem parseXdpBackend_ok {endpoint : Bytes} {backend : XdpBackendValue}
    (h : parseXdpBackend endpoint = .ok backend) :
    ¬ notUnicast (ntohl backend.address) ∧ backend.address ≠ 0 ∧ backend.port ≠ 0 := by
  unfold parseXdpBackend at h
  split at h
  · cases h
  split at h
  · rename_i a port _ hport
    split_ifs at h with hrange hunicast
    cases h
    refine ⟨hunicast, fun hz => hunicast (Or.inl ?_), htons_ne_zero fun hz => ?_⟩
    · dsimp only at hz
      rw [hz, ntohl_zero]
    · have hnat := congrArg UInt16.toNat hz
      rw [Nat.toUInt16, UInt16.toNat_ofNat_of_lt' (by simp only [UInt16.size]; omega)] at hnat
      simp only [UInt16.toNat_zero] at hnat
      omega
  · cases h

end L4lb.Control
