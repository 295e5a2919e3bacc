import L4lb.Core.RoundRobinScheduler
import L4lb.Core.System
import L4lb.Text.Chars
import Mathlib.Data.List.DropRight

/-!
# The configuration

`Config.h` and the parser of `Config.cpp`: lines `key=value`, read one by one; the first line
that is wrong ends the parse, and what is missing is found at the end.
-/

namespace L4lb

open Text

/-- `Protocol`. -/
inductive Protocol where
  /-- `kTcp`. -/
  | tcp
  /-- `kUdp`. -/
  | udp
  deriving DecidableEq, Repr

/-- `MetricsKind`. -/
inductive MetricsKind where
  /-- `kOff`. -/
  | off
  /-- `kStderr`. -/
  | stderr
  deriving DecidableEq, Repr

/-- `HealthCheck`. -/
inductive HealthCheck where
  /-- `kOff`. -/
  | off
  /-- `kTcpConnect`. -/
  | tcpConnect
  deriving DecidableEq, Repr

/-- `Config`. -/
structure Config where
  /-- Where to listen. -/
  listen : Endpoint := {}
  /-- The backends, in the order of the file. -/
  backends : List Endpoint := []
  /-- The protocol. -/
  protocol : Protocol := .tcp
  /-- Where metrics go. -/
  metrics : MetricsKind := .off
  /-- How backends are checked. -/
  healthCheck : HealthCheck := .off
  /-- How backends are chosen. -/
  scheduler : SchedulerKind := .roundRobin
  deriving DecidableEq, Repr

/-- `ErrorKind`. -/
inductive ErrorKind where
  /-- `kFile`. -/
  | file
  /-- `kSyntax`. -/
  | syntaxError
  /-- `kField`. -/
  | field
  /-- `kMissing`. -/
  | missing
  deriving DecidableEq, Repr

/-- `ConfigError`. -/
structure ConfigError where
  /-- Of what kind. -/
  kind : ErrorKind
  /-- In which line. -/
  line : ℕ
  /-- It was found at the end. -/
  eof : Bool
  /-- What it says. -/
  message : String
  deriving DecidableEq, Repr

/-- `kMaxConfigBytes`. -/
def kMaxConfigBytes : ℕ := 65536

/-! ### Values -/

/-- A space or a tab. -/
def isBlank (c : UInt8) : Bool := c = 32 || c = 9

/-- `trimConfigWhitespace`. -/
def trimConfigWhitespace (value : Bytes) : Bytes := (value.dropWhile isBlank).rdropWhile isBlank

/-- A pass of the loop of `parseUnsignedDecimal`. -/
def addDecimalDigit (maximum result : ℕ) (character : UInt8) : Option ℕ :=
  if character < 48 ∨ character > 57 then none
  else
    let digit := character.toNat - 48
    if result > (maximum - digit) / 10 then none else some (result * 10 + digit)

/-- `parseUnsignedDecimal`. -/
def parseUnsignedDecimal (value : Bytes) (maximum : ℕ) : Option ℕ :=
  if value = [] ∨ value.length > 1 ∧ value.head? = some 48 then none
  else (value.foldlM (addDecimalDigit maximum) 0).filter (· ≤ maximum)

/-- The loop of `parseIpv4Endpoint` over the parts of an address. -/
def parseAddress (address : Bytes) : Option Address := do
  let (first, address) ← cut 46 address
  let a ← parseUnsignedDecimal first 255
  let (second, address) ← cut 46 address
  let b ← parseUnsignedDecimal second 255
  let (third, fourth) ← cut 46 address
  let c ← parseUnsignedDecimal third 255
  if 46 ∈ fourth then none
  else
    let d ← parseUnsignedDecimal fourth 255
    pure #v[a.toUInt8, b.toUInt8, c.toUInt8, d.toUInt8]

/-- An address that a listener or a backend may not have. -/
def isRefusedAddress (address : Address) (backend : Bool) : Bool :=
  (address.get 0 ≥ 224 && address.get 0 ≤ 239) || address = broadcastAddress || (backend && address = anyAddress)

/-- `parseIpv4Endpoint`. -/
def parseIpv4Endpoint (value : Bytes) (backend : Bool) : Option Endpoint := do
  let (addressText, portText) ← cut 58 value
  let port ← parseUnsignedDecimal portText 65535
  if port = 0 then none
  else
    let address ← parseAddress addressText
    if isRefusedAddress address backend then none else pure ⟨address, port.toUInt16⟩

/-! ### Lines -/

/-- The lines of a text, each with whether a line feed ends it. -/
def rawLines : Bytes → List (Bytes × Bool)
  | [] => []
  | x :: xs =>
    if x = 10 then ([], true) :: rawLines xs
    else
      match rawLines xs with
      | [] => [([x], false)]
      | (line, ended) :: rest => (x :: line, ended) :: rest

/-- A line without the `\r` of its `\r\n`. -/
def stripLine (line : Bytes × Bool) : Bytes :=
  if line.2 = true ∧ line.1.getLast? = some 13 then line.1.dropLast else line.1

/-- The lines that `parseConfig` looks at. -/
def configLines (text : Bytes) : List Bytes := (rawLines text).map stripLine

/-- Where `parseConfig` is. -/
structure ConfigParse where
  /-- The configuration so far. -/
  config : Config := {}
  /-- There was a `listen`. -/
  hasListen : Bool := false
  /-- There was a `protocol`. -/
  hasProtocol : Bool := false
  /-- There was a `scheduler`. -/
  hasScheduler : Bool := false
  /-- There was a `health_check`. -/
  hasHealth : Bool := false
  /-- There was a `metrics`. -/
  hasMetrics : Bool := false
  deriving DecidableEq, Repr

/-- An error of a line: its kind and what it says. -/
abbrev LineError := ErrorKind × String

namespace ConfigParse

/-- `protocol`. -/
def setProtocol (s : ConfigParse) (value : Bytes) : Except LineError ConfigParse :=
  if s.hasProtocol = true then .error (.field, "protocol 不能重复")
  else if value = literal "tcp" then
    .ok { s with config := { s.config with protocol := .tcp }, hasProtocol := true }
  else if value = literal "udp" then
    .ok { s with config := { s.config with protocol := .udp }, hasProtocol := true }
  else .error (.field, "protocol 仅支持 tcp/udp")

/-- `metrics`. -/
def setMetrics (s : ConfigParse) (value : Bytes) : Except LineError ConfigParse :=
  if s.hasMetrics = true then .error (.field, "metrics 不能重复")
  else if value = literal "off" then
    .ok { s with config := { s.config with metrics := .off }, hasMetrics := true }
  else if value = literal "stderr" then
    .ok { s with config := { s.config with metrics := .stderr }, hasMetrics := true }
  else .error (.field, "metrics 仅支持 off/stderr")

/-- `health_check`. -/
def setHealthCheck (s : ConfigParse) (value : Bytes) : Except LineError ConfigParse :=
  if s.hasHealth = true then .error (.field, "health_check 不能重复")
  else if value = literal "off" then
    .ok { s with config := { s.config with healthCheck := .off }, hasHealth := true }
  else if value = literal "tcp_connect" then
    .ok { s with config := { s.config with healthCheck := .tcpConnect }, hasHealth := true }
  else .error (.field, "health_check 仅支持 off/tcp_connect")

/-- `scheduler`. -/
def setScheduler (s : ConfigParse) (value : Bytes) : Except LineError ConfigParse :=
  if s.hasScheduler = true then .error (.field, "scheduler 不能重复")
  else if value ≠ literal "round_robin" then .error (.field, "scheduler 仅支持 round_robin")
  else .ok { s with config := { s.config with scheduler := .roundRobin }, hasScheduler := true }

/-- `listen`. -/
def setListen (s : ConfigParse) (value : Bytes) : Except LineError ConfigParse :=
  if s.hasListen = true then .error (.field, "listen 不能重复")
  else
    match parseIpv4Endpoint value false with
    | none => .error (.field, "无效的 IPv4 地址或端口")
    | some parsed => .ok { s with config := { s.config with listen := parsed }, hasListen := true }

/-- `backend`. -/
def addBackend (s : ConfigParse) (value : Bytes) : Except LineError ConfigParse :=
  match parseIpv4Endpoint value true with
  | none => .error (.field, "无效的 IPv4 地址或端口")
  | some parsed =>
    if s.config.backends.length = 256 then .error (.field, "backend 最多 256 个")
    else if parsed ∈ s.config.backends then .error (.field, "backend 端点不能重复")
    else .ok { s with config := { s.config with backends := s.config.backends ++ [parsed] } }

/-- A field. -/
def setField (s : ConfigParse) (key value : Bytes) : Except LineError ConfigParse :=
  if key = literal "protocol" then s.setProtocol value
  else if key = literal "metrics" then s.setMetrics value
  else if key = literal "health_check" then s.setHealthCheck value
  else if key = literal "scheduler" then s.setScheduler value
  else if key = literal "listen" then s.setListen value
  else if key = literal "backend" then s.addBackend value
  else .error (.field, "未知配置键")

/-- A line that is neither blank nor a comment. -/
def parseField (s : ConfigParse) (line : Bytes) : Except LineError ConfigParse :=
  match cut 61 line with
  | none => .error (.syntaxError, "每个字段必须恰有一个等号")
  | some (before, after) =>
    if 61 ∈ after then .error (.syntaxError, "每个字段必须恰有一个等号")
    else
      let key := trimConfigWhitespace before
      let value := trimConfigWhitespace after
      if key = [] ∨ value = [] then .error (.syntaxError, "键和值不能为空") else s.setField key value

/-- A pass of the loop of `parseConfig`. -/
def parseLine (s : ConfigParse) (line : Bytes) : Except LineError ConfigParse :=
  if 0 ∈ line ∨ 13 ∈ line ∨ [0xEF, 0xBB, 0xBF] <:+: line then
    .error (.syntaxError, "不允许 NUL、BOM 或孤立 CR")
  else
    let line := trimConfigWhitespace line
    if line = [] ∨ line.head? = some 35 then .ok s else s.parseField line

end ConfigParse

/-- The loop of `parseConfig`, after so many lines. -/
def parseConfigLines : ConfigParse → ℕ → List Bytes → Except ConfigError ConfigParse
  | s, _, [] => .ok s
  | s, lineNumber, line :: rest =>
    match s.parseLine line with
    | .error (kind, message) => .error ⟨kind, lineNumber + 1, false, message⟩
    | .ok s => parseConfigLines s (lineNumber + 1) rest

/-- `parseConfig`. -/
def parseConfig (text : Bytes) : Except ConfigError Config :=
  if text.length > kMaxConfigBytes then .error ⟨.file, 0, false, "配置超过 65536 字节"⟩
  else
    let lines := configLines text
    match parseConfigLines {} 0 lines with
    | .error e => .error e
    | .ok s =>
      if s.hasListen = false ∨ s.config.backends = [] then
        .error ⟨.missing, lines.length + 1, true, "必须包含一个 listen 和至少一个 backend"⟩
      else .ok s.config

/-- The text of the tests: a listener and a backend. -/
example : parseConfig (literal "listen=127.0.0.1:80\r\n # one\n backend = 10.0.0.1:8080") =
    .ok { listen := ⟨#v[127, 0, 0, 1], 80⟩, backends := [⟨#v[10, 0, 0, 1], 8080⟩] } := by
  decide +kernel

end L4lb
