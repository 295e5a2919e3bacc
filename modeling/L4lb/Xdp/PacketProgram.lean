import L4lb.Effect.Tree
import L4lb.Xdp.Schema

/-!
# The packet programs

`xdp_udp_dsr.bpf.c` and `xdp_udp_runtime.bpf.c`, as trees of what they do to their
frame, their maps and the kernel. Both make the same checks of a frame before they
look at their configuration, and hash it alike.

A frame is read byte by byte at offsets from `data`; a map value of the runtime
profile is read field by field where it lies in the kernel, and may be another's to
write. A call to a place that is not there has no answer.
-/

namespace L4lb.Xdp

open Effect

/-- What a program returns. -/
inductive XdpAction where
  /-- `XDP_DROP`. -/
  | drop
  /-- `XDP_PASS`. -/
  | pass
  /-- `XDP_REDIRECT`. -/
  | redirect
  deriving DecidableEq, Repr

/-- `XDP_REDIRECT`, as the redirect helper returns it. -/
def XDP_REDIRECT : ℤ := 4

/-- A field of a `UdpRuntimeSnapshot`; those of a backend take its slot, and the bytes
of its addresses their number. -/
inductive SnapshotField where
  /-- `schemaVersion`. -/
  | schemaVersion
  /-- `backendCount`. -/
  | backendCount
  /-- `generation`. -/
  | generation
  /-- `vipAddress`. -/
  | vipAddress
  /-- `vipPort`. -/
  | vipPort
  /-- `reserved`. -/
  | reserved
  /-- `backends[slot].ifindex`. -/
  | ifindex (slot : ℕ)
  /-- `backends[slot].destinationMac[index]`. -/
  | destinationMac (slot : ℕ) (index : Fin 6)
  /-- `backends[slot].sourceMac[index]`. -/
  | sourceMac (slot : ℕ) (index : Fin 6)
  deriving DecidableEq

/-- The type of a field. -/
abbrev SnapshotField.Value : SnapshotField → Type
  | .schemaVersion | .backendCount | .vipAddress | .ifindex _ => UInt32
  | .generation => UInt64
  | .vipPort | .reserved => UInt16
  | .destinationMac _ _ | .sourceMac _ _ => UInt8

/-- A field of a snapshot, if it is there. -/
def UdpRuntimeSnapshot.read (snapshot : UdpRuntimeSnapshot) : (field : SnapshotField) → Option field.Value
  | .schemaVersion => some snapshot.schemaVersion
  | .backendCount => some snapshot.backendCount
  | .generation => some snapshot.generation
  | .vipAddress => some snapshot.vipAddress
  | .vipPort => some snapshot.vipPort
  | .reserved => some snapshot.reserved
  | .ifindex slot => snapshot.backends[slot]?.map (·.ifindex)
  | .destinationMac slot index => snapshot.backends[slot]?.map (·.destinationMac.get index)
  | .sourceMac slot index => snapshot.backends[slot]?.map (·.sourceMac.get index)

/-- What a program asks for. -/
inductive XdpCall where
  /-- `ctx->data_end - ctx->data`. -/
  | frameLength
  /-- A byte of the frame. -/
  | load (offset : ℕ)
  /-- Write a byte of the frame. -/
  | store (offset : ℕ) (byte : UInt8)
  /-- Look up the statistics. -/
  | lookupStats (key : UInt32)
  /-- `__sync_fetch_and_add(&stats->counter, 1)`. -/
  | count (counter : XdpCounter)
  /-- `bpf_redirect`. -/
  | redirectPacket (ifindex : UInt32)
  /-- Look up `l4lb_cfg_v2`. -/
  | lookupConfig (key : UInt32)
  /-- Look up `l4lb_be_v2`. -/
  | lookupBackend (key : UInt32)
  /-- Look up `l4lb_active_v3`: the map in the slot. -/
  | lookupActive (key : UInt32)
  /-- Look up a map that was in the slot: whether its value is there. -/
  | lookupSnapshot (map : ℕ) (key : UInt32)
  /-- Read a field of the value of such a map. -/
  | read (map : ℕ) (field : SnapshotField)

/-- The answers. -/
abbrev XdpAnswer : XdpCall → Type
  | .frameLength => ℕ
  | .load _ => UInt8
  | .store _ _ | .count _ => Unit
  | .lookupStats _ | .lookupSnapshot _ _ => Bool
  | .redirectPacket _ => ℤ
  | .lookupConfig _ => Option UdpDsrConfigValue
  | .lookupBackend _ => Option UdpDsrBackendValue
  | .lookupActive _ => Option ℕ
  | .read _ field => field.Value

/-- A packet program. -/
abbrev XdpProgram := Tree XdpCall XdpAnswer

/-- Make a call. -/
def ask (c : XdpCall) : XdpProgram (XdpAnswer c) := Tree.ask c

/-! ### The frame -/

/-- `data[offset]`. -/
def load (offset : ℕ) : XdpProgram UInt8 := ask (.load offset)

/-- `((__u32)data[offset] << 8) | data[offset + 1]`. -/
def loadWord (offset : ℕ) : XdpProgram UInt32 := do
  let high ← load offset
  let low ← load (offset + 1)
  pure (high.toUInt32 <<< 8 ||| low.toUInt32)

/-- `__builtin_memcpy` of `n` bytes to a number. -/
def loadBytes (offset n : ℕ) : XdpProgram UInt32 :=
  (List.range n).foldlM (fun value i => do
    let byte ← load (offset + i)
    pure (value ||| byte.toUInt32 <<< (8 * i.toUInt32))) 0

/-- `__builtin_memcpy` of an address to the frame. -/
def storeMac (offset : ℕ) (byte : Fin 6 → XdpProgram UInt8) : XdpProgram Unit :=
  (List.finRange 6).forM fun index => do
    let value ← byte index
    ask (.store (offset + index) value)

/-- Bring the carries of a checksum round once. -/
def foldChecksum (checksum : UInt32) : UInt32 := (checksum &&& (0xffff : UInt32)) + (checksum >>> (16 : UInt32))

/-- The sum of the words of the header. -/
def sumHeader : XdpProgram UInt32 :=
  (List.range 10).foldlM (fun checksum i => do
    let word ← loadWord (14 + 2 * i)
    pure (checksum + word)) 0

/-- What makes a frame `unsupported` before the configuration is looked at. -/
def unsupportedFrame : XdpProgram Bool := do
  let length ← ask .frameLength
  -- Fixed headers first; every following byte access is covered by this bound.
  if 42 > length then pure true
  else if ← Tree.anyOf [(· != 8) <$> load 12, (· != 0) <$> load 13, (· != 0x45) <$> load 14,
      (· != 17) <$> load 23, (· &&& 0xbf != 0) <$> load 20, (· != 0) <$> load 21] then pure true
  else do
    let ipLength ← loadWord 16
    let udpLength ← loadWord 38
    if ipLength < 28 ∨ ipLength > 1500 ∨ 14 + ipLength.toNat > length ∨ udpLength ≠ ipLength - 20 then
      pure true
    else do
      let checksum ← sumHeader
      pure (foldChecksum (foldChecksum checksum) != 0xffff)

/-- The frame is not for the address and port. -/
def otherDestination (vipAddress : XdpProgram UInt32) (vipPort : XdpProgram UInt16) : XdpProgram Bool := do
  let address ← loadBytes 30 4
  let port ← loadBytes 36 2
  Tree.anyOf [(address != ·) <$> vipAddress, (port != ·.toUInt32) <$> vipPort]

/-- A step of the hash. -/
def hashByte (hash : UInt32) (byte : UInt8) : UInt32 := (hash ^^^ byte.toUInt32) * 16777619

/-- The hash of the addresses, ports and protocol. -/
def hashFlow : XdpProgram UInt32 := do
  let hash ← (List.range 12).foldlM (fun hash i => do
    let byte ← load (26 + i)
    pure (hashByte hash byte)) 2166136261
  pure (hashByte hash 17)

/-! ### The ends of a program -/

/-- Count and go on. -/
def count (counter : XdpCounter) : XdpProgram Unit := ask (.count counter)

/-- `pass`. -/
def passFrame : XdpProgram XdpAction := do
  count .passPackets
  pure .pass

/-- `unsupported`. -/
def unsupported : XdpProgram XdpAction := do
  count .unsupportedPackets
  passFrame

/-- `invalidConfig`. -/
def invalidConfig : XdpProgram XdpAction := do
  count .invalidConfigPackets
  passFrame

/-- Ask for the redirect, and rewrite the addresses if it was accepted. -/
def redirectFrame (ifindex : UInt32) (destinationMac sourceMac : Fin 6 → XdpProgram UInt8) :
    XdpProgram XdpAction := do
  let result ← ask (.redirectPacket ifindex)
  if result ≠ XDP_REDIRECT then do
    count .helperErrorPackets
    count .dropPackets
    pure .drop
  else do
    storeMac 0 destinationMac
    storeMac 6 sourceMac
    count .redirectRequests
    pure .redirect

/-! ### The static profile -/

/-- `config` is not one that can be used. -/
def UdpDsrConfigValue.Invalid (config : UdpDsrConfigValue) : Prop :=
  config.schemaVersion ≠ 2 ∨ config.backendCount > 64 ∨ config.reserved ≠ 0

instance (config : UdpDsrConfigValue) : Decidable config.Invalid :=
  inferInstanceAs (Decidable (_ ∨ _ ∨ _))

/-- `backend` is not one that can be used. -/
def UdpDsrBackendValue.Invalid (backend : UdpDsrBackendValue) : Prop :=
  backend.ifindex = 0 ∨ validMac backend.destinationMac = false ∨ validMac backend.sourceMac = false

instance (backend : UdpDsrBackendValue) : Decidable backend.Invalid :=
  inferInstanceAs (Decidable (_ ∨ _ ∨ _))

/-- What `xdp_udp_dsr` does with a frame that both profiles support. -/
def serveStatic (key : UInt32) : XdpProgram XdpAction := do
  match ← ask (.lookupConfig key) with
  | none => invalidConfig
  | some config =>
    if config.Invalid then invalidConfig
    else if ← otherDestination (pure config.vipAddress) (pure config.vipPort) then unsupported
    else if config.backendCount = 0 then do
      count .noBackendPackets
      passFrame
    else do
      let hash ← hashFlow
      match ← ask (.lookupBackend (hash % config.backendCount)) with
      | none => invalidConfig
      | some backend =>
        if backend.Invalid then invalidConfig
        else
          redirectFrame backend.ifindex (fun i => pure (backend.destinationMac.get i))
            fun i => pure (backend.sourceMac.get i)

/-- `xdp_udp_dsr`. -/
def xdp_udp_dsr : XdpProgram XdpAction := do
  if ← ask (.lookupStats 0) then do
    count .totalPackets
    if ← unsupportedFrame then unsupported
    else serveStatic 0
  else pure .pass

/-! ### The runtime profile -/

/-- `!validMac` of an address in the kernel. -/
def invalidMac (byte : Fin 6 → XdpProgram UInt8) : XdpProgram Bool := do
  let first ← byte 0
  if first &&& 1 != 0 then pure true
  else do
    let bits ← (List.finRange 6).foldlM (fun bits index => do
      let value ← byte index
      pure (bits ||| value)) 0
    pure (bits == 0)

/-- What `xdp_udp_rt` does with the map it found in the slot. -/
def serveSnapshot (map : ℕ) : XdpProgram XdpAction := do
  let field (f : SnapshotField) : XdpProgram f.Value := ask (.read map f)
  if ¬ (← ask (.lookupSnapshot map 0)) then invalidConfig
  else if ← Tree.anyOf [(· != 3) <$> field .schemaVersion, (· > 64) <$> field .backendCount,
      (· != 0) <$> field .reserved, (· == 0) <$> field .generation] then invalidConfig
  else if ← otherDestination (field .vipAddress) (field .vipPort) then unsupported
  else do
    let count' ← field .backendCount
    if count' = 0 then do
      count .noBackendPackets
      count .dropPackets
      pure .drop
    else do
      let hash ← hashFlow
      -- Count is already 1..64. The mask also exposes the bound to older verifiers.
      let slot := (hash % count' &&& 63).toNat
      if ← Tree.anyOf [(· == 0) <$> field (.ifindex slot), invalidMac fun i => field (.destinationMac slot i),
          invalidMac fun i => field (.sourceMac slot i)] then invalidConfig
      else do
        let ifindex ← field (.ifindex slot)
        redirectFrame ifindex (fun i => field (.destinationMac slot i)) fun i => field (.sourceMac slot i)

/-- `xdp_udp_rt`. -/
def xdp_udp_rt : XdpProgram XdpAction := do
  if ← ask (.lookupStats 0) then do
    count .totalPackets
    if ← unsupportedFrame then unsupported
    else
      match ← ask (.lookupActive 0) with
      | none => invalidConfig
      | some map => serveSnapshot map
  else pure .pass

end L4lb.Xdp
