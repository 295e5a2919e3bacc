import L4lb.Core.System

/-!
# What the data plane shares with the control plane

The map values of `UdpDsrSchema.h` and `UdpRuntimeSchema.h`. Addresses and ports are
kept as the bytes of the wire are read, the first in the low place.
-/

namespace L4lb.Xdp

/-- `L4LB_DSR_SCHEMA_VERSION`. -/
def L4LB_DSR_SCHEMA_VERSION : UInt32 := 2

/-- `L4LB_RUNTIME_SCHEMA_VERSION`. -/
def L4LB_RUNTIME_SCHEMA_VERSION : UInt32 := 3

/-- `L4LB_DSR_MAX_BACKENDS`. -/
def L4LB_DSR_MAX_BACKENDS : ℕ := 64

/-- `UdpDsrConfigValue`. -/
structure UdpDsrConfigValue where
  /-- The version of the layout. -/
  schemaVersion : UInt32
  /-- How many backends there are. -/
  backendCount : UInt32
  /-- The address served. -/
  vipAddress : UInt32
  /-- The port served. -/
  vipPort : UInt16
  /-- Zero. -/
  reserved : UInt16
  deriving DecidableEq, Repr

/-- `UdpDsrBackendValue`. -/
structure UdpDsrBackendValue where
  /-- The interface frames leave by. -/
  ifindex : UInt32
  /-- The address they go to. -/
  destinationMac : Mac
  /-- The address they are from. -/
  sourceMac : Mac
  deriving DecidableEq, Repr

instance : Inhabited UdpDsrBackendValue := ⟨⟨0, .replicate 6 0, .replicate 6 0⟩⟩

/-- `UdpRuntimeSnapshot`: a whole configuration, written once and never changed. -/
structure UdpRuntimeSnapshot where
  /-- The version of the layout. -/
  schemaVersion : UInt32
  /-- How many backends there are. -/
  backendCount : UInt32
  /-- The number of the configuration. -/
  generation : UInt64
  /-- The address served. -/
  vipAddress : UInt32
  /-- The port served. -/
  vipPort : UInt16
  /-- Zero. -/
  reserved : UInt16
  /-- The backends, then zeros. -/
  backends : Vector UdpDsrBackendValue 64
  deriving DecidableEq, Repr

instance : Inhabited UdpRuntimeSnapshot := ⟨⟨0, 0, 0, 0, 0, 0, .replicate 64 default⟩⟩

/-- The fields of `UdpDsrStatsValue`. -/
inductive XdpCounter where
  /-- `totalPackets`. -/
  | totalPackets
  /-- `passPackets`. -/
  | passPackets
  /-- `redirectRequests`. -/
  | redirectRequests
  /-- `dropPackets`. -/
  | dropPackets
  /-- `unsupportedPackets`. -/
  | unsupportedPackets
  /-- `noBackendPackets`. -/
  | noBackendPackets
  /-- `invalidConfigPackets`. -/
  | invalidConfigPackets
  /-- `helperErrorPackets`. -/
  | helperErrorPackets
  deriving DecidableEq, Repr

/-- `UdpDsrStatsValue`. -/
abbrev UdpDsrStatsValue := XdpCounter → UInt64

/-- `validMac`: an address of one station, and not all zeros. -/
def validMac (mac : Mac) : Bool :=
  mac[0] &&& 1 == 0 && mac[0] ||| mac[1] ||| mac[2] ||| mac[3] ||| mac[4] ||| mac[5] != 0

/-- What `validMac` is for: a unicast address that is not zero. -/
structure UnicastMac (mac : Mac) : Prop where
  /-- The group bit is off. -/
  unicast : mac[0].toNat % 2 = 0
  /-- Not all of it is zero. -/
  nonzero : mac ≠ .replicate 6 0

theorem validMac_iff (mac : Mac) : validMac mac = true ↔ UnicastMac mac := by
  have hbit : ∀ b : UInt8, b &&& 1 = 0 ↔ b.toNat % 2 = 0 := by
    intro b
    rw [← UInt8.toNat_inj, UInt8.toNat_and]
    exact Nat.and_one_is_mod b.toNat ▸ Iff.rfl
  have hor : ∀ a b : UInt8, a ||| b = 0 ↔ a = 0 ∧ b = 0 := by
    intro a b
    simp only [← UInt8.toNat_inj, UInt8.toNat_or]
    exact Nat.or_eq_zero_iff
  have hzero : mac = .replicate 6 0 ↔
      mac[0] = 0 ∧ mac[1] = 0 ∧ mac[2] = 0 ∧ mac[3] = 0 ∧ mac[4] = 0 ∧ mac[5] = 0 := by
    rw [Vector.ext_iff]
    constructor
    · intro h
      refine ⟨?_, ?_, ?_, ?_, ?_, ?_⟩ <;> rw [h] <;> rfl
    · rintro ⟨h0, h1, h2, h3, h4, h5⟩ i hi
      have : i = 0 ∨ i = 1 ∨ i = 2 ∨ i = 3 ∨ i = 4 ∨ i = 5 := by omega
      rcases this with rfl | rfl | rfl | rfl | rfl | rfl <;> simpa
  simp only [validMac, Bool.and_eq_true, beq_iff_eq, bne_iff_ne, hbit, ne_eq, hor]
  constructor
  · rintro ⟨h, hn⟩
    refine ⟨h, fun hz => hn ?_⟩
    obtain ⟨h0, h1, h2, h3, h4, h5⟩ := hzero.mp hz
    exact ⟨⟨⟨⟨⟨h0, h1⟩, h2⟩, h3⟩, h4⟩, h5⟩
  · rintro ⟨h, hn⟩
    refine ⟨h, ?_⟩
    rintro ⟨⟨⟨⟨⟨h0, h1⟩, h2⟩, h3⟩, h4⟩, h5⟩
    exact hn (hzero.mpr ⟨h0, h1, h2, h3, h4, h5⟩)

end L4lb.Xdp
