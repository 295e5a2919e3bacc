import L4lb.Control.DsrConfigSync
import L4lb.Xdp.SnapshotAtomicity

/-!
# The two data planes agree

A configuration that `synchronizeDsrConfig` accepted, in the maps of the static profile
and as a snapshot of the runtime profile: both packet programs make the same of every
frame, but for one end. Without a backend the static profile passes what the runtime
profile drops.
-/

namespace L4lb.Control

open Effect Effect.Prog Xdp

/-! ### What the maps hold -/

/-- The maps hold a configuration that can be used. -/
structure Synchronized (configuration : DsrConfiguration) (maps : XdpMaps) : Prop where
  /-- No more backends than fit. -/
  length_le : configuration.backends.length ≤ 64
  /-- The configuration is not refused. -/
  valid : ¬ configuration.Invalid
  /-- Nor is one of its backends. -/
  backends_valid : ∀ backend ∈ configuration.backends, ¬ backend.Invalid
  /-- The configuration map has it. -/
  config : maps.config = configuration.config
  /-- The backend map has its backends, and then zeros. -/
  backends : ∀ index < 64, maps.backends[index]? = some (slotBackend configuration.backends index)

/-- Every run, and what it ends in. -/
abbrev Syncs {α : Type} (m : DsrMapM α) (maps : XdpMaps) (Q : α → XdpMaps → Prop) : Prop :=
  Runs (fun _ _ => True) (fun _ _ => True) m maps Q

theorem syncs_checkMapOperation (operation : String) (failure : Option Errno) (maps : XdpMaps) :
    Syncs (checkMapOperation operation failure) maps fun _ maps' => maps' = maps := by
  cases failure with
  | none => exact Runs.pure rfl
  | some error => exact Runs.raise trivial

/-- What is read is what is there. -/
theorem syncs_readBackend (index : ℕ) (maps : XdpMaps) :
    Syncs (readBackend index) maps fun actual maps' =>
      maps' = maps ∧ actual = (maps.backends[index]?).getD default := by
  refine Runs.call_bind fun failure => ?_
  refine (syncs_checkMapOperation _ failure maps).bind ?_
  rintro - maps' - rfl
  exact Runs.gets ⟨rfl, rfl⟩

theorem syncs_readConfig (maps : XdpMaps) :
    Syncs readConfig maps fun actual maps' => maps' = maps ∧ actual = maps.config := by
  refine Runs.call_bind fun failure => ?_
  refine (syncs_checkMapOperation _ failure maps).bind ?_
  rintro - maps' - rfl
  exact Runs.gets ⟨rfl, rfl⟩

/-- A backend that was read back is in its slot. -/
theorem syncs_checkBackend (backends : List UdpDsrBackendValue) {index : ℕ} (hindex : index < 64)
    (maps : XdpMaps) :
    Syncs (checkBackend backends index) maps fun go maps' =>
      go = true ∧ maps' = maps ∧ maps.backends[index]? = some (slotBackend backends index) := by
  refine (syncs_readBackend index maps).bind ?_
  rintro actual maps' - ⟨rfl, rfl⟩
  have hsome : maps'.backends[index]? = some maps'.backends[index] := Vector.getElem?_eq_getElem hindex
  rw [hsome, Option.getD_some]
  refine Runs.ite (fun _ => Runs.raise trivial) fun hsame => Runs.pure ⟨rfl, rfl, ?_⟩
  rw [not_not.mp hsame]

/-- **What `synchronizeDsrConfig` accepts is in the maps**, whatever the writes have left. -/
theorem syncs_synchronizeDsrConfig (configuration : DsrConfiguration) (maps : XdpMaps) :
    Syncs (synchronizeDsrConfig configuration) maps fun _ maps' => Synchronized configuration maps' := by
  unfold synchronizeDsrConfig
  refine Runs.ite (fun _ => Runs.raise trivial) fun hlength => Runs.ite (fun _ => Runs.raise trivial)
    fun hvalid => Runs.ite (fun _ => Runs.raise trivial) fun hbackends => ?_
  -- the writes may leave anything
  refine Runs.bind (Q := fun _ _ => True) (Runs.forEach (fun _ => True) _ (fun index _ maps₁ _ => ?_) trivial) ?_
  · refine Runs.bind (Q := fun _ _ => True) ?_ fun _ _ _ _ => Runs.pure trivial
    refine Runs.call_bind fun r => Runs.modify_bind (.single trivial) ?_
    exact (syncs_checkMapOperation _ _ _).post fun _ _ _ _ => trivial
  rintro - maps₁ - -
  refine Runs.bind (Q := fun _ _ => True) ?_ ?_
  · refine Runs.call_bind fun r => Runs.modify_bind (.single trivial) ?_
    exact (syncs_checkMapOperation _ _ _).post fun _ _ _ _ => trivial
  rintro - maps₂ - -
  -- what is read back is what was meant
  refine (syncs_readConfig maps₂).bind ?_
  rintro actual maps₃ - ⟨rfl, rfl⟩
  refine Runs.ite (fun _ => Runs.raise trivial) fun hconfig => ?_
  refine Runs.bind (Runs.forEach_all (fun done s => s = maps₃ ∧
    ∀ index ∈ done, maps₃.backends[index]? = some (slotBackend configuration.backends index))
    (List.range L4LB_DSR_MAX_BACKENDS) (fun done index hindex s => ?_) [] ⟨rfl, by simp⟩) ?_
  · rintro ⟨rfl, hdone⟩
    refine (syncs_checkBackend _ (List.mem_range.mp hindex) s).post ?_
    rintro go s' - ⟨rfl, rfl, hslot⟩
    refine ⟨rfl, rfl, fun i hi => ?_⟩
    rcases List.mem_append.mp hi with hi | hi
    · exact hdone i hi
    · rw [List.mem_singleton.mp hi, hslot]
  rintro - maps₄ - ⟨rfl, hslots⟩
  have hsynchronized : Synchronized configuration maps₄ := by
    refine ⟨not_lt.mp hlength, hvalid, fun backend hbackend hbad => hbackends ⟨backend, hbackend, hbad⟩,
      not_not.mp hconfig, fun index hindex => hslots index ?_⟩
    rw [List.nil_append]
    exact List.mem_range.mpr hindex
  refine Runs.bind (Q := fun _ s => s = maps₄) ?_ ?_
  · exact Runs.call_bind fun failure => syncs_checkMapOperation _ failure maps₄
  rintro - maps₅ - rfl
  refine Runs.call_bind fun failure => (syncs_checkMapOperation _ failure maps₅).post ?_
  rintro - maps₆ - rfl
  exact hsynchronized

/-! ### The same configuration as a snapshot -/

/-- The snapshot of a configuration. -/
def DsrConfiguration.snapshot (configuration : DsrConfiguration) (generation : UInt64) : UdpRuntimeSnapshot where
  schemaVersion := L4LB_RUNTIME_SCHEMA_VERSION
  backendCount := configuration.backends.length.toUInt32
  generation := generation
  vipAddress := configuration.config.vipAddress
  vipPort := configuration.config.vipPort
  reserved := 0
  backends := .ofFn fun index => slotBackend configuration.backends index

section Agree

variable {configuration : DsrConfiguration} {maps : XdpMaps} {generation : UInt64}

theorem Synchronized.count (h : Synchronized configuration maps) :
    maps.config.backendCount = configuration.backends.length.toUInt32 := by
  have hle := h.length_le
  have hcount : configuration.config.backendCount.toNat = configuration.backends.length := by
    by_contra hne
    exact h.valid (Or.inr (Or.inl hne))
  rw [h.config, ← UInt32.toNat_inj, hcount, Nat.toUInt32, UInt32.toNat_ofNat_of_lt' (by simp only [UInt32.size]; omega)]

theorem Synchronized.config_valid (h : Synchronized configuration maps) : ¬ maps.config.Invalid := by
  have hle := h.length_le
  have hvalid := h.valid
  simp only [DsrConfiguration.Invalid, not_or, not_not] at hvalid
  obtain ⟨hversion, hcount, hreserved, -, -⟩ := hvalid
  rw [h.config]
  rintro (hv | hc | hr)
  · exact hv hversion
  · rw [gt_iff_lt, UInt32.lt_iff_toNat_lt, hcount] at hc
    exact absurd hc (by simp only [UInt32.reduceToNat]; omega)
  · exact hr hreserved

theorem Synchronized.snapshot_valid (h : Synchronized configuration maps) (hgeneration : generation ≠ 0) :
    ¬ (configuration.snapshot generation).Invalid := by
  have hvalid := h.config_valid
  rintro (hv | hc | hr | hg)
  · exact hv rfl
  · rw [DsrConfiguration.snapshot, ← h.count] at hc
    exact hvalid (Or.inr (Or.inl hc))
  · exact hr rfl
  · exact hgeneration hg

/-- Where the backends of a flow are, in both. -/
theorem Synchronized.chosen (h : Synchronized configuration maps) (generation : UInt64) (frame : Bytes)
    (hpos : maps.config.backendCount ≠ 0) :
    snapshotBackend (configuration.snapshot generation) frame = chosenBackend maps frame ∧
      chosenBackend maps frame ∈ configuration.backends := by
  have hlt := toNat_mod_lt (flowHash frame) hpos fun hgt => h.config_valid (Or.inr (Or.inl hgt))
  have hlength : configuration.backends.length < 2 ^ 32 := h.length_le.trans_lt (by decide)
  have hslot : flowSlot (configuration.snapshot generation) frame =
      (flowHash frame % maps.config.backendCount).toNat := by
    rw [flowSlot, DsrConfiguration.snapshot, ← h.count, UInt32.toNat_and]
    exact (Nat.and_two_pow_sub_one_eq_mod _ 6).trans (Nat.mod_eq_of_lt hlt)
  have hchosen : chosenBackend maps frame =
      slotBackend configuration.backends (flowHash frame % maps.config.backendCount).toNat := by
    rw [chosenBackend, h.backends _ hlt, Option.getD_some]
  have hindex : (flowHash frame % maps.config.backendCount).toNat < configuration.backends.length := by
    rw [UInt32.toNat_mod]
    have hcount : maps.config.backendCount.toNat = configuration.backends.length := by
      rw [h.count, Nat.toUInt32, UInt32.toNat_ofNat_of_lt' hlength]
    rw [hcount]
    refine Nat.mod_lt _ (Nat.pos_of_ne_zero fun hz => hpos ?_)
    rw [← UInt32.toNat_inj, hcount, hz]
    rfl
  constructor
  · rw [snapshotBackend, hslot, hchosen]
    have hsome : (configuration.snapshot generation).backends[_]? = _ := Vector.getElem?_eq_getElem hlt
    rw [hsome, Option.getD_some, DsrConfiguration.snapshot, Vector.getElem_ofFn]
  · rw [hchosen, slotBackend, List.getElem?_eq_getElem hindex, Option.getD_some]
    exact List.getElem_mem hindex

/-- **The two profiles make the same of every frame**, and never find the configuration invalid. -/
theorem Synchronized.verdict (h : Synchronized configuration maps) (hgeneration : generation ≠ 0)
    (frame : Bytes) :
    staticVerdict maps frame = runtimeVerdict (some (configuration.snapshot generation)) frame ∧
      staticVerdict maps frame ≠ .invalidConfig ∧
      (staticVerdict maps frame = .noBackend ↔ Ipv4Udp frame ∧
        DestinedTo frame configuration.config.vipAddress configuration.config.vipPort ∧
        configuration.backends = []) := by
  have hzero : maps.config.backendCount = 0 ↔ configuration.backends = [] := by
    have hlt : configuration.backends.length < 2 ^ 32 := h.length_le.trans_lt (by decide)
    rw [h.count, ← UInt32.toNat_inj, Nat.toUInt32, UInt32.toNat_ofNat_of_lt' hlt]
    exact List.length_eq_zero_iff
  have hcount : (configuration.snapshot generation).backendCount = maps.config.backendCount := h.count.symm
  have haddress : (configuration.snapshot generation).vipAddress = maps.config.vipAddress := by
    rw [h.config]
    rfl
  have hport : (configuration.snapshot generation).vipPort = maps.config.vipPort := by
    rw [h.config]
    rfl
  have hvalid := h.config_valid
  have hsnapshot := h.snapshot_valid hgeneration
  unfold staticVerdict runtimeVerdict
  simp only [hvalid, hsnapshot, if_false, haddress, hport, hcount, ← h.config]
  by_cases hframe : Ipv4Udp frame
  swap
  · simp [hframe]
  by_cases hdest : DestinedTo frame maps.config.vipAddress maps.config.vipPort
  swap
  · simp [hframe, hdest]
  by_cases hempty : maps.config.backendCount = 0
  · simp [hframe, hdest, hempty, hzero.mp hempty]
  obtain ⟨hsame, hmem⟩ := h.chosen generation frame hempty
  have hbackend := h.backends_valid _ hmem
  have hne : configuration.backends ≠ [] := fun hnil => hempty (hzero.mpr hnil)
  simp [hframe, hdest, hempty, hsame, hbackend, hne]

end Agree

/-- The maps with a snapshot in the slot of the runtime profile. -/
def install (maps : XdpMaps) (map : ℕ) (snapshot : UdpRuntimeSnapshot) : XdpMaps :=
  { maps with active := some map, snapshots := Function.update maps.snapshots map snapshot }

/-- **The two data planes agree.** Whatever configuration `synchronizeDsrConfig` accepts,
in the maps as it left them and in the slot as a snapshot: for every frame and whatever the
redirect helper answers, both programs end alike, with the same frame and the same
counts, unless the frame is one of the service and there is no backend; then the static
profile passes it and the runtime profile drops it, each having counted so. The
configuration is never counted invalid. -/
theorem profiles_agree {configuration : DsrConfiguration} {maps : XdpMaps}
    {script : List (Answerer DsrMapCall DsrMapAnswer)} {world : World DsrMapCall DsrMapAnswer XdpMaps}
    (h : synchronizeDsrConfig configuration ⟨script, maps⟩ = (.ok (), world)) {generation : UInt64}
    (hgeneration : generation ≠ 0) (map : ℕ) (helper : UInt32 → ℤ) (s : PacketState) :
    let plane := install world.state map (configuration.snapshot generation)
    let NoBackend := Ipv4Udp s.frame ∧
      DestinedTo s.frame configuration.config.vipAddress configuration.config.vipPort ∧
      configuration.backends = []
    ∃ a s₁ b s₂, xdp_udp_dsr.run (answer plane helper) s = some (a, s₁) ∧
      xdp_udp_rt.run (answer plane helper) s = some (b, s₂) ∧
      (¬ NoBackend → a = b ∧ s₁ = s₂) ∧
      (NoBackend → a = .pass ∧ b = .drop ∧
        s₁ = ((s.counted .totalPackets).counted .noBackendPackets).counted .passPackets ∧
        s₂ = ((s.counted .totalPackets).counted .noBackendPackets).counted .dropPackets) ∧
      ∃ counts, s₁.counts = counts ++ s.counts ∧ .invalidConfigPackets ∉ counts := by
  intro plane NoBackend
  obtain ⟨-, hsynchronized⟩ := (syncs_synchronizeDsrConfig configuration maps).of_ok h
  have hplane : Synchronized configuration plane :=
    ⟨hsynchronized.length_le, hsynchronized.valid, hsynchronized.backends_valid, hsynchronized.config,
      hsynchronized.backends⟩
  have hactive : plane.activeSnapshot = some (configuration.snapshot generation) := by
    simp [plane, install, XdpMaps.activeSnapshot]
  obtain ⟨hsame, hvalid, hno⟩ := hplane.verdict hgeneration s.frame
  refine ⟨_, _, _, _, run_xdp_udp_dsr, run_xdp_udp_rt, ?_⟩
  rw [hactive, ← hsame]
  cases hverdict : staticVerdict plane s.frame with
  | invalidConfig => exact absurd hverdict hvalid
  | noBackend =>
    have hempty : NoBackend := hno.mp hverdict
    refine ⟨fun hn => absurd hempty hn, fun _ => ⟨rfl, rfl, rfl, rfl⟩, ?_⟩
    exact ⟨[.passPackets, .noBackendPackets, .totalPackets], rfl, by decide⟩
  | unsupported =>
    have hbackend : ¬ NoBackend := fun hn => by
      rw [hno.mpr hn] at hverdict
      cases hverdict
    refine ⟨fun _ => ⟨rfl, rfl⟩, fun hn => absurd hn hbackend, ?_⟩
    exact ⟨[.passPackets, .unsupportedPackets, .totalPackets], rfl, by decide⟩
  | redirect backend =>
    have hbackend : ¬ NoBackend := fun hn => by
      rw [hno.mpr hn] at hverdict
      cases hverdict
    refine ⟨fun _ => ⟨rfl, rfl⟩, fun hn => absurd hn hbackend, ?_⟩
    simp only
    split
    · exact ⟨[.redirectRequests, .totalPackets], rfl, by decide⟩
    · exact ⟨[.dropPackets, .helperErrorPackets, .totalPackets], rfl, by decide⟩

/-- Maps that do as they are told. -/
def obedient : Answerer DsrMapCall DsrMapAnswer
  | .writeBackend _ value => (none, value)
  | .writeConfig value => (none, value)
  | .readBackend _ | .readConfig | .freezeBackends | .freezeConfig => none

/-- The service 198.18.0.10:80 with these backends. -/
def serviceOf (backends : List UdpDsrBackendValue) : DsrConfiguration :=
  ⟨⟨2, backends.length.toUInt32, 0x0a0012c6, 0x5000, 0⟩, backends⟩

/-- Maps of zeros. -/
def zeroMaps : XdpMaps := ⟨⟨0, 0, 0, 0, 0⟩, .replicate 64 default, none, fun _ => default⟩

/-- The maps after `synchronizeDsrConfig` of a configuration, in both profiles. -/
def bothProfiles (configuration : DsrConfiguration) : XdpMaps :=
  install (synchronizeDsrConfig configuration ⟨List.replicate 132 obedient, zeroMaps⟩).2.state 0
    (configuration.snapshot 1)

/-- A datagram without payload, from 198.18.0.1:4660 to the service. -/
def serviceFrame : Bytes :=
  [2, 0, 0, 0, 0, 1, 2, 0, 0, 0, 0, 2, 8, 0] ++
    [0x45, 0, 0, 28, 0, 0, 0, 0, 64, 17, 0xee, 0xa1, 198, 18, 0, 1, 198, 18, 0, 10] ++
    [0x12, 0x34, 0, 80, 0, 8, 0, 0]

/-- With two backends both programs redirect a frame of the service to the same one of them, by the interface and
with the addresses of that one; without any, one passes it and the other drops it. -/
theorem profiles_agree_service :
    let backends : List UdpDsrBackendValue :=
      [⟨2, .replicate 6 4, .replicate 6 2⟩, ⟨3, .replicate 6 8, .replicate 6 6⟩]
    (∃ s, xdp_udp_dsr.run (answer (bothProfiles (serviceOf backends)) fun _ => 4) { frame := serviceFrame } =
        some (.redirect, s) ∧
      xdp_udp_rt.run (answer (bothProfiles (serviceOf backends)) fun _ => 4) { frame := serviceFrame } =
        some (.redirect, s) ∧
      s.requested = [3] ∧ s.frame = [8, 8, 8, 8, 8, 8, 6, 6, 6, 6, 6, 6] ++ serviceFrame.drop 12) ∧
    ∃ s₁ s₂, xdp_udp_dsr.run (answer (bothProfiles (serviceOf [])) fun _ => 4) { frame := serviceFrame } =
        some (.pass, s₁) ∧
      xdp_udp_rt.run (answer (bothProfiles (serviceOf [])) fun _ => 4) { frame := serviceFrame } = some (.drop, s₂) := by
  intro backends
  have hrun : ∀ configuration : DsrConfiguration,
      (synchronizeDsrConfig configuration ⟨List.replicate 132 obedient, zeroMaps⟩).1 = .ok () →
      synchronizeDsrConfig configuration ⟨List.replicate 132 obedient, zeroMaps⟩ =
        (.ok (), (synchronizeDsrConfig configuration ⟨List.replicate 132 obedient, zeroMaps⟩).2) :=
    fun _ h => Prod.ext h rfl
  constructor
  · obtain ⟨a, s₁, b, s₂, hstatic, hruntime, hagree, -⟩ := profiles_agree
      (hrun (serviceOf backends) (by decide +kernel)) (show (1 : UInt64) ≠ 0 by decide) 0 (fun _ => 4)
      { frame := serviceFrame }
    obtain ⟨rfl, rfl⟩ := hagree fun hnone => List.cons_ne_nil _ _ hnone.2.2
    have hvalue : (xdp_udp_dsr.run (answer (bothProfiles (serviceOf backends)) fun _ => 4)
        { frame := serviceFrame }).map (fun r => (r.1, r.2.requested, r.2.frame)) =
          some (.redirect, [3], [8, 8, 8, 8, 8, 8, 6, 6, 6, 6, 6, 6] ++ serviceFrame.drop 12) := by decide +kernel
    rw [show xdp_udp_dsr.run (answer (bothProfiles (serviceOf backends)) fun _ => 4) _ = _ from hstatic] at hvalue
    obtain ⟨rfl, hrequested, hframe⟩ : a = .redirect ∧ s₁.requested = [3] ∧ s₁.frame = _ := by simpa using hvalue
    exact ⟨s₁, hstatic, hruntime, hrequested, hframe⟩
  · obtain ⟨a, s₁, b, s₂, hstatic, hruntime, -, hnone, -⟩ := profiles_agree
      (hrun (serviceOf []) (by decide +kernel)) (show (1 : UInt64) ≠ 0 by decide) 0 (fun _ => 4)
      { frame := serviceFrame }
    obtain ⟨rfl, rfl, -, -⟩ := hnone ⟨by decide, by decide, rfl⟩
    exact ⟨s₁, s₂, hstatic, hruntime⟩

end L4lb.Control
