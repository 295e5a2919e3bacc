import L4lb.Xdp.UdpDsr

/-!
# What the runtime packet program does

`xdp_udp_rt` run by itself, the snapshot in the slot standing still: `runtimeVerdict`
says what becomes of a frame, and `run_xdp_udp_rt` that the program does just that.
-/

namespace L4lb.Xdp

open Effect

variable {maps : XdpMaps} {helper : UInt32 → ℤ} {s : PacketState}

/-- `config` is not one that can be used. -/
def UdpRuntimeSnapshot.Invalid (config : UdpRuntimeSnapshot) : Prop :=
  config.schemaVersion ≠ 3 ∨ config.backendCount > 64 ∨ config.reserved ≠ 0 ∨ config.generation = 0

instance (config : UdpRuntimeSnapshot) : Decidable config.Invalid :=
  inferInstanceAs (Decidable (_ ∨ _ ∨ _ ∨ _))

/-- The slot of a flow. -/
def flowSlot (config : UdpRuntimeSnapshot) (frame : Bytes) : ℕ :=
  (flowHash frame % config.backendCount &&& 63).toNat

/-- The backend of a flow. -/
def snapshotBackend (config : UdpRuntimeSnapshot) (frame : Bytes) : UdpDsrBackendValue :=
  (config.backends[flowSlot config frame]?).getD default

/-- What the runtime profile makes of a frame, with the snapshot in the slot. -/
def runtimeVerdict (active : Option UdpRuntimeSnapshot) (frame : Bytes) : Verdict :=
  if ¬ Ipv4Udp frame then .unsupported
  else
    match active with
    | none => .invalidConfig
    | some config =>
      if config.Invalid then .invalidConfig
      else if ¬ DestinedTo frame config.vipAddress config.vipPort then .unsupported
      else if config.backendCount = 0 then .noBackend
      else if (snapshotBackend config frame).Invalid then .invalidConfig
      else .redirect (snapshotBackend config frame)

/-- The snapshot in the slot. -/
def XdpMaps.activeSnapshot (maps : XdpMaps) : Option UdpRuntimeSnapshot := maps.active.map maps.snapshots

theorem run_read {map : ℕ} {field : SnapshotField} {value : field.Value}
    (h : (maps.snapshots map).read field = some value) :
    Run maps helper (ask (.read map field)) s = some (value, s) := by
  refine (Tree.run_ask _ s).trans ?_
  rw [answer, h]
  rfl

/-- The test of an address in the kernel is that of its bytes. -/
theorem run_invalidMac {mac : Mac} {bytes : Fin 6 → XdpProgram UInt8}
    (hbytes : ∀ i, Run maps helper (bytes i) s = some (mac.get i, s)) :
    Run maps helper (invalidMac bytes) s = some (!validMac mac, s) := by
  have hfold : Run maps helper ((List.finRange 6).foldlM (fun bits index => do
      let value ← bytes index
      pure (bits ||| value)) (0 : UInt8)) s = _ := Tree.run_foldlM
    (g := fun bits index => bits ||| mac.get index) (fun bits index _ => by
      rw [Tree.run_bind_of (hbytes index)]
      rfl)
  unfold Run invalidMac
  rw [Tree.run_bind_of (hbytes 0), Tree.run_ite]
  have hzero : mac.get 0 = mac[0] := rfl
  by_cases hgroup : mac[0] &&& 1 = 0
  · rw [if_neg (by rw [hzero, hgroup]; decide), Tree.run_bind_of hfold]
    simp [validMac, hgroup, List.finRange, List.ofFn, Fin.foldr, Fin.foldr.loop, Vector.get, bne]
  · rw [if_pos (by rw [hzero]; exact bne_iff_ne.mpr hgroup)]
    simp [validMac, hgroup]

/-- The checks of the configuration, field by field. -/
theorem run_invalidSnapshot (map : ℕ) :
    Run maps helper (Tree.anyOf [(· != 3) <$> ask (.read map .schemaVersion),
      (· > 64) <$> ask (.read map .backendCount), (· != 0) <$> ask (.read map .reserved),
      (· == 0) <$> ask (.read map .generation)]) s =
        some (decide (maps.snapshots map).Invalid, s) := by
  unfold Run
  rw [Tree.run_anyOf (.cons (Tree.run_map_of _ (run_read rfl)) (.cons (Tree.run_map_of _ (run_read rfl))
    (.cons (Tree.run_map_of _ (run_read rfl)) (.cons (Tree.run_map_of _ (run_read rfl)) .nil))))]
  refine congrArg (fun b => some (b, s)) (Bool.eq_iff_iff.mpr ?_)
  simp [UdpRuntimeSnapshot.Invalid]

theorem toNat_and_63_lt (x : UInt32) : (x &&& 63).toNat < 64 := by
  rw [UInt32.toNat_and]
  exact Nat.lt_of_le_of_lt Nat.and_le_right (by decide)

/-- The checks of the backend. -/
theorem run_invalidBackend {map slot : ℕ} {backend : UdpDsrBackendValue}
    (h : (maps.snapshots map).backends[slot]? = some backend) :
    Run maps helper (Tree.anyOf [(· == 0) <$> ask (.read map (.ifindex slot)),
      invalidMac fun i => ask (.read map (.destinationMac slot i)),
      invalidMac fun i => ask (.read map (.sourceMac slot i))]) s = some (decide backend.Invalid, s) := by
  have hif : (maps.snapshots map).read (.ifindex slot) = some backend.ifindex := by
    rw [UdpRuntimeSnapshot.read, h]
    rfl
  have hdestination : ∀ i, (maps.snapshots map).read (.destinationMac slot i) =
      some (backend.destinationMac.get i) := fun i => by
    rw [UdpRuntimeSnapshot.read, h]
    rfl
  have hsource : ∀ i, (maps.snapshots map).read (.sourceMac slot i) = some (backend.sourceMac.get i) :=
    fun i => by
      rw [UdpRuntimeSnapshot.read, h]
      rfl
  unfold Run
  rw [Tree.run_anyOf (.cons (Tree.run_map_of _ (run_read hif))
    (.cons (run_invalidMac fun i => run_read (hdestination i))
      (.cons (run_invalidMac fun i => run_read (hsource i)) .nil)))]
  refine congrArg (fun b => some (b, s)) (Bool.eq_iff_iff.mpr ?_)
  rw [decide_eq_true_iff]
  simp [UdpDsrBackendValue.Invalid]

theorem run_serveSnapshot (map : ℕ) (h : Ipv4Udp s.frame) :
    Run maps helper (serveSnapshot map) s =
      some ((runtimeVerdict (some (maps.snapshots map)) s.frame).outcome .drop helper s) := by
  have hlen := h.length_ge
  have hlookup : Run maps helper (ask (.lookupSnapshot map 0)) s = some (true, s) := rfl
  have hother : Run maps helper
      (otherDestination (ask (.read map .vipAddress)) (ask (.read map .vipPort))) s = _ :=
    run_otherDestination hlen (run_read rfl) (run_read rfl)
  have hcount : Run maps helper (ask (.read map .backendCount)) s =
    some ((maps.snapshots map).backendCount, s) := run_read rfl
  unfold Run serveSnapshot runtimeVerdict
  simp only [if_neg (not_not.mpr h)]
  rw [Tree.run_bind_of hlookup, Tree.run_ite, if_neg (by decide),
    Tree.run_bind_of (run_invalidSnapshot map), Tree.run_ite]
  by_cases hinvalid : (maps.snapshots map).Invalid
  · rw [if_pos (decide_eq_true hinvalid), if_pos hinvalid]
    exact run_invalidConfig .drop
  rw [if_neg (by simpa using hinvalid), if_neg hinvalid, Tree.run_bind_of hother, Tree.run_ite]
  by_cases hdest : DestinedTo s.frame (maps.snapshots map).vipAddress (maps.snapshots map).vipPort
  swap
  · rw [if_pos (decide_eq_true hdest), if_pos hdest]
    exact run_unsupported .drop
  rw [if_neg (ne_true_of_eq_false (decide_eq_false (not_not.mpr hdest))), if_neg (not_not.mpr hdest),
    Tree.run_bind_of hcount, Tree.run_ite]
  by_cases hzero : (maps.snapshots map).backendCount = 0
  · rw [if_pos hzero, if_pos hzero, Tree.run_bind_of (run_count _), Tree.run_bind_of (run_count _)]
    rfl
  rw [if_neg hzero, if_neg hzero, Tree.run_bind_of (run_hashFlow hlen)]
  have hslot : (maps.snapshots map).backends[flowSlot (maps.snapshots map) s.frame]? =
      some (snapshotBackend (maps.snapshots map) s.frame) := by
    have hlt : flowSlot (maps.snapshots map) s.frame < 64 := toNat_and_63_lt _
    have hsome : (maps.snapshots map).backends[_]? = _ := Vector.getElem?_eq_getElem hlt
    rw [snapshotBackend, hsome]
    rfl
  have hbackend : Run maps helper _ s = _ := run_invalidBackend hslot
  unfold Run at hbackend
  simp only [flowSlot] at hslot hbackend
  rw [Tree.run_bind_of hbackend, Tree.run_ite]
  by_cases hbad : (snapshotBackend (maps.snapshots map) s.frame).Invalid
  · rw [if_pos (decide_eq_true hbad), if_pos hbad]
    exact run_invalidConfig .drop
  rw [if_neg (by simpa using hbad), if_neg hbad, Tree.run_bind_of (run_read (by
    rw [UdpRuntimeSnapshot.read, hslot]
    rfl))]
  refine run_redirectFrame .drop (by omega) (fun s' i => run_read ?_) fun s' i => run_read ?_
  · rw [UdpRuntimeSnapshot.read, hslot]
    rfl
  · rw [UdpRuntimeSnapshot.read, hslot]
    rfl

/-- **What `xdp_udp_rt` does** when the slot and the snapshot in it stand still. -/
theorem run_xdp_udp_rt :
    Run maps helper xdp_udp_rt s =
      some ((runtimeVerdict maps.activeSnapshot s.frame).outcome .drop helper
        (s.counted .totalPackets)) := by
  have hstats : Run maps helper (ask (.lookupStats 0)) s = some (true, s) := rfl
  have hframe : Run maps helper unsupportedFrame (s.counted .totalPackets) =
    some (decide (¬ Ipv4Udp s.frame), s.counted .totalPackets) := run_unsupportedFrame
  unfold Run xdp_udp_rt
  rw [Tree.run_bind_of hstats, Tree.run_ite, if_pos rfl, Tree.run_bind_of (run_count _),
    Tree.run_bind_of hframe, Tree.run_ite]
  by_cases h : Ipv4Udp s.frame
  · rw [if_neg (ne_true_of_eq_false (decide_eq_false (not_not.mpr h)))]
    have hactive : Run maps helper (ask (.lookupActive 0)) (s.counted .totalPackets) =
      some (maps.active, s.counted .totalPackets) := rfl
    rw [Tree.run_bind_of hactive]
    cases hmap : maps.active with
    | none =>
      have hverdict : runtimeVerdict maps.activeSnapshot s.frame = .invalidConfig := by
        rw [XdpMaps.activeSnapshot, hmap]
        exact if_neg (not_not.mpr h)
      rw [hverdict]
      exact run_invalidConfig .drop
    | some map =>
      rw [XdpMaps.activeSnapshot, hmap]
      exact run_serveSnapshot (s := s.counted .totalPackets) map h
  · have hverdict : runtimeVerdict maps.activeSnapshot s.frame = .unsupported := if_pos h
    rw [if_pos (decide_eq_true h), hverdict]
    exact run_unsupported .drop

end L4lb.Xdp
