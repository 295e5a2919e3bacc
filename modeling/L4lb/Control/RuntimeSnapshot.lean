import L4lb.Control.RuntimeDsrConfig
import L4lb.Health.UdpProbeChecker
import L4lb.Xdp.RuntimeMapStore

/-!
# The snapshot of a configuration

From a configuration and its checker `RuntimeDsrService.cpp` makes a snapshot: the
backends of the targets that are healthy, in the order of the file, and then zeros.
-/

namespace L4lb.Control

open Health Xdp

/-- `buildProbeTargets`, of one target. -/
def RuntimeTarget.probe (target : RuntimeTarget) : ProbeTarget where
  id := target.id
  interfaceName := target.egress
  ifindex := target.backend.ifindex
  sourceMac := target.backend.sourceMac
  destinationMac := target.backend.destinationMac
  probeAddress := target.probeAddress
  probePort := target.probePort

/-- `buildProbeTargets`. -/
def buildProbeTargets (configuration : RuntimeDsrConfiguration) : List ProbeTarget :=
  configuration.targets.map RuntimeTarget.probe

/-- The backend of a target. -/
def targetBackend (target : ProbeTarget) : UdpDsrBackendValue :=
  ⟨target.ifindex, target.destinationMac, target.sourceMac⟩

/-- A pass of the loop of `buildRuntimeSnapshot`; no snapshot is `runtime 健康目标超界`. -/
def addHealthyTarget (snapshot : UdpRuntimeSnapshot) (target : ProbeTarget) : Option UdpRuntimeSnapshot :=
  if snapshot.backendCount ≥ L4LB_DSR_MAX_BACKENDS.toUInt32 then none
  else some { snapshot with
    backends := snapshot.backends.setIfInBounds snapshot.backendCount.toNat (targetBackend target)
    backendCount := snapshot.backendCount + 1 }

/-- The snapshot `buildRuntimeSnapshot` starts from. -/
def emptySnapshot (configuration : RuntimeDsrConfiguration) (generation : UInt64) : UdpRuntimeSnapshot :=
  { (default : UdpRuntimeSnapshot) with
    schemaVersion := L4LB_RUNTIME_SCHEMA_VERSION
    generation := generation
    vipAddress := configuration.vipAddress
    vipPort := configuration.vipPort }

/-- `buildRuntimeSnapshot`. -/
def buildRuntimeSnapshot (configuration : RuntimeDsrConfiguration) (checker : UdpProbeChecker)
    (generation : UInt64) : Option UdpRuntimeSnapshot :=
  checker.copyHealthyProbeTargets.foldlM addHealthyTarget (emptySnapshot configuration generation)

/-- `nextRuntimeGeneration`; none is left when there is `runtime generation 已耗尽`. -/
def nextRuntimeGeneration (applied : UdpRuntimeSnapshot) : Option UInt64 :=
  if applied.generation = 0xffffffffffffffff then none else some (applied.generation + 1)

/-- `haveSameActiveTargets`. -/
def haveSameActiveTargets (first second : UdpRuntimeSnapshot) : Bool :=
  first.backendCount = second.backendCount && first.backends = second.backends

/-! ### What the loop makes -/

/-- A snapshot with just these backends, in order, and then zeros. -/
def denseSnapshot (configuration : RuntimeDsrConfiguration) (generation : UInt64)
    (backends : List UdpDsrBackendValue) : UdpRuntimeSnapshot :=
  { emptySnapshot configuration generation with
    backendCount := backends.length.toUInt32
    backends := .ofFn fun index => slotBackend backends index }

theorem denseSnapshot_nil (configuration : RuntimeDsrConfiguration) (generation : UInt64) :
    denseSnapshot configuration generation [] = emptySnapshot configuration generation := by
  have hbackends : (.ofFn fun index => slotBackend [] index : Vector UdpDsrBackendValue 64) =
      .replicate 64 default := by
    ext i hi
    · simp [slotBackend]
  rw [denseSnapshot, hbackends]
  rfl

theorem toNat_length {α : Type} {xs : List α} (h : xs.length ≤ 64) : xs.length.toUInt32.toNat = xs.length :=
  UInt32.toNat_ofNat_of_lt' (by simp only [UInt32.size]; omega)

/-- One backend more goes behind those there are. -/
theorem addHealthyTarget_dense (configuration : RuntimeDsrConfiguration) (generation : UInt64)
    {backends : List UdpDsrBackendValue} (h : backends.length < 64) (target : ProbeTarget) :
    addHealthyTarget (denseSnapshot configuration generation backends) target =
      some (denseSnapshot configuration generation (backends ++ [targetBackend target])) := by
  have hnat : backends.length.toUInt32.toNat = backends.length := toNat_length h.le
  have hroom : ¬ (denseSnapshot configuration generation backends).backendCount ≥
      L4LB_DSR_MAX_BACKENDS.toUInt32 := by
    rw [denseSnapshot, ge_iff_le, UInt32.le_iff_toNat_le, hnat]
    exact not_le.mpr h
  have hcount : backends.length.toUInt32 + 1 = (backends ++ [targetBackend target]).length.toUInt32 := by
    rw [← UInt32.toNat_inj, UInt32.toNat_add, hnat, toNat_length (by simp; omega)]
    simp only [UInt32.reduceToNat, List.length_append, List.length_singleton]
    omega
  have hbackends : (Vector.ofFn fun index : Fin 64 => slotBackend backends index).setIfInBounds
      backends.length (targetBackend target) =
        .ofFn fun index : Fin 64 => slotBackend (backends ++ [targetBackend target]) index := by
    apply Vector.ext
    intro i hi
    rw [Vector.getElem_setIfInBounds, Vector.getElem_ofFn, Vector.getElem_ofFn]
    simp only [slotBackend]
    rcases lt_trichotomy i backends.length with hlt | rfl | hgt
    · rw [if_neg (by omega), List.getElem?_append_left hlt]
    · simp
    · rw [if_neg (by omega), List.getElem?_eq_none (by omega), List.getElem?_eq_none (by simp; omega)]
  rw [addHealthyTarget, if_neg hroom]
  simp only [denseSnapshot, hnat, hcount, hbackends]

theorem foldlM_addHealthyTarget (configuration : RuntimeDsrConfiguration) (generation : UInt64)
    (targets : List ProbeTarget) (backends : List UdpDsrBackendValue)
    (h : backends.length + targets.length ≤ 64) :
    targets.foldlM addHealthyTarget (denseSnapshot configuration generation backends) =
      some (denseSnapshot configuration generation (backends ++ targets.map targetBackend)) := by
  induction targets generalizing backends with
  | nil => simp
  | cons target targets ih =>
    rw [List.length_cons] at h
    rw [List.foldlM_cons, addHealthyTarget_dense configuration generation (by omega) target]
    refine (ih (backends ++ [targetBackend target]) (by simp; omega)).trans ?_
    rw [List.append_assoc, List.map_cons, List.singleton_append]

/-- **What `buildRuntimeSnapshot` makes**: the backends of the healthy targets, in order. -/
theorem buildRuntimeSnapshot_eq (configuration : RuntimeDsrConfiguration) {checker : UdpProbeChecker}
    (generation : UInt64) (h : checker.probes.length ≤ 64) :
    buildRuntimeSnapshot configuration checker generation = some (denseSnapshot configuration generation
      (checker.copyHealthyProbeTargets.map targetBackend)) := by
  have hlength : checker.copyHealthyProbeTargets.length ≤ 64 := by
    unfold UdpProbeChecker.copyHealthyProbeTargets
    rw [List.length_map]
    exact (List.length_filter_le _ _).trans h
  rw [buildRuntimeSnapshot, ← denseSnapshot_nil,
    foldlM_addHealthyTarget configuration generation _ [] (by simpa using hlength), List.nil_append]

end L4lb.Control
