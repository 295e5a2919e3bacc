import L4lb.Xdp.ProgramCalls
import L4lb.Xdp.RuntimeMapStore
import L4lb.Xdp.UdpRuntime

/-!
# Every packet is judged by one snapshot

The publisher and any number of packets run at once, a call at a time. A packet looks
into the slot once; what it finds there was checked, completely written and frozen
before it was put there, so all it reads afterwards is of that one snapshot, whatever
the publisher does meanwhile.

## The model

`Plane` is the kernel, the publisher and the packets; `Plane.act` is one of them doing
its next call. A map that is not frozen may be read torn: a packet that reads one gets
anything. A `PacketRun` remembers what had been installed when it looked.

## The argument

The publisher keeps `Installed`: whatever was ever put in the slot is frozen, holds what
it held then, and was accepted. Of a packet, `Judged` says that the rest of its run,
against the snapshot it found, is what its whole run against it would have been.
-/

namespace L4lb.Xdp

open Effect

/-! ### What the checks of a snapshot ensure -/

/-- A snapshot that was accepted after a generation. -/
def Accepted (snapshot : UdpRuntimeSnapshot) : Prop :=
  ∃ generation, validateCandidateSnapshot snapshot generation = .ok ()

theorem forM_ok {α : Type} {f : α → Except PublishError Unit} {xs : List α} (h : xs.forM f = .ok ()) :
    ∀ x ∈ xs, f x = .ok () := by
  induction xs with
  | nil => exact fun x hx => absurd hx List.not_mem_nil
  | cons y ys ih =>
    rw [List.forM_eq_forM, List.forM_cons] at h
    cases hy : f y with
    | error e =>
      rw [hy] at h
      cases h
    | ok u =>
      rw [hy] at h
      intro x hx
      rcases List.mem_cons.mp hx with rfl | hx
      · exact hy
      · exact ih h x hx

/-- What an accepted snapshot is. -/
structure Usable (snapshot : UdpRuntimeSnapshot) : Prop where
  /-- The version of the layout. -/
  schemaVersion : snapshot.schemaVersion = 3
  /-- No more backends than fit. -/
  count_le : ¬ snapshot.backendCount > 64
  /-- What is reserved is zero. -/
  reserved : snapshot.reserved = 0
  /-- Generations start at one. -/
  generation : snapshot.generation ≠ 0
  /-- Every backend can be used. -/
  backends : ∀ index : Fin 64, index.val < snapshot.backendCount.toNat →
    ¬ (snapshot.backends.get index).Invalid

theorem Accepted.usable {snapshot : UdpRuntimeSnapshot} (h : Accepted snapshot) : Usable snapshot := by
  obtain ⟨generation, h⟩ := h
  unfold validateCandidateSnapshot at h
  split at h
  · cases h
  rename_i hchecks
  simp only [not_or, not_not] at hchecks
  obtain ⟨hversion, hcount, hreserved, hmax, hgeneration, -, -⟩ := hchecks
  refine ⟨hversion, hcount, hreserved, ?_, fun index hindex => ?_⟩
  · rw [hgeneration]
    intro hzero
    apply hmax
    rw [← UInt64.toNat_inj, UInt64.toNat_add] at hzero
    rw [← UInt64.toNat_inj]
    have := generation.toNat_lt
    simp only [UInt64.reduceToNat] at hzero ⊢
    omega
  · have hslot := forM_ok h index (List.mem_finRange index)
    unfold validateSlot at hslot
    simp only [if_pos hindex] at hslot
    split at hslot
    · cases hslot
    · rename_i hvalid
      exact hvalid

/-- The backend of a flow is one of the snapshot's. -/
theorem Usable.snapshotBackend {snapshot : UdpRuntimeSnapshot} (h : Usable snapshot)
    (hpos : snapshot.backendCount ≠ 0) (frame : Bytes) :
    ∃ index : Fin 64, index.val < snapshot.backendCount.toNat ∧
      snapshotBackend snapshot frame = snapshot.backends.get index := by
  have hlt := toNat_mod_lt (flowHash frame) hpos h.count_le
  have hslot : flowSlot snapshot frame = (flowHash frame % snapshot.backendCount).toNat := by
    rw [flowSlot, UInt32.toNat_and]
    exact (Nat.and_two_pow_sub_one_eq_mod _ 6).trans (Nat.mod_eq_of_lt hlt)
  refine ⟨⟨_, hlt⟩, ?_, ?_⟩
  · have hn : 0 < snapshot.backendCount.toNat :=
      Nat.pos_of_ne_zero fun hz => hpos (UInt32.toNat_inj.mp hz)
    change (flowHash frame % snapshot.backendCount).toNat < _
    rw [UInt32.toNat_mod]
    exact Nat.mod_lt _ hn
  · have hsome : snapshot.backends[_]? = _ := Vector.getElem?_eq_getElem hlt
    rw [Xdp.snapshotBackend, hslot, hsome]
    rfl

/-- **The packet program's own checks follow**, whatever the hash: a usable snapshot is
never found invalid. -/
theorem Usable.verdict_ne {snapshot : UdpRuntimeSnapshot} (h : Usable snapshot) (frame : Bytes) :
    runtimeVerdict (some snapshot) frame ≠ .invalidConfig := by
  have hvalid : ¬ snapshot.Invalid := by
    rintro (hv | hc | hr | hg)
    · exact hv h.schemaVersion
    · exact h.count_le hc
    · exact hr h.reserved
    · exact h.generation hg
  intro hverdict
  simp only [runtimeVerdict, if_neg hvalid] at hverdict
  split_ifs at hverdict with _ _ hzero hbad
  obtain ⟨index, hindex, hbackend⟩ := h.snapshotBackend hzero frame
  exact h.backends index hindex (hbackend ▸ hbad)

/-! ### What the publisher keeps -/

/-- Whatever was put in the slot is frozen, holds what it held then and was accepted; the
slot has the last of it. -/
structure Installed (k : MapKernel) : Prop where
  /-- The slot has the last map put there. -/
  outer : k.outer = k.installs.head?.map (·.1)
  /-- What was put there stays as it was. -/
  sound : ∀ i ∈ k.installs, i.1 < k.nextMap ∧ k.maps i.1 = ⟨i.2, true⟩ ∧ Accepted i.2
  /-- Descriptors are of maps there are. -/
  fds : ∀ fd map, k.fds fd = some map → map < k.nextMap

/-- A descriptor of a map that was never in the slot. -/
structure Candidate (k : MapKernel) (fd : ℤ) (map : ℕ) : Prop where
  /-- It is the map's. -/
  fd_eq : k.fds fd = some map
  /-- The map was never in the slot. -/
  fresh : ∀ i ∈ k.installs, i.1 ≠ map

/-- The kernel can answer so. -/
def Responds (c : MapCall) (k : MapKernel) (a : MapAnswer c) (k' : MapKernel) : Prop :=
  ∃ choice, k.respond choice c = (a, k')

/-- Whatever the kernel answers, nothing is taken out of the history of the slot. -/
theorem respond_installs (choice : MapChoice) (c : MapCall) (k : MapKernel) :
    k.installs <:+ (k.respond choice c).2.installs := by
  cases c <;> simp only [MapKernel.respond] <;>
    (repeat' split) <;> first | exact List.suffix_rfl | exact List.suffix_cons _ _

section Publisher

variable {k k' : MapKernel} {fd : ℤ} {map : ℕ}

theorem Installed.setMap (h : Installed k) (hc : Candidate k fd map) (inner : InnerMap) :
    Installed (k.setMap map inner) := by
  refine ⟨h.outer, fun i hi => ?_, h.fds⟩
  obtain ⟨hlt, hmap, haccepted⟩ := h.sound i hi
  refine ⟨hlt, ?_, haccepted⟩
  simpa [MapKernel.setMap, hc.fresh i hi] using hmap

theorem Candidate.setMap (hc : Candidate k fd map) (inner : InnerMap) :
    Candidate (k.setMap map inner) fd map := ⟨hc.fd_eq, hc.fresh⟩

theorem Installed.close (h : Installed k) (fd : ℤ) :
    Installed { k with fds := Function.update k.fds fd none } := by
  refine ⟨h.outer, h.sound, fun fd' map' hfd => ?_⟩
  by_cases he : fd' = fd
  · simp [he] at hfd
  · simp only [Function.update_of_ne he] at hfd
    exact h.fds fd' map' hfd

/-- A write to a map, and what it leaves. -/
theorem responds_update {snapshot : UdpRuntimeSnapshot} {a : Except Errno Unit}
    (hfd : k.fds fd = some map) (h : Responds (.update fd snapshot) k a k') :
    (k' = k ∧ a ≠ .ok ()) ∨ ((k.maps map).frozen = false ∧ ∃ v, k' = k.setMap map { value := v } ∧
      (a = .ok () → v = snapshot)) := by
  obtain ⟨choice, h⟩ := h
  simp only [MapKernel.respond, hfd] at h
  split at h
  · obtain ⟨rfl, rfl⟩ := Prod.mk.inj h
    exact Or.inl ⟨rfl, fun h => nomatch h⟩
  · rename_i hfrozen
    split at h
    · obtain ⟨rfl, rfl⟩ := Prod.mk.inj h
      exact Or.inr ⟨Bool.eq_false_iff.mpr hfrozen, _, rfl, fun h => nomatch h⟩
    · obtain ⟨rfl, rfl⟩ := Prod.mk.inj h
      exact Or.inr ⟨Bool.eq_false_iff.mpr hfrozen, _, rfl, fun _ => rfl⟩

theorem responds_lookup {a : Except Errno UdpRuntimeSnapshot} (h : Responds (.lookup fd) k a k') : k' = k := by
  obtain ⟨choice, h⟩ := h
  simp only [MapKernel.respond] at h
  split at h <;> exact (Prod.mk.inj h).2.symm

theorem responds_info {a : Except Errno MapInfo} (h : Responds (.info fd) k a k') : k' = k := by
  obtain ⟨choice, h⟩ := h
  simp only [MapKernel.respond] at h
  split at h <;> exact (Prod.mk.inj h).2.symm

theorem responds_lookupOuter {a : Except Errno ℕ} (h : Responds .lookupOuter k a k') : k' = k := by
  obtain ⟨choice, h⟩ := h
  simp only [MapKernel.respond] at h
  split at h <;> exact (Prod.mk.inj h).2.symm

theorem responds_freeze {a : Except Errno Unit} (hfd : k.fds fd = some map) (h : Responds (.freeze fd) k a k') :
    (k' = k ∧ a ≠ .ok ()) ∨ k' = k.setMap map { k.maps map with frozen := true } := by
  obtain ⟨choice, h⟩ := h
  simp only [MapKernel.respond, hfd] at h
  cases herror : choice.error with
  | some error =>
    simp only [herror] at h
    obtain ⟨rfl, rfl⟩ := Prod.mk.inj h
    exact Or.inl ⟨rfl, fun h => nomatch h⟩
  | none =>
    simp only [herror] at h
    exact Or.inr (Prod.mk.inj h).2.symm

theorem responds_updateOuter {a : Except Errno Unit} (hfd : k.fds fd = some map)
    (h : Responds (.updateOuter fd) k a k') :
    (k' = k ∧ ∃ e, a = .error e) ∨
      a = .ok () ∧ k' = { k with outer := some map, installs := (map, (k.maps map).value) :: k.installs } := by
  obtain ⟨choice, h⟩ := h
  simp only [MapKernel.respond, hfd] at h
  cases herror : choice.error with
  | some error =>
    simp only [herror] at h
    obtain ⟨rfl, rfl⟩ := Prod.mk.inj h
    exact Or.inl ⟨rfl, error, rfl⟩
  | none =>
    simp only [herror] at h
    exact Or.inr ⟨(Prod.mk.inj h).1.symm, (Prod.mk.inj h).2.symm⟩

/-- A map that is made is new, and so is its descriptor. -/
theorem responds_create {a : Except Errno ℤ} (h : Responds .create k a k') :
    (k' = k ∧ ∃ e, a = .error e) ∨ ∃ fd : ℕ, a = .ok fd ∧ k.fds fd = none ∧
      k' = { k.setMap k.nextMap {} with
        nextMap := k.nextMap + 1
        fds := Function.update k.fds fd (some k.nextMap) } := by
  obtain ⟨choice, h⟩ := h
  simp only [MapKernel.respond] at h
  split at h
  · obtain ⟨rfl, rfl⟩ := Prod.mk.inj h
    exact Or.inl ⟨rfl, _, rfl⟩
  split at h
  · rename_i hfree
    obtain ⟨rfl, rfl⟩ := Prod.mk.inj h
    exact Or.inr ⟨choice.fd, rfl, hfree, rfl⟩
  · obtain ⟨rfl, rfl⟩ := Prod.mk.inj h
    exact Or.inl ⟨rfl, _, rfl⟩

/-- A new map is a candidate. -/
theorem Installed.create (h : Installed k) (fd : ℕ) :
    Installed { k.setMap k.nextMap {} with
      nextMap := k.nextMap + 1
      fds := Function.update k.fds fd (some k.nextMap) } ∧
    Candidate { k.setMap k.nextMap {} with
      nextMap := k.nextMap + 1
      fds := Function.update k.fds fd (some k.nextMap) } fd k.nextMap := by
  have hfresh : ∀ i ∈ k.installs, i.1 ≠ k.nextMap := fun i hi => (h.sound i hi).1.ne
  refine ⟨⟨h.outer, fun i hi => ?_, fun fd' map' hfd => ?_⟩, ⟨by simp, hfresh⟩⟩
  · obtain ⟨hlt, hmap, haccepted⟩ := h.sound i hi
    refine ⟨Nat.lt_succ_of_lt hlt, ?_, haccepted⟩
    simpa [MapKernel.setMap, hfresh i hi] using hmap
  · by_cases he : fd' = fd
    · subst he
      simp only [Function.update_self, Option.some.injEq] at hfd
      exact hfd ▸ Nat.lt_succ_self _
    · simp only [Function.update_of_ne he] at hfd
      exact Nat.lt_succ_of_lt (h.fds fd' map' hfd)

/-- What becomes of a candidate before it is put in the slot: if all went well, it holds
the snapshot and is frozen. -/
theorem always_prepareCandidate (snapshot : UdpRuntimeSnapshot) (h : Installed k)
    (hc : Candidate k fd map) :
    (prepareCandidate fd snapshot).Always Responds Installed
      (fun r k' => Installed k' ∧ Candidate k' fd map ∧
        ∀ info, r = .ok info → k'.maps map = ⟨snapshot, true⟩) k := by
  have hbad : ∀ {k₁ : MapKernel} {e : PublishError}, Installed k₁ → Candidate k₁ fd map →
      Installed k₁ ∧ Candidate k₁ fd map ∧
        ∀ info, (.error e : Except PublishError MapInfo) = .ok info → k₁.maps map = ⟨snapshot, true⟩ :=
    fun h₁ hc₁ => ⟨h₁, hc₁, fun _ he => nomatch he⟩
  unfold prepareCandidate
  refine Tree.Always.ask_bind fun a k₁ hr => ?_
  -- the write
  obtain ⟨h₁, hc₁, hv₁⟩ : Installed k₁ ∧ Candidate k₁ fd map ∧ (a = .ok () → (k₁.maps map).value = snapshot) := by
    rcases responds_update hc.fd_eq hr with ⟨rfl, hne⟩ | ⟨-, v, rfl, hv⟩
    · exact ⟨h, hc, fun he => absurd he hne⟩
    · refine ⟨h.setMap hc _, hc.setMap _, fun he => ?_⟩
      simp [MapKernel.setMap, hv he]
  refine ⟨h₁, ?_⟩
  rcases a with e | ⟨⟩
  · exact hbad h₁ hc₁
  have hv₁ := hv₁ rfl
  -- the readback
  refine Tree.Always.ask_bind fun a k₂ hr => ?_
  obtain rfl := responds_lookup hr
  refine ⟨h₁, ?_⟩
  rcases a with e | readback
  · exact hbad h₁ hc₁
  dsimp only
  split
  · exact hbad h₁ hc₁
  -- the freeze
  refine Tree.Always.ask_bind fun a k₃ hr => ?_
  obtain ⟨h₃, hc₃, hv₃⟩ : Installed k₃ ∧ Candidate k₃ fd map ∧ (a = .ok () → k₃.maps map = ⟨snapshot, true⟩) := by
    rcases responds_freeze hc₁.fd_eq hr with ⟨rfl, hne⟩ | rfl
    · exact ⟨h₁, hc₁, fun he => absurd he hne⟩
    · refine ⟨h₁.setMap hc₁ _, hc₁.setMap _, fun _ => ?_⟩
      simp [MapKernel.setMap, hv₁]
  refine ⟨h₃, ?_⟩
  rcases a with e | ⟨⟩
  · exact hbad h₃ hc₃
  have hv₃ := hv₃ rfl
  -- the metadata
  refine Tree.Always.bind (Q := fun _ k' => k' = k₃) ?_ fun r k₄ hk₄ => ?_
  · unfold validateMapMetadata
    refine Tree.Always.ask_bind fun a k₄ hr => ?_
    obtain rfl := responds_info hr
    refine ⟨h₃, ?_⟩
    rcases a with e | info
    · exact rfl
    · dsimp only
      split <;> exact rfl
  subst hk₄
  rcases r with e | info
  · exact hbad h₃ hc₃
  -- the write that must be refused
  refine Tree.Always.bind (Q := fun r k' => k' = k₄ ) ?_ fun r k₅ hk₅ => ?_
  · unfold verifyFrozenSnapshot
    refine Tree.Always.ask_bind fun a k₅ hr => ?_
    rcases responds_update hc₃.fd_eq hr with ⟨rfl, -⟩ | ⟨hfrozen, -⟩
    · refine ⟨h₃, ?_⟩
      rcases a with e | ⟨⟩
      · dsimp only
        split <;> exact rfl
      · exact rfl
    · rw [hv₃] at hfrozen
      cases hfrozen
  subst hk₅
  rcases r with e | ⟨⟩
  · exact hbad h₃ hc₃
  · exact ⟨h₃, hc₃, fun _ _ => hv₃⟩

/-- **The publisher keeps what is installed sound**, whatever the kernel answers; if the
store has changed, something was put in the slot. -/
theorem always_publishSnapshot (store : RuntimeMapStore) (snapshot : UdpRuntimeSnapshot) (h : Installed k) :
    (publishSnapshot store snapshot).Always Responds Installed
      (fun r k' => Installed k' ∧ (r.1 = store ∨ k'.installs ≠ [])) k := by
  unfold publishSnapshot
  cases hvalid : validateCandidateSnapshot snapshot store.generation with
  | error e => exact ⟨h, Or.inl rfl⟩
  | ok u =>
    have hclose : ∀ {k₁ : MapKernel} {fd : ℤ} {r : RuntimeMapStore × Except PublishError Unit},
        Installed k₁ → r.1 = store → Tree.Always Responds Installed
          (fun r k' => Installed k' ∧ (r.1 = store ∨ k'.installs ≠ []))
          (do bpf (.close fd); pure r) k₁ := by
      intro k₁ fd r h₁ hr
      refine Tree.Always.ask_bind fun a k₂ hk₂ => ?_
      obtain ⟨choice, hk₂⟩ := hk₂
      obtain rfl := (Prod.mk.inj hk₂).2
      exact ⟨h₁.close fd, h₁.close fd, Or.inl hr⟩
    refine Tree.Always.ask_bind fun a k₁ hr => ?_
    rcases responds_create hr with ⟨rfl, e, rfl⟩ | ⟨fd, rfl, -, rfl⟩
    · exact ⟨h, h, Or.inl rfl⟩
    obtain ⟨h₁, hc₁⟩ := h.create fd
    generalize k.nextMap = map at h₁ hc₁ ⊢
    refine ⟨h₁, Tree.Always.bind (always_prepareCandidate snapshot h₁ hc₁) fun r k₂ => ?_⟩
    rintro ⟨h₂, hc₂, hprepared⟩
    rcases r with e | info
    · exact hclose h₂ rfl
    have hmap := hprepared info rfl
    refine Tree.Always.ask_bind fun a k₃ hr => ?_
    rcases responds_updateOuter hc₂.fd_eq hr with ⟨rfl, e, rfl⟩ | ⟨rfl, hk₃⟩
    · exact ⟨h₂, hclose h₂ rfl⟩
    -- the commit point
    have hne : k₃.installs ≠ [] := by
      rw [hk₃]
      exact List.cons_ne_nil _ _
    have h₃ : Installed k₃ := by
      rw [hk₃]
      refine ⟨rfl, fun i hi => ?_, h₂.fds⟩
      rcases List.mem_cons.mp hi with rfl | hi
      · refine ⟨h₂.fds fd map hc₂.fd_eq, ?_, store.generation, ?_⟩
        · rw [hmap]
        · rw [hmap]
          exact hvalid
      · exact h₂.sound i hi
    refine ⟨h₃, Tree.Always.bind (Q := fun _ k' => Installed k' ∧ k'.installs ≠ []) ?_ ?_⟩
    · unfold closePrevious
      split
      · refine Tree.Always.ask_bind fun a k₄ hk₄ => ?_
        obtain ⟨choice, hk₄⟩ := hk₄
        obtain rfl := (Prod.mk.inj hk₄).2
        exact ⟨h₃.close _, h₃.close _, hne⟩
      · exact ⟨h₃, hne⟩
    · rintro - k₄ ⟨h₄, hne₄⟩
      refine Tree.Always.bind (Q := fun _ k' => k' = k₄) ?_ ?_
      · refine Tree.Always.ask_bind fun a k₅ hk₅ => ?_
        obtain rfl := responds_lookupOuter hk₅
        refine ⟨h₄, ?_⟩
        rcases a with e | id
        · exact rfl
        · dsimp only
          split <;> exact rfl
      · rintro r k₅ rfl
        exact ⟨h₄, Or.inr hne₄⟩

end Publisher

/-! ### The plane -/

/-- A packet on its way through the program. -/
structure PacketRun where
  /-- The frame that arrived. -/
  frame : Bytes
  /-- What the redirect helper answers it. -/
  helper : UInt32 → ℤ
  /-- What is left of the program. -/
  program : XdpProgram XdpAction
  /-- What it has done. -/
  state : PacketState
  /-- What had been installed when it looked into the slot, the last look first. -/
  lookups : List (List Install) := []

/-- The kernel, the publisher and the packets. -/
structure Plane where
  /-- The maps. -/
  kernel : MapKernel := {}
  /-- The store, between two publications. -/
  store : RuntimeMapStore := {}
  /-- What is left of the publication under way. -/
  publishing : Option (MapProgram (RuntimeMapStore × Except PublishError Unit)) := none
  /-- The program is attached. -/
  attached : Bool := false
  /-- The packets, by number. -/
  packets : ℕ → Option PacketRun := fun _ => none
  /-- The statistics. -/
  stats : UdpDsrStatsValue := fun _ => 0

/-- Who does its next call. -/
inductive PlaneAction where
  /-- The publisher begins to publish a snapshot. -/
  | publish (snapshot : UdpRuntimeSnapshot)
  /-- Its next map operation is answered. -/
  | mapCall (choice : MapChoice)
  /-- The publication has ended. -/
  | published
  /-- The program is attached, once a snapshot was published. -/
  | attach
  /-- A packet arrives. -/
  | arrive (packet : ℕ) (frame : Bytes) (helper : UInt32 → ℤ)
  /-- The next call of a packet is answered; a map that is not frozen is read torn. -/
  | packet (packet : ℕ) (torn : (c : XdpCall) → XdpAnswer c)

/-- The maps as a packet finds them. -/
def MapKernel.asFound (k : MapKernel) : XdpMaps where
  config := ⟨0, 0, 0, 0, 0⟩
  backends := .replicate 64 default
  active := k.outer
  snapshots map := (k.maps map).value

/-- What a packet is answered. -/
def packetAnswer (k : MapKernel) (torn : (c : XdpCall) → XdpAnswer c) (helper : UInt32 → ℤ)
    (c : XdpCall) (s : PacketState) : Option (XdpAnswer c × PacketState) :=
  match c with
  | .read map field =>
    if (k.maps map).frozen then answer k.asFound helper (.read map field) s
    else some (torn (.read map field), s)
  | c => answer k.asFound helper c s

/-- The history of the slot is remembered when a packet looks into it. -/
def remember (k : MapKernel) (lookups : List (List Install)) : XdpCall → List (List Install)
  | .lookupActive _ => k.installs :: lookups
  | _ => lookups

/-- The next call of a packet. -/
def PacketRun.step (k : MapKernel) (torn : (c : XdpCall) → XdpAnswer c) (r : PacketRun) : PacketRun :=
  match r.program with
  | .ret _ => r
  | .call c next =>
    match packetAnswer k torn r.helper c r.state with
    | none => r
    | some (a, state) =>
      { r with program := next a, state, lookups := remember k r.lookups c }

/-- The counter that the next call of a packet adds to. -/
def PacketRun.counting (r : PacketRun) : Option XdpCounter :=
  match r.program with
  | .call (.count counter) _ => some counter
  | _ => none

/-- The statistics after the next call of a packet. -/
def countPacket (stats : UdpDsrStatsValue) : Option XdpCounter → UdpDsrStatsValue
  | none => stats
  | some counter => Function.update stats counter (stats counter + 1)

/-- Someone does its next call; what it cannot do is left undone. -/
def Plane.act (w : Plane) : PlaneAction → Plane
  | .publish snapshot =>
    match w.publishing with
    | none => { w with publishing := some (publishSnapshot w.store snapshot) }
    | some _ => w
  | .mapCall choice =>
    match w.publishing with
    | some (.call c next) =>
      let r := w.kernel.respond choice c
      { w with kernel := r.2, publishing := some (next r.1) }
    | _ => w
  | .published =>
    match w.publishing with
    | some (.ret r) => { w with store := r.1, publishing := none }
    | _ => w
  | .attach =>
    if w.publishing.isNone ∧ w.store.generation ≠ 0 then { w with attached := true } else w
  | .arrive packet frame helper =>
    if w.attached ∧ (w.packets packet).isNone then
      let r : PacketRun := { frame, helper, program := xdp_udp_rt, state := { frame } }
      { w with packets := Function.update w.packets packet (some r) }
    else w
  | .packet packet torn =>
    match w.packets packet with
    | none => w
    | some r =>
      { w with
        packets := Function.update w.packets packet (some (r.step w.kernel torn))
        stats := countPacket w.stats r.counting }

/-- A run: any of them in any order. -/
def Plane.run (w : Plane) (schedule : List PlaneAction) : Plane := schedule.foldl Plane.act w

/-! ### What a packet looks at -/

/-- A call that has nothing to do with the configuration. -/
def XdpCall.Basic : XdpCall → Prop
  | .lookupConfig _ | .lookupBackend _ | .lookupActive _ | .lookupSnapshot _ _ | .read _ _ => False
  | _ => True

/-- A call that has nothing to do with any configuration but that of a map. -/
def XdpCall.Holding (map : ℕ) : XdpCall → Prop
  | .lookupSnapshot map' _ | .read map' _ => map' = map
  | c => c.Basic

theorem XdpCall.OfFrame.basic {c : XdpCall} (h : c.OfFrame) : c.Basic := by
  cases c <;> trivial

theorem XdpCall.Basic.holding {c : XdpCall} (h : c.Basic) (map : ℕ) : c.Holding map := by
  cases c <;> first | exact h | exact h.elim

/-- A program that looks into the slot once at most, and then only at what it found. -/
def LooksOnce {α : Type} : XdpProgram α → Prop
  | .ret _ => True
  | .call (.lookupActive key) k =>
    key = 0 ∧ (k none).Uses XdpCall.Basic ∧ ∀ map, (k (some map)).Uses (XdpCall.Holding map)
  | .call c k => c.Basic ∧ ∀ a, LooksOnce (k a)

theorem LooksOnce.bind {α β : Type} {m : XdpProgram α} {f : α → XdpProgram β} (hm : m.Uses XdpCall.Basic)
    (hf : ∀ a, LooksOnce (f a)) : LooksOnce (m >>= f) := by
  induction m with
  | ret a => exact hf a
  | call c k ih =>
    cases c with
    | lookupActive key => exact hm.1.elim
    | _ => exact ⟨hm.1, fun a => ih a (hm.2 a)⟩

theorem LooksOnce.of_uses {α : Type} {m : XdpProgram α} (hm : m.Uses XdpCall.Basic) : LooksOnce m := by
  induction m with
  | ret a => trivial
  | call c k ih =>
    cases c with
    | lookupActive key => exact hm.1.elim
    | _ => exact ⟨hm.1, fun a => ih a (hm.2 a)⟩

section Uses

variable {P : XdpCall → Prop} (hP : ∀ c : XdpCall, c.Basic → P c)
include hP

theorem uses_basic {c : XdpCall} (h : c.Basic) : (ask c).Uses P := Tree.uses_ask (hP c h)

theorem uses_unsupported : unsupported.Uses P :=
  (uses_basic hP (c := .count .unsupportedPackets) trivial).bind fun _ =>
    (uses_basic hP (c := .count .passPackets) trivial).bind fun _ => trivial

theorem uses_invalidConfig : invalidConfig.Uses P :=
  (uses_basic hP (c := .count .invalidConfigPackets) trivial).bind fun _ =>
    (uses_basic hP (c := .count .passPackets) trivial).bind fun _ => trivial

theorem uses_storeMac (offset : ℕ) {bytes : Fin 6 → XdpProgram UInt8} (h : ∀ i, (bytes i).Uses P) :
    (storeMac offset bytes).Uses P := by
  refine Tree.uses_forM (fun i => ?_) _
  exact (h i).bind fun value => uses_basic hP (c := .store (offset + i) value) trivial

theorem uses_redirectFrame (ifindex : UInt32) {destination source : Fin 6 → XdpProgram UInt8}
    (hd : ∀ i, (destination i).Uses P) (hs : ∀ i, (source i).Uses P) :
    (redirectFrame ifindex destination source).Uses P := by
  unfold redirectFrame
  refine (uses_basic hP (c := .redirectPacket ifindex) trivial).bind fun _ => Tree.Uses.ite ?_ ?_
  · exact (uses_basic hP (c := .count .helperErrorPackets) trivial).bind fun _ =>
      (uses_basic hP (c := .count .dropPackets) trivial).bind fun _ => trivial
  · exact (uses_storeMac hP _ hd).bind fun _ => (uses_storeMac hP _ hs).bind fun _ =>
      (uses_basic hP (c := .count .redirectRequests) trivial).bind fun _ => trivial

end Uses

theorem uses_serveSnapshot (map : ℕ) : (serveSnapshot map).Uses (XdpCall.Holding map) := by
  have hP : ∀ c : XdpCall, c.Basic → c.Holding map := fun c h => h.holding map
  have hF : ∀ c : XdpCall, c.OfFrame → c.Holding map := fun c h => hP c h.basic
  have hread : ∀ field, (ask (.read map field)).Uses (XdpCall.Holding map) := fun field =>
    Tree.uses_ask rfl
  unfold serveSnapshot
  refine Tree.Uses.bind (Tree.uses_ask rfl) fun found => Tree.Uses.ite (uses_invalidConfig hP) ?_
  refine Tree.Uses.bind (Tree.uses_anyOf fun test htest => ?_) fun b =>
    Tree.Uses.ite (uses_invalidConfig hP) ?_
  · simp only [List.mem_cons, List.not_mem_nil, or_false] at htest
    rcases htest with rfl | rfl | rfl | rfl <;> exact (hread _).map _
  refine (uses_otherDestination hF (hread _) (hread _)).bind fun b =>
    Tree.Uses.ite (uses_unsupported hP) ?_
  refine (hread _).bind fun n => Tree.Uses.ite ?_ ?_
  · exact (uses_basic hP (c := .count .noBackendPackets) trivial).bind fun _ =>
      (uses_basic hP (c := .count .dropPackets) trivial).bind fun _ => trivial
  refine (uses_hashFlow hF).bind fun hash => ?_
  refine Tree.Uses.bind (Tree.uses_anyOf fun test htest => ?_) fun b =>
    Tree.Uses.ite (uses_invalidConfig hP) ?_
  · simp only [List.mem_cons, List.not_mem_nil, or_false] at htest
    rcases htest with rfl | rfl | rfl
    · exact (hread _).map _
    · exact uses_invalidMac fun i => hread _
    · exact uses_invalidMac fun i => hread _
  · exact (hread _).bind fun ifindex => uses_redirectFrame hP _ (fun i => hread _) fun i => hread _

/-- **The program looks into the slot once**, and from then on only at what it found. -/
theorem looksOnce_xdp_udp_rt : LooksOnce xdp_udp_rt := by
  have hP : ∀ c : XdpCall, c.Basic → c.Basic := fun _ h => h
  unfold xdp_udp_rt
  refine LooksOnce.bind (uses_basic hP trivial) fun stats => ?_
  split
  · refine LooksOnce.bind (uses_basic hP (c := .count .totalPackets) trivial) fun _ => ?_
    refine LooksOnce.bind (uses_unsupportedFrame fun _ h => h.basic) fun b => ?_
    split
    · exact .of_uses (uses_unsupported hP)
    · exact ⟨rfl, uses_invalidConfig hP, uses_serveSnapshot⟩
  · trivial

/-! ### What holds of a packet -/

/-- Run against the maps, what is left of a packet ends as its whole run would have. -/
def PacketRun.FollowsFrom (r : PacketRun) (maps : XdpMaps) : Prop :=
  Run maps r.helper r.program r.state = Run maps r.helper xdp_udp_rt { frame := r.frame }

/-- A packet that has not looked into the slot is at one with all maps; one that has is at
one with what it found, and will not look again. -/
def Judged (k : MapKernel) (r : PacketRun) : Prop :=
  match r.lookups with
  | [] => LooksOnce r.program ∧ ∀ maps, r.FollowsFrom maps
  | [history] =>
    history <:+ k.installs ∧ ∃ map snapshot rest, history = (map, snapshot) :: rest ∧
      r.program.Uses (XdpCall.Holding map) ∧
      ∀ maps : XdpMaps, maps.active = some map → maps.snapshots map = snapshot → r.FollowsFrom maps
  | _ => False

theorem Judged.mono {k k' : MapKernel} {r : PacketRun} (h : Judged k r) (hk : k.installs <:+ k'.installs) :
    Judged k' r := by
  unfold Judged at *
  split at h
  · exact h
  · exact ⟨h.1.trans hk, h.2⟩
  · exact h

theorem packetAnswer_basic {c : XdpCall} (h : c.Basic) (k : MapKernel) (torn : (c : XdpCall) → XdpAnswer c)
    (maps : XdpMaps) (helper : UInt32 → ℤ) (s : PacketState) :
    packetAnswer k torn helper c s = answer maps helper c s := by
  cases c <;> first | rfl | exact h.elim

theorem remember_of_ne {k : MapKernel} {lookups : List (List Install)} {c : XdpCall}
    (h : ∀ key, c ≠ .lookupActive key) : remember k lookups c = lookups := by
  cases c <;> first | rfl | exact absurd rfl (h _)

/-- A map in the slot is found as it was put there. -/
theorem packetAnswer_holding {k : MapKernel} (hk : Installed k) {map : ℕ} {snapshot : UdpRuntimeSnapshot}
    (hi : (map, snapshot) ∈ k.installs) {c : XdpCall} (h : c.Holding map) {maps : XdpMaps}
    (hmaps : maps.snapshots map = snapshot) (torn : (c : XdpCall) → XdpAnswer c) (helper : UInt32 → ℤ)
    (s : PacketState) : packetAnswer k torn helper c s = answer maps helper c s := by
  obtain ⟨-, hmap, -⟩ := hk.sound _ hi
  cases c with
  | read map' field =>
    obtain rfl : map' = map := h
    have hfrozen : (k.maps map').frozen = true := by rw [hmap]
    have hvalue : k.asFound.snapshots map' = maps.snapshots map' := by
      rw [hmaps]
      exact congrArg InnerMap.value hmap
    simp only [packetAnswer, if_pos hfrozen, answer, hvalue]
  | lookupSnapshot map' key => rfl
  | _ => first | rfl | exact h.elim

/-- One call further. -/
theorem follows_of_answer {r r' : PacketRun} {c : XdpCall} {next : XdpAnswer c → XdpProgram XdpAction}
    {a : XdpAnswer c} {s : PacketState} {maps : XdpMaps} (hr : r.FollowsFrom maps)
    (hprogram : r.program = .call c next) (hanswer : answer maps r.helper c r.state = some (a, s))
    (hr' : r'.program = next a ∧ r'.state = s ∧ r'.helper = r.helper ∧ r'.frame = r.frame) :
    r'.FollowsFrom maps := by
  obtain ⟨h1, h2, h3, h4⟩ := hr'
  unfold PacketRun.FollowsFrom at *
  rw [h1, h2, h3, h4, ← hr, hprogram, Run, Run, Tree.run, hanswer]
  rfl

/-- **A step of a packet** keeps what holds of it. -/
theorem Judged.step {k : MapKernel} (hk : Installed k) (hne : k.installs ≠ []) {r : PacketRun}
    (h : Judged k r) (torn : (c : XdpCall) → XdpAnswer c) : Judged k (r.step k torn) := by
  unfold PacketRun.step
  cases hprogram : r.program with
  | ret action => exact h
  | call c next =>
    cases hanswer : packetAnswer k torn r.helper c r.state with
    | none =>
      simp only [hanswer]
      exact h
    | some result =>
      obtain ⟨a, s⟩ := result
      simp only [hanswer]
      unfold Judged at h
      split at h
      · rename_i hlookups
        obtain ⟨honce, hfollows⟩ := h
        rw [hprogram] at honce
        by_cases hactive : ∃ key, c = .lookupActive key
        · -- it looks, and finds what was put there last
          obtain ⟨key, rfl⟩ := hactive
          obtain ⟨rfl, -, honce⟩ := honce
          obtain ⟨i, rest, hinstalls⟩ := List.exists_cons_of_ne_nil hne
          have houter : k.outer = some i.1 := by
            rw [hk.outer, hinstalls]
            rfl
          have ha : (some (k.outer, r.state) : Option (Option ℕ × PacketState)) = some (a, s) := hanswer
          rw [houter, Option.some.injEq, Prod.mk.injEq] at ha
          obtain ⟨rfl, rfl⟩ := ha
          simp only [Judged, remember, hlookups]
          refine ⟨List.suffix_rfl, i.1, i.2, rest, hinstalls, honce i.1, fun maps hmap _ => ?_⟩
          refine follows_of_answer (hfollows maps) hprogram ?_ ⟨rfl, rfl, rfl, rfl⟩
          change some (maps.active, r.state) = _
          rw [hmap]
        · have hne' : ∀ key, c ≠ .lookupActive key := fun key he => hactive ⟨key, he⟩
          have hbasic : c.Basic ∧ ∀ a, LooksOnce (next a) := by
            cases c <;> first | exact honce | exact absurd rfl (hne' _)
          simp only [Judged, remember_of_ne hne', hlookups]
          refine ⟨hbasic.2 a, fun maps => follows_of_answer (hfollows maps) hprogram ?_ ⟨rfl, rfl, rfl, rfl⟩⟩
          rw [← packetAnswer_basic hbasic.1 k torn, hanswer]
      · rename_i history hlookups
        obtain ⟨hsuffix, map, snapshot, rest, hhistory, huses, hfollows⟩ := h
        rw [hprogram] at huses
        have hne' : ∀ key, c ≠ .lookupActive key := by
          rintro key rfl
          exact huses.1
        have hi : (map, snapshot) ∈ k.installs := hsuffix.subset (hhistory ▸ List.mem_cons_self)
        simp only [Judged, remember_of_ne hne', hlookups]
        refine ⟨hsuffix, map, snapshot, rest, hhistory, huses.2 a, fun maps hmap hsnapshot => ?_⟩
        refine follows_of_answer (hfollows maps hmap hsnapshot) hprogram ?_ ⟨rfl, rfl, rfl, rfl⟩
        rw [← packetAnswer_holding hk hi huses.1 hsnapshot torn, hanswer]
      · exact h.elim

/-! ### What holds of the plane -/

/-- What holds at every point of every run. -/
structure Coherent (w : Plane) : Prop where
  /-- What is installed is sound. -/
  installed : Installed w.kernel
  /-- The publication under way keeps it so. -/
  publishing : ∀ program, w.publishing = some program → program.Always Responds Installed
    (fun r k => Installed k ∧ (r.1 = w.store ∨ k.installs ≠ [])) w.kernel
  /-- A store with a generation has put it in the slot. -/
  store : w.store.generation ≠ 0 → w.kernel.installs ≠ []
  /-- The program is attached after that. -/
  attached : w.attached = true → w.kernel.installs ≠ []
  /-- Every packet is judged by one snapshot. -/
  packets : ∀ packet r, w.packets packet = some r → w.kernel.installs ≠ [] ∧ Judged w.kernel r
  /-- No configuration was found invalid. -/
  stats : w.stats .invalidConfigPackets = 0

/-- What is counted stays counted. -/
theorem run_counts {α : Type} {maps : XdpMaps} {helper : UInt32 → ℤ} {m : XdpProgram α} {s s' : PacketState}
    {a : α} (h : Run maps helper m s = some (a, s')) : s.counts <:+ s'.counts := by
  induction m generalizing s with
  | ret a =>
    obtain ⟨-, rfl⟩ := Prod.mk.inj (Option.some.inj h)
    exact List.suffix_rfl
  | call c next ih =>
    have hstep : ∀ {b s₁}, answer maps helper c s = some (b, s₁) → s.counts <:+ s₁.counts := by
      intro b s₁ hb
      cases c <;> simp only [answer, Option.map_eq_some_iff] at hb
      all_goals first
        | (obtain ⟨_, _, hb⟩ := hb; obtain ⟨-, rfl⟩ := Prod.mk.inj hb; exact List.suffix_rfl)
        | (split at hb
           · obtain ⟨-, rfl⟩ := Prod.mk.inj (Option.some.inj hb); exact List.suffix_rfl
           · cases hb)
        | (obtain ⟨-, rfl⟩ := Prod.mk.inj (Option.some.inj hb)
           first | exact List.suffix_rfl | exact List.suffix_cons _ _)
    rw [Run, Tree.run, Option.bind_eq_some_iff] at h
    obtain ⟨⟨b, s₁⟩, hb, hrun⟩ := h
    exact (hstep hb).trans (ih b hrun)

/-- A packet ends as its frame deserves by an accepted snapshot. -/
theorem Judged.ends {k : MapKernel} (hk : Installed k) (hne : k.installs ≠ []) {r : PacketRun}
    (h : Judged k r) : ∃ maps snapshot, Accepted snapshot ∧ Run maps r.helper r.program r.state =
      some ((runtimeVerdict (some snapshot) r.frame).outcome .drop r.helper
        (PacketState.counted { frame := r.frame } .totalPackets)) := by
  have hrun : ∀ i ∈ k.installs, (∀ maps : XdpMaps, maps.active = some i.1 → maps.snapshots i.1 = i.2 →
      r.FollowsFrom maps) → ∃ maps snapshot, Accepted snapshot ∧ Run maps r.helper r.program r.state =
        some ((runtimeVerdict (some snapshot) r.frame).outcome .drop r.helper
          (PacketState.counted { frame := r.frame } .totalPackets)) := by
    intro i hi hfollows
    let maps : XdpMaps := { k.asFound with active := some i.1, snapshots := fun _ => i.2 }
    refine ⟨maps, i.2, (hk.sound i hi).2.2, ?_⟩
    exact (hfollows maps rfl rfl).trans (run_xdp_udp_rt (s := { frame := r.frame }))
  unfold Judged at h
  split at h
  · obtain ⟨i, rest, hinstalls⟩ := List.exists_cons_of_ne_nil hne
    exact hrun i (hinstalls ▸ List.mem_cons_self) fun maps _ _ => h.2 maps
  · obtain ⟨hsuffix, map, snapshot, rest, rfl, -, hfollows⟩ := h
    exact hrun (map, snapshot) (hsuffix.subset List.mem_cons_self) hfollows
  · exact h.elim

theorem outcome_counts {verdict : Verdict} (h : verdict ≠ .invalidConfig) (helper : UInt32 → ℤ)
    {s : PacketState} (hs : .invalidConfigPackets ∉ s.counts) :
    .invalidConfigPackets ∉ (verdict.outcome .drop helper s).2.counts := by
  cases verdict with
  | invalidConfig => exact absurd rfl h
  | unsupported => simpa [Verdict.outcome, PacketState.counted] using hs
  | noBackend => simpa [Verdict.outcome, PacketState.counted] using hs
  | redirect backend =>
    simp only [Verdict.outcome]
    split <;> simpa [PacketState.counted] using hs

/-- **No packet finds the configuration invalid.** -/
theorem Judged.counting_ne {k : MapKernel} (hk : Installed k) (hne : k.installs ≠ []) {r : PacketRun}
    (h : Judged k r) : r.counting ≠ some .invalidConfigPackets := by
  intro hcounting
  obtain ⟨maps, snapshot, haccepted, hrun⟩ := h.ends hk hne
  unfold PacketRun.counting at hcounting
  split at hcounting
  · rename_i counter next hprogram
    obtain rfl := Option.some.inj hcounting
    rw [hprogram] at hrun
    have hnext : Run maps r.helper (next ()) { r.state with counts := .invalidConfigPackets :: r.state.counts } =
        some ((runtimeVerdict (some snapshot) r.frame).outcome .drop r.helper
          (PacketState.counted { frame := r.frame } .totalPackets)) := hrun
    have hmem := (run_counts hnext).subset (List.mem_cons_self ..)
    exact outcome_counts (haccepted.usable.verdict_ne r.frame) r.helper (by simp [PacketState.counted]) hmem
  · cases hcounting

theorem installed_start : Installed {} :=
  ⟨rfl, fun _ h => absurd h List.not_mem_nil, fun _ _ h => by cases h⟩

theorem coherent_start : Coherent {} :=
  ⟨installed_start, fun _ h => (by cases h), fun h => absurd rfl h, fun h => (by cases h),
    fun _ _ h => (by cases h), rfl⟩

/-- **Whoever does its next call, the plane stays coherent.** -/
theorem Coherent.act {w : Plane} (h : Coherent w) (action : PlaneAction) : Coherent (w.act action) := by
  cases action with
  | publish snapshot =>
    simp only [Plane.act]
    cases hpublishing : w.publishing with
    | some _ => exact h
    | none =>
      refine ⟨h.installed, fun program hprogram => ?_, h.store, h.attached, h.packets, h.stats⟩
      obtain rfl := Option.some.inj hprogram
      exact always_publishSnapshot w.store snapshot h.installed
  | mapCall choice =>
    simp only [Plane.act]
    split
    · rename_i c next hpublishing
      obtain ⟨hinstalled, hnext⟩ := h.publishing _ hpublishing _ _ ⟨choice, rfl⟩
      have hsuffix := respond_installs choice c w.kernel
      have hmono : w.kernel.installs ≠ [] → (w.kernel.respond choice c).2.installs ≠ [] := by
        intro hne he
        rw [he] at hsuffix
        exact hne (List.suffix_nil.mp hsuffix)
      refine ⟨hinstalled, fun program hprogram => ?_, fun hg => hmono (h.store hg),
        fun ha => hmono (h.attached ha), fun packet r hr => ?_, h.stats⟩
      · obtain rfl := Option.some.inj hprogram
        exact hnext
      · obtain ⟨hne, hjudged⟩ := h.packets packet r hr
        exact ⟨hmono hne, hjudged.mono hsuffix⟩
    · exact h
  | published =>
    simp only [Plane.act]
    split
    · rename_i r hpublishing
      obtain ⟨-, hstore⟩ := h.publishing _ hpublishing
      refine ⟨h.installed, fun _ hp => (by cases hp), fun hg => ?_, h.attached, h.packets, h.stats⟩
      rcases hstore with hsame | hne
      · exact h.store (hsame ▸ hg)
      · exact hne
    · exact h
  | attach =>
    simp only [Plane.act]
    split
    · rename_i hattach
      exact ⟨h.installed, h.publishing, h.store, fun _ => h.store hattach.2, h.packets, h.stats⟩
    · exact h
  | arrive packet frame helper =>
    simp only [Plane.act]
    split
    · rename_i harrive
      refine ⟨h.installed, h.publishing, h.store, h.attached, fun packet' r hr => ?_, h.stats⟩
      by_cases he : packet' = packet
      · subst he
        simp only [Function.update_self, Option.some.injEq] at hr
        subst hr
        exact ⟨h.attached harrive.1, looksOnce_xdp_udp_rt, fun maps => rfl⟩
      · simp only [Function.update_of_ne he] at hr
        exact h.packets packet' r hr
    · exact h
  | packet packet torn =>
    simp only [Plane.act]
    split
    · exact h
    · rename_i r hpacket
      obtain ⟨hne, hjudged⟩ := h.packets packet r hpacket
      refine ⟨h.installed, h.publishing, h.store, h.attached, fun packet' r' hr' => ?_, ?_⟩
      · by_cases he : packet' = packet
        · subst he
          simp only [Function.update_self, Option.some.injEq] at hr'
          subst hr'
          exact ⟨hne, hjudged.step h.installed hne torn⟩
        · simp only [Function.update_of_ne he] at hr'
          exact h.packets packet' r' hr'
      · have hcounting := hjudged.counting_ne h.installed hne
        unfold countPacket
        split
        · exact h.stats
        · rename_i counter hc
          have hcounter : XdpCounter.invalidConfigPackets ≠ counter := fun he => hcounting (he ▸ hc)
          exact (Function.update_of_ne hcounter _ _).trans h.stats

theorem Coherent.run {w : Plane} (h : Coherent w) (schedule : List PlaneAction) :
    Coherent (w.run schedule) := by
  induction schedule generalizing w with
  | nil => exact h
  | cons action schedule ih => exact ih (h.act action)

/-- What a packet has come to, when it was judged by the snapshot given. -/
def PacketRun.EndsBy (r : PacketRun) (snapshot : UdpRuntimeSnapshot) (action : XdpAction) : Prop :=
  (action, r.state) = (runtimeVerdict (some snapshot) r.frame).outcome .drop r.helper
    (PacketState.counted { frame := r.frame } .totalPackets)

/-- A packet that was sent on went by one backend of the snapshot. -/
def PacketRun.SentBy (r : PacketRun) (snapshot : UdpRuntimeSnapshot) : Prop :=
  ∃ slot : Fin 64, slot.val < snapshot.backendCount.toNat ∧
    r.state.requested = [(snapshot.backends.get slot).ifindex] ∧
    r.state.frame = rewritten r.frame (snapshot.backends.get slot)

theorem PacketRun.EndsBy.sentBy {r : PacketRun} {snapshot : UdpRuntimeSnapshot} (h : Usable snapshot)
    (hend : r.EndsBy snapshot .redirect) : r.SentBy snapshot := by
  unfold PacketRun.EndsBy at hend
  cases hverdict : runtimeVerdict (some snapshot) r.frame with
  | redirect backend =>
    rw [hverdict] at hend
    have hbackend : snapshot.backendCount ≠ 0 ∧ snapshotBackend snapshot r.frame = backend := by
      simp only [runtimeVerdict] at hverdict
      split_ifs at hverdict with _ _ _ hzero _
      exact ⟨hzero, Verdict.redirect.inj hverdict⟩
    obtain ⟨slot, hslot, hget⟩ := h.snapshotBackend hbackend.1 r.frame
    simp only [Verdict.outcome] at hend
    split at hend
    · obtain ⟨-, hstate⟩ := Prod.mk.inj hend
      refine ⟨slot, hslot, ?_, ?_⟩
      · rw [hstate, ← hget, hbackend.2]
        rfl
      · rw [hstate, ← hget, hbackend.2]
        rfl
    · cases (Prod.mk.inj hend).1
  | _ =>
    rw [hverdict] at hend
    cases (Prod.mk.inj hend).1

/-- **Every packet is judged by exactly one snapshot.** In every run of one publisher and
any number of packets, each doing its calls in any order, with whatever results of the
map operations:

* whatever was put in the slot was accepted, is frozen, and holds what it held then;
* a packet looks into the slot at most once; what had been put there last when it looked
  is a map and its snapshot, and the packet, if it has ended, has ended as its frame
  deserves by that snapshot;
* a packet that ended without looking would have ended so by any snapshot;
* a packet that was redirected went by the interface and both addresses of one backend,
  below the count, of the snapshot it found;
* the configuration is never counted invalid. -/
theorem runtime_snapshot_atomic (schedule : List PlaneAction) :
    let w := Plane.run {} schedule
    (∀ i ∈ w.kernel.installs, Accepted i.2 ∧ w.kernel.maps i.1 = ⟨i.2, true⟩) ∧
      (∀ packet r, w.packets packet = some r → r.lookups.length ≤ 1 ∧
        (∀ history ∈ r.lookups, history <:+ w.kernel.installs ∧ ∃ i rest, history = i :: rest ∧
          ∀ action, r.program = .ret action → r.EndsBy i.2 action ∧
            (action = .redirect → r.SentBy i.2)) ∧
        (r.lookups = [] → ∀ action, r.program = .ret action → action ≠ .redirect ∧
          ∀ snapshot, r.EndsBy snapshot action)) ∧
      w.stats .invalidConfigPackets = 0 := by
  intro w
  have h : Coherent w := coherent_start.run schedule
  have hsound := h.installed.sound
  refine ⟨fun i hi => ⟨(hsound i hi).2.2, (hsound i hi).2.1⟩, fun packet r hr => ?_, h.stats⟩
  obtain ⟨-, hjudged⟩ := h.packets packet r hr
  have hends : ∀ (map : ℕ) {snapshot : UdpRuntimeSnapshot} {action : XdpAction},
      r.program = .ret action → (∀ maps : XdpMaps, maps.active = some map → maps.snapshots map = snapshot →
        r.FollowsFrom maps) → r.EndsBy snapshot action := by
    intro map snapshot action hprogram hfollows
    have hrun := hfollows { w.kernel.asFound with active := some map, snapshots := fun _ => snapshot } rfl rfl
    rw [PacketRun.FollowsFrom, run_xdp_udp_rt, hprogram] at hrun
    exact Option.some.inj hrun
  unfold Judged at hjudged
  split at hjudged
  · rename_i hlookups
    refine ⟨by simp [hlookups], by simp [hlookups], fun _ action hprogram => ?_⟩
    have hall : ∀ snapshot, r.EndsBy snapshot action := fun snapshot =>
      hends 0 hprogram fun maps _ _ => hjudged.2 maps
    refine ⟨?_, hall⟩
    -- by a snapshot without backends no packet is redirected
    rintro rfl
    have husable : Usable { (default : UdpRuntimeSnapshot) with schemaVersion := 3, generation := 1 } :=
      ⟨rfl, by decide, rfl, by decide, fun _ hindex => absurd hindex (Nat.not_lt_zero _)⟩
    obtain ⟨slot, hslot, -⟩ := (hall _).sentBy husable
    exact absurd hslot (Nat.not_lt_zero _)
  · rename_i history hlookups
    obtain ⟨hsuffix, map, snapshot, rest, rfl, -, hfollows⟩ := hjudged
    refine ⟨by simp [hlookups], fun history hhistory => ?_, fun hnil => by simp [hlookups] at hnil⟩
    rw [hlookups, List.mem_singleton] at hhistory
    subst hhistory
    have haccepted := (hsound _ (hsuffix.subset List.mem_cons_self)).2.2
    refine ⟨hsuffix, (map, snapshot), rest, rfl, fun action hprogram => ?_⟩
    have hend := hends _ hprogram hfollows
    refine ⟨hend, ?_⟩
    rintro rfl
    exact hend.sentBy haccepted.usable
  · exact hjudged.elim

end L4lb.Xdp
