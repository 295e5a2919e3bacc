import L4lb.Xdp.SnapshotAtomicity

/-!
# A publication fails as a whole

Whatever goes wrong in `publishSnapshot`, either nothing of the new snapshot is left, or
it is published and only the confirmation failed.

## The model

The kernel is that of `RuntimeMapStore`, and may lie once more: a freeze may say it was
done and not be, which is what the probe of `verifyFrozenSnapshot` is for. A `Ledger` is the
kernel with the descriptors the store was given and those it closed, in order; nothing
reads that history. `Holding` is a store in use: it was made, and then has published,
well or badly, any number of times.
-/

namespace L4lb.Xdp

open Effect

/-! ### The ledger -/

/-- What becomes of a descriptor. -/
inductive FdEvent where
  /-- The kernel gave it. -/
  | opened (fd : ℤ)
  /-- The store closed it. -/
  | closed (fd : ℤ)
  deriving DecidableEq, Repr

/-- The kernel, and the descriptors that were opened and closed. -/
structure Ledger where
  /-- The maps. -/
  kernel : MapKernel
  /-- What became of descriptors, in order. -/
  events : List FdEvent := []

/-- What a call that was answered so does to descriptors. -/
def fdEvents : (c : MapCall) → MapAnswer c → List FdEvent
  | .create, .ok fd => [.opened fd]
  | .close fd, _ => [.closed fd]
  | _, _ => []

/-- One descriptor owned more, or less; nobody closes what is not owned. -/
def FdEvent.own (fds : List ℤ) : FdEvent → Option (List ℤ)
  | .opened fd => some (fd :: fds)
  | .closed fd => if fd ∈ fds then some (fds.erase fd) else none

/-- The descriptors owned after a history, if each was closed at most once, and only when
it was owned. -/
def owned (events : List FdEvent) : Option (List ℤ) := events.foldlM FdEvent.own []

theorem owned_append (events events' : List FdEvent) :
    owned (events ++ events') = (owned events).bind fun fds => events'.foldlM FdEvent.own fds :=
  List.foldlM_append

/-- Permission for a write was refused. -/
def Refuses : (c : MapCall) → MapAnswer c → Prop
  | .update _ _, .error error => error = .EPERM ∨ error = .EACCES
  | _, _ => False

/-- A freeze is said to be done. -/
def SaysFrozen : (c : MapCall) → MapAnswer c → Prop
  | .freeze _, .ok () => True
  | _, _ => False

/-- The kernel can answer so: as it should, where a write that is refused writes nothing;
or a freeze is said to be done and was not. -/
def Performs (c : MapCall) (k : MapKernel) (a : MapAnswer c) (k' : MapKernel) : Prop :=
  (Responds c k a k' ∧ (Refuses c a → k' = k)) ∨ (SaysFrozen c a ∧ k' = k)

/-- A call is answered, and what it does to descriptors is written down. -/
def Records (c : MapCall) (l : Ledger) (a : MapAnswer c) (l' : Ledger) : Prop :=
  Performs c l.kernel a l'.kernel ∧ l'.events = l.events ++ fdEvents c a

theorem Performs.responds {c : MapCall} {k k' : MapKernel} {a : MapAnswer c} (h : Performs c k a k')
    (hfreeze : ∀ fd, c ≠ .freeze fd) : Responds c k a k' := by
  rcases h with ⟨hr, -⟩ | ⟨hfrozen, -⟩
  · exact hr
  · cases c with
    | freeze fd => exact absurd rfl (hfreeze fd)
    | _ => exact hfrozen.elim

/-- Only the update of the slot adds to its history. -/
theorem Performs.installs {c : MapCall} {k k' : MapKernel} {a : MapAnswer c} (h : Performs c k a k')
    (hc : ∀ fd, c ≠ .updateOuter fd) : k'.installs = k.installs := by
  obtain ⟨⟨choice, hk⟩, -⟩ | ⟨-, rfl⟩ := h
  · rw [show k' = (k.respond choice c).2 from (congrArg Prod.snd hk).symm]
    clear hk
    cases c with
    | updateOuter fd => exact absurd rfl (hc fd)
    | close fd => rfl
    | _ =>
      simp only [MapKernel.respond]
      (repeat' split) <;> rfl
  · rfl

/-! ### The candidate -/

/-- The ledger with another value in a map. -/
def Ledger.setMap (l : Ledger) (map : ℕ) (inner : InnerMap) : Ledger :=
  { l with kernel := l.kernel.setMap map inner }

@[simp] theorem MapKernel.setMap_setMap (k : MapKernel) (map : ℕ) (inner inner' : InnerMap) :
    (k.setMap map inner).setMap map inner' = k.setMap map inner' := by
  simp [MapKernel.setMap]

@[simp] theorem MapKernel.setMap_maps (k : MapKernel) (map : ℕ) (inner : InnerMap) :
    (k.setMap map inner).maps map = inner := by
  simp [MapKernel.setMap]

theorem MapKernel.setMap_self (k : MapKernel) (map : ℕ) : k.setMap map (k.maps map) = k := by
  simp [MapKernel.setMap]

/-- At most the value of one map has changed. -/
def Ledger.Within (map : ℕ) (l l' : Ledger) : Prop := ∃ inner, l' = l.setMap map inner

section Candidate

variable {l l' l₁ l₂ : Ledger} {fd : ℤ} {map : ℕ}

theorem Ledger.Within.refl (map : ℕ) (l : Ledger) : l.Within map l :=
  ⟨l.kernel.maps map, by rw [Ledger.setMap, MapKernel.setMap_self]⟩

theorem Ledger.Within.trans (h : l.Within map l₁) (h' : l₁.Within map l₂) : l.Within map l₂ := by
  obtain ⟨inner, rfl⟩ := h
  obtain ⟨inner', rfl⟩ := h'
  exact ⟨inner', by simp [Ledger.setMap]⟩

/-- A call that opens and closes nothing. -/
theorem Records.eq_of_kernel {c : MapCall} {a : MapAnswer c} (h : Records c l a l')
    (hevents : fdEvents c a = []) {k : MapKernel} (hk : l'.kernel = k) : l' = { l with kernel := k } := by
  obtain ⟨-, hl⟩ := h
  rw [hevents, List.append_nil] at hl
  obtain ⟨kernel, events⟩ := l'
  subst hk hl
  rfl

/-- A write to the candidate: if it was done, the map holds the snapshot; if it was
refused, nothing was written. -/
theorem records_update {snapshot : UdpRuntimeSnapshot} {a : Except Errno Unit}
    (hfd : l.kernel.fds fd = some map) (h : Records (.update fd snapshot) l a l') :
    l.Within map l' ∧ (a = .ok () → (l'.kernel.maps map).value = snapshot) ∧
      (∀ error, a = .error error → error = .EPERM ∨ error = .EACCES → l' = l) := by
  have hevents : fdEvents (.update fd snapshot) a = [] := by cases a <;> rfl
  obtain ⟨hr, hrefused⟩ | ⟨hfrozen, -⟩ := h.1
  · rcases responds_update hfd hr with ⟨hk, hne⟩ | ⟨-, v, hk, hv⟩
    · obtain rfl := h.eq_of_kernel hevents hk
      exact ⟨.refl map l, fun he => absurd he hne, fun _ _ _ => rfl⟩
    · refine ⟨⟨_, h.eq_of_kernel hevents hk⟩, fun he => ?_, ?_⟩
      · rw [hk, MapKernel.setMap_maps]
        exact hv he
      · rintro error rfl hdenied
        exact h.eq_of_kernel hevents (hrefused hdenied)
  · exact hfrozen.elim

theorem records_lookup {a : Except Errno UdpRuntimeSnapshot} (h : Records (.lookup fd) l a l') : l' = l :=
  h.eq_of_kernel (by cases a <;> rfl) (responds_lookup (h.1.responds fun _ => nofun))

theorem records_info {a : Except Errno MapInfo} (h : Records (.info fd) l a l') : l' = l :=
  h.eq_of_kernel (by cases a <;> rfl) (responds_info (h.1.responds fun _ => nofun))

theorem records_lookupOuter {a : Except Errno ℕ} (h : Records .lookupOuter l a l') : l' = l :=
  h.eq_of_kernel (by cases a <;> rfl) (responds_lookupOuter (h.1.responds fun _ => nofun))

/-- A freeze does not change the value. -/
theorem records_freeze {a : Except Errno Unit} (hfd : l.kernel.fds fd = some map)
    (h : Records (.freeze fd) l a l') :
    l.Within map l' ∧ (l'.kernel.maps map).value = (l.kernel.maps map).value := by
  have hevents : fdEvents (.freeze fd) a = [] := by cases a <;> rfl
  have hsame : l'.kernel = l.kernel → l.Within map l' ∧
      (l'.kernel.maps map).value = (l.kernel.maps map).value := by
    intro hk
    obtain rfl := h.eq_of_kernel hevents hk
    exact ⟨.refl map l, rfl⟩
  obtain ⟨hr, -⟩ | ⟨-, hk⟩ := h.1
  · rcases responds_freeze hfd hr with ⟨hk, -⟩ | hk
    · exact hsame hk
    · refine ⟨⟨_, h.eq_of_kernel hevents hk⟩, ?_⟩
      rw [hk, MapKernel.setMap_maps]
  · exact hsame hk

theorem records_close (h : Records (.close fd) l () l') :
    l' = ⟨{ l.kernel with fds := Function.update l.kernel.fds fd none }, l.events ++ [.closed fd]⟩ := by
  obtain ⟨choice, hk⟩ := h.1.responds fun _ => nofun
  obtain ⟨kernel, events⟩ := l'
  obtain ⟨-, rfl⟩ := h
  obtain rfl := (Prod.mk.inj hk).2
  rfl

/-- **What is done to a candidate before it is put in the slot** touches nothing else; if
all went well its map holds the snapshot, and no error says that it was committed. -/
theorem records_prepareCandidate (snapshot : UdpRuntimeSnapshot) (hfd : l.kernel.fds fd = some map) :
    (prepareCandidate fd snapshot).Always Records (fun _ => True)
      (fun r l' => l.Within map l' ∧ (∀ e, r = .error e → e.committed = false) ∧
        ∀ info, r = .ok info → (l'.kernel.maps map).value = snapshot) l := by
  have hbad : ∀ {l₁ : Ledger} {e : PublishError}, l.Within map l₁ → e.committed = false →
      l.Within map l₁ ∧ (∀ e', (.error e : Except PublishError MapInfo) = .error e' → e'.committed = false) ∧
        ∀ info, (.error e : Except PublishError MapInfo) = .ok info → (l₁.kernel.maps map).value = snapshot :=
    fun h₁ he => ⟨h₁, fun e' h => by cases h; exact he, fun _ h => nomatch h⟩
  have hopen : ∀ {l₁ : Ledger}, l.Within map l₁ → l₁.kernel.fds fd = some map := by
    rintro - ⟨inner, rfl⟩
    exact hfd
  unfold prepareCandidate
  refine Tree.Always.ask_bind fun a l₁ hr => ⟨trivial, ?_⟩
  -- the write
  obtain ⟨h₁, hv₁, -⟩ := records_update hfd hr
  rcases a with e | ⟨⟩
  · exact hbad h₁ rfl
  have hv₁ := hv₁ rfl
  -- the readback
  refine Tree.Always.ask_bind fun a l₂ hr => ⟨trivial, ?_⟩
  obtain rfl := records_lookup hr
  rcases a with e | readback
  · exact hbad h₁ rfl
  dsimp only
  split
  · exact hbad h₁ rfl
  -- the freeze
  refine Tree.Always.ask_bind fun a l₃ hr => ⟨trivial, ?_⟩
  obtain ⟨h₃, hv₃⟩ := records_freeze (hopen h₁) hr
  have h₃ := h₁.trans h₃
  rw [hv₁] at hv₃
  rcases a with e | ⟨⟩
  · exact hbad h₃ rfl
  -- the metadata
  refine Tree.Always.bind (Q := fun r l' => l' = l₃ ∧ ∀ e, r = .error e → e.committed = false) ?_ ?_
  · unfold validateMapMetadata
    refine Tree.Always.ask_bind fun a l₄ hr => ⟨trivial, ?_⟩
    obtain rfl := records_info hr
    rcases a with e | info
    · exact ⟨rfl, fun e' h => by cases h; rfl⟩
    · dsimp only
      split
      · exact ⟨rfl, fun e' h => by cases h; rfl⟩
      · exact ⟨rfl, fun e' h => nomatch h⟩
  rintro r l₄ ⟨rfl, herror⟩
  rcases r with e | info
  · exact hbad h₃ (herror e rfl)
  -- the write that must be refused
  refine Tree.Always.bind (Q := fun r l' => l₄.Within map l' ∧ (∀ e, r = .error e → e.committed = false) ∧
    (r = .ok () → l' = l₄)) ?_ ?_
  · unfold verifyFrozenSnapshot
    refine Tree.Always.ask_bind fun a l₅ hr => ⟨trivial, ?_⟩
    obtain ⟨h₅, -, hrefused⟩ := records_update (hopen h₃) hr
    rcases a with e | ⟨⟩
    · dsimp only
      split
      · exact ⟨h₅, fun e' h => by cases h; rfl, fun h => nomatch h⟩
      · rename_i hdenied
        exact ⟨h₅, fun e' h => (nomatch h), fun _ => hrefused e rfl (by tauto)⟩
    · exact ⟨h₅, fun e' h => by cases h; rfl, fun h => nomatch h⟩
  rintro r l₅ ⟨h₅, herror, hsame⟩
  rcases r with e | ⟨⟩
  · exact hbad (h₃.trans h₅) (herror e rfl)
  · obtain rfl := hsame rfl
    exact ⟨h₃, fun e' h => (nomatch h), fun _ _ => hv₃⟩

end Candidate

/-! ### How a publication ends -/

/-- A publication that changed nothing: the store, the slot, the maps there were and the
descriptors are as before; the candidate, if one was made, was closed, once; and the error
does not say that the snapshot was committed. -/
structure Unpublished (store : RuntimeMapStore) (l : Ledger)
    (r : RuntimeMapStore × Except PublishError Unit) (l' : Ledger) : Prop where
  /-- `activeFd_` and `generation_` are as before. -/
  store_eq : r.1 = store
  /-- So is the slot. -/
  outer : l'.kernel.outer = l.kernel.outer
  /-- So are the maps there were. -/
  maps : ∀ map < l.kernel.nextMap, l'.kernel.maps map = l.kernel.maps map
  /-- So are the descriptors. -/
  fds : l'.kernel.fds = l.kernel.fds
  /-- A candidate was opened and closed, or there was none. -/
  events : l'.events = l.events ∨ ∃ fd, l'.events = l.events ++ [.opened fd, .closed fd]
  /-- The error is not one of a publication. -/
  result : ∃ e, r.2 = .error e ∧ e.committed = false

/-- A publication that was committed: the slot and the store have the new map, which holds
the snapshot; the descriptor before was closed, once; and an error says that the snapshot was
committed. -/
structure Published (store : RuntimeMapStore) (snapshot : UdpRuntimeSnapshot) (l : Ledger)
    (r : RuntimeMapStore × Except PublishError Unit) (l' : Ledger) (fd : ℕ) : Prop where
  /-- `activeFd_` and `generation_` are of the snapshot. -/
  store_eq : r.1 = ⟨fd, snapshot.generation⟩
  /-- It follows the one before. -/
  generation : snapshot.generation.toNat = store.generation.toNat + 1
  /-- The descriptor is of a new map. -/
  fd_eq : l'.kernel.fds fd = some l.kernel.nextMap
  /-- It is in the slot. -/
  outer : l'.kernel.outer = some l.kernel.nextMap
  /-- It holds the snapshot. -/
  value : (l'.kernel.maps l.kernel.nextMap).value = snapshot
  /-- The maps there were are as before. -/
  maps : ∀ map < l.kernel.nextMap, l'.kernel.maps map = l.kernel.maps map
  /-- There is one map more. -/
  nextMap : l'.kernel.nextMap = l.kernel.nextMap + 1
  /-- The descriptor was opened, and the one before closed. -/
  events : l'.events = l.events ++
    .opened fd :: if store.activeFd ≥ 0 then [.closed store.activeFd] else []
  /-- An error says that the snapshot was committed. -/
  result : ∀ e, r.2 = .error e → e.committed = true

/-- A store in use: it is new, or it has the descriptor of the map in the slot, which holds
a snapshot of its generation; and it owns that descriptor and no other. -/
structure Holding (store : RuntimeMapStore) (l : Ledger) : Prop where
  /-- What it owns. -/
  owns : owned l.events = some (if store.activeFd ≥ 0 then [store.activeFd] else [])
  /-- Its descriptor is of the map in the slot. -/
  active : store.activeFd ≥ 0 → ∃ map < l.kernel.nextMap, l.kernel.fds store.activeFd = some map ∧
    l.kernel.outer = some map ∧ (l.kernel.maps map).value.generation = store.generation
  /-- Without one it has published nothing. -/
  fresh : ¬ store.activeFd ≥ 0 → store.generation = 0

theorem Holding.unpublished {store : RuntimeMapStore} {l l' : Ledger}
    {r : RuntimeMapStore × Except PublishError Unit} (h : Holding store l)
    (hr : Unpublished store l r l') (hnext : l.kernel.nextMap ≤ l'.kernel.nextMap) : Holding r.1 l' := by
  rw [hr.store_eq]
  refine ⟨?_, fun hactive => ?_, h.fresh⟩
  · rcases hr.events with he | ⟨fd, he⟩
    · rw [he, h.owns]
    · rw [he, owned_append, h.owns]
      simp [FdEvent.own]
  · obtain ⟨map, hlt, hfd, houter, hvalue⟩ := h.active hactive
    refine ⟨map, hlt.trans_le hnext, ?_, ?_, ?_⟩
    · rw [hr.fds, hfd]
    · rw [hr.outer, houter]
    · rw [hr.maps map hlt, hvalue]

theorem Holding.published {store : RuntimeMapStore} {snapshot : UdpRuntimeSnapshot} {l l' : Ledger}
    {r : RuntimeMapStore × Except PublishError Unit} {fd : ℕ} (h : Holding store l)
    (hr : Published store snapshot l r l' fd) (hne : store.activeFd ≠ fd) : Holding r.1 l' := by
  have hpos : (fd : ℤ) ≥ 0 := Int.natCast_nonneg fd
  rw [hr.store_eq]
  refine ⟨?_, fun _ => ⟨_, hr.nextMap ▸ Nat.lt_succ_self _, hr.fd_eq, hr.outer, ?_⟩, fun hn => absurd hpos hn⟩
  · rw [hr.events, owned_append, h.owns, if_pos hpos]
    by_cases hactive : store.activeFd ≥ 0
    · simp [hactive, FdEvent.own, hne, Ne.symm hne]
    · simp [hactive, FdEvent.own]
  · rw [hr.value]

theorem generation_of_valid {snapshot : UdpRuntimeSnapshot} {generation : UInt64}
    (h : validateCandidateSnapshot snapshot generation = .ok ()) :
    snapshot.generation.toNat = generation.toNat + 1 := by
  unfold validateCandidateSnapshot at h
  split at h
  · cases h
  rename_i hchecks
  simp only [not_or, not_not] at hchecks
  obtain ⟨-, -, -, hmax, hgeneration, -, -⟩ := hchecks
  have hlt : generation.toNat ≠ 2 ^ 64 - 1 := by
    intro he
    exact hmax (UInt64.toNat_inj.mp he)
  have := generation.toNat_lt
  rw [hgeneration, UInt64.toNat_add]
  simp only [UInt64.reduceToNat]
  omega

theorem forM_error {α : Type} {f : α → Except PublishError Unit} {xs : List α} {e : PublishError}
    (h : xs.forM f = .error e) : ∃ x ∈ xs, f x = .error e := by
  induction xs with
  | nil => cases h
  | cons y ys ih =>
    rw [List.forM_eq_forM, List.forM_cons] at h
    cases hy : f y with
    | error e' =>
      rw [hy] at h
      cases h
      exact ⟨y, List.mem_cons_self, hy⟩
    | ok u =>
      rw [hy] at h
      obtain ⟨x, hx, he⟩ := ih h
      exact ⟨x, List.mem_cons_of_mem y hx, he⟩

/-- A snapshot that is not valid was not committed. -/
theorem not_committed_of_invalid {snapshot : UdpRuntimeSnapshot} {generation : UInt64} {e : PublishError}
    (h : validateCandidateSnapshot snapshot generation = .error e) : e.committed = false := by
  unfold validateCandidateSnapshot at h
  split at h
  · cases h
    rfl
  · obtain ⟨index, -, hslot⟩ := forM_error h
    simp only [validateSlot] at hslot
    split_ifs at hslot
    · cases hslot
      rfl
    · cases hslot
      rfl

/-- How a publication ends: as if it had never been tried, or published. -/
def Outcome (store : RuntimeMapStore) (snapshot : UdpRuntimeSnapshot) (l : Ledger)
    (r : RuntimeMapStore × Except PublishError Unit) (l' : Ledger) : Prop :=
  Unpublished store l r l' ∨ ∃ fd, Published store snapshot l r l' fd

section Publish

variable {store : RuntimeMapStore} {snapshot : UdpRuntimeSnapshot} {l l' l₁ l₂ : Ledger} {fd : ℕ} {map : ℕ}

/-- The ledger after an inner map was made. -/
def Ledger.create (l : Ledger) (fd : ℕ) : Ledger where
  kernel := { l.kernel.setMap l.kernel.nextMap {} with
    nextMap := l.kernel.nextMap + 1
    fds := Function.update l.kernel.fds fd (some l.kernel.nextMap) }
  events := l.events ++ [.opened fd]

theorem records_create {a : Except Errno ℤ} (h : Records .create l a l') :
    (l' = l ∧ ∃ e, a = .error e) ∨
      ∃ fd : ℕ, a = .ok fd ∧ l.kernel.fds fd = none ∧ l' = l.create fd := by
  obtain ⟨hperforms, hl⟩ := id h
  rcases responds_create (hperforms.responds fun _ => nofun) with ⟨hk, e, rfl⟩ | ⟨fd, rfl, hfree, hk⟩
  · exact Or.inl ⟨h.eq_of_kernel rfl hk, e, rfl⟩
  · refine Or.inr ⟨fd, rfl, hfree, ?_⟩
    obtain ⟨kernel, events⟩ := l'
    subst hk hl
    rfl

theorem records_updateOuter {a : Except Errno Unit} (hfd : l.kernel.fds fd = some map)
    (h : Records (.updateOuter fd) l a l') :
    (l' = l ∧ ∃ e, a = .error e) ∨ a = .ok () ∧ l' = { l with kernel := { l.kernel with
      outer := some map, installs := (map, (l.kernel.maps map).value) :: l.kernel.installs } } := by
  rcases responds_updateOuter hfd (h.1.responds fun _ => nofun) with ⟨hk, e, rfl⟩ | ⟨rfl, hk⟩
  · exact Or.inl ⟨h.eq_of_kernel rfl hk, e, rfl⟩
  · exact Or.inr ⟨rfl, h.eq_of_kernel rfl hk⟩

/-- A candidate that was closed leaves the kernel as it was. -/
theorem unpublished_of_within {error : PublishError} (hfree : l.kernel.fds fd = none)
    (hwithin : (l.create fd).Within l.kernel.nextMap l₁) (herror : error.committed = false)
    (h : Records (.close fd) l₁ () l') : Unpublished store l (store, .error error) l' := by
  obtain ⟨inner, rfl⟩ := hwithin
  obtain rfl := records_close h
  refine ⟨rfl, rfl, fun map hlt => ?_, ?_, Or.inr ⟨fd, ?_⟩, error, rfl, herror⟩
  · simp [Ledger.create, Ledger.setMap, MapKernel.setMap, hlt.ne]
  · simp [Ledger.create, Ledger.setMap, MapKernel.setMap, ← hfree]
  · simp [Ledger.create, Ledger.setMap]

/-- The ledger after the descriptor of a store was closed, if it had one. -/
def Ledger.release (store : RuntimeMapStore) (l : Ledger) : Ledger :=
  if store.activeFd ≥ 0 then
    ⟨{ l.kernel with fds := Function.update l.kernel.fds store.activeFd none },
      l.events ++ [.closed store.activeFd]⟩
  else l

@[simp] theorem Ledger.release_maps (store : RuntimeMapStore) (l : Ledger) :
    (l.release store).kernel.maps = l.kernel.maps := by
  unfold Ledger.release
  split <;> rfl

@[simp] theorem Ledger.release_outer (store : RuntimeMapStore) (l : Ledger) :
    (l.release store).kernel.outer = l.kernel.outer := by
  unfold Ledger.release
  split <;> rfl

@[simp] theorem Ledger.release_nextMap (store : RuntimeMapStore) (l : Ledger) :
    (l.release store).kernel.nextMap = l.kernel.nextMap := by
  unfold Ledger.release
  split <;> rfl

@[simp] theorem Ledger.release_events (store : RuntimeMapStore) (l : Ledger) :
    (l.release store).events =
      l.events ++ if store.activeFd ≥ 0 then [.closed store.activeFd] else [] := by
  unfold Ledger.release
  split <;> simp

theorem Ledger.release_fds (store : RuntimeMapStore) (l : Ledger) {fd : ℤ} (hne : store.activeFd ≠ fd) :
    (l.release store).kernel.fds fd = l.kernel.fds fd := by
  unfold Ledger.release
  split
  · exact Function.update_of_ne hne.symm _ _
  · rfl

theorem records_closePrevious (store : RuntimeMapStore) (l : Ledger) :
    (closePrevious store).Always Records (fun _ => True) (fun _ l' => l' = l.release store) l := by
  unfold closePrevious Ledger.release
  split
  · exact fun a l' hr => ⟨trivial, records_close hr⟩
  · rfl

theorem records_confirmPublished (info : MapInfo) (l : Ledger) :
    (confirmPublished info).Always Records (fun _ => True)
      (fun r l' => l' = l ∧ ∀ e, r = .error e → e.committed = true) l := by
  unfold confirmPublished
  refine Tree.Always.ask_bind fun a l' hr => ⟨trivial, ?_⟩
  obtain rfl := records_lookupOuter hr
  rcases a with e | id
  · exact ⟨rfl, fun e' h => by cases h; rfl⟩
  · dsimp only
    split
    · exact ⟨rfl, fun e' h => by cases h; rfl⟩
    · exact ⟨rfl, fun e' h => nomatch h⟩

/-- What becomes of the history of the slot: nothing, or the candidate is put in it, which
was valid. -/
def Installing (store : RuntimeMapStore) (snapshot : UdpRuntimeSnapshot) (l l' : Ledger) : Prop :=
  l'.kernel.installs = l.kernel.installs ∨
    snapshot.generation.toNat = store.generation.toNat + 1 ∧
      l'.kernel.installs = (l.kernel.nextMap, snapshot) :: l.kernel.installs

/-- How a publication ends, with the history of the slot. -/
def Settles (store : RuntimeMapStore) (snapshot : UdpRuntimeSnapshot) (l : Ledger)
    (r : RuntimeMapStore × Except PublishError Unit) (l' : Ledger) : Prop :=
  Unpublished store l r l' ∧ l'.kernel.installs = l.kernel.installs ∨
    ∃ fd, Published store snapshot l r l' fd ∧
      l'.kernel.installs = (l.kernel.nextMap, snapshot) :: l.kernel.installs

theorem Settles.outcome {r : RuntimeMapStore × Except PublishError Unit} (h : Settles store snapshot l r l') :
    Outcome store snapshot l r l' :=
  h.imp And.left fun ⟨fd, hr, _⟩ => ⟨fd, hr⟩

/-- What does not touch the slot keeps its history. -/
theorem always_installs {α : Type} {m : MapProgram α} {Q : α → Ledger → Prop}
    (hm : m.Always Records (fun _ => True) Q l) (huses : m.Uses fun c => ∀ fd, c ≠ .updateOuter fd) :
    m.Always Records (fun l' => l'.kernel.installs = l.kernel.installs)
      (fun a l' => Q a l' ∧ l'.kernel.installs = l.kernel.installs) l :=
  (hm.keeping huses (fun _ _ _ _ hc hr hl => (hr.1.installs hc).trans hl) rfl).weaken fun _ h => h.2

theorem uses_closePrevious (store : RuntimeMapStore) :
    (closePrevious store).Uses fun c => ∀ fd, c ≠ .updateOuter fd := by
  unfold closePrevious
  exact Tree.Uses.ite (Tree.uses_ask fun _ => nofun) trivial

theorem uses_confirmPublished (info : MapInfo) :
    (confirmPublished info).Uses fun c => ∀ fd, c ≠ .updateOuter fd := by
  unfold confirmPublished
  refine Tree.Uses.bind (Tree.uses_ask fun _ => nofun) fun a => ?_
  rcases a with e | id
  · trivial
  · exact Tree.Uses.ite trivial trivial

theorem uses_prepareCandidate (fd : ℤ) (snapshot : UdpRuntimeSnapshot) :
    (prepareCandidate fd snapshot).Uses fun c => ∀ fd, c ≠ .updateOuter fd := by
  unfold prepareCandidate
  refine Tree.Uses.bind (Tree.uses_ask fun _ => nofun) fun a => ?_
  rcases a with e | _
  · trivial
  refine Tree.Uses.bind (Tree.uses_ask fun _ => nofun) fun a => ?_
  rcases a with e | readback
  · trivial
  refine Tree.Uses.ite trivial (Tree.Uses.bind (Tree.uses_ask fun _ => nofun) fun a => ?_)
  rcases a with e | _
  · trivial
  refine Tree.Uses.bind (Tree.Uses.bind (Tree.uses_ask fun _ => nofun) fun a => ?_) fun a => ?_
  · rcases a with e | info
    · trivial
    · exact Tree.Uses.ite trivial trivial
  rcases a with e | info
  · trivial
  refine Tree.Uses.bind (Tree.Uses.bind (Tree.uses_ask fun _ => nofun) fun a => ?_) fun a => ?_
  · rcases a with e | _
    · exact Tree.Uses.ite trivial trivial
    · trivial
  rcases a with e | _ <;> trivial

/-- **However the kernel answers**, a publication ends as if it had never been tried or as
published, and the store owns what it did or the new descriptor. -/
theorem records_publishSnapshot (h : Holding store l) (snapshot : UdpRuntimeSnapshot) :
    (publishSnapshot store snapshot).Always Records (Installing store snapshot l)
      (fun r l' => Settles store snapshot l r l' ∧ Holding r.1 l') l := by
  -- an error leaves the store in use
  have hfailed : ∀ {r : RuntimeMapStore × Except PublishError Unit} {l' : Ledger},
      Unpublished store l r l' → l'.kernel.installs = l.kernel.installs →
        l.kernel.nextMap ≤ l'.kernel.nextMap → Settles store snapshot l r l' ∧ Holding r.1 l' :=
    fun hr hinstalls hnext => ⟨Or.inl ⟨hr, hinstalls⟩, h.unpublished hr hnext⟩
  have hnothing : ∀ {e : PublishError}, e.committed = false →
      Settles store snapshot l (store, .error e) l ∧ Holding store l :=
    fun he => hfailed ⟨rfl, rfl, fun _ _ => rfl, rfl, Or.inl rfl, _, rfl, he⟩ rfl le_rfl
  unfold publishSnapshot
  cases hvalid : validateCandidateSnapshot snapshot store.generation with
  | error e => exact hnothing (not_committed_of_invalid hvalid)
  | ok u =>
    have hgeneration := generation_of_valid hvalid
    refine Tree.Always.ask_bind fun a l₁ hr => ⟨Or.inl (hr.1.installs fun _ => nofun), ?_⟩
    rcases records_create hr with ⟨rfl, e, rfl⟩ | ⟨fd, rfl, hfree, rfl⟩
    · exact hnothing rfl
    have hfd : (l.create fd).kernel.fds fd = some l.kernel.nextMap := by simp [Ledger.create]
    have hclose : ∀ {l₁ : Ledger} {e : PublishError}, (l.create fd).Within l.kernel.nextMap l₁ →
        e.committed = false → Tree.Always Records (Installing store snapshot l)
          (fun r l' => Settles store snapshot l r l' ∧ Holding r.1 l')
          (do bpf (.close fd); pure (store, .error e)) l₁ := by
      intro l₁ e hwithin he
      refine Tree.Always.ask_bind fun a l₂ hr => ?_
      have hinstalls : l₂.kernel.installs = l.kernel.installs := by
        rw [hr.1.installs fun _ => nofun]
        obtain ⟨inner, rfl⟩ := hwithin
        rfl
      refine ⟨Or.inl hinstalls, hfailed (unpublished_of_within hfree hwithin he hr) hinstalls ?_⟩
      obtain ⟨inner, rfl⟩ := hwithin
      obtain rfl := records_close hr
      exact Nat.le_succ _
    have hprepare := always_installs (records_prepareCandidate snapshot hfd) (uses_prepareCandidate fd snapshot)
    refine Tree.Always.bind (hprepare.weaken fun l' hl' => Or.inl hl') fun r l₂ => ?_
    rintro ⟨⟨hwithin, herror, hvalue⟩, -⟩
    rcases r with e | info
    · exact hclose hwithin (herror e rfl)
    have hvalue := hvalue info rfl
    have hfd₂ : l₂.kernel.fds fd = some l.kernel.nextMap := by
      obtain ⟨inner, rfl⟩ := hwithin
      exact hfd
    refine Tree.Always.ask_bind fun a l₃ hr => ?_
    rcases records_updateOuter hfd₂ hr with ⟨rfl, e, rfl⟩ | ⟨rfl, rfl⟩
    · refine ⟨Or.inl ?_, hclose hwithin rfl⟩
      obtain ⟨inner, rfl⟩ := hwithin
      rfl
    -- the commit point
    have hne : store.activeFd ≠ fd := by
      intro he
      obtain ⟨map, -, hmap, -⟩ := h.active (he ▸ Int.natCast_nonneg fd)
      rw [he, hfree] at hmap
      cases hmap
    obtain ⟨inner, rfl⟩ := hwithin
    have hinner : inner.value = snapshot := by simpa [Ledger.setMap] using hvalue
    set l₃ : Ledger := { (l.create fd).setMap l.kernel.nextMap inner with
      kernel := { ((l.create fd).setMap l.kernel.nextMap inner).kernel with
        outer := some l.kernel.nextMap
        installs := (l.kernel.nextMap, (((l.create fd).setMap l.kernel.nextMap inner).kernel.maps
          l.kernel.nextMap).value) :: ((l.create fd).setMap l.kernel.nextMap inner).kernel.installs } } with hl₃
    have hinstalls : l₃.kernel.installs = (l.kernel.nextMap, snapshot) :: l.kernel.installs :=
      congrArg (fun value => (l.kernel.nextMap, value) :: l.kernel.installs) hvalue
    have hinstalling : ∀ l', l'.kernel.installs = l₃.kernel.installs → Installing store snapshot l l' :=
      fun l' hl' => Or.inr ⟨hgeneration, hl'.trans hinstalls⟩
    refine ⟨hinstalling _ rfl, ?_⟩
    have hprevious := always_installs (records_closePrevious store l₃) (uses_closePrevious store)
    refine Tree.Always.bind (hprevious.weaken hinstalling) ?_
    rintro _ l₄ ⟨hl₄, hinstalls₄⟩
    have hconfirm := always_installs (records_confirmPublished info l₄) (uses_confirmPublished info)
    refine Tree.Always.bind (hconfirm.weaken fun l' hl' => hinstalling l' (hl'.trans hinstalls₄)) ?_
    rintro result l₅ ⟨⟨rfl, hresult⟩, -⟩
    have hpublished : Published store snapshot l (⟨fd, snapshot.generation⟩, result) l₅ fd := by
      refine ⟨rfl, hgeneration, ?_, ?_, ?_, ?_, ?_, ?_, hresult⟩ <;> rw [hl₄]
      · rw [Ledger.release_fds _ _ hne]
        exact hfd₂
      · simp [hl₃]
      · simpa [hl₃, Ledger.setMap] using hinner
      · intro map hlt
        simp [hl₃, Ledger.setMap, Ledger.create, MapKernel.setMap, hlt.ne]
      · simp [hl₃, Ledger.setMap, Ledger.create, MapKernel.setMap]
      · simp [hl₃, Ledger.setMap, Ledger.create]
    exact ⟨Or.inr ⟨fd, hpublished, hinstalls₄.trans hinstalls⟩, h.published hpublished hne⟩

end Publish

/-! ### The life of a store -/

/-- `~RuntimeMapStore`. -/
def destroyStore (store : RuntimeMapStore) : MapProgram Unit :=
  if store.activeFd ≥ 0 then bpf (.close store.activeFd) else pure ()

/-- A store between two calls: it was made, in whatever kernel, and has published any
number of times since, well or badly. -/
inductive StoreRun : RuntimeMapStore → Ledger → Prop where
  /-- It was made. -/
  | made (k : MapKernel) : StoreRun {} ⟨k, []⟩
  /-- It has published, or tried to. -/
  | published {store : RuntimeMapStore} {l l' : Ledger} {snapshot : UdpRuntimeSnapshot}
    {r : RuntimeMapStore × Except PublishError Unit} (h : StoreRun store l)
    (hr : (publishSnapshot store snapshot).Ends Records l r l') : StoreRun r.1 l'

theorem StoreRun.holding {store : RuntimeMapStore} {l : Ledger} (h : StoreRun store l) : Holding store l := by
  induction h with
  | made k => exact ⟨rfl, fun hactive => absurd hactive (by decide), fun _ => rfl⟩
  | published _ hr ih => exact ((records_publishSnapshot ih _).ends hr).2

/-- A store that is gone owns nothing. -/
theorem Holding.destroyStore {store : RuntimeMapStore} {l l' : Ledger} (h : Holding store l)
    (hr : (destroyStore store).Ends Records l () l') : owned l'.events = some [] := by
  have hclosed : l' = l.release store := (records_closePrevious store l).ends hr
  rw [hclosed, Ledger.release_events, owned_append, h.owns]
  by_cases hactive : store.activeFd ≥ 0
  · simp [hactive, FdEvent.own]
  · simp [hactive]

/-- **A publication fails as a whole**, after any calls of the store and whatever operation
on maps fails or answers wrongly:

* a publication leaves the store, the slot and the maps as they were, closes the
  candidate once, and fails with an error that is not of a committed publication; or the
  slot and the store have the new map, which holds the snapshot, of the next generation,
  the descriptor before was closed once, and an error is of a committed publication;
* between calls the store owns one descriptor, that of the map in the slot, or none;
* gone, it owns none. -/
theorem publish_failure_atomic {store : RuntimeMapStore} {l : Ledger} (h : StoreRun store l) :
    (∀ snapshot r l', (publishSnapshot store snapshot).Ends Records l r l' →
      Unpublished store l r l' ∨ ∃ fd, Published store snapshot l r l' fd) ∧
    owned l.events = some (if store.activeFd ≥ 0 then [store.activeFd] else []) ∧
    ∀ l', (destroyStore store).Ends Records l () l' → owned l'.events = some [] := by
  have hholding := h.holding
  refine ⟨fun snapshot r l' hr => ?_, hholding.owns, fun l' hr => hholding.destroyStore hr⟩
  exact ((records_publishSnapshot hholding snapshot).ends hr).1.outcome

/-- The kernel answers with a choice, and what that does to descriptors is written down. -/
def Ledger.respond (choice : MapChoice) (c : MapCall) (l : Ledger) : MapAnswer c × Ledger :=
  ((l.kernel.respond choice c).1,
    ⟨(l.kernel.respond choice c).2, l.events ++ fdEvents c (l.kernel.respond choice c).1⟩)

/-- A kernel that fails for no want of permission refuses only what it does not do. -/
theorem records_respond {choice : MapChoice} (hpermitted : choice.error ≠ some .EPERM ∧ choice.error ≠ some .EACCES)
    (c : MapCall) (l : Ledger) : Records c l (l.respond choice c).1 (l.respond choice c).2 := by
  refine ⟨Or.inl ⟨⟨choice, rfl⟩, fun hrefuses => ?_⟩, rfl⟩
  cases c with
  | update fd snapshot =>
    cases hmap : l.kernel.fds fd with
    | none => simp [Ledger.respond, MapKernel.respond, hmap]
    | some map =>
      by_cases hfrozen : (l.kernel.maps map).frozen = true
      · simp [Ledger.respond, MapKernel.respond, hmap, hfrozen]
      cases herror : choice.error with
      | none => simp [Ledger.respond, MapKernel.respond, hmap, hfrozen, herror, Refuses] at hrefuses
      | some error =>
        rw [herror] at hpermitted
        have hdenied : error = .EPERM ∨ error = .EACCES := by
          simpa [Ledger.respond, MapKernel.respond, hmap, hfrozen, herror, Refuses] using hrefuses
        rcases hdenied with rfl | rfl
        · exact absurd rfl hpermitted.1
        · exact absurd rfl hpermitted.2
  | _ => exact hrefuses.elim

/-- A snapshot of one backend. -/
def oneBackendSnapshot (generation : UInt64) : UdpRuntimeSnapshot where
  schemaVersion := 3
  backendCount := 1
  generation := generation
  vipAddress := 0x0a0012c6
  vipPort := 0x5000
  reserved := 0
  backends := Vector.set (.replicate 64 default) 0 ⟨2, .replicate 6 4, .replicate 6 2⟩

/-- A publication that is given this descriptor, to whose calls the kernel answers with these choices. -/
def publishWith (store : RuntimeMapStore) (generation : UInt64) (fd : ℕ) (choices : List MapChoice) (l : Ledger) :
    (RuntimeMapStore × Except PublishError Unit) × Ledger :=
  (publishSnapshot store (oneBackendSnapshot generation)).play Ledger.respond {} ({ fd := fd } :: choices) l

theorem ends_publishWith (choices : List MapChoice)
    (h : ∀ choice ∈ choices, choice.error ≠ some .EPERM ∧ choice.error ≠ some .EACCES) (store : RuntimeMapStore)
    (generation : UInt64) (fd : ℕ) (l : Ledger) :
    (publishSnapshot store (oneBackendSnapshot generation)).Ends Records l
      (publishWith store generation fd choices l).1 (publishWith store generation fd choices l).2 := by
  refine Tree.ends_play (fun choice hchoice c l => records_respond ?_ c l) _ l
  rcases List.mem_cons.mp hchoice with rfl | hchoice
  · exact ⟨nofun, nofun⟩
  rcases List.mem_cons.mp hchoice with rfl | hchoice
  · exact ⟨nofun, nofun⟩
  · exact h choice hchoice

/-- A store publishes; its next snapshot fails to be put in the slot, and nothing is left of it; put there again, it is
published, though its confirmation fails; and then one descriptor is owned. -/
theorem publish_failure_atomic_again :
    let first := publishWith {} 1 3 [] ⟨{}, []⟩
    let failed := publishWith first.1.1 2 4 [{}, {}, {}, {}, {}, { error := some .ENOMEM }] first.2
    let again := publishWith failed.1.1 2 5 [{}, {}, {}, {}, {}, {}, {}, { wrongId := some 7 }] failed.2
    (first.1.2 = .ok () ∧ ∃ fd, Published {} (oneBackendSnapshot 1) ⟨{}, []⟩ first.1 first.2 fd) ∧
      (failed.1.2 = .error (.system "发布 runtime outer" .ENOMEM) ∧ Unpublished first.1.1 first.2 failed.1 failed.2) ∧
      (again.1.2 = .error .outerIdMismatch ∧
        ∃ fd, Published failed.1.1 (oneBackendSnapshot 2) failed.2 again.1 again.2 fd) ∧
      again.2.events = [.opened 3, .opened 4, .closed 4, .opened 5, .closed 3] ∧ owned again.2.events = some [5] := by
  intro first failed again
  have hmade : StoreRun {} ⟨{}, []⟩ := .made {}
  have hfirst := ends_publishWith [] (by simp) {} 1 3 ⟨{}, []⟩
  have hrun₁ : StoreRun first.1.1 first.2 := .published hmade hfirst
  have hfailed := ends_publishWith [{}, {}, {}, {}, {}, { error := some .ENOMEM }] (by decide)
    first.1.1 2 4 first.2
  have hrun₂ : StoreRun failed.1.1 failed.2 := .published hrun₁ hfailed
  have hagain := ends_publishWith [{}, {}, {}, {}, {}, {}, {}, { wrongId := some 7 }] (by decide)
    failed.1.1 2 5 failed.2
  have hrun₃ : StoreRun again.1.1 again.2 := .published hrun₂ hagain
  have hok : first.1.2 = .ok () := by decide +kernel
  have hrefused : failed.1.2 = .error (.system "发布 runtime outer" .ENOMEM) := by decide +kernel
  have hmismatch : again.1.2 = .error .outerIdMismatch := by decide +kernel
  refine ⟨⟨hok, ?_⟩, ⟨hrefused, ?_⟩, ⟨hmismatch, ?_⟩, by decide +kernel, ?_⟩
  · refine ((publish_failure_atomic hmade).1 _ first.1 first.2 hfirst).resolve_left fun hun => ?_
    obtain ⟨e, he, -⟩ := hun.result
    exact absurd (hok.symm.trans he) nofun
  · refine ((publish_failure_atomic hrun₁).1 _ failed.1 failed.2 hfailed).resolve_right ?_
    rintro ⟨fd, hpublished⟩
    exact absurd (hpublished.result _ hrefused) (by decide)
  · refine ((publish_failure_atomic hrun₂).1 _ again.1 again.2 hagain).resolve_left fun hun => ?_
    obtain ⟨e, he, hcommitted⟩ := hun.result
    obtain rfl : PublishError.outerIdMismatch = e := Except.error.inj (hmismatch.symm.trans he)
    exact absurd hcommitted (by decide)
  · rw [(publish_failure_atomic hrun₃).2.1]
    decide +kernel

end L4lb.Xdp
