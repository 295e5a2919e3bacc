import L4lb.Effect.Tree
import L4lb.Xdp.Schema

/-!
# Publishing a snapshot

`RuntimeMapStore.cpp`: a snapshot is checked, written to a new inner map, read back,
frozen, and only then put in the slot of the outer map, which is the one commit point.

## The model

`publishSnapshot` is the tree of its calls to the kernel. `MapKernel.respond` is the
kernel: every operation may fail, a failed write may leave anything, and what is read
back may be wrong; but a frozen map refuses writes, and the update of the slot changes
it at once. `installs` is a history of what was put in the slot; nothing reads it.
-/

namespace L4lb.Xdp

open Effect

/-- What `publishSnapshot` throws. -/
inductive PublishError where
  /-- `无效 runtime snapshot 或代次`. -/
  | invalidSnapshot
  /-- `无效 runtime backend`. -/
  | invalidBackend
  /-- `未用 runtime 槽必须清零`. -/
  | unusedSlot
  /-- A map operation failed. -/
  | system (operation : String) (error : Errno)
  /-- `runtime snapshot 回读不一致`. -/
  | readbackMismatch
  /-- `runtime map metadata 不匹配`. -/
  | metadataMismatch
  /-- `runtime inner 未只读冻结`. -/
  | notFrozen
  /-- `已发布后终止：outer 回读失败`. -/
  | outerReadback
  /-- `已发布后终止：outer map ID 不一致`. -/
  | outerIdMismatch
  deriving DecidableEq, Repr

/-- `what()`. -/
def PublishError.what : PublishError → String
  | .invalidSnapshot => "无效 runtime snapshot 或代次"
  | .invalidBackend => "无效 runtime backend"
  | .unusedSlot => "未用 runtime 槽必须清零"
  | .system operation error => s!"{operation} errno={error}: "
  | .readbackMismatch => "runtime snapshot 回读不一致"
  | .metadataMismatch => "runtime map metadata 不匹配"
  | .notFrozen => "runtime inner 未只读冻结"
  | .outerReadback => "已发布后终止：outer 回读失败"
  | .outerIdMismatch => "已发布后终止：outer map ID 不一致"

/-- It is a `RuntimePublishError` that says the snapshot was committed. -/
def PublishError.committed : PublishError → Bool
  | .outerReadback | .outerIdMismatch => true
  | _ => false

/-- The fields of `bpf_map_info` that are checked, and the id. -/
structure MapInfo where
  /-- `type`. -/
  mapType : ℕ
  /-- `key_size`. -/
  keySize : ℕ
  /-- `value_size`. -/
  valueSize : ℕ
  /-- `max_entries`. -/
  maxEntries : ℕ
  /-- `map_flags`. -/
  mapFlags : ℕ
  /-- `id`. -/
  id : ℕ
  deriving DecidableEq, Repr

/-- `BPF_MAP_TYPE_ARRAY`. -/
def BPF_MAP_TYPE_ARRAY : ℕ := 2

/-- `BPF_F_RDONLY_PROG`. -/
def BPF_F_RDONLY_PROG : ℕ := 128

/-- `sizeof(UdpRuntimeSnapshot)`. -/
def snapshotSize : ℕ := 1048

/-- The map with an id that `kMapSpecs[1]` asks for. -/
def innerMapInfo (id : ℕ) : MapInfo := ⟨BPF_MAP_TYPE_ARRAY, 4, snapshotSize, 1, BPF_F_RDONLY_PROG, id⟩

/-! ### What is asked of the kernel -/

/-- The operations on maps. -/
inductive MapCall where
  /-- `bpf_map_create` of an inner map. -/
  | create
  /-- `bpf_map_update_elem` of an inner map. -/
  | update (fd : ℤ) (snapshot : UdpRuntimeSnapshot)
  /-- `bpf_map_lookup_elem` of an inner map. -/
  | lookup (fd : ℤ)
  /-- `bpf_map_freeze`. -/
  | freeze (fd : ℤ)
  /-- `bpf_obj_get_info_by_fd`. -/
  | info (fd : ℤ)
  /-- `close`. -/
  | close (fd : ℤ)
  /-- `bpf_map_update_elem` of the outer map. -/
  | updateOuter (fd : ℤ)
  /-- `bpf_map_lookup_elem` of the outer map: the id in the slot. -/
  | lookupOuter

/-- The answers. -/
abbrev MapAnswer : MapCall → Type
  | .create => Except Errno ℤ
  | .update _ _ | .freeze _ | .updateOuter _ => Except Errno Unit
  | .lookup _ => Except Errno UdpRuntimeSnapshot
  | .info _ => Except Errno MapInfo
  | .close _ => Unit
  | .lookupOuter => Except Errno ℕ

/-- A program of map operations. -/
abbrev MapProgram := Tree MapCall MapAnswer

/-- Make a call. -/
def bpf (c : MapCall) : MapProgram (MapAnswer c) := Tree.ask c

/-! ### The store -/

/-- `RuntimeMapStore`: the descriptor of the map in the slot, and the generation. -/
structure RuntimeMapStore where
  /-- `activeFd_`. -/
  activeFd : ℤ := -1
  /-- `generation_`. -/
  generation : UInt64 := 0
  deriving DecidableEq, Repr

/-- `isNonzeroUnicastMac`. -/
def isNonzeroUnicastMac (mac : Mac) : Bool :=
  mac.get 0 &&& 1 == 0 && mac.get 0 ||| mac.get 1 ||| mac.get 2 ||| mac.get 3 ||| mac.get 4 ||| mac.get 5 != 0

/-- A pass of the loop of `validateCandidateSnapshot`. -/
def validateSlot (snapshot : UdpRuntimeSnapshot) (index : Fin 64) : Except PublishError Unit :=
  let backend := snapshot.backends.get index
  if index.val < snapshot.backendCount.toNat then
    if backend.ifindex = 0 ∨ isNonzeroUnicastMac backend.destinationMac = false ∨
        isNonzeroUnicastMac backend.sourceMac = false then
      .error .invalidBackend
    else .ok ()
  else if backend ≠ default then .error .unusedSlot
  else .ok ()

/-- `validateCandidateSnapshot`. -/
def validateCandidateSnapshot (snapshot : UdpRuntimeSnapshot) (generation : UInt64) :
    Except PublishError Unit :=
  if snapshot.schemaVersion ≠ 3 ∨ snapshot.backendCount > 64 ∨ snapshot.reserved ≠ 0 ∨
      generation = 0xffffffffffffffff ∨ snapshot.generation ≠ generation + 1 ∨
      snapshot.vipAddress = 0 ∨ snapshot.vipPort = 0 then
    .error .invalidSnapshot
  else (List.finRange 64).forM (validateSlot snapshot)

/-- `verifyFrozenSnapshot`: a write must be refused. -/
def verifyFrozenSnapshot (fd : ℤ) (snapshot : UdpRuntimeSnapshot) :
    MapProgram (Except PublishError Unit) := do
  match ← bpf (.update fd snapshot) with
  | .ok () => pure (.error .notFrozen)
  | .error error =>
    if error ≠ .EPERM ∧ error ≠ .EACCES then pure (.error .notFrozen) else pure (.ok ())

/-- `validateMapMetadata`, for an inner map. -/
def validateMapMetadata (fd : ℤ) : MapProgram (Except PublishError MapInfo) := do
  match ← bpf (.info fd) with
  | .error error => pure (.error (.system "读取 runtime map metadata" error))
  | .ok info =>
    if info ≠ innerMapInfo info.id then pure (.error .metadataMismatch) else pure (.ok info)

/-- What `publishSnapshot` does to the candidate map before it is put in the slot. -/
def prepareCandidate (fd : ℤ) (snapshot : UdpRuntimeSnapshot) :
    MapProgram (Except PublishError MapInfo) := do
  match ← bpf (.update fd snapshot) with
  | .error error => pure (.error (.system "写入 runtime snapshot" error))
  | .ok () =>
    match ← bpf (.lookup fd) with
    | .error error => pure (.error (.system "回读 runtime snapshot" error))
    | .ok readback =>
      if snapshot ≠ readback then pure (.error .readbackMismatch)
      else
        match ← bpf (.freeze fd) with
        | .error error => pure (.error (.system "冻结 runtime snapshot" error))
        | .ok () =>
          match ← validateMapMetadata fd with
          | .error error => pure (.error error)
          | .ok info =>
            match ← verifyFrozenSnapshot fd snapshot with
            | .error error => pure (.error error)
            | .ok () => pure (.ok info)

/-- Close the map that was in the slot, if there was one. -/
def closePrevious (store : RuntimeMapStore) : MapProgram Unit :=
  if store.activeFd ≥ 0 then bpf (.close store.activeFd) else pure ()

/-- What `publishSnapshot` does after the commit point. -/
def confirmPublished (info : MapInfo) : MapProgram (Except PublishError Unit) := do
  match ← bpf .lookupOuter with
  | .error _ => pure (.error .outerReadback)
  | .ok publishedId =>
    if publishedId ≠ info.id then pure (.error .outerIdMismatch) else pure (.ok ())

/-- `publishSnapshot`: the store after it, and how it ended. A candidate that is not
published is closed on the way out. -/
def publishSnapshot (store : RuntimeMapStore) (snapshot : UdpRuntimeSnapshot) :
    MapProgram (RuntimeMapStore × Except PublishError Unit) :=
  match validateCandidateSnapshot snapshot store.generation with
  | .error error => pure (store, .error error)
  | .ok () => do
    match ← bpf .create with
    | .error error => pure (store, .error (.system "创建 runtime inner" error))
    | .ok fd =>
      match ← prepareCandidate fd snapshot with
      | .error error => do
        bpf (.close fd)
        pure (store, .error error)
      | .ok info =>
        match ← bpf (.updateOuter fd) with
        | .error error => do
          bpf (.close fd)
          pure (store, .error (.system "发布 runtime outer" error))
        | .ok () => do
          -- The commit point: the old map is only closed, the kernel keeps it for its readers.
          closePrevious store
          let result ← confirmPublished info
          pure (⟨fd, snapshot.generation⟩, result)

/-! ### The kernel -/

/-- An inner map: its one value, and whether it is frozen. -/
structure InnerMap where
  /-- The value. -/
  value : UdpRuntimeSnapshot := default
  /-- No system call can write it any more. -/
  frozen : Bool := false
  deriving DecidableEq

/-- A map put in the slot, with its value then. -/
abbrev Install := ℕ × UdpRuntimeSnapshot

/-- The maps of the kernel. -/
structure MapKernel where
  /-- The inner maps, by id. -/
  maps : ℕ → InnerMap := fun _ => {}
  /-- The id of the next. -/
  nextMap : ℕ := 0
  /-- The maps that descriptors are of. -/
  fds : ℤ → Option ℕ := fun _ => none
  /-- The slot of the outer map. -/
  outer : Option ℕ := none
  /-- What was put in the slot, the last first. -/
  installs : List Install := []

/-- What the kernel is free to do in an operation. -/
structure MapChoice where
  /-- Fail. -/
  error : Option Errno := none
  /-- The descriptor of a new map; if it is not free, there is none. -/
  fd : ℕ := 0
  /-- What a write that failed leaves. -/
  torn : UdpRuntimeSnapshot := default
  /-- Another value than that of the map. -/
  wrongValue : Option UdpRuntimeSnapshot := none
  /-- Other metadata than those of the map. -/
  wrongInfo : Option MapInfo := none
  /-- Another id than that in the slot. -/
  wrongId : Option ℕ := none

/-- Change a map. -/
def MapKernel.setMap (k : MapKernel) (map : ℕ) (inner : InnerMap) : MapKernel :=
  { k with maps := Function.update k.maps map inner }

/-- The kernel. -/
def MapKernel.respond (choice : MapChoice) : (c : MapCall) → MapKernel → MapAnswer c × MapKernel
  | .create, k =>
    match choice.error with
    | some error => (.error error, k)
    | none =>
      if k.fds choice.fd = none then
        (.ok choice.fd, { k.setMap k.nextMap {} with
          nextMap := k.nextMap + 1
          fds := Function.update k.fds choice.fd (some k.nextMap) })
      else (.error .EMFILE, k)
  | .update fd snapshot, k =>
    match k.fds fd with
    | none => (.error .EBADF, k)
    | some map =>
      if (k.maps map).frozen then (.error (choice.error.getD .EPERM), k)
      else
        match choice.error with
        | some error => (.error error, k.setMap map { value := choice.torn })
        | none => (.ok (), k.setMap map { value := snapshot })
  | .lookup fd, k =>
    match k.fds fd, choice.error with
    | none, _ => (.error .EBADF, k)
    | some _, some error => (.error error, k)
    | some map, none => (.ok (choice.wrongValue.getD (k.maps map).value), k)
  | .freeze fd, k =>
    match k.fds fd, choice.error with
    | none, _ => (.error .EBADF, k)
    | some _, some error => (.error error, k)
    | some map, none => (.ok (), k.setMap map { k.maps map with frozen := true })
  | .info fd, k =>
    match k.fds fd, choice.error with
    | none, _ => (.error .EBADF, k)
    | some _, some error => (.error error, k)
    | some map, none => (.ok (choice.wrongInfo.getD (innerMapInfo map)), k)
  | .close fd, k => ((), { k with fds := Function.update k.fds fd none })
  | .updateOuter fd, k =>
    match k.fds fd, choice.error with
    | none, _ => (.error .EBADF, k)
    | some _, some error => (.error error, k)
    | some map, none =>
      (.ok (), { k with outer := some map, installs := (map, (k.maps map).value) :: k.installs })
  | .lookupOuter, k =>
    match k.outer, choice.error with
    | none, _ => (.error .ENOENT, k)
    | some _, some error => (.error error, k)
    | some map, none => (.ok (choice.wrongId.getD map), k)

end L4lb.Xdp
