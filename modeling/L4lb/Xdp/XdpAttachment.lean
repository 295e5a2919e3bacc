import L4lb.Effect.Tree
import L4lb.Core.System

/-!
# Attaching and detaching the program

`XdpAttachment.cpp`: a loaded program is attached to an interface where there is none,
and taken off again if it is still there.

## The model

The operations are the trees of their calls. An interface has a hook for each mode.
`XdpKernel.respond` is the kernel: an attachment that must not replace finds the hook
empty or fails, a detachment with a descriptor compares, in one step, the program of the
descriptor with the attached one, and a detachment with descriptor `0` compares nothing.
Before any call, others may have attached, replaced and detached what they like, and
loaded programs. `changes` is a history of the hooks, and `loaded` of the programs that
were loaded here; nothing reads them.
-/

namespace L4lb.Xdp

open Effect

/-- `XdpAttachMode`. -/
inductive XdpAttachMode where
  /-- `kGeneric`. -/
  | kGeneric
  /-- `kNative`. -/
  | kNative
  deriving DecidableEq, Repr

/-- Where a program can be attached: an interface, in a mode. -/
abbrev XdpHook := ℤ × XdpAttachMode

/-- What the operations throw. -/
inductive AttachmentError where
  /-- A call failed: `throwXdpSystemError`. -/
  | system (operation : String) (error : Errno)
  /-- `程序 ID 不匹配，拒绝卸载其他程序`. -/
  | idMismatch (current expected : ℕ)
  /-- `无可挂载对象或已经挂载`. -/
  | notAttachable
  /-- `不能重复加载对象`. -/
  | alreadyLoaded
  /-- The object, or its maps, were not as they should be. -/
  | object (message : String)
  deriving DecidableEq, Repr

/-- The hint of `throwXdpSystemError`. -/
def xdpSystemHint (error : Errno) : String :=
  if error = .EPERM ∨ error = .EACCES then
    "；请检查 sudo、CAP_BPF/CAP_NET_ADMIN、容器限制及 memlock 限额"
  else if error = .EOPNOTSUPP ∨ error = .EINVAL then
    "；请检查内核/网卡 XDP 支持及对象；native 不支持时可显式选择 --mode generic"
  else if error = .EBUSY ∨ error = .EEXIST then
    "；设备可能已有程序或程序已被替换，拒绝覆盖/卸载其他程序"
  else if error = .ENOMEM then "；请检查可用内存及 memlock 限额"
  else ""

/-! ### What is asked of the system -/

/-- The calls. -/
inductive AttachmentCall where
  /-- Open, check and read the file, and `bpf_object__open_mem`. -/
  | openObject
  /-- The checks of its program and maps. -/
  | checkObject
  /-- `bpf_object__load` and `bpf_program__fd`. -/
  | load
  /-- `bpf_obj_get_info_by_fd` of a program: its id. -/
  | progInfo (fd : ℤ)
  /-- The configuration of the maps of the profile. -/
  | configureMaps
  /-- `bpf_xdp_query_id`. -/
  | queryId (ifindex : ℤ) (mode : XdpAttachMode)
  /-- `bpf_xdp_attach` with `XDP_FLAGS_UPDATE_IF_NOEXIST`. -/
  | attach (ifindex : ℤ) (fd : ℤ) (mode : XdpAttachMode)
  /-- `bpf_xdp_detach` with `old_prog_fd`. -/
  | detach (ifindex : ℤ) (mode : XdpAttachMode) (oldProgFd : ℤ)
  /-- `fcntl(fd, F_DUPFD_CLOEXEC, least)`. -/
  | dupFd (fd : ℤ) (least : ℕ)
  /-- `bpf_prog_get_fd_by_id`. -/
  | getFdById (id : ℕ)
  /-- `close`. -/
  | close (fd : ℤ)

/-- The answers. -/
abbrev AttachmentAnswer : AttachmentCall → Type
  | .openObject | .checkObject | .configureMaps => Except AttachmentError Unit
  | .load | .dupFd _ _ | .getFdById _ => Except Errno ℤ
  | .progInfo _ | .queryId _ _ => Except Errno ℕ
  | .attach _ _ _ | .detach _ _ _ => Except Errno Unit
  | .close _ => Unit

/-- A program of such calls. -/
abbrev AttachmentProgram := Tree AttachmentCall AttachmentAnswer

/-- Make a call. -/
def sys (c : AttachmentCall) : AttachmentProgram (AttachmentAnswer c) := Tree.ask c

/-! ### The operations -/

/-- `queryAttachedProgramId`. -/
def queryAttachedProgramId (ifindex : ℤ) (mode : XdpAttachMode) :
    AttachmentProgram (Except AttachmentError ℕ) := do
  match ← sys (.queryId ifindex mode) with
  | .error error =>
    if error = .ENODEV then pure (.ok 0) else pure (.error (.system "查询 XDP 程序" error))
  | .ok id => pure (.ok id)

/-- `detachExpectedProgramFd`. -/
def detachExpectedProgramFd (ifindex : ℤ) (mode : XdpAttachMode) (fd : ℤ) (id : ℕ) :
    AttachmentProgram (Except AttachmentError Unit) := do
  match ← queryAttachedProgramId ifindex mode with
  | .error error => pure (.error error)
  | .ok current =>
    if current = 0 then pure (.ok ())
    else if current ≠ id then pure (.error (.idMismatch current id))
    else
      match ← sys (.dupFd fd 3) with
      | .error error => pure (.error (.system "保留条件卸载程序 FD" error))
      | .ok comparisonFd => do
        let result ← sys (.detach ifindex mode comparisonFd)
        sys (.close comparisonFd)
        match result with
        | .error error =>
          if error = .ENODEV then pure (.ok ()) else pure (.error (.system "条件卸载 XDP" error))
        | .ok () => pure (.ok ())

/-- `detachExpectedProgram`. -/
def detachExpectedProgram (ifindex : ℤ) (mode : XdpAttachMode) (expectedProgramId : ℕ) :
    AttachmentProgram (Except AttachmentError Unit) := do
  match ← queryAttachedProgramId ifindex mode with
  | .error error => pure (.error error)
  | .ok current =>
    if current = 0 then pure (.ok ())
    else
      match ← sys (.getFdById expectedProgramId) with
      | .error error => pure (.error (.system s!"打开预期程序 ID {expectedProgramId}" error))
      | .ok fd => do
        let result ← detachExpectedProgramFd ifindex mode fd expectedProgramId
        sys (.close fd)
        pure result

/-- `XdpAttachment`. -/
structure XdpAttachment where
  /-- There is an `object_`. -/
  object : Bool := false
  /-- `programFd_`. -/
  programFd : ℤ := -1
  /-- `programId_`. -/
  programId : ℕ := 0
  /-- `interfaceIndex_`. -/
  interfaceIndex : ℤ := 0
  /-- `mode_`. -/
  mode : XdpAttachMode := .kGeneric
  /-- `attached_`. -/
  attached : Bool := false
  deriving DecidableEq, Repr

/-- `loadObject`: the object after it, and how it ended. -/
def XdpAttachment.loadObject (self : XdpAttachment) (path : String) :
    AttachmentProgram (XdpAttachment × Except AttachmentError Unit) :=
  if self.object then pure (self, .error .alreadyLoaded)
  else do
    match ← sys .openObject with
    | .error error => pure (self, .error error)
    | .ok () =>
      let self := { self with object := true }
      match ← sys .checkObject with
      | .error error => pure (self, .error error)
      | .ok () =>
        match ← sys .load with
        | .error error => pure (self, .error (.system s!"加载 BPF 对象 {path}" error))
        | .ok fd =>
          let self := { self with programFd := fd }
          match ← sys (.progInfo fd) with
          | .error error => pure (self, .error (.system "读取已加载程序 ID" error))
          | .ok id =>
            let self := { self with programId := id }
            let result ← sys .configureMaps
            pure (self, result)

/-- `attachProgram`. -/
def XdpAttachment.attachProgram (self : XdpAttachment) (ifindex : ℤ) (mode : XdpAttachMode) :
    AttachmentProgram (XdpAttachment × Except AttachmentError Unit) :=
  if self.programFd < 0 ∨ self.attached then pure (self, .error .notAttachable)
  else do
    match ← sys (.attach ifindex self.programFd mode) with
    | .error error => pure (self, .error (.system "挂载 XDP" error))
    | .ok () => pure ({ self with interfaceIndex := ifindex, mode := mode, attached := true }, .ok ())

/-- `detachProgram`. -/
def XdpAttachment.detachProgram (self : XdpAttachment) :
    AttachmentProgram (XdpAttachment × Except AttachmentError Unit) :=
  if self.attached then do
    match ← detachExpectedProgramFd self.interfaceIndex self.mode self.programFd self.programId with
    | .error error => pure (self, .error error)
    | .ok () => pure ({ self with attached := false }, .ok ())
  else pure (self, .ok ())

/-- What `~XdpAttachment` does first; an error is only printed. -/
def XdpAttachment.detachLast (self : XdpAttachment) :
    AttachmentProgram (XdpAttachment × Except AttachmentError Unit) :=
  if self.attached then self.detachProgram else pure (self, .ok ())

/-- `~XdpAttachment`: `bpf_object__close` closes the descriptor of the program. -/
def XdpAttachment.destroy (self : XdpAttachment) : AttachmentProgram Unit := do
  let (self, _) ← self.detachLast
  if self.object ∧ self.programFd ≥ 0 then sys (.close self.programFd) else pure ()

/-! ### The kernel -/

/-- What a descriptor is of. -/
inductive Descriptor where
  /-- A program. -/
  | program (program : ℕ)
  /-- Anything else. -/
  | other
  deriving DecidableEq, Repr

/-- Who changed a hook. -/
inductive Actor where
  /-- An operation. -/
  | self
  /-- Somebody else. -/
  | thirdParty
  deriving DecidableEq, Repr

/-- A change of a hook. -/
structure HookChange where
  /-- Who did it. -/
  actor : Actor
  /-- Which hook. -/
  hook : XdpHook
  /-- The program that was attached. -/
  before : Option ℕ
  /-- The program that is. -/
  after : Option ℕ
  deriving DecidableEq, Repr

/-- Hooks and programs. -/
structure XdpKernel where
  /-- What is attached. -/
  hooks : XdpHook → Option ℕ := fun _ => none
  /-- The ids of programs. -/
  ids : ℕ → ℕ := fun _ => 0
  /-- The number of the next program. -/
  nextProgram : ℕ := 0
  /-- The descriptors of the process; of the standard ones, any may be closed. -/
  fds : ℤ → Option Descriptor := fun _ => none
  /-- What became of the hooks, in order. -/
  changes : List HookChange := []
  /-- The programs that were loaded here. -/
  loaded : List ℕ := []

/-- What the kernel is free to do in a call. -/
structure AttachmentChoice where
  /-- Fail. -/
  error : Option Errno := none
  /-- The object, or its maps, are not as they should be. -/
  refusal : Option String := none
  /-- A new descriptor; if it cannot be, there is none. -/
  fd : ℕ := 0
  /-- The id of a program that is loaded. -/
  id : ℕ := 0
  /-- A program with an id that is looked for. -/
  program : ℕ := 0

/-- What somebody else does. -/
inductive ThirdParty where
  /-- Attach, replace or detach. -/
  | put (hook : XdpHook) (program : Option ℕ)
  /-- Load a program. -/
  | load (id : ℕ)

/-- Change a hook. -/
def XdpKernel.put (k : XdpKernel) (actor : Actor) (hook : XdpHook) (program : Option ℕ) : XdpKernel :=
  { k with
    hooks := Function.update k.hooks hook program
    changes := k.changes ++ [⟨actor, hook, k.hooks hook, program⟩] }

/-- A program more. -/
def XdpKernel.newProgram (k : XdpKernel) (id : ℕ) : XdpKernel :=
  { k with ids := Function.update k.ids k.nextProgram id, nextProgram := k.nextProgram + 1 }

/-- A descriptor more. -/
def XdpKernel.newFd (k : XdpKernel) (fd : ℤ) (descriptor : Descriptor) : XdpKernel :=
  { k with fds := Function.update k.fds fd (some descriptor) }

/-- Somebody else acts. -/
def XdpKernel.act (k : XdpKernel) : ThirdParty → XdpKernel
  | .put hook program => k.put .thirdParty hook program
  | .load id => k.newProgram id

/-- The kernel. -/
def XdpKernel.respond (choice : AttachmentChoice) :
    (c : AttachmentCall) → XdpKernel → AttachmentAnswer c × XdpKernel
  | .openObject, k | .checkObject, k | .configureMaps, k =>
    match choice.refusal with
    | some message => (.error (.object message), k)
    | none => (.ok (), k)
  | .load, k =>
    match choice.error with
    | some error => (.error error, k)
    | none =>
      if k.fds choice.fd = none then
        (.ok choice.fd, { (k.newProgram choice.id).newFd choice.fd (.program k.nextProgram) with
          loaded := k.loaded ++ [k.nextProgram] })
      else (.error .EMFILE, k)
  | .progInfo fd, k =>
    match k.fds fd, choice.error with
    | some (.program program), none => (.ok (k.ids program), k)
    | _, error => (.error (error.getD .EBADF), k)
  | .queryId ifindex mode, k =>
    match choice.error with
    | some error => (.error error, k)
    | none => (.ok (((k.hooks (ifindex, mode)).map k.ids).getD 0), k)
  | .attach ifindex fd mode, k =>
    match k.fds fd, choice.error with
    | some (.program program), none =>
      if k.hooks (ifindex, mode) = none then (.ok (), k.put .self (ifindex, mode) (some program))
      else (.error .EBUSY, k)
    | _, error => (.error (error.getD .EBADF), k)
  | .detach ifindex mode oldProgFd, k =>
    match choice.error with
    | some error => (.error error, k)
    | none =>
      -- descriptor `0` is no descriptor: nothing is compared
      if oldProgFd = 0 then (.ok (), k.put .self (ifindex, mode) none)
      else
        match k.fds oldProgFd with
        | some (.program program) =>
          if k.hooks (ifindex, mode) = some program then (.ok (), k.put .self (ifindex, mode) none)
          else (.error .EEXIST, k)
        | _ => (.error .EBADF, k)
  | .dupFd fd least, k =>
    match k.fds fd, choice.error with
    | some descriptor, none =>
      if k.fds choice.fd = none ∧ least ≤ choice.fd then (.ok choice.fd, k.newFd choice.fd descriptor)
      else (.error .EMFILE, k)
    | _, error => (.error (error.getD .EBADF), k)
  | .getFdById id, k =>
    match choice.error with
    | some error => (.error error, k)
    | none =>
      if choice.program < k.nextProgram ∧ k.ids choice.program = id ∧ k.fds choice.fd = none then
        (.ok choice.fd, k.newFd choice.fd (.program choice.program))
      else (.error .ENOENT, k)
  | .close fd, k => ((), { k with fds := Function.update k.fds fd none })

end L4lb.Xdp
