import L4lb.Xdp.XdpAttachment

/-!
# Programs of others are left alone

Whatever others do between any two calls, the operations attach only where there is
nothing and detach only the program they own, or the one that was asked for.

## The argument

The id that is queried proves nothing by the time of the detachment. What does is that
the detachment compares the program of a descriptor, and that it does compare: the
descriptor is at least `3`, whatever standard descriptors are closed. `Since own k k'` says
that `own` are the changes of hooks that were made here between `k` and `k'`, among those of others.
-/

namespace L4lb.Xdp

open Effect

/-! ### What became of the hooks -/

/-- The changes, one after the other, from what was attached to what is. -/
def Replays : (XdpHook → Option ℕ) → List HookChange → (XdpHook → Option ℕ) → Prop
  | hooks, [], hooks' => hooks' = hooks
  | hooks, c :: cs, hooks' => c.before = hooks c.hook ∧ Replays (Function.update hooks c.hook c.after) cs hooks'

theorem Replays.append {hooks hooks' hooks'' : XdpHook → Option ℕ} {cs cs' : List HookChange}
    (h : Replays hooks cs hooks') (h' : Replays hooks' cs' hooks'') : Replays hooks (cs ++ cs') hooks'' := by
  induction cs generalizing hooks with
  | nil =>
    obtain rfl : hooks' = hooks := h
    exact h'
  | cons c cs ih => exact ⟨h.1, ih h.2⟩

/-- Between `k` and `k'` the changes `own` were made here, and others by others. -/
structure Since (own : List HookChange) (k k' : XdpKernel) : Prop where
  /-- What became of the hooks. -/
  changes : ∃ cs, k'.changes = k.changes ++ cs ∧ Replays k.hooks cs k'.hooks ∧
    cs.filter (·.actor = .self) = own
  /-- Programs are not forgotten. -/
  nextProgram : k.nextProgram ≤ k'.nextProgram
  /-- They keep their ids. -/
  ids : ∀ program < k.nextProgram, k'.ids program = k.ids program

section Since

variable {k k' k'' : XdpKernel} {own own' : List HookChange}

theorem Since.refl (k : XdpKernel) : Since [] k k :=
  ⟨⟨[], (List.append_nil _).symm, rfl, rfl⟩, le_rfl, fun _ _ => rfl⟩

theorem Since.trans (h : Since own k k') (h' : Since own' k' k'') : Since (own ++ own') k k'' := by
  obtain ⟨cs, hcs, hreplays, rfl⟩ := h.changes
  obtain ⟨cs', hcs', hreplays', rfl⟩ := h'.changes
  refine ⟨⟨cs ++ cs', ?_, hreplays.append hreplays', List.filter_append _ _⟩, ?_, fun program hlt => ?_⟩
  · rw [hcs', hcs, List.append_assoc]
  · exact h.nextProgram.trans h'.nextProgram
  · rw [h'.ids program (hlt.trans_le h.nextProgram), h.ids program hlt]

/-- A hook is changed. -/
theorem Since.put (k : XdpKernel) (actor : Actor) (hook : XdpHook) (program : Option ℕ) :
    Since ([⟨actor, hook, k.hooks hook, program⟩].filter (·.actor = .self)) k (k.put actor hook program) :=
  ⟨⟨[⟨actor, hook, k.hooks hook, program⟩], rfl, ⟨rfl, rfl⟩, rfl⟩, le_rfl, fun _ _ => rfl⟩

theorem Since.newProgram (k : XdpKernel) (id : ℕ) : Since [] k (k.newProgram id) :=
  ⟨⟨[], (List.append_nil _).symm, rfl, rfl⟩, Nat.le_succ _,
    fun _ hlt => Function.update_of_ne hlt.ne _ _⟩

/-- The hooks and programs are as before. -/
theorem Since.of_eq (hhooks : k'.hooks = k.hooks) (hchanges : k'.changes = k.changes)
    (hnext : k'.nextProgram = k.nextProgram) (hids : k'.ids = k.ids) : Since [] k k' :=
  ⟨⟨[], by rw [hchanges, List.append_nil], hhooks, rfl⟩, hnext.ge, fun _ _ => by rw [hids]⟩

end Since

/-! ### Calls between those of others -/

/-- Nothing was changed here; descriptors are as before. -/
structure Untouched (k k' : XdpKernel) : Prop where
  /-- The hooks were changed by others only. -/
  since : Since [] k k'
  /-- Descriptors are as before. -/
  fds : k'.fds = k.fds
  /-- So is what was loaded. -/
  loaded : k'.loaded = k.loaded

section Calls

variable {k k' k'' : XdpKernel} {choice : AttachmentChoice}

theorem Untouched.refl (k : XdpKernel) : Untouched k k := ⟨.refl k, rfl, rfl⟩

theorem Untouched.trans (h : Untouched k k') (h' : Untouched k' k'') : Untouched k k'' :=
  ⟨h.since.trans h'.since, h'.fds.trans h.fds, h'.loaded.trans h.loaded⟩

/-- Others change nothing here. -/
theorem untouched_act (k : XdpKernel) (t : ThirdParty) : Untouched k (k.act t) := by
  cases t with
  | put hook program => exact ⟨Since.put k .thirdParty hook program, rfl, rfl⟩
  | load id => exact ⟨Since.newProgram k id, rfl, rfl⟩

theorem untouched_foldl (k : XdpKernel) (others : List ThirdParty) :
    Untouched k (others.foldl XdpKernel.act k) := by
  induction others generalizing k with
  | nil => exact .refl k
  | cons t ts ih => exact (untouched_act k t).trans (ih _)

/-- Others act, and then a call is answered. -/
def Interleaves (c : AttachmentCall) (k : XdpKernel) (a : AttachmentAnswer c) (k' : XdpKernel) : Prop :=
  ∃ (others : List ThirdParty) (choice : AttachmentChoice),
    (others.foldl XdpKernel.act k).respond choice c = (a, k')

/-- Calls that change neither hooks nor descriptors. -/
def Reads : AttachmentCall → Prop
  | .openObject | .checkObject | .configureMaps | .progInfo _ | .queryId _ _ => True
  | _ => False

theorem respond_reads {c : AttachmentCall} (hc : Reads c) : (k.respond choice c).2 = k := by
  cases c <;> first | exact hc.elim | skip
  all_goals
    simp only [XdpKernel.respond]
    split <;> rfl

theorem interleaves_reads {c : AttachmentCall} {a : AttachmentAnswer c} (hc : Reads c)
    (h : Interleaves c k a k') : Untouched k k' := by
  obtain ⟨others, choice, h⟩ := h
  have hk := congrArg Prod.snd h
  rw [respond_reads hc] at hk
  obtain rfl := hk
  exact untouched_foldl k others

theorem interleaves_close {fd : ℤ} (h : Interleaves (.close fd) k () k') :
    Since [] k k' ∧ k'.fds = Function.update k.fds fd none ∧ k'.loaded = k.loaded := by
  obtain ⟨others, choice, h⟩ := h
  have hothers := untouched_foldl k others
  obtain rfl := (Prod.mk.inj h).2
  exact ⟨hothers.since.trans (.of_eq rfl rfl rfl rfl), by rw [hothers.fds], hothers.loaded⟩

/-- A copy of a descriptor is new, and not below the least. -/
theorem interleaves_dupFd {fd : ℤ} {least : ℕ} {a : Except Errno ℤ}
    (h : Interleaves (.dupFd fd least) k a k') :
    (Untouched k k' ∧ ∃ e, a = .error e) ∨
      ∃ copy : ℕ, a = .ok copy ∧ least ≤ copy ∧ k.fds copy = none ∧ Since [] k k' ∧
        k'.fds = Function.update k.fds copy (k.fds fd) ∧ k'.loaded = k.loaded := by
  obtain ⟨others, choice, h⟩ := h
  have hothers := untouched_foldl k others
  simp only [XdpKernel.respond] at h
  split at h
  · rename_i descriptor hfd herror
    split at h
    · rename_i hcan
      obtain ⟨rfl, rfl⟩ := Prod.mk.inj h
      rw [hothers.fds] at hfd hcan
      refine Or.inr ⟨choice.fd, rfl, hcan.2, hcan.1, hothers.since.trans (.of_eq rfl rfl rfl rfl), ?_,
        hothers.loaded⟩
      rw [XdpKernel.newFd, hothers.fds, hfd]
    · obtain ⟨rfl, rfl⟩ := Prod.mk.inj h
      exact Or.inl ⟨hothers, _, rfl⟩
  · obtain ⟨rfl, rfl⟩ := Prod.mk.inj h
    exact Or.inl ⟨hothers, _, rfl⟩

/-- A descriptor is found for a program with the id. -/
theorem interleaves_getFdById {id : ℕ} {a : Except Errno ℤ} (h : Interleaves (.getFdById id) k a k') :
    (Untouched k k' ∧ ∃ e, a = .error e) ∨
      ∃ (fd program : ℕ), a = .ok fd ∧ k.fds fd = none ∧ program < k'.nextProgram ∧ k'.ids program = id ∧
        Since [] k k' ∧ k'.fds = Function.update k.fds fd (some (.program program)) ∧
        k'.loaded = k.loaded := by
  obtain ⟨others, choice, h⟩ := h
  have hothers := untouched_foldl k others
  simp only [XdpKernel.respond] at h
  split at h
  · obtain ⟨rfl, rfl⟩ := Prod.mk.inj h
    exact Or.inl ⟨hothers, _, rfl⟩
  split at h
  · rename_i hfound
    obtain ⟨rfl, rfl⟩ := Prod.mk.inj h
    rw [hothers.fds] at hfound
    refine Or.inr ⟨choice.fd, choice.program, rfl, hfound.2.2, hfound.1, hfound.2.1,
      hothers.since.trans (.of_eq rfl rfl rfl rfl), ?_, hothers.loaded⟩
    rw [XdpKernel.newFd, hothers.fds]
  · obtain ⟨rfl, rfl⟩ := Prod.mk.inj h
    exact Or.inl ⟨hothers, _, rfl⟩

/-- A program is attached where there is none. -/
theorem interleaves_attach {ifindex fd : ℤ} {mode : XdpAttachMode} {program : ℕ} {a : Except Errno Unit}
    (hfd : k.fds fd = some (.program program)) (h : Interleaves (.attach ifindex fd mode) k a k') :
    k'.fds = k.fds ∧ k'.loaded = k.loaded ∧
      ((Since [] k k' ∧ ∃ e, a = .error e) ∨
        a = .ok () ∧ Since [⟨.self, (ifindex, mode), none, some program⟩] k k') := by
  obtain ⟨others, choice, h⟩ := h
  have hothers := untouched_foldl k others
  simp only [XdpKernel.respond, hothers.fds, hfd] at h
  cases herror : choice.error with
  | some error =>
    simp only [herror] at h
    obtain ⟨rfl, rfl⟩ := Prod.mk.inj h
    exact ⟨hothers.fds, hothers.loaded, Or.inl ⟨hothers.since, _, rfl⟩⟩
  | none =>
    simp only [herror] at h
    split at h
    · rename_i hempty
      obtain ⟨rfl, rfl⟩ := Prod.mk.inj h
      have hput := hothers.since.trans (Since.put _ .self (ifindex, mode) (some program))
      rw [hempty] at hput
      exact ⟨hothers.fds, hothers.loaded, Or.inr ⟨rfl, hput⟩⟩
    · obtain ⟨rfl, rfl⟩ := Prod.mk.inj h
      exact ⟨hothers.fds, hothers.loaded, Or.inl ⟨hothers.since, _, rfl⟩⟩

/-- **A detachment that compares** detaches the program of the descriptor, or nothing. -/
theorem interleaves_detach {ifindex fd : ℤ} {mode : XdpAttachMode} {program : ℕ} {a : Except Errno Unit}
    (hne : fd ≠ 0) (hfd : k.fds fd = some (.program program)) (h : Interleaves (.detach ifindex mode fd) k a k') :
    k'.fds = k.fds ∧ k'.loaded = k.loaded ∧
      ((Since [] k k' ∧ ∃ e, a = .error e) ∨
        a = .ok () ∧ Since [⟨.self, (ifindex, mode), some program, none⟩] k k') := by
  obtain ⟨others, choice, h⟩ := h
  have hothers := untouched_foldl k others
  simp only [XdpKernel.respond, if_neg hne, hothers.fds, hfd] at h
  split at h
  · obtain ⟨rfl, rfl⟩ := Prod.mk.inj h
    exact ⟨hothers.fds, hothers.loaded, Or.inl ⟨hothers.since, _, rfl⟩⟩
  split at h
  · rename_i hattached
    obtain ⟨rfl, rfl⟩ := Prod.mk.inj h
    have hput := hothers.since.trans (Since.put _ .self (ifindex, mode) none)
    rw [hattached] at hput
    exact ⟨hothers.fds, hothers.loaded, Or.inr ⟨rfl, hput⟩⟩
  · obtain ⟨rfl, rfl⟩ := Prod.mk.inj h
    exact ⟨hothers.fds, hothers.loaded, Or.inl ⟨hothers.since, _, rfl⟩⟩

end Calls

/-! ### The operations -/

/-- What a detachment of a program ends with: others may have done what they like, and
either nothing was detached here, or just the program, and then there is no error. -/
structure Detached (hook : XdpHook) (program : ℕ) (r : Except AttachmentError Unit) (k k' : XdpKernel) :
    Prop where
  /-- Descriptors are as before. -/
  fds : k'.fds = k.fds
  /-- So is what was loaded. -/
  loaded : k'.loaded = k.loaded
  /-- Nothing was detached, or the program. -/
  since : Since [] k k' ∨ (r = .ok () ∧ Since [⟨.self, hook, some program, none⟩] k k')

section Operations

variable {k k' k'' : XdpKernel} {hook : XdpHook} {program : ℕ} {r : Except AttachmentError Unit}

theorem Detached.of_untouched (r : Except AttachmentError Unit) (h : Untouched k k') :
    Detached hook program r k k' := ⟨h.fds, h.loaded, Or.inl h.since⟩

theorem Detached.after (h : Untouched k k') (h' : Detached hook program r k' k'') :
    Detached hook program r k k'' := by
  refine ⟨h'.fds.trans h.fds, h'.loaded.trans h.loaded, ?_⟩
  rcases h'.since with hs | ⟨hr, hs⟩
  · exact Or.inl (h.since.trans hs)
  · exact Or.inr ⟨hr, h.since.trans hs⟩

theorem always_queryAttachedProgramId (ifindex : ℤ) (mode : XdpAttachMode) (k : XdpKernel) :
    (queryAttachedProgramId ifindex mode).Always Interleaves (fun _ => True) (fun _ k' => Untouched k k') k := by
  refine Tree.Always.ask_bind fun a k' hr => ⟨trivial, ?_⟩
  have h : Untouched k k' := interleaves_reads (c := .queryId ifindex mode) trivial hr
  rcases a with e | id
  · dsimp only
    split <;> exact h
  · exact h

/-- **A detachment with a descriptor of a program** detaches this program or nothing,
whatever the id that was queried. -/
theorem always_detachExpectedProgramFd (ifindex : ℤ) (mode : XdpAttachMode) {fd : ℤ} (id : ℕ)
    (hfd : k.fds fd = some (.program program)) :
    (detachExpectedProgramFd ifindex mode fd id).Always Interleaves (fun _ => True)
      (fun r k' => Detached (ifindex, mode) program r k k') k := by
  refine (always_queryAttachedProgramId ifindex mode k).bind fun r k₁ h₁ => ?_
  rcases r with e | current
  · exact .of_untouched _ h₁
  dsimp only
  split
  · exact .of_untouched _ h₁
  split
  · exact .of_untouched _ h₁
  refine Tree.Always.ask_bind fun a k₂ hr => ⟨trivial, ?_⟩
  rcases interleaves_dupFd hr with ⟨h₂, e, rfl⟩ | ⟨copy, rfl, hleast, hfree, h₂, hfds₂, hloaded₂⟩
  · exact .of_untouched _ (h₁.trans h₂)
  -- the copy is no standard descriptor, so the detachment compares
  have hne : (copy : ℤ) ≠ 0 := by omega
  have hcopy : k₂.fds copy = some (.program program) := by
    rw [hfds₂, Function.update_self, h₁.fds, hfd]
  refine Tree.Always.ask_bind fun result k₃ hr => ⟨trivial, ?_⟩
  obtain ⟨hfds₃, hloaded₃, hdetached⟩ := interleaves_detach hne hcopy hr
  refine Tree.Always.ask_bind fun _ k₄ hr => ⟨trivial, ?_⟩
  obtain ⟨h₄, hfds₄, hloaded₄⟩ := interleaves_close hr
  have hfds : k₄.fds = k.fds := by
    rw [hfds₄, hfds₃, hfds₂, Function.update_idem, ← hfree, Function.update_eq_self, h₁.fds]
  have hloaded : k₄.loaded = k.loaded := by
    rw [hloaded₄, hloaded₃, hloaded₂, h₁.loaded]
  have hbefore := h₁.since.trans h₂
  rcases hdetached with ⟨h₃, e, rfl⟩ | ⟨rfl, h₃⟩
  · have h := (hbefore.trans h₃).trans h₄
    dsimp only
    split <;> exact ⟨hfds, hloaded, Or.inl h⟩
  · exact ⟨hfds, hloaded, Or.inr ⟨rfl, (hbefore.trans h₃).trans h₄⟩⟩

/-- **A detachment by id** detaches a program with this id, or nothing. -/
theorem always_detachExpectedProgram (ifindex : ℤ) (mode : XdpAttachMode) (id : ℕ) (k : XdpKernel) :
    (detachExpectedProgram ifindex mode id).Always Interleaves (fun _ => True)
      (fun r k' => Since [] k k' ∨ ∃ program < k'.nextProgram, k'.ids program = id ∧ r = .ok () ∧
        Since [⟨.self, (ifindex, mode), some program, none⟩] k k') k := by
  refine (always_queryAttachedProgramId ifindex mode k).bind fun r k₁ h₁ => ?_
  rcases r with e | current
  · exact Or.inl h₁.since
  dsimp only
  split
  · exact Or.inl h₁.since
  refine Tree.Always.ask_bind fun a k₂ hr => ⟨trivial, ?_⟩
  rcases interleaves_getFdById hr with ⟨h₂, e, rfl⟩ | ⟨fd, program, rfl, -, hlt, hid, h₂, hfds₂, -⟩
  · exact Or.inl (h₁.trans h₂).since
  have hfd : k₂.fds fd = some (.program program) := by rw [hfds₂, Function.update_self]
  refine (always_detachExpectedProgramFd ifindex mode id hfd).bind fun r k₃ h₃ => ?_
  refine Tree.Always.ask_bind fun _ k₄ hr => ⟨trivial, ?_⟩
  obtain ⟨h₄, -, -⟩ := interleaves_close hr
  have hbefore := h₁.since.trans h₂
  rcases h₃.since with h | ⟨rfl, h⟩
  · exact Or.inl ((hbefore.trans h).trans h₄)
  · have hafter := h.trans h₄
    refine Or.inr ⟨program, hlt.trans_le hafter.nextProgram, ?_, rfl, hbefore.trans hafter⟩
    rw [hafter.ids program hlt, hid]

/-! ### An attachment in use -/

/-- What an attachment knows of itself: its descriptor, once it has one, is of the one
program that was loaded. -/
structure Owns (a : XdpAttachment) (k : XdpKernel) : Prop where
  /-- Nothing was loaded without an object. -/
  object : a.object = false → k.loaded = []
  /-- Its descriptor is of what was loaded. -/
  program : k.loaded = [] ∧ a.programFd < 0 ∨
    ∃ program, k.loaded = [program] ∧ k.fds a.programFd = some (.program program)
  /-- It is attached with a descriptor. -/
  attached : a.attached = true → 0 ≤ a.programFd

theorem Owns.of_untouched {a : XdpAttachment} (h : Owns a k) (hk : Untouched k k') : Owns a k' := by
  refine ⟨fun hobject => hk.loaded.trans (h.object hobject), ?_, h.attached⟩
  rw [hk.loaded, hk.fds]
  exact h.program

theorem Owns.of_eq {a : XdpAttachment} (h : Owns a k) (hfds : k'.fds = k.fds) (hloaded : k'.loaded = k.loaded) :
    Owns a k' := by
  refine ⟨fun hobject => hloaded.trans (h.object hobject), ?_, h.attached⟩
  rw [hloaded, hfds]
  exact h.program

theorem Owns.fd_eq {a : XdpAttachment} (h : Owns a k) (hfd : 0 ≤ a.programFd) :
    ∃ program, k.loaded = [program] ∧ k.fds a.programFd = some (.program program) := by
  rcases h.program with ⟨-, hneg⟩ | hprogram
  · omega
  · exact hprogram

theorem interleaves_load {a : Except Errno ℤ} (h : Interleaves .load k a k') :
    (Untouched k k' ∧ ∃ e, a = .error e) ∨
      ∃ (fd program : ℕ), a = .ok fd ∧ Since [] k k' ∧ k'.loaded = k.loaded ++ [program] ∧
        k'.fds fd = some (.program program) := by
  obtain ⟨others, choice, h⟩ := h
  have hothers := untouched_foldl k others
  simp only [XdpKernel.respond] at h
  split at h
  · obtain ⟨rfl, rfl⟩ := Prod.mk.inj h
    exact Or.inl ⟨hothers, _, rfl⟩
  split at h
  · obtain ⟨rfl, rfl⟩ := Prod.mk.inj h
    refine Or.inr ⟨choice.fd, _, rfl, ?_, by rw [← hothers.loaded], Function.update_self _ _ _⟩
    have hnew := hothers.since.trans (Since.newProgram _ choice.id)
    exact hnew.trans (.of_eq rfl rfl rfl rfl)
  · obtain ⟨rfl, rfl⟩ := Prod.mk.inj h
    exact Or.inl ⟨hothers, _, rfl⟩

theorem always_loadObject {a : XdpAttachment} (path : String) (h : Owns a k) :
    (a.loadObject path).Always Interleaves (fun _ => True)
      (fun r k' => Owns r.1 k' ∧ Since [] k k' ∧ (k.loaded ≠ [] → k'.loaded = k.loaded)) k := by
  unfold XdpAttachment.loadObject
  split
  · exact ⟨h, .refl k, fun _ => rfl⟩
  rename_i hobject
  have hobject : a.object = false := Bool.eq_false_iff.mpr hobject
  have hloaded := h.object hobject
  have hneg : a.programFd < 0 := by
    rcases h.program with ⟨-, hneg⟩ | ⟨program, hprogram, -⟩
    · exact hneg
    · rw [hloaded] at hprogram
      cases hprogram
  -- an object, and nothing loaded yet
  have hopened : ∀ {k₁ : XdpKernel}, Untouched k k₁ → Owns { a with object := true } k₁ := fun hk =>
    ⟨fun hf => (nomatch hf), Or.inl ⟨hk.loaded.trans hloaded, hneg⟩, h.attached⟩
  have hend : ∀ {k₁ : XdpKernel} {a₁ : XdpAttachment}, Owns a₁ k₁ → Since [] k k₁ →
      Owns a₁ k₁ ∧ Since [] k k₁ ∧ (k.loaded ≠ [] → k₁.loaded = k.loaded) :=
    fun h₁ hk => ⟨h₁, hk, fun hne => absurd hloaded hne⟩
  refine Tree.Always.ask_bind fun r k₁ hr => ⟨trivial, ?_⟩
  have h₁ : Untouched k k₁ := interleaves_reads (c := .openObject) trivial hr
  rcases r with e | ⟨⟩
  · exact hend (h.of_untouched h₁) h₁.since
  refine Tree.Always.ask_bind fun r k₂ hr => ⟨trivial, ?_⟩
  have h₂ : Untouched k k₂ := h₁.trans (interleaves_reads (c := .checkObject) trivial hr)
  rcases r with e | ⟨⟩
  · exact hend (hopened h₂) h₂.since
  refine Tree.Always.ask_bind fun r k₃ hr => ⟨trivial, ?_⟩
  rcases interleaves_load hr with ⟨h₃, e, rfl⟩ | ⟨fd, program, rfl, h₃, hloaded₃, hfd₃⟩
  · exact hend (hopened (h₂.trans h₃)) (h₂.trans h₃).since
  have hsince₃ : Since [] k k₃ := h₂.since.trans h₃
  rw [h₂.loaded, hloaded] at hloaded₃
  have howns : ∀ id, Owns { a with object := true, programFd := fd, programId := id } k₃ := fun _ =>
    ⟨fun hf => (nomatch hf), Or.inr ⟨program, hloaded₃, hfd₃⟩, fun _ => Int.natCast_nonneg fd⟩
  refine Tree.Always.ask_bind fun r k₄ hr => ⟨trivial, ?_⟩
  have h₄ : Untouched k₃ k₄ := interleaves_reads (c := .progInfo fd) trivial hr
  rcases r with e | id
  · exact hend ((howns _).of_untouched h₄) (hsince₃.trans h₄.since)
  refine Tree.Always.ask_bind fun r k₅ hr => ⟨trivial, ?_⟩
  have h₅ : Untouched k₃ k₅ := h₄.trans (interleaves_reads (c := .configureMaps) trivial hr)
  exact hend ((howns id).of_untouched h₅) (hsince₃.trans h₅.since)

/-- **An attachment** is made where there is nothing, or it fails and changes nothing. -/
theorem always_attachProgram {a : XdpAttachment} (ifindex : ℤ) (mode : XdpAttachMode) (h : Owns a k) :
    (a.attachProgram ifindex mode).Always Interleaves (fun _ => True)
      (fun r k' => Owns r.1 k' ∧ k'.loaded = k.loaded ∧
        ((Since [] k k' ∧ r.1 = a ∧ ∃ e, r.2 = .error e) ∨ ∃ program, k.loaded = [program] ∧
          Since [⟨.self, (ifindex, mode), none, some program⟩] k k' ∧ r.2 = .ok ())) k := by
  unfold XdpAttachment.attachProgram
  split
  · exact ⟨h, rfl, Or.inl ⟨.refl k, rfl, _, rfl⟩⟩
  rename_i hcan
  have hpos : 0 ≤ a.programFd := by
    by_contra hneg
    exact hcan (Or.inl (not_le.mp hneg))
  obtain ⟨program, hloaded, hfd⟩ := h.fd_eq hpos
  refine Tree.Always.ask_bind fun r k₁ hr => ⟨trivial, ?_⟩
  obtain ⟨hfds₁, hloaded₁, ⟨h₁, e, rfl⟩ | ⟨rfl, h₁⟩⟩ := interleaves_attach hfd hr
  · exact ⟨h.of_eq hfds₁ hloaded₁, hloaded₁, Or.inl ⟨h₁, rfl, _, rfl⟩⟩
  · have howns := h.of_eq hfds₁ hloaded₁
    exact ⟨⟨howns.object, howns.program, fun _ => hpos⟩, hloaded₁, Or.inr ⟨program, hloaded, h₁, rfl⟩⟩

/-- **A detachment** detaches the program that was loaded, or nothing; if it fails, it
detaches nothing, and can be tried again. -/
theorem always_detachProgram {a : XdpAttachment} (h : Owns a k) :
    a.detachProgram.Always Interleaves (fun _ => True)
      (fun r k' => Owns r.1 k' ∧ k'.loaded = k.loaded ∧
        ((Since [] k k' ∧ (r.1 = a ∨ r.2 = .ok ())) ∨ ∃ program, k.loaded = [program] ∧
          Since [⟨.self, (a.interfaceIndex, a.mode), some program, none⟩] k k' ∧ r.2 = .ok ())) k := by
  unfold XdpAttachment.detachProgram
  split
  · rename_i hattached
    obtain ⟨program, hloaded, hfd⟩ := h.fd_eq (h.attached hattached)
    refine (always_detachExpectedProgramFd _ _ _ hfd).bind fun r k₁ h₁ => ?_
    have howns := h.of_eq h₁.fds h₁.loaded
    rcases r with e | ⟨⟩
    · rcases h₁.since with hs | ⟨he, -⟩
      · exact ⟨howns, h₁.loaded, Or.inl ⟨hs, Or.inl rfl⟩⟩
      · cases he
    · refine ⟨⟨howns.object, howns.program, fun hf => (nomatch hf)⟩, h₁.loaded, ?_⟩
      rcases h₁.since with hs | ⟨-, hs⟩
      · exact Or.inl ⟨hs, Or.inr rfl⟩
      · exact Or.inr ⟨program, hloaded, hs, rfl⟩
  · exact ⟨h, rfl, Or.inl ⟨.refl k, Or.inl rfl⟩⟩

/-- **The destructor** detaches the program that was loaded, or nothing. -/
theorem always_destroy {a : XdpAttachment} (h : Owns a k) :
    a.destroy.Always Interleaves (fun _ => True)
      (fun _ k' => Since [] k k' ∨ ∃ program, k.loaded = [program] ∧
        Since [⟨.self, (a.interfaceIndex, a.mode), some program, none⟩] k k') k := by
  unfold XdpAttachment.destroy
  have hdetached : a.detachLast.Always Interleaves (fun _ => True)
      (fun _ k' => Since [] k k' ∨ ∃ program, k.loaded = [program] ∧
        Since [⟨.self, (a.interfaceIndex, a.mode), some program, none⟩] k k') k := by
    unfold XdpAttachment.detachLast
    split
    · refine (always_detachProgram h).mono fun r k' hr => ?_
      obtain ⟨-, -, ⟨hs, -⟩ | ⟨program, hloaded, hs, -⟩⟩ := hr
      · exact Or.inl hs
      · exact Or.inr ⟨program, hloaded, hs⟩
    · exact Or.inl (.refl k)
  refine hdetached.bind fun r k₁ h₁ => ?_
  dsimp only
  split
  · intro _ k₂ hr
    obtain ⟨h₂, -, -⟩ := interleaves_close hr
    refine ⟨trivial, ?_⟩
    rcases h₁ with hs | ⟨program, hloaded, hs⟩
    · exact Or.inl (hs.trans h₂)
    · exact Or.inr ⟨program, hloaded, hs.trans h₂⟩
  · exact h₁

end Operations

/-! ### Its life -/

/-- An attachment between two operations: it was made, and has loaded, attached and
detached any number of times since, well or badly. -/
inductive AttachmentRun (k₀ : XdpKernel) : XdpAttachment → XdpKernel → Prop where
  /-- It was made. -/
  | made : AttachmentRun k₀ {} { k₀ with changes := [], loaded := [] }
  /-- `loadObject`. -/
  | loaded {a : XdpAttachment} {k k' : XdpKernel} {r : XdpAttachment × Except AttachmentError Unit}
    (path : String) (h : AttachmentRun k₀ a k) (hr : (a.loadObject path).Ends Interleaves k r k') :
    AttachmentRun k₀ r.1 k'
  /-- `attachProgram`. -/
  | attached {a : XdpAttachment} {k k' : XdpKernel} {r : XdpAttachment × Except AttachmentError Unit}
    (ifindex : ℤ) (mode : XdpAttachMode) (h : AttachmentRun k₀ a k)
    (hr : (a.attachProgram ifindex mode).Ends Interleaves k r k') : AttachmentRun k₀ r.1 k'
  /-- `detachProgram`. -/
  | detached {a : XdpAttachment} {k k' : XdpKernel} {r : XdpAttachment × Except AttachmentError Unit}
    (h : AttachmentRun k₀ a k) (hr : a.detachProgram.Ends Interleaves k r k') : AttachmentRun k₀ r.1 k'

/-- A change that may be made here: the one program that was loaded, attached where there
was nothing, or detached. -/
def Rightful (loaded : List ℕ) (c : HookChange) : Prop :=
  ∃ program, loaded = [program] ∧
    (c.before = none ∧ c.after = some program ∨ c.before = some program ∧ c.after = none)

/-- What holds between two operations. -/
theorem AttachmentRun.sound {k₀ k : XdpKernel} {a : XdpAttachment} (h : AttachmentRun k₀ a k) :
    Owns a k ∧ ∃ own, Since own { k₀ with changes := [], loaded := [] } k ∧ ∀ c ∈ own, Rightful k.loaded c := by
  induction h with
  | made => exact ⟨⟨fun _ => rfl, Or.inl ⟨rfl, by decide⟩, fun hf => (nomatch hf)⟩, [], .refl _, by simp⟩
  | @loaded a k k' r path _ hr ih =>
    obtain ⟨howns, own, hsince, hrightful⟩ := ih
    obtain ⟨howns', hs, hloaded⟩ := (always_loadObject path howns).ends hr
    refine ⟨howns', own ++ [], hsince.trans hs, fun c hc => ?_⟩
    rw [List.append_nil] at hc
    have hc' := hrightful c hc
    rwa [hloaded (by obtain ⟨program, hp, -⟩ := hc'; simp [hp])]
  | @attached a k k' r ifindex mode _ hr ih =>
    obtain ⟨howns, own, hsince, hrightful⟩ := ih
    obtain ⟨howns', hloaded, ⟨hs, -⟩ | ⟨program, hprogram, hs, -⟩⟩ :=
      (always_attachProgram ifindex mode howns).ends hr
    · exact ⟨howns', _, hsince.trans hs, by simpa [hloaded] using hrightful⟩
    · refine ⟨howns', _, hsince.trans hs, fun c hc => ?_⟩
      rw [hloaded]
      rcases List.mem_append.mp hc with hc | hc
      · exact hrightful c hc
      · obtain rfl := List.mem_singleton.mp hc
        exact ⟨program, hprogram, Or.inl ⟨rfl, rfl⟩⟩
  | @detached a k k' r _ hr ih =>
    obtain ⟨howns, own, hsince, hrightful⟩ := ih
    obtain ⟨howns', hloaded, ⟨hs, -⟩ | ⟨program, hprogram, hs, -⟩⟩ := (always_detachProgram howns).ends hr
    · exact ⟨howns', _, hsince.trans hs, by simpa [hloaded] using hrightful⟩
    · refine ⟨howns', _, hsince.trans hs, fun c hc => ?_⟩
      rw [hloaded]
      rcases List.mem_append.mp hc with hc | hc
      · exact hrightful c hc
      · obtain rfl := List.mem_singleton.mp hc
        exact ⟨program, hprogram, Or.inr ⟨rfl, rfl⟩⟩

/-- **Programs of others are left alone**, whatever others attach, replace, detach and load
between any two calls, and whatever descriptors are closed at the start. Of an attachment,
after any operations on it:

* the hooks are what all changes, in order, have made of them, and those made here were to
  attach the one program that was loaded, where there was nothing, or to detach it;
* a next attachment does the former, or fails and changes nothing;
* a next detachment does the latter or changes nothing, and if it fails it changes
  nothing and can be tried again; and so does the destructor.

A detachment by id, anywhere, detaches a program with this id or changes nothing; if it
fails it changes nothing. -/
theorem never_touches_foreign {k₀ k : XdpKernel} {a : XdpAttachment} (h : AttachmentRun k₀ a k) :
    (Replays k₀.hooks k.changes k.hooks ∧ ∀ c ∈ k.changes, c.actor = .self → Rightful k.loaded c) ∧
    (∀ ifindex mode r k', (a.attachProgram ifindex mode).Ends Interleaves k r k' →
      (Since [] k k' ∧ r.1 = a ∧ ∃ e, r.2 = .error e) ∨ ∃ program, k.loaded = [program] ∧
        Since [⟨.self, (ifindex, mode), none, some program⟩] k k' ∧ r.2 = .ok ()) ∧
    (∀ r k', a.detachProgram.Ends Interleaves k r k' →
      (Since [] k k' ∧ (r.1 = a ∨ r.2 = .ok ())) ∨ ∃ program, k.loaded = [program] ∧
        Since [⟨.self, (a.interfaceIndex, a.mode), some program, none⟩] k k' ∧ r.2 = .ok ()) ∧
    (∀ k', a.destroy.Ends Interleaves k () k' → Since [] k k' ∨ ∃ program, k.loaded = [program] ∧
      Since [⟨.self, (a.interfaceIndex, a.mode), some program, none⟩] k k') ∧
    ∀ ifindex mode id r k₁ k₂, (detachExpectedProgram ifindex mode id).Ends Interleaves k₁ r k₂ →
      Since [] k₁ k₂ ∨ ∃ program < k₂.nextProgram, k₂.ids program = id ∧ r = .ok () ∧
        Since [⟨.self, (ifindex, mode), some program, none⟩] k₁ k₂ := by
  obtain ⟨howns, own, hsince, hrightful⟩ := h.sound
  refine ⟨?_, fun ifindex mode r k' hr => ?_, fun r k' hr => ?_, fun k' hr => ?_, fun ifindex mode id r k₁ k₂ hr => ?_⟩
  · obtain ⟨cs, hcs, hreplays, hown⟩ := hsince.changes
    obtain rfl : k.changes = cs := by rw [hcs, List.nil_append]
    refine ⟨hreplays, fun c hc hactor => hrightful c ?_⟩
    rw [← hown, List.mem_filter]
    exact ⟨hc, decide_eq_true hactor⟩
  · exact ((always_attachProgram ifindex mode howns).ends hr).2.2
  · exact ((always_detachProgram howns).ends hr).2.2
  · exact (always_destroy howns).ends hr
  · exact (always_detachExpectedProgram ifindex mode id k₁).ends hr

/-- These others act, and then the kernel answers with this choice. -/
def takeTurn (turn : List ThirdParty × AttachmentChoice) (c : AttachmentCall) (k : XdpKernel) :
    AttachmentAnswer c × XdpKernel :=
  (turn.1.foldl XdpKernel.act k).respond turn.2 c

/-- The calls are answered in these turns, and then by a kernel left to itself. -/
def playTurns {α : Type} (m : AttachmentProgram α) (turns : List (List ThirdParty × AttachmentChoice))
    (k : XdpKernel) : α × XdpKernel :=
  m.play takeTurn ([], {}) turns k

theorem ends_playTurns {α : Type} (m : AttachmentProgram α) (turns : List (List ThirdParty × AttachmentChoice))
    (k : XdpKernel) : m.Ends Interleaves k (playTurns m turns k).1 (playTurns m turns k).2 :=
  Tree.ends_play (fun turn _ _ _ => ⟨turn.1, turn.2, rfl⟩) m k

/-- A program was attached, and its detachment begun, when somebody else replaces it: the detachment fails, and so
does the next, and what the other has attached stays. -/
theorem never_touches_foreign_replaced :
    let hook : XdpHook := (2, .kGeneric)
    let loaded := playTurns (XdpAttachment.loadObject {} "xdp_udp_dsr.o") [([], {}), ([], {}), ([], { fd := 3, id := 7 })] {}
    let attached := playTurns (loaded.1.1.attachProgram 2 .kGeneric) [] loaded.2
    let raced := playTurns attached.1.1.detachProgram
      [([], {}), ([], { fd := 4 }), ([.load 9, .put hook (some 1)], {})] attached.2
    let retried := playTurns raced.1.1.detachProgram [] raced.2
    attached.2.hooks hook = some 0 ∧
      (raced.1.1 = attached.1.1 ∧ raced.1.2 = .error (.system "条件卸载 XDP" .EEXIST) ∧ raced.2.hooks hook = some 1) ∧
      (retried.1.1 = attached.1.1 ∧ retried.1.2 = .error (.idMismatch 9 7) ∧ retried.2.hooks hook = some 1) ∧
      Since [] attached.2 raced.2 ∧ Since [] raced.2 retried.2 ∧
      ∀ c ∈ retried.2.changes, c.actor = .self → Rightful retried.2.loaded c := by
  intro hook loaded attached raced retried
  have hloaded : AttachmentRun {} loaded.1.1 loaded.2 :=
    .loaded "xdp_udp_dsr.o" (.made : AttachmentRun {} {} _) (ends_playTurns _ _ _)
  have hattached : AttachmentRun {} attached.1.1 attached.2 := .attached 2 .kGeneric hloaded (ends_playTurns _ _ _)
  have hraced : AttachmentRun {} raced.1.1 raced.2 := .detached hattached (ends_playTurns _ _ _)
  have hretried : AttachmentRun {} retried.1.1 retried.2 := .detached hraced (ends_playTurns _ _ _)
  have hfailed : raced.1.2 = .error (.system "条件卸载 XDP" .EEXIST) := by decide +kernel
  have hmismatch : retried.1.2 = .error (.idMismatch 9 7) := by decide +kernel
  refine ⟨by decide +kernel, ⟨by decide +kernel, hfailed, by decide +kernel⟩,
    ⟨by decide +kernel, hmismatch, by decide +kernel⟩, ?_, ?_, (never_touches_foreign hretried).1.2⟩
  · rcases (never_touches_foreign hattached).2.2.1 raced.1 raced.2 (ends_playTurns _ _ _) with ⟨hs, -⟩ | ⟨_, -, -, hok⟩
    · exact hs
    · rw [hfailed] at hok
      cases hok
  · rcases (never_touches_foreign hraced).2.2.1 retried.1 retried.2 (ends_playTurns _ _ _) with ⟨hs, -⟩ | ⟨_, -, -, hok⟩
    · exact hs
    · rw [hmismatch] at hok
      cases hok

end L4lb.Xdp
