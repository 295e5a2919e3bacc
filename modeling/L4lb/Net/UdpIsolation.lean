import L4lb.Net.UdpFlowTable

/-!
# An event of one flow leaves the others alone

What the UDP reactor does about an event of a flow touches that flow only; what it does
about an event of the listener moves the deadline of a flow only for a datagram of its
client that was sent on whole, and takes a flow out only because its own socket refused
such a datagram, or because it was found expired (`udp_fault_isolation`).

## The argument

What may become of a flow is said by its `Fates`, from what has happened since; for an
event of the listener that is a derivation with a `Cause` for each change (`Fate`). One
lemma for each method: if what has become of every flow before is one of its fates, so is
what becomes of it after (`Spares`). Reports are `Quiet`; a method that touches one flow
has to be `Allowed` to.
-/

namespace L4lb.Net

open Effect Prog Relation

variable {listenEndpoint : Endpoint} {options : UdpReactorOptions} {s s' s₀ : UdpReactor} {token : ℕ} {flow : UdpFlow}

/-! ### What may become of a flow -/

/-- An error of a flow's own socket that the flow does not survive. -/
def ClosesFlow (error : Errno) : Prop :=
  error ≠ .EBADF ∧ error ≠ .ENOTSOCK ∧ error ≠ .EINVAL ∧ isResourcePressure error = false

/-- A datagram of the client of this key that can be served: neither truncated nor longer than any, and its metadata
in order. -/
structure UdpReceipt.Admissible (listenEndpoint : Endpoint) (options : UdpReactorOptions) (key : UdpFlowKey)
    (receipt : UdpReceipt) : Prop where
  /-- It is not truncated. -/
  whole : receipt.flaggedTruncated options.receiveSize = false
  /-- It is not too long. -/
  bounded : receipt.receivedBytes options.receiveSize ≤ kUdpPayloadLimit
  /-- It says whose it is. -/
  parsed : parsePacketMetadata listenEndpoint receipt = some key

/-- The datagram taken last is one of the client of this key that can be served, and has this size. -/
def Admitted (listenEndpoint : Endpoint) (options : UdpReactorOptions) (key : UdpFlowKey) (size : ℕ)
    (new : List UdpEvent) : Prop :=
  ∃ receipt, lastReceived new = some (some .listener, receipt) ∧ receipt.Admissible listenEndpoint options key ∧
    size = receipt.receivedBytes options.receiveSize

/-- Why an event of the listener touches a flow, and what becomes of it. -/
inductive Cause (listenEndpoint : Endpoint) (options : UdpReactorOptions) (flow : UdpFlow) (new : List UdpEvent) :
    Option UdpFlow → Prop
  /-- The datagram of its client was sent on whole: its deadline is moved. -/
  | sent (size : ℕ) (time : Time) (admitted : Admitted listenEndpoint options flow.key size new)
      (whole : .answered flow.token size (.ok size) ∈ sinceReceived new) :
      Cause listenEndpoint options flow new (some { flow with deadline := flow.deadline.recordSubmission time })
  /-- The flow's own socket refused the datagram of its client: it is closed. -/
  | refused (size : ℕ) (error : Errno) (admitted : Admitted listenEndpoint options flow.key size new)
      (answered : .answered flow.token size (.error error) ∈ sinceReceived new) (again : error ≠ .EINTR)
      (closes : ClosesFlow error) : Cause listenEndpoint options flow new none
  /-- It was found expired: it is closed. -/
  | expired (time : Time) (found : .checked flow.token flow.deadline.lastSubmissionTime time ∈ new ∨
        .swept flow.token flow.deadline.lastSubmissionTime time ∈ new)
      (late : time - flow.deadline.lastSubmissionTime ≥ options.idleTimeout) : Cause listenEndpoint options flow new none

/-- What may have become of a flow in an event of the listener: every change has its cause. -/
inductive Fate (listenEndpoint : Endpoint) (options : UdpReactorOptions) (flow : UdpFlow) :
    List UdpEvent → Option UdpFlow → Prop
  /-- Nothing has happened. -/
  | kept : Fate listenEndpoint options flow [] (some flow)
  /-- Something happened. -/
  | passed {new : List UdpEvent} {now : Option UdpFlow} (event : UdpEvent)
      (before : Fate listenEndpoint options flow new now) : Fate listenEndpoint options flow (event :: new) now
  /-- The flow was touched. -/
  | touched {new : List UdpEvent} {now : UdpFlow} {later : Option UdpFlow}
      (before : Fate listenEndpoint options flow new (some now)) (cause : Cause listenEndpoint options now new later) :
      Fate listenEndpoint options flow new later

theorem Fate.append {new : List UdpEvent} {now : Option UdpFlow} (h : Fate listenEndpoint options flow new now) :
    ∀ more, Fate listenEndpoint options flow (more ++ new) now
  | [] => h
  | event :: more => (h.append more).passed event

theorem lastReceived_mem {source : Option UdpDescriptor} {receipt : UdpReceipt} {log : List UdpEvent}
    (h : lastReceived log = some (source, receipt)) : .received source receipt ∈ log := by
  induction log with
  | nil => cases h
  | cons event log ih =>
    by_cases hevent : event.Receives
    · cases event with
      | received source' receipt' =>
        obtain ⟨rfl, rfl⟩ := Prod.mk.inj (Option.some.inj h)
        exact List.mem_cons_self
      | _ => cases hevent
    · rw [lastReceived_cons hevent] at h
      exact List.mem_cons_of_mem _ (ih h)

theorem lastReceived_append {added : List UdpEvent} (h : ∀ event ∈ added, ¬ event.Receives)
    (source : Option UdpDescriptor) (receipt : UdpReceipt) (log : List UdpEvent) :
    lastReceived (added ++ .received source receipt :: log) = some (source, receipt) :=
  Later.received ⟨added, rfl, h⟩

theorem sinceReceived_append {added : List UdpEvent} (h : ∀ event ∈ added, ¬ event.Receives)
    {source : Option UdpDescriptor} {receipt : UdpReceipt} {log : List UdpEvent} :
    sinceReceived (added ++ .received source receipt :: log) = added := by
  induction added with
  | nil => rfl
  | cons event added ih =>
    rw [List.cons_append, sinceReceived_cons (h event List.mem_cons_self),
      ih fun event' hevent' => h event' (List.mem_cons_of_mem _ hevent')]

theorem Admitted.received {key : UdpFlowKey} {size : ℕ} {new : List UdpEvent}
    (h : Admitted listenEndpoint options key size new) :
    ∃ receipt, .received (some .listener) receipt ∈ new ∧ receipt.Admissible listenEndpoint options key := by
  obtain ⟨receipt, hlast, hadmissible, -⟩ := h
  exact ⟨receipt, lastReceived_mem hlast, hadmissible⟩

/-- A flow that no datagram was admitted for, and that was not found expired, is as it was. -/
theorem Fate.undisturbed {new : List UdpEvent} {now : Option UdpFlow} (h : Fate listenEndpoint options flow new now)
    (hnone : ∀ receipt, .received (some .listener) receipt ∈ new → ¬ receipt.Admissible listenEndpoint options flow.key)
    (hlive : ∀ time, time - flow.deadline.lastSubmissionTime ≥ options.idleTimeout →
      .checked flow.token flow.deadline.lastSubmissionTime time ∉ new ∧
        .swept flow.token flow.deadline.lastSubmissionTime time ∉ new) : now = some flow := by
  induction h with
  | kept => rfl
  | passed event before ih =>
    refine ih (fun receipt hmem => hnone receipt (List.mem_cons_of_mem _ hmem)) fun time hlate => ?_
    exact (hlive time hlate).imp (mt (List.mem_cons_of_mem _)) (mt (List.mem_cons_of_mem _))
  | touched before cause ih =>
    obtain rfl := Option.some.inj (ih hnone hlive)
    cases cause with
    | sent size time admitted whole =>
      obtain ⟨receipt, hmem, hadmissible⟩ := admitted.received
      exact absurd hadmissible (hnone receipt hmem)
    | refused size error admitted answered again closes =>
      obtain ⟨receipt, hmem, hadmissible⟩ := admitted.received
      exact absurd hadmissible (hnone receipt hmem)
    | expired time found late =>
      exact found.elim (fun hmem => absurd hmem (hlive time late).1) fun hmem => absurd hmem (hlive time late).2

/-- What may become of what is in the tables: of a token, what was there, what has happened since, and what is
there now. -/
abbrev Fates := ℕ → Option UdpFlow → List UdpEvent → Option UdpFlow → Prop

/-- What has become of a flow, it has become as more happens. -/
structure Fates.Lasting (F : Fates) : Prop where
  /-- At first nothing has. -/
  refl : ∀ token was, F token was [] was
  /-- More may happen. -/
  append : ∀ token was new now more, F token was new now → F token was (more ++ new) now

/-- What an event of the listener may do. -/
def Touched (listenEndpoint : Endpoint) (options : UdpReactorOptions) : Fates := fun _ was new now =>
  ∀ flow, was = some flow → Fate listenEndpoint options flow new now

/-- What an event of a flow may do. -/
def Only (token : ℕ) : Fates := fun t was _ now => t ≠ token → now = was

theorem touched_lasting (listenEndpoint : Endpoint) (options : UdpReactorOptions) :
    (Touched listenEndpoint options).Lasting :=
  ⟨fun _ _ _ hwas => hwas ▸ Fate.kept, fun _ _ _ _ more h flow hwas => (h flow hwas).append more⟩

theorem only_lasting (token : ℕ) : (Only token).Lasting := ⟨fun _ _ _ => rfl, fun _ _ _ _ _ h => h⟩

/-! ### What comes of the tables -/

/-- What comes of the tables: flows come and go, and one that stays is the one that was, but for its deadline, and
has the socket it had. -/
structure FlowTables.Sequel (before after : FlowTables) : Prop where
  /-- Tokens are only given out. -/
  next : before.nextFlowToken ≤ after.nextFlowToken
  /-- A flow that has come has a token that was not given out before. -/
  come : ∀ t, t ∈ after.flows → t ∈ before.flows ∨ before.nextFlowToken ≤ t
  /-- A flow that has stayed. -/
  stays : ∀ t was now, before.flows.lookup t = some was → after.flows.lookup t = some now →
    (∃ deadline, now = { was with deadline := deadline }) ∧
      after.descriptors.lookup was.fd = before.descriptors.lookup was.fd

namespace FlowTables

variable {tables before middle after : FlowTables}

theorem Sequel.refl (tables : FlowTables) : tables.Sequel tables :=
  ⟨le_refl _, fun _ => Or.inl, fun _ was _ hwas hnow => ⟨⟨was.deadline, Option.some.inj (hnow.symm.trans hwas)⟩, rfl⟩⟩

theorem Consistent.lt_next (h : tables.Consistent options none) {t : ℕ} (ht : t ∈ tables.flows) :
    t < tables.nextFlowToken := by
  obtain ⟨flow, hflow⟩ := Finmap.mem_iff.mp ht
  exact (h.token hflow).2.2

theorem Sequel.trans (hs : before.Consistent options none) (h : before.Sequel middle) (h' : middle.Sequel after) :
    before.Sequel after := by
  refine ⟨h.next.trans h'.next, fun t ht => ?_, fun t was now hwas hnow => ?_⟩
  · exact (h'.come t ht).elim (h.come t) fun hle => Or.inr (h.next.trans hle)
  · -- a token that was given out before is no new flow's
    have hlt := hs.lt_next (Finmap.mem_of_lookup_eq_some hwas)
    have hmem : t ∈ middle.flows := (h'.come t (Finmap.mem_of_lookup_eq_some hnow)).resolve_right
      (not_le.mpr (hlt.trans_le h.next))
    obtain ⟨then', hthen⟩ := Finmap.mem_iff.mp hmem
    obtain ⟨⟨deadline, rfl⟩, hsocket⟩ := h.stays t was then' hwas hthen
    obtain ⟨⟨deadline', rfl⟩, hsocket'⟩ := h'.stays t _ now hthen hnow
    exact ⟨⟨deadline', rfl⟩, hsocket'.trans hsocket⟩

theorem Consistent.sequel_close (h : tables.Consistent options none) (token : ℕ) : tables.Sequel (tables.close token) := by
  cases hlookup : tables.flows.lookup token with
  | none =>
    unfold FlowTables.close
    rw [hlookup]
    exact Sequel.refl tables
  | some flow =>
    refine ⟨?_, fun t ht => ?_, fun t was now hwas hnow => ?_⟩
    · rw [close_of_lookup hlookup]
    · obtain ⟨flow', hflow'⟩ := Finmap.mem_iff.mp ht
      exact Or.inl (Finmap.mem_of_lookup_eq_some (lookup_close hflow').2)
    · obtain ⟨hne, hflow'⟩ := lookup_close hnow
      rw [close_of_lookup hlookup]
      refine ⟨⟨was.deadline, Option.some.inj (hflow'.symm.trans hwas)⟩, Finmap.lookup_erase_ne fun hfd => ?_⟩
      exact hne (h.apart hwas hlookup hfd)

theorem Sequel.recordSubmission {time : Time} (hflow : tables.flows.lookup token = some flow) :
    tables.Sequel (tables.recordSubmission token time) := by
  rw [recordSubmission_of_lookup hflow]
  refine ⟨le_refl _, fun t ht => Or.inl ?_, fun t was now hwas hnow => ⟨?_, rfl⟩⟩
  · rcases Finmap.mem_insert.mp ht with rfl | ht
    · exact Finmap.mem_of_lookup_eq_some hflow
    · exact ht
  · by_cases hne : t = token
    · subst hne
      rw [Finmap.lookup_insert] at hnow
      obtain rfl := Option.some.inj (hflow.symm.trans hwas)
      exact ⟨_, (Option.some.inj hnow).symm⟩
    · rw [Finmap.lookup_insert_of_ne _ hne] at hnow
      exact ⟨was.deadline, Option.some.inj (hnow.symm.trans hwas)⟩

end FlowTables

theorem Unchanged.sequel (h : Unchanged s s') : s.tables.Sequel s'.tables := by
  refine ⟨h.next, fun t ht => Or.inl (by rwa [h.restored.flows] at ht), fun t was now hwas hnow => ⟨?_, ?_⟩⟩
  · rw [h.restored.flows] at hnow
    exact ⟨was.deadline, Option.some.inj (hnow.symm.trans hwas)⟩
  · rw [h.restored.descriptors]

theorem Established.sequel {key : UdpFlowKey} (h : Established options key s s' flow) (hs : Consistent options none s) :
    s.tables.Sequel s'.tables := by
  have hflow : s'.tables.flows.lookup flow.token = some flow := by rw [h.flows, Finmap.lookup_insert]
  have hstays : ∀ t, t ≠ flow.token → s'.tables.flows.lookup t = s.tables.flows.lookup t := fun t hne => by
    rw [h.flows, Finmap.lookup_insert_of_ne _ hne]
  refine ⟨h.unused.trans (h.consistent.tables.token hflow).2.2.le, fun t ht => ?_, fun t was now hwas hnow => ?_⟩
  · by_cases hne : t = flow.token
    · exact Or.inr (hne ▸ h.unused)
    · rw [h.flows] at ht
      exact Or.inl ((Finmap.mem_insert.mp ht).resolve_left hne)
  · have hne : t ≠ flow.token := by
      rintro rfl
      rw [h.fresh] at hwas
      cases hwas
    rw [hstays t hne, hwas] at hnow
    obtain ⟨serial, hsocket⟩ := hs.tables.socket hwas
    exact ⟨⟨was.deadline, (Option.some.inj hnow).symm⟩, h.others (Finmap.mem_of_lookup_eq_some hsocket)⟩

/-! ### What a method leaves -/

/-- The tables agree, and what has become of every flow is one of its fates. -/
structure Spares (options : UdpReactorOptions) (F : Fates) (s s' : UdpReactor) : Prop where
  /-- The tables agreed. -/
  start : Consistent options none s
  /-- The tables agree. -/
  consistent : Consistent options none s'
  /-- What comes of the tables. -/
  sequel : s.tables.Sequel s'.tables
  /-- What has become of the flows. -/
  fate : ∃ new, s'.log = new ++ s.log ∧ ∀ t, F t (s.tables.flows.lookup t) new (s'.tables.flows.lookup t)

/-- Something has happened since. -/
def Since (s : UdpReactor) (event : UdpEvent) (s' : UdpReactor) : Prop :=
  ∃ new, s'.log = new ++ s.log ∧ event ∈ new

/-- The tables are left alone, no flow has come, and no datagram was taken. -/
structure Quiet (s s' : UdpReactor) : Prop where
  /-- The tables. -/
  tables : s'.tables = s.tables
  /-- The listener. -/
  listenerFd : s'.listenerFd = s.listenerFd
  /-- No flow has come. -/
  inserted : NoneInserted s s'
  /-- No datagram was taken. -/
  later : Later s.log s'.log

/-- What does not depend on what leaves the tables alone. -/
def Steady (P : UdpReactor → Prop) : Prop := ∀ s s', Quiet s s' → P s → P s'

theorem Quiet.trans {s'' : UdpReactor} (h : Quiet s s') (h' : Quiet s' s'') : Quiet s s'' :=
  ⟨h'.tables.trans h.tables, h'.listenerFd.trans h.listenerFd, h.inserted.trans h'.inserted, h.later.trans h'.later⟩

theorem Quiet.record {event : UdpEvent} (h : ∀ flow socket, event ≠ .inserted flow socket) (h' : ¬ event.Receives) :
    Quiet s (s.record event) :=
  ⟨rfl, rfl, fun flow socket hmem => (List.mem_cons.mp hmem).resolve_left (h flow socket).symm, .cons event h' s.log⟩

theorem Quiet.of_eq (htables : s'.tables = s.tables) (hlistener : s'.listenerFd = s.listenerFd)
    (hlog : s'.log = s.log) : Quiet s s' :=
  ⟨htables, hlistener, fun _ _ hmem => hlog ▸ hmem, hlog ▸ .refl s.log⟩

/-- The tables still agree where they are left alone and no flow has come. -/
theorem Consistent.of_eq (h : Consistent options none s) (htables : s'.tables = s.tables)
    (hlistener : s'.listenerFd = s.listenerFd) (hnone : NoneInserted s s') : Consistent options none s' := by
  refine ⟨by rw [htables]; exact h.tables, by rw [htables, hlistener]; exact h.listener, fun hmem => ?_⟩
  rw [htables]
  exact h.inserted (hnone _ _ hmem)

theorem Since.later {event : UdpEvent} {s'' : UdpReactor} (h : Since s event s') (h' : ∃ more, s''.log = more ++ s'.log) :
    Since s event s'' := by
  obtain ⟨new, hnew, hmem⟩ := h
  obtain ⟨more, hmore⟩ := h'
  exact ⟨more ++ new, by rw [hmore, hnew, List.append_assoc], List.mem_append_right _ hmem⟩

theorem Later.grown {log log' : List UdpEvent} (h : Later log log') : ∃ more, log' = more ++ log :=
  h.imp fun _ h => h.1

theorem Since.mem {event : UdpEvent} (h : Since s₀ event s) {new : List UdpEvent} (hnew : s.log = new ++ s₀.log) :
    event ∈ new := by
  obtain ⟨new', hnew', hmem⟩ := h
  rw [hnew'] at hnew
  rwa [List.append_cancel_right hnew] at hmem

theorem Since.of_spares {F : Fates} {event : UdpEvent} (h : Since s event s') (hs : Spares options F s₀ s) :
    Since s₀ event s' := by
  obtain ⟨new, hnew, -⟩ := hs.fate
  obtain ⟨more, hmore, hmem⟩ := h
  exact ⟨more ++ new, by rw [hmore, hnew, List.append_assoc], List.mem_append_left _ hmem⟩

theorem Steady.and {P P' : UdpReactor → Prop} (h : Steady P) (h' : Steady P') : Steady fun s => P s ∧ P' s :=
  fun s s' hquiet hP => ⟨h s s' hquiet hP.1, h' s s' hquiet hP.2⟩

theorem Steady.lookup (token : ℕ) (flow : Option UdpFlow) :
    Steady fun s => s.tables.flows.lookup token = flow := by
  intro s s' hquiet h
  rw [hquiet.tables, h]

theorem Steady.later (log : List UdpEvent) : Steady fun s => Later log s.log := fun _ _ hquiet h => h.trans hquiet.later

section Spares

variable {F : Fates}

theorem Spares.refl (hF : F.Lasting) (h : Consistent options none s) : Spares options F s s :=
  ⟨h, h, .refl _, [], rfl, fun t => hF.refl t _⟩

/-- **What has become of the flows, and one step more**: what becomes of a flow next is still one of its fates. -/
theorem Spares.over (hF : F.Lasting) (h : Spares options F s₀ s) (hs' : Consistent options none s')
    (hsequel : s.tables.Sequel s'.tables) (hlog : ∃ more, s'.log = more ++ s.log)
    (hfate : ∀ t new, s.log = new ++ s₀.log → F t (s₀.tables.flows.lookup t) new (s.tables.flows.lookup t) →
      F t (s₀.tables.flows.lookup t) new (s'.tables.flows.lookup t)) : Spares options F s₀ s' := by
  obtain ⟨new, hnew, hnow⟩ := h.fate
  obtain ⟨more, hmore⟩ := hlog
  refine ⟨h.start, hs', h.sequel.trans h.start.tables hsequel, more ++ new, by rw [hmore, hnew, List.append_assoc],
    fun t => ?_⟩
  exact hF.append t _ new _ more (hfate t new hnew (hnow t))

/-- The tables are left alone, and no flow has come. -/
theorem Spares.of_eq (hF : F.Lasting) (h : Spares options F s₀ s) (htables : s'.tables = s.tables)
    (hlistener : s'.listenerFd = s.listenerFd) (hnone : NoneInserted s s') (hlog : ∃ more, s'.log = more ++ s.log) :
    Spares options F s₀ s' := by
  refine h.over hF (h.consistent.of_eq htables hlistener hnone) ?_ hlog fun t new _ hnow => ?_
  · rw [htables]
    exact .refl _
  · rwa [htables]

theorem Spares.steady (hF : F.Lasting) : Steady (Spares options F s₀) := fun _ _ hquiet h =>
  h.of_eq hF hquiet.tables hquiet.listenerFd hquiet.inserted hquiet.later.grown

/-- This may become of a flow. -/
structure Allowed (options : UdpReactorOptions) (F : Fates) (s₀ : UdpReactor) (token : ℕ) (now : Option UdpFlow)
    (s : UdpReactor) : Prop extends Spares options F s₀ s where
  /-- It is one of its fates. -/
  allowed : ∀ new, s.log = new ++ s₀.log → F token (s₀.tables.flows.lookup token) new now

theorem Allowed.steady (hF : F.Lasting) (now : Option UdpFlow) : Steady (Allowed options F s₀ token now) := by
  intro s s' hquiet h
  refine ⟨Spares.steady hF s s' hquiet h.toSpares, fun later hlater => ?_⟩
  obtain ⟨new, hnew, -⟩ := h.fate
  obtain ⟨more, hmore⟩ := hquiet.later.grown
  rw [hmore, hnew, ← List.append_assoc] at hlater
  rw [← List.append_cancel_right hlater]
  exact hF.append _ _ _ _ more (h.allowed new hnew)

/-- **One flow was touched**, and it became what it may become. -/
theorem Allowed.touch (hF : F.Lasting) (h : Allowed options F s₀ token (s'.tables.flows.lookup token) s)
    (hs' : Consistent options none s') (hsequel : s.tables.Sequel s'.tables) (hlog : ∃ more, s'.log = more ++ s.log)
    (hsame : ∀ t, t ≠ token → s'.tables.flows.lookup t = s.tables.flows.lookup t) : Spares options F s₀ s' := by
  refine h.toSpares.over hF hs' hsequel hlog fun t new hnew hnow => ?_
  by_cases hne : t = token
  · subst hne
    exact h.allowed new hnew
  · rwa [hsame t hne]

end Spares

/-- An event of a flow may do to it whatever it does. -/
theorem Spares.only (h : Spares options (Only token) s₀ s) (now : Option UdpFlow) :
    Allowed options (Only token) s₀ token now s :=
  ⟨h, fun _ _ hne => absurd rfl hne⟩

/-- What has a cause may become of a flow. -/
theorem Spares.allowed (h : Spares options (Touched listenEndpoint options) s₀ s) {now : Option UdpFlow}
    (hflow : s.tables.flows.lookup token = some flow)
    (hcause : ∀ new, s.log = new ++ s₀.log → Cause listenEndpoint options flow new now) :
    Allowed options (Touched listenEndpoint options) s₀ token now s := by
  refine ⟨h, fun new hnew was hwas => ?_⟩
  obtain ⟨new', hnew', hfate⟩ := h.fate
  rw [hnew'] at hnew
  obtain rfl := List.append_cancel_right hnew
  have hbefore := hfate token was hwas
  rw [hflow] at hbefore
  exact hbefore.touched (hcause new' hnew')

/-- A flow that was found expired may be closed. -/
theorem Spares.expired (h : Spares options (Touched listenEndpoint options) s₀ s) (time : Time)
    (hflow : s.tables.flows.lookup token = some flow)
    (hsince : Since s₀ (.checked token flow.deadline.lastSubmissionTime time) s ∨
      Since s₀ (.swept token flow.deadline.lastSubmissionTime time) s)
    (hexpired : flow.deadline.expired time options.idleTimeout = true) :
    Allowed options (Touched listenEndpoint options) s₀ token none s := by
  obtain rfl := (h.consistent.tables.token hflow).1
  refine h.allowed hflow fun new hnew => .expired time (hsince.imp (·.mem hnew) (·.mem hnew)) ?_
  simpa [UdpIdleDeadline.expired] using hexpired

/-! ### Reports -/

/-- Every run of a program leaves this, whether it throws or not. -/
abbrev Sparing {α : Type} (P : UdpReactor → Prop) (m : UdpM α) (s : UdpReactor) (Q : α → UdpReactor → Prop) : Prop :=
  Runs (fun _ _ => True) (fun _ => P) m s Q

section Reports

variable {P : UdpReactor → Prop}

theorem sparing_notify (hP : Steady P) (h : P s) {event : UdpEvent} (hevent : ∀ flow socket, event ≠ .inserted flow socket)
    (hreceives : ¬ event.Receives) : Sparing P (notify event) s fun _ => P := by
  have h := hP s _ (Quiet.record hevent hreceives) h
  unfold notify
  refine Runs.modify_bind (.single trivial) (Runs.call_bind fun answer => ?_)
  cases answer with
  | none => exact Runs.pure h
  | some exception =>
    exact Runs.modify_bind (.single trivial) (Runs.raise (hP _ _ (Quiet.record (fun _ _ => nofun) not_false) h))

theorem sparing_reportStatEvent (hP : Steady P) (h : P s) (kind : StatKind) (amount : ℕ) :
    Sparing P (reportStatEvent kind amount) s fun _ => P := sparing_notify hP h (fun _ _ => nofun) not_false

theorem sparing_reportObservation (hP : Steady P) (h : P s) (kind : String) (token : ℕ) (fd : ℤ) :
    Sparing P (reportObservation kind token fd) s fun _ => P :=
  Runs.gets_bind (sparing_notify hP h (fun _ _ => nofun) not_false)

theorem sparing_currentTime (hP : Steady P) (h : P s) :
    Sparing P currentTime s fun _ s' => P s' ∧ s'.log = s.log := by
  refine Runs.call_bind fun elapsed => Runs.modify_bind (.single trivial) (Runs.gets ⟨?_, rfl⟩)
  exact hP s _ (Quiet.of_eq rfl rfl rfl) h

theorem sparing_reportDiagnostic (hP : Steady P) (h : P s) (kind : String) (error : Errno) :
    Sparing P (reportDiagnostic kind error) s fun _ => P := by
  unfold reportDiagnostic
  refine Runs.bind (sparing_reportObservation hP h _ _ _) fun _ s₁ _ h₁ => ?_
  refine Runs.bind (sparing_currentTime hP h₁) fun time s₂ _ ⟨h₂, _⟩ => ?_
  refine Runs.gets_bind (Runs.ite (fun _ => Runs.pure h₂) fun _ => Runs.modify_bind (.single trivial) ?_)
  have h₃ : P { s₂ with lastDiagnosticTimes := Function.update s₂.lastDiagnosticTimes kind (some time) } :=
    hP s₂ _ (Quiet.of_eq rfl rfl rfl) h₂
  exact sparing_notify hP h₃ (fun _ _ => nofun) not_false

/-- A check of a flow is on record. -/
theorem sparing_isExpired (hP : Steady P) (h : P s) (token : ℕ) (flow : UdpFlow) :
    Sparing P (isExpired options token flow) s fun expired s' => P s' ∧ ∃ time,
      Since s (.checked token flow.deadline.lastSubmissionTime time) s' ∧
        expired = flow.deadline.expired time options.idleTimeout := by
  unfold isExpired
  refine Runs.bind (sparing_currentTime hP h) fun time s₁ _ ⟨h₁, hlog⟩ => ?_
  refine Runs.modify_bind (.single trivial)
    (Runs.pure ⟨hP s₁ _ (Quiet.record (fun _ _ => nofun) not_false) h₁, time, ?_, rfl⟩)
  exact ⟨[_], congrArg (_ :: ·) hlog, List.mem_cons_self⟩

/-- What is thrown away of a datagram touches nothing. -/
theorem sparing_drop {α : Type} {kind : String} {a : α} {Q : α → UdpReactor → Prop} (hP : Steady P)
    (h : P s) (hQ : ∀ s', P s' → Q a s') :
    Sparing P (do reportStatEvent .dropped; reportDiagnostic kind; pure a : UdpM α) s Q :=
  Runs.bind (sparing_reportStatEvent hP h _ _) fun _ _ _ h₁ => Runs.bind (sparing_reportDiagnostic hP h₁ _ _)
    fun _ s₂ _ h₂ => Runs.pure (hQ s₂ h₂)

end Reports

/-! ### Closing -/

section Closing

variable {F : Fates}

theorem Sparing.weaken {α : Type} {P P' : UdpReactor → Prop} {m : UdpM α} {Q : α → UdpReactor → Prop}
    (h : Sparing P m s Q) (hP : ∀ s, P s → P' s) : Sparing P' m s Q :=
  h.mono (fun _ s' _ => hP s') fun _ _ _ h' => h'

/-- What is known of the runs from elsewhere. -/
theorem Sparing.known {α : Type} {P : UdpReactor → Prop} {step : UdpReactor → UdpReactor → Prop}
    {E : UdpError → UdpReactor → Prop} {m : UdpM α} {Q : α → UdpReactor → Prop} (h : Runs step E m s Q)
    (hP : ∀ e s', E e s' → P s') : Sparing P m s Q :=
  (h.coarsen fun _ _ _ => trivial).mono (fun e s' _ => hP e s') fun _ _ _ h' => h'

theorem Closed.spares (hF : F.Lasting) (h : Allowed options F s₀ token none s) (hclosed : Closed token s s') :
    Spares options F s₀ s' := by
  have hnone : (s.tables.close token).flows.lookup token = none := by
    rw [Option.eq_none_iff_forall_ne_some]
    exact fun flow hflow => (FlowTables.lookup_close hflow).1 rfl
  rw [← hnone, ← hclosed.tables] at h
  refine h.touch hF (hclosed.consistent h.consistent) ?_ hclosed.later.grown fun t hne => ?_
  · rw [hclosed.tables]
    exact h.consistent.tables.sequel_close token
  · rw [hclosed.tables, FlowTables.lookup_close_of_ne hne]

theorem Allowed.closeFlow (hF : F.Lasting) (h : Allowed options F s₀ token none s) (reason : String) (error : Errno) :
    Sparing (Spares options F s₀) (closeFlow token reason error) s
      fun _ s' => Spares options F s₀ s' ∧ Closed token s s' := by
  have hruns : Runs (UdpStep {}) (fun _ => Closed token s) (Net.closeFlow token reason error) s fun _ => Closed token s :=
    runs_closeFlow h.consistent
  exact (Sparing.known (P := Closed token s) hruns fun _ _ h' => h').mono (fun _ _ _ h' => h'.spares hF h)
    fun _ _ _ h' => ⟨h'.spares hF h, h'⟩

/-- A flow that may be closed is closed for a timeout, and then what comes next is done. -/
theorem Allowed.expire {α : Type} {k : Unit → UdpM α} {Q : α → UdpReactor → Prop} (hF : F.Lasting)
    (h : Allowed options F s₀ token none s) (hk : ∀ s', Spares options F s₀ s' → Sparing (Spares options F s₀) (k ()) s' Q) :
    Sparing (Spares options F s₀) (reportStatEvent .timeout >>= fun _ => Net.closeFlow token "idle-timeout" >>= k) s Q := by
  refine Runs.bind (Sparing.weaken (sparing_reportStatEvent (Allowed.steady hF none) h _ _) fun _ h' => h'.toSpares) ?_
  exact fun _ s₁ _ h₁ => Runs.bind (h₁.closeFlow hF _ _) fun _ s₂ _ h₂ => hk s₂ h₂.1

/-- An error closes a flow at most, and none when it is the listener's. -/
theorem sparing_handleSocketError (hF : F.Lasting) {code : Errno} {listener : Bool} {kind : String}
    (h : Spares options F s₀ s)
    (hclose : listener = false → ClosesFlow code → Allowed options F s₀ token none s) :
    Sparing (Spares options F s₀) (handleSocketError code listener token kind) s fun _ => Spares options F s₀ := by
  have hreport : ∀ {P : UdpReactor → Prop}, Steady P → P s →
      Sparing P (when (code ≠ .EAGAIN ∧ code ≠ .EWOULDBLOCK ∧ code ≠ .EINTR) (reportStatEvent .error)) s fun _ => P :=
    fun hP h => Runs.when (fun _ => sparing_reportStatEvent hP h _ _) fun _ => h
  have hgoOn : Sparing (Spares options F s₀) (do
      when (code ≠ .EAGAIN ∧ code ≠ .EWOULDBLOCK ∧ code ≠ .EINTR) (reportStatEvent .error)
      reportDiagnostic kind code
      pure true : UdpM Bool) s fun _ => Spares options F s₀ :=
    Runs.bind (hreport (Spares.steady hF) h) fun _ _ _ h₁ =>
      Runs.bind (sparing_reportDiagnostic (Spares.steady hF) h₁ _ _) fun _ _ _ h₂ => Runs.pure h₂
  unfold handleSocketError
  refine Runs.ite (fun _ => Runs.raise h) fun hfatal => Runs.ite (fun _ => ?_) fun hown =>
    Runs.ite (fun _ => hgoOn) fun hpressure => ?_
  · exact Runs.ite (fun _ => Runs.raise h) fun _ => hgoOn
  · rw [not_or, not_or] at hfatal
    have hallowed := hclose (by simpa using hown) ⟨hfatal.1, hfatal.2.1, hfatal.2.2, by simpa using hpressure⟩
    refine Runs.bind (Sparing.weaken (hreport (Allowed.steady hF none) hallowed) fun _ h' => h'.toSpares) fun _ s₁ _ h₁ => ?_
    exact Runs.bind (h₁.closeFlow hF _ _) fun _ _ _ h₂ => Runs.pure h₂.1

/-! ### Sending -/

theorem Consistent.refresh (h : Consistent options none s) {time : Time}
    (hflow : s.tables.flows.lookup token = some flow) : Consistent options none (s.refresh token time) := by
  have hnext : (s.tables.recordSubmission token time).nextFlowToken = s.tables.nextFlowToken := by
    rw [FlowTables.recordSubmission_of_lookup hflow]
  have hdescriptors : (s.tables.recordSubmission token time).descriptors = s.tables.descriptors := by
    rw [FlowTables.recordSubmission_of_lookup hflow]
  refine ⟨h.tables.recordSubmission hflow, ?_, fun hmem => ?_⟩
  · change (s.tables.recordSubmission token time).descriptors.lookup s.listenerFd = _
    rw [hdescriptors, h.listener]
  · change _ < (s.tables.recordSubmission token time).nextFlowToken
    rw [hnext]
    exact h.inserted ((List.mem_cons.mp hmem).resolve_left nofun)

/-- The flow with this submission recorded. -/
def UdpFlow.submitted (flow : UdpFlow) (time : Time) : UdpFlow :=
  { flow with deadline := flow.deadline.recordSubmission time }

/-- A flow that is there, whose deadline may be moved if the datagram is sent on whole, and that may be closed if
its own socket refuses it. -/
structure Sendable (options : UdpReactorOptions) (F : Fates) (s₀ : UdpReactor) (flow : UdpFlow) (size : ℕ) (reply : Bool)
    (s : UdpReactor) : Prop extends Spares options F s₀ s where
  /-- It is there. -/
  there : s.tables.flows.lookup flow.token = some flow
  /-- The datagram was sent on whole. -/
  sent : ∀ s', Quiet s s' → Since s (.answered flow.token size (.ok size)) s' → ∀ time,
    Allowed options F s₀ flow.token (some (flow.submitted time)) s'
  /-- It was refused. -/
  refused : ∀ error s', Quiet s s' → Since s (.answered flow.token size (.error error)) s' → error ≠ .EINTR →
    reply = false → ClosesFlow error → Allowed options F s₀ flow.token none s'

theorem Since.before {event : UdpEvent} {s'' : UdpReactor} (h : Since s' event s'') (h' : ∃ more, s'.log = more ++ s.log) :
    Since s event s'' := by
  obtain ⟨new, hnew, hmem⟩ := h
  obtain ⟨more, hmore⟩ := h'
  exact ⟨new ++ more, by rw [hnew, hmore, List.append_assoc], List.mem_append_left _ hmem⟩

theorem Sendable.steady (hF : F.Lasting) {size : ℕ} {reply : Bool} : Steady (Sendable options F s₀ flow size reply) := by
  intro s s' hquiet h
  have hgrown := hquiet.later.grown
  refine ⟨Spares.steady hF s s' hquiet h.toSpares, by rw [hquiet.tables, h.there], fun s'' hquiet' hsince => ?_,
    fun error s'' hquiet' hsince => ?_⟩
  · exact h.sent s'' (hquiet.trans hquiet') (hsince.before hgrown)
  · exact h.refused error s'' (hquiet.trans hquiet') (hsince.before hgrown)

theorem sparing_sendAttempt (hF : F.Lasting) {fd size : ℕ} {reply : Bool} (h : Sendable options F s₀ flow size reply s) :
    Sparing (Spares options F s₀) (sendAttempt flow fd size reply) s
      (Runs.Pass (Sendable options F s₀ flow size reply) fun _ => Spares options F s₀) := by
  have hsteady : Steady (Spares options F s₀) := Spares.steady hF
  unfold sendAttempt
  refine Runs.gets_bind ?_
  set message := flowMessage flow (s.receiveBuffer.take size) reply
  set s₁ := s.record (.handed (s.tables.descriptors.lookup fd) message) with hs₁
  have hquiet₁ : Quiet s s₁ := Quiet.record (fun _ _ => nofun) not_false
  refine Runs.modify_bind (.single trivial) (Runs.call_bind fun answer => Runs.modify_bind (.single trivial) ?_)
  set s₂ := s₁.record (.answered flow.token size answer) with hs₂
  have hquiet₂ : Quiet s s₂ := hquiet₁.trans (Quiet.record (fun _ _ => nofun) not_false)
  have hsince : Since s (.answered flow.token size answer) s₂ := ⟨[_, _], rfl, List.mem_cons_self⟩
  have h₂ : Sendable options F s₀ flow size reply s₂ := Sendable.steady hF s s₂ hquiet₂ h
  cases answer with
  | ok sentBytes =>
    refine Runs.ite (fun hsize => ?_) fun _ => ?_
    · subst hsize
      -- the deadline may be moved whatever is reported meanwhile
      let Sent : UdpReactor → Prop := fun s' =>
        (∀ time, Allowed options F s₀ flow.token (some (flow.submitted time)) s') ∧
          s'.tables.flows.lookup flow.token = some flow
      have hsent : Steady Sent := fun s₁ s₂ hquiet h' =>
        ⟨fun time => Allowed.steady hF _ s₁ s₂ hquiet (h'.1 time), Steady.lookup _ _ s₁ s₂ hquiet h'.2⟩
      have hspares : ∀ s', Sent s' → Spares options F s₀ s' := fun s' h' => (h'.1 0).toSpares
      have h₂ : Sent s₂ := ⟨h.sent s₂ hquiet₂ hsince, h₂.there⟩
      refine Runs.bind (Sparing.weaken (sparing_reportStatEvent hsent h₂ _ _) hspares) fun _ s₃ _ h₃ => ?_
      refine Runs.bind (Sparing.weaken (sparing_reportStatEvent hsent h₃ _ _) hspares) fun _ s₄ _ h₄ => ?_
      refine Runs.bind (Sparing.weaken (sparing_currentTime hsent h₄) hspares) fun time s₅ _ ⟨h₅, _⟩ => ?_
      refine Runs.modify_bind (.single trivial) ?_
      have htables : (s₅.refresh flow.token time).tables = s₅.tables.recordSubmission flow.token time := rfl
      have hmoved := h₅.1 time
      rw [← show (s₅.refresh flow.token time).tables.flows.lookup flow.token = some (flow.submitted time) by
        rw [htables, FlowTables.recordSubmission_of_lookup h₅.2, Finmap.lookup_insert]; rfl] at hmoved
      have h₆ : Spares options F s₀ (s₅.refresh flow.token time) := by
        refine hmoved.touch hF (hmoved.consistent.refresh h₅.2) (.recordSubmission h₅.2) ⟨[_], rfl⟩ fun t hne => ?_
        rw [htables, FlowTables.recordSubmission_of_lookup h₅.2, Finmap.lookup_insert_of_ne _ hne]
      exact Runs.bind (sparing_reportObservation hsteady h₆ _ _ _) fun _ _ _ h₇ => Runs.pure h₇
    · refine Runs.bind (sparing_reportStatEvent hsteady h₂.toSpares _ _) fun _ s₃ _ h₃ => ?_
      refine Runs.bind (sparing_reportStatEvent hsteady h₃ _ _) fun _ s₄ _ h₄ => ?_
      exact Runs.bind (sparing_reportDiagnostic hsteady h₄ _ _) fun _ _ _ h₅ => Runs.pure h₅
  | error error =>
    refine Runs.ite (fun _ => Runs.pure h₂) fun hagain => ?_
    have hdropped : Steady fun s' => Spares options F s₀ s' ∧
        (reply = false → ClosesFlow error → Allowed options F s₀ flow.token none s') := fun s₁ s₂ hquiet h' =>
      ⟨hsteady s₁ s₂ hquiet h'.1, fun hreply hcloses => Allowed.steady hF _ s₁ s₂ hquiet (h'.2 hreply hcloses)⟩
    refine Runs.bind (Sparing.weaken (sparing_reportStatEvent hdropped ⟨h₂.toSpares, ?_⟩ _ _) fun _ h' => h'.1)
      fun _ s₃ _ h₃ => ?_
    · exact h.refused error s₂ hquiet₂ hsince hagain
    · exact Runs.bind (sparing_handleSocketError hF h₃.1 h₃.2) fun _ _ _ h₄ => Runs.pure h₄

theorem sparing_sendFlowDatagram (hF : F.Lasting) {size : ℕ} {reply : Bool} (h : Sendable options F s₀ flow size reply s) :
    Sparing (Spares options F s₀) (sendFlowDatagram flow size reply) s fun _ => Spares options F s₀ := by
  unfold sendFlowDatagram
  refine Runs.gets_bind ?_
  refine Runs.bind (Runs.attempts (Q := fun _ => Spares options F s₀) (Sendable options F s₀ flow size reply)
    (fun _ => sparing_sendAttempt hF) 4 h) fun r s₁ _ h₁ => ?_
  cases r with
  | some _ => exact Runs.pure h₁
  | none =>
    have h₁ : Spares options F s₀ s₁ := h₁.toSpares
    refine Runs.bind (sparing_reportStatEvent (Spares.steady hF) h₁ _ _) fun _ s₂ _ h₂ => ?_
    exact sparing_reportDiagnostic (Spares.steady hF) h₂ _ _

/-- A datagram is taken, which is then on record, and nothing else has happened. -/
theorem sparing_receiveDatagram {P : UdpReactor → Prop} (fd : ℕ) :
    Sparing P (receiveDatagram options fd) s fun r s' => match r with
      | .error _ => s' = s
      | .ok receipt => s'.tables = s.tables ∧ s'.listenerFd = s.listenerFd ∧
          s'.log = .received (s.tables.descriptors.lookup fd) receipt :: s.log := by
  unfold receiveDatagram
  refine Runs.call_bind fun answer => ?_
  cases answer with
  | error error => exact Runs.pure rfl
  | ok receipt => exact Runs.modify_bind (.single trivial) (Runs.pure ⟨rfl, rfl, rfl⟩)

/-- A datagram taken touches nothing. -/
theorem Spares.received (hF : F.Lasting) (h : Spares options F s₀ s) {source : Option UdpDescriptor} {receipt : UdpReceipt}
    (htables : s'.tables = s.tables) (hlistener : s'.listenerFd = s.listenerFd)
    (hlog : s'.log = .received source receipt :: s.log) : Spares options F s₀ s' := by
  refine h.of_eq hF htables hlistener (fun _ _ hmem => ?_) ⟨[_], hlog⟩
  rw [hlog] at hmem
  exact (List.mem_cons.mp hmem).resolve_left nofun

end Closing

/-! ### An event of a flow -/

theorem sparing_backendReadAttempt (h : Spares options (Only token) s₀ s) :
    Sparing (Spares options (Only token) s₀) (backendReadAttempt options token) s
      fun _ => Spares options (Only token) s₀ := by
  have hF := only_lasting token
  unfold backendReadAttempt
  refine Runs.gets_bind ?_
  cases hflow : s.tables.flows.lookup token with
  | none => exact Runs.pure h
  | some flow =>
  obtain rfl := (h.consistent.tables.token hflow).1
  have hsteady : Steady fun s' => Spares options (Only flow.token) s₀ s' ∧
      s'.tables.flows.lookup flow.token = some flow := (Spares.steady hF).and (Steady.lookup flow.token (some flow))
  refine Runs.bind (Sparing.weaken (sparing_isExpired hsteady ⟨h, hflow⟩ flow.token flow) fun _ h' => h'.1)
    fun expired s₁ _ ⟨⟨h₁, hflow₁⟩, _⟩ => ?_
  refine Runs.ite (fun _ => (h₁.only none).expire hF fun _ h₂ => Runs.pure h₂) fun _ => ?_
  refine Runs.bind (sparing_receiveDatagram _) fun r s₂ _ htaken => ?_
  cases r with
  | error error =>
    subst htaken
    refine Runs.ite (fun _ => Runs.pure h₁) fun _ => Runs.ite (fun _ => Runs.pure h₁) fun _ => ?_
    exact Runs.bind (sparing_handleSocketError hF h₁ fun _ _ => h₁.only none) fun _ _ _ h₃ => Runs.pure h₃
  | ok receipt =>
    obtain ⟨htables, hlistener, hlog⟩ := htaken
    have h₂ := h₁.received hF htables hlistener hlog
    refine Runs.ite (fun _ => sparing_drop (Spares.steady hF) h₂ fun _ h₃ => h₃) fun _ => ?_
    have hsend : Sendable options (Only flow.token) s₀ flow (receipt.receivedBytes options.receiveSize) true s₂ := by
      refine ⟨h₂, by rw [htables, hflow₁], fun s' hquiet _ time => ?_, fun _ _ _ _ _ hreply => absurd hreply (by decide)⟩
      exact (Spares.steady hF _ _ hquiet h₂).only _
    exact Runs.bind (sparing_sendFlowDatagram hF hsend) fun _ _ _ h₃ => Runs.pure h₃

theorem sparing_handleBackendRead (h : Spares options (Only token) s₀ s) :
    Sparing (Spares options (Only token) s₀) (handleBackendRead options token) s
      fun _ => Spares options (Only token) s₀ := by
  unfold handleBackendRead
  refine Runs.bind (Runs.attempts (Q := fun _ => Spares options (Only token) s₀) (Spares options (Only token) s₀)
    (fun s' h' => (sparing_backendReadAttempt h').post fun r _ _ h'' => ?_) 64 h) fun r s₁ _ h₁ => ?_
  · cases r <;> exact h''
  · cases r with
    | some _ => exact Runs.pure h₁
    | none => exact sparing_reportObservation (Spares.steady (only_lasting token)) h₁ _ _ _

/-! ### An event of the listener -/

/-- What an event of the listener leaves. -/
abbrev Served (listenEndpoint : Endpoint) (options : UdpReactorOptions) (s s' : UdpReactor) : Prop :=
  Spares options (Touched listenEndpoint options) s s'

theorem sparing_expireIdleFlows (h : Served listenEndpoint options s₀ s) :
    Sparing (Served listenEndpoint options s₀) (expireIdleFlows options) s fun _ => Served listenEndpoint options s₀ := by
  have hF := touched_lasting listenEndpoint options
  unfold expireIdleFlows
  refine Runs.bind (sparing_currentTime (Spares.steady hF) h) fun time s₁ _ ⟨h₁, _⟩ => ?_
  refine Runs.call_bind fun rank => Runs.gets_bind ?_
  refine Runs.forEach (Served listenEndpoint options s₀) _ (fun token _ s₂ h₂ => Runs.gets_bind ?_) h₁
  cases hflow : s₂.tables.flows.lookup token with
  | none => exact Runs.pure h₂
  | some flow =>
    set s₃ := s₂.record (.swept token flow.deadline.lastSubmissionTime time) with hs₃
    have h₃ : Served listenEndpoint options s₀ s₃ :=
      Spares.steady hF s₂ s₃ (Quiet.record (fun _ _ => nofun) not_false) h₂
    refine Runs.modify_bind (.single trivial) (Runs.ite (fun hexpired => ?_) fun _ => Runs.pure h₃)
    have hsince : Since s₂ (.swept token flow.deadline.lastSubmissionTime time) s₃ := ⟨[_], rfl, List.mem_cons_self⟩
    have hallowed := h₃.expired time hflow (Or.inr (hsince.of_spares h₂)) hexpired
    exact hallowed.expire hF fun _ h₄ => Runs.pure h₄

theorem sparing_createFlow {key : UdpFlowKey} (h : Served listenEndpoint options s₀ s)
    (hkey : s.tables.flowTokensByKey.lookup key = none) :
    Sparing (Served listenEndpoint options s₀) (createFlow options key) s fun token s' =>
      Served listenEndpoint options s₀ s' ∧ (token ≠ 0 → Found key token s') := by
  have hF := touched_lasting listenEndpoint options
  have hsteady : Steady (Served listenEndpoint options s₀) := Spares.steady hF
  have hnote : ∀ (before : FlowTables) {s₁ : UdpReactor}, Served listenEndpoint options s₀ s₁ →
      Sparing (Served listenEndpoint options s₀) (recordAbandoned key before) s₁ fun _ => Served listenEndpoint options s₀ :=
    fun before s₁ h₁ => Runs.modify (.single trivial)
      (hsteady s₁ _ (Quiet.record (fun _ _ => nofun) not_false) h₁)
  have hsweep : Runs (UdpStep {}) (fun _ => Swept options s) (expireIdleFlows options) s fun _ => Swept options s :=
    runs_expireIdleFlows h.consistent
  unfold createFlow
  refine Runs.bind ((Runs.both (sparing_expireIdleFlows h) hsweep).mono (fun _ _ _ h' => h'.1) fun _ _ _ h' => h')
    fun _ s₁ _ ⟨h₁, hswept⟩ => Runs.gets_bind ?_
  have hestablish : Runs (UdpStep {}) (fun _ => Unchanged s₁) (establishFlow options key) s₁ fun r s' =>
      (r = none → Unchanged s₁ s') ∧ ∀ flow, r = some flow → Established options key s₁ s' flow :=
    runs_establishFlow h₁.consistent (hswept.unmapped h.consistent hkey)
  have hunchanged : ∀ {s' : UdpReactor}, Unchanged s₁ s' → Served listenEndpoint options s₀ s' := fun h' =>
    h₁.over hF (h'.consistent h₁.consistent) h'.sequel h'.later.grown fun t new _ hnow => by rwa [h'.restored.flows]
  refine Runs.bind (Runs.handle (Sparing.known (P := Unchanged s₁) hestablish fun _ _ h' => h') fun e s₂ _ h₂ => ?_)
    fun established s₂ _ h₂ => ?_
  · exact Runs.bind (hnote _ (hunchanged h₂)) fun _ _ _ h₃ => Runs.raise h₃
  cases established with
  | none => exact Runs.bind (hnote _ (hunchanged (h₂.1 rfl))) fun _ _ _ h₃ => Runs.pure ⟨h₃, fun hne => absurd rfl hne⟩
  | some flow =>
    have he := h₂.2 flow rfl
    have hserved : Served listenEndpoint options s₀ s₂ := by
      refine h₁.over hF he.consistent (he.sequel h₁.consistent) he.later.grown fun t new hnew hnow was hwas => ?_
      have hne : t ≠ flow.token := by
        -- a token that was given out before is no new flow's
        have hlt := h₁.start.tables.lt_next (Finmap.mem_of_lookup_eq_some hwas)
        have hle := h₁.sequel.next.trans he.unused
        omega
      rw [he.flows, Finmap.lookup_insert_of_ne _ hne]
      exact hnow was hwas
    have hfound : s₂.tables.flows.lookup flow.token = some flow := by rw [he.flows, Finmap.lookup_insert]
    have hboth : Steady fun s' => Served listenEndpoint options s₀ s' ∧ s'.tables.flows.lookup flow.token = some flow :=
      hsteady.and (Steady.lookup flow.token (some flow))
    refine Sparing.weaken (P := fun s' => Served listenEndpoint options s₀ s' ∧
        s'.tables.flows.lookup flow.token = some flow)
      ?_ fun _ h' => h'.1
    refine Runs.bind (sparing_reportStatEvent hboth ⟨hserved, hfound⟩ _ _) fun _ s₃ _ h₃ => ?_
    refine Runs.bind (sparing_reportObservation hboth h₃ _ _ _) fun _ s₄ _ h₄ => ?_
    refine Runs.bind (sparing_notify hboth h₄ (fun _ _ => nofun) not_false) fun _ s₅ _ h₅ =>
      Runs.pure ⟨h₅.1, fun _ => ?_⟩
    exact ⟨flow, h₅.2, he.key⟩

/-- What the event leaves, and the datagram taken last is still the last. -/
def Serving (listenEndpoint : Endpoint) (options : UdpReactorOptions) (s₀ s s' : UdpReactor) : Prop :=
  Served listenEndpoint options s₀ s' ∧ Later s.log s'.log

theorem Serving.steady : Steady (Serving listenEndpoint options s₀ s) :=
  (Spares.steady (touched_lasting listenEndpoint options)).and (Steady.later s.log)

theorem sparing_createFlowForDatagram {key : UdpFlowKey} {base : UdpReactor} (h : Serving listenEndpoint options s₀ base s)
    (hkey : s.tables.flowTokensByKey.lookup key = none) :
    Sparing (Serving listenEndpoint options s₀ base) (createFlowForDatagram options key) s fun token s' =>
      Serving listenEndpoint options s₀ base s' ∧ (token ≠ 0 → Found key token s') := by
  have hcreate : Runs (UdpStep {}) (fun _ => Kept options s) (createFlow options key) s fun token s' =>
      Kept options s s' ∧ (token ≠ 0 → Found key token s') := runs_createFlow h.1.consistent hkey
  have hboth : Sparing (Serving listenEndpoint options s₀ base) (createFlow options key) s fun token s' =>
      Serving listenEndpoint options s₀ base s' ∧ (token ≠ 0 → Found key token s') :=
    (Runs.both (sparing_createFlow h.1 hkey) hcreate).mono (fun _ _ _ h' => ⟨h'.1, h.2.trans h'.2.later⟩)
      fun _ _ _ h' => ⟨⟨h'.1.1, h.2.trans h'.2.1.later⟩, h'.1.2⟩
  exact Runs.handle hboth fun _ _ _ h₁ => Runs.bind (sparing_reportStatEvent Serving.steady h₁ _ _)
    fun _ _ _ h₂ => Runs.raise h₂

theorem sparing_resolveFlowTokenForDatagram (key : UdpFlowKey) (h : Served listenEndpoint options s₀ s) :
    Sparing (Serving listenEndpoint options s₀ s) (resolveFlowTokenForDatagram options key) s fun token s' =>
      Serving listenEndpoint options s₀ s s' ∧ (token ≠ 0 → Found key token s') := by
  have hF := touched_lasting listenEndpoint options
  have h : Serving listenEndpoint options s₀ s s := ⟨h, .refl s.log⟩
  unfold resolveFlowTokenForDatagram
  refine Runs.gets_bind ?_
  cases hmapped : s.tables.flowTokensByKey.lookup key with
  | none => exact sparing_createFlowForDatagram h hmapped
  | some token =>
    obtain ⟨flow, hflow, hkey⟩ := (h.1.consistent.tables.index key token).mp hmapped
    refine Runs.gets_bind ?_
    rw [hflow]
    have hsteady : Steady fun s' => Serving listenEndpoint options s₀ s s' ∧ s'.tables.flows.lookup token = some flow :=
      Serving.steady.and (Steady.lookup token (some flow))
    refine Runs.bind (Sparing.weaken (sparing_isExpired hsteady ⟨h, hflow⟩ token flow) fun _ h' => h'.1) ?_
    rintro _ s₁ - ⟨⟨h₁, hflow₁⟩, time, hsince, rfl⟩
    refine Runs.ite (fun hexpired => ?_) fun _ => Runs.pure ⟨h₁, fun _ => ⟨flow, hflow₁, hkey⟩⟩
    have hallowed := h₁.1.expired time hflow₁ (Or.inl (hsince.of_spares h.1)) hexpired
    have hopen : Steady fun s' => (Allowed options (Touched listenEndpoint options) s₀ token none s' ∧ Later s.log s'.log) ∧
        s'.tables.flows.lookup token = some flow :=
      ((Allowed.steady hF none).and (Steady.later s.log)).and (Steady.lookup token (some flow))
    refine Runs.bind (Sparing.weaken (sparing_reportStatEvent hopen ⟨⟨hallowed, h₁.2⟩, hflow₁⟩ _ _)
      fun _ h' => ⟨h'.1.1.toSpares, h'.1.2⟩) fun _ s₂ _ ⟨⟨h₂, hlater⟩, hflow₂⟩ => ?_
    have hclose : Runs (UdpStep {}) (fun _ => Closed token s₂) (closeFlow token "idle-timeout") s₂
      fun _ => Closed token s₂ :=
      runs_closeFlow h₂.consistent
    refine Runs.bind ((Sparing.known (P := Closed token s₂) hclose fun _ _ h' => h').mono
      (fun _ _ _ h' => ⟨h'.spares hF h₂, hlater.trans h'.later⟩) fun _ _ _ h' => h') fun _ s₃ _ hclosed => ?_
    refine sparing_createFlowForDatagram ⟨hclosed.spares hF h₂, hlater.trans hclosed.later⟩ ?_
    rw [hclosed.tables, FlowTables.close_of_lookup hflow₂, hkey]
    exact Finmap.lookup_erase _ _

/-- The flow of the datagram taken last can be sent it. -/
theorem Serving.sendable {receipt : UdpReceipt} (h : Serving listenEndpoint options s₀ s s')
    (hlog : ∃ new, s.log = .received (some .listener) receipt :: new ++ s₀.log)
    (hadmissible : receipt.Admissible listenEndpoint options flow.key)
    (hflow : s'.tables.flows.lookup flow.token = some flow) :
    Sendable options (Touched listenEndpoint options) s₀ flow (receipt.receivedBytes options.receiveSize) false s' := by
  obtain ⟨new, hnew⟩ := hlog
  obtain ⟨added, hadded, hnone⟩ := h.2
  have hF := touched_lasting listenEndpoint options
  -- what happens next happens after the datagram was taken
  have hafter : ∀ {event : UdpEvent} {s'' : UdpReactor}, Quiet s' s'' → Since s' event s'' →
      ∀ new', s''.log = new' ++ s₀.log →
      Admitted listenEndpoint options flow.key (receipt.receivedBytes options.receiveSize) new' ∧
        event ∈ sinceReceived new' := by
    intro event s'' hquiet hsince new' hnew'
    obtain ⟨more, hmore, hcalm⟩ := hquiet.later
    have hmem : event ∈ more := by
      obtain ⟨more', hmore', hmem⟩ := hsince
      rw [hmore] at hmore'
      rwa [List.append_cancel_right hmore']
    have hcalm' : ∀ event ∈ more ++ added, ¬ event.Receives := fun event hevent =>
      (List.mem_append.mp hevent).elim (hcalm event) (hnone event)
    have hsplit : new' = (more ++ added) ++ .received (some .listener) receipt :: new := by
      rw [hmore, hadded, hnew, ← List.append_assoc, ← List.append_assoc] at hnew'
      exact (List.append_cancel_right hnew').symm
    rw [hsplit, sinceReceived_append hcalm']
    exact ⟨⟨receipt, lastReceived_append hcalm' _ _ _, hadmissible, rfl⟩, List.mem_append_left _ hmem⟩
  refine ⟨h.1, hflow, fun s'' hquiet hsince time => ?_, fun error s'' hquiet hsince hagain _ hcloses => ?_⟩
  · refine (Spares.steady hF _ _ hquiet h.1).allowed (by rw [hquiet.tables, hflow]) fun new' hnew' => ?_
    obtain ⟨hadmitted, hmem⟩ := hafter hquiet hsince new' hnew'
    exact .sent _ time hadmitted hmem
  · refine (Spares.steady hF _ _ hquiet h.1).allowed (by rw [hquiet.tables, hflow]) fun new' hnew' => ?_
    obtain ⟨hadmitted, hmem⟩ := hafter hquiet hsince new' hnew'
    exact .refused _ error hadmitted hmem hagain hcloses

theorem sparing_listenerReadAttempt (h : Served listenEndpoint options s₀ s) :
    Sparing (Served listenEndpoint options s₀) (listenerReadAttempt listenEndpoint options) s fun _ =>
      Served listenEndpoint options s₀ := by
  have hF := touched_lasting listenEndpoint options
  have hsteady : Steady (Served listenEndpoint options s₀) := Spares.steady hF
  unfold listenerReadAttempt
  refine Runs.gets_bind (Runs.bind (sparing_receiveDatagram _) fun r s₁ _ htaken => ?_)
  cases r with
  | error error =>
    subst htaken
    refine Runs.ite (fun _ => Runs.pure h) fun _ => Runs.ite (fun _ => Runs.pure h) fun _ => ?_
    exact Runs.bind (sparing_handleSocketError hF h nofun) fun _ _ _ h₂ => Runs.pure h₂
  | ok receipt =>
    obtain ⟨htables, hlistener, hlog⟩ := htaken
    have h₁ := h.received hF htables hlistener hlog
    refine Runs.ite (fun _ => sparing_drop hsteady h₁ fun _ h₂ => h₂) fun hwhole => ?_
    cases hparsed : parsePacketMetadata listenEndpoint receipt with
    | none => exact sparing_drop hsteady h₁ fun _ h₂ => h₂
    | some key =>
      refine Runs.bind (Sparing.weaken (sparing_resolveFlowTokenForDatagram key h₁) fun _ h' => h'.1)
        fun token s₂ _ ⟨h₂, hfound⟩ => Runs.ite (fun hne => Runs.gets_bind ?_) fun _ =>
          Runs.bind (sparing_reportStatEvent hsteady h₂.1 _ _) fun _ _ _ h₃ => Runs.pure h₃
      obtain ⟨flow, hflow, hkey⟩ := hfound hne
      obtain rfl := (h₂.1.consistent.tables.token hflow).1
      rw [not_or, Bool.not_eq_true, not_lt] at hwhole
      have hadmissible : receipt.Admissible listenEndpoint options flow.key := ⟨hwhole.1, hwhole.2, by rw [hparsed, hkey]⟩
      have hreceived : ∃ new, s₁.log = .received (some .listener) receipt :: new ++ s₀.log := by
        obtain ⟨new, hnew, -⟩ := h.fate
        exact ⟨new, by rw [hlog, h.consistent.listener, hnew, List.cons_append]⟩
      rw [hflow]
      exact Runs.bind (sparing_sendFlowDatagram hF (h₂.sendable hreceived hadmissible hflow)) fun _ _ _ h₃ => Runs.pure h₃

theorem sparing_handleListenerRead (h : Served listenEndpoint options s₀ s) :
    Sparing (Served listenEndpoint options s₀) (handleListenerRead listenEndpoint options) s fun _ =>
      Served listenEndpoint options s₀ := by
  unfold handleListenerRead
  refine Runs.bind (Runs.attempts (Q := fun _ => Served listenEndpoint options s₀) (Served listenEndpoint options s₀)
    (fun s' h' => (sparing_listenerReadAttempt h').post fun r _ _ h'' => ?_) 64 h) fun r s₁ _ h₁ => ?_
  · cases r <;> exact h''
  · cases r with
    | some _ => exact Runs.pure h₁
    | none => exact sparing_reportObservation (Spares.steady (touched_lasting _ _)) h₁ _ _ _

/-! ### Events -/

section Events

variable {F : Fates} {listener : Bool}

theorem sparing_readSocketError (hF : F.Lasting) (h : Spares options F s₀ s)
    (hclose : ∀ s', listener = false → Spares options F s₀ s' → Allowed options F s₀ token none s') (fd : ℕ) :
    Sparing (Spares options F s₀) (readSocketError token listener fd) s fun _ => Spares options F s₀ := by
  have hsteady : Steady (Spares options F s₀) := Spares.steady hF
  unfold readSocketError
  refine Runs.call_bind fun answer => ?_
  cases answer with
  | error error =>
    refine Runs.ite (fun _ => Runs.raise h) fun hown => Runs.ite (fun _ => Runs.raise h) fun _ => ?_
    refine Runs.bind (Q := fun _ => Spares options F s₀) (Runs.when (fun _ => sparing_reportStatEvent hsteady h _ _)
      fun _ => h) fun _ s₁ _ h₁ => ?_
    exact Runs.bind ((hclose s₁ (by simpa using hown) h₁).closeFlow hF _ _) fun _ _ _ h₂ => Runs.pure h₂.1
  | ok code =>
    refine Runs.bind (sparing_reportObservation hsteady h _ _ _) fun _ s₁ _ h₁ => ?_
    exact Runs.ite (fun _ => sparing_handleSocketError hF h₁ fun hown _ => hclose s₁ hown h₁) fun _ => Runs.pure h₁

theorem sparing_dispatchReadyEvent (hF : F.Lasting) (h : Spares options F s₀ s)
    (hclose : ∀ s', listener = false → Spares options F s₀ s' → Allowed options F s₀ token none s')
    (hread : ∀ s', Spares options F s₀ s' → Sparing (Spares options F s₀)
      (if listener then handleListenerRead listenEndpoint options else handleBackendRead options token) s' fun _ =>
        Spares options F s₀) (events : EpollEvents) (fd : ℕ) :
    Sparing (Spares options F s₀) (dispatchReadyEvent listenEndpoint options token events listener fd) s fun _ =>
      Spares options F s₀ := by
  unfold dispatchReadyEvent
  refine Runs.bind (Q := fun _ => Spares options F s₀) (Runs.ite (fun _ => sparing_readSocketError hF h hclose fd)
    fun _ => Runs.pure h) fun proceed s₁ _ h₁ => ?_
  refine Runs.ite (fun _ => Runs.pure h₁) fun _ => Runs.ite (fun _ => ?_) fun _ => Runs.ite (fun _ => hread s₁ h₁)
    fun _ => Runs.pure h₁
  refine Runs.ite (fun _ => Runs.raise h₁) fun hown => ?_
  refine Runs.bind (sparing_reportStatEvent (Spares.steady hF) h₁ _ _) fun _ s₂ _ h₂ => ?_
  exact ((hclose s₂ (by simpa using hown) h₂).closeFlow hF _ _).post fun _ _ _ h₃ => h₃.1

end Events

theorem sparing_dispatchListener (events : EpollEvents) (h : Served listenEndpoint options s₀ s) :
    Sparing (Served listenEndpoint options s₀) (dispatchFlowEvent listenEndpoint options 1 events) s fun _ =>
      Served listenEndpoint options s₀ := by
  unfold dispatchFlowEvent
  refine Runs.ite (fun he => absurd he (by decide)) fun _ => Runs.ite (fun _ => Runs.gets_bind ?_) fun hne => absurd rfl hne
  refine sparing_dispatchReadyEvent (touched_lasting _ _) h ?_ ?_ events _
  · exact fun _ he => absurd he (by decide)
  · exact fun s' h' => sparing_handleListenerRead h'

theorem sparing_dispatchFlow (events : EpollEvents) (hne : token ≠ 1) (h : Spares options (Only token) s₀ s) :
    Sparing (Spares options (Only token) s₀) (dispatchFlowEvent listenEndpoint options token events) s fun _ =>
      Spares options (Only token) s₀ := by
  have hF := only_lasting token
  unfold dispatchFlowEvent
  refine Runs.ite (fun _ => Runs.pure h) fun _ => Runs.ite (fun he => absurd he hne) fun _ => Runs.gets_bind ?_
  cases hflow : s.tables.flows.lookup token with
  | none => exact sparing_reportObservation (Spares.steady hF) h _ _ _
  | some flow =>
    refine Runs.bind ((sparing_isExpired (Spares.steady hF) h token flow)) fun expired s₁ _ ⟨h₁, _⟩ => ?_
    refine Runs.ite (fun _ => ?_) fun _ => ?_
    · refine Runs.bind (sparing_reportStatEvent (Spares.steady hF) h₁ _ _) fun _ s₂ _ h₂ => ?_
      exact ((h₂.only none).closeFlow hF _ _).post fun _ _ _ h₃ => h₃.1
    · exact sparing_dispatchReadyEvent hF h₁ (fun _ _ h' => h'.only none) (fun _ => sparing_handleBackendRead) events _

/-- A flow is in the tables as it was: its key, its backend, its token and its deadline, its socket, and its place in
the index. -/
structure Undisturbed (s s' : UdpReactor) (token : ℕ) (flow : UdpFlow) : Prop where
  /-- The flow. -/
  lookup : s'.tables.flows.lookup token = some flow
  /-- Its place in the index. -/
  index : s'.tables.flowTokensByKey.lookup flow.key = some token
  /-- Its socket. -/
  socket : s'.tables.descriptors.lookup flow.fd = s.tables.descriptors.lookup flow.fd

/-- What an event leaves alone. If it is not the listener's, every flow but the one with its token is as it was,
and none has come. If it is, a flow that was there is there as it was, but that its deadline was moved for a datagram
of its client that was sent on whole; or it was closed, because its own socket refused such a datagram, or because it
was found expired. -/
structure Isolated (listenEndpoint : Endpoint) (options : UdpReactorOptions) (token : ℕ) (s s' : UdpReactor) : Prop where
  /-- An event of a flow. -/
  flow : token ≠ 1 → ∀ t, t ≠ token →
    (∀ flow, s.tables.flows.lookup t = some flow → Undisturbed s s' t flow) ∧
      (s.tables.flows.lookup t = none → s'.tables.flows.lookup t = none)
  /-- An event of the listener. -/
  listener : token = 1 → ∃ new, s'.log = new ++ s.log ∧ ∀ t flow, s.tables.flows.lookup t = some flow →
    Fate listenEndpoint options flow new (s'.tables.flows.lookup t) ∧
      ∀ now, s'.tables.flows.lookup t = some now →
        (∃ deadline, now = { flow with deadline := deadline }) ∧ Undisturbed s s' t now

theorem Spares.undisturbed {F : Fates} (h : Spares options F s s') {now : UdpFlow}
    (hflow : s.tables.flows.lookup token = some flow) (hnow : s'.tables.flows.lookup token = some now) :
    (∃ deadline, now = { flow with deadline := deadline }) ∧ Undisturbed s s' token now := by
  obtain ⟨⟨deadline, rfl⟩, hsocket⟩ := h.sequel.stays token flow now hflow hnow
  exact ⟨⟨deadline, rfl⟩, hnow, (h.consistent.tables.index flow.key token).mpr ⟨_, hnow, rfl⟩, hsocket⟩

theorem Spares.isolated (hne : token ≠ 1) (h : Spares options (Only token) s s') :
    Isolated listenEndpoint options token s s' := by
  obtain ⟨new, hnew, hfate⟩ := h.fate
  refine ⟨fun _ t ht => ⟨fun flow hflow => ?_, fun hnone => ?_⟩, fun he => absurd he hne⟩
  · exact (h.undisturbed hflow ((hfate t ht).trans hflow)).2
  · exact (hfate t ht).trans hnone

theorem Served.isolated (h : Served listenEndpoint options s s') : Isolated listenEndpoint options 1 s s' := by
  obtain ⟨new, hnew, hfate⟩ := h.fate
  refine ⟨fun hne => absurd rfl hne, fun _ => ⟨new, hnew, fun t flow hflow => ?_⟩⟩
  exact ⟨hfate t flow hflow, fun now hnow => h.undisturbed hflow hnow⟩

/-- **A live flow is not evicted**: whatever else comes to the listener, one that no datagram was admitted for, and
that was not found expired, is as it was. -/
theorem Isolated.live (h : Isolated listenEndpoint options 1 s s') (hs : Consistent options none s)
    (hflow : s.tables.flows.lookup token = some flow) {new : List UdpEvent} (hnew : s'.log = new ++ s.log)
    (hnone : ∀ receipt, .received (some .listener) receipt ∈ new → ¬ receipt.Admissible listenEndpoint options flow.key)
    (hlive : ∀ time, time - flow.deadline.lastSubmissionTime ≥ options.idleTimeout →
      .checked token flow.deadline.lastSubmissionTime time ∉ new ∧
        .swept token flow.deadline.lastSubmissionTime time ∉ new) : Undisturbed s s' token flow := by
  obtain rfl := (hs.tables.token hflow).1
  obtain ⟨new', hnew', hfates⟩ := h.listener rfl
  obtain rfl := List.append_cancel_right (hnew.symm.trans hnew')
  obtain ⟨hfate, hstays⟩ := hfates flow.token flow hflow
  exact (hstays flow (hfate.undisturbed hnone hlive)).2

theorem runs_dispatch_isolated (events : EpollEvents) (h : Consistent options none s) :
    Sparing (Isolated listenEndpoint options token s) (dispatchFlowEvent listenEndpoint options token events) s fun _ =>
      Isolated listenEndpoint options token s := by
  by_cases htoken : token = 1
  · subst htoken
    exact (sparing_dispatchListener events (Spares.refl (touched_lasting _ _) h)).mono (fun _ _ _ => Served.isolated)
      fun _ _ _ => Served.isolated
  · exact (sparing_dispatchFlow events htoken (Spares.refl (only_lasting _) h)).mono
      (fun _ _ _ => Spares.isolated htoken) fun _ _ _ => Spares.isolated htoken

/-- **An event of one flow leaves the others alone.** After any calls on a reactor, however each ended, let an
event be handled, whatever is answered: whether it returns or throws, the other flows are as they were, and an
event of the listener touches a flow only for a datagram of its client, sent on whole or refused by the flow's own
socket, or where it was found expired. -/
theorem udp_fault_isolation (listenEndpoint : Endpoint) (options : UdpReactorOptions) (requests : List UdpRequest)
    (script script' : List (Answerer UdpCall UdpAnswer)) (token : ℕ) (events : EpollEvents) :
    let before := driveUdpReactor listenEndpoint options requests ⟨script, {}⟩
    let s := before.2.state
    let after := dispatchFlowEvent listenEndpoint options token events ⟨script', s⟩
    before.1.Meets (fun _ => True) fun _ =>
      after.1.Meets (fun _ => Isolated listenEndpoint options token s after.2.state) fun _ =>
        Isolated listenEndpoint options token s after.2.state := by
  intro before s after
  have hdrive : Runs (DriveStep listenEndpoint) (fun _ => Blank) (driveUdpReactor listenEndpoint options requests) {}
      fun _ => Settled options := runs_driveUdpReactor requests Blank.initial
  have hruns : Runs (DriveStep listenEndpoint) (fun _ _ => True) (driveUdpReactor listenEndpoint options requests) {}
      fun _ s => (dispatchFlowEvent listenEndpoint options token events ⟨script', s⟩).1.Meets
        (fun _ => Isolated listenEndpoint options token s
          (dispatchFlowEvent listenEndpoint options token events ⟨script', s⟩).2.state)
        fun _ => Isolated listenEndpoint options token s
          (dispatchFlowEvent listenEndpoint options token events ⟨script', s⟩).2.state :=
    hdrive.mono (fun _ _ _ _ => trivial) fun _ _ _ hs => (runs_dispatch_isolated events hs.consistent script').2
  exact (hruns script).2

end L4lb.Net
