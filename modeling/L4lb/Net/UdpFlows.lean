import L4lb.Net.UdpSteps

/-!
# How the UDP reactor creates flows

One lemma for each method: what it does is a chain of steps, and what it leaves, whether
it returns or throws. A creation that fails has changed nothing but the numbers given
out (`Unchanged`); one that succeeds has put one flow in the tables (`Established`).
-/

namespace L4lb.Net

open Effect Prog Relation

variable {listenEndpoint : Endpoint} {options : UdpReactorOptions} {s s' base : UdpReactor} {fd : ℕ}
  {key : UdpFlowKey} {backend : Endpoint} {flow : UdpFlow}

/-! ### Creating a flow -/

/-- A socket is being made ready, and nothing else was touched. -/
structure Preparing (fd : ℕ) (s s' : UdpReactor) : Prop extends Rest s s' where
  /-- The keys. -/
  flowTokensByKey : s'.tables.flowTokensByKey = s.tables.flowTokensByKey
  /-- The flows. -/
  flows : s'.tables.flows = s.tables.flows
  /-- The other descriptors. -/
  others : ∀ {fd'}, fd' ≠ fd → s'.tables.descriptors.lookup fd' = s.tables.descriptors.lookup fd'
  /-- Tokens are only given out. -/
  next : s.tables.nextFlowToken ≤ s'.tables.nextFlowToken
  /-- So are the numbers of sockets. -/
  sockets : s.tables.sockets ≤ s'.tables.sockets
  /-- No flow has come. -/
  inserted : NoneInserted s s'

/-- Nothing was changed but the numbers given out. -/
structure Unchanged (s s' : UdpReactor) : Prop extends Rest s s' where
  /-- The tables. -/
  restored : Restored s.tables s'.tables
  /-- Tokens are only given out. -/
  next : s.tables.nextFlowToken ≤ s'.tables.nextFlowToken
  /-- So are the numbers of sockets. -/
  sockets : s.tables.sockets ≤ s'.tables.sockets
  /-- A flow that has come had a token that was given out. -/
  inserted : ∀ {flow socket}, .inserted flow socket ∈ s'.log →
    .inserted flow socket ∈ s.log ∨ flow.token < s'.tables.nextFlowToken

/-- The socket has a number that was not given out before. -/
def NewSocket (fd : ℕ) (peer : Option Endpoint) (s s' : UdpReactor) : Prop :=
  ∃ serial, s.tables.sockets ≤ serial ∧ serial < s'.tables.sockets ∧
    s'.tables.descriptors.lookup fd = some (.socket serial peer)

/-- A flow whose socket is ready. -/
structure Prepared (key : UdpFlowKey) (backend : Endpoint) (fd : ℕ) (s s' : UdpReactor) (flow : UdpFlow) :
    Prop where
  /-- Its key. -/
  key_eq : flow.key = key
  /-- Its backend. -/
  backend_eq : flow.backend = backend
  /-- Its socket. -/
  fd_eq : flow.fd = fd
  /-- Its token was not given out before. -/
  fresh : s.tables.nextFlowToken ≤ flow.token
  /-- And will not be again. -/
  spent : flow.token < s'.tables.nextFlowToken
  /-- The socket is connected to the backend. -/
  connected : NewSocket fd (some backend) s s'

/-- A flow was put in the tables. -/
structure Established (options : UdpReactorOptions) (key : UdpFlowKey) (s s' : UdpReactor) (flow : UdpFlow) :
    Prop extends Rest s s' where
  /-- The tables agree. -/
  consistent : Consistent options none s'
  /-- The flow is the one that came. -/
  flows : s'.tables.flows = s.tables.flows.insert flow.token flow
  /-- It has the key. -/
  key : flow.key = key
  /-- It has a token. -/
  token : flow.token ≠ 0
  /-- No flow had it. -/
  fresh : s.tables.flows.lookup flow.token = none
  /-- It was not given out before. -/
  unused : s.tables.nextFlowToken ≤ flow.token
  /-- What was open is open as it was. -/
  others : ∀ {fd}, fd ∈ s.tables.descriptors → s'.tables.descriptors.lookup fd = s.tables.descriptors.lookup fd

theorem Preparing.stable : Stable (Preparing fd base) := fun s₁ s₂ hf h =>
  ⟨h.toRest.trans hf.rest, by rw [hf.tables, h.flowTokensByKey], by rw [hf.tables, h.flows],
    fun hne => by rw [hf.tables, h.others hne], by rw [hf.tables]; exact h.next,
    by rw [hf.tables]; exact h.sockets, h.inserted.trans hf.inserted⟩

theorem Unchanged.stable : Stable (Unchanged base) := fun s₁ s₂ hf h =>
  ⟨h.toRest.trans hf.rest, by rw [hf.tables]; exact h.restored, by rw [hf.tables]; exact h.next,
    by rw [hf.tables]; exact h.sockets, fun hmem => by rw [hf.tables]; exact h.inserted (hf.inserted _ _ hmem)⟩

theorem Unchanged.refl (s : UdpReactor) : Unchanged s s :=
  ⟨Rest.refl s, ⟨rfl, rfl, rfl⟩, le_refl _, le_refl _, Or.inl⟩

theorem Unchanged.consistent (h : Unchanged s s') (hs : Consistent options none s) :
    Consistent options none s' := by
  have hr := h.restored
  refine ⟨⟨fun key token => ?_, fun hflow => ?_, ?_, ?_, fun hflow => ?_, fun hfd => ?_, fun _ => nofun,
    fun h₁ h₂ => ?_, fun hfd => ?_, fun h₁ h₂ => ?_⟩, ?_, fun hmem => ?_⟩
  · rw [hr.flowTokensByKey, hr.flows]
    exact hs.tables.index key token
  · rw [hr.flows] at hflow
    obtain ⟨htoken, hge, hlt⟩ := hs.tables.token hflow
    exact ⟨htoken, hge, hlt.trans_le h.next⟩
  · rw [hr.flows]
    exact hs.tables.capacity
  · exact hs.tables.next_ge.trans h.next
  · rw [hr.flows] at hflow
    rw [hr.descriptors]
    exact hs.tables.socket hflow
  · rw [hr.descriptors] at hfd
    rw [hr.flows]
    exact hs.tables.owner hfd
  · rw [hr.flows] at h₁ h₂
    exact hs.tables.apart h₁ h₂
  · rw [hr.descriptors] at hfd
    exact (hs.tables.numbered hfd).trans_le h.sockets
  · rw [hr.descriptors] at h₁ h₂
    exact hs.tables.distinct h₁ h₂
  · rw [hr.descriptors, h.listenerFd]
    exact hs.listener
  · exact (h.inserted hmem).elim (fun hold => (hs.inserted hold).trans_le h.next) id

theorem runs_setupDrop {P : UdpReactor → Prop} {error : Errno} (hP : Stable P) (h : P s) :
    Runs (UdpStep listenEndpoint) (fun _ => P) (setupDrop error) s fun _ => P :=
  Runs.bind (runs_reportStatEvent rfl hP h) fun _ _ _ h₁ => runs_reportDiagnostic hP h₁

/-- A step of the creation has failed: there is no flow. -/
theorem runs_setupDrop_none {P : UdpReactor → Prop} {Q : Option UdpFlow → UdpReactor → Prop} {error : Errno}
    (hP : Stable P) (h : P s) (hQ : ∀ s', P s' → Q none s') :
    Runs (UdpStep listenEndpoint) (fun _ => P) (setupDrop error >>= fun _ => pure none) s Q :=
  Runs.bind (runs_setupDrop hP h) fun _ _ _ h₁ => Runs.pure (hQ _ h₁)

/-- The socket is no flow's. -/
def Unowned (fd : ℕ) (s : UdpReactor) : Prop :=
  ∀ token flow, s.tables.flows.lookup token = some flow → flow.fd ≠ fd

theorem Preparing.unowned (h : Preparing fd base s) (hfree : Unowned fd base) : Unowned fd s :=
  fun token flow hflow => hfree token flow (by rwa [h.flows] at hflow)

/-- The socket closed, nothing has changed. -/
theorem Preparing.close (h : Preparing fd base s) (hnew : fd ∉ base.tables.descriptors)
    (hlog : s'.log = s.log) (hlistener : s'.listenerFd = s.listenerFd)
    (hbuffer : s'.receiveBuffer = s.receiveBuffer)
    (htables : s'.tables = { s.tables with descriptors := s.tables.descriptors.erase fd }) :
    Unchanged base s' := by
  refine ⟨⟨hlistener.trans h.listenerFd, hbuffer.trans h.receiveBuffer, fun o ho => ?_, ?_⟩,
    ⟨?_, ?_, Finmap.ext_lookup fun fd' => ?_⟩, ?_, ?_, fun hmem => ?_⟩
  · rw [Owes, hlog]
    exact h.owes o ho
  · rw [hlog]
    exact h.later
  · rw [htables, h.flowTokensByKey]
  · rw [htables, h.flows]
  · rw [htables]
    by_cases hfd : fd' = fd
    · rw [hfd, Finmap.lookup_erase, Finmap.lookup_eq_none.mpr hnew]
    · rw [Finmap.lookup_erase_ne hfd, h.others hfd]
  · rw [htables]
    exact h.next
  · rw [htables]
    exact h.sockets
  · rw [hlog] at hmem
    exact .inl (h.inserted _ _ hmem)

theorem runs_destroyFd (h : Preparing fd base s) (hnew : fd ∉ base.tables.descriptors)
    (hfree : Unowned fd base) {E : UdpError → UdpReactor → Prop} :
    Runs (UdpStep listenEndpoint) E (destroyFd fd) s fun _ => Unchanged base := by
  rw [destroyFd_eq]
  refine Runs.modify (.single (UdpStep.quiet rfl (FlowTables.association_congr rfl ?_))) (h.close hnew rfl rfl rfl rfl)
  exact fun token flow hflow => Finmap.lookup_erase_ne (h.unowned hfree token flow hflow)

theorem FlowTables.connect_of_lookup {tables : FlowTables} {serial : ℕ} {peer : Option Endpoint}
    (h : tables.descriptors.lookup fd = some (.socket serial peer)) :
    tables.connect fd backend = { tables with
      descriptors := tables.descriptors.insert fd (.socket serial (some backend)) } := by
  unfold connect
  rw [h]

theorem runs_prepareFlow (h : Preparing fd base s) (hfree : Unowned fd base)
    (hsocket : ∃ peer, NewSocket fd peer base s) :
    Runs (UdpStep listenEndpoint) (fun _ => Preparing fd base) (prepareFlow key backend fd) s
      fun r s' => Preparing fd base s' ∧ ∀ flow, r = some flow → Prepared key backend fd base s' flow := by
  have hnone : ∀ {s' : UdpReactor}, Preparing fd base s' → Preparing fd base s' ∧
      ∀ flow, none = some flow → Prepared key backend fd base s' flow := fun h => ⟨h, fun _ => nofun⟩
  refine Runs.call_bind fun answer => ?_
  cases answer with
  | error error => exact runs_setupDrop_none Preparing.stable h fun _ => hnone
  | ok _ =>
  refine Runs.call_bind fun answer => ?_
  cases answer with
  | error error => exact runs_setupDrop_none Preparing.stable h fun _ => hnone
  | ok _ =>
  obtain ⟨peer, serial, hnumber, hcount, hlookup⟩ := hsocket
  have hconnect : s.tables.connect fd backend = _ := FlowTables.connect_of_lookup hlookup
  refine runs_modifyTables_bind (by rw [hconnect]) (fun token flow hflow => ?_) ?_
  · rw [hconnect]
    exact Finmap.lookup_insert_of_ne _ (h.unowned hfree token flow hflow)
  have h₁ : Preparing fd base { s with tables := s.tables.connect fd backend } := by
    rw [hconnect]
    exact ⟨h.toRest.trans (.of_eq rfl rfl rfl), h.flowTokensByKey, h.flows,
      fun hne => (Finmap.lookup_insert_of_ne _ hne).trans (h.others hne), h.next, h.sockets, h.inserted⟩
  have hconnected : serial < (s.tables.connect fd backend).sockets ∧
      (s.tables.connect fd backend).descriptors.lookup fd = some (.socket serial (some backend)) := by
    rw [hconnect]
    exact ⟨hcount, Finmap.lookup_insert _⟩
  refine Runs.gets_bind (Runs.ite (fun _ => Runs.raise h₁) fun _ => ?_)
  refine runs_modifyTables_bind rfl (fun _ _ _ => rfl) ?_
  set token := (s.tables.connect fd backend).nextFlowToken with htoken
  -- the token is spent whatever comes of the flow
  let Spent : UdpReactor → Prop := fun s' => Preparing fd base s' ∧
    s'.tables.nextFlowToken = token + 1 ∧ NewSocket fd (some backend) base s'
  have hspent : Stable Spent := fun s₁ s₂ hf h₂ =>
    ⟨Preparing.stable _ _ hf h₂.1, by rw [hf.tables, h₂.2.1], by rw [NewSocket, hf.tables]; exact h₂.2.2⟩
  have hstart : Spent { s with tables := { s.tables.connect fd backend with nextFlowToken := token + 1 } } :=
    ⟨⟨h₁.toRest.trans (.of_eq rfl rfl rfl), h₁.flowTokensByKey, h₁.flows, h₁.others,
      h₁.next.trans (Nat.le_succ _), h₁.sockets, h₁.inserted⟩, rfl, serial, hnumber, hconnected⟩
  refine Runs.mono (E := fun _ => Spent) ?_ (fun _ _ _ h => h.1) fun _ _ _ h => h
  refine Runs.bind (runs_currentTime hspent hstart) fun time s₂ _ h₂ => Runs.call_bind fun allocated => ?_
  refine Runs.ite (fun _ => runs_setupDrop_none hspent h₂ fun _ h₃ => hnone h₃.1) fun _ => ?_
  refine Runs.call_bind fun error => Runs.ite (fun _ => ?_) fun _ => Runs.pure ⟨h₂.1, fun flow hflow => ?_⟩
  · exact runs_setupDrop_none hspent h₂ fun _ h₃ => hnone h₃.1
  · obtain rfl := Option.some.inj hflow
    exact ⟨rfl, rfl, rfl, h₁.next, by rw [h₂.2.1]; exact Nat.lt_succ_self _, h₂.2.2⟩

/-- The socket of a flow to be is closed unless there is the flow. -/
theorem runs_owning {m : UdpM (Option UdpFlow)} {Ready : UdpFlow → UdpReactor → Prop}
    (hnew : fd ∉ base.tables.descriptors) (hfree : Unowned fd base)
    (h : Runs (UdpStep listenEndpoint) (fun _ => Preparing fd base) m s
      fun r s' => Preparing fd base s' ∧ ∀ flow, r = some flow → Ready flow s') :
    Runs (UdpStep listenEndpoint) (fun _ => Unchanged base) (owning fd m) s fun r s' =>
      (r = none → Unchanged base s') ∧ ∀ flow, r = some flow → Preparing fd base s' ∧ Ready flow s' := by
  refine Runs.bind (Runs.handle h fun e s₁ _ h₁ => ?_) fun r s₁ _ h₁ => ?_
  · exact Runs.bind (runs_destroyFd h₁ hnew hfree) fun _ _ _ h₂ => Runs.raise h₂
  · cases r with
    | none =>
      exact Runs.bind (runs_destroyFd h₁.1 hnew hfree) fun _ _ _ h₂ => Runs.pure ⟨fun _ => h₂, fun _ => nofun⟩
    | some flow =>
      refine Runs.pure ⟨nofun, fun flow' hflow' => ?_⟩
      obtain rfl := Option.some.inj hflow'
      exact ⟨h₁.1, h₁.2 _ rfl⟩

/-- What a failed registration leaves. -/
theorem Unchanged.of_tables (h : Preparing fd base s) (hnew : fd ∉ base.tables.descriptors)
    (hrest : Rest s s') (hinserted : ∀ {flow socket}, .inserted flow socket ∈ s'.log →
      .inserted flow socket ∈ s.log ∨ flow.token < s'.tables.nextFlowToken)
    (hkeys : s'.tables.flowTokensByKey = base.tables.flowTokensByKey)
    (hflows : s'.tables.flows = base.tables.flows)
    (hdescriptors : s'.tables.descriptors = s.tables.descriptors.erase fd)
    (hnext : s.tables.nextFlowToken ≤ s'.tables.nextFlowToken)
    (hsockets : s.tables.sockets ≤ s'.tables.sockets) : Unchanged base s' := by
  refine ⟨h.toRest.trans hrest, ⟨hkeys, hflows, Finmap.ext_lookup fun fd' => ?_⟩, h.next.trans hnext,
    h.sockets.trans hsockets, fun hmem => (hinserted hmem).imp_left (h.inserted _ _)⟩
  rw [hdescriptors]
  by_cases hfd : fd' = fd
  · rw [hfd, Finmap.lookup_erase, Finmap.lookup_eq_none.mpr hnew]
  · rw [Finmap.lookup_erase_ne hfd, h.others hfd]

theorem Consistent.notMem_of_le {loose : Option ℕ} (h : Consistent options loose s) {token : ℕ}
    (hle : s.tables.nextFlowToken ≤ token) : token ∉ s.tables.flows := by
  intro hmem
  obtain ⟨flow, hflow⟩ := Finmap.mem_iff.mp hmem
  exact absurd (h.tables.token hflow).2.2 (not_lt.mpr hle)

/-- The tables with a flow put in them. -/
theorem established (hbase : Consistent options none base) (hnew : fd ∉ base.tables.descriptors)
    (hkey : base.tables.flowTokensByKey.lookup key = none)
    (hroom : Table.size base.tables.flows < options.maxFlows) (h : Preparing fd base s)
    (hready : Prepared key backend fd base s flow) (hrest : Rest s s')
    (hkeys : s'.tables.flowTokensByKey = base.tables.flowTokensByKey.insert key flow.token)
    (hflows : s'.tables.flows = base.tables.flows.insert flow.token flow)
    (hdescriptors : s'.tables.descriptors = s.tables.descriptors)
    (hnext : s'.tables.nextFlowToken = s.tables.nextFlowToken)
    (hsockets : s'.tables.sockets = s.tables.sockets)
    (hlog : ∀ earlier socket, .inserted earlier socket ∈ s'.log →
      earlier = flow ∨ .inserted earlier socket ∈ s.log) : Established options key base s' flow := by
  have hfresh := hbase.notMem_of_le hready.fresh
  have hbasefd : ∀ {token flow'}, base.tables.flows.lookup token = some flow' → flow'.fd ≠ fd := by
    intro token flow' hflow' he
    obtain ⟨serial, hsocket⟩ := hbase.tables.socket hflow'
    rw [he, Finmap.lookup_eq_none.mpr hnew] at hsocket
    cases hsocket
  obtain ⟨serial, hnumber, hcount, hconnected⟩ := hready.connected
  have hlookup : ∀ {token flow'}, s'.tables.flows.lookup token = some flow' →
      token = flow.token ∧ flow' = flow ∨
        token ≠ flow.token ∧ base.tables.flows.lookup token = some flow' := by
    intro token flow' hflow'
    rw [hflows] at hflow'
    by_cases ht : token = flow.token
    · subst ht
      rw [Finmap.lookup_insert] at hflow'
      exact .inl ⟨rfl, (Option.some.inj hflow').symm⟩
    · rw [Finmap.lookup_insert_of_ne _ ht] at hflow'
      exact .inr ⟨ht, hflow'⟩
  refine ⟨h.toRest.trans hrest, ⟨⟨fun key' token => ?_, fun hflow' => ?_, ?_, ?_, fun hflow' => ?_,
    fun hfd' => ?_, fun _ => nofun, fun h₁ h₂ he => ?_, fun hfd' => ?_, fun h₁ h₂ => ?_⟩, ?_,
    fun hmem => ?_⟩, hflows, hready.key_eq, ?_, Finmap.lookup_eq_none.mpr hfresh,
    hready.fresh, fun {fd'} hmem => ?_⟩
  · rw [hkeys]
    by_cases hk : key' = key
    · subst hk
      rw [Finmap.lookup_insert]
      refine ⟨fun he => ⟨flow, ?_, hready.key_eq⟩, ?_⟩
      · rw [hflows, ← Option.some.inj he, Finmap.lookup_insert]
      · rintro ⟨flow', hflow', hkey'⟩
        rcases hlookup hflow' with ⟨rfl, -⟩ | ⟨-, hold⟩
        · rfl
        · rw [(hbase.tables.index _ token).mpr ⟨flow', hold, hkey'⟩] at hkey
          cases hkey
    · rw [Finmap.lookup_insert_of_ne _ hk, hbase.tables.index]
      refine exists_congr fun flow' => and_congr_left fun hkey' => ?_
      by_cases ht : token = flow.token
      · rw [ht, hflows, Finmap.lookup_insert, Finmap.lookup_eq_none.mpr hfresh]
        refine ⟨nofun, fun he => ?_⟩
        obtain rfl := Option.some.inj he
        exact absurd (hkey'.symm.trans hready.key_eq) hk
      · rw [hflows, Finmap.lookup_insert_of_ne _ ht]
  · rw [hnext]
    rcases hlookup hflow' with ⟨rfl, rfl⟩ | ⟨-, hold⟩
    · exact ⟨rfl, hbase.tables.next_ge.trans hready.fresh, hready.spent⟩
    · obtain ⟨htoken, hge, hlt⟩ := hbase.tables.token hold
      exact ⟨htoken, hge, hlt.trans_le h.next⟩
  · rw [hflows, Table.size_insert hfresh]
    exact hroom
  · rw [hnext]
    exact hbase.tables.next_ge.trans h.next
  · rw [hdescriptors]
    rcases hlookup hflow' with ⟨rfl, rfl⟩ | ⟨-, hold⟩
    · exact ⟨serial, by rw [hready.fd_eq, hready.backend_eq, hconnected]⟩
    · rw [h.others (hbasefd hold)]
      exact hbase.tables.socket hold
  · rename_i fd' serial peer
    rw [hdescriptors] at hfd'
    by_cases hf : fd' = fd
    · exact .inr ⟨flow.token, flow, by rw [hflows, Finmap.lookup_insert], hready.fd_eq.trans hf.symm⟩
    · rw [h.others hf] at hfd'
      refine (hbase.tables.owner hfd').imp_right ?_
      rintro ⟨token, flow', hflow', hfd'⟩
      refine ⟨token, flow', ?_, hfd'⟩
      have ht : token ≠ flow.token := fun ht => hfresh (ht ▸ Finmap.mem_of_lookup_eq_some hflow')
      rw [hflows, Finmap.lookup_insert_of_ne _ ht, hflow']
  · rcases hlookup h₁ with ⟨rfl, rfl⟩ | ⟨-, hold₁⟩ <;> rcases hlookup h₂ with ⟨rfl, rfl⟩ | ⟨-, hold₂⟩
    · rfl
    · exact absurd (he.symm.trans hready.fd_eq) (hbasefd hold₂)
    · exact absurd (he.trans hready.fd_eq) (hbasefd hold₁)
    · exact hbase.tables.apart hold₁ hold₂ he
  · rename_i fd' serial' peer
    rw [hdescriptors] at hfd'
    rw [hsockets]
    by_cases hf : fd' = fd
    · rw [hf, hconnected] at hfd'
      obtain ⟨rfl, -⟩ := UdpDescriptor.socket.inj (Option.some.inj hfd')
      exact hcount
    · rw [h.others hf] at hfd'
      exact (hbase.tables.numbered hfd').trans_le h.sockets
  · rename_i fd₁ fd₂ serial' peer₁ peer₂
    have hnumbered : ∀ {fd' peer}, fd' ≠ fd → s'.tables.descriptors.lookup fd' = some (.socket serial' peer) →
        base.tables.descriptors.lookup fd' = some (.socket serial' peer) ∧ serial' ≠ serial := by
      intro fd' peer hf hlookup
      rw [hdescriptors, h.others hf] at hlookup
      have := hbase.tables.numbered hlookup
      exact ⟨hlookup, by omega⟩
    have hown : ∀ {peer}, s'.tables.descriptors.lookup fd = some (.socket serial' peer) → serial' = serial := by
      intro peer hlookup
      rw [hdescriptors, hconnected] at hlookup
      exact (UdpDescriptor.socket.inj (Option.some.inj hlookup)).1.symm
    by_cases hf₁ : fd₁ = fd <;> by_cases hf₂ : fd₂ = fd
    · rw [hf₁, hf₂]
    · rw [hf₁] at h₁
      exact absurd (hown h₁) (hnumbered hf₂ h₂).2
    · rw [hf₂] at h₂
      exact absurd (hown h₂) (hnumbered hf₁ h₁).2
    · exact hbase.tables.distinct (hnumbered hf₁ h₁).1 (hnumbered hf₂ h₂).1
  · have hne : base.listenerFd ≠ fd := by
      rintro rfl
      have := hbase.listener
      rw [Finmap.lookup_eq_none.mpr hnew] at this
      cases this
    rw [hdescriptors, hrest.listenerFd, h.listenerFd, h.others hne]
    exact hbase.listener
  · rw [hnext]
    rcases hlog _ _ hmem with rfl | hold
    · exact hready.spent
    · exact (hbase.inserted (h.inserted _ _ hold)).trans_le h.next
  · have := hbase.tables.next_ge
    have := hready.fresh
    omega
  · have hne : fd' ≠ fd := by
      rintro rfl
      exact hnew hmem
    rw [hdescriptors, h.others hne]

/-- No flow of the tables has a key that maps to none. -/
theorem Consistent.key_ne {loose : Option ℕ} (h : Consistent options loose s)
    (hkey : s.tables.flowTokensByKey.lookup key = none) {token : ℕ}
    (hflow : s.tables.flows.lookup token = some flow) : flow.key ≠ key := by
  intro he
  rw [(h.tables.index key token).mpr ⟨flow, hflow, he⟩] at hkey
  cases hkey

theorem runs_eraseFlow_none {token : ℕ} {E : UdpError → UdpReactor → Prop}
    {Q : Unit → UdpReactor → Prop} (h : s.tables.flows.lookup token = none) (hQ : Q () s) :
    Runs (UdpStep listenEndpoint) E (eraseFlow token) s Q := by
  refine Runs.gets_bind ?_
  rw [h]
  exact Runs.pure hQ

theorem unregisterFlow_true (key : UdpFlowKey) (token : ℕ) : unregisterFlow key token true =
    modifyTables (fun tables => { tables with
      flowTokensByKey := tables.flowTokensByKey.erase key }) >>= fun _ => eraseFlow token := rfl

/-- The catch clauses where the flow was not put in. -/
theorem runs_unregisterFlow_none {token : ℕ} {indexed : Bool} {E : UdpError → UdpReactor → Prop}
    (h : s.tables.flows.lookup token = none) :
    Runs (UdpStep listenEndpoint) E (unregisterFlow key token indexed) s fun _ s' =>
      s'.log = s.log ∧ s'.listenerFd = s.listenerFd ∧ s'.receiveBuffer = s.receiveBuffer ∧
        s'.tables = if indexed then { s.tables with
          flowTokensByKey := s.tables.flowTokensByKey.erase key } else s.tables := by
  cases indexed with
  | false => exact Runs.pure_bind (runs_eraseFlow_none h ⟨rfl, rfl, rfl, rfl⟩)
  | true =>
    rw [unregisterFlow_true]
    refine runs_modifyTables_bind rfl (fun _ _ _ => rfl) ?_
    exact runs_eraseFlow_none h ⟨rfl, rfl, rfl, rfl⟩

/-- The catch clauses where the flow was put in. -/
theorem runs_unregisterFlow_some {token : ℕ} {E : UdpError → UdpReactor → Prop}
    (h : s.tables.flows.lookup token = some flow)
    (hapart : ∀ token' flow', token' ≠ token → s.tables.flows.lookup token' = some flow' →
      flow'.fd ≠ flow.fd) :
    Runs (UdpStep listenEndpoint) E (unregisterFlow key token true) s fun _ s' =>
      s'.log = .erased token :: s.log ∧ s'.listenerFd = s.listenerFd ∧
        s'.receiveBuffer = s.receiveBuffer ∧ s'.tables = { s.tables with
          flowTokensByKey := s.tables.flowTokensByKey.erase key
          flows := s.tables.flows.erase token
          descriptors := s.tables.descriptors.erase flow.fd } := by
  rw [unregisterFlow_true]
  refine runs_modifyTables_bind rfl (fun _ _ _ => rfl) ?_
  refine Runs.gets_bind ?_
  rw [h]
  refine Runs.modify (.single (.erased token rfl fun token' => ?_)) ⟨rfl, rfl, rfl, rfl⟩
  by_cases ht : token' = token
  · rw [if_pos ht, ht, FlowTables.association, Finmap.lookup_erase]
    rfl
  · rw [if_neg ht, FlowTables.association, FlowTables.association, Finmap.lookup_erase_ne ht]
    cases hflow' : s.tables.flows.lookup token' with
    | none => rfl
    | some flow' =>
      rw [Option.map_some, Option.map_some, Finmap.lookup_erase_ne (hapart token' flow' ht hflow')]

/-- The flow is taken out of the index again, and its socket is closed after the report. -/
theorem runs_unregistered (h : Preparing fd base s) (hnew : fd ∉ base.tables.descriptors)
    (hfree : Unowned fd base) {error : Errno} :
    Runs (UdpStep listenEndpoint) (fun _ => Unchanged base)
      (ensure (destroyFd fd) (setupDrop error >>= fun _ => pure false)) s
      fun r s' => r = false ∧ Unchanged base s' := by
  refine Runs.ensure (Q := fun r s' => r = false ∧ Preparing fd base s') (E := fun _ => Preparing fd base)
    ?_ (fun r s₁ _ h₁ => ?_) fun e s₁ _ h₁ => runs_destroyFd h₁ hnew hfree
  · exact Runs.bind (runs_setupDrop Preparing.stable h) fun _ _ _ h₁ => Runs.pure ⟨rfl, h₁⟩
  · exact (runs_destroyFd h₁.2 hnew hfree).post fun _ _ _ h₂ => ⟨h₁.1, h₂⟩

theorem runs_registerFlowIndexesAndSocket (hbase : Consistent options none base)
    (hnew : fd ∉ base.tables.descriptors) (hfree : Unowned fd base)
    (hkey : base.tables.flowTokensByKey.lookup key = none)
    (hroom : Table.size base.tables.flows < options.maxFlows) (h : Preparing fd base s)
    (hready : Prepared key backend fd base s flow) :
    Runs (UdpStep listenEndpoint) (fun _ => Unchanged base)
      (registerFlowIndexesAndSocket key flow.token flow) s fun r s' =>
        if r then Established options key base s' flow else Unchanged base s' := by
  obtain ⟨hfkey, hfbackend, rfl, hfresh, hspent, hconnected⟩ := hready
  have hready : Prepared key backend flow.fd base s flow :=
    ⟨hfkey, hfbackend, rfl, hfresh, hspent, hconnected⟩
  have hflow := hbase.notMem_of_le hfresh
  have hnone : s.tables.flows.lookup flow.token = none := by
    rw [h.flows]
    exact Finmap.lookup_eq_none.mpr hflow
  have hunmapped : key ∉ s.tables.flowTokensByKey := by
    rw [h.flowTokensByKey]
    exact Finmap.lookup_eq_none.mp hkey
  have hfalse : ∀ {r : Bool} {s' : UdpReactor}, r = false ∧ Unchanged base s' →
      if r then Established options key base s' flow else Unchanged base s' := by
    rintro r s' ⟨rfl, h'⟩
    exact h'
  refine Runs.call_bind fun allocated => Runs.ite (fun _ => ?_) fun _ => ?_
  · -- nothing was put in either index
    refine Runs.bind (runs_unregisterFlow_none hnone) ?_
    rintro - s₁ - ⟨hlog, hlistener, hbuffer, htables⟩
    have h₁ : Preparing flow.fd base s₁ := by
      rw [if_neg (by decide)] at htables
      exact Preparing.stable _ _ (Frame.of_eq hlog htables hlistener hbuffer) h
    exact (runs_unregistered h₁ hnew hfree).post fun _ _ _ h' => hfalse h'
  refine runs_modifyTables_bind rfl (fun _ _ _ => rfl) ?_
  rw [Table.emplace_of_notMem hunmapped]
  refine Runs.call_bind fun allocated => Runs.ite (fun _ => ?_) fun _ => ?_
  · -- the key was put in the one index
    refine Runs.bind (runs_unregisterFlow_none hnone) ?_
    rintro - s₁ - ⟨hlog, hlistener, hbuffer, htables⟩
    have h₁ : Preparing flow.fd base s₁ := by
      rw [if_pos rfl, Table.erase_insert hunmapped] at htables
      exact Preparing.stable s _ (Frame.of_eq hlog htables hlistener hbuffer) h
    exact (runs_unregistered h₁ hnew hfree).post fun _ _ _ h' => hfalse h'
  -- the flow is in both
  set socket := s.tables.descriptors.lookup flow.fd
  have hstep : UdpStep listenEndpoint
      { s with tables := { s.tables with
          flowTokensByKey := s.tables.flowTokensByKey.insert key flow.token } }
      { s with
        tables := { s.tables with
          flowTokensByKey := s.tables.flowTokensByKey.insert key flow.token
          flows := Table.emplace s.tables.flows flow.token flow }
        log := .inserted flow socket :: s.log } := by
    refine .inserted flow socket (fun earlier _ hmem => ?_) (fun token association ha => ?_)
      (fun token association ha => ?_) rfl fun token => ?_
    · exact (hbase.inserted (h.inserted _ _ hmem)).trans_le hfresh
    · obtain ⟨flow', hflow', rfl⟩ := Option.map_eq_some_iff.mp ha
      rw [hfkey]
      exact hbase.key_ne hkey (by rwa [← h.flows])
    · obtain ⟨flow', hflow', rfl⟩ := Option.map_eq_some_iff.mp ha
      rw [h.flows] at hflow'
      obtain ⟨serial', hsocket'⟩ := hbase.tables.socket hflow'
      obtain ⟨serial, hnumber, -, hlookup⟩ := hconnected
      have hlt := hbase.tables.numbered hsocket'
      rw [← h.others (hfree _ _ hflow')] at hsocket'
      rw [show s.tables.descriptors.lookup flow'.fd = some (.socket serial' (some flow'.backend)) from hsocket',
        show socket = some (.socket serial (some backend)) from hlookup]
      intro he
      have := (UdpDescriptor.socket.inj (Option.some.inj he)).1
      omega
    · rw [Table.emplace_of_notMem (Finmap.lookup_eq_none.mp hnone), FlowTables.association]
      by_cases ht : token = flow.token
      · rw [if_pos ht, ht, Finmap.lookup_insert]
        rfl
      · rw [if_neg ht, Finmap.lookup_insert_of_ne _ ht]
        rfl
  refine Runs.modify_bind (.single hstep) ?_
  rw [Table.emplace_of_notMem (Finmap.lookup_eq_none.mp hnone)]
  have hlater : Later s.log (.inserted flow socket :: s.log) := .cons (.inserted flow socket) not_false s.log
  refine Runs.call_bind fun answer => ?_
  cases answer with
  | ok _ =>
    refine Runs.pure ?_
    rw [if_pos rfl]
    refine established hbase hnew hkey hroom h hready
      ⟨rfl, rfl, fun o ho => ho.cons rfl rfl, hlater⟩ (by rw [h.flowTokensByKey])
      (by rw [h.flows]) rfl rfl rfl fun earlier socket hmem => ?_
    exact (List.mem_cons.mp hmem).imp_left fun he => (UdpEvent.inserted.inj he).1
  | error error =>
    refine Runs.bind (runs_unregisterFlow_some (Finmap.lookup_insert _) fun token' flow' hne hflow' => ?_) ?_
    · rw [Finmap.lookup_insert_of_ne _ hne, h.flows] at hflow'
      exact hfree token' flow' hflow'
    rintro - s₁ - ⟨hlog, hlistener, hbuffer, htables⟩
    have hunchanged : Unchanged base s₁ := by
      refine Unchanged.of_tables h hnew ⟨hlistener, hbuffer, fun o ho => ?_, ?_⟩
        (fun hmem => ?_) ?_ ?_ ?_ ?_ ?_
      · exact Owes.cons (s := { s with log := .inserted flow socket :: s.log }) (ho.cons rfl rfl) hlog rfl
      · rw [hlog]
        exact hlater.trans (.cons (.erased flow.token) not_false _)
      · rw [hlog] at hmem
        rw [htables]
        rcases List.mem_cons.mp hmem with he | hmem
        · cases he
        · refine (List.mem_cons.mp hmem).symm.imp_right fun he => ?_
          rw [(UdpEvent.inserted.inj he).1]
          exact hspent
      · rw [htables, ← h.flowTokensByKey]
        exact Table.erase_insert hunmapped _
      · rw [htables, ← h.flows]
        exact Table.erase_insert (Finmap.lookup_eq_none.mp hnone) _
      · rw [htables]
      · rw [htables]
      · rw [htables]
    refine Runs.ite (fun _ => Runs.raise hunchanged) fun _ => ?_
    refine Runs.bind (runs_setupDrop Unchanged.stable hunchanged) fun _ s₂ _ h₂ => Runs.pure ?_
    exact hfalse ⟨rfl, h₂⟩

theorem Consistent.unowned {loose : Option ℕ} (h : Consistent options loose s)
    (hnew : fd ∉ s.tables.descriptors) : Unowned fd s := by
  rintro token flow hflow rfl
  obtain ⟨serial, hsocket⟩ := h.tables.socket hflow
  rw [Finmap.lookup_eq_none.mpr hnew] at hsocket
  cases hsocket

/-- A new socket is no flow's. -/
theorem runs_openSocket {E : UdpError → UdpReactor → Prop} (h : Consistent options none s) :
    Runs (UdpStep listenEndpoint) E (openDescriptor (.socket · none)) s fun r s' =>
      match r with
      | .error _ => Unchanged s s'
      | .ok fd => fd ∉ s.tables.descriptors ∧ Preparing fd s s' ∧
          ∃ peer, NewSocket fd peer s s' := by
  refine Runs.call_bind fun answer => Runs.gets_bind ?_
  cases answer with
  | error error => exact Runs.pure (Unchanged.refl s)
  | ok fd =>
    refine Runs.ite (fun _ => Runs.pure (Unchanged.refl s)) fun hnew => ?_
    refine runs_modifyTables_bind rfl (fun token flow hflow => ?_) (Runs.pure ⟨hnew, ?_, none, ?_⟩)
    · exact Finmap.lookup_insert_of_ne _ (h.unowned hnew token flow hflow)
    · exact ⟨.of_eq rfl rfl rfl, rfl, rfl, fun hne => Finmap.lookup_insert_of_ne _ hne, le_refl _,
        Nat.le_succ _, NoneInserted.refl s⟩
    · exact ⟨s.tables.sockets, le_refl _, Nat.lt_succ_self _, Finmap.lookup_insert _⟩

/-- A selection changes nothing. -/
theorem Unchanged.selected (h : Unchanged base s) (selected : Option Endpoint) :
    Unchanged base (s.record (.selected selected)) :=
  Unchanged.stable s _ (UdpEvent.Plain.frame (show UdpEvent.Plain (.selected selected) from trivial)) h

theorem runs_establishFlow (h : Consistent options none s)
    (hkey : s.tables.flowTokensByKey.lookup key = none) :
    Runs (UdpStep listenEndpoint) (fun _ => Unchanged s) (establishFlow options key) s fun r s' =>
      (r = none → Unchanged s s') ∧ ∀ flow, r = some flow → Established options key s s' flow := by
  have hnone : ∀ {s' : UdpReactor}, Unchanged s s' → ((none : Option UdpFlow) = none → Unchanged s s') ∧
      ∀ flow, none = some flow → Established options key s s' flow := fun h => ⟨fun _ => h, fun _ => nofun⟩
  have hrefl := Unchanged.refl s
  refine Runs.gets_bind (Runs.ite (fun _ => ?_) fun hroom => Runs.call_bind fun answer => ?_)
  · refine Runs.bind (runs_reportStatEvent rfl Unchanged.stable hrefl) fun _ s₁ _ h₁ => ?_
    exact Runs.bind (runs_reportDiagnostic Unchanged.stable h₁) fun _ _ _ h₂ => Runs.pure (hnone h₂)
  cases answer with
  | error exception => exact Runs.raise hrefl
  | ok selected =>
  have hselected := hrefl.selected selected
  refine Runs.modify_bind (UdpStep.plain (show UdpEvent.Plain (.selected selected) from trivial)) ?_
  cases selected with
  | none =>
    exact Runs.bind (runs_reportStatEvent rfl Unchanged.stable hselected) fun _ _ _ h₁ =>
      Runs.pure (hnone h₁)
  | some backend =>
  set s₀ := s.record (.selected (some backend)) with hs₀
  have h₀ : Consistent options none s₀ := hselected.consistent h
  -- what is unchanged from here on is unchanged from the start
  have hold : ∀ {flow socket}, .inserted flow socket ∈ s₀.log → .inserted flow socket ∈ s.log :=
    fun hmem => (List.mem_cons.mp hmem).resolve_left nofun
  have hback : ∀ {s'}, Unchanged s₀ s' → Unchanged s s' := fun h' =>
    ⟨hselected.toRest.trans h'.toRest, ⟨h'.restored.1, h'.restored.2, h'.restored.3⟩, h'.next,
      h'.sockets, fun hmem => (h'.inserted hmem).imp_left hold⟩
  refine Runs.mono (E := fun _ => Unchanged s₀) (Q := fun r s' =>
    (r = none → Unchanged s₀ s') ∧ ∀ flow, r = some flow → Established options key s₀ s' flow)
    ?_ (fun _ _ _ => hback) fun r s' _ h' => ⟨fun hr => hback (h'.1 hr), fun flow hr => ?_⟩
  · refine Runs.bind (runs_openSocket h₀) fun r s₁ _ h₁ => ?_
    cases r with
    | error error =>
      exact runs_setupDrop_none Unchanged.stable h₁ fun _ h₂ => ⟨fun _ => h₂, fun _ => nofun⟩
    | ok fd =>
    obtain ⟨hnew, hpreparing, hsocket⟩ := h₁
    have hfree := h₀.unowned hnew
    refine Runs.bind (runs_owning hnew hfree (runs_prepareFlow hpreparing hfree hsocket))
      fun r s₂ _ h₂ => ?_
    cases r with
    | none => exact Runs.pure ⟨fun _ => h₂.1 rfl, fun _ => nofun⟩
    | some flow =>
      obtain ⟨hpreparing, hready⟩ := h₂.2 flow rfl
      refine Runs.bind (runs_registerFlowIndexesAndSocket h₀ hnew hfree hkey (not_le.mp hroom) hpreparing
        hready) fun registered s₃ _ h₃ => Runs.ite (fun hr => Runs.pure ?_) fun hr => Runs.pure ?_
      · rw [if_pos hr] at h₃
        refine ⟨nofun, fun flow' hflow' => ?_⟩
        obtain rfl := Option.some.inj hflow'
        exact h₃
      · rw [if_neg hr] at h₃
        exact ⟨fun _ => h₃, fun _ => nofun⟩
  · have he := h'.2 flow hr
    exact ⟨hselected.toRest.trans he.toRest, he.consistent, he.flows, he.key, he.token, he.fresh, he.unused,
      he.others⟩

/-- Whatever came and went, the tables agree, and no datagram was moved. -/
structure Kept (options : UdpReactorOptions) (s s' : UdpReactor) : Prop extends Rest s s' where
  /-- The tables agree. -/
  consistent : Consistent options none s'

theorem Kept.stable : Stable (Kept options base) := fun s₁ s₂ hf h =>
  ⟨h.toRest.trans hf.rest, Consistent.stable s₁ s₂ hf h.consistent⟩

theorem Swept.kept (h : Swept options s s') : Kept options s s' := ⟨h.toRest, h.consistent⟩

/-- The flow for a key is in the tables. -/
def Found (key : UdpFlowKey) (token : ℕ) (s : UdpReactor) : Prop :=
  ∃ flow, s.tables.flows.lookup token = some flow ∧ flow.key = key

theorem Found.stable {token : ℕ} : Stable (Found key token) := fun s₁ s₂ hf h => by
  obtain ⟨flow, hflow, hkey⟩ := h
  exact ⟨flow, by rwa [hf.tables], hkey⟩

/-- A creation that failed is noted. -/
theorem runs_recordAbandoned {before : FlowTables} {E : UdpError → UdpReactor → Prop}
    (hbase : Consistent options none base) (h : Unchanged base s) (hbefore : before = base.tables) :
    Runs (UdpStep listenEndpoint) E (recordAbandoned key before) s fun _ => Kept options base := by
  have hkept : Kept options base (s.record (.abandoned key before s.tables)) := by
    refine ⟨⟨h.listenerFd, h.receiveBuffer, fun o ho => (h.owes o ho).cons rfl rfl,
      h.later.trans (.cons (.abandoned key before s.tables) not_false _)⟩, ?_⟩
    have hs := h.consistent hbase
    exact ⟨hs.tables, hs.listener, fun hmem => hs.inserted ((List.mem_cons.mp hmem).resolve_left nofun)⟩
  refine Runs.modify (.single (.happened (.abandoned key before s.tables) ?_ rfl rfl)) hkept
  rw [hbefore]
  exact h.restored

theorem runs_createFlow (h : Consistent options none s)
    (hkey : s.tables.flowTokensByKey.lookup key = none) :
    Runs (UdpStep listenEndpoint) (fun _ => Kept options s) (createFlow options key) s fun token s' =>
      Kept options s s' ∧ (token ≠ 0 → Found key token s') := by
  refine Runs.bind ((runs_expireIdleFlows h).mono (fun _ _ _ h' => h'.kept) fun _ _ _ h' => h')
    fun _ s₁ _ h₁ => Runs.gets_bind ?_
  have htrans : ∀ {s' : UdpReactor}, Kept options s₁ s' → Kept options s s' := fun h' =>
    ⟨h₁.toRest.trans h'.toRest, h'.consistent⟩
  refine Runs.bind (Runs.handle (runs_establishFlow h₁.consistent (h₁.unmapped h hkey))
    fun e s₂ _ h₂ => ?_) fun established s₂ _ h₂ => ?_
  · exact Runs.bind (runs_recordAbandoned h₁.consistent h₂ rfl) fun _ _ _ h₃ => Runs.raise (htrans h₃)
  · cases established with
    | none =>
      exact Runs.bind (runs_recordAbandoned h₁.consistent (h₂.1 rfl) rfl) fun _ _ _ h₃ =>
        Runs.pure ⟨htrans h₃, fun hne => absurd rfl hne⟩
    | some flow =>
      have he := h₂.2 flow rfl
      have hstable : Stable fun s' => Kept options s s' ∧ Found key flow.token s' := fun s₁ s₂ hf h =>
        ⟨Kept.stable _ _ hf h.1, Found.stable _ _ hf h.2⟩
      have hdone : Kept options s s₂ ∧ Found key flow.token s₂ :=
        ⟨⟨h₁.toRest.trans he.toRest, he.consistent⟩, flow, by rw [he.flows, Finmap.lookup_insert], he.key⟩
      refine Runs.mono (E := fun _ s' => Kept options s s' ∧ Found key flow.token s') ?_
        (fun _ _ _ h' => h'.1) fun _ _ _ h' => h'
      refine Runs.bind (runs_reportStatEvent rfl hstable hdone) fun _ s₃ _ h₃ => ?_
      refine Runs.bind (runs_reportObservation hstable h₃) fun _ s₄ _ h₄ => ?_
      refine Runs.bind (runs_notify trivial hstable h₄) fun _ s₅ _ h₅ => Runs.pure ⟨h₅.1, fun _ => h₅.2⟩

end L4lb.Net
