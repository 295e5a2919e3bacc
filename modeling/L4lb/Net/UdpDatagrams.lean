import L4lb.Net.UdpFlows

/-!
# How the UDP reactor moves datagrams

One lemma for each method that takes datagrams or sends them on, up to the whole of
`runUdpReactor`. Every datagram taken is accounted for before the method that took it is
left, and the tables agree then (`Settled`). One way out is different: the datagram is
forfeited when the observation callback throws as the expired flow of its key is closed
(`Ended`).
-/

namespace L4lb.Net

open Effect Prog Relation

variable {listenEndpoint : Endpoint} {options : UdpReactorOptions} {s s' base : UdpReactor} {fd : ℕ}
  {key : UdpFlowKey} {flow : UdpFlow}

/-! ### Moving a datagram -/

/-- The tables agree, and every datagram is accounted for. -/
structure Settled (options : UdpReactorOptions) (s : UdpReactor) : Prop where
  /-- The tables agree. -/
  consistent : Consistent options none s
  /-- Nothing is owed. -/
  owes : Owes s .nothing

theorem Settled.stable : Stable (Settled options) := fun s₁ s₂ hf h =>
  ⟨Consistent.stable s₁ s₂ hf h.consistent, hf.owes _ h.owes⟩

theorem Kept.settled (h : Kept options s s') (hs : Owes s .nothing) : Settled options s' :=
  ⟨h.consistent, h.owes _ hs⟩

theorem Unmoved.consistent (h : Unmoved s s') (hs : Consistent options none s) :
    Consistent options none s' :=
  ⟨by rw [h.tables]; exact hs.tables, by rw [h.tables, h.listenerFd]; exact hs.listener,
    fun hmem => by rw [h.tables]; exact hs.inserted (h.inserted _ _ hmem)⟩

/-- The datagram taken last came whole and with a key, and a flow was found to have expired for it; as that
was closed, the observation callback threw. -/
def Forfeited (listenEndpoint : Endpoint) (options : UdpReactorOptions) (log : List UdpEvent) : Prop :=
  ∃ receipt key token last time, lastReceived log = some (some .listener, receipt) ∧
    parsePacketMetadata listenEndpoint receipt = some key ∧
    .checked token last time ∈ sinceReceived log ∧ time - last ≥ options.idleTimeout ∧
    .closing token "idle-timeout" ∈ sinceReceived log ∧
    ∃ fd flows tokens, ThrewAt (.observation "idle-timeout" token fd flows tokens) log

theorem Forfeited.later {log log' : List UdpEvent} (h : Forfeited listenEndpoint options log) (hlater : Later log log') :
    Forfeited listenEndpoint options log' := by
  obtain ⟨receipt, key, token, last, time, hlast, hkey, hchecked, hexpired, hclosing, fd, flows, tokens, hthrew⟩ := h
  exact ⟨receipt, key, token, last, time, hlater.received.trans hlast, hkey, hlater.since.subset hchecked, hexpired,
    hlater.since.subset hclosing, fd, flows, tokens, hthrew.later hlater⟩

/-- Nothing is owed, or the datagram that is was forfeited. -/
def Accounts (listenEndpoint : Endpoint) (options : UdpReactorOptions) (s : UdpReactor) : Prop :=
  Owes s .nothing ∨ (∃ length, Owes s (.datagram .c2b length)) ∧ Forfeited listenEndpoint options s.log

theorem Rest.accounts (h : Rest s s') (hs : Accounts listenEndpoint options s) : Accounts listenEndpoint options s' := by
  refine hs.imp (h.owes _) ?_
  rintro ⟨⟨length, howes⟩, hforfeited⟩
  exact ⟨⟨length, h.owes _ howes⟩, hforfeited.later h.later⟩

/-- What a method leaves that throws. -/
structure Ended (listenEndpoint : Endpoint) (options : UdpReactorOptions) (s : UdpReactor) : Prop where
  /-- The tables agree. -/
  consistent : Consistent options none s
  /-- Every datagram is accounted for, or forfeited. -/
  accounts : Accounts listenEndpoint options s

theorem Settled.ended (h : Settled options s) : Ended listenEndpoint options s := ⟨h.consistent, .inl h.owes⟩

/-- A method that settles even where it throws. -/
theorem runs_ended {α : Type} {m : UdpM α} {Q : α → UdpReactor → Prop}
    (h : Runs (UdpStep listenEndpoint) (fun _ => Settled options) m s Q) :
    Runs (UdpStep listenEndpoint) (fun _ => Ended listenEndpoint options) m s Q :=
  h.mono (fun _ _ _ h' => h'.ended) fun _ _ _ h' => h'

/-- A datagram is dropped. -/
theorem runs_drop {direction : Direction} {length : ℕ} (hs : Consistent options none s)
    (howes : Owes s (.datagram direction length)) :
    Runs (UdpStep listenEndpoint) (fun _ => Settled options) (reportStatEvent .dropped) s
      fun _ => Settled options := by
  have hkind : ∀ kind : StatKind, kind = direction.bytes → kind ≠ .dropped := by
    rintro _ rfl
    cases direction <;> decide
  refine (runs_account Settled.stable howes rfl ?_ fun s' h' ho' => ⟨h'.consistent hs, ho'⟩).mono
    (fun _ _ _ h => h.1) fun _ _ _ h => h
  rw [Owed.settle, if_neg fun he => hkind _ (congrArg StatEvent.kind he) rfl, if_pos rfl]

/-- A datagram is dropped, and why is told. -/
theorem runs_drop_diagnostic {α : Type} {direction : Direction} {length : ℕ} {kind : String} {a : α}
    {Q : α → UdpReactor → Prop} (hs : Consistent options none s)
    (howes : Owes s (.datagram direction length)) (hQ : ∀ s', Settled options s' → Q a s') :
    Runs (UdpStep listenEndpoint) (fun _ => Settled options)
      (do reportStatEvent .dropped; reportDiagnostic kind; pure a : UdpM α) s Q :=
  Runs.bind (runs_drop hs howes) fun _ _ _ h₁ =>
    Runs.bind (runs_reportDiagnostic Settled.stable h₁) fun _ _ _ h₂ => Runs.pure (hQ _ h₂)

/-- The bytes of a datagram are counted. -/
theorem runs_countBytes {P : UdpReactor → Prop} {direction : Direction} {length : ℕ} (hP : Stable P)
    (howes : Owes s (.datagram direction length))
    (h : ∀ s', Unmoved s s' → Owes s' (.bytes direction) → P s') :
    Runs (UdpStep listenEndpoint) (Thrown P) (reportStatEvent direction.bytes length) s fun _ => P := by
  refine runs_account hP howes ?_ ?_ h
  · cases direction <;> rfl
  · rw [Owed.settle, if_pos rfl]

/-- The datagram itself is counted. -/
theorem runs_countDatagram {P : UdpReactor → Prop} {direction : Direction} (hP : Stable P)
    (howes : Owes s (.bytes direction)) (h : ∀ s', Unmoved s s' → Owes s' .nothing → P s') :
    Runs (UdpStep listenEndpoint) (Thrown P) (reportStatEvent direction.datagram) s fun _ => P := by
  refine runs_account hP howes ?_ ?_ h
  · cases direction <;> rfl
  · rw [Owed.settle, if_pos rfl]

theorem runs_handleSocketError {code : Errno} {listener : Bool} {token : ℕ} {kind : String}
    (h : Kept options base s) :
    Runs (UdpStep listenEndpoint) (fun _ => Kept options base) (handleSocketError code listener token kind) s
      fun _ => Kept options base := by
  have herror : Runs (UdpStep listenEndpoint) (fun _ => Kept options base)
      (when (code ≠ .EAGAIN ∧ code ≠ .EWOULDBLOCK ∧ code ≠ .EINTR) (reportStatEvent .error)) s
      fun _ => Kept options base :=
    Runs.when (fun _ => runs_reportStatEvent rfl Kept.stable h) fun _ => h
  have hgoOn : Runs (UdpStep listenEndpoint) (fun _ => Kept options base)
      (do
        when (code ≠ .EAGAIN ∧ code ≠ .EWOULDBLOCK ∧ code ≠ .EINTR) (reportStatEvent .error)
        reportDiagnostic kind code
        pure true : UdpM Bool) s fun _ => Kept options base :=
    Runs.bind herror fun _ _ _ h₁ =>
      Runs.bind (runs_reportDiagnostic Kept.stable h₁) fun _ _ _ h₂ => Runs.pure h₂
  refine Runs.ite (fun _ => Runs.raise h) fun _ => Runs.ite (fun _ => ?_) fun _ => Runs.ite (fun _ => hgoOn)
    fun _ => ?_
  · exact Runs.ite (fun _ => Runs.raise h) fun _ => hgoOn
  · refine Runs.bind herror fun _ s₁ _ h₁ => ?_
    have hclosed : ∀ {s₂ : UdpReactor}, Closed token s₁ s₂ → Kept options base s₂ := fun h₂ =>
      ⟨h₁.toRest.trans h₂.toRest, h₂.consistent h₁.consistent⟩
    exact Runs.bind ((runs_closeFlow h₁.consistent).mono (fun _ _ _ => hclosed) fun _ _ _ => hclosed)
      fun _ _ _ h₂ => Runs.pure h₂

/-- The way of what is sent. -/
def sendDirection (reply : Bool) : Direction := if reply then .b2c else .c2b

/-- The datagram in the buffer is to go by a flow. -/
structure Sending (listenEndpoint : Endpoint) (options : UdpReactorOptions) (flow : UdpFlow)
    (size : ℕ) (reply : Bool) (s : UdpReactor) : Prop where
  /-- The tables agree. -/
  consistent : Consistent options none s
  /-- The flow is there. -/
  lookup : s.tables.flows.lookup flow.token = some flow
  /-- The datagram is not yet accounted for. -/
  owes : Owes s (.datagram (sendDirection reply) size)
  /-- It is the last one taken, the whole of it, and belongs to the flow. -/
  whole : ∃ source receipt, lastReceived s.log = some (source, receipt) ∧
    s.receiveBuffer.take size = receipt.datagram ∧
      if reply then source = s.tables.descriptors.lookup flow.fd
      else source = some .listener ∧ parsePacketMetadata listenEndpoint receipt = some flow.key

theorem Sending.stable {size : ℕ} {reply : Bool} :
    Stable (Sending listenEndpoint options flow size reply) := fun s₁ s₂ hf h => by
  refine ⟨Consistent.stable s₁ s₂ hf h.consistent, by rw [hf.tables, h.lookup], hf.owes _ h.owes, ?_⟩
  rw [hf.later.received, hf.receiveBuffer, hf.tables]
  exact h.whole

theorem Sending.justified {size : ℕ} {reply : Bool} (h : Sending listenEndpoint options flow size reply s) :
    Justified listenEndpoint s.log s.tables.association
      (s.tables.descriptors.lookup (if reply then s.listenerFd else flow.fd))
      (flowMessage flow (s.receiveBuffer.take size) reply) := by
  obtain ⟨source, receipt, hlast, hpayload, hcase⟩ := h.whole
  obtain ⟨serial, hsocket⟩ := h.consistent.tables.socket h.lookup
  refine ⟨source, receipt, flow.token, _, hlast, ?_, FlowTables.association_of_lookup h.lookup,
    ⟨serial, hsocket⟩, ?_⟩
  · cases reply <;> exact hpayload
  · cases reply with
    | false => exact .inl ⟨hcase.1, hcase.2, rfl, rfl, rfl⟩
    | true => exact .inr ⟨hcase, h.consistent.listener, rfl, rfl⟩

theorem FlowTables.recordSubmission_of_lookup {tables : FlowTables} {token : ℕ} {now : Time}
    (h : tables.flows.lookup token = some flow) : tables.recordSubmission token now = { tables with
      flows := tables.flows.insert token { flow with deadline := ⟨now⟩ } } := by
  unfold recordSubmission
  rw [h]
  rfl

/-- A flow sent on keeps its place in the tables. -/
theorem FlowTables.Consistent.recordSubmission {tables : FlowTables} {loose : Option ℕ} {token : ℕ}
    {now : Time} (h : tables.Consistent options loose) (hflow : tables.flows.lookup token = some flow) :
    (tables.recordSubmission token now).Consistent options loose := by
  rw [recordSubmission_of_lookup hflow]
  have hlookup : ∀ {token' flow'}, (tables.flows.insert token { flow with deadline := ⟨now⟩ }).lookup token' = some flow' →
      ∃ before, tables.flows.lookup token' = some before ∧ before.key = flow'.key ∧
        before.backend = flow'.backend ∧ before.fd = flow'.fd ∧ before.token = flow'.token := by
    intro token' flow' hflow'
    by_cases ht : token' = token
    · rw [ht, Finmap.lookup_insert] at hflow'
      obtain rfl := Option.some.inj hflow'
      exact ⟨flow, by rw [ht, hflow], rfl, rfl, rfl, rfl⟩
    · rw [Finmap.lookup_insert_of_ne _ ht] at hflow'
      exact ⟨flow', hflow', rfl, rfl, rfl, rfl⟩
  have hafter : ∀ {token' before}, tables.flows.lookup token' = some before →
      ∃ flow', (tables.flows.insert token { flow with deadline := ⟨now⟩ }).lookup token' = some flow' ∧
        flow'.key = before.key ∧ flow'.fd = before.fd := by
    intro token' before hbefore
    by_cases ht : token' = token
    · rw [ht, hflow] at hbefore
      obtain rfl := Option.some.inj hbefore
      refine ⟨{ flow with deadline := ⟨now⟩ }, ?_, rfl, rfl⟩
      rw [ht, Finmap.lookup_insert]
    · exact ⟨before, by rw [Finmap.lookup_insert_of_ne _ ht, hbefore], rfl, rfl⟩
  refine ⟨fun key token' => (h.index key token').trans ⟨?_, ?_⟩, fun hflow' => ?_, ?_, h.next_ge,
    fun hflow' => ?_, fun hfd => ?_, fun hflow' => ?_, fun h₁ h₂ he => ?_, h.numbered, h.distinct⟩
  · rintro ⟨before, hbefore, rfl⟩
    obtain ⟨flow', hflow', hkey, -⟩ := hafter hbefore
    exact ⟨flow', hflow', hkey⟩
  · rintro ⟨flow', hflow', rfl⟩
    obtain ⟨before, hbefore, hkey, -⟩ := hlookup hflow'
    exact ⟨before, hbefore, hkey⟩
  · obtain ⟨before, hbefore, -, -, -, htoken⟩ := hlookup hflow'
    rw [← htoken]
    exact h.token hbefore
  · rw [Table.size_insert_of_mem (Finmap.mem_of_lookup_eq_some hflow)]
    exact h.capacity
  · obtain ⟨before, hbefore, -, hbackend, hfd, -⟩ := hlookup hflow'
    rw [← hbackend, ← hfd]
    exact h.socket hbefore
  · refine (h.owner hfd).imp_right ?_
    rintro ⟨token', before, hbefore, rfl⟩
    obtain ⟨flow', hflow', -, hfd⟩ := hafter hbefore
    exact ⟨token', flow', hflow', hfd⟩
  · obtain ⟨before, hbefore, -, -, hfd, -⟩ := hlookup hflow'
    rw [← hfd]
    exact h.held hbefore
  · obtain ⟨before₁, hbefore₁, -, -, hfd₁, -⟩ := hlookup h₁
    obtain ⟨before₂, hbefore₂, -, -, hfd₂, -⟩ := hlookup h₂
    exact h.apart hbefore₁ hbefore₂ (by rw [hfd₁, hfd₂, he])

theorem FlowTables.association_recordSubmission {tables : FlowTables} {token : ℕ} {now : Time}
    (hflow : tables.flows.lookup token = some flow) (token' : ℕ) :
    (tables.recordSubmission token now).association token' = tables.association token' := by
  rw [recordSubmission_of_lookup hflow, association, association]
  by_cases ht : token' = token
  · rw [ht, Finmap.lookup_insert, hflow]
    rfl
  · rw [Finmap.lookup_insert_of_ne _ ht]

theorem runs_sendAttempt {size : ℕ} {reply : Bool}
    (h : Sending listenEndpoint options flow size reply s ∧
      fd = if reply then s.listenerFd else flow.fd) :
    Runs (UdpStep listenEndpoint) (fun _ => Settled options) (sendAttempt flow fd size reply) s
      (Runs.Pass (fun s' => Sending listenEndpoint options flow size reply s' ∧
        fd = if reply then s'.listenerFd else flow.fd) fun _ => Settled options) := by
  obtain ⟨h, rfl⟩ := h
  refine Runs.gets_bind ?_
  set s₁ := s.record (.handed (s.tables.descriptors.lookup (if reply then s.listenerFd else flow.fd))
    (flowMessage flow (s.receiveBuffer.take size) reply)) with hs₁
  have h₁ : Sending listenEndpoint options flow size reply s₁ :=
    ⟨⟨h.consistent.tables, h.consistent.listener, fun hmem => h.consistent.inserted
      ((List.mem_cons.mp hmem).resolve_left nofun)⟩, h.lookup, h.owes.cons rfl rfl, h.whole⟩
  have hstep : UdpStep listenEndpoint s s₁ := .happened (.handed _ _) h.justified rfl rfl
  refine Runs.modify_bind (.single hstep) (Runs.call_bind fun answer => ?_)
  have hreports : ∀ {direction : Direction}, sendDirection reply = direction →
      (if reply then StatKind.bytesB2c else .bytesC2b) = direction.bytes ∧
        (if reply then StatKind.datagramB2c else .datagramC2b) = direction.datagram := by
    rintro _ rfl
    cases reply <;> exact ⟨rfl, rfl⟩
  obtain ⟨hbytes, hdatagram⟩ := hreports rfl
  have hanswered : (UdpEvent.answered flow.token size answer).Plain := trivial
  have h₁ := Sending.stable s₁ _ hanswered.frame h₁
  refine Runs.modify_bind (UdpStep.plain hanswered) ?_
  cases answer with
  | ok sentBytes =>
    refine Runs.ite (fun _ => ?_) fun _ => ?_
    · -- the bytes, then the datagram, then the time it was sent
      rw [hbytes, hdatagram]
      have hcounted : Stable fun s' => Consistent options none s' ∧
          s'.tables.flows.lookup flow.token = some flow ∧ Owes s' (.bytes (sendDirection reply)) :=
        fun s₁ s₂ hf h => ⟨Consistent.stable s₁ s₂ hf h.1, by rw [hf.tables, h.2.1], hf.owes _ h.2.2⟩
      have hdelivered : Stable fun s' => Settled options s' ∧
          s'.tables.flows.lookup flow.token = some flow :=
        fun s₁ s₂ hf h => ⟨Settled.stable s₁ s₂ hf h.1, by rw [hf.tables, h.2]⟩
      refine Runs.bind ((runs_countBytes hcounted h₁.owes fun s' h' ho' =>
        ⟨h'.consistent h₁.consistent, by rw [h'.tables, h₁.lookup], ho'⟩).mono
          (fun _ _ _ h' => ⟨h'.1.1, .inl h'.2⟩) fun _ _ _ h' => h') fun _ s₂ _ h₂ => ?_
      refine Runs.bind ((runs_countDatagram hdelivered h₂.2.2 fun s' h' ho' =>
        ⟨⟨h'.consistent h₂.1, ho'⟩, by rw [h'.tables, h₂.2.1]⟩).mono
          (fun _ _ _ h' => h'.1.1) fun _ _ _ h' => h') fun _ s₃ _ h₃ => ?_
      refine Runs.bind (runs_currentTime hdelivered h₃) fun time s₄ _ h₄ => ?_
      have hrefreshed : (UdpEvent.refreshed flow.token time).Plain := trivial
      have hsubmitted : Settled options (s₄.refresh flow.token time) := by
        obtain ⟨⟨hconsistent, howes⟩, hlookup⟩ := hdelivered s₄ _ hrefreshed.frame h₄
        have hof : s₄.tables.recordSubmission flow.token time = _ := FlowTables.recordSubmission_of_lookup hlookup
        refine ⟨⟨hconsistent.tables.recordSubmission hlookup, ?_, fun hmem => ?_⟩, howes⟩
        · change (s₄.tables.recordSubmission flow.token time).descriptors.lookup s₄.listenerFd = _
          rw [hof]
          exact hconsistent.listener
        · change _ < (s₄.tables.recordSubmission flow.token time).nextFlowToken
          rw [hof]
          exact hconsistent.inserted hmem
      refine Runs.modify_bind (.tail (UdpStep.plain hrefreshed)
        (.quiet rfl (FlowTables.association_recordSubmission h₄.2))) ?_
      exact Runs.bind (runs_reportObservation Settled.stable hsubmitted) fun _ _ _ h₅ => Runs.pure h₅
    · refine Runs.bind ((runs_reportStatEvent_thrown rfl Sending.stable h₁).mono
        (fun _ _ _ h' => ⟨h'.1.consistent, .inl h'.2⟩) fun _ _ _ h' => h') fun _ s₂ _ h₂ => ?_
      exact runs_drop_diagnostic h₂.consistent h₂.owes fun _ h₃ => h₃
  | error error =>
    refine Runs.ite (fun _ => Runs.pure ⟨h₁, rfl⟩) fun _ => ?_
    refine Runs.bind (runs_drop h₁.consistent h₁.owes) fun _ s₂ _ h₂ => ?_
    have hkept : Kept options s₂ s₂ := ⟨Rest.refl s₂, h₂.consistent⟩
    have hsettled : ∀ {s₃ : UdpReactor}, Kept options s₂ s₃ → Settled options s₃ := fun h₃ =>
      h₃.settled h₂.owes
    exact Runs.bind ((runs_handleSocketError hkept).mono (fun _ _ _ => hsettled) fun _ _ _ => hsettled)
      fun _ _ _ h₃ => Runs.pure h₃

theorem runs_sendFlowDatagram {size : ℕ} {reply : Bool}
    (h : Sending listenEndpoint options flow size reply s) :
    Runs (UdpStep listenEndpoint) (fun _ => Settled options) (sendFlowDatagram flow size reply) s
      fun _ => Settled options := by
  refine Runs.gets_bind ?_
  refine Runs.bind (Runs.attempts (Q := fun _ => Settled options) (fun s' =>
    Sending listenEndpoint options flow size reply s' ∧
      (if reply then s.listenerFd else flow.fd) = if reply then s'.listenerFd else flow.fd)
    (fun s' h' => runs_sendAttempt h') 4 ⟨h, rfl⟩) fun r s₁ _ h₁ => ?_
  cases r with
  | some _ => exact Runs.pure h₁
  | none =>
    refine Runs.bind (runs_drop h₁.1.consistent h₁.1.owes) fun _ _ _ h₂ => ?_
    exact runs_reportDiagnostic Settled.stable h₂

/-! ### Receiving -/

/-- A datagram was taken and is not yet accounted for. -/
structure Taken (options : UdpReactorOptions) (source : Option UdpDescriptor) (receipt : UdpReceipt)
    (s : UdpReactor) : Prop where
  /-- The tables agree. -/
  consistent : Consistent options none s
  /-- It is owed. -/
  owes : Owes s (.datagram (sourceDirection source) receipt.datagram.length)
  /-- It is the last one. -/
  last : lastReceived s.log = some (source, receipt)
  /-- As much of it as was taken is in the buffer. -/
  buffer : s.receiveBuffer.take (receipt.datagram.take options.receiveSize).length =
    receipt.datagram.take options.receiveSize

theorem Taken.stable {source : Option UdpDescriptor} {receipt : UdpReceipt} :
    Stable (Taken options source receipt) := fun s₁ s₂ hf h =>
  ⟨Consistent.stable s₁ s₂ hf h.consistent, hf.owes _ h.owes, by rw [hf.later.received, h.last],
    by rw [hf.receiveBuffer, h.buffer]⟩

theorem Taken.kept {source : Option UdpDescriptor} {receipt : UdpReceipt}
    (h : Taken options source receipt s) (hk : Kept options s s') : Taken options source receipt s' :=
  ⟨hk.consistent, hk.owes _ h.owes, by rw [hk.received, h.last], by rw [hk.receiveBuffer, h.buffer]⟩

/-- Once a callback has thrown, nothing is owed. -/
theorem Consistent.settled (h : Consistent options none s) (hthrew : Threw s.log) : Settled options s :=
  ⟨h, .inl hthrew⟩

/-- What was taken whole is in the buffer whole. -/
theorem Taken.whole {source : Option UdpDescriptor} {receipt : UdpReceipt}
    (h : Taken options source receipt s)
    (hwhole : ¬ (receipt.flaggedTruncated options.receiveSize ∨
      receipt.receivedBytes options.receiveSize > kUdpPayloadLimit)) :
    receipt.receivedBytes options.receiveSize = receipt.datagram.length ∧
      s.receiveBuffer.take (receipt.receivedBytes options.receiveSize) = receipt.datagram := by
  obtain ⟨htruncated, hlimit⟩ := not_or.mp hwhole
  have hlen : receipt.datagram.length ≤ options.receiveSize := by
    simp only [UdpReceipt.flaggedTruncated, Bool.or_eq_true, decide_eq_true_eq, not_or, not_lt] at htruncated
    exact htruncated.2
  have hreported : receipt.receivedBytes options.receiveSize =
      (receipt.datagram.take options.receiveSize).length := by
    unfold UdpReceipt.receivedBytes at hlimit ⊢
    cases hexcess : receipt.excess with
    | none => rfl
    | some n =>
      rw [hexcess] at hlimit
      exact absurd (show kUdpPayloadLimit + 1 + n > kUdpPayloadLimit by omega) hlimit
  have htake : receipt.datagram.take options.receiveSize = receipt.datagram := List.take_of_length_le hlen
  rw [hreported, h.buffer, htake]
  exact ⟨rfl, rfl⟩

theorem runs_receiveDatagram {E : UdpError → UdpReactor → Prop} (h : Settled options s) :
    Runs (UdpStep listenEndpoint) E (receiveDatagram options fd) s fun r s' =>
      match r with
      | .error _ => Settled options s'
      | .ok receipt => s'.tables = s.tables ∧
          Taken options (s.tables.descriptors.lookup fd) receipt s' := by
  refine Runs.call_bind fun answer => ?_
  cases answer with
  | error error => exact Runs.pure h
  | ok receipt =>
    refine Runs.modify_bind (.single (.happened (.received _ receipt) h.owes rfl rfl)) (Runs.pure ⟨rfl, ?_⟩)
    refine ⟨⟨h.consistent.tables, h.consistent.listener, fun hmem => h.consistent.inserted
      ((List.mem_cons.mp hmem).resolve_left nofun)⟩, h.owes.cons rfl ?_, rfl, List.take_left⟩
    rw [Owed.next, if_pos rfl]

theorem runs_createFlowForDatagram {source : Option UdpDescriptor} {receipt : UdpReceipt}
    (h : Taken options source receipt s) (hkey : s.tables.flowTokensByKey.lookup key = none) :
    Runs (UdpStep listenEndpoint) (fun _ => Settled options) (createFlowForDatagram options key) s
      fun token s' => Taken options source receipt s' ∧ (token ≠ 0 → Found key token s') := by
  refine Runs.handle ((runs_createFlow h.consistent hkey).post fun _ _ _ h' => ⟨h.kept h'.1, h'.2⟩)
    fun e s₁ _ h₁ => ?_
  have htaken := h.kept h₁
  exact Runs.bind (runs_drop htaken.consistent htaken.owes) fun _ _ _ h₂ => Runs.raise h₂

theorem runs_isExpired_checked {token : ℕ} {E : UdpError → UdpReactor → Prop} (hP : Stable P) (h : P s) :
    Runs (UdpStep listenEndpoint) E (isExpired options token flow) s fun expired s' => P s' ∧
      (expired = true → ∃ last time, .checked token last time ∈ sinceReceived s'.log ∧
        time - last ≥ options.idleTimeout) := by
  refine Runs.bind (runs_currentTime hP h) fun time s₁ _ h₁ => ?_
  have hchecked : (UdpEvent.checked token flow.deadline.lastSubmissionTime time).Plain := trivial
  refine Runs.modify_bind (UdpStep.plain hchecked) (Runs.pure ⟨hP _ _ hchecked.frame h₁, fun hexpired => ?_⟩)
  exact ⟨_, time, List.mem_cons_self, of_decide_eq_true hexpired⟩

/-- **The one way a datagram is not accounted for**: its flow has expired, and the observation callback throws
when it is told that it is closed. -/
theorem runs_resolveFlowTokenForDatagram {receipt : UdpReceipt} (h : Taken options (some .listener) receipt s)
    (hparsed : parsePacketMetadata listenEndpoint receipt = some key) :
    Runs (UdpStep listenEndpoint) (fun _ => Ended listenEndpoint options) (resolveFlowTokenForDatagram options key) s
      fun token s' => Taken options (some .listener) receipt s' ∧ (token ≠ 0 → Found key token s') := by
  refine Runs.gets_bind ?_
  cases hmapped : s.tables.flowTokensByKey.lookup key with
  | none => exact runs_ended (runs_createFlowForDatagram h hmapped)
  | some token =>
    obtain ⟨flow, hflow, hkey⟩ := (h.consistent.tables.index key token).mp hmapped
    refine Runs.gets_bind ?_
    rw [hflow]
    have hstable : Stable fun s' => Taken options (some .listener) receipt s' ∧
        s'.tables.flows.lookup token = some flow := fun s₁ s₂ hf h' =>
      ⟨Taken.stable s₁ s₂ hf h'.1, by rw [hf.tables, h'.2]⟩
    refine Runs.bind (runs_isExpired_checked hstable ⟨h, hflow⟩) fun expired s₁ _ h₁ => ?_
    refine Runs.ite (fun hexpired => ?_) fun _ => Runs.pure ⟨h₁.1.1, fun _ => ⟨flow, h₁.1.2, hkey⟩⟩
    obtain ⟨last, time, hchecked, hidle⟩ := h₁.2 hexpired
    have hstable' : Stable fun s' => (Taken options (some .listener) receipt s' ∧
        s'.tables.flows.lookup token = some flow) ∧ .checked token last time ∈ sinceReceived s'.log :=
      fun s₁ s₂ hf h' => ⟨hstable s₁ s₂ hf h'.1, hf.later.since.subset h'.2⟩
    refine Runs.bind ((runs_reportStatEvent_thrown rfl hstable' ⟨h₁.1, hchecked⟩).mono
      (fun _ _ _ h' => (h'.1.1.1.consistent.settled h'.2).ended) fun _ _ _ h' => h') fun _ s₂ _ h₂ => ?_
    obtain ⟨h₂, hchecked⟩ := h₂
    refine Runs.bind ((runs_closeFlow_thrown h₂.1.consistent).mono (fun _ s₃ _ h₃ => ?_) fun _ _ _ h₃ => h₃)
      fun _ s₃ _ h₃ => ?_
    · -- the exception passes the `catch` of `createFlowForDatagram` by
      have hconsistent := h₃.toClosed.consistent h₂.1.consistent
      rcases h₃.threw with hthrew | ⟨fd, flows, tokens, hthrew⟩
      · exact (hconsistent.settled hthrew).ended
      · refine ⟨hconsistent, .inr ⟨⟨_, h₃.owes _ h₂.1.owes⟩, ?_⟩⟩
        exact ⟨receipt, key, token, last, time, h₃.toRest.received.trans h₂.1.last, hparsed,
          h₃.later.since.subset hchecked, hidle, h₃.closing, fd, flows, tokens, hthrew⟩
    refine runs_ended (runs_createFlowForDatagram (h₂.1.kept ⟨h₃.toRest, h₃.consistent h₂.1.consistent⟩) ?_)
    -- the flow was the one with the key
    rw [h₃.tables, FlowTables.close_of_lookup h₂.2, hkey]
    exact Finmap.lookup_erase _ _

theorem runs_listenerReadAttempt (h : Settled options s) :
    Runs (UdpStep listenEndpoint) (fun _ => Ended listenEndpoint options) (listenerReadAttempt listenEndpoint options) s
      fun _ => Settled options := by
  refine Runs.gets_bind (Runs.bind (runs_receiveDatagram h) fun r s₁ _ h₁ => ?_)
  cases r with
  | error error =>
    refine Runs.ite (fun _ => Runs.pure h₁) fun _ => Runs.ite (fun _ => Runs.pure h₁) fun _ => ?_
    have hsettled : ∀ {s₂ : UdpReactor}, Kept options s₁ s₂ → Settled options s₂ := fun h₂ =>
      h₂.settled h₁.owes
    exact runs_ended (Runs.bind ((runs_handleSocketError ⟨Rest.refl s₁, h₁.consistent⟩).mono
      (fun _ _ _ => hsettled) fun _ _ _ => hsettled) fun _ _ _ h₂ => Runs.pure h₂)
  | ok receipt =>
  obtain ⟨htables, htaken⟩ := h₁
  rw [h.consistent.listener] at htaken
  refine Runs.ite (fun _ => ?_) fun hwhole => ?_
  · exact runs_ended (runs_drop_diagnostic htaken.consistent htaken.owes fun _ h₂ => h₂)
  cases hparsed : parsePacketMetadata listenEndpoint receipt with
  | none => exact runs_ended (runs_drop_diagnostic htaken.consistent htaken.owes fun _ h₂ => h₂)
  | some key =>
  refine Runs.bind (runs_resolveFlowTokenForDatagram htaken hparsed) fun token s₂ _ h₂ => ?_
  refine Runs.ite (fun hne => Runs.gets_bind ?_) fun _ => ?_
  · obtain ⟨flow, hflow, hkey⟩ := h₂.2 hne
    rw [hflow]
    obtain ⟨hsize, hbuffer⟩ := h₂.1.whole hwhole
    have htoken := (h₂.1.consistent.tables.token hflow).1
    have hsending : Sending listenEndpoint options flow (receipt.receivedBytes options.receiveSize) false s₂ := by
      refine ⟨h₂.1.consistent, by rw [htoken, hflow], ?_, some .listener, receipt, h₂.1.last, hbuffer, rfl, ?_⟩
      · rw [hsize]
        exact h₂.1.owes
      · rw [hparsed, hkey]
    exact runs_ended (Runs.bind (runs_sendFlowDatagram hsending) fun _ _ _ h₃ => Runs.pure h₃)
  · exact runs_ended (Runs.bind (runs_drop h₂.1.consistent h₂.1.owes) fun _ _ _ h₃ => Runs.pure h₃)

theorem runs_handleListenerRead (h : Settled options s) :
    Runs (UdpStep listenEndpoint) (fun _ => Ended listenEndpoint options) (handleListenerRead listenEndpoint options) s
      fun _ => Settled options := by
  refine Runs.bind (Runs.attempts (Q := fun _ => Settled options) (Settled options) (fun s' h' =>
    (runs_listenerReadAttempt h').post fun r _ _ h'' => ?_) 64 h) fun r s₁ _ h₁ => ?_
  · cases r <;> exact h''
  · cases r with
    | some _ => exact Runs.pure h₁
    | none => exact runs_ended (runs_reportObservation Settled.stable h₁)

/-- A flow is closed between datagrams. -/
theorem Settled.runs_closeFlow {token : ℕ} {reason : String} {error : Errno} (h : Settled options s) :
    Runs (UdpStep listenEndpoint) (fun _ => Settled options) (closeFlow token reason error) s
      fun _ => Settled options :=
  have hclosed : ∀ {s' : UdpReactor}, Closed token s s' → Settled options s' := fun h' =>
    ⟨h'.consistent h.consistent, h'.owes _ h.owes⟩
  (Net.runs_closeFlow h.consistent).mono (fun _ _ _ => hclosed) fun _ _ _ => hclosed

/-- A flow that has expired is closed between datagrams. -/
theorem Settled.runs_expire {token : ℕ} (h : Settled options s) :
    Runs (UdpStep listenEndpoint) (fun _ => Settled options)
      (reportStatEvent .timeout >>= fun _ => closeFlow token "idle-timeout") s fun _ => Settled options :=
  Runs.bind (runs_reportStatEvent rfl Settled.stable h) fun _ _ _ h₁ => h₁.runs_closeFlow

theorem Settled.runs_handleSocketError {code : Errno} {listener : Bool} {token : ℕ} {kind : String}
    (h : Settled options s) :
    Runs (UdpStep listenEndpoint) (fun _ => Settled options) (handleSocketError code listener token kind) s
      fun _ => Settled options :=
  have hsettled : ∀ {s' : UdpReactor}, Kept options s s' → Settled options s' := fun h' => h'.settled h.owes
  (Net.runs_handleSocketError ⟨Rest.refl s, h.consistent⟩).mono (fun _ _ _ => hsettled) fun _ _ _ => hsettled

theorem runs_backendReadAttempt {token : ℕ} (h : Settled options s) :
    Runs (UdpStep listenEndpoint) (fun _ => Settled options) (backendReadAttempt options token) s
      fun _ => Settled options := by
  refine Runs.gets_bind ?_
  cases hflow : s.tables.flows.lookup token with
  | none => exact Runs.pure h
  | some flow =>
  have hstable : Stable fun s' => Settled options s' ∧ s'.tables.flows.lookup token = some flow :=
    fun s₁ s₂ hf h' => ⟨Settled.stable s₁ s₂ hf h'.1, by rw [hf.tables, h'.2]⟩
  refine Runs.bind (runs_isExpired hstable ⟨h, hflow⟩) fun time s₁ _ h₁ => Runs.ite (fun _ => ?_) fun _ => ?_
  · refine Runs.bind (runs_reportStatEvent rfl Settled.stable h₁.1) fun _ s₂ _ h₂ => ?_
    exact Runs.bind h₂.runs_closeFlow fun _ _ _ h₃ => Runs.pure h₃
  refine Runs.bind (runs_receiveDatagram h₁.1) fun r s₂ _ h₂ => ?_
  cases r with
  | error error =>
    refine Runs.ite (fun _ => Runs.pure h₂) fun _ => Runs.ite (fun _ => Runs.pure h₂) fun _ => ?_
    exact Runs.bind h₂.runs_handleSocketError fun _ _ _ h₃ => Runs.pure h₃
  | ok receipt =>
  obtain ⟨htables, htaken⟩ := h₂
  refine Runs.ite (fun _ => ?_) fun hwhole => ?_
  · exact runs_drop_diagnostic htaken.consistent htaken.owes fun _ h₃ => h₃
  obtain ⟨hsize, hbuffer⟩ := htaken.whole hwhole
  have htoken := (h₁.1.consistent.tables.token h₁.2).1
  obtain ⟨serial, hsocket⟩ := h₁.1.consistent.tables.socket h₁.2
  have hsending : Sending listenEndpoint options flow (receipt.receivedBytes options.receiveSize) true s₂ := by
    refine ⟨htaken.consistent, by rw [htables, htoken, h₁.2], ?_, _, receipt, htaken.last, hbuffer, ?_⟩
    · have howes := htaken.owes
      rw [hsocket] at howes
      rw [hsize]
      exact howes
    · rw [htables]
      rfl
  exact Runs.bind (runs_sendFlowDatagram hsending) fun _ _ _ h₃ => Runs.pure h₃

theorem runs_handleBackendRead {token : ℕ} (h : Settled options s) :
    Runs (UdpStep listenEndpoint) (fun _ => Settled options) (handleBackendRead options token) s
      fun _ => Settled options := by
  refine Runs.bind (Runs.attempts (Q := fun _ => Settled options) (Settled options) (fun s' h' =>
    (runs_backendReadAttempt h').post fun r _ _ h'' => ?_) 64 h) fun r s₁ _ h₁ => ?_
  · cases r <;> exact h''
  · cases r with
    | some _ => exact Runs.pure h₁
    | none => exact runs_reportObservation Settled.stable h₁

/-! ### Events -/

theorem runs_readSocketError {token : ℕ} {listener : Bool} (h : Settled options s) :
    Runs (UdpStep listenEndpoint) (fun _ => Settled options) (readSocketError token listener fd) s
      fun _ => Settled options := by
  refine Runs.call_bind fun answer => ?_
  cases answer with
  | error error =>
    refine Runs.ite (fun _ => Runs.raise h) fun _ => Runs.ite (fun _ => Runs.raise h) fun _ => ?_
    refine Runs.bind (Q := fun _ => Settled options) (Runs.when (fun _ =>
      runs_reportStatEvent rfl Settled.stable h) fun _ => h) fun _ s₁ _ h₁ => ?_
    exact Runs.bind h₁.runs_closeFlow fun _ _ _ h₂ => Runs.pure h₂
  | ok code =>
    refine Runs.bind (runs_reportObservation Settled.stable h) fun _ s₁ _ h₁ => ?_
    exact Runs.ite (fun _ => h₁.runs_handleSocketError) fun _ => Runs.pure h₁

theorem runs_dispatchReadyEvent {token : ℕ} {events : EpollEvents} {listener : Bool}
    (h : Settled options s) :
    Runs (UdpStep listenEndpoint) (fun _ => Ended listenEndpoint options)
      (dispatchReadyEvent listenEndpoint options token events listener fd) s fun _ => Settled options := by
  refine Runs.bind (Q := fun _ => Settled options) (Runs.ite (fun _ => runs_ended (runs_readSocketError h)) fun _ =>
    Runs.pure h) fun proceed s₁ _ h₁ => ?_
  refine Runs.ite (fun _ => Runs.pure h₁) fun _ => Runs.ite (fun _ => ?_) fun _ => Runs.ite (fun _ => ?_)
    fun _ => Runs.pure h₁
  · refine Runs.ite (fun _ => Runs.raise h₁.ended) fun _ => ?_
    exact runs_ended (Runs.bind (runs_reportStatEvent rfl Settled.stable h₁) fun _ _ _ h₂ => h₂.runs_closeFlow)
  · exact Runs.ite (fun _ => runs_handleListenerRead h₁) fun _ => runs_ended (runs_handleBackendRead h₁)

/-- **Every event leaves the tables in agreement and every datagram accounted for.** -/
theorem runs_dispatchFlowEvent {token : ℕ} {events : EpollEvents} (h : Settled options s) :
    Runs (UdpStep listenEndpoint) (fun _ => Ended listenEndpoint options)
      (dispatchFlowEvent listenEndpoint options token events) s fun _ => Settled options := by
  refine Runs.ite (fun _ => Runs.pure h) fun _ => Runs.ite (fun _ => ?_) fun _ => Runs.gets_bind ?_
  · exact Runs.gets_bind (runs_dispatchReadyEvent h)
  cases s.tables.flows.lookup token with
  | none => exact runs_ended (runs_reportObservation Settled.stable h)
  | some flow =>
    refine Runs.bind (runs_isExpired Settled.stable h) fun expired s₁ _ h₁ => ?_
    exact Runs.ite (fun _ => runs_ended h₁.runs_expire) fun _ => runs_dispatchReadyEvent h₁

theorem Settled.runs_expireIdleFlows (h : Settled options s) :
    Runs (UdpStep listenEndpoint) (fun _ => Settled options) (expireIdleFlows options) s
      fun _ => Settled options :=
  have hswept : ∀ {s' : UdpReactor}, Swept options s s' → Settled options s' := fun h' =>
    h'.kept.settled h.owes
  (Net.runs_expireIdleFlows h.consistent).mono (fun _ _ _ => hswept) fun _ _ _ => hswept

theorem Settled.runs_closeAllFlows (h : Settled options s) :
    Runs (UdpStep listenEndpoint) (fun _ s' => Settled options s' ∧ NoFlows s') closeAllFlows s
      fun _ s' => Settled options s' ∧ NoFlows s' :=
  have hswept : ∀ {s' : UdpReactor}, Swept options s s' ∧ NoFlows s' → Settled options s' ∧ NoFlows s' :=
    fun h' => ⟨h'.1.kept.settled h.owes, h'.2⟩
  (Net.runs_closeAllFlows h.consistent).mono (fun _ _ _ => hswept) fun _ _ _ => hswept

/-! ### Running -/

theorem runs_consumeStopSignals (h : Settled options s) :
    Runs (UdpStep listenEndpoint) (fun _ => Settled options) consumeStopSignals s
      fun _ => Settled options := by
  refine Runs.call_bind fun answer => ?_
  cases answer with
  | ok bytes => exact Runs.ite (fun _ => Runs.pure h) fun _ => Runs.raise h
  | error error => exact Runs.ite (fun _ => Runs.pure h) fun _ => Runs.raise h

theorem runs_dispatchEvents {events : List (ℕ × EpollEvents)} (h : Settled options s) :
    Runs (UdpStep listenEndpoint) (fun _ => Ended listenEndpoint options) (dispatchEvents listenEndpoint options events) s
      fun _ => Settled options := by
  induction events generalizing s with
  | nil => exact Runs.pure h
  | cons event events ih =>
    refine Runs.bind (runs_ended (runs_consumeStopSignals h)) fun stop s₁ _ h₁ =>
      Runs.ite (fun _ => Runs.pure h₁) fun _ => ?_
    exact Runs.bind (runs_dispatchFlowEvent h₁) fun _ _ _ h₂ => ih h₂

theorem runs_runCallback {answer : Option ℕ} (h : Settled options s) :
    Runs (UdpStep listenEndpoint) (fun _ => Settled options) (runCallback answer) s
      fun _ => Settled options := by
  cases answer with
  | none => exact Runs.pure h
  | some exception => exact Runs.raise h

theorem runs_udpEventPass {u : Unit} (h : Settled options s) :
    Runs (UdpStep listenEndpoint) (fun _ => Ended listenEndpoint options) (udpEventPass listenEndpoint options u) s
      fun _ => Settled options := by
  refine Runs.bind (runs_ended (runs_consumeStopSignals h)) fun stop s₁ _ h₁ => Runs.ite (fun _ => Runs.pure h₁) fun _ => ?_
  refine Runs.bind (runs_ended h₁.runs_expireIdleFlows) fun _ s₂ _ h₂ => Runs.call_bind fun answer => ?_
  cases answer with
  | error error => exact Runs.ite (fun _ => Runs.pure h₂) fun _ => Runs.raise h₂.ended
  | ok events =>
    refine Runs.bind (runs_ended (runs_consumeStopSignals h₂)) fun stop s₃ _ h₃ =>
      Runs.ite (fun _ => Runs.pure h₃) fun _ => ?_
    refine Runs.bind (runs_ended h₃.runs_expireIdleFlows) fun _ s₄ _ h₄ => Runs.call_bind fun answer => ?_
    refine Runs.bind (runs_ended (runs_runCallback h₄)) fun _ s₅ _ h₅ => ?_
    refine Runs.bind (runs_dispatchEvents h₅) fun finished s₆ _ h₆ => ?_
    exact Runs.ite (fun _ => Runs.pure h₆) fun _ => Runs.pure h₆

theorem runs_runUdpEventLoop (h : Settled options s) :
    Runs (UdpStep listenEndpoint) (fun _ => Ended listenEndpoint options) (runUdpEventLoop listenEndpoint options) s
      fun _ => Settled options := by
  refine Runs.call_bind fun answer => Runs.bind (runs_ended (runs_runCallback h)) fun _ s₁ _ h₁ => ?_
  refine Runs.loop (fun _ => Settled options) (fun u s₂ h₂ => (runs_udpEventPass h₂).post ?_) h₁
  intro r s₃ _ h₃
  cases r <;> exact h₃

/-- There are no flows, and there have been none. -/
structure Blank (s : UdpReactor) : Prop where
  /-- Nothing has happened. -/
  log : s.log = []
  /-- Tokens start at three. -/
  next : s.tables.nextFlowToken = 3
  /-- There are no keys. -/
  flowTokensByKey : s.tables.flowTokensByKey = ∅
  /-- There are no flows. -/
  flows : s.tables.flows = ∅
  /-- There are no sockets of flows. -/
  sockets : ∀ fd serial peer, s.tables.descriptors.lookup fd ≠ some (.socket serial peer)

theorem Blank.owes (h : Blank s) : Owes s .nothing := .inr (by rw [h.log]; rfl)

theorem Blank.lookup (h : Blank s) : NoFlows s := fun token => by
  rw [h.flows, Finmap.lookup_empty]

/-- A change of the descriptors, when there are no flows. -/
theorem NoFlows.quiet (h : NoFlows s) (hlog : s'.log = s.log) (hflows : s'.tables.flows = s.tables.flows) :
    ReflTransGen (UdpStep listenEndpoint) s s' := by
  refine .single (.quiet hlog (FlowTables.association_congr hflows fun token flow hflow => ?_))
  rw [h token] at hflow
  cases hflow

/-- Without flows the tables agree. -/
theorem Blank.settled (h : Blank s) (hlistener : s.tables.descriptors.lookup s.listenerFd = some .listener) :
    Settled options s := by
  refine ⟨⟨⟨fun key token => ?_, fun hflow => ?_, ?_, h.next.ge, fun hflow => ?_, fun hfd => ?_,
    fun _ => nofun, fun hflow => ?_, fun hfd => ?_, fun hfd => ?_⟩, hlistener, fun hmem => ?_⟩, h.owes⟩
  · rw [h.flowTokensByKey, Finmap.lookup_empty]
    refine ⟨nofun, ?_⟩
    rintro ⟨flow, hflow, -⟩
    rw [h.lookup] at hflow
    cases hflow
  · rw [h.lookup] at hflow
    cases hflow
  · rw [h.flows, Table.size_empty]
    exact Nat.zero_le _
  · rw [h.lookup] at hflow
    cases hflow
  · exact absurd hfd (h.sockets _ _ _)
  · rw [h.lookup] at hflow
    cases hflow
  · exact absurd hfd (h.sockets _ _ _)
  · exact absurd hfd (h.sockets _ _ _)
  · rw [h.log] at hmem
    cases hmem

theorem runs_openMember {E : UdpError → UdpReactor → Prop} {descriptor : UdpDescriptor} (h : Blank s)
    (hmember : ∀ serial peer, descriptor ≠ .socket serial peer) :
    Runs (UdpStep listenEndpoint) E (openDescriptor fun _ => descriptor) s fun r s' =>
      Blank s' ∧ ∀ fd, r = .ok fd → s'.tables.descriptors.lookup fd = some descriptor := by
  refine Runs.call_bind fun answer => Runs.gets_bind ?_
  cases answer with
  | error error => exact Runs.pure ⟨h, fun _ => nofun⟩
  | ok fd =>
    refine Runs.ite (fun _ => Runs.pure ⟨h, fun _ => nofun⟩) fun hnew => ?_
    refine Runs.modify_bind (h.lookup.quiet rfl rfl) (Runs.pure ⟨⟨h.log, h.next, h.flowTokensByKey, h.flows, ?_⟩, ?_⟩)
    · intro fd' serial peer hlookup
      by_cases hfd : fd' = fd
      · rw [hfd, Finmap.lookup_insert] at hlookup
        exact hmember serial peer (Option.some.inj hlookup)
      · rw [Finmap.lookup_insert_of_ne _ hfd] at hlookup
        exact h.sockets fd' serial peer hlookup
    · rintro fd' hfd
      rw [← Except.ok.inj hfd]
      exact Finmap.lookup_insert _

theorem Blank.close (h : Blank s) (fd : ℕ) : Blank (s.close fd) := by
  refine ⟨h.log, h.next, h.flowTokensByKey, h.flows, fun fd' serial peer hlookup => ?_⟩
  by_cases hfd : fd' = fd
  · subst hfd
    exact absurd (hlookup.symm.trans (Finmap.lookup_erase fd' s.tables.descriptors)) nofun
  · exact h.sockets fd' serial peer ((Finmap.lookup_erase_ne hfd).symm.trans hlookup)

/-- The descriptors of the members are closed when there are no flows. -/
theorem runs_closeMembers {E : UdpError → UdpReactor → Prop} {P : UdpReactor → Prop} {fds : List ℕ}
    (hnone : ∀ s, P s → NoFlows s)
    (hP : ∀ (s : UdpReactor) (fd : ℕ), P s → P (s.close fd)) (h : P s) :
    Runs (UdpStep listenEndpoint) E (closeMembers fds) s fun _ => P := by
  unfold closeMembers
  refine Runs.forEach P fds (fun fd _ s₁ h₁ => ?_) h
  rw [destroyFd_eq]
  exact Runs.modify_bind ((hnone s₁ h₁).quiet rfl rfl) (Runs.pure (hP s₁ fd h₁))

theorem runs_setupListener {P : UdpReactor → Prop} {signalFd listenerFd : ℕ} (h : P s) :
    Runs (UdpStep listenEndpoint) (fun _ => P) (setupListener signalFd listenerFd) s fun _ => P := by
  have hcheck : ∀ {operation : String} {answer : Except Errno Unit} {s' : UdpReactor}, P s' →
      Runs (UdpStep listenEndpoint) (fun _ => P) (check operation answer) s' fun _ => P := by
    intro operation answer s' h'
    cases answer with
    | ok _ => exact Runs.pure h'
    | error error => exact Runs.raise h'
  refine Runs.call_bind fun _ => Runs.bind (hcheck h) fun _ s₁ _ h₁ => ?_
  refine Runs.call_bind fun _ => Runs.bind (hcheck h₁) fun _ s₂ _ h₂ => ?_
  refine Runs.bind (Runs.call_bind fun _ => hcheck h₂) fun _ s₃ _ h₃ => Runs.call_bind fun _ => hcheck h₃

theorem runs_constructUdpReactor (h : Blank s) :
    Runs (UdpStep listenEndpoint) (fun _ => Blank) constructUdpReactor s fun _ s' =>
      Blank s' ∧ Settled options s' := by
  refine Runs.call_bind fun answer => Runs.bind (Q := fun _ => Blank) ?_ fun _ s₀ _ h₀ => ?_
  · cases answer with
    | ok _ => exact Runs.pure h
    | error error => exact Runs.raise h
  refine Runs.bind (runs_openMember h₀ fun _ _ => nofun) fun signal s₁ _ h₁ => ?_
  refine Runs.bind (runs_openMember h₁.1 fun _ _ => nofun) fun epoll s₂ _ h₂ => ?_
  refine Runs.bind (runs_openMember h₂.1 fun _ _ => nofun) fun listener s₃ _ h₃ => ?_
  refine Runs.handle (E := fun _ => Blank) ?_ fun e s₄ _ h₄ =>
    Runs.bind (runs_closeMembers (fun _ h => h.lookup) (fun _ fd h => h.close fd) h₄) fun _ _ _ h₅ => Runs.raise h₅
  cases signal with
  | error error => exact Runs.raise h₃.1
  | ok signalFd =>
  cases epoll with
  | error error => exact Runs.raise h₃.1
  | ok epollFd =>
  cases listener with
  | error error => exact Runs.raise h₃.1
  | ok listenerFd =>
    obtain ⟨hblank, hlistener⟩ := h₃
    refine Runs.modify_bind (hblank.lookup.quiet rfl rfl) ?_
    have hmembers : Blank { s₃ with
        signalFd, epollFd, listenerFd, receiveBuffer := List.replicate kUdpPayloadLimit 0 } :=
      ⟨hblank.log, hblank.next, hblank.flowTokensByKey, hblank.flows, hblank.sockets⟩
    have hsettled : Settled options { s₃ with
        signalFd, epollFd, listenerFd, receiveBuffer := List.replicate kUdpPayloadLimit 0 } :=
      hmembers.settled (hlistener listenerFd rfl)
    exact (runs_setupListener (P := fun s' => Blank s' ∧ Settled options s') ⟨hmembers, hsettled⟩).mono
      (fun _ _ _ h' => h'.1) fun _ _ _ h' => h'

/-- What holds when the reactor has returned. -/
def Finished (s : UdpReactor) : Prop := Owes s .nothing ∧ NoFlows s

/-- What holds when it has thrown. -/
def Failed (listenEndpoint : Endpoint) (options : UdpReactorOptions) (s : UdpReactor) : Prop :=
  Accounts listenEndpoint options s ∧ NoFlows s

/-- The destructor keeps what closing flows keeps and the descriptors do not matter to. -/
theorem runs_destroyUdpReactor {E : UdpError → UdpReactor → Prop} {P : UdpReactor → Prop}
    (h : Consistent options none s) (hkept : ∀ s', Rest s s' → P s')
    (hP : ∀ (s : UdpReactor) (fd : ℕ), P s → P (s.close fd)) :
    Runs (UdpStep listenEndpoint) E destroyUdpReactor s fun _ s' => P s' ∧ NoFlows s' := by
  have hclose : Runs (UdpStep listenEndpoint) (fun _ s' => P s' ∧ NoFlows s') closeAllFlows s
      fun _ s' => P s' ∧ NoFlows s' :=
    (Net.runs_closeAllFlows h).mono (fun _ _ _ h' => ⟨hkept _ h'.1.toRest, h'.2⟩) fun _ _ _ h' =>
      ⟨hkept _ h'.1.toRest, h'.2⟩
  refine Runs.bind (Runs.handle hclose fun _ _ _ h₁ => Runs.pure h₁) fun _ s₁ _ h₁ => ?_
  exact Runs.gets_bind (runs_closeMembers (fun _ h => h.2) (fun s fd h => ⟨hP s fd h.1, h.2⟩) h₁)

/-- **When the reactor is gone, so are its flows, and every datagram is accounted for** or was forfeited. -/
theorem runs_runUdpReactor (h : Blank s) :
    Runs (UdpStep listenEndpoint) (fun _ => Failed listenEndpoint options) (runUdpReactor listenEndpoint options) s
      fun _ => Finished := by
  have hblank : ∀ {s' : UdpReactor}, Blank s' → Failed listenEndpoint options s' := fun h' => ⟨.inl h'.owes, h'.lookup⟩
  refine Runs.ite (fun _ => Runs.raise (hblank h)) fun _ => ?_
  have hconstruct : Runs (UdpStep listenEndpoint) (fun _ => Blank) constructUdpReactor s fun _ s' =>
      Blank s' ∧ Settled options s' := runs_constructUdpReactor h
  refine Runs.bind (hconstruct.mono (fun _ _ _ => hblank) fun _ _ _ h' => h'.2) fun _ s₁ _ h₁ => ?_
  refine Runs.ensure (E := fun _ => Ended listenEndpoint options) (Q := fun _ => Settled options) ?_
    (fun _ s₂ _ h₂ => runs_destroyUdpReactor h₂.consistent (fun _ h' => h'.owes _ h₂.owes) fun _ _ h' => h')
    fun _ s₂ _ h₂ => runs_destroyUdpReactor h₂.consistent (fun _ h' => h'.accounts h₂.accounts) fun _ _ h' => h'
  refine Runs.bind (runs_runUdpEventLoop h₁) fun result s₂ _ h₂ => ?_
  exact runs_ended (Runs.bind (h₂.runs_closeAllFlows.mono (fun _ _ _ h' => h'.1) fun _ _ _ h' => h'.1)
    fun _ _ _ h₃ => Runs.pure h₃)

end L4lb.Net
