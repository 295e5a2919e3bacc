import L4lb.Net.UdpIdle
import L4lb.Net.UdpAssociation

/-!
# Expired flows are closed, and only live ones are sent on

Whatever the UDP reactor is asked, the deadlines of its flows move with complete
submissions only, a datagram goes by a flow that a check for it found alive, and a flow
found expired is closed at once, with one timeout counted, and never sent on again
(`udp_idle_expiry`).

## The argument

One lemma for each method: it keeps the flows what the history says, and where it returns
no flow found expired is left (`Clear`). A check that finds a flow expired is followed by
the timeout and the closing, or by an exception that ends the run.
-/

namespace L4lb.Net

open Effect Prog Relation

variable {listenEndpoint : Endpoint} {options : UdpReactorOptions} {s s' s₀ : UdpReactor} {token : ℕ} {flow : UdpFlow}

/-- Every run keeps the flows what the history says, whatever is thrown. -/
abbrev Keeps (listenEndpoint : Endpoint) (options : UdpReactorOptions) {α : Type} (m : UdpM α) (s : UdpReactor)
    (Q : α → UdpReactor → Prop) :
    Prop :=
  Timed listenEndpoint options (fun _ => True) m s Q

theorem keeps_of_timed {α : Type} {E : UdpReactor → Prop} {m : UdpM α} {Q : α → UdpReactor → Prop}
    (h : Timed listenEndpoint options E m s Q) : Keeps listenEndpoint options m s Q :=
  h.mono (fun _ _ _ _ => trivial) fun _ _ _ h => h

/-! ### Checks -/

/-- A check has just found a flow expired; the others are clear. -/
structure Overdue (options : UdpReactorOptions) (token : ℕ) (s : UdpReactor) : Prop where
  /-- It has just been found. -/
  just : JustExpired options.idleTimeout token s.log
  /-- The others were not. -/
  unfound : ∀ t flow, s.tables.flows.lookup t = some flow → FoundExpired options.idleTimeout t s.log → t = token
  /-- Flows have their tokens, which are below the next. -/
  numbered : ∀ t flow, s.tables.flows.lookup t = some flow → flow.token = t ∧ t < s.tables.nextFlowToken
  /-- What was taken whole is recorded. -/
  recorded : Recorded s.log

theorem Recorded.checked {log log' : List UdpEvent} {last time : Time} (h : Recorded log)
    (hlog : log' = .checked token last time :: log ∨ log' = .swept token last time :: log) : Recorded log' := by
  obtain rfl | rfl := hlog
  · exact h
  · exact h

/-- A check that finds a flow expired. -/
theorem Clear.overdue (h : Clear options s) {last time : Time} (htables : s'.tables = s.tables)
    (hlog : s'.log = .checked token last time :: s.log ∨ s'.log = .swept token last time :: s.log)
    (hexpired : time - last ≥ options.idleTimeout) : Overdue options token s' := by
  refine ⟨⟨last, time, s.log, hlog, hexpired⟩, fun t flow hflow hfound => ?_, htables ▸ h.numbered,
    h.recorded.checked hlog⟩
  rw [htables] at hflow
  rcases hlog with hlog | hlog
  · rw [hlog] at hfound
    rcases hfound with ⟨rfl, -⟩ | hold
    · rfl
    · exact absurd hold (h.unfound t flow hflow)
  · rw [hlog] at hfound
    rcases hfound with ⟨rfl, -⟩ | hold
    · rfl
    · exact absurd hold (h.unfound t flow hflow)

/-- A check that finds a flow alive. -/
theorem Clear.alive (h : Clear options s) {last time : Time} (htables : s'.tables = s.tables)
    (hlog : s'.log = .checked token last time :: s.log ∨ s'.log = .swept token last time :: s.log)
    (halive : ¬ time - last ≥ options.idleTimeout) : Clear options s' := by
  refine ⟨⟨fun t flow hflow hfound => ?_, htables ▸ h.numbered⟩, h.recorded.checked hlog⟩
  rw [htables] at hflow
  rcases hlog with hlog | hlog
  · rw [hlog] at hfound
    exact hfound.elim (fun he => halive he.2) (h.unfound t flow hflow)
  · rw [hlog] at hfound
    exact hfound.elim (fun he => halive he.2) (h.unfound t flow hflow)

theorem expired_iff (flow : UdpFlow) (time timeout : Time) :
    flow.deadline.expired time timeout = true ↔ time - flow.deadline.lastSubmissionTime ≥ timeout := by
  simp [UdpIdleDeadline.expired]

theorem keeps_countTimeout (h : JustExpired options.idleTimeout token s.log) :
    Keeps listenEndpoint options (reportStatEvent .timeout) s fun _ s' => s' = s.record (.statistic ⟨.timeout, 1⟩) := by
  have htimely : (UdpEvent.statistic ⟨.timeout, 1⟩).Timely listenEndpoint options.idleTimeout s.log :=
    fun _ => ⟨rfl, token, h⟩
  have hthrew : UdpEvent.callbackThrew.IsReport := trivial
  refine Runs.modify_bind (.single fun hidle => ⟨hidle.timely.cons htimely, hidle.flows⟩) (Runs.call_bind fun answer => ?_)
  cases answer with
  | none => exact Runs.pure rfl
  | some exception => exact Runs.modify_bind (.single fun hidle => hidle.report hthrew) (Runs.raise trivial)

/-- The flow that a timeout was counted for is closed. -/
theorem keeps_closeOverdue (h : Overdue options token s) :
    Keeps listenEndpoint options (closeFlow token "idle-timeout") (s.record (.statistic ⟨.timeout, 1⟩))
      fun _ => Clear options := by
  refine (keeps_of_timed (timed_closeFlow fun _ => ⟨s.log, rfl, h.just⟩)).post fun _ s' _ ⟨heased, hgone⟩ => ?_
  refine ⟨⟨fun t flow hflow hfound => ?_, fun t flow hflow => ?_⟩, fun t size hanswer => ?_⟩
  · obtain rfl := h.unfound t flow (heased.flows t flow hflow) (heased.found t hfound)
    rw [hgone] at hflow
    cases hflow
  · exact (h.numbered t flow (heased.flows t flow hflow)).imp_right fun hlt => hlt.trans_le heased.next
  · exact h.recorded t size (heased.answer.symm.trans hanswer)

/-- **What follows a check that found a flow expired**: the timeout is counted, and the flow closed. -/
theorem keeps_expire {α : Type} {k : Unit → UdpM α} {Q : α → UdpReactor → Prop} (h : Overdue options token s)
    (hk : ∀ s', Clear options s' → Keeps listenEndpoint options (k ()) s' Q) :
    Keeps listenEndpoint options (reportStatEvent .timeout >>= fun _ => closeFlow token "idle-timeout" >>= k) s Q := by
  refine Runs.bind (keeps_countTimeout h.just) ?_
  rintro - _ - rfl
  exact Runs.bind (keeps_closeOverdue h) fun _ s' _ h' => hk s' h'

/-- A flow that is there can be checked. -/
theorem Clear.checkable (h : Clear options s) (hidle : Idle listenEndpoint options s)
    (hflow : s.tables.flows.lookup token = some flow) :
    Checkable options.idleTimeout token flow.deadline.lastSubmissionTime s.log :=
  ⟨h.unfound token flow hflow, flow, (hidle.flows token).symm.trans hflow, rfl⟩

/-- A check of a flow. -/
theorem keeps_isExpired (h : Clear options s) (hflow : s.tables.flows.lookup token = some flow) :
    Keeps listenEndpoint options (isExpired options token flow) s fun expired s' => ∃ time,
      s' = ({ s with clock := time }).record (.checked token flow.deadline.lastSubmissionTime time) ∧
        expired = flow.deadline.expired time options.idleTimeout := by
  unfold isExpired currentTime
  refine Runs.bind (Q := fun time s' => s' = { s with clock := time }) ?_ ?_
  · exact Runs.call_bind fun elapsed => Runs.modify_bind (.single fun hidle => hidle.of_eq rfl rfl) (Runs.gets rfl)
  · rintro time _ - rfl
    have h₁ : Clear options { s with clock := time } := ⟨⟨h.unfound, h.numbered⟩, h.recorded⟩
    refine Runs.modify_bind (.single fun hidle => ?_) (Runs.pure ⟨time, rfl, rfl⟩)
    exact ⟨hidle.timely.cons ⟨h₁.recorded, h₁.checkable hidle hflow⟩, hidle.flows⟩

/-- A flow that may be sent on. -/
structure Vouched (options : UdpReactorOptions) (flow : UdpFlow) (s : UdpReactor) : Prop where
  /-- No flow was found expired. -/
  clear : Clear options s
  /-- The flow is there. -/
  lookup : s.tables.flows.lookup flow.token = some flow
  /-- It was vouched for. -/
  vouched : vouched options.idleTimeout s.log = some flow.token

theorem Vouched.calm (h : Vouched options flow s) (hcalm : Calm options s s') : Vouched options flow s' :=
  ⟨h.clear.eased hcalm.toEased, hcalm.same ▸ h.lookup, hcalm.vouched.trans h.vouched⟩

/-- **A check of a flow**, and what is done when it is expired and when it is not. -/
theorem keeps_checked {α : Type} {onExpired alive : UdpM α} {Q : α → UdpReactor → Prop} (h : Clear options s)
    (hflow : s.tables.flows.lookup token = some flow)
    (hexpired : ∀ s', Overdue options token s' → Keeps listenEndpoint options onExpired s' Q)
    (halive : ∀ time, Vouched options flow
        (({ s with clock := time }).record (.checked token flow.deadline.lastSubmissionTime time)) →
      Keeps listenEndpoint options alive
        (({ s with clock := time }).record (.checked token flow.deadline.lastSubmissionTime time)) Q) :
    Keeps listenEndpoint options (isExpired options token flow >>= fun expired =>
      if expired = true then onExpired else alive) s Q := by
  refine Runs.bind (keeps_isExpired h hflow) ?_
  rintro expired _ - ⟨time, rfl, rfl⟩
  have h₁ : Clear options { s with clock := time } := ⟨⟨h.unfound, h.numbered⟩, h.recorded⟩
  refine Runs.ite (fun hlate => hexpired _ ?_) fun hlive => halive time ?_
  · exact h₁.overdue rfl (Or.inl rfl) ((expired_iff _ _ _).mp hlate)
  · have hlive := mt (expired_iff flow time options.idleTimeout).mpr hlive
    have htoken := (h.numbered token flow hflow).1
    refine ⟨h₁.alive rfl (Or.inl rfl) hlive, ?_, (if_neg hlive).trans (congrArg some htoken.symm)⟩
    exact htoken.symm ▸ hflow

theorem keeps_expireIdleFlows (h : Clear options s) :
    Keeps listenEndpoint options (expireIdleFlows options) s fun _ => Clear options := by
  unfold expireIdleFlows
  refine Runs.bind timed_currentTime fun time s₁ _ h₁ => Runs.call_bind fun rank => Runs.gets_bind ?_
  refine Runs.forEach (Clear options) _ (fun token _ s₂ h₂ => ?_) (h.eased h₁.toEased)
  refine Runs.gets_bind ?_
  cases hlookup : s₂.tables.flows.lookup token with
  | none => exact Runs.pure h₂
  | some flow =>
    refine Runs.modify_bind (.single fun hidle =>
      ⟨hidle.timely.cons ⟨h₂.recorded, h₂.checkable hidle hlookup⟩, hidle.flows⟩) ?_
    refine Runs.ite (fun hlate => keeps_expire ?_ fun _ h₃ => Runs.pure h₃) fun hlive => Runs.pure ?_
    · exact h₂.overdue rfl (Or.inr rfl) ((expired_iff _ _ _).mp hlate)
    · exact h₂.alive rfl (Or.inr rfl) (mt (expired_iff _ _ _).mpr hlive)

/-! ### Creating -/

theorem keeps_reportStatEvent {kind : StatKind} {amount : ℕ} (hkind : kind ≠ .timeout) :
    Keeps listenEndpoint options (reportStatEvent kind amount) s fun _ => Calm options s :=
  keeps_of_timed (timed_reportStatEvent hkind)

theorem keeps_reportDiagnostic (kind : String) (error : Errno) :
    Keeps listenEndpoint options (reportDiagnostic kind error) s fun _ => Calm options s :=
  keeps_of_timed (timed_reportDiagnostic kind error)

theorem keeps_reportObservation (kind : String) (token : ℕ) (fd : ℤ) :
    Keeps listenEndpoint options (reportObservation kind token fd) s fun _ => Calm options s :=
  keeps_of_timed (timed_reportObservation kind token fd)

theorem timed_setupDrop (error : Errno) :
    Timed listenEndpoint options (Calm options s) (setupDrop error) s fun _ => Calm options s := by
  refine Runs.bind (timed_reportStatEvent (by decide)) fun _ s₁ _ h₁ => ?_
  exact (timed_reportDiagnostic _ _).mono (fun _ _ _ => h₁.trans) fun _ _ _ => h₁.trans

theorem keeps_setupDrop (error : Errno) : Keeps listenEndpoint options (setupDrop error) s fun _ => Calm options s :=
  keeps_of_timed (timed_setupDrop error)

theorem timed_openDescriptor {E : UdpReactor → Prop} (descriptor : ℕ → UdpDescriptor) :
    Timed listenEndpoint options E (openDescriptor descriptor) s fun _ => Calm options s := by
  unfold openDescriptor
  refine Runs.call_bind fun answer => Runs.gets_bind ?_
  cases answer with
  | error error => exact Runs.pure (Calm.refl s)
  | ok fd =>
    refine Runs.ite (fun _ => Runs.pure (Calm.refl s)) fun _ => ?_
    exact Runs.modify_bind (.single fun hidle => hidle.of_eq rfl rfl) (Runs.pure (Calm.of_eq rfl rfl le_rfl))

theorem keeps_eraseFlow (token : ℕ) : Keeps listenEndpoint options (eraseFlow token) s fun _ => Eased options s := by
  unfold eraseFlow
  refine Runs.gets_bind ?_
  cases hlookup : s.tables.flows.lookup token with
  | none => exact Runs.pure (Eased.refl s)
  | some flow => exact Runs.modify (.single fun hidle => hidle.erase hlookup rfl rfl) (eased_erase rfl rfl rfl)

theorem keeps_unregisterFlow (key : UdpFlowKey) (token : ℕ) (indexed : Bool) :
    Keeps listenEndpoint options (unregisterFlow key token indexed) s fun _ => Eased options s := by
  unfold unregisterFlow
  refine Runs.bind (Q := fun _ => Eased options s) (Runs.when (fun _ => ?_) fun _ => Eased.refl s) fun _ s₁ _ h₁ => ?_
  · exact Runs.modify (.single fun hidle => hidle.of_eq rfl rfl) (Calm.toEased (Calm.of_eq rfl rfl le_rfl))
  · exact (keeps_eraseFlow token).post fun _ _ _ => h₁.trans

/-- A flow that may be put in the tables: its token is its own, and its backend was selected for it. -/
structure Ready (flow : UdpFlow) (s : UdpReactor) : Prop where
  /-- No flow has its token. -/
  unused : s.tables.flows.lookup flow.token = none
  /-- Its token was given out. -/
  spent : flow.token < s.tables.nextFlowToken
  /-- Its backend was selected for it. -/
  selected : pendingSelection s.log = some flow.backend

theorem Ready.calm (h : Ready flow s) (hcalm : Calm options s s') : Ready flow s' :=
  ⟨hcalm.same ▸ h.unused, h.spent.trans_le hcalm.next, hcalm.selection.trans h.selected⟩

theorem connect_flows (tables : FlowTables) (fd : ℕ) (peer : Endpoint) :
    (tables.connect fd peer).flows = tables.flows ∧ (tables.connect fd peer).nextFlowToken = tables.nextFlowToken := by
  unfold FlowTables.connect
  split <;> exact ⟨rfl, rfl⟩

theorem keeps_prepareFlow {key : UdpFlowKey} {backend : Endpoint} {fd : ℕ} (h : Clear options s)
    (hselected : pendingSelection s.log = some backend) :
    Keeps listenEndpoint options (prepareFlow key backend fd) s fun r s' =>
      Calm options s s' ∧ ∀ flow, r = some flow → Ready flow s' := by
  have hdrop : ∀ {s₁ : UdpReactor} (error : Errno), Calm options s s₁ →
      Keeps listenEndpoint options (setupDrop error >>= fun _ => pure none : UdpM (Option UdpFlow)) s₁ fun r s' =>
        Calm options s s' ∧ ∀ flow, r = some flow → Ready flow s' := fun error h₁ =>
    Runs.bind (keeps_setupDrop error) fun _ _ _ h₂ => Runs.pure ⟨h₁.trans h₂, fun _ => nofun⟩
  unfold prepareFlow
  refine Runs.call_bind fun answer => ?_
  cases answer with
  | error error => exact hdrop error (Calm.refl s)
  | ok _ =>
  refine Runs.call_bind fun answer => ?_
  cases answer with
  | error error => exact hdrop error (Calm.refl s)
  | ok _ =>
  obtain ⟨hflows, hnext⟩ := connect_flows s.tables fd backend
  set s₁ : UdpReactor := { s with tables := s.tables.connect fd backend } with hs₁
  have h₁ : Calm options s s₁ := Calm.of_eq rfl hflows hnext.ge
  refine Runs.modify_bind (.single fun hidle => hidle.of_eq rfl hflows) (Runs.gets_bind ?_)
  refine Runs.ite (fun _ => Runs.raise trivial) fun _ => ?_
  set s₂ : UdpReactor := { s₁ with tables := { s₁.tables with nextFlowToken := s₁.tables.nextFlowToken + 1 } } with hs₂
  have h₂ : Calm options s s₂ := h₁.trans (Calm.of_eq rfl rfl (Nat.le_succ _))
  refine Runs.modify_bind (.single fun hidle => hidle.of_eq rfl rfl) ?_
  refine Runs.bind timed_currentTime fun time s₃ _ h₃ => Runs.call_bind fun allocated => ?_
  have hcalm := h₂.trans h₃
  refine Runs.ite (fun _ => hdrop _ hcalm) fun _ => Runs.call_bind fun error => ?_
  refine Runs.ite (fun _ => hdrop _ hcalm) fun _ => Runs.pure ⟨hcalm, fun flow hflow => ?_⟩
  obtain rfl := Option.some.inj hflow
  -- the token was not given out before
  refine Ready.calm ⟨?_, Nat.lt_succ_self _, h₂.selection.trans hselected⟩ h₃
  cases hlookup : s.tables.flows.lookup s₁.tables.nextFlowToken with
  | none => exact (congrArg (Finmap.lookup s₁.tables.nextFlowToken) h₂.same).trans hlookup
  | some flow =>
    have hlt := (h.numbered _ _ hlookup).2
    rw [show s₁.tables.nextFlowToken = s.tables.nextFlowToken from hnext] at hlt
    exact absurd hlt (lt_irrefl _)

theorem keeps_owning {fd : ℕ} {m : UdpM (Option UdpFlow)}
    (h : Keeps listenEndpoint options m s fun r s' => Calm options s s' ∧ ∀ flow, r = some flow → Ready flow s') :
    Keeps listenEndpoint options (owning fd m) s fun r s' => Calm options s s' ∧ ∀ flow, r = some flow → Ready flow s' := by
  refine Runs.bind (Runs.handle h fun e s₁ _ _ => ?_) fun r s₁ _ h₁ => ?_
  · exact Runs.bind (timed_destroyFd fd) fun _ _ _ _ => Runs.raise trivial
  · cases r with
    | none => exact Runs.bind (timed_destroyFd fd) fun _ _ _ h₂ => Runs.pure ⟨h₁.1.trans h₂, fun _ => nofun⟩
    | some flow =>
      refine Runs.pure ⟨h₁.1, fun flow' hflow' => ?_⟩
      obtain rfl := Option.some.inj hflow'
      exact h₁.2 _ rfl

theorem keeps_registerFlowIndexesAndSocket {key : UdpFlowKey} (h : Clear options s) (hready : Ready flow s) :
    Keeps listenEndpoint options (registerFlowIndexesAndSocket key flow.token flow) s fun r s' =>
      Clear options s' ∧ (r = true → Vouched options flow s') := by
  -- the catch clauses
  have hdrop : ∀ {s₁ : UdpReactor} (indexed : Bool), Eased options s s₁ →
      Keeps listenEndpoint options (unregisterFlow key flow.token indexed >>= fun _ =>
        ensure (destroyFd flow.fd) (setupDrop .ENOMEM >>= fun _ => pure false)) s₁ fun r s' =>
          Clear options s' ∧ (r = true → Vouched options flow s') := by
    intro s₁ indexed h₁
    refine Runs.bind (keeps_unregisterFlow key flow.token indexed) fun _ s₂ _ h₂ => ?_
    refine Runs.ensure (Q := fun r s' => r = false ∧ Eased options s s') (E := fun _ _ => True) ?_ ?_ ?_
    · exact Runs.bind (keeps_setupDrop _) fun _ _ _ h₃ => Runs.pure ⟨rfl, (h₁.trans h₂).trans h₃.toEased⟩
    · rintro r s₃ - ⟨rfl, h₃⟩
      exact (timed_destroyFd flow.fd).post fun _ _ _ h₄ => ⟨h.eased (h₃.trans h₄.toEased), nofun⟩
    · exact fun _ s₃ _ _ => (timed_destroyFd flow.fd).post fun _ _ _ _ => trivial
  unfold registerFlowIndexesAndSocket
  refine Runs.call_bind fun allocated => Runs.ite (fun _ => hdrop false (Eased.refl s)) fun _ => ?_
  refine Runs.modify_bind (.single fun hidle => hidle.of_eq rfl rfl) (Runs.call_bind fun allocated => ?_)
  set s₁ : UdpReactor := { s with tables := { s.tables with
    flowTokensByKey := Table.emplace s.tables.flowTokensByKey key flow.token } } with hs₁
  have h₁ : Calm options s s₁ := Calm.of_eq rfl rfl le_rfl
  have hready₁ := hready.calm h₁
  refine Runs.ite (fun _ => hdrop true h₁.toEased) fun _ => ?_
  have hnew : flow.token ∉ s₁.tables.flows := Finmap.lookup_eq_none.mp hready₁.unused
  set s₂ : UdpReactor := { s₁ with
    tables := { s₁.tables with flows := Table.emplace s₁.tables.flows flow.token flow }
    log := .inserted flow (s₁.tables.descriptors.lookup flow.fd) :: s₁.log } with hs₂
  have hlookup : ∀ t, s₂.tables.flows.lookup t =
      if flow.token = t then some flow else s₁.tables.flows.lookup t := by
    intro t
    change (Table.emplace s₁.tables.flows flow.token flow).lookup t = _
    rw [Table.emplace_of_notMem hnew]
    by_cases ht : flow.token = t
    · subst ht
      rw [Finmap.lookup_insert, if_pos rfl]
    · rw [Finmap.lookup_insert_of_ne _ (Ne.symm ht), if_neg ht]
  have h₂ : Vouched options flow s₂ := by
    have hclear := h.eased h₁.toEased
    refine ⟨⟨⟨fun t flow' hflow' hfound => ?_, fun t flow' hflow' => ?_⟩, hclear.recorded⟩,
      (hlookup _).trans (if_pos rfl), rfl⟩
    · obtain ⟨hne, hold⟩ := hfound
      rw [hlookup, if_neg hne] at hflow'
      exact hclear.unfound t flow' hflow' hold
    · rw [hlookup] at hflow'
      split at hflow'
      · rename_i ht
        obtain rfl := Option.some.inj hflow'
        exact ⟨ht, ht ▸ hready₁.spent⟩
      · exact hclear.numbered t flow' hflow'
  refine Runs.modify_bind (.single fun hidle => ⟨hidle.timely.cons hready₁.selected, fun t => ?_⟩)
    (Runs.call_bind fun answer => ?_)
  · rw [hlookup, hidle.flows]
    rfl
  cases answer with
  | ok _ => exact Runs.pure ⟨h₂.clear, fun _ => h₂⟩
  | error error =>
    refine Runs.bind (keeps_unregisterFlow key flow.token true) fun _ s₃ _ h₃ => ?_
    refine Runs.ite (fun _ => Runs.raise trivial) fun _ => ?_
    exact Runs.bind (keeps_setupDrop error) fun _ _ _ h₄ =>
      Runs.pure ⟨h₂.clear.eased (h₃.trans h₄.toEased), nofun⟩

theorem keeps_establishFlow {key : UdpFlowKey} (h : Clear options s) :
    Keeps listenEndpoint options (establishFlow options key) s fun r s' =>
      Clear options s' ∧ ∀ flow, r = some flow → Vouched options flow s' := by
  unfold establishFlow
  refine Runs.gets_bind (Runs.ite (fun _ => ?_) fun _ => Runs.call_bind fun answer => ?_)
  · refine Runs.bind (keeps_reportStatEvent (by decide)) fun _ s₁ _ h₁ => ?_
    exact Runs.bind (keeps_reportDiagnostic _ _) fun _ _ _ h₂ =>
      Runs.pure ⟨h.eased (h₁.trans h₂).toEased, fun _ => nofun⟩
  cases answer with
  | error exception => exact Runs.raise trivial
  | ok selected =>
  set s₁ := s.record (.selected selected) with hs₁
  have h₁ : Clear options s₁ := ⟨⟨h.unfound, h.numbered⟩, h.recorded⟩
  refine Runs.modify_bind (.single fun hidle => ⟨hidle.timely.cons trivial, hidle.flows⟩) ?_
  cases selected with
  | none =>
    exact Runs.bind (keeps_reportStatEvent (by decide)) fun _ _ _ h₂ =>
      Runs.pure ⟨h₁.eased h₂.toEased, fun _ => nofun⟩
  | some backend =>
  refine Runs.bind (timed_openDescriptor _) fun opened s₂ _ h₂ => ?_
  cases opened with
  | error error =>
    exact Runs.bind (keeps_setupDrop error) fun _ _ _ h₃ =>
      Runs.pure ⟨h₁.eased (h₂.trans h₃).toEased, fun _ => nofun⟩
  | ok fd =>
  have hclear := h₁.eased h₂.toEased
  refine Runs.bind (keeps_owning (keeps_prepareFlow hclear (h₂.selection.trans rfl))) fun r s₃ _ h₃ => ?_
  cases r with
  | none => exact Runs.pure ⟨hclear.eased h₃.1.toEased, fun _ => nofun⟩
  | some flow =>
    refine Runs.bind (keeps_registerFlowIndexesAndSocket (hclear.eased h₃.1.toEased) (h₃.2 flow rfl))
      fun registered s₄ _ h₄ => Runs.ite (fun hr => Runs.pure ⟨h₄.1, fun flow' hflow' => ?_⟩) fun _ =>
        Runs.pure ⟨h₄.1, fun _ => nofun⟩
    obtain rfl := Option.some.inj hflow'
    exact h₄.2 hr

/-- A token that was found or made for a datagram: `0` for none. -/
def Resolved (options : UdpReactorOptions) (token : ℕ) (s : UdpReactor) : Prop :=
  Clear options s ∧ (token ≠ 0 → ∃ flow, flow.token = token ∧ Vouched options flow s)

theorem keeps_createFlow {key : UdpFlowKey} (h : Clear options s) :
    Keeps listenEndpoint options (createFlow options key) s (Resolved options) := by
  have hnote : ∀ (before : FlowTables) {s₁ : UdpReactor},
      Keeps listenEndpoint options (recordAbandoned key before) s₁ fun _ => Calm options s₁ := by
    intro before s₁
    have habandoned : (UdpEvent.abandoned key before s₁.tables).IsReport := trivial
    exact Runs.modify (.single fun hidle => hidle.report habandoned) habandoned.calm
  unfold createFlow
  refine Runs.bind (keeps_expireIdleFlows h) fun _ s₁ _ h₁ => Runs.gets_bind ?_
  refine Runs.bind (Runs.handle (keeps_establishFlow h₁) fun e s₂ _ _ => ?_) fun established s₂ _ h₂ => ?_
  · exact Runs.bind (hnote _) fun _ _ _ _ => Runs.raise trivial
  · cases established with
    | none =>
      exact Runs.bind (hnote _) fun _ _ _ h₃ =>
        Runs.pure ⟨h₂.1.eased h₃.toEased, fun hne => absurd rfl hne⟩
    | some flow =>
      have hvouched := h₂.2 flow rfl
      refine Runs.bind (keeps_reportStatEvent (by decide)) fun _ s₃ _ h₃ => ?_
      refine Runs.bind (keeps_reportObservation _ _ _) fun _ s₄ _ h₄ => ?_
      refine Runs.bind (keeps_of_timed (timed_notify (by trivial))) fun _ s₅ _ h₅ => Runs.pure ?_
      have hcalm := (h₃.trans h₄).trans h₅
      exact ⟨h₂.1.eased hcalm.toEased, fun _ => ⟨flow, rfl, hvouched.calm hcalm⟩⟩

/-! ### Moving a datagram -/

theorem keeps_handleSocketError {code : Errno} {listener : Bool} {kind : String} (hkind : kind ≠ "idle-timeout") :
    Keeps listenEndpoint options (handleSocketError code listener token kind) s fun _ => Eased options s := by
  have herror : Keeps listenEndpoint options
      (when (code ≠ .EAGAIN ∧ code ≠ .EWOULDBLOCK ∧ code ≠ .EINTR)
        (reportStatEvent .error)) s
      fun _ => Calm options s :=
    Runs.when (fun _ => keeps_reportStatEvent (by decide)) fun _ => Calm.refl s
  have hgoOn : Keeps listenEndpoint options (do
      when (code ≠ .EAGAIN ∧ code ≠ .EWOULDBLOCK ∧ code ≠ .EINTR) (reportStatEvent .error)
      reportDiagnostic kind code
      pure true : UdpM Bool) s fun _ => Eased options s :=
    Runs.bind herror fun _ _ _ h₁ => Runs.bind (keeps_reportDiagnostic _ _) fun _ _ _ h₂ =>
      Runs.pure (h₁.trans h₂).toEased
  unfold handleSocketError
  refine Runs.ite (fun _ => Runs.raise trivial) fun _ => Runs.ite (fun _ => ?_) fun _ =>
    Runs.ite (fun _ => hgoOn) fun _ => ?_
  · exact Runs.ite (fun _ => Runs.raise trivial) fun _ => hgoOn
  · refine Runs.bind herror fun _ s₁ _ h₁ => ?_
    exact Runs.bind (keeps_of_timed (timed_closeFlow fun he => absurd he hkind)) fun _ _ _ h₂ =>
      Runs.pure (h₁.toEased.trans h₂.1)

/-- What is thrown away of a datagram leaves no flow found expired. -/
theorem keeps_drop {α : Type} {kind : String} {a : α} {Q : α → UdpReactor → Prop} (h : Clear options s)
    (hQ : ∀ s', Clear options s' → Q a s') :
    Keeps listenEndpoint options (do reportStatEvent .dropped; reportDiagnostic kind; pure a : UdpM α) s Q :=
  Runs.bind (keeps_reportStatEvent (by decide)) fun _ _ _ h₁ => Runs.bind (keeps_reportDiagnostic _ _) fun _ _ _ h₂ =>
    Runs.pure (hQ _ (h.eased (h₁.trans h₂).toEased))

theorem handed_isReport (via : Option UdpDescriptor) (message : UdpMessage) : (UdpEvent.handed via message).IsReport :=
  trivial

/-- A datagram goes by a flow that was vouched for. -/
theorem Vouched.answer (h : Vouched options flow s) (hdirected : Directed listenEndpoint flow s.log)
    (hidle : Idle listenEndpoint options s) (size : ℕ) (result : Except Errno ℕ) :
    Idle listenEndpoint options (s.record (.answered flow.token size result)) := by
  refine ⟨hidle.timely.cons ⟨h.clear.recorded, h.vouched, h.clear.unfound _ _ h.lookup, flow, ?_, hdirected⟩, hidle.flows⟩
  rw [← hidle.flows, h.lookup]

theorem FlowTables.recordSubmission_of_none {tables : FlowTables} {now : Time}
    (h : tables.flows.lookup token = none) : tables.recordSubmission token now = tables := by
  unfold recordSubmission
  rw [h]

/-- The deadline of a flow moves when the whole of a datagram was taken. -/
theorem Idle.refresh (hidle : Idle listenEndpoint options s) {size : ℕ} {time : Time}
    (hanswer : lastAnswer s.log = some (token, size, .ok size)) : Idle listenEndpoint options (s.refresh token time) := by
  refine ⟨hidle.timely.cons ⟨size, hanswer⟩, fun t => ?_⟩
  have hflow := hidle.flows token
  change (s.tables.recordSubmission token time).flows.lookup t = flowOf t (.refreshed token time :: s.log)
  rw [flowOf, ← hidle.flows t]
  cases hlookup : s.tables.flows.lookup token with
  | none =>
    rw [FlowTables.recordSubmission_of_none hlookup]
    split
    · rename_i ht
      subst ht
      rw [hlookup]
      rfl
    · rfl
  | some flow =>
    rw [FlowTables.recordSubmission_of_lookup hlookup]
    by_cases ht : token = t
    · subst ht
      rw [Finmap.lookup_insert, if_pos rfl, hlookup]
      rfl
    · rw [Finmap.lookup_insert_of_ne _ (Ne.symm ht), if_neg ht]

theorem Unexpired.refresh (h : Unexpired options s) (token : ℕ) (time : Time) : Clear options (s.refresh token time) := by
  have hback : ∀ t flow', (s.tables.recordSubmission token time).flows.lookup t = some flow' →
      ∃ flow, s.tables.flows.lookup t = some flow ∧ flow.token = flow'.token := by
    intro t flow' hflow'
    cases hlookup : s.tables.flows.lookup token with
    | none =>
      rw [FlowTables.recordSubmission_of_none hlookup] at hflow'
      exact ⟨flow', hflow', rfl⟩
    | some flow =>
      rw [FlowTables.recordSubmission_of_lookup hlookup] at hflow'
      by_cases ht : t = token
      · subst ht
        rw [Finmap.lookup_insert] at hflow'
        obtain rfl := Option.some.inj hflow'
        exact ⟨flow, hlookup, rfl⟩
      · rw [Finmap.lookup_insert_of_ne _ ht] at hflow'
        exact ⟨flow', hflow', rfl⟩
  have hnext : (s.tables.recordSubmission token time).nextFlowToken = s.tables.nextFlowToken := by
    unfold FlowTables.recordSubmission
    split <;> rfl
  refine ⟨⟨fun t flow' hflow' hfound => ?_, fun t flow' hflow' => ?_⟩, fun _ _ h => by cases h⟩
  · obtain ⟨flow, hflow, -⟩ := hback t flow' hflow'
    exact h.unfound t flow hflow hfound
  · obtain ⟨flow, hflow, htoken⟩ := hback t flow' hflow'
    obtain ⟨hself, hlt⟩ := h.numbered t flow hflow
    exact ⟨htoken.symm.trans hself, hnext.symm ▸ hlt⟩

/-- A datagram is to go by a flow that was vouched for, and that has its key if it is a client's. -/
structure Cleared (listenEndpoint : Endpoint) (options : UdpReactorOptions) (flow : UdpFlow) (s : UdpReactor) : Prop where
  /-- The flow was vouched for. -/
  vouched : Vouched options flow s
  /-- It is the datagram's. -/
  directed : Directed listenEndpoint flow s.log

theorem keeps_sendAttempt {fd size : ℕ} {reply : Bool} (h : Cleared listenEndpoint options flow s) :
    Keeps listenEndpoint options (sendAttempt flow fd size reply) s
      (Runs.Pass (Cleared listenEndpoint options flow) fun _ => Clear options) := by
  unfold sendAttempt
  refine Runs.gets_bind ?_
  set message := flowMessage flow (s.receiveBuffer.take size) reply
  have hhanded := handed_isReport (s.tables.descriptors.lookup fd) message
  have h₁ : Vouched options flow (s.record (.handed (s.tables.descriptors.lookup fd) message)) :=
    h.vouched.calm hhanded.calm
  refine Runs.modify_bind (.single fun hidle => hidle.report hhanded) (Runs.call_bind fun answer => ?_)
  set s₂ := (s.record (.handed (s.tables.descriptors.lookup fd) message)).record (.answered flow.token size answer) with hs₂
  have h₂ : Unexpired options s₂ := ⟨h₁.clear.unfound, h₁.clear.numbered⟩
  have hclear : (∀ sentBytes, answer = .ok sentBytes → sentBytes ≠ size) → Clear options s₂ := by
    refine fun hpart => ⟨h₂, fun t size' hanswer => ?_⟩
    obtain ⟨-, rfl, rfl⟩ := Prod.mk.injEq .. ▸ Prod.mk.injEq .. ▸ Option.some.inj hanswer
    exact hpart _ rfl rfl
  refine Runs.modify_bind (.single fun hidle => h₁.answer h.directed hidle size answer) ?_
  cases answer with
  | ok sentBytes =>
    refine Runs.ite (fun hwhole => ?_) fun hpart => ?_
    · -- the bytes, then the datagram, then the time it was sent
      subst hwhole
      refine Runs.bind (keeps_reportStatEvent (by cases reply <;> decide)) fun _ s₃ _ h₃ => ?_
      refine Runs.bind (keeps_reportStatEvent (by cases reply <;> decide)) fun _ s₄ _ h₄ => ?_
      refine Runs.bind timed_currentTime fun time s₅ _ h₅ => ?_
      have hcalm := (h₃.trans h₄).trans h₅
      refine Runs.modify_bind (.single fun hidle => hidle.refresh (hcalm.answer.trans rfl)) ?_
      have h₆ := (h₂.eased hcalm.toEased).refresh flow.token time
      exact Runs.bind (keeps_reportObservation _ _ _) fun _ _ _ h₇ => Runs.pure (h₆.eased h₇.toEased)
    · have h₂ := hclear fun _ he => (Except.ok.inj he) ▸ hpart
      refine Runs.bind (keeps_reportStatEvent (by decide)) fun _ s₃ _ h₃ => ?_
      exact keeps_drop (h₂.eased h₃.toEased) fun _ h₄ => h₄
  | error error =>
    have h₂ := hclear fun _ => nofun
    refine Runs.ite (fun hagain => Runs.pure ?_) fun _ => ?_
    · subst hagain
      exact ⟨⟨h₂, h₁.lookup, h₁.vouched⟩, h.directed⟩
    · refine Runs.bind (keeps_reportStatEvent (by decide)) fun _ s₃ _ h₃ => ?_
      refine Runs.bind (keeps_handleSocketError (by cases reply <;> decide)) fun _ _ _ h₄ => Runs.pure ?_
      exact (h₂.eased h₃.toEased).eased h₄

theorem keeps_sendFlowDatagram {size : ℕ} {reply : Bool} (h : Cleared listenEndpoint options flow s) :
    Keeps listenEndpoint options (sendFlowDatagram flow size reply) s fun _ => Clear options := by
  unfold sendFlowDatagram
  refine Runs.gets_bind ?_
  refine Runs.bind (Runs.attempts (Q := fun _ => Clear options) (Cleared listenEndpoint options flow)
    (fun _ => keeps_sendAttempt) 4 h) fun r s₁ _ h₁ => ?_
  cases r with
  | some _ => exact Runs.pure h₁
  | none =>
    refine Runs.bind (keeps_reportStatEvent (by decide)) fun _ s₂ _ h₂ => ?_
    exact (keeps_reportDiagnostic _ _).post fun _ _ _ h₃ => h₁.vouched.clear.eased (h₂.trans h₃).toEased

theorem keeps_createFlowForDatagram {key : UdpFlowKey} (h : Clear options s) :
    Keeps listenEndpoint options (createFlowForDatagram options key) s (Resolved options) :=
  Runs.handle (keeps_createFlow h) fun _ _ _ _ =>
    Runs.bind (keeps_reportStatEvent (by decide)) fun _ _ _ _ => Runs.raise trivial

theorem keeps_resolveFlowTokenForDatagram {key : UdpFlowKey} (h : Clear options s) :
    Keeps listenEndpoint options (resolveFlowTokenForDatagram options key) s (Resolved options) := by
  unfold resolveFlowTokenForDatagram
  refine Runs.gets_bind ?_
  cases s.tables.flowTokensByKey.lookup key with
  | none => exact keeps_createFlowForDatagram h
  | some token =>
    refine Runs.gets_bind ?_
    cases hflow : s.tables.flows.lookup token with
    | none => exact Runs.raise trivial
    | some flow =>
      refine keeps_checked h hflow (fun s₁ h₁ => keeps_expire h₁ fun _ => keeps_createFlowForDatagram) fun time h₁ => ?_
      exact Runs.pure ⟨h₁.clear, fun _ => ⟨flow, (h.numbered token flow hflow).1, h₁⟩⟩

/-- A datagram was taken. -/
theorem keeps_receiveDatagram (h : Clear options s) (fd : ℕ) :
    Keeps listenEndpoint options (receiveDatagram options fd) s fun r s' =>
      match r with
      | .error _ => s' = s
      | .ok _ => s'.tables = s.tables ∧
          (∃ receipt, s'.log = .received (s.tables.descriptors.lookup fd) receipt :: s.log) := by
  unfold receiveDatagram
  refine Runs.call_bind fun answer => ?_
  cases answer with
  | error error => exact Runs.pure rfl
  | ok receipt =>
    exact Runs.modify_bind (.single fun hidle => ⟨hidle.timely.cons h.recorded, hidle.flows⟩)
      (Runs.pure ⟨rfl, receipt, rfl⟩)

theorem Clear.received (h : Clear options s) {source : Option UdpDescriptor} {receipt : UdpReceipt}
    (htables : s'.tables = s.tables) (hlog : s'.log = .received source receipt :: s.log) : Clear options s' := by
  refine ⟨⟨fun t flow hflow hfound => ?_, htables ▸ h.numbered⟩, ?_⟩
  · rw [htables] at hflow
    rw [hlog] at hfound
    exact h.unfound t flow hflow hfound
  · rw [hlog]
    exact h.recorded

/-- Between calls: the tables agree, and no flow found expired is left. -/
structure Alive (options : UdpReactorOptions) (s : UdpReactor) : Prop where
  /-- The tables agree, and every datagram is accounted for. -/
  settled : Settled options s
  /-- No flow found expired is left. -/
  clear : Clear options s

/-- What is known of the tables is known of runs that keep the deadlines. -/
theorem keeps_both {α : Type} {E : UdpError → UdpReactor → Prop} {m : UdpM α} {Q Q' : α → UdpReactor → Prop}
    (hsettled : Runs (UdpStep listenEndpoint) E m s Q')
    (hclear : Keeps listenEndpoint options m s Q) :
    Keeps listenEndpoint options m s fun r s' => Q r s' ∧ Q' r s' :=
  (Runs.both hclear hsettled).mono (fun _ _ _ _ => trivial) fun _ _ _ h => h

theorem keeps_alive {α : Type} {E : UdpError → UdpReactor → Prop} {m : UdpM α}
    (hsettled : Runs (UdpStep listenEndpoint) E m s fun _ => Settled options)
    (hclear : Keeps listenEndpoint options m s fun _ => Clear options) :
    Keeps listenEndpoint options m s fun _ => Alive options :=
  (keeps_both hsettled hclear).post fun _ _ _ h => ⟨h.2, h.1⟩

theorem keeps_listenerReadAttempt (h : Alive options s) :
    Keeps listenEndpoint options (listenerReadAttempt listenEndpoint options) s fun _ => Clear options := by
  unfold listenerReadAttempt
  refine Runs.gets_bind (Runs.bind (keeps_both (E := fun _ _ => True) (runs_receiveDatagram h.settled)
      (keeps_receiveDatagram h.clear _))
    fun r s₁ _ ⟨h₁, hs₁⟩ => ?_)
  cases r with
  | error error =>
    obtain rfl := h₁
    refine Runs.ite (fun _ => Runs.pure h.clear) fun _ => Runs.ite (fun _ => Runs.pure h.clear) fun _ => ?_
    exact Runs.bind (keeps_handleSocketError (by decide)) fun _ _ _ h₂ => Runs.pure (h.clear.eased h₂)
  | ok receipt =>
    obtain ⟨htables, taken, hlog⟩ := h₁
    obtain ⟨-, htaken⟩ := hs₁
    rw [h.settled.consistent.listener] at htaken
    have h₁ := h.clear.received htables hlog
    refine Runs.ite (fun _ => keeps_drop h₁ fun _ h₂ => h₂) fun _ => ?_
    cases hparsed : parsePacketMetadata listenEndpoint receipt with
    | none => exact keeps_drop h₁ fun _ h₂ => h₂
    | some key =>
      refine Runs.bind (keeps_both (runs_resolveFlowTokenForDatagram htaken hparsed) (keeps_resolveFlowTokenForDatagram h₁))
        fun token s₂ _ ⟨h₂, htaken₂, hfound⟩ => Runs.ite (fun hne => ?_) fun _ => ?_
      · obtain ⟨flow, rfl, hvouched⟩ := h₂.2 hne
        obtain ⟨flow', hflow', hkey⟩ := hfound hne
        rw [hvouched.lookup] at hflow'
        obtain rfl := Option.some.inj hflow'
        have hdirected : Directed listenEndpoint flow s₂.log := by
          intro receipt' hlast
          rw [htaken₂.last] at hlast
          obtain ⟨-, rfl⟩ := Prod.mk.inj (Option.some.inj hlast)
          rw [hparsed, hkey]
        refine Runs.gets_bind ?_
        rw [hvouched.lookup]
        exact Runs.bind (keeps_sendFlowDatagram ⟨hvouched, hdirected⟩) fun _ _ _ h₃ => Runs.pure h₃
      · exact Runs.bind (keeps_reportStatEvent (by decide)) fun _ _ _ h₃ => Runs.pure (h₂.1.eased h₃.toEased)

theorem keeps_handleListenerRead (h : Alive options s) :
    Keeps listenEndpoint options (handleListenerRead listenEndpoint options) s fun _ => Clear options := by
  unfold handleListenerRead
  refine Runs.bind (Runs.attempts (Q := fun _ => Alive options) (Alive options) (fun s' h' => ?_) 64 h) fun r s₁ _ h₁ => ?_
  · refine (keeps_alive (runs_listenerReadAttempt h'.settled) (keeps_listenerReadAttempt h')).post fun r _ _ h'' => ?_
    cases r <;> exact h''
  · cases r with
    | some _ => exact Runs.pure (Alive.clear h₁)
    | none => exact (keeps_reportObservation _ _ _).post fun _ _ _ h₂ => (Alive.clear h₁).eased h₂.toEased

theorem Vouched.received (h : Vouched options flow s) {source : Option UdpDescriptor} {receipt : UdpReceipt}
    (hsource : source ≠ some .listener) (htables : s'.tables = s.tables)
    (hlog : s'.log = .received source receipt :: s.log) : Vouched options flow s' := by
  refine ⟨h.clear.received htables hlog, htables ▸ h.lookup, ?_⟩
  rw [hlog]
  exact (if_neg hsource).trans h.vouched

theorem keeps_backendReadAttempt (hs : Settled options s) (h : Clear options s) :
    Keeps listenEndpoint options (backendReadAttempt options token) s fun _ => Clear options := by
  unfold backendReadAttempt
  refine Runs.gets_bind ?_
  cases hflow : s.tables.flows.lookup token with
  | none => exact Runs.pure h
  | some flow =>
  obtain ⟨serial, hsocket⟩ := hs.consistent.tables.socket hflow
  have hsource : s.tables.descriptors.lookup flow.fd ≠ some .listener := by
    rw [hsocket]
    nofun
  refine keeps_checked h hflow (fun s₁ h₁ => keeps_expire h₁ fun _ h₂ => Runs.pure h₂) fun time h₁ => ?_
  refine Runs.bind (keeps_receiveDatagram h₁.clear flow.fd) fun r s₂ _ h₂ => ?_
  cases r with
  | error error =>
    obtain rfl := h₂
    refine Runs.ite (fun _ => Runs.pure h₁.clear) fun _ => Runs.ite (fun _ => Runs.pure h₁.clear) fun _ => ?_
    exact Runs.bind (keeps_handleSocketError (by decide)) fun _ _ _ h₃ => Runs.pure (h₁.clear.eased h₃)
  | ok receipt =>
    obtain ⟨htables, taken, hlog⟩ := h₂
    have h₂ := h₁.received hsource htables hlog
    refine Runs.ite (fun _ => keeps_drop h₂.clear fun _ h₃ => h₃) fun _ => ?_
    have hdirected : Directed listenEndpoint flow s₂.log := by
      intro receipt' hlast
      rw [hlog] at hlast
      exact absurd (Prod.mk.inj (Option.some.inj hlast)).1 hsource
    exact Runs.bind (keeps_sendFlowDatagram ⟨h₂, hdirected⟩) fun _ _ _ h₃ => Runs.pure h₃

theorem keeps_handleBackendRead (h : Alive options s) :
    Keeps listenEndpoint options (handleBackendRead options token) s fun _ => Clear options := by
  unfold handleBackendRead
  refine Runs.bind (Runs.attempts (Q := fun _ => Alive options) (Alive options) (fun s' h' => ?_) 64 h) fun r s₁ _ h₁ => ?_
  · refine (keeps_alive (runs_backendReadAttempt h'.settled)
      (keeps_backendReadAttempt h'.settled h'.clear)).post fun r _ _ h'' => ?_
    cases r <;> exact h''
  · cases r with
    | some _ => exact Runs.pure (Alive.clear h₁)
    | none => exact (keeps_reportObservation _ _ _).post fun _ _ _ h₂ => (Alive.clear h₁).eased h₂.toEased

/-! ### Events -/

theorem keeps_readSocketError {listener : Bool} {fd : ℕ} (h : Clear options s) :
    Keeps listenEndpoint options (readSocketError token listener fd) s fun _ => Clear options := by
  unfold readSocketError
  refine Runs.call_bind fun answer => ?_
  cases answer with
  | error error =>
    refine Runs.ite (fun _ => Runs.raise trivial) fun _ => Runs.ite (fun _ => Runs.raise trivial) fun _ => ?_
    refine Runs.bind (Q := fun _ => Calm options s) (Runs.when (fun _ => keeps_reportStatEvent (by decide)) fun _ =>
      Calm.refl s) fun _ s₁ _ h₁ => ?_
    have hreason : "socket-error-read" ≠ "idle-timeout" := by decide
    exact Runs.bind (keeps_of_timed (timed_closeFlow fun he => absurd he hreason)) fun _ _ _ h₂ =>
      Runs.pure (h.eased (h₁.toEased.trans h₂.1))
  | ok code =>
    refine Runs.bind (keeps_reportObservation _ _ _) fun _ s₁ _ h₁ => ?_
    have h₁ := h.eased h₁.toEased
    refine Runs.ite (fun _ => ?_) fun _ => Runs.pure h₁
    exact (keeps_handleSocketError (by cases listener <;> decide)).post fun _ _ _ h₂ => h₁.eased h₂

theorem keeps_dispatchReadyEvent {events : EpollEvents} {listener : Bool} {fd : ℕ} (h : Alive options s) :
    Keeps listenEndpoint options (dispatchReadyEvent listenEndpoint options token events listener fd) s
      fun _ => Clear options := by
  unfold dispatchReadyEvent
  refine Runs.bind (Q := fun _ => Alive options) (Runs.ite (fun _ => ?_) fun _ => Runs.pure h) fun proceed s₁ _ h₁ => ?_
  · exact keeps_alive (runs_readSocketError h.settled) (keeps_readSocketError h.clear)
  refine Runs.ite (fun _ => Runs.pure h₁.clear) fun _ => Runs.ite (fun _ => ?_) fun _ => Runs.ite (fun _ => ?_)
    fun _ => Runs.pure h₁.clear
  · refine Runs.ite (fun _ => Runs.raise trivial) fun _ => ?_
    refine Runs.bind (keeps_reportStatEvent (by decide)) fun _ s₂ _ h₂ => ?_
    have hreason : "backend-hup" ≠ "idle-timeout" := by decide
    exact (keeps_of_timed (timed_closeFlow fun he => absurd he hreason)).post fun _ _ _ h₃ =>
      h₁.clear.eased (h₂.toEased.trans h₃.1)
  · exact Runs.ite (fun _ => keeps_handleListenerRead h₁) fun _ => keeps_handleBackendRead h₁

theorem keeps_dispatchFlowEvent {events : EpollEvents} (h : Alive options s) :
    Keeps listenEndpoint options (dispatchFlowEvent listenEndpoint options token events) s fun _ => Clear options := by
  unfold dispatchFlowEvent
  refine Runs.ite (fun _ => Runs.pure h.clear) fun _ => Runs.ite (fun _ => ?_) fun _ => Runs.gets_bind ?_
  · exact Runs.gets_bind (keeps_dispatchReadyEvent h)
  cases hflow : s.tables.flows.lookup token with
  | none => exact (keeps_reportObservation _ _ _).post fun _ _ _ h₁ => h.clear.eased h₁.toEased
  | some flow =>
    refine keeps_checked h.clear hflow (fun s₁ h₁ => ?_) fun time h₁ => keeps_dispatchReadyEvent ⟨?_, h₁.clear⟩
    · refine Runs.bind (keeps_countTimeout h₁.just) ?_
      rintro - _ - rfl
      exact keeps_closeOverdue h₁
    · have hchecked : (UdpEvent.checked token flow.deadline.lastSubmissionTime time).Plain := trivial
      exact Settled.stable _ _ hchecked.frame (Settled.stable s _ (Frame.of_eq rfl rfl rfl rfl) h.settled)

theorem keeps_consumeStopSignals : Keeps listenEndpoint options consumeStopSignals s fun _ s' => s' = s := by
  unfold consumeStopSignals
  refine Runs.call_bind fun answer => ?_
  cases answer with
  | ok bytes => exact Runs.ite (fun _ => Runs.pure rfl) fun _ => Runs.raise trivial
  | error error => exact Runs.ite (fun _ => Runs.pure rfl) fun _ => Runs.raise trivial

theorem keeps_runCallback (answer : Option ℕ) : Keeps listenEndpoint options (runCallback answer) s fun _ s' => s' = s := by
  cases answer with
  | none => exact Runs.pure rfl
  | some exception => exact Runs.raise trivial

theorem keeps_dispatchEvents {events : List (ℕ × EpollEvents)} (h : Alive options s) :
    Keeps listenEndpoint options (dispatchEvents listenEndpoint options events) s fun _ => Alive options := by
  induction events generalizing s with
  | nil => exact Runs.pure h
  | cons event events ih =>
    refine Runs.bind keeps_consumeStopSignals ?_
    rintro stop _ - rfl
    refine Runs.ite (fun _ => Runs.pure h) fun _ => ?_
    exact Runs.bind (keeps_alive (runs_dispatchFlowEvent h.settled) (keeps_dispatchFlowEvent h))
      fun _ _ _ h₁ => ih h₁

theorem Alive.keeps_expireIdleFlows (h : Alive options s) :
    Keeps listenEndpoint options (expireIdleFlows options) s fun _ => Alive options :=
  keeps_alive h.settled.runs_expireIdleFlows (Net.keeps_expireIdleFlows h.clear)

theorem keeps_udpEventPass {u : Unit} (h : Alive options s) :
    Keeps listenEndpoint options (udpEventPass listenEndpoint options u) s fun _ => Alive options := by
  unfold udpEventPass
  refine Runs.bind keeps_consumeStopSignals ?_
  rintro stop _ - rfl
  refine Runs.ite (fun _ => Runs.pure h) fun _ => ?_
  refine Runs.bind h.keeps_expireIdleFlows fun _ s₁ _ h₁ => Runs.call_bind fun answer => ?_
  cases answer with
  | error error => exact Runs.ite (fun _ => Runs.pure h₁) fun _ => Runs.raise trivial
  | ok events =>
    refine Runs.bind keeps_consumeStopSignals ?_
    rintro stop _ - rfl
    refine Runs.ite (fun _ => Runs.pure h₁) fun _ => ?_
    refine Runs.bind h₁.keeps_expireIdleFlows fun _ s₂ _ h₂ => Runs.call_bind fun answer => ?_
    refine Runs.bind (keeps_runCallback answer) ?_
    rintro - _ - rfl
    refine Runs.bind (keeps_dispatchEvents h₂) fun finished s₃ _ h₃ => ?_
    exact Runs.ite (fun _ => Runs.pure h₃) fun _ => Runs.pure h₃

theorem keeps_runUdpEventLoop (h : Alive options s) :
    Keeps listenEndpoint options (runUdpEventLoop listenEndpoint options) s fun _ _ => True := by
  unfold runUdpEventLoop
  refine Runs.call_bind fun answer => Runs.bind (keeps_runCallback answer) ?_
  rintro - _ - rfl
  refine Runs.loop (fun _ => Alive options) (fun u s₁ h₁ => (keeps_udpEventPass h₁).post fun r s₂ _ h₂ => ?_) h
  cases r with
  | inl _ => exact h₂
  | inr _ => trivial

/-! ### The end of a run -/

/-- Closing all flows closes none for a timeout. -/
theorem keeps_closeAllFlows : Keeps listenEndpoint options closeAllFlows s fun _ _ => True := by
  have hreason : "service-stop" ≠ "idle-timeout" := by decide
  unfold closeAllFlows
  refine Runs.bind (Q := fun _ _ => True) (Runs.loop (fun _ _ => True) (fun failure s₁ _ => ?_) trivial) fun r s₁ _ _ => ?_
  · unfold closeFirstFlow
    refine Runs.call_bind fun rank => Runs.gets_bind ?_
    cases (s₁.tables.flows.order rank).head? with
    | none => exact Runs.pure trivial
    | some token =>
      refine Runs.bind (Q := fun _ _ => True) (Runs.handle (Runs.bind
        (keeps_of_timed (timed_closeFlow fun he => absurd he hreason)) fun _ _ _ _ => Runs.pure trivial)
          fun _ _ _ _ => Runs.pure trivial) fun _ _ _ _ => Runs.pure trivial
  · cases r with
    | none => exact Runs.pure trivial
    | some e => exact Runs.raise trivial

theorem keeps_closeMembers (fds : List ℕ) : Keeps listenEndpoint options (closeMembers fds) s fun _ _ => True :=
  Runs.forEach (fun _ => True) fds (fun fd _ _ _ =>
    Runs.bind (timed_destroyFd fd) fun _ _ _ _ => Runs.pure trivial) trivial

theorem keeps_destroyUdpReactor : Keeps listenEndpoint options destroyUdpReactor s fun _ _ => True := by
  unfold destroyUdpReactor
  refine Runs.bind (Q := fun _ _ => True) (Runs.handle keeps_closeAllFlows fun _ _ _ _ => Runs.pure trivial)
    fun _ _ _ _ => Runs.gets_bind (keeps_closeMembers _)

theorem keeps_check (operation : String) (answer : Except Errno Unit) :
    Keeps listenEndpoint options (check operation answer) s fun _ _ => True := by
  cases answer with
  | ok _ => exact Runs.pure trivial
  | error error => exact Runs.raise trivial

theorem keeps_constructUdpReactor : Keeps listenEndpoint options constructUdpReactor s fun _ _ => True := by
  have hsetup : ∀ (signalFd listenerFd : ℕ) {s₁ : UdpReactor},
      Keeps listenEndpoint options (setupListener signalFd listenerFd) s₁ fun _ _ => True := fun signalFd listenerFd s₁ =>
    Runs.call_bind fun _ => Runs.bind (keeps_check _ _) fun _ _ _ _ => Runs.call_bind fun _ =>
      Runs.bind (keeps_check _ _) fun _ _ _ _ => Runs.bind (Q := fun _ _ => True)
        (Runs.call_bind fun _ => keeps_check _ _) fun _ _ _ _ => Runs.call_bind fun _ => keeps_check _ _
  unfold constructUdpReactor
  refine Runs.call_bind fun answer => Runs.bind (keeps_check _ _) fun _ s₁ _ _ => ?_
  refine Runs.bind (timed_openDescriptor _) fun signal s₂ _ _ => ?_
  refine Runs.bind (timed_openDescriptor _) fun epoll s₃ _ _ => ?_
  refine Runs.bind (timed_openDescriptor _) fun listener s₄ _ _ => ?_
  refine Runs.handle (E := fun _ _ => True) ?_ fun e _ _ _ =>
    Runs.bind (keeps_closeMembers _) fun _ _ _ _ => Runs.raise trivial
  cases signal with
  | error error => exact Runs.raise trivial
  | ok signalFd =>
  cases epoll with
  | error error => exact Runs.raise trivial
  | ok epollFd =>
  cases listener with
  | error error => exact Runs.raise trivial
  | ok listenerFd =>
    exact Runs.modify_bind (.single fun hidle => hidle.of_eq rfl rfl) (hsetup signalFd listenerFd)

theorem Blank.clear (h : Blank s) : Clear options s := by
  have hnone : ∀ {token flow}, s.tables.flows.lookup token ≠ some flow := fun {token flow} hflow => by
    rw [h.lookup token] at hflow
    cases hflow
  refine ⟨⟨fun _ _ hflow => absurd hflow hnone, fun _ _ hflow => absurd hflow hnone⟩, ?_⟩
  rw [h.log]
  exact fun _ _ => nofun

theorem keeps_runUdpReactor (h : Blank s) :
    Keeps listenEndpoint options (runUdpReactor listenEndpoint options) s fun _ _ => True := by
  unfold runUdpReactor
  refine Runs.ite (fun _ => Runs.raise trivial) fun _ => ?_
  have hconstruct : Runs (UdpStep listenEndpoint) (fun _ => Blank) constructUdpReactor s fun _ s' =>
      Blank s' ∧ Settled options s' := runs_constructUdpReactor h
  refine Runs.bind ((Runs.both keeps_constructUdpReactor hconstruct).mono (fun _ _ _ _ => trivial) fun _ _ _ h' => h'.2)
    fun _ s₁ _ h₁ => ?_
  refine Runs.ensure (E := fun _ _ => True) (Q := fun _ _ => True) ?_ (fun _ _ _ _ => keeps_destroyUdpReactor)
    fun _ _ _ _ => keeps_destroyUdpReactor
  refine Runs.bind (keeps_runUdpEventLoop ⟨h₁.2, h₁.1.clear⟩) fun result s₂ _ _ => ?_
  exact Runs.bind keeps_closeAllFlows fun _ _ _ _ => Runs.pure trivial

/-! ### Every run -/

theorem liveAssociation_of_flowOf {log : List UdpEvent} (h : flowOf token log = some flow) :
    ∃ association, liveAssociation log token = some association ∧ association.key = flow.key := by
  induction log generalizing flow with
  | nil => cases h
  | cons event log ih =>
    cases event with
    | inserted new socket =>
      rw [flowOf] at h
      rw [liveAssociation]
      split at h
      · rename_i htoken
        obtain rfl := Option.some.inj h
        exact ⟨_, if_pos htoken.symm, rfl⟩
      · rename_i hne
        rw [if_neg (Ne.symm hne)]
        exact ih h
    | refreshed t time =>
      rw [flowOf] at h
      split at h
      · obtain ⟨flow', hflow', rfl⟩ := Option.map_eq_some_iff.mp h
        have ih := @ih flow'
        exact ih hflow'
      · exact ih h
    | erased t =>
      rw [flowOf] at h
      rw [liveAssociation]
      split at h
      · cases h
      · rename_i hne
        rw [if_neg (Ne.symm hne)]
        exact ih h
    | _ => exact ih h

/-- A check that found a flow expired. -/
def UdpEvent.FindsExpired (timeout : Time) (token : ℕ) (e : UdpEvent) : Prop :=
  ∃ last time, (e = .checked token last time ∨ e = .swept token last time) ∧ time - last ≥ timeout

theorem UdpEvent.FindsExpired.found {timeout : Time} {e : UdpEvent} {log : List UdpEvent}
    (h : e.FindsExpired timeout token) : FoundExpired timeout token (e :: log) := by
  obtain ⟨last, time, rfl | rfl, hexpired⟩ := h
  · exact Or.inl ⟨rfl, hexpired⟩
  · exact Or.inl ⟨rfl, hexpired⟩

/-- A token does not come twice. -/
theorem Orderly.not_inserted {before between : List UdpEvent} (h : Orderly (between ++ before))
    (hcame : token ∈ insertedTokens before) :
    ∀ flow socket, .inserted flow socket ∈ between → flow.token ≠ token := by
  intro flow socket hmem htoken
  have hnodup := h.tokens
  rw [insertedTokens, List.filterMap_append] at hnodup
  exact (List.nodup_append.mp hnodup).2.2 _ (List.mem_filterMap.mpr ⟨_, hmem, rfl⟩) token hcame htoken

theorem Orderly.suffix {log log' : List UdpEvent} (h : Orderly log) (hsuffix : log' <:+ log) : Orderly log' :=
  ⟨(hsuffix.sublist.filterMap _).nodup h.tokens, fun key before after hmem =>
    h.abandoned key before after (hsuffix.subset hmem)⟩

theorem TimelyLog.suffix {timeout : Time} {log log' : List UdpEvent} (h : TimelyLog listenEndpoint timeout log)
    (hsuffix : log' <:+ log) : TimelyLog listenEndpoint timeout log' :=
  fun e before hs => h e before (hs.trans hsuffix)

/-- **The flow that a key has after its flow was found expired** came after that, with a token that
no flow had before and a backend selected for it. -/
theorem fresh_after_expiry {timeout : Time} {e : UdpEvent} {between before : List UdpEvent} {t : ℕ} {flow' : UdpFlow}
    (horderly : Orderly (between ++ e :: before)) (htimely : TimelyLog listenEndpoint timeout (between ++ e :: before))
    (hapart : Apart (liveAssociation before)) (hfinds : e.FindsExpired timeout token)
    (hflow : flowOf token before = some flow) (hflow' : flowOf t (between ++ e :: before) = some flow')
    (hkey : flow'.key = flow.key) (hunfound : ¬ FoundExpired timeout t (between ++ e :: before)) :
    t ≠ token ∧ ∃ new socket mid rest, between = mid ++ .inserted new socket :: rest ∧ new.token = t ∧
      new.backend = flow'.backend ∧ t ∉ insertedTokens (rest ++ e :: before) ∧
      pendingSelection (rest ++ e :: before) = some flow'.backend := by
  obtain ⟨association, hlive, hsame⟩ := liveAssociation_of_flowOf hflow
  have hcame : token ∈ insertedTokens (e :: before) := by
    have hmem := mem_insertedTokens_of_live hlive
    obtain ⟨last, time, rfl | rfl, -⟩ := hfinds <;> exact hmem
  have hfound : FoundExpired timeout token (e :: before) := hfinds.found
  have hstill := hfound.append between (horderly.not_inserted hcame)
  have hne : t ≠ token := by
    rintro rfl
    exact hunfound hstill
  refine ⟨hne, ?_⟩
  rcases flowOf_append hflow' with ⟨new, socket, mid, rest, rfl, rfl, -, hbackend⟩ | ⟨old, hold, holdkey⟩
  · refine ⟨new, socket, mid, rest, rfl, rfl, hbackend, ?_, ?_⟩
    · rw [List.append_assoc] at horderly
      have hnodup := (horderly.suffix (List.suffix_append _ _)).tokens
      exact (List.nodup_cons.mp hnodup).1
    · rw [List.append_assoc] at htimely
      exact (htimely.suffix (List.suffix_append _ _)).head.trans (congrArg some hbackend)
  · -- it would have been there beside the one that was found expired
    have hbefore : flowOf t before = some old := by
      obtain ⟨last, time, rfl | rfl, -⟩ := hfinds <;> exact hold
    obtain ⟨association', hlive', hsame'⟩ := liveAssociation_of_flowOf hbefore
    refine absurd (hapart t token association' association hlive' hlive (Or.inl ?_)) hne
    rw [hsame', holdkey, hkey, hsame]

theorem keeps_run (listenEndpoint : Endpoint) (options : UdpReactorOptions) (script : List (Answerer UdpCall UdpAnswer)) :
    Idle listenEndpoint options (runUdpReactor listenEndpoint options ⟨script, {}⟩).2.state := by
  have hruns : Keeps listenEndpoint options (runUdpReactor listenEndpoint options) {} fun _ _ => True :=
    keeps_runUdpReactor Blank.initial
  have hstart : Idle listenEndpoint options {} := ⟨TimelyLog.nil, fun token => Blank.initial.lookup token⟩
  exact hruns.invariant hstart (fun _ _ hstep h => hstep h) script

/-- **Flows expire when they should, and what expired stays so.** At each point of every run of the
reactor, whatever the clock said:

* a flow has the deadline it came with, or that of its last refresh, and it was refreshed only when
  the last datagram handed over was taken whole, by its socket or by the listener's for it;
* when one was taken whole, of whatever length, its flow was refreshed before any other datagram was
  taken or handed over and before any flow was checked again;
* a datagram was handed over by a flow that is there, that the check made for this datagram found
  alive, or that came for it, and that no check ever found expired; a client's went by the flow
  with its key;
* a check was one of a flow that is there, of its last submission, and of none found expired before;
* a flow closed for a timeout had just been found expired, and had one timeout counted, then and
  for good;
* once a flow was found expired, a datagram for its key goes by a flow that has come since, with a
  token no flow had before and the backend that was selected for it. -/
theorem udp_idle_expiry (listenEndpoint : Endpoint) (options : UdpReactorOptions)
    (script : List (Answerer UdpCall UdpAnswer)) :
    let s := (runUdpReactor listenEndpoint options ⟨script, {}⟩).2.state
    (∀ token, s.tables.flows.lookup token = flowOf token s.log) ∧
      (∀ token time before, .refreshed token time :: before <:+ s.log →
        ∃ size, lastAnswer before = some (token, size, .ok size)) ∧
      (∀ e token size between before, e.Turns → e :: (between ++ .answered token size (.ok size) :: before) <:+ s.log →
        ∃ time, .refreshed token time ∈ between) ∧
      (∀ token size result before, .answered token size result :: before <:+ s.log →
        vouched options.idleTimeout before = some token ∧ ¬ FoundExpired options.idleTimeout token before ∧
          ∃ flow, flowOf token before = some flow ∧ Directed listenEndpoint flow before) ∧
      (∀ token last time before,
        (.checked token last time :: before <:+ s.log ∨ .swept token last time :: before <:+ s.log) →
          Checkable options.idleTimeout token last before) ∧
      (∀ token before, .closing token "idle-timeout" :: before <:+ s.log →
        TimedOut options.idleTimeout token before ∧ timeoutsOf token s.log = 1) ∧
      ∀ token flow e t size result flow' between before,
        e.FindsExpired options.idleTimeout token → flowOf token before = some flow →
          .answered t size result :: (between ++ e :: before) <:+ s.log →
            flowOf t (between ++ e :: before) = some flow' → flow'.key = flow.key →
              t ≠ token ∧ ∃ new socket mid rest, between = mid ++ .inserted new socket :: rest ∧ new.token = t ∧
                new.backend = flow'.backend ∧ t ∉ insertedTokens (rest ++ e :: before) ∧
                pendingSelection (rest ++ e :: before) = some flow'.backend := by
  intro s
  have hidle : Idle listenEndpoint options s := keeps_run listenEndpoint options script
  have hlinked : Linked listenEndpoint s := linked_runUdpReactor listenEndpoint options script
  have horderly : Orderly s.log := orderly_runUdpReactor listenEndpoint options script
  refine ⟨hidle.flows, fun token time before h => hidle.timely _ _ h, fun e token size between before hturns h => ?_,
    fun token size result before h => (hidle.timely _ _ h).2, fun token last time before h => ?_,
    fun token before h => ?_, fun token flow e t size result flow' between before hfinds hflow h hflow' hkey => ?_⟩
  · have hrecorded := hturns.recorded (hidle.timely _ _ h)
    have htimely := hidle.timely.suffix ((List.suffix_cons _ _).trans h)
    exact htimely.recorded.resolve_left (hrecorded token size)
  · rcases h with h | h
    · exact (hidle.timely _ _ h).2
    · exact (hidle.timely _ _ h).2
  · have htimed : TimedOut options.idleTimeout token before := hidle.timely _ _ h rfl
    refine ⟨htimed, ?_⟩
    obtain ⟨between, hlog⟩ := h
    rw [← hlog]
    have hbefore := hidle.timely.suffix ⟨_, hlog⟩
    have horderly := horderly
    have htimely := hidle.timely
    rw [← hlog] at horderly htimely
    obtain ⟨rest, rfl, hexpired⟩ := htimed
    have hfound : FoundExpired options.idleTimeout token
        (.closing token "idle-timeout" :: .statistic ⟨.timeout, 1⟩ :: rest) :=
      hexpired.found
    have hdone : ¬ JustExpired options.idleTimeout token
        (.closing token "idle-timeout" :: .statistic ⟨.timeout, 1⟩ :: rest) := by
      rintro ⟨last, time, before, he | he, -⟩ <;> cases he
    rw [htimely.timeoutsOf_append hfound hdone]
    · exact hbefore.tail.timeoutsOf_eq_one ⟨rest, rfl, hexpired⟩
    · -- the flow came before it was closed
      suffices hcame : token ∈ insertedTokens (.closing token "idle-timeout" :: .statistic ⟨.timeout, 1⟩ :: rest) from
        horderly.not_inserted hcame
      obtain ⟨last, time, before, rfl | rfl, -⟩ := hexpired
      · obtain ⟨-, -, flow, hflow, -⟩ := hbefore.tail.tail.head
        obtain ⟨association, hlive, -⟩ := liveAssociation_of_flowOf hflow
        exact mem_insertedTokens_of_live hlive
      · obtain ⟨-, -, flow, hflow, -⟩ := hbefore.tail.tail.head
        obtain ⟨association, hlive, -⟩ := liveAssociation_of_flowOf hflow
        exact mem_insertedTokens_of_live hlive
  · have hsuffix := (List.suffix_cons _ _).trans h
    have hbefore : before <:+ s.log := ((List.suffix_cons _ _).trans (List.suffix_append _ _)).trans hsuffix
    exact fresh_after_expiry (horderly.suffix hsuffix) (hidle.timely.suffix hsuffix) (hlinked.history.apart _ hbefore)
      hfinds hflow hflow' hkey (hidle.timely _ _ h).2.2.1

end L4lb.Net
