import L4lb.Net.UdpDatagrams

/-!
# The flow table of the UDP reactor

Whoever drives a reactor by events, sweeps and closings, in any order and whatever they
throw, finds its two indexes inverse to each other after every call
(`udp_flow_table`).

## The argument

Between calls the tables are `Consistent`; each method keeps that, by its lemma in
`UdpDatagrams`, and where it throws, its caller starts afresh (`Ended.caught`). What the history says of tokens and of
creations that failed is kept by each step.
-/

namespace L4lb.Net

open Effect Prog Relation

variable {listenEndpoint : Endpoint} {options : UdpReactorOptions} {s s' : UdpReactor}

/-- A call on a reactor. -/
inductive UdpRequest where
  /-- `dispatchFlowEvent`. -/
  | dispatchFlowEvent (token : ℕ) (events : EpollEvents)
  /-- `expireIdleFlows`. -/
  | expireIdleFlows
  /-- `closeFlow`. -/
  | closeFlow (token : ℕ) (reason : String) (error : Errno)

/-- Do what is asked. -/
def UdpRequest.perform (listenEndpoint : Endpoint) (options : UdpReactorOptions) : UdpRequest → UdpM Unit
  | .dispatchFlowEvent token events => Net.dispatchFlowEvent listenEndpoint options token events
  | .expireIdleFlows => Net.expireIdleFlows options
  | .closeFlow token reason error => Net.closeFlow token reason error

/-- A reactor, and the calls made on it one after the other; what one throws, its caller
catches. -/
def driveUdpReactor (listenEndpoint : Endpoint) (options : UdpReactorOptions)
    (requests : List UdpRequest) : UdpM Unit := do
  constructUdpReactor
  forEach (fun request =>
    handle (request.perform listenEndpoint options >>= fun _ => pure true) fun _ => do
      modify (·.record .caught)
      pure true) requests

/-- A step of a reactor, or of whoever drives it. -/
inductive DriveStep (listenEndpoint : Endpoint) (s s' : UdpReactor) : Prop
  /-- The reactor does something. -/
  | step (h : UdpStep listenEndpoint s s')
  /-- What it threw is caught. -/
  | caught (h : s' = s.record .caught)

/-- What holds of the tables between calls. -/
structure FlowTables.Agree (options : UdpReactorOptions) (tables : FlowTables) : Prop where
  /-- A key maps to the token of the flow that has it. -/
  inverse : ∀ key token, tables.flowTokensByKey.lookup key = some token ↔
    ∃ flow, tables.flows.lookup token = some flow ∧ flow.key = key ∧ flow.token = token
  /-- There are no more flows than there may be. -/
  capacity : Table.size tables.flows ≤ options.maxFlows
  /-- Tokens are three and more, and less than the next. -/
  tokens : ∀ token flow, tables.flows.lookup token = some flow →
    flow.token = token ∧ 3 ≤ token ∧ token < tables.nextFlowToken
  /-- Every socket open is that of a flow, and connected to its backend. -/
  sockets : ∀ fd serial peer, tables.descriptors.lookup fd = some (.socket serial peer) →
    ∃ token flow, tables.flows.lookup token = some flow ∧ flow.fd = fd ∧ peer = some flow.backend

theorem Consistent.agree (h : Consistent options none s) : s.tables.Agree options := by
  refine ⟨fun key token => (h.tables.index key token).trans ?_, h.tables.capacity,
    fun token flow hflow => h.tables.token hflow, fun fd serial peer hfd => ?_⟩
  · refine exists_congr fun flow => ⟨fun ⟨hflow, hkey⟩ => ?_, fun ⟨hflow, hkey, _⟩ => ⟨hflow, hkey⟩⟩
    exact ⟨hflow, hkey, (h.tables.token hflow).1⟩
  · obtain ⟨token, flow, hflow, rfl⟩ := (h.tables.owner hfd).resolve_left nofun
    obtain ⟨_, hsocket⟩ := h.tables.socket hflow
    rw [hfd] at hsocket
    exact ⟨token, flow, hflow, rfl, (UdpDescriptor.socket.inj (Option.some.inj hsocket)).2⟩

/-- The tokens of the flows that have come, newest first. -/
def insertedTokens (log : List UdpEvent) : List ℕ :=
  log.filterMap fun
    | .inserted flow _ => some flow.token
    | _ => none

/-- What every step keeps of the history: tokens are not given out twice, and what was
abandoned left no trace. -/
structure Orderly (log : List UdpEvent) : Prop where
  /-- No token was used twice. -/
  tokens : (insertedTokens log).Nodup
  /-- What was abandoned left the tables as they were. -/
  abandoned : ∀ key before after, .abandoned key before after ∈ log → Restored before after

theorem Orderly.cons {log : List UdpEvent} {event : UdpEvent} (h : Orderly log)
    (htokens : ∀ flow socket, event ≠ .inserted flow socket)
    (habandoned : ∀ key before after, event = .abandoned key before after → Restored before after) :
    Orderly (event :: log) := by
  refine ⟨?_, fun key before after hmem => ?_⟩
  · have hnone : insertedTokens (event :: log) = insertedTokens log := by
      cases event <;> first | rfl | exact absurd rfl (htokens _ _)
    rw [hnone]
    exact h.tokens
  · exact (List.mem_cons.mp hmem).elim (fun he => habandoned key before after he.symm) (h.abandoned _ _ _)

theorem Orderly.step (h : Orderly s.log) (hstep : UdpStep listenEndpoint s s') : Orderly s'.log := by
  cases hstep with
  | quiet hlog _ =>
    rw [hlog]
    exact h
  | happened event permitted hlog _ =>
    rw [hlog]
    refine h.cons (fun flow socket he => ?_) fun key before after he => ?_
    · rw [he] at permitted
      exact permitted
    · rw [he] at permitted
      exact permitted
  | inserted flow socket fresh _ _ hlog _ =>
    rw [hlog]
    refine ⟨List.nodup_cons.mpr ⟨fun hmem => ?_, h.tokens⟩, fun key before after hmem => ?_⟩
    · obtain ⟨event, hevent, htoken⟩ := List.mem_filterMap.mp hmem
      cases event with
      | inserted earlier descriptor => exact absurd (Option.some.inj htoken) (fresh _ _ hevent).ne
      | _ => cases htoken
    · exact h.abandoned key before after ((List.mem_cons.mp hmem).resolve_left nofun)
  | erased token hlog _ =>
    rw [hlog]
    exact h.cons (fun _ _ => nofun) fun _ _ _ => nofun

theorem Orderly.drive (h : Orderly s.log) (hstep : DriveStep listenEndpoint s s') : Orderly s'.log := by
  rcases hstep with hstep | rfl
  · exact h.step hstep
  · exact h.cons (fun _ _ => nofun) fun _ _ _ => nofun

theorem UdpRequest.runs_perform (request : UdpRequest) (h : Settled options s) :
    Runs (UdpStep listenEndpoint) (fun _ => Ended listenEndpoint options) (request.perform listenEndpoint options) s
      fun _ => Settled options := by
  cases request with
  | dispatchFlowEvent token events => exact runs_dispatchFlowEvent h
  | expireIdleFlows => exact runs_ended h.runs_expireIdleFlows
  | closeFlow token reason error => exact runs_ended h.runs_closeFlow

/-- Once what was thrown is caught, nothing is owed. -/
theorem Ended.caught (h : Ended listenEndpoint options s) : Settled options (s.record .caught) := by
  refine ⟨⟨h.consistent.tables, h.consistent.listener, fun hmem => h.consistent.inserted
    ((List.mem_cons.mp hmem).resolve_left nofun)⟩, ?_⟩
  rcases h.accounts with howes | ⟨⟨length, howes⟩, -⟩
  · exact howes.cons rfl rfl
  · exact howes.cons rfl rfl

theorem runs_driveUdpReactor (requests : List UdpRequest) (h : Blank s) :
    Runs (DriveStep listenEndpoint) (fun _ => Blank) (driveUdpReactor listenEndpoint options requests) s
      fun _ => Settled options := by
  have hconstruct : Runs (UdpStep listenEndpoint) (fun _ => Blank) constructUdpReactor s fun _ s' =>
      Blank s' ∧ Settled options s' := runs_constructUdpReactor h
  refine Runs.bind ((hconstruct.post fun _ _ _ h' => h'.2).coarsen fun _ _ => .step) fun _ s₁ _ h₁ => ?_
  refine Runs.forEach (Settled options) requests (fun request _ s₂ h₂ => ?_) h₁
  have hperform : Runs (DriveStep listenEndpoint) (fun _ => Ended listenEndpoint options)
      (request.perform listenEndpoint options) s₂ fun _ => Settled options :=
    (request.runs_perform h₂).coarsen fun _ _ => .step
  refine Runs.handle (Runs.bind hperform fun _ _ _ h₃ => Runs.pure h₃) fun _ _ _ h₃ => ?_
  exact Runs.modify_bind (.single (.caught rfl)) (Runs.pure h₃.caught)

theorem Blank.initial : Blank {} := ⟨rfl, rfl, rfl, rfl, fun _ _ _ => nofun⟩

/-- **The two indexes are inverse to each other after every call.** Whatever the calls on
a reactor, however each ends and whatever was answered, after the last of them:

* `flowTokensByKey_` and `flows_` are inverse to each other, with at most `maxFlows`
  flows, tokens from three up to `nextFlowToken_`, and no socket open but theirs;
* no token was ever used twice;
* a creation that failed left both indexes, and what is open, as they were after its
  sweep. -/
theorem udp_flow_table (listenEndpoint : Endpoint) (options : UdpReactorOptions)
    (requests : List UdpRequest) (script : List (Answerer UdpCall UdpAnswer)) :
    let r := driveUdpReactor listenEndpoint options requests ⟨script, {}⟩
    r.1.Meets (fun _ => NoFlows r.2.state) (fun _ => r.2.state.tables.Agree options) ∧
      (insertedTokens r.2.state.log).Nodup ∧
      ∀ key before after, .abandoned key before after ∈ r.2.state.log →
        after.flowTokensByKey = before.flowTokensByKey ∧ after.flows = before.flows ∧
          after.descriptors = before.descriptors := by
  intro r
  have hdrive : Runs (DriveStep listenEndpoint) (fun _ => Blank) (driveUdpReactor listenEndpoint options requests) {}
      fun _ => Settled options := runs_driveUdpReactor requests Blank.initial
  have hruns := hdrive.mono (fun _ _ _ h => h.lookup) fun _ _ _ h => h.consistent.agree
  have hstart : Orderly [] := ⟨List.nodup_nil, fun _ _ _ => nofun⟩
  have horderly : Orderly r.2.state.log :=
    hruns.invariant (I := fun s => Orderly s.log) hstart (fun _ _ hstep h => h.drive hstep) script
  refine ⟨(hruns script).2, horderly.tokens, fun key before after hmem => ?_⟩
  have hrestored := horderly.abandoned key before after hmem
  exact ⟨hrestored.flowTokensByKey, hrestored.flows, hrestored.descriptors⟩

end L4lb.Net
