import L4lb.Net.UdpReactor

/-!
# What the UDP reactor does, step by step

Whatever a method does is a chain of `UdpStep`s: an event of the history, of a kind that
is then in order, a flow that comes or goes, or a change that leaves the history and
every flow's key, backend and socket alone. The tables are `Consistent` whenever no
method is at work on them.

## What is in order

* A datagram is taken when the one before is accounted for, and it is accounted for once:
  `owed` is what is still to be counted (`Owed.next`). A caller that catches what a method
  threw begins anew.
* A datagram handed to a socket is the last one taken, and goes where the flow it belongs
  to says (`Justified`).
* A flow that could not be created has left the tables as they were (`Restored`).
-/

namespace L4lb.Net

open Effect Prog Relation

/-! ### What the history says -/

/-- What the statistics, the diagnostic and the flow callback are told; in production they do not throw. -/
def UdpEvent.Trusted : UdpEvent → Prop
  | .statistic _ | .diagnostic .. | .flowEvent .. => True
  | _ => False

instance : DecidablePred UdpEvent.Trusted
  | .statistic _ | .diagnostic .. | .flowEvent .. => .isTrue trivial
  | .observation .. | .callbackThrew | .selected _ | .received .. | .handed .. | .inserted .. | .erased _
  | .abandoned .. | .closing .. | .checked .. | .swept .. | .answered .. | .refreshed .. | .caught => .isFalse not_false

/-- One of these has thrown. -/
def Threw (log : List UdpEvent) : Prop := ∃ event, event.Trusted ∧ [.callbackThrew, event] <:+: log

/-- What is still to be counted. -/
inductive Owed where
  /-- Nothing. -/
  | nothing
  /-- A datagram that was taken. -/
  | datagram (direction : Direction) (length : ℕ)
  /-- A datagram whose bytes were counted. -/
  | bytes (direction : Direction)
  deriving DecidableEq, Repr

/-- The bytes that went this way. -/
def Direction.bytes : Direction → StatKind
  | .c2b => .bytesC2b
  | .b2c => .bytesB2c

/-- The datagrams that went this way. -/
def Direction.datagram : Direction → StatKind
  | .c2b => .datagramC2b
  | .b2c => .datagramB2c

/-- The kinds that account for datagrams. -/
def StatKind.accounts : StatKind → Bool
  | .bytesC2b | .bytesB2c | .datagramC2b | .datagramB2c | .dropped => true
  | _ => false

/-- The way of what is taken from a descriptor. -/
def sourceDirection : Option UdpDescriptor → Direction
  | some .listener => .c2b
  | _ => .b2c

/-- What is owed after something was counted. -/
def Owed.settle : Owed → StatEvent → Option Owed
  | .nothing, _ => none
  | .datagram direction length, event =>
    if event = ⟨direction.bytes, length⟩ then some (.bytes direction)
    else if event = ⟨.dropped, 1⟩ then some .nothing
    else none
  | .bytes direction, event => if event = ⟨direction.datagram, 1⟩ then some .nothing else none

/-- What is owed after an event. -/
def Owed.next (o : Owed) : UdpEvent → Option Owed
  | .received source receipt =>
    if o = .nothing then some (.datagram (sourceDirection source) receipt.datagram.length) else none
  | .statistic event => if event.kind.accounts then o.settle event else some o
  | .caught => some .nothing
  | _ => some o

/-- What is owed after a history, if all was in order. -/
def owed : List UdpEvent → Option Owed
  | [] => some .nothing
  | event :: log => (owed log).bind (·.next event)

/-- What is owed, unless a callback has thrown that does not. -/
def Owes (s : UdpReactor) (o : Owed) : Prop := Threw s.log ∨ owed s.log = some o

/-- The datagram taken last, and where from. -/
def lastReceived : List UdpEvent → Option (Option UdpDescriptor × UdpReceipt)
  | [] => none
  | .received source receipt :: _ => some (source, receipt)
  | _ :: log => lastReceived log

/-- What has happened since, newest first. -/
def sinceReceived : List UdpEvent → List UdpEvent
  | [] => []
  | .received _ _ :: _ => []
  | event :: log => event :: sinceReceived log

/-- What a flow connects. -/
structure Association where
  /-- Its key. -/
  key : UdpFlowKey
  /-- Its backend. -/
  backend : Endpoint
  /-- Its socket. -/
  socket : Option UdpDescriptor
  deriving DecidableEq

/-- The flow with a token. -/
def FlowTables.association (tables : FlowTables) (token : ℕ) : Option Association :=
  (tables.flows.lookup token).map fun flow => ⟨flow.key, flow.backend, tables.descriptors.lookup flow.fd⟩

/-- What is handed over is the whole of the datagram taken last; from the listener it goes
to the socket of the flow of its key, and from there to that flow's client. -/
def Justified (listenEndpoint : Endpoint) (log : List UdpEvent) (flows : ℕ → Option Association)
    (via : Option UdpDescriptor) (message : UdpMessage) : Prop :=
  ∃ source receipt token association, lastReceived log = some (source, receipt) ∧
    message.payload = receipt.datagram ∧ flows token = some association ∧
    (∃ serial, association.socket = some (.socket serial (some association.backend))) ∧
    (source = some .listener ∧ parsePacketMetadata listenEndpoint receipt = some association.key ∧
        via = association.socket ∧ message.destination = none ∧ message.source = none ∨
      source = association.socket ∧ via = some .listener ∧
        message.destination = some association.key.client ∧
        message.source = some association.key.localAddress)

/-- The tables are as they were. -/
structure Restored (before after : FlowTables) : Prop where
  /-- The keys. -/
  flowTokensByKey : after.flowTokensByKey = before.flowTokensByKey
  /-- The flows. -/
  flows : after.flows = before.flows
  /-- What is open. -/
  descriptors : after.descriptors = before.descriptors

/-- What may happen next. -/
def Permitted (listenEndpoint : Endpoint) (s : UdpReactor) : UdpEvent → Prop
  | .statistic event => event.kind.accounts → ∃ o, Owes s o ∧ (o.settle event).isSome
  | .received _ _ => Owes s .nothing
  | .handed via message => Justified listenEndpoint s.log s.tables.association via message
  | .abandoned _ before after => Restored before after
  | .inserted _ _ | .erased _ | .caught => False
  | _ => True

/-- A step of the reactor. -/
inductive UdpStep (listenEndpoint : Endpoint) : UdpReactor → UdpReactor → Prop
  /-- The history and the flows are left alone. -/
  | quiet {s s' : UdpReactor} (log : s'.log = s.log)
      (flows : ∀ token, s'.tables.association token = s.tables.association token) :
      UdpStep listenEndpoint s s'
  /-- Something happened. -/
  | happened {s s' : UdpReactor} (event : UdpEvent) (permitted : Permitted listenEndpoint s event)
      (log : s'.log = event :: s.log) (tables : s'.tables = s.tables) : UdpStep listenEndpoint s s'
  /-- A flow came. -/
  | inserted {s s' : UdpReactor} (flow : UdpFlow) (socket : Option UdpDescriptor)
      (fresh : ∀ earlier descriptor, .inserted earlier descriptor ∈ s.log → earlier.token < flow.token)
      (unused : ∀ token association, s.tables.association token = some association →
        association.key ≠ flow.key)
      (unshared : ∀ token association, s.tables.association token = some association →
        association.socket ≠ socket)
      (log : s'.log = .inserted flow socket :: s.log)
      (flows : ∀ token, s'.tables.association token =
        if token = flow.token then some ⟨flow.key, flow.backend, socket⟩
        else s.tables.association token) : UdpStep listenEndpoint s s'
  /-- A flow went. -/
  | erased {s s' : UdpReactor} (token : ℕ) (log : s'.log = .erased token :: s.log)
      (flows : ∀ token', s'.tables.association token' =
        if token' = token then none else s.tables.association token') : UdpStep listenEndpoint s s'

/-! ### What reports leave alone -/

/-- A datagram is taken. -/
def UdpEvent.Receives : UdpEvent → Prop
  | .received _ _ => True
  | _ => False

/-- A history has grown, and no datagram was taken. -/
def Later (log log' : List UdpEvent) : Prop := ∃ added, log' = added ++ log ∧ ∀ event ∈ added, ¬ event.Receives

theorem Later.refl (log : List UdpEvent) : Later log log := ⟨[], rfl, nofun⟩

theorem Later.trans {log log' log'' : List UdpEvent} (h : Later log log') (h' : Later log' log'') : Later log log'' := by
  obtain ⟨added, rfl, hadded⟩ := h
  obtain ⟨added', rfl, hadded'⟩ := h'
  refine ⟨added' ++ added, (List.append_assoc _ _ _).symm, fun event hevent => ?_⟩
  exact (List.mem_append.mp hevent).elim (hadded' event) (hadded event)

theorem Later.cons (event : UdpEvent) (h : ¬ event.Receives) (log : List UdpEvent) : Later log (event :: log) :=
  ⟨[event], rfl, fun _ hmem => (List.mem_singleton.mp hmem) ▸ h⟩

/-- What holds of a history and stays when anything else happens. -/
theorem Later.induct {log log' : List UdpEvent} {P : List UdpEvent → Prop} (h : Later log log')
    (hcons : ∀ event log, ¬ event.Receives → P log → P (event :: log)) (hP : P log) : P log' := by
  obtain ⟨added, rfl, hadded⟩ := h
  induction added with
  | nil => exact hP
  | cons event added ih =>
    exact hcons event _ (hadded event List.mem_cons_self) (ih fun e he => hadded e (List.mem_cons_of_mem _ he))

theorem lastReceived_cons {event : UdpEvent} (h : ¬ event.Receives) (log : List UdpEvent) :
    lastReceived (event :: log) = lastReceived log := by
  cases event <;> first | rfl | exact absurd trivial h

theorem sinceReceived_cons {event : UdpEvent} (h : ¬ event.Receives) (log : List UdpEvent) :
    sinceReceived (event :: log) = event :: sinceReceived log := by
  cases event <;> first | rfl | exact absurd trivial h

theorem sinceReceived_isPart (log : List UdpEvent) : sinceReceived log <:+: log := by
  suffices h : sinceReceived log <+: log from h.isInfix
  induction log with
  | nil => exact List.prefix_refl _
  | cons event log ih =>
    cases event <;> first | exact (List.prefix_cons_inj _).mpr ih | exact List.nil_prefix

theorem Later.received {log log' : List UdpEvent} (h : Later log log') : lastReceived log' = lastReceived log :=
  h.induct (P := fun log' => lastReceived log' = lastReceived log)
    (fun _ _ hevent ih => (lastReceived_cons hevent _).trans ih) rfl

theorem Later.since {log log' : List UdpEvent} (h : Later log log') : sinceReceived log <:+ sinceReceived log' :=
  h.induct (P := fun log' => sinceReceived log <:+ sinceReceived log')
    (fun _ _ hevent ih => by
      rw [sinceReceived_cons hevent]
      exact ih.trans (List.suffix_cons _ _)) (List.suffix_refl _)

theorem threw_cons {event : UdpEvent} {log : List UdpEvent} :
    Threw (event :: log) ↔ (event = .callbackThrew ∧ ∃ thrower ∈ log.head?, thrower.Trusted) ∨ Threw log := by
  constructor
  · rintro ⟨thrower, htrusted, hinfix⟩
    rcases List.infix_cons_iff.mp hinfix with hprefix | hinfix
    · obtain ⟨rfl, rest, rfl⟩ := List.cons_prefix_cons.mp hprefix
      exact .inl ⟨rfl, thrower, rfl, htrusted⟩
    · exact .inr ⟨thrower, htrusted, hinfix⟩
  · rintro (⟨rfl, thrower, hhead, htrusted⟩ | ⟨thrower, htrusted, hinfix⟩)
    · obtain ⟨rest, rfl⟩ := List.head?_eq_some_iff.mp hhead
      exact ⟨thrower, htrusted, (List.prefix_append [.callbackThrew, thrower] rest).isInfix⟩
    · exact ⟨thrower, htrusted, hinfix.trans (List.suffix_cons _ _).isInfix⟩

instance : (event : UdpEvent) → Decidable (event = .callbackThrew)
  | .callbackThrew => .isTrue rfl
  | .observation .. | .statistic _ | .diagnostic .. | .flowEvent .. | .selected _ | .received .. | .handed ..
  | .inserted .. | .erased _ | .abandoned .. | .closing .. | .checked .. | .swept .. | .answered ..
  | .refreshed .. | .caught => .isFalse nofun

instance decidableThrew : (log : List UdpEvent) → Decidable (Threw log)
  | [] => .isFalse (by rintro ⟨_, _, hinfix⟩; cases List.infix_nil.mp hinfix)
  | _ :: log => @decidable_of_iff _ _ threw_cons.symm (@instDecidableOr _ _ inferInstance (decidableThrew log))

theorem Threw.cons {log : List UdpEvent} (h : Threw log) (event : UdpEvent) : Threw (event :: log) := by
  obtain ⟨thrower, htrusted, hinfix⟩ := h
  exact ⟨thrower, htrusted, hinfix.trans (List.suffix_cons _ _).isInfix⟩

theorem Later.threw {log log' : List UdpEvent} (h : Later log log') (hthrew : Threw log) : Threw log' :=
  h.induct (fun event _ _ ih => ih.cons event) hthrew

/-- What is left alone while flows come and go. -/
structure Rest (s s' : UdpReactor) : Prop where
  /-- The listener. -/
  listenerFd : s'.listenerFd = s.listenerFd
  /-- The buffer. -/
  receiveBuffer : s'.receiveBuffer = s.receiveBuffer
  /-- What is owed. -/
  owes : ∀ o, Owes s o → Owes s' o
  /-- No datagram was taken. -/
  later : Later s.log s'.log

theorem Rest.received {s s' : UdpReactor} (h : Rest s s') : lastReceived s'.log = lastReceived s.log := h.later.received

/-- No flow has come. -/
def NoneInserted (s s' : UdpReactor) : Prop :=
  ∀ flow socket, .inserted flow socket ∈ s'.log → .inserted flow socket ∈ s.log

/-- What counting leaves alone. -/
structure Unmoved (s s' : UdpReactor) : Prop where
  /-- The tables. -/
  tables : s'.tables = s.tables
  /-- The listener. -/
  listenerFd : s'.listenerFd = s.listenerFd
  /-- The buffer. -/
  receiveBuffer : s'.receiveBuffer = s.receiveBuffer
  /-- No datagram was taken. -/
  later : Later s.log s'.log
  /-- The flows there were. -/
  inserted : NoneInserted s s'

/-- What reports and the clock leave alone. -/
structure Frame (s s' : UdpReactor) : Prop extends Unmoved s s' where
  /-- What is owed. -/
  owes : ∀ o, Owes s o → Owes s' o

theorem Frame.rest {s s' : UdpReactor} (h : Frame s s') : Rest s s' :=
  ⟨h.listenerFd, h.receiveBuffer, h.owes, h.later⟩

/-- What does not depend on reports and on the clock. -/
def Stable (P : UdpReactor → Prop) : Prop := ∀ s s', Frame s s' → P s → P s'

/-- The events that account for nothing and move no data. -/
def UdpEvent.Plain : UdpEvent → Prop
  | .statistic event => event.kind.accounts = false
  | .observation .. | .diagnostic .. | .flowEvent .. | .callbackThrew | .selected _ => True
  | .closing .. | .checked .. | .swept .. | .answered .. | .refreshed .. => True
  | .abandoned .. | .received .. | .handed .. | .inserted .. | .erased _ | .caught => False

variable {listenEndpoint : Endpoint} {options : UdpReactorOptions} {s s' : UdpReactor} {o o' : Owed}
  {P : UdpReactor → Prop}

theorem Owes.cons {event : UdpEvent} (h : Owes s o) (hlog : s'.log = event :: s.log)
    (hnext : o.next event = some o') : Owes s' o' := by
  rcases h with h | h
  · left
    rw [hlog]
    exact h.cons event
  · right
    rw [hlog, owed, h]
    exact hnext

theorem UdpEvent.Plain.next {event : UdpEvent} (h : event.Plain) (o : Owed) : o.next event = some o := by
  cases event <;> simp_all [UdpEvent.Plain, Owed.next]

theorem UdpEvent.Plain.permitted {event : UdpEvent} (h : event.Plain) :
    Permitted listenEndpoint s event := by
  cases event <;> simp_all [UdpEvent.Plain, Permitted]

theorem UdpEvent.Plain.receives {event : UdpEvent} (h : event.Plain) : ¬ event.Receives := by
  cases event <;> first | exact not_false | exact h.elim

theorem UdpEvent.Plain.frame {event : UdpEvent} (h : event.Plain) : Frame s (s.record event) where
  tables := rfl
  listenerFd := rfl
  receiveBuffer := rfl
  owes o ho := ho.cons rfl (h.next o)
  later := .cons event h.receives s.log
  inserted flow socket hmem := by
    rcases List.mem_cons.mp hmem with he | hmem
    · subst he
      exact h.elim
    · exact hmem

theorem UdpStep.plain {event : UdpEvent} (h : event.Plain) :
    ReflTransGen (UdpStep listenEndpoint) s (s.record event) :=
  .single (.happened event h.permitted rfl rfl)

/-- The callback that was told this has thrown, since the datagram taken last. -/
def ThrewAt (event : UdpEvent) (log : List UdpEvent) : Prop := [.callbackThrew, event] <:+: sinceReceived log

theorem ThrewAt.threw {event : UdpEvent} {log : List UdpEvent} (h : ThrewAt event log) (htrusted : event.Trusted) :
    Threw log := ⟨event, htrusted, h.trans (sinceReceived_isPart log)⟩

theorem ThrewAt.later {event : UdpEvent} {log log' : List UdpEvent} (h : ThrewAt event log) (hlater : Later log log') :
    ThrewAt event log' := h.trans hlater.since.isInfix

theorem UdpEvent.Plain.threwAt {event : UdpEvent} (h : event.Plain) (s : UdpReactor) :
    ThrewAt event ((s.record event).record .callbackThrew).log := by
  have hthrew : sinceReceived (.callbackThrew :: event :: s.log) = .callbackThrew :: sinceReceived (event :: s.log) := rfl
  change [.callbackThrew, event] <:+: sinceReceived (.callbackThrew :: event :: s.log)
  rw [hthrew, sinceReceived_cons h.receives]
  exact (List.prefix_append [.callbackThrew, event] (sinceReceived s.log)).isInfix

/-- `P`, after a callback has thrown that does not. -/
def Thrown (P : UdpReactor → Prop) (_ : UdpError) (s : UdpReactor) : Prop := P s ∧ Threw s.log

/-- Telling a callback keeps what does not depend on it; what it throws is on record. -/
theorem runs_notify_at {event : UdpEvent} (hevent : event.Plain) (hP : Stable P) (h : P s) :
    Runs (UdpStep listenEndpoint) (fun _ s' => P s' ∧ ThrewAt event s'.log) (notify event) s fun _ => P := by
  have h₁ : P (s.record event) := hP _ _ hevent.frame h
  refine Runs.modify_bind (UdpStep.plain hevent) ?_
  refine Runs.call_bind fun answer => ?_
  cases answer with
  | none => exact Runs.pure h₁
  | some exception =>
    have hthrew : UdpEvent.callbackThrew.Plain := trivial
    exact Runs.modify_bind (UdpStep.plain hthrew) (Runs.raise ⟨hP _ _ hthrew.frame h₁, hevent.threwAt s⟩)

theorem runs_notify {event : UdpEvent} (hevent : event.Plain) (hP : Stable P) (h : P s) :
    Runs (UdpStep listenEndpoint) (fun _ => P) (notify event) s fun _ => P :=
  (runs_notify_at hevent hP h).mono (fun _ _ _ h => h.1) fun _ _ _ h => h

theorem runs_reportStatEvent_thrown {kind : StatKind} {amount : ℕ} (hkind : kind.accounts = false)
    (hP : Stable P) (h : P s) :
    Runs (UdpStep listenEndpoint) (Thrown P) (reportStatEvent kind amount) s fun _ => P :=
  have hevent : (UdpEvent.statistic ⟨kind, amount⟩).Plain := hkind
  (runs_notify_at hevent hP h).mono (fun _ _ _ h => ⟨h.1, h.2.threw (by trivial)⟩) fun _ _ _ h => h

theorem runs_reportStatEvent {kind : StatKind} {amount : ℕ} (hkind : kind.accounts = false)
    (hP : Stable P) (h : P s) :
    Runs (UdpStep listenEndpoint) (fun _ => P) (reportStatEvent kind amount) s fun _ => P :=
  runs_notify hkind hP h

theorem runs_reportObservation {kind : String} {token : ℕ} {fd : ℤ} (hP : Stable P) (h : P s) :
    Runs (UdpStep listenEndpoint) (fun _ => P) (reportObservation kind token fd) s fun _ => P :=
  Runs.gets_bind (runs_notify trivial hP h)

theorem Frame.of_eq (hlog : s'.log = s.log) (htables : s'.tables = s.tables)
    (hlistener : s'.listenerFd = s.listenerFd) (hbuffer : s'.receiveBuffer = s.receiveBuffer) :
    Frame s s' where
  tables := htables
  listenerFd := hlistener
  receiveBuffer := hbuffer
  owes o ho := by rwa [Owes, hlog]
  later := by rw [hlog]; exact .refl _
  inserted _ _ hmem := by rwa [hlog] at hmem

theorem UdpStep.of_eq (hlog : s'.log = s.log) (htables : s'.tables = s.tables) :
    ReflTransGen (UdpStep listenEndpoint) s s' :=
  .single (.quiet hlog fun _ => by rw [htables])

theorem runs_currentTime {E : UdpError → UdpReactor → Prop} (hP : Stable P) (h : P s) :
    Runs (UdpStep listenEndpoint) E currentTime s fun _ => P :=
  Runs.call_bind fun _ => Runs.modify_bind (UdpStep.of_eq rfl rfl)
    (Runs.gets (hP s _ (Frame.of_eq rfl rfl rfl rfl) h))

theorem runs_isExpired {E : UdpError → UdpReactor → Prop} {token : ℕ} {flow : UdpFlow} (hP : Stable P) (h : P s) :
    Runs (UdpStep listenEndpoint) E (isExpired options token flow) s fun _ => P := by
  refine Runs.bind (runs_currentTime hP h) fun time s₁ _ h₁ => ?_
  have hchecked : (UdpEvent.checked token flow.deadline.lastSubmissionTime time).Plain := trivial
  exact Runs.modify_bind (UdpStep.plain hchecked) (Runs.pure (hP _ _ hchecked.frame h₁))

theorem runs_reportDiagnostic {kind : String} {error : Errno} (hP : Stable P) (h : P s) :
    Runs (UdpStep listenEndpoint) (fun _ => P) (reportDiagnostic kind error) s fun _ => P := by
  refine Runs.bind (runs_reportObservation hP h) fun _ s₁ _ h₁ => ?_
  refine Runs.bind (runs_currentTime hP h₁) fun time s₂ _ h₂ => ?_
  refine Runs.gets_bind (Runs.ite (fun _ => Runs.pure h₂) fun _ => ?_)
  refine Runs.modify_bind (UdpStep.of_eq rfl rfl) ?_
  exact runs_notify trivial hP (hP s₂ _ (Frame.of_eq rfl rfl rfl rfl) h₂)

/-- Counting a datagram: `P'` holds of what the count leaves. -/
theorem runs_account {kind : StatKind} {amount : ℕ} {P' : UdpReactor → Prop} (hP : Stable P')
    (howes : Owes s o) (hkind : kind.accounts = true) (hnext : o.settle ⟨kind, amount⟩ = some o')
    (h : ∀ s', Unmoved s s' → Owes s' o' → P' s') :
    Runs (UdpStep listenEndpoint) (Thrown P') (reportStatEvent kind amount) s fun _ => P' := by
  have howes' : Owes (s.record (.statistic ⟨kind, amount⟩)) o' :=
    howes.cons rfl (by rw [Owed.next, if_pos hkind, hnext])
  have hstep : ReflTransGen (UdpStep listenEndpoint) s (s.record (.statistic ⟨kind, amount⟩)) :=
    .single (.happened (.statistic ⟨kind, amount⟩) (fun _ => ⟨o, howes, by rw [hnext]; rfl⟩) rfl rfl)
  have h₁ : P' (s.record (.statistic ⟨kind, amount⟩)) :=
    h _ ⟨rfl, rfl, rfl, .cons (.statistic ⟨kind, amount⟩) not_false s.log,
      fun _ _ hmem => (List.mem_cons.mp hmem).resolve_left (by simp)⟩ howes'
  refine Runs.modify_bind hstep (Runs.call_bind fun answer => ?_)
  cases answer with
  | none => exact Runs.pure h₁
  | some exception =>
    have hthrew : UdpEvent.callbackThrew.Plain := trivial
    refine Runs.modify_bind (UdpStep.plain hthrew)
      (Runs.raise ⟨hP _ _ hthrew.frame h₁, .statistic ⟨kind, amount⟩, trivial, ?_⟩)
    exact (List.prefix_append [.callbackThrew, .statistic ⟨kind, amount⟩] s.log).isInfix

/-! ### The tables between calls -/

/-- The tables agree; `loose` is a socket that is not a flow's, if there is one. -/
structure FlowTables.Consistent (options : UdpReactorOptions) (loose : Option ℕ) (tables : FlowTables) :
    Prop where
  /-- The keys map to the tokens of their flows, and no others. -/
  index : ∀ key token, tables.flowTokensByKey.lookup key = some token ↔
    ∃ flow, tables.flows.lookup token = some flow ∧ flow.key = key
  /-- A flow is found by its token. -/
  token : ∀ {token flow}, tables.flows.lookup token = some flow →
    flow.token = token ∧ 3 ≤ token ∧ token < tables.nextFlowToken
  /-- There are no more flows than there may be. -/
  capacity : Table.size tables.flows ≤ options.maxFlows
  /-- Tokens start at three. -/
  next_ge : 3 ≤ tables.nextFlowToken
  /-- A flow has a socket, connected to its backend. -/
  socket : ∀ {token flow}, tables.flows.lookup token = some flow →
    ∃ serial, tables.descriptors.lookup flow.fd = some (.socket serial (some flow.backend))
  /-- A socket is a flow's. -/
  owner : ∀ {fd serial peer}, tables.descriptors.lookup fd = some (.socket serial peer) →
    loose = some fd ∨ ∃ token flow, tables.flows.lookup token = some flow ∧ flow.fd = fd
  /-- What is loose is not a flow's. -/
  held : ∀ {token flow}, tables.flows.lookup token = some flow → loose ≠ some flow.fd
  /-- No two flows share a socket. -/
  apart : ∀ {token token' flow flow'}, tables.flows.lookup token = some flow →
    tables.flows.lookup token' = some flow' → flow.fd = flow'.fd → token = token'
  /-- Sockets are numbered in order. -/
  numbered : ∀ {fd serial peer}, tables.descriptors.lookup fd = some (.socket serial peer) →
    serial < tables.sockets
  /-- No two sockets have one number. -/
  distinct : ∀ {fd fd' serial peer peer'}, tables.descriptors.lookup fd = some (.socket serial peer) →
    tables.descriptors.lookup fd' = some (.socket serial peer') → fd = fd'

/-- The tables agree, and with the history. -/
structure Consistent (options : UdpReactorOptions) (loose : Option ℕ) (s : UdpReactor) : Prop where
  /-- The tables. -/
  tables : s.tables.Consistent options loose
  /-- The listener is open. -/
  listener : s.tables.descriptors.lookup s.listenerFd = some .listener
  /-- Tokens are given out in order. -/
  inserted : ∀ {flow socket}, .inserted flow socket ∈ s.log → flow.token < s.tables.nextFlowToken

theorem Consistent.stable {loose : Option ℕ} : Stable (Consistent options loose) := fun s s' hf h => by
  refine ⟨?_, ?_, fun hmem => ?_⟩
  · rw [hf.tables]
    exact h.tables
  · rw [hf.tables, hf.listenerFd]
    exact h.listener
  · rw [hf.tables]
    exact h.inserted (hf.inserted _ _ hmem)

/-- The tables without a flow. -/
def FlowTables.close (tables : FlowTables) (token : ℕ) : FlowTables :=
  match tables.flows.lookup token with
  | none => tables
  | some flow => { tables with
      flowTokensByKey := tables.flowTokensByKey.erase flow.key
      flows := tables.flows.erase token
      descriptors := tables.descriptors.erase flow.fd }

namespace FlowTables

variable {tables : FlowTables} {token token' : ℕ} {flow flow' : UdpFlow} {loose : Option ℕ}

theorem close_of_lookup (h : tables.flows.lookup token = some flow) :
    tables.close token = { tables with
      flowTokensByKey := tables.flowTokensByKey.erase flow.key
      flows := tables.flows.erase token
      descriptors := tables.descriptors.erase flow.fd } := by
  unfold close
  rw [h]

theorem lookup_close (h : (tables.close token).flows.lookup token' = some flow) :
    token' ≠ token ∧ tables.flows.lookup token' = some flow := by
  unfold close at h
  split at h
  · rename_i hnone
    refine ⟨?_, h⟩
    rintro rfl
    rw [hnone] at h
    cases h
  · by_cases ht : token' = token
    · subst ht
      rw [Finmap.lookup_erase] at h
      cases h
    · exact ⟨ht, by rwa [Finmap.lookup_erase_ne ht] at h⟩

theorem Consistent.close (h : tables.Consistent options loose) (token : ℕ) :
    (tables.close token).Consistent options loose := by
  cases hlookup : tables.flows.lookup token with
  | none =>
    unfold FlowTables.close
    rwa [hlookup]
  | some flow =>
    have hof := close_of_lookup hlookup
    have hfd : ∀ {token' flow'}, token' ≠ token → tables.flows.lookup token' = some flow' →
        flow'.fd ≠ flow.fd := fun hne h' he => hne (h.apart h' hlookup he)
    refine ⟨fun key token' => ?_, fun h' => ?_, ?_, ?_, fun h' => ?_, fun h' => ?_, fun h' => ?_,
      fun h₁ h₂ => h.apart (lookup_close h₁).2 (lookup_close h₂).2, fun h' => ?_, fun h₁ h₂ => ?_⟩
    · rw [hof]
      by_cases hkey : key = flow.key
      · subst hkey
        rw [Finmap.lookup_erase]
        refine ⟨fun he => (by cases he), ?_⟩
        rintro ⟨flow', hflow', hkey'⟩
        have htoken := (h.index flow.key token').mpr ⟨flow', ?_, hkey'⟩
        · rw [(h.index flow.key token).mpr ⟨flow, hlookup, rfl⟩] at htoken
          obtain rfl := Option.some.inj htoken
          rw [Finmap.lookup_erase] at hflow'
          cases hflow'
        · by_cases ht : token' = token
          · rw [ht, Finmap.lookup_erase] at hflow'
            cases hflow'
          · rwa [Finmap.lookup_erase_ne ht] at hflow'
      · rw [Finmap.lookup_erase_ne hkey, h.index]
        refine exists_congr fun flow' => and_congr_left fun hkey' => ?_
        by_cases ht : token' = token
        · subst ht
          rw [Finmap.lookup_erase, hlookup]
          refine ⟨fun he => ?_, fun he => (by cases he)⟩
          rw [Option.some.inj he] at hkey
          exact absurd hkey'.symm hkey
        · rw [Finmap.lookup_erase_ne ht]
    · have := h.token (lookup_close h').2
      rwa [hof]
    · rw [hof]
      exact le_trans (Table.size_erase_le _ _) h.capacity
    · rw [hof]
      exact h.next_ge
    · obtain ⟨hne, h'⟩ := lookup_close h'
      rw [hof, Finmap.lookup_erase_ne (hfd hne h')]
      exact h.socket h'
    · rw [hof] at h' ⊢
      rename_i fd serial peer
      have hne : fd ≠ flow.fd := by
        rintro rfl
        rw [Finmap.lookup_erase] at h'
        cases h'
      rw [Finmap.lookup_erase_ne hne] at h'
      refine (h.owner h').imp_right ?_
      rintro ⟨token', flow', hflow', rfl⟩
      refine ⟨token', flow', ?_, rfl⟩
      have ht : token' ≠ token := by
        rintro rfl
        rw [hlookup] at hflow'
        exact hne (by rw [Option.some.inj hflow'])
      rwa [Finmap.lookup_erase_ne ht]
    · exact h.held (lookup_close h').2
    · rw [hof] at h' ⊢
      exact h.numbered (Table.lookup_of_lookup_erase h')
    · rw [hof] at h₁ h₂
      exact h.distinct (Table.lookup_of_lookup_erase h₁) (Table.lookup_of_lookup_erase h₂)

theorem lookup_close_of_ne (h : token' ≠ token) :
    (tables.close token).flows.lookup token' = tables.flows.lookup token' := by
  unfold close
  split
  · rfl
  · rw [Finmap.lookup_erase_ne h]

/-- What a flow connects does not depend on its token and deadline. -/
theorem association_of_lookup (h : tables.flows.lookup token = some flow) :
    tables.association token =
      some ⟨flow.key, flow.backend, tables.descriptors.lookup flow.fd⟩ := by
  rw [association, h]
  rfl

theorem association_congr {tables' : FlowTables} (hflows : tables'.flows = tables.flows)
    (hdescriptors : ∀ token flow, tables.flows.lookup token = some flow →
      tables'.descriptors.lookup flow.fd = tables.descriptors.lookup flow.fd) (token : ℕ) :
    tables'.association token = tables.association token := by
  rw [association, association, hflows]
  cases h : tables.flows.lookup token with
  | none => rfl
  | some flow =>
    rw [Option.map_some, Option.map_some, hdescriptors _ _ h]

end FlowTables

/-! ### Closing -/

/-- A flow was closed, if it was there. -/
structure Closed (token : ℕ) (s s' : UdpReactor) : Prop extends Rest s s' where
  /-- It is out of the tables. -/
  tables : s'.tables = s.tables.close token
  /-- No flow has come. -/
  inserted : NoneInserted s s'

theorem NoneInserted.refl (s : UdpReactor) : NoneInserted s s := fun _ _ h => h

theorem NoneInserted.trans {s s' s'' : UdpReactor} (h : NoneInserted s s') (h' : NoneInserted s' s'') :
    NoneInserted s s'' := fun _ _ hmem => h _ _ (h' _ _ hmem)

theorem Rest.refl (s : UdpReactor) : Rest s s := ⟨rfl, rfl, fun _ h => h, .refl _⟩

theorem Rest.of_eq {s s' : UdpReactor} (hlog : s'.log = s.log) (hlistener : s'.listenerFd = s.listenerFd)
    (hbuffer : s'.receiveBuffer = s.receiveBuffer) : Rest s s' :=
  ⟨hlistener, hbuffer, fun o ho => by rwa [Owes, hlog], by rw [hlog]; exact .refl _⟩

theorem Rest.trans {s s' s'' : UdpReactor} (h : Rest s s') (h' : Rest s' s'') : Rest s s'' :=
  ⟨h'.listenerFd.trans h.listenerFd, h'.receiveBuffer.trans h.receiveBuffer,
    fun o ho => h'.owes o (h.owes o ho), h.later.trans h'.later⟩

theorem Closed.stable {token : ℕ} : Stable (Closed token s) := fun _ _ hf h =>
  ⟨h.toRest.trans hf.rest, hf.tables.trans h.tables, h.inserted.trans hf.inserted⟩

theorem Closed.consistent {token : ℕ} {loose : Option ℕ} (h : Closed token s s')
    (hs : Consistent options loose s) : Consistent options loose s' := by
  refine ⟨?_, ?_, fun hmem => ?_⟩
  · rw [h.tables]
    exact hs.tables.close token
  · rw [h.tables, h.listenerFd]
    unfold FlowTables.close
    split
    · exact hs.listener
    · rename_i flow hlookup
      obtain ⟨serial, hsocket⟩ := hs.tables.socket hlookup
      have hne : s.listenerFd ≠ flow.fd := fun he => by
        rw [← he, hs.listener] at hsocket
        cases hsocket
      rw [Finmap.lookup_erase_ne hne]
      exact hs.listener
  · rw [h.tables]
    unfold FlowTables.close
    split <;> exact hs.inserted (h.inserted _ _ hmem)

/-- What is thrown where a flow is closed: a callback has thrown that does not, or the observation
callback when it was told of it. -/
def ClosingThrew (token : ℕ) (reason : String) (log : List UdpEvent) : Prop :=
  Threw log ∨ ∃ fd flows tokens, ThrewAt (.observation reason token fd flows tokens) log

theorem ClosingThrew.later {token : ℕ} {reason : String} {log log' : List UdpEvent} (h : ClosingThrew token reason log)
    (hlater : Later log log') : ClosingThrew token reason log' := by
  refine h.imp hlater.threw ?_
  rintro ⟨fd, flows, tokens, hat⟩
  exact ⟨fd, flows, tokens, hat.later hlater⟩

/-- A report of a closing can be made, whatever is to be kept. -/
def Reports (listenEndpoint : Endpoint) (token : ℕ) (reason : String) (report : UdpM Unit) : Prop :=
  ∀ {P : UdpReactor → Prop} {s : UdpReactor}, Stable P → P s →
    Runs (UdpStep listenEndpoint) (fun _ s' => P s' ∧ ClosingThrew token reason s'.log) report s fun _ => P

theorem reports_notify {token : ℕ} {reason : String} (event : UdpEvent) (hevent : event.Plain)
    (htrusted : event.Trusted) : Reports listenEndpoint token reason (notify event) := fun hP h =>
  (runs_notify_at hevent hP h).mono (fun _ _ _ h => ⟨h.1, .inl (h.2.threw htrusted)⟩) fun _ _ _ h => h

theorem reports_reportObservation (reason : String) (token : ℕ) (fd : ℤ) :
    Reports listenEndpoint token reason (reportObservation reason token fd) := fun hP h =>
  Runs.gets_bind ((runs_notify_at (by trivial) hP h).mono (fun _ _ _ h => ⟨h.1, .inr ⟨_, _, _, h.2⟩⟩) fun _ _ _ h => h)

/-- A failure that was kept was thrown by a callback. -/
def Attempted (token : ℕ) (reason : String) (P : UdpReactor → Prop) (failure : Option UdpError) (s : UdpReactor) : Prop :=
  P s ∧ (failure.isSome → ClosingThrew token reason s.log)

/-- A report that throws is made up for. -/
theorem runs_attemptReport {E : UdpError → UdpReactor → Prop} {report : UdpM Unit} {token : ℕ} {reason : String}
    {failure : Option UdpError} (hreport : Reports listenEndpoint token reason report) (hP : Stable P)
    (h : Attempted token reason P failure s) :
    Runs (UdpStep listenEndpoint) E (attemptReport failure report) s (Attempted token reason P) := by
  have hstable : Stable (Attempted token reason P failure) := fun s₁ s₂ hf h₁ =>
    ⟨hP s₁ s₂ hf h₁.1, fun hsome => (h₁.2 hsome).later hf.later⟩
  refine Runs.handle (Runs.bind (hreport hstable h) fun _ _ _ h₁ => Runs.pure h₁) fun e s₁ _ h₁ => ?_
  exact Runs.pure ⟨h₁.1.1, fun _ => h₁.2⟩

theorem runs_attemptDetachReports {E : UdpError → UdpReactor → Prop} {detachError : Errno} {token : ℕ} {reason : String}
    (hP : Stable P) (h : P s) :
    Runs (UdpStep listenEndpoint) E (attemptDetachReports detachError) s (Attempted token reason P) := by
  refine Runs.ite (fun _ => ?_) fun _ => Runs.pure ⟨h, nofun⟩
  have hstart : Attempted token reason P none s := ⟨h, nofun⟩
  refine Runs.bind (runs_attemptReport (reports_notify (.statistic ⟨.error, 1⟩) rfl trivial) hP hstart) fun _ s₁ _ h₁ => ?_
  exact runs_attemptReport (reports_notify (.diagnostic _ _) trivial trivial) hP h₁

/-- The reports of a closing; what they throw, a callback has thrown. -/
theorem runs_reportClosed {token : ℕ} {flow : UdpFlow} {reason : String} {error detachError : Errno} (hP : Stable P)
    (h : P s) :
    Runs (UdpStep listenEndpoint) (fun _ s' => P s' ∧ ClosingThrew token reason s'.log)
      (reportClosed token flow reason error detachError) s fun _ => P := by
  unfold reportClosed
  refine Runs.bind (Q := Attempted token reason P) (runs_attemptDetachReports hP h) fun failure s₁ _ h₁ => ?_
  refine Runs.bind (runs_attemptReport (reports_notify (.statistic ⟨.closed, 1⟩) rfl trivial) hP h₁) fun _ s₂ _ h₂ => ?_
  refine Runs.bind (runs_attemptReport (reports_reportObservation reason token flow.fd) hP h₂) fun _ s₃ _ h₃ => ?_
  refine Runs.bind (runs_attemptReport (reports_notify (.flowEvent _ _ _ _) trivial trivial) hP h₃)
    fun failure s₄ _ h₄ => ?_
  cases failure with
  | none => exact Runs.pure h₄.1
  | some e => exact Runs.raise ⟨h₄.1, h₄.2 rfl⟩

theorem destroyFd_eq (fd : Fd) : destroyFd fd = (modify fun s => s.close fd : UdpM Unit) := rfl

/-- An owner that was closed has nothing left to close when it is destroyed. -/
theorem closeFd_ensure {α : Type} (fd : ℕ) (m : UdpM α) :
    (closeFd (some fd) >>= fun fd => ensure (destroyFd fd) m) =
      (modify fun s => s.close fd : UdpM Unit) >>= fun _ => m := by
  have hnone : destroyFd none = pure () := destroyFd_eq none
  have hscope : (closeFd (some fd) >>= fun fd => ensure (destroyFd fd) m) =
      (modify fun s => s.close fd : UdpM Unit) >>= fun _ => ensure (destroyFd none) m := rfl
  rw [hscope, hnone, ensure_pure]

/-- A change of the tables that no flow takes part in. -/
theorem runs_modifyTables_bind {α : Type} {E : UdpError → UdpReactor → Prop} {f : FlowTables → FlowTables}
    {m : Unit → UdpM α} {Q : α → UdpReactor → Prop} (hflows : (f s.tables).flows = s.tables.flows)
    (hdescriptors : ∀ token flow, s.tables.flows.lookup token = some flow →
      (f s.tables).descriptors.lookup flow.fd = s.tables.descriptors.lookup flow.fd)
    (h : Runs (UdpStep listenEndpoint) E (m ()) { s with tables := f s.tables } Q) :
    Runs (UdpStep listenEndpoint) E (modifyTables f >>= m) s Q :=
  Runs.modify_bind (.single (.quiet rfl (FlowTables.association_congr hflows hdescriptors))) h

/-- What holds where closing a flow throws: it is closed, and a callback has thrown. -/
structure ClosedThrown (token : ℕ) (reason : String) (s s' : UdpReactor) : Prop extends Closed token s s' where
  /-- It was closed for the reason, since the datagram taken last. -/
  closing : .closing token reason ∈ sinceReceived s'.log
  /-- Who has thrown. -/
  threw : ClosingThrew token reason s'.log

/-- Closing a flow; what it throws, a callback has thrown. -/
theorem runs_closeFlow_thrown {token : ℕ} {reason : String} {error : Errno} {loose : Option ℕ}
    (h : Consistent options loose s) :
    Runs (UdpStep listenEndpoint) (fun _ => ClosedThrown token reason s) (closeFlow token reason error) s
      fun _ => Closed token s := by
  refine Runs.gets_bind ?_
  cases hlookup : s.tables.flows.lookup token with
  | none =>
    refine Runs.pure ⟨Rest.refl s, ?_, NoneInserted.refl s⟩
    rw [FlowTables.close, hlookup]
  | some flow =>
    -- first the tables, then the socket, then the reports
    have herased : ∀ token', ({ s.tables with
        flowTokensByKey := s.tables.flowTokensByKey.erase flow.key
        flows := s.tables.flows.erase token } : FlowTables).association token' =
          if token' = token then none else s.tables.association token' := by
      intro token'
      by_cases ht : token' = token
      · rw [if_pos ht, ht, FlowTables.association, Finmap.lookup_erase]
        rfl
      · rw [if_neg ht, FlowTables.association, Finmap.lookup_erase_ne ht]
        rfl
    have hclosing : (UdpEvent.closing token reason).Plain := trivial
    refine Runs.modify_bind (.tail (UdpStep.plain hclosing) (.erased token rfl herased)) ?_
    refine Runs.call_bind fun answer => ?_
    have hframe : Frame s (s.record (.closing token reason)) := hclosing.frame
    have hclosed : Closed token s { s with
        tables := { s.tables with
          flowTokensByKey := s.tables.flowTokensByKey.erase flow.key
          flows := s.tables.flows.erase token
          descriptors := s.tables.descriptors.erase flow.fd }
        closes := flow.fd :: s.closes
        log := .erased token :: .closing token reason :: s.log } := by
      refine ⟨⟨rfl, rfl, fun o ho => (hframe.owes o ho).cons rfl rfl,
        hframe.later.trans (.cons (.erased token) not_false _)⟩,
        ?_, fun _ _ hmem => hframe.inserted _ _ ?_⟩
      · exact (FlowTables.close_of_lookup hlookup).symm
      · exact (List.mem_cons.mp hmem).resolve_left (by simp)
    have hfd : ∀ token' flow', (s.tables.flows.erase token).lookup token' = some flow' →
        flow'.fd ≠ flow.fd := by
      intro token' flow' hflow' he
      by_cases ht : token' = token
      · rw [ht, Finmap.lookup_erase] at hflow'
        cases hflow'
      · rw [Finmap.lookup_erase_ne ht] at hflow'
        exact ht (h.tables.apart hflow' hlookup he)
    rw [closeFd_ensure]
    refine Runs.modify_bind (.single (UdpStep.quiet rfl (FlowTables.association_congr rfl fun token' flow' hflow' => ?_))) ?_
    · exact Finmap.lookup_erase_ne (hfd token' flow' hflow')
    have hstable : Stable fun s' => Closed token s s' ∧ .closing token reason ∈ sinceReceived s'.log := fun s₁ s₂ hf h₁ =>
      ⟨Closed.stable s₁ s₂ hf h₁.1, hf.later.since.subset h₁.2⟩
    exact (runs_reportClosed hstable ⟨hclosed, List.mem_cons_of_mem _ List.mem_cons_self⟩).mono
      (fun _ _ _ h' => ⟨h'.1.1, h'.1.2, h'.2⟩) fun _ _ _ h' => h'.1

theorem runs_closeFlow {token : ℕ} {reason : String} {error : Errno} {loose : Option ℕ}
    (h : Consistent options loose s) :
    Runs (UdpStep listenEndpoint) (fun _ => Closed token s) (closeFlow token reason error) s
      fun _ => Closed token s :=
  (runs_closeFlow_thrown h).mono (fun _ _ _ h => h.toClosed) fun _ _ _ h => h

/-- Flows were closed, and none came. -/
structure Swept (options : UdpReactorOptions) (s s' : UdpReactor) : Prop extends Rest s s' where
  /-- The tables agree. -/
  consistent : Consistent options none s'
  /-- What is left was there. -/
  flows : ∀ {token flow}, s'.tables.flows.lookup token = some flow →
    s.tables.flows.lookup token = some flow

theorem Swept.refl (h : Consistent options none s) : Swept options s s := ⟨Rest.refl s, h, fun h => h⟩

theorem Swept.stable : Stable (Swept options s) := fun s₁ s₂ hf h =>
  ⟨h.toRest.trans hf.rest, Consistent.stable s₁ s₂ hf h.consistent, fun hflow => by
    rw [hf.tables] at hflow
    exact h.flows hflow⟩

theorem Swept.closed {token : ℕ} {s₁ s₂ : UdpReactor} (h : Swept options s s₁)
    (h' : Closed token s₁ s₂) : Swept options s s₂ :=
  ⟨h.toRest.trans h'.toRest, h'.consistent h.consistent, fun hflow => by
    rw [h'.tables] at hflow
    exact h.flows (FlowTables.lookup_close hflow).2⟩

/-- A key without a flow has none after the sweep. -/
theorem Swept.unmapped {key : UdpFlowKey} (h : Swept options s s') (hs : Consistent options none s)
    (hkey : s.tables.flowTokensByKey.lookup key = none) :
    s'.tables.flowTokensByKey.lookup key = none := by
  cases h' : s'.tables.flowTokensByKey.lookup key with
  | none => rfl
  | some token =>
    obtain ⟨flow, hflow, hfkey⟩ := (h.consistent.tables.index key token).mp h'
    rw [(hs.tables.index key token).mpr ⟨flow, h.flows hflow, hfkey⟩] at hkey
    cases hkey

/-- Closing a flow in a sweep. -/
theorem Swept.runs_closeFlow {token : ℕ} {reason : String} {error : Errno} {s₁ : UdpReactor}
    (h : Swept options s s₁) :
    Runs (UdpStep listenEndpoint) (fun _ => Swept options s) (closeFlow token reason error) s₁
      fun _ => Swept options s :=
  (Net.runs_closeFlow h.consistent).mono (fun _ _ _ h' => h.closed h') fun _ _ _ h' => h.closed h'

theorem runs_expireIdleFlows (h : Consistent options none s) :
    Runs (UdpStep listenEndpoint) (fun _ => Swept options s) (expireIdleFlows options) s
      fun _ => Swept options s := by
  refine Runs.bind (runs_currentTime Swept.stable (Swept.refl h)) fun time s₁ _ h₁ => ?_
  refine Runs.call_bind fun rank => Runs.gets_bind ?_
  refine Runs.forEach (Swept options s) _ (fun token _ s₂ h₂ => ?_) h₁
  refine Runs.gets_bind ?_
  cases s₂.tables.flows.lookup token with
  | none => exact Runs.pure h₂
  | some flow =>
    have hswept : (UdpEvent.swept token flow.deadline.lastSubmissionTime time).Plain := trivial
    have h₂ := Swept.stable s₂ _ hswept.frame h₂
    refine Runs.modify_bind (UdpStep.plain hswept) (Runs.ite (fun _ => ?_) fun _ => Runs.pure h₂)
    refine Runs.bind (runs_reportStatEvent rfl Swept.stable h₂) fun _ s₃ _ h₃ => ?_
    exact Runs.bind h₃.runs_closeFlow fun _ _ _ h₄ => Runs.pure h₄

/-- There are no flows. -/
def NoFlows (s : UdpReactor) : Prop := ∀ token, s.tables.flows.lookup token = none

theorem noFlows_of_order {rank : ℕ → ℕ} (h : (s.tables.flows.order rank).head? = none) : NoFlows s := by
  intro token
  rw [List.head?_eq_none_iff] at h
  refine Finmap.lookup_eq_none.mpr fun hmem => ?_
  have : token ∈ s.tables.flows.order rank := Table.mem_order.mpr hmem
  rw [h] at this
  cases this

/-- All flows are closed, whatever is thrown. -/
theorem runs_closeAllFlows (h : Consistent options none s) :
    Runs (UdpStep listenEndpoint) (fun _ s' => Swept options s s' ∧ NoFlows s') closeAllFlows s
      fun _ s' => Swept options s s' ∧ NoFlows s' := by
  refine Runs.bind (Q := fun _ s' => Swept options s s' ∧ NoFlows s')
    (Runs.loop (fun _ => Swept options s) ?_ (Swept.refl h)) fun failure s₁ _ h₁ => ?_
  · intro failure s₁ h₁
    refine Runs.call_bind fun rank => Runs.gets_bind ?_
    cases horder : (s₁.tables.flows.order rank).head? with
    | none => exact Runs.pure ⟨h₁, noFlows_of_order horder⟩
    | some token =>
      refine Runs.bind (Runs.handle (Runs.bind h₁.runs_closeFlow fun _ _ _ h₂ => Runs.pure h₂)
        fun _ _ _ h₂ => Runs.pure h₂) fun _ _ _ h₂ => Runs.pure h₂
  · cases failure with
    | none => exact Runs.pure h₁
    | some e => exact Runs.raise h₁

end L4lb.Net
