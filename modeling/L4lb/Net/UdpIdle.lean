import L4lb.Net.UdpDatagrams

/-!
# How a flow of the UDP reactor goes idle

What the history says of the deadlines of the flows and of the checks made of them, and
what may happen next.

## The model

* `flowOf` — the flow with a token, with the time of its last submission.
* `FoundExpired`, `timeoutsOf` — whether a check has found it expired, and the timeouts
  counted for it.
* `vouched` — the flow that the last check found alive, for the datagram at hand.
* `UdpEvent.Timely` — what may happen after a history; `TimelyLog` — a history of what may
  happen.

## What is proved

The flows are what the history says, at every point of what the reports, the closing of
flows and the sweeps do (`Idle`), and what they leave is `Clear` of flows found expired.
-/

namespace L4lb.Net

open Effect Prog Relation

/-! ### What the history says -/

/-- The flow with a token. -/
def flowOf (token : ℕ) : List UdpEvent → Option UdpFlow
  | [] => none
  | .inserted flow _ :: log => if flow.token = token then some flow else flowOf token log
  | .refreshed t time :: log =>
    if t = token then (flowOf token log).map fun flow => { flow with deadline := ⟨time⟩ } else flowOf token log
  | .erased t :: log => if t = token then none else flowOf token log
  | _ :: log => flowOf token log

/-- A check has found the flow with a token expired. -/
def FoundExpired (timeout : Time) (token : ℕ) : List UdpEvent → Prop
  | [] => False
  | .inserted flow _ :: log => flow.token ≠ token ∧ FoundExpired timeout token log
  | .checked t last time :: log => t = token ∧ time - last ≥ timeout ∨ FoundExpired timeout token log
  | .swept t last time :: log => t = token ∧ time - last ≥ timeout ∨ FoundExpired timeout token log
  | _ :: log => FoundExpired timeout token log

/-- The flow that may be sent on: the last one that was checked and found alive, or that came, since
the last datagram of a client was taken and the last one was handed over. -/
def vouched (timeout : Time) : List UdpEvent → Option ℕ
  | [] => none
  | .checked token last time :: _ => if time - last ≥ timeout then none else some token
  | .inserted flow _ :: _ => some flow.token
  | .received source _ :: log => if source = some .listener then none else vouched timeout log
  | .answered _ _ result :: log =>
    match result with
    | .error .EINTR => vouched timeout log
    | _ => none
  | _ :: log => vouched timeout log

/-- What came of the last datagram handed over, if its submission was not recorded yet: the token
of its flow, its length and the answer. -/
def lastAnswer : List UdpEvent → Option (ℕ × ℕ × Except Errno ℕ)
  | [] => none
  | .answered token size result :: _ => some (token, size, result)
  | .refreshed _ _ :: _ => none
  | _ :: log => lastAnswer log

/-- The backend selected since the last datagram was taken and the last flow came. -/
def pendingSelection : List UdpEvent → Option Endpoint
  | [] => none
  | .selected backend :: _ => backend
  | .inserted _ _ :: _ | .received _ _ :: _ => none
  | _ :: log => pendingSelection log

/-- The last thing that happened is that a check found a flow expired. -/
def JustExpired (timeout : Time) (token : ℕ) (log : List UdpEvent) : Prop :=
  ∃ last time rest, (log = .checked token last time :: rest ∨ log = .swept token last time :: rest) ∧
    time - last ≥ timeout

/-- The last thing that happened is that a timeout was counted, just after a check found the flow
expired. -/
def TimedOut (timeout : Time) (token : ℕ) (log : List UdpEvent) : Prop :=
  ∃ rest, log = .statistic ⟨.timeout, 1⟩ :: rest ∧ JustExpired timeout token rest

/-- The flow checked last. -/
def lastCheck : List UdpEvent → Option ℕ
  | [] => none
  | .checked token _ _ :: _ | .swept token _ _ :: _ => some token
  | _ :: log => lastCheck log

/-- The timeouts counted after checks of the flow with a token. -/
def timeoutsOf (token : ℕ) : List UdpEvent → ℕ
  | [] => 0
  | .inserted flow _ :: log => if flow.token = token then 0 else timeoutsOf token log
  | .statistic event :: log =>
    (if event.kind = .timeout ∧ lastCheck log = some token then 1 else 0) + timeoutsOf token log
  | _ :: log => timeoutsOf token log

/-! ### What may happen -/

/-- A check of a flow: it is there, with this last submission, and was never found expired. -/
def Checkable (timeout : Time) (token : ℕ) (last : Time) (log : List UdpEvent) : Prop :=
  ¬ FoundExpired timeout token log ∧ ∃ flow, flowOf token log = some flow ∧ flow.deadline.lastSubmissionTime = last

/-- If the last datagram taken was a client's, it has the key of the flow. -/
def Directed (listenEndpoint : Endpoint) (flow : UdpFlow) (log : List UdpEvent) : Prop :=
  ∀ receipt, lastReceived log = some (some .listener, receipt) →
    parsePacketMetadata listenEndpoint receipt = some flow.key

/-- What was handed over last and taken whole has its submission recorded. -/
def Recorded (log : List UdpEvent) : Prop := ∀ token size, lastAnswer log ≠ some (token, size, .ok size)

/-- A datagram is taken or handed over, or a flow is checked. -/
def UdpEvent.Turns : UdpEvent → Prop
  | .received .. | .checked .. | .swept .. | .answered .. => True
  | _ => False

/-- What may happen after a history. -/
def UdpEvent.Timely (listenEndpoint : Endpoint) (timeout : Time) : UdpEvent → List UdpEvent → Prop
  | .received _ _, log => Recorded log
  | .checked token last _, log => Recorded log ∧ Checkable timeout token last log
  | .swept token last _, log => Recorded log ∧ Checkable timeout token last log
  -- a datagram goes by the flow that was vouched for; if it is a client's, by the flow with its key
  | .answered token _ _, log =>
    Recorded log ∧ vouched timeout log = some token ∧ ¬ FoundExpired timeout token log ∧
      ∃ flow, flowOf token log = some flow ∧ Directed listenEndpoint flow log
  -- a submission is recorded when the whole datagram was taken
  | .refreshed token _, log => ∃ size, lastAnswer log = some (token, size, .ok size)
  -- a flow comes with the backend selected for it, and only flows that are there go
  | .inserted flow _, log => pendingSelection log = some flow.backend
  | .erased token, log => (flowOf token log).isSome
  -- a timeout is counted when a flow was found expired, and the flow is then closed for it
  | .statistic event, log => event.kind = .timeout → event.amount = 1 ∧ ∃ token, JustExpired timeout token log
  | .closing token reason, log => reason = "idle-timeout" → TimedOut timeout token log
  | _, _ => True

/-- A history of what may happen. -/
def TimelyLog (listenEndpoint : Endpoint) (timeout : Time) (log : List UdpEvent) : Prop :=
  ∀ e before, e :: before <:+ log → e.Timely listenEndpoint timeout before

section History

variable {listenEndpoint : Endpoint} {timeout : Time} {log : List UdpEvent} {token : ℕ}

theorem TimelyLog.nil : TimelyLog listenEndpoint timeout [] :=
  fun _ _ h => absurd (List.suffix_nil.mp h) (List.cons_ne_nil _ _)

theorem TimelyLog.cons {e : UdpEvent} (h : TimelyLog listenEndpoint timeout log) (he : e.Timely listenEndpoint timeout log) :
    TimelyLog listenEndpoint timeout (e :: log) := by
  intro e' before hs
  rcases List.suffix_cons_iff.mp hs with heq | hs
  · obtain ⟨rfl, rfl⟩ := List.cons.inj heq
    exact he
  · exact h e' before hs

theorem TimelyLog.tail {e : UdpEvent} (h : TimelyLog listenEndpoint timeout (e :: log)) :
    TimelyLog listenEndpoint timeout log :=
  fun e' before hs => h e' before (hs.trans (List.suffix_cons _ _))

theorem TimelyLog.head {e : UdpEvent} (h : TimelyLog listenEndpoint timeout (e :: log)) :
    e.Timely listenEndpoint timeout log :=
  h e log List.suffix_rfl

theorem JustExpired.found (h : JustExpired timeout token log) : FoundExpired timeout token log := by
  obtain ⟨last, time, rest, rfl | rfl, hexpired⟩ := h
  · exact Or.inl ⟨rfl, hexpired⟩
  · exact Or.inl ⟨rfl, hexpired⟩

theorem JustExpired.lastCheck_eq (h : JustExpired timeout token log) : lastCheck log = some token := by
  obtain ⟨last, time, rest, rfl | rfl, -⟩ := h
  · rfl
  · rfl

theorem UdpEvent.Turns.recorded {e : UdpEvent} (h : e.Turns) (he : e.Timely listenEndpoint timeout log) : Recorded log := by
  cases e with
  | received => exact he
  | checked => exact he.1
  | swept => exact he.1
  | answered => exact he.1
  | _ => exact h.elim

/-- What was taken whole is the last that was handed over, or its submission was recorded since. -/
theorem TimelyLog.recorded {size : ℕ} {between : List UdpEvent}
    (h : TimelyLog listenEndpoint timeout (between ++ .answered token size (.ok size) :: log)) :
    lastAnswer (between ++ .answered token size (.ok size) :: log) = some (token, size, .ok size) ∨
      ∃ time, .refreshed token time ∈ between := by
  induction between with
  | nil => exact Or.inl rfl
  | cons event between ih =>
    rcases ih h.tail with hlast | ⟨time, hmem⟩
    · cases event with
      | answered => exact absurd hlast (h.head.1 token size)
      | refreshed t time =>
        obtain ⟨size', hlast'⟩ : ∃ size, lastAnswer _ = some (t, size, .ok size) := h.head
        obtain rfl := (Prod.mk.inj (Option.some.inj (hlast.symm.trans hlast'))).1
        exact Or.inr ⟨time, List.mem_cons_self⟩
      | _ => exact Or.inl hlast
    · exact Or.inr ⟨time, List.mem_cons_of_mem _ hmem⟩

/-- No timeout is counted for a flow that was never found expired. -/
theorem TimelyLog.timeoutsOf_eq_zero (h : TimelyLog listenEndpoint timeout log) (hnot : ¬ FoundExpired timeout token log) :
    timeoutsOf token log = 0 := by
  induction log with
  | nil => rfl
  | cons e log ih =>
    have ih := ih h.tail
    cases e with
    | inserted flow socket =>
      rw [timeoutsOf]
      split
      · rfl
      · rename_i hne
        exact ih fun hfound => hnot ⟨hne, hfound⟩
    | checked t last time => exact ih fun hfound => hnot (Or.inr hfound)
    | swept t last time => exact ih fun hfound => hnot (Or.inr hfound)
    | statistic event =>
      rw [timeoutsOf, ih hnot, if_neg]
      rintro ⟨hkind, hlast⟩
      obtain ⟨-, t, hexpired⟩ := h.head hkind
      rw [hexpired.lastCheck_eq] at hlast
      obtain rfl := Option.some.inj hlast
      exact hnot hexpired.found
    | _ => exact ih hnot

/-- A flow that is closed for a timeout has one. -/
theorem TimelyLog.timeoutsOf_eq_one (h : TimelyLog listenEndpoint timeout log) (htimed : TimedOut timeout token log) :
    timeoutsOf token log = 1 := by
  obtain ⟨rest, rfl, last, time, before, hrest, hexpired⟩ := htimed
  have hcheck : JustExpired timeout token rest := ⟨last, time, before, hrest, hexpired⟩
  rw [timeoutsOf, if_pos ⟨rfl, hcheck.lastCheck_eq⟩]
  obtain rfl | rfl := hrest
  · exact congrArg (1 + ·) (h.tail.tail.timeoutsOf_eq_zero h.tail.head.2.1)
  · exact congrArg (1 + ·) (h.tail.tail.timeoutsOf_eq_zero h.tail.head.2.1)

/-- What was found expired stays so while no flow comes with the token. -/
theorem FoundExpired.append (h : FoundExpired timeout token log) (between : List UdpEvent)
    (hnone : ∀ flow socket, .inserted flow socket ∈ between → flow.token ≠ token) :
    FoundExpired timeout token (between ++ log) := by
  induction between with
  | nil => exact h
  | cons event between ih =>
    have ih := ih fun flow socket hmem => hnone flow socket (List.mem_cons_of_mem _ hmem)
    cases event with
    | inserted flow socket => exact ⟨hnone flow socket List.mem_cons_self, ih⟩
    | checked t last time => exact Or.inr ih
    | swept t last time => exact Or.inr ih
    | _ => exact ih

/-- No further timeout is counted for a flow that was found expired. -/
theorem TimelyLog.timeoutsOf_append {between : List UdpEvent}
    (h : TimelyLog listenEndpoint timeout (between ++ log)) (hfound : FoundExpired timeout token log)
    (hdone : ¬ JustExpired timeout token log)
    (hnone : ∀ flow socket, .inserted flow socket ∈ between → flow.token ≠ token) :
    timeoutsOf token (between ++ log) = timeoutsOf token log := by
  induction between with
  | nil => rfl
  | cons event between ih =>
    have hnone' := fun flow socket hmem => hnone flow socket (List.mem_cons_of_mem _ hmem)
    have ih := ih h.tail hnone'
    cases event with
    | inserted flow socket =>
      rw [List.cons_append, timeoutsOf, if_neg (hnone flow socket List.mem_cons_self), ih]
    | statistic event =>
      rw [List.cons_append, timeoutsOf, ih, if_neg, Nat.zero_add]
      rintro ⟨hkind, hlast⟩
      obtain ⟨-, t, hexpired⟩ := h.head hkind
      have hexpired : JustExpired timeout t (between ++ log) := hexpired
      obtain rfl := Option.some.inj (hexpired.lastCheck_eq.symm.trans hlast)
      -- the check before it was one of a flow that was found expired already
      cases between with
      | nil => exact hdone hexpired
      | cons e between =>
        have hstill := hfound.append between fun flow socket hmem => hnone' flow socket (List.mem_cons_of_mem _ hmem)
        obtain ⟨last, time, rest, hrest | hrest, -⟩ := hexpired
        · obtain ⟨rfl, rfl⟩ := List.cons.inj hrest
          exact h.tail.head.2.1 hstill
        · obtain ⟨rfl, rfl⟩ := List.cons.inj hrest
          exact h.tail.head.2.1 hstill
    | _ => exact ih

/-- A flow that is there has come since, or was there. -/
theorem flowOf_append {flow' : UdpFlow} {between : List UdpEvent} (h : flowOf token (between ++ log) = some flow') :
    (∃ flow socket mid rest, between = mid ++ .inserted flow socket :: rest ∧ flow.token = token ∧
        flow.key = flow'.key ∧ flow.backend = flow'.backend) ∨
      ∃ flow, flowOf token log = some flow ∧ flow.key = flow'.key := by
  induction between generalizing flow' with
  | nil => exact Or.inr ⟨flow', h, rfl⟩
  | cons event between ih =>
    have hlater : ∀ {flow'}, flowOf token (between ++ log) = some flow' →
        (∃ flow socket mid rest, event :: between = mid ++ .inserted flow socket :: rest ∧ flow.token = token ∧
            flow.key = flow'.key ∧ flow.backend = flow'.backend) ∨
          ∃ flow, flowOf token log = some flow ∧ flow.key = flow'.key := by
      intro flow' h'
      refine (ih h').imp_left fun ⟨flow, socket, mid, rest, hbetween, hflow⟩ => ?_
      exact ⟨flow, socket, event :: mid, rest, by rw [hbetween, List.cons_append], hflow⟩
    cases event with
    | inserted flow socket =>
      rw [List.cons_append, flowOf] at h
      split at h
      · rename_i htoken
        obtain rfl := Option.some.inj h
        exact Or.inl ⟨flow, socket, [], between, rfl, htoken, rfl, rfl⟩
      · exact hlater h
    | refreshed t time =>
      rw [List.cons_append, flowOf] at h
      split at h
      · obtain ⟨flow, hflow, rfl⟩ := Option.map_eq_some_iff.mp h
        have hlater := @hlater flow
        exact hlater hflow
      · exact hlater h
    | erased t =>
      rw [List.cons_append, flowOf] at h
      split at h
      · cases h
      · exact hlater h
    | _ => exact hlater h

end History

/-! ### The flows are what the history says -/

/-- The history is of what may happen, and the flows are those it says. -/
structure Idle (listenEndpoint : Endpoint) (options : UdpReactorOptions) (s : UdpReactor) : Prop where
  /-- It is. -/
  timely : TimelyLog listenEndpoint options.idleTimeout s.log
  /-- The flows. -/
  flows : ∀ token, s.tables.flows.lookup token = flowOf token s.log

/-- Every run keeps the flows what the history says. -/
abbrev Timed (listenEndpoint : Endpoint) (options : UdpReactorOptions) (E : UdpReactor → Prop) {α : Type}
    (m : UdpM α) (s : UdpReactor) (Q : α → UdpReactor → Prop) : Prop :=
  Runs (fun s s' => Idle listenEndpoint options s → Idle listenEndpoint options s') (fun _ s' => E s') m s Q

/-- No flow that is there was found expired; it has its token, which is below the next. -/
structure Unexpired (options : UdpReactorOptions) (s : UdpReactor) : Prop where
  /-- No flow was found expired. -/
  unfound : ∀ token flow, s.tables.flows.lookup token = some flow → ¬ FoundExpired options.idleTimeout token s.log
  /-- Flows have their tokens, which are below the next. -/
  numbered : ∀ token flow, s.tables.flows.lookup token = some flow → flow.token = token ∧ token < s.tables.nextFlowToken

/-- And what was taken whole is recorded. -/
structure Clear (options : UdpReactorOptions) (s : UdpReactor) : Prop extends Unexpired options s where
  /-- It is. -/
  recorded : Recorded s.log

/-- No flow has come or was found expired, and what was vouched for and selected stands. -/
structure Eased (options : UdpReactorOptions) (s s' : UdpReactor) : Prop where
  /-- What is there was there. -/
  flows : ∀ token flow, s'.tables.flows.lookup token = some flow → s.tables.flows.lookup token = some flow
  /-- Tokens are only given out. -/
  next : s.tables.nextFlowToken ≤ s'.tables.nextFlowToken
  /-- What was found expired. -/
  found : ∀ token, FoundExpired options.idleTimeout token s'.log → FoundExpired options.idleTimeout token s.log
  /-- What was vouched for. -/
  vouched : vouched options.idleTimeout s'.log = vouched options.idleTimeout s.log
  /-- What was selected. -/
  selection : pendingSelection s'.log = pendingSelection s.log
  /-- What came of the last datagram handed over. -/
  answer : lastAnswer s'.log = lastAnswer s.log

/-- Nor has any flow gone. -/
structure Calm (options : UdpReactorOptions) (s s' : UdpReactor) : Prop extends Eased options s s' where
  /-- The flows are those there were. -/
  same : s'.tables.flows = s.tables.flows

section Easing

variable {listenEndpoint : Endpoint} {options : UdpReactorOptions} {s s' s'' : UdpReactor}

theorem Eased.refl (s : UdpReactor) : Eased options s s := ⟨fun _ _ h => h, le_rfl, fun _ h => h, rfl, rfl, rfl⟩

theorem Eased.trans (h : Eased options s s') (h' : Eased options s' s'') : Eased options s s'' :=
  ⟨fun token flow hflow => h.flows token flow (h'.flows token flow hflow), h.next.trans h'.next,
    fun token hfound => h.found token (h'.found token hfound), h'.vouched.trans h.vouched,
    h'.selection.trans h.selection, h'.answer.trans h.answer⟩

theorem Calm.refl (s : UdpReactor) : Calm options s s := ⟨Eased.refl s, rfl⟩

theorem Calm.trans (h : Calm options s s') (h' : Calm options s' s'') : Calm options s s'' :=
  ⟨h.toEased.trans h'.toEased, h'.same.trans h.same⟩

theorem Unexpired.eased (h : Unexpired options s) (heased : Eased options s s') : Unexpired options s' :=
  ⟨fun token flow hflow hfound => h.unfound token flow (heased.flows token flow hflow) (heased.found token hfound),
    fun token flow hflow => (h.numbered token flow (heased.flows token flow hflow)).imp_right fun hlt =>
      hlt.trans_le heased.next⟩

theorem Clear.eased (h : Clear options s) (heased : Eased options s s') : Clear options s' :=
  ⟨h.toUnexpired.eased heased, fun token size hanswer => h.recorded token size (heased.answer.symm.trans hanswer)⟩

/-- Nothing that the history or the flows are about has changed. -/
theorem Calm.of_eq (hlog : s'.log = s.log) (hflows : s'.tables.flows = s.tables.flows)
    (hnext : s.tables.nextFlowToken ≤ s'.tables.nextFlowToken) : Calm options s s' := by
  refine ⟨⟨fun token flow hflow => ?_, hnext, fun token hfound => ?_, ?_, ?_, ?_⟩, hflows⟩
  · rwa [hflows] at hflow
  · rwa [hlog] at hfound
  · rw [hlog]
  · rw [hlog]
  · rw [hlog]

theorem Idle.of_eq (h : Idle listenEndpoint options s) (hlog : s'.log = s.log) (hflows : s'.tables.flows = s.tables.flows) :
    Idle listenEndpoint options s' := by
  refine ⟨?_, fun token => ?_⟩
  · rw [hlog]
    exact h.timely
  · rw [hlog, hflows]
    exact h.flows token

/-- An event that says nothing of the flows and their checks. -/
def UdpEvent.IsReport : UdpEvent → Prop
  | .statistic event => event.kind ≠ .timeout
  | .observation .. | .diagnostic .. | .flowEvent .. | .callbackThrew | .handed .. | .abandoned .. => True
  | _ => False

theorem UdpEvent.IsReport.calm {event : UdpEvent} (h : event.IsReport) : Calm options s (s.record event) := by
  cases event <;> first
    | exact h.elim
    | exact ⟨⟨fun _ _ h => h, le_rfl, fun _ h => h, rfl, rfl, rfl⟩, rfl⟩

theorem Idle.report (h : Idle listenEndpoint options s) {event : UdpEvent} (hevent : event.IsReport) :
    Idle listenEndpoint options (s.record event) := by
  refine ⟨h.timely.cons ?_, fun token => (h.flows token).trans ?_⟩
  · cases event <;> first
      | exact hevent.elim
      | exact fun hkind => absurd hkind hevent
      | trivial
  · cases event <;> first
      | exact hevent.elim
      | rfl

theorem timed_notify {event : UdpEvent} (h : event.IsReport) :
    Timed listenEndpoint options (Calm options s) (notify event) s fun _ => Calm options s := by
  have hcalm : Calm options s (s.record event) := h.calm
  unfold notify
  refine Runs.modify_bind (.single fun hidle => hidle.report h) (Runs.call_bind fun answer => ?_)
  cases answer with
  | none => exact Runs.pure hcalm
  | some exception =>
    have hthrew : UdpEvent.callbackThrew.IsReport := trivial
    exact Runs.modify_bind (.single fun hidle => hidle.report hthrew) (Runs.raise (hcalm.trans hthrew.calm))

theorem timed_reportStatEvent {kind : StatKind} {amount : ℕ} (hkind : kind ≠ .timeout) :
    Timed listenEndpoint options (Calm options s) (reportStatEvent kind amount) s fun _ => Calm options s :=
  timed_notify hkind

theorem timed_reportObservation (kind : String) (token : ℕ) (fd : ℤ) :
    Timed listenEndpoint options (Calm options s) (reportObservation kind token fd) s fun _ => Calm options s :=
  Runs.gets_bind (timed_notify (by trivial))

theorem timed_currentTime {E : UdpReactor → Prop} :
    Timed listenEndpoint options E currentTime s fun _ => Calm options s :=
  Runs.call_bind fun _ => Runs.modify_bind (.single fun hidle => hidle.of_eq rfl rfl)
    (Runs.gets (Calm.of_eq rfl rfl le_rfl))

theorem timed_reportDiagnostic (kind : String) (error : Errno) :
    Timed listenEndpoint options (Calm options s) (reportDiagnostic kind error) s fun _ => Calm options s := by
  unfold reportDiagnostic
  refine Runs.bind (timed_reportObservation kind 0 (-1)) fun _ s₁ _ h₁ => ?_
  refine Runs.bind timed_currentTime fun time s₂ _ h₂ => ?_
  have h₂ := h₁.trans h₂
  refine Runs.gets_bind (Runs.ite (fun _ => Runs.pure h₂) fun _ => ?_)
  refine Runs.modify_bind (.single fun hidle => hidle.of_eq rfl rfl) ?_
  have h₃ : Calm options s { s₂ with lastDiagnosticTimes := Function.update s₂.lastDiagnosticTimes kind (some time) } :=
    h₂.trans (Calm.of_eq rfl rfl le_rfl)
  exact (timed_notify (by trivial)).mono (fun _ _ _ => h₃.trans) fun _ _ _ => h₃.trans

/-! ### Closing -/

/-- A report may throw. -/
theorem timed_attemptReport {E : UdpReactor → Prop} {report : UdpM Unit} {s₀ : UdpReactor} (failure : Option UdpError)
    (h : Eased options s₀ s) (hreport : Timed listenEndpoint options (Calm options s) report s fun _ => Calm options s) :
    Timed listenEndpoint options E (attemptReport failure report) s fun _ => Eased options s₀ := by
  have heased : ∀ {s' : UdpReactor}, Calm options s s' → Eased options s₀ s' := fun h' => h.trans h'.toEased
  refine Runs.handle (Runs.bind hreport fun _ _ _ h₁ => Runs.pure (heased h₁)) ?_
  exact fun _ _ _ h₁ => Runs.pure (heased h₁)

/-- The state with a flow taken out of the tables, and that on record. -/
theorem Idle.erase (h : Idle listenEndpoint options s) {token : ℕ} {flow : UdpFlow}
    (hlookup : s.tables.flows.lookup token = some flow) (hlog : s'.log = .erased token :: s.log)
    (hflows : s'.tables.flows = s.tables.flows.erase token) : Idle listenEndpoint options s' := by
  refine ⟨?_, fun t => ?_⟩
  · rw [hlog]
    refine h.timely.cons ?_
    rw [UdpEvent.Timely, ← h.flows, hlookup]
    rfl
  · rw [hlog, hflows, flowOf]
    by_cases ht : token = t
    · subst ht
      rw [Finmap.lookup_erase, if_pos rfl]
    · rw [Finmap.lookup_erase_ne (Ne.symm ht), if_neg ht, h.flows]

theorem Idle.closing (h : Idle listenEndpoint options s) {token : ℕ} {reason : String}
    (hreason : reason = "idle-timeout" → TimedOut options.idleTimeout token s.log) :
    Idle listenEndpoint options (s.record (.closing token reason)) :=
  ⟨h.timely.cons hreason, h.flows⟩

theorem eased_erase {token : ℕ} (hlog : s'.log = .erased token :: s.log)
    (hflows : s'.tables.flows = s.tables.flows.erase token)
    (hnext : s'.tables.nextFlowToken = s.tables.nextFlowToken) : Eased options s s' := by
  refine ⟨fun t flow hflow => ?_, hnext.ge, fun t hfound => ?_, ?_, ?_, ?_⟩
  · rw [hflows] at hflow
    exact Table.lookup_of_lookup_erase hflow
  · rwa [hlog] at hfound
  · rw [hlog]
    rfl
  · rw [hlog]
    rfl
  · rw [hlog]
    rfl

theorem timed_close {α : Type} {E : UdpReactor → Prop} {m : Unit → UdpM α} {Q : α → UdpReactor → Prop} (fd : ℕ)
    (h : Calm options s (s.close fd) → Timed listenEndpoint options E (m ()) (s.close fd) Q) :
    Timed listenEndpoint options E ((modify fun s => s.close fd : UdpM Unit) >>= m) s Q :=
  Runs.modify_bind (.single fun hidle => Idle.of_eq hidle rfl rfl) (h (Calm.of_eq rfl rfl le_rfl))

theorem timed_destroyFd {E : UdpReactor → Prop} (fd : ℕ) :
    Timed listenEndpoint options E (destroyFd fd) s fun _ => Calm options s := by
  rw [destroyFd_eq]
  exact Runs.modify (.single fun hidle => Idle.of_eq hidle rfl rfl) (Calm.of_eq rfl rfl le_rfl)

theorem timed_reportClosed {base : UdpReactor} {E : UdpReactor → Prop} {token : ℕ} {flow : UdpFlow} {reason : String}
    {error detachError : Errno} (h : Eased options base s) (hE : ∀ s', Eased options base s' → E s') :
    Timed listenEndpoint options E (reportClosed token flow reason error detachError) s fun _ => Eased options base := by
  refine Runs.bind (Q := fun _ => Eased options base) ?_ fun failure s₁ _ h₁ => ?_
  · unfold attemptDetachReports
    refine Runs.ite (fun _ => ?_) fun _ => Runs.pure h
    refine Runs.bind (timed_attemptReport none h (timed_reportStatEvent (by decide))) fun _ s₁ _ h₁ => ?_
    exact timed_attemptReport _ h₁ (timed_notify (by trivial))
  refine Runs.bind (timed_attemptReport failure h₁ (timed_reportStatEvent (by decide))) fun failure s₂ _ h₂ => ?_
  refine Runs.bind (timed_attemptReport failure h₂ (timed_reportObservation reason token flow.fd)) fun failure s₃ _ h₃ => ?_
  refine Runs.bind (timed_attemptReport failure h₃ (timed_notify (by trivial))) fun failure s₄ _ h₄ => ?_
  cases failure with
  | none => exact Runs.pure h₄
  | some e => exact Runs.raise (hE s₄ h₄)

/-- **Closing a flow**: for a timeout only just after one was counted for it. The flow is gone,
whether the reports throw or not. -/
theorem timed_closeFlow {token : ℕ} {reason : String} {error : Errno}
    (hreason : reason = "idle-timeout" → TimedOut options.idleTimeout token s.log) :
    Timed listenEndpoint options (fun s' => Eased options s s' ∧ s'.tables.flows.lookup token = none)
      (closeFlow token reason error) s
      fun _ s' => Eased options s s' ∧ s'.tables.flows.lookup token = none := by
  unfold closeFlow
  refine Runs.gets_bind ?_
  cases hlookup : s.tables.flows.lookup token with
  | none => exact Runs.pure ⟨Eased.refl s, hlookup⟩
  | some flow =>
    set s₁ : UdpReactor := { s with
      tables := { s.tables with
        flowTokensByKey := s.tables.flowTokensByKey.erase flow.key
        flows := s.tables.flows.erase token }
      log := .erased token :: .closing token reason :: s.log } with hs₁
    have hclosing : Eased options s (s.record (.closing token reason)) :=
      ⟨fun _ _ h => h, le_rfl, fun _ h => h, rfl, rfl, rfl⟩
    have h₁ : Eased options s s₁ :=
      hclosing.trans (eased_erase (s := s.record (.closing token reason)) rfl rfl rfl)
    have hgone : s₁.tables.flows.lookup token = none := Finmap.lookup_erase _ _
    refine Runs.modify_bind (.single fun hidle => (hidle.closing hreason).erase hlookup rfl rfl)
      (Runs.call_bind fun answer => ?_)
    have hdone : ∀ {s' : UdpReactor}, Eased options s₁ s' → Eased options s s' ∧ s'.tables.flows.lookup token = none := by
      intro s' h'
      refine ⟨h₁.trans h', ?_⟩
      cases hstill : s'.tables.flows.lookup token with
      | none => rfl
      | some flow' => exact absurd (hgone.symm.trans (h'.flows token flow' hstill)) nofun
    rw [closeFd_ensure]
    refine timed_close flow.fd fun h₂ => ?_
    exact (timed_reportClosed h₂.toEased fun _ => hdone).post fun _ _ _ => hdone

end Easing

end L4lb.Net
