import L4lb.Config.Config
import L4lb.Health.TcpHealthProtocol

/-!
# Selection among the healthy

`HealthSelection.cpp`: before each new session or flow the checker is polled, and the
scheduler is asked among the backends it finds healthy; without a checker, among all.

## The model

The checker's calls are calls of the selection (`SelectionCall`), its callback writes a
line. The checker's `epoll_wait` has a timeout of 0: it does not wait, and is not
interrupted. A selection is used by calls one after the other (`Reachable`).

## What is proved

One selection takes the first eligible backend from the cursor on, so none starves and an
unchanged set is gone round; a backend that is checked is only selected when it is healthy
after the poll of that call, which completes whatever is due (`eligible_selection`).
-/

namespace L4lb

open Effect Prog Health Text

/-! ### The selection -/

/-- `HealthSelection`. -/
structure HealthSelection where
  /-- The configuration. -/
  config : Config
  /-- The scheduler. -/
  scheduler : RoundRobinScheduler
  /-- The checker, if backends are checked. -/
  checker : Option TcpHealthChecker := none
  /-- When it last wrote that no backend is healthy. -/
  lastUnavailableLogTime : Option Time := none

/-- What a method throws. -/
inductive SelectionFailure where
  /-- `empty backend pool`. -/
  | emptyPool
  /-- What the checker throws. -/
  | health (e : TcpHealthError)
  /-- What `selectEligibleBackendIndex` throws. -/
  | selection (e : SelectionError)
  deriving DecidableEq

/-- What the selection asks of its surroundings. -/
inductive SelectionCall where
  /-- What its checker asks. -/
  | health (c : HealthCall)
  /-- To write a line. -/
  | cerr (line : Bytes)
  /-- The clock. -/
  | now

/-- The answers; a wait of no time is not interrupted. -/
abbrev SelectionAnswer : SelectionCall → Type
  | .health .epollPoll => { answer : Except Errno (List ℕ) // answer ≠ .error Errno.EINTR }
  | .health c => HealthAnswer c
  | .cerr _ => Unit
  | .now => Time

/-- The methods of the selection. -/
abbrev SelectionM := Prog SelectionCall SelectionAnswer HealthSelection SelectionFailure

/-- `healthStatusName`. -/
def healthStatusName : HealthStatus → String
  | .unknown => "Unknown"
  | .healthy => "Healthy"
  | .unhealthy => "Unhealthy"

/-- What `onHealthChange` writes. -/
def healthChangeLine (backends : List Endpoint) (change : HealthChange) : Bytes :=
  let endpoint := backends.getD change.backend {}
  let a := endpoint.address
  literal "health backend=" ++ literal (toString (a.get 0).toNat) ++ literal "." ++ literal (toString (a.get 1).toNat) ++
    literal "." ++ literal (toString (a.get 2).toNat) ++ literal "." ++ literal (toString (a.get 3).toNat) ++ literal ":" ++
    literal (toString endpoint.port.toNat) ++ literal " from=" ++ literal (healthStatusName change.from) ++
    literal " to=" ++ literal (healthStatusName change.to) ++ literal " reason=" ++ literal change.reason ++
    (if change.error = 0 then [] else literal " errno=" ++ literal (toString change.error)) ++ [10]

/-- The calls of the checker, as calls of the selection: its callback is `onHealthChange`. -/
def healthCall (backends : List Endpoint) : HealthCall → SelectionCall
  | .healthChange change => .cerr (healthChangeLine backends change)
  | c => .health c

/-- Their answers; `onHealthChange` does not throw. -/
def healthAnswer (backends : List Endpoint) :
    (c : HealthCall) → SelectionAnswer (healthCall backends c) → HealthAnswer c
  | .healthChange _, _ => false
  | .now, a => a
  | .epollPoll, a => a.val
  | .socket, a => a
  | .connect _ _, a => a
  | .register _ _, a => a
  | .socketError _, a => a

namespace HealthSelection

/-- The constructor; `epoll` is the error of `epoll_create1`, if it failed. -/
def construct (config : Config) (epoll : Option Errno) : Except SelectionFailure HealthSelection :=
  match createBackendScheduler config.scheduler config.backends.length with
  | none => .error .emptyPool
  | some scheduler =>
    match config.healthCheck with
    | .off => .ok { config, scheduler }
    | .tcpConnect =>
      match TcpHealthChecker.construct config.backends {} epoll with
      | .error e => .error (.health e)
      | .ok checker => .ok { config, scheduler, checker := some checker.setHealthChangeCallback }

/-- `pollHealthProbes`, of the checker there is. -/
def pollChecker (checker : TcpHealthChecker) : SelectionM Unit := do
  let s ← get
  zoom (healthCall s.config.backends) (healthAnswer s.config.backends) (fun s => s.checker.getD checker)
    (fun checker s => { s with checker := some checker }) .health pollHealthProbes

/-- Which backends are healthy. -/
def eligible (checker : TcpHealthChecker) : List Bool :=
  (List.range checker.backendCount).map fun b => (checker.backendState b).status = .healthy

/-- No backend is healthy: a line says so, at most once a second. -/
def logUnavailable : SelectionM Unit := do
  let time ← call SelectionCall.now
  let s ← get
  when (s.lastUnavailableLogTime.all fun last => time - last ≥ Time.seconds 1) (do
    call (SelectionCall.cerr (literal "no_healthy_backend\n"))
    modify fun s => { s with lastUnavailableLogTime := some time })

/-- What `selectBackend` does once the checker was polled. -/
def selectEligible (checker : TcpHealthChecker) : SelectionM (Option Endpoint) := do
  let s ← get
  let picked := s.scheduler.selectEligibleBackendIndex (eligible (s.checker.getD checker))
  modify fun s => { s with scheduler := picked.2 }
  match picked.1 with
  | .error e => raise (.selection e)
  | .ok (some index) => pure (some (s.config.backends.getD index {}))
  | .ok none => do
    logUnavailable
    pure none

/-- `selectBackend`. -/
def selectBackend : SelectionM (Option Endpoint) := do
  let s ← get
  match s.checker with
  | none => do
    let picked := s.scheduler.selectNextBackendIndex
    modify fun s => { s with scheduler := picked.2 }
    pure (some (s.config.backends.getD picked.1 {}))
  | some checker => do
    pollChecker checker
    selectEligible checker

/-! ### What it keeps -/

/-- The parts fit the configuration, and the checker agrees with its history. -/
structure Fits (config : Config) (s : HealthSelection) : Prop where
  /-- The configuration is what it was. -/
  same : s.config = config
  /-- The scheduler goes round the backends. -/
  pool : s.scheduler.backendCount = config.backends.length
  /-- There is a checker, if backends are checked. -/
  checked : s.checker = none ↔ config.healthCheck = .off
  /-- So does the checker. -/
  checker : ∀ checker, s.checker = some checker →
    checker.endpoints = config.backends ∧ checker.Kept ∧ ∀ b, TcpHealthChecker.Idle b checker

/-- What is thrown: never for want of an eligible backend. -/
def Throws (config : Config) (e : SelectionFailure) (s : HealthSelection) : Prop :=
  (∀ e', e ≠ .selection e') ∧ (e ≠ .health .tokenExhausted → Fits config s)

theorem endpoints_of_keeps {c c' : TcpHealthChecker}
    (h : Relation.ReflTransGen TcpHealthChecker.Keeps c c') : c'.endpoints = c.endpoints := by
  induction h with
  | refl => rfl
  | tail _ hstep ih => exact hstep.2.2.trans ih

/-- What a poll leaves of a checker, its answers having come from here. -/
def Polled (checker polled : TcpHealthChecker) : Prop :=
  polled.Kept ∧ (∀ b, TcpHealthChecker.Idle b polled) ∧ checker.Processed polled

/-- Polling the checker keeps the parts fitting, and completes every probe that is due. -/
theorem runs_pollChecker {config : Config} {s : HealthSelection} {checker : TcpHealthChecker} (h : Fits config s)
    (hchecker : s.checker = some checker) :
    Runs (fun _ _ => True) (Throws config) (pollChecker checker) s fun _ s' =>
      Fits config s' ∧ s'.scheduler = s.scheduler ∧
        ∃ checker', s'.checker = some checker' ∧ checker.Processed checker' := by
  obtain ⟨hends, hk, hidle⟩ := h.checker checker hchecker
  have hget : s.checker.getD checker = checker := by rw [hchecker]; rfl
  have hchecked : ∀ c : TcpHealthChecker, some c = none ↔ config.healthCheck = .off := fun c =>
    iff_of_false (Option.some_ne_none c) fun hoff => Option.some_ne_none checker (hchecker.symm.trans (h.checked.mpr hoff))
  unfold pollChecker
  have hpolled : ∀ script : List (Answerer SelectionCall SelectionAnswer),
      let r := pollHealthProbes ⟨script.map fun answer c => healthAnswer s.config.backends c
        (answer (healthCall s.config.backends c)), s.checker.getD checker⟩
      Relation.ReflTransGen TcpHealthChecker.Keeps (s.checker.getD checker) r.2.state ∧
        r.1.Meets (fun e => TcpHealthChecker.PollFailed e r.2.state) fun _ => Polled checker r.2.state := by
    -- no wait of the checker is interrupted, as none of the answers it is given says so
    intro script
    have hserves := TcpHealthChecker.serves_pollHealthProbes hk hidle
      (script.map fun answer c => healthAnswer s.config.backends c (answer (healthCall s.config.backends c)))
    rw [hget]
    intro r
    refine ⟨hserves.1, ?_⟩
    rcases hr : r.1 with u | e | _
    · have hq := hserves.2
      rw [show (pollHealthProbes _).1 = _ from hr] at hq
      refine ⟨hq.1, hq.2, TcpHealthChecker.processed_pollHealthProbes hk hidle (fun answer hanswer => ?_)
        (Prod.fst_eq_iff.mp hr)⟩
      obtain ⟨given, -, rfl⟩ := List.mem_map.mp hanswer
      exact (given (.health .epollPoll)).property
    · have he := hserves.2
      rw [show (pollHealthProbes _).1 = _ from hr] at he
      exact he
    · trivial
  refine Runs.get_bind (Runs.zoom_mapped hpolled ?_ ?_ ?_ ?_)
  · obtain ⟨c, sch, ch, t⟩ := s
    dsimp only at hchecker
    rw [hchecker]
    rfl
  · exact fun _ _ _ _ => .single trivial
  · rintro e c hchain ⟨hk', hidle'⟩
    rw [hget] at hchain
    refine ⟨(fun _ hn => nomatch hn), fun he => ⟨h.same, h.pool, hchecked c, fun c' hc' => ?_⟩⟩
    cases hc'
    exact ⟨(endpoints_of_keeps hchain).trans hends, hk', hidle' fun hn => he (congrArg _ hn)⟩
  · rintro - c hchain ⟨hk', hidle', hprocessed⟩
    rw [hget] at hchain
    refine ⟨⟨h.same, h.pool, hchecked c, fun c' hc' => ?_⟩, rfl, c, rfl, hprocessed⟩
    cases hc'
    exact ⟨(endpoints_of_keeps hchain).trans hends, hk', hidle'⟩

theorem runs_logUnavailable {config : Config} {s : HealthSelection} (h : Fits config s) :
    Runs (fun _ _ => True) (Throws config) logUnavailable s fun _ s' =>
      Fits config s' ∧ s'.checker = s.checker ∧ s'.scheduler = s.scheduler := by
  unfold logUnavailable
  refine Runs.call_bind fun time => Runs.get_bind (Runs.when (fun _ => ?_) fun _ => ⟨h, rfl, rfl⟩)
  exact Runs.call_bind fun _ => Runs.modify (.single trivial) ⟨⟨h.same, h.pool, h.checked, h.checker⟩, rfl, rfl⟩

/-- What a selection returns: when backends are not checked, the next of all; when they are,
the next of those that are healthy after the poll of this call, which has completed every
probe that was due. -/
def Selects (config : Config) (s : HealthSelection) (picked : Option Endpoint) (s' : HealthSelection) : Prop :=
  match config.healthCheck with
  | .off =>
    s.scheduler.nextBackendIndex < config.backends.length ∧
      picked = some (config.backends.getD s.scheduler.nextBackendIndex {}) ∧
      s'.scheduler = s.scheduler.selectNextBackendIndex.2
  | .tcpConnect =>
    ∃ checker checker', s.checker = some checker ∧ s'.checker = some checker' ∧ checker.Processed checker' ∧
      ∃ index, s.scheduler.selectEligibleBackendIndex (eligible checker') = (.ok index, s'.scheduler) ∧
        picked = index.map (config.backends.getD · {}) ∧
        ∀ b, index = some b → b < config.backends.length ∧ (checker'.backendState b).status = .healthy

/-- Once the checker was polled, the first backend that it finds healthy is selected. -/
theorem runs_selectEligible {config : Config} {s : HealthSelection} {checker : TcpHealthChecker} (h : Fits config s)
    (hchecker : s.checker = some checker) (checker₀ : TcpHealthChecker) :
    Runs (fun _ _ => True) (Throws config) (selectEligible checker₀) s fun picked s' =>
      Fits config s' ∧ s'.checker = some checker ∧
        ∃ index, s.scheduler.selectEligibleBackendIndex (eligible checker) = (.ok index, s'.scheduler) ∧
          picked = index.map (config.backends.getD · {}) ∧
          ∀ b, index = some b → b < config.backends.length ∧ (checker.backendState b).status = .healthy := by
  unfold selectEligible
  refine Runs.get_bind ?_
  rw [hchecker, Option.getD_some]
  have hcount : checker.backendCount = config.backends.length := congrArg List.length (h.checker checker hchecker).1
  have hlength : (eligible checker).length = s.scheduler.backendCount := by
    rw [h.pool, eligible, List.length_map, List.length_range, hcount]
  rcases s.scheduler.selectEligibleBackendIndex_eq hlength with
    ⟨-, hpick⟩ | ⟨pre, b, post, scheduler, horder, hb, -, hpick, hpool, -, -⟩
  · rw [hpick]
    refine Runs.modify_bind (.single trivial)
      (Runs.bind (runs_logUnavailable ⟨h.same, h.pool, h.checked, h.checker⟩) ?_)
    rintro - s' - ⟨hfits, hsame, hcursor⟩
    exact Runs.pure ⟨hfits, hsame.trans hchecker, none, congrArg _ hcursor.symm, rfl,
      fun b hb => nomatch hb⟩
  · rw [hpick]
    refine Runs.modify_bind (.single trivial) (Runs.pure
      ⟨⟨h.same, hpool.trans h.pool, h.checked, h.checker⟩, hchecker, some b, rfl, ?_, ?_⟩)
    · rw [← h.same]
      rfl
    · rintro _ ⟨⟩
      have hlt : b < checker.backendCount := by
        rw [hcount, ← h.pool, ← RoundRobinScheduler.mem_order, horder]
        simp
      rw [eligible, List.getElem?_map, List.getElem?_range hlt] at hb
      exact ⟨hcount ▸ hlt, by simpa using hb⟩

/-- **A selection keeps the parts fitting, returns only what is healthy, and always finds a
backend that is eligible.** -/
theorem runs_selectBackend {config : Config} {s : HealthSelection} (h : Fits config s) :
    Runs (fun _ _ => True) (Throws config) selectBackend s fun picked s' =>
      Fits config s' ∧ Selects config s picked s' := by
  unfold selectBackend
  refine Runs.get_bind ?_
  cases hchecker : s.checker with
  | none =>
    refine Runs.modify_bind (.single trivial) (Runs.pure ⟨⟨h.same, h.pool, h.checked, h.checker⟩, ?_⟩)
    rw [Selects, h.checked.mp hchecker]
    refine ⟨h.pool ▸ s.scheduler.next_lt, ?_, rfl⟩
    rw [← h.same]
    rfl
  | some checker =>
    refine Runs.bind (runs_pollChecker h hchecker) ?_
    rintro - s₁ - ⟨hfits, hscheduler, checker', hchecker', hprocessed⟩
    refine (runs_selectEligible hfits hchecker' checker).post ?_
    rintro picked s₂ - ⟨hfits₂, hchecker₂, index, hindex, hpicked⟩
    refine ⟨hfits₂, ?_⟩
    have hon : config.healthCheck = .tcpConnect := by
      cases hcheck : config.healthCheck with
      | off => exact absurd (hchecker.symm.trans (h.checked.mpr hcheck)) (Option.some_ne_none checker)
      | tcpConnect => rfl
    rw [Selects, hon]
    exact ⟨checker, checker', hchecker, hchecker₂, hprocessed, index, hscheduler ▸ hindex, hpicked⟩

/-- The selections of runs: constructed, and then asked for backends and polled, also after
calls that threw; when the tokens have run out, the run is over. -/
inductive Reachable (config : Config) : HealthSelection → Prop where
  /-- As it was constructed. -/
  | construct {s : HealthSelection} (h : construct config none = .ok s) : Reachable config s
  /-- After a selection. -/
  | select {s : HealthSelection} (h : Reachable config s) (script : List (Answerer SelectionCall SelectionAnswer))
      {picked : Option Endpoint} (hrun : (selectBackend ⟨script, s⟩).1 = .ok picked) :
      Reachable config (selectBackend ⟨script, s⟩).2.state
  /-- After a selection that threw. -/
  | selectFailed {s : HealthSelection} (h : Reachable config s)
      (script : List (Answerer SelectionCall SelectionAnswer)) {e : SelectionFailure}
      (hrun : (selectBackend ⟨script, s⟩).1 = .thrown e) (he : e ≠ .health .tokenExhausted) :
      Reachable config (selectBackend ⟨script, s⟩).2.state
  /-- After a poll of the loop. -/
  | poll {s : HealthSelection} (h : Reachable config s) {checker : TcpHealthChecker} (hchecker : s.checker = some checker)
      (script : List (Answerer SelectionCall SelectionAnswer)) (hrun : (pollChecker checker ⟨script, s⟩).1 = .ok ()) :
      Reachable config (pollChecker checker ⟨script, s⟩).2.state
  /-- After a poll that threw. -/
  | pollFailed {s : HealthSelection} (h : Reachable config s) {checker : TcpHealthChecker}
      (hchecker : s.checker = some checker) (script : List (Answerer SelectionCall SelectionAnswer))
      {e : SelectionFailure} (hrun : (pollChecker checker ⟨script, s⟩).1 = .thrown e)
      (he : e ≠ .health .tokenExhausted) : Reachable config (pollChecker checker ⟨script, s⟩).2.state

theorem fits_construct {config : Config} {s : HealthSelection} (h : construct config none = .ok s) :
    Fits config s := by
  unfold HealthSelection.construct at h
  split at h
  · cases h
  rename_i scheduler hscheduler
  have hpool : scheduler.backendCount = config.backends.length := by
    unfold createBackendScheduler RoundRobinScheduler.new at hscheduler
    split at hscheduler
    split_ifs at hscheduler
    cases hscheduler
    rfl
  cases hcheck : config.healthCheck with
  | off =>
    rw [hcheck] at h
    cases h
    exact ⟨rfl, hpool, iff_of_true rfl hcheck, fun _ hc => nomatch hc⟩
  | tcpConnect =>
    rw [hcheck] at h
    dsimp only at h
    split at h
    · cases h
    · rename_i checker hchecker
      cases h
      refine ⟨rfl, hpool, iff_of_false (Option.some_ne_none _) (by rw [hcheck]; nofun), fun c hc => ?_⟩
      cases hc
      have hreach : TcpHealthChecker.Reachable config.backends {} checker.setHealthChangeCallback :=
        .callback (.construct hchecker)
      exact ⟨hreach.options.2, hreach.kept⟩

theorem Reachable.fits {config : Config} {s : HealthSelection} (h : Reachable config s) : Fits config s := by
  induction h with
  | construct h => exact fits_construct h
  | select _ script hrun ih => exact ((runs_selectBackend ih).of_ok (Prod.ext hrun rfl)).2.1
  | selectFailed _ script hrun he ih => exact ((runs_selectBackend ih).of_thrown (Prod.ext hrun rfl)).2.2 he
  | poll _ hchecker script hrun ih => exact ((runs_pollChecker ih hchecker).of_ok (Prod.ext hrun rfl)).2.1
  | pollFailed _ hchecker script hrun he ih =>
    exact ((runs_pollChecker ih hchecker).of_thrown (Prod.ext hrun rfl)).2.2 he

end HealthSelection

open HealthSelection

/-- **Selection is correct and starves none.** A selection finds none, and leaves the cursor,
just when no backend is eligible; otherwise it returns the first eligible from the cursor
on, and the cursor is just past it. A backend eligible at each of as many successful
selections as there are backends is selected at one of them; under an unchanged set, as
many selections as it has members select each of them once. A selection never fails to
find one that is eligible; when backends are checked it only returns one that is healthy
after the poll of that call, which has completed every probe whose deadline or event was
due, and when they are not, the next of all. -/
theorem eligible_selection :
    (∀ (s : RoundRobinScheduler) (eligible : List Bool), eligible.length = s.backendCount →
      ((∀ b : ℕ, eligible[b]? ≠ some true) ∧ s.selectEligibleBackendIndex eligible = (.ok none, s)) ∨
      ∃ k < s.backendCount, eligible[(s.nextBackendIndex + k) % s.backendCount]? = some true ∧
        (∀ j < k, eligible[(s.nextBackendIndex + j) % s.backendCount]? ≠ some true) ∧
        ∃ s', s.selectEligibleBackendIndex eligible =
            (.ok (some ((s.nextBackendIndex + k) % s.backendCount)), s') ∧
          s'.backendCount = s.backendCount ∧
          s'.nextBackendIndex = ((s.nextBackendIndex + k) % s.backendCount + 1) % s.backendCount) ∧
    (∀ (s : RoundRobinScheduler) (sets : List (List Bool)) (b : ℕ), b < s.backendCount →
      (∀ eligible ∈ sets, eligible.length = s.backendCount) →
      (∀ eligible ∈ sets, eligible.any id = true → eligible[b]? = some true) →
      s.backendCount ≤ sets.countP (fun eligible => eligible.any id) → .ok (some b) ∈ (s.picks sets).1) ∧
    (∀ (s : RoundRobinScheduler) (eligible : List Bool), eligible.length = s.backendCount →
      ∀ b : ℕ, eligible[b]? = some true →
        (s.picks (List.replicate (eligible.count true) eligible)).1.count (.ok (some b)) = 1) ∧
    ∀ (config : Config) (s : HealthSelection), Reachable config s → ∀ script,
      (∀ e, (selectBackend ⟨script, s⟩).1 ≠ .thrown (.selection e)) ∧
      ∀ picked, (selectBackend ⟨script, s⟩).1 = .ok picked →
        Selects config s picked (selectBackend ⟨script, s⟩).2.state := by
  refine ⟨fun s eligible hlength => ?_, fun s sets b hb hlength hel hmany => ?_, fun s eligible hlength b hb => ?_,
    fun config s hs script => ⟨fun e he => ?_, fun picked hrun => ?_⟩⟩
  · rcases s.selectEligibleBackendIndex_eq hlength with ⟨hany, hpick⟩ | ⟨pre, b, post, s', horder, hb, hpre, hpick,
      hcount, hcursor, -⟩
    · refine Or.inl ⟨fun b hb => ?_, hpick⟩
      have := RoundRobinScheduler.any_id_iff.mpr ⟨b, (List.getElem?_eq_some_iff.mp hb).1, hb⟩
      rw [hany] at this
      cases this
    · right
      have hplace : ∀ (k : ℕ) (x : ℕ), s.order[k]? = some x → x = (s.nextBackendIndex + k) % s.backendCount := by
        intro k x hx
        obtain ⟨hk, hx⟩ := List.getElem?_eq_some_iff.mp hx
        rw [← hx, RoundRobinScheduler.getElem_order]
      have hbk : b = (s.nextBackendIndex + pre.length) % s.backendCount := hplace _ _ (by rw [horder]; simp)
      refine ⟨pre.length, ?_, hbk ▸ hb, fun j hj => ?_, s', hbk ▸ hpick, hcount, hbk ▸ hcursor⟩
      · rw [← RoundRobinScheduler.length_order, horder, List.length_append, List.length_cons]
        omega
      · have hj' : s.order[j]? = some pre[j] := by
          rw [horder, List.getElem?_append_left hj, List.getElem?_eq_getElem hj]
        rw [← hplace _ _ hj']
        exact hpre _ (List.getElem_mem hj)
  · exact RoundRobinScheduler.mem_picks_of_eligible hb hlength hel
      (Nat.lt_of_lt_of_le (RoundRobinScheduler.distance_lt hb) hmany)
  · rw [← RoundRobinScheduler.length_queue hlength,
      RoundRobinScheduler.picks_replicate hlength (List.append_nil _).symm]
    have hinjective : Function.Injective fun b : ℕ => (.ok (some b) : Except SelectionError (Option ℕ)) :=
      fun x y h => by simpa using h
    exact List.count_eq_one_of_mem ((s.nodup_queue eligible).map hinjective)
      (List.mem_map_of_mem ((RoundRobinScheduler.mem_queue hlength).mpr hb))
  · exact ((runs_selectBackend hs.fits).of_thrown (Prod.ext he rfl)).2.1 e rfl
  · exact ((runs_selectBackend hs.fits).of_ok (Prod.ext hrun rfl)).2.2

/-- A wait that names probes was not interrupted. -/
theorem uninterrupted (tokens : List ℕ) : (.ok tokens : Except Errno (List ℕ)) ≠ .error Errno.EINTR := by
  nofun

/-- A moment of a system with one backend: the time, the events of its wait and its `connect`. -/
def tick (time : Time) (tokens : List ℕ) (connect : Option Errno) :
    Answerer SelectionCall SelectionAnswer
  | .health .now => time
  | .health .epollPoll => ⟨.ok tokens, uninterrupted tokens⟩
  | .health .socket => .ok 3
  | .health (.connect _ _) => connect
  | .health (.register _ _) => none
  | .health (.socketError _) => .ok 0
  | .health (.healthChange _) => false
  | .cerr _ => ()
  | .now => time

/-- The selection after moments, one selection a moment. -/
def afterTicks : HealthSelection → List (Answerer SelectionCall SelectionAnswer) → HealthSelection
  | s, [] => s
  | s, answer :: rest => afterTicks (selectBackend ⟨List.replicate 10 answer, s⟩).2.state rest

/-- None of its calls throws. -/
def returnsThrough : HealthSelection → List (Answerer SelectionCall SelectionAnswer) → Bool
  | _, [] => true
  | s, answer :: rest =>
    match selectBackend ⟨List.replicate 10 answer, s⟩ with
    | (.ok _, w) => returnsThrough w.state rest
    | _ => false

theorem reachable_afterTicks {config : Config} {s : HealthSelection} (h : Reachable config s)
    (ticks : List (Answerer SelectionCall SelectionAnswer)) (hreturns : returnsThrough s ticks = true) :
    Reachable config (afterTicks s ticks) := by
  induction ticks generalizing s with
  | nil => exact h
  | cons answer rest ih =>
    rw [returnsThrough] at hreturns
    split at hreturns
    · rename_i picked w hrun
      have hnext : Reachable config (selectBackend ⟨List.replicate 10 answer, s⟩).2.state :=
        .select h _ (show _ = Outcome.ok picked by rw [hrun])
      rw [afterTicks]
      refine ih hnext ?_
      rw [hrun]
      exact hreturns
    · cases hreturns

/-- One backend, checked or not. -/
def oneBackend (healthCheck : HealthCheck) : Config := { backends := [{}], healthCheck }

/-- Two probes succeed, two fail, and the fifth is under way. -/
def lastProbeUnderWay : List (Answerer SelectionCall SelectionAnswer) :=
  [tick 0 [] none, tick (Time.seconds 1) [] none, tick (Time.seconds 2) [] (some Errno.ECONNREFUSED),
    tick (Time.seconds 3) [] (some Errno.ECONNREFUSED), tick (Time.seconds 4) [] (some Errno.EINPROGRESS)]

/-- The selection of one backend that is checked. -/
def oneChecked : HealthSelection where
  config := oneBackend .tcpConnect
  scheduler := ⟨1, 0, Nat.one_pos⟩
  checker := some { endpoints := [{}], options := {}, hasHealthChangeCallback := true }

/-- When backends are not checked, one is returned that no probe has ever found healthy. -/
theorem unchecked_selection :
    ∃ s : HealthSelection, Reachable (oneBackend .off) s ∧ s.checker.isNone ∧
      (selectBackend ⟨[], s⟩).1 = .ok (some {}) :=
  ⟨{ config := oneBackend .off, scheduler := ⟨1, 0, Nat.one_pos⟩ }, .construct rfl, rfl, by decide +kernel⟩

/-- One of two backends is eligible, then the other; and a backend that has failed twice is selected when the event
of its probe says that it is up, and not when that probe is late. -/
theorem eligible_selection_two :
    let s : RoundRobinScheduler := ⟨2, 0, Nat.two_pos⟩
    let checked := afterTicks oneChecked lastProbeUnderWay
    let up := selectBackend ⟨List.replicate 10 (tick (Time.milliseconds 4100) [1] none), checked⟩
    let late := selectBackend ⟨List.replicate 10 (tick (Time.milliseconds 5000) [1] none), checked⟩
    s.selectEligibleBackendIndex [false, true] = (.ok (some 1), ⟨2, 0, Nat.two_pos⟩) ∧
      .ok (some 1) ∈ (s.picks [[true, true], [false, false], [false, true]]).1 ∧
      Selects (oneBackend .tcpConnect) checked (some {}) up.2.state ∧
      Selects (oneBackend .tcpConnect) checked none late.2.state := by
  intro s checked up late
  have hone : Reachable (oneBackend .tcpConnect) oneChecked := .construct rfl
  have hchecked : Reachable (oneBackend .tcpConnect) checked :=
    reachable_afterTicks hone lastProbeUnderWay (by decide +kernel)
  have hselects := eligible_selection.2.2.2 (oneBackend .tcpConnect) checked hchecked
  refine ⟨by decide +kernel, eligible_selection.2.1 s _ 1 (by decide) (by decide) (by decide) (by decide), ?_, ?_⟩
  · exact (hselects _).2 (some {}) (by decide +kernel)
  · exact (hselects _).2 none (by decide +kernel)

end L4lb
