import L4lb.Effect.Owners
import L4lb.Net.UdpSteps
import L4lb.Net.TcpClosing

/-!
# Closing whatever is thrown

A session or a flow that is closed is out of the tables, and its descriptors are closed,
before anyone is told; then each report is made, whatever the others throw, and what was
thrown first is thrown in the end (`exception_safe_close`).

## The argument

`closeFlow` and `closeSession` are each a `SafeClose`: a run of them up to the first report
is computed, and what is left is `attemptAll` of the reports. Closing all is `closeAll` of
`Owners`, since a close takes the owner out of what is live.
-/

namespace L4lb.Net

open Effect Prog

/-! ### Flows -/

section Flows

variable {s : UdpReactor} {token : ℕ} {flow : UdpFlow} {reason : String} {error : Errno}

/-- The error of a descriptor that could not be taken out of `epoll`. -/
def detachCode (answer : Except Errno Unit) : Errno :=
  match answer with
  | .ok () => 0
  | .error error => if error = .ENOENT ∨ error = .EBADF then 0 else error

/-- What `closeFlow` reports. -/
def flowReports (token : ℕ) (flow : UdpFlow) (reason : String) (error detachError : Errno) : List (UdpM Unit) :=
  (if detachError ≠ 0 then [reportStatEvent .error, notify (.diagnostic "UDP epoll DEL" detachError)] else []) ++
    [reportStatEvent .closed, reportObservation reason token flow.fd,
      notify (.flowEvent token flow.backend reason error)]

/-- A flow is out of the tables, and its socket is closed. -/
def UdpReactor.released (s : UdpReactor) (token : ℕ) (flow : UdpFlow) (reason : String) : UdpReactor :=
  { s with
    tables := s.tables.close token
    closes := flow.fd :: s.closes
    log := .erased token :: .closing token reason :: s.log }

/-- The tables are as they were, and nothing was closed. -/
structure UdpReactor.AsLeft (s s' : UdpReactor) : Prop where
  /-- The tables. -/
  tables : s'.tables = s.tables
  /-- What was closed. -/
  closes : s'.closes = s.closes

theorem asksOnce_notify (event : UdpEvent) : AsksOnce (notify event) := by
  refine ⟨fun a script s => ?_, fun a script s => ?_⟩
  · cases hanswer : a (.notify event) <;> simp [notify, askUdp, run_bind, hanswer]
  · cases hanswer : a (.notify event) <;> simp [notify, askUdp, run_bind, hanswer]

theorem asksOnce_reportObservation (kind : String) (token : ℕ) (fd : ℤ) :
    AsksOnce (reportObservation kind token fd) :=
  ⟨fun a script s => (asksOnce_notify _).ends a script s, fun a script s => (asksOnce_notify _).used a script s⟩

theorem UdpReactor.AsLeft.refl (s : UdpReactor) : s.AsLeft s := ⟨rfl, rfl⟩

theorem keeps_notify (s₀ : UdpReactor) (event : UdpEvent) : Prog.Keeps s₀.AsLeft (notify event) := by
  rintro ⟨script, s⟩ hs
  cases script with
  | nil => exact ⟨hs.tables, hs.closes⟩
  | cons a script =>
    cases hanswer : a (.notify event) with
    | none =>
      simp only [notify, askUdp, run_bind, run_modify, run_call_cons, hanswer, run_pure]
      exact ⟨hs.tables, hs.closes⟩
    | some exception =>
      simp only [notify, askUdp, run_bind, run_modify, run_call_cons, hanswer, run_raise]
      exact ⟨hs.tables, hs.closes⟩

theorem asksOnce_flowReports {detachError : Errno} : ∀ report ∈ flowReports token flow reason error detachError,
    AsksOnce report := by
  intro report hreport
  simp only [flowReports, List.mem_append, List.mem_cons, List.not_mem_nil, or_false] at hreport
  rcases hreport with hreport | rfl | rfl | rfl
  · split at hreport
    · simp only [List.mem_cons, List.not_mem_nil, or_false] at hreport
      rcases hreport with rfl | rfl
      · exact asksOnce_notify _
      · exact asksOnce_notify _
    · cases hreport
  · exact asksOnce_notify _
  · exact asksOnce_reportObservation _ _ _
  · exact asksOnce_notify _

theorem keeps_flowReports {detachError : Errno} (s₀ : UdpReactor) :
    ∀ report ∈ flowReports token flow reason error detachError, Prog.Keeps s₀.AsLeft report := by
  intro report hreport
  simp only [flowReports, List.mem_append, List.mem_cons, List.not_mem_nil, or_false] at hreport
  rcases hreport with hreport | rfl | rfl | rfl
  · split at hreport
    · simp only [List.mem_cons, List.not_mem_nil, or_false] at hreport
      rcases hreport with rfl | rfl
      · exact keeps_notify s₀ _
      · exact keeps_notify s₀ _
    · cases hreport
  · exact keeps_notify s₀ _
  · exact fun w hw => keeps_notify s₀ _ w hw
  · exact keeps_notify s₀ _

theorem reportClosed_run (detachError : Errno) :
    reportClosed token flow reason error detachError =
      attemptAll (flowReports token flow reason error detachError) none >>= rethrow := by
  have hattempt : attemptReport = attempt := rfl
  unfold reportClosed attemptDetachReports flowReports
  split
  · simp only [hattempt, List.cons_append, List.nil_append, attemptAll, Prog.bind_assoc, Prog.pure_bind]
    refine bind_congr fun _ => bind_congr fun _ => bind_congr fun _ => bind_congr fun _ => bind_congr fun failure => ?_
    cases failure <;> rfl
  · simp only [hattempt, List.nil_append, attemptAll, Prog.bind_assoc, Prog.pure_bind]
    refine bind_congr fun _ => bind_congr fun _ => bind_congr fun failure => ?_
    cases failure <;> rfl

theorem closeFlow_run (hflow : s.tables.flows.lookup token = some flow) (del : Answerer UdpCall UdpAnswer)
    (script : List (Answerer UdpCall UdpAnswer)) :
    closeFlow token reason error ⟨del :: script, s⟩ =
      (attemptAll (flowReports token flow reason error (detachCode (del (.epollDel flow.fd)))) none >>= rethrow)
        ⟨script, s.released token flow reason⟩ := by
  rw [← reportClosed_run, UdpReactor.released, FlowTables.close_of_lookup hflow]
  simp only [closeFlow, run_bind, run_gets, hflow, run_modify, askUdp, run_call_cons]
  rw [← run_bind, closeFd_ensure]
  cases hanswer : del (.epollDel flow.fd) with
  | ok _ => rfl
  | error error => rfl

/-- **Closing a flow**: everything is let go of before the first report. -/
theorem safeClose_closeFlow (hflow : s.tables.flows.lookup token = some flow) (reason : String) (error : Errno)
    (del : Answerer UdpCall UdpAnswer) :
    SafeClose (closeFlow token reason error) s [del] (s.released token flow reason)
      (flowReports token flow reason error (detachCode (del (.epollDel flow.fd)))) UdpReactor.AsLeft :=
  SafeClose.of_reports (.refl _) (closeFlow_run hflow del) asksOnce_flowReports (keeps_flowReports _)

theorem closeFlow_absent (habsent : s.tables.flows.lookup token = none) (script : List (Answerer UdpCall UdpAnswer)) :
    closeFlow token reason error ⟨script, s⟩ = (.ok (), ⟨script, s⟩) := by
  simp [closeFlow, run_bind, habsent]

theorem length_flowReports_le (token : ℕ) (flow : UdpFlow) (reason : String) (error detachError : Errno) :
    (flowReports token flow reason error detachError).length ≤ 5 := by
  unfold flowReports
  split
  · simp
  · simp

theorem keys_released (hflow : s.tables.flows.lookup token = some flow) (reason : String) :
    (s.released token flow reason).tables.flows.keys = s.tables.flows.keys.erase token := by
  simp [UdpReactor.released, FlowTables.close_of_lookup hflow]

/-- What the loop of `closeAllFlows` closes. -/
def flowOwners : Owners UdpCall UdpAnswer UdpReactor UdpError ℕ where
  live s := s.tables.flows.keys
  close token := closeFlow token "service-stop"
  most := 6
  ends := by
    intro token s script hlive hlength
    obtain ⟨flow, hflow⟩ := Finmap.mem_iff.mp (Finmap.mem_keys.mp hlive)
    cases script with
    | nil => simp at hlength
    | cons del script =>
      have hreports := length_flowReports_le token flow "service-stop" 0 (detachCode (del (.epollDel flow.fd)))
      simp only [List.length_cons] at hlength
      obtain ⟨hends, hused⟩ := (safeClose_closeFlow hflow "service-stop" 0 del).ends script (by omega)
      refine ⟨hends, ?_⟩
      simp only [List.singleton_append, List.length_cons, List.length_nil] at hused
      simp only [List.length_cons]
      omega
  gone := by
    intro token s script hlive hends
    obtain ⟨flow, hflow⟩ := Finmap.mem_iff.mp (Finmap.mem_keys.mp hlive)
    cases script with
    | nil => simp [closeFlow, run_bind, hflow, askUdp] at hends
    | cons del script =>
      rw [← keys_released hflow "service-stop"]
      exact congrArg (·.flows.keys) ((safeClose_closeFlow hflow "service-stop" 0 del).kept script).tables
  pass := closeFirstFlow
  pass_none := by
    intro s a script failure hlive
    have hhead : (s.tables.flows.order (a .rank)).head? = none := Table.head?_order_eq_none.mpr hlive
    simp [closeFirstFlow, askUdp, run_bind, hhead]
  pass_some := by
    intro s a script failure hlive
    cases hhead : (s.tables.flows.order (a .rank)).head? with
    | none => exact absurd (Table.head?_order_eq_none.mp hhead) hlive
    | some token =>
      refine ⟨token, Table.mem_of_head?_order hhead, ?_⟩
      simp only [closeFirstFlow, askUdp, run_bind, run_call_cons, run_gets, hhead]
      rfl

theorem closeAllFlows_eq : closeAllFlows = flowOwners.closeAll := by
  refine bind_congr fun failure => ?_
  cases failure <;> rfl

/-- What a close leaves. -/
theorem closeFlow_left (hflow : s.tables.flows.lookup token = some flow)
    {script : List (Answerer UdpCall UdpAnswer)} (hends : (closeFlow token reason error ⟨script, s⟩).1 ≠ .cut) :
    (s.released token flow reason).AsLeft (closeFlow token reason error ⟨script, s⟩).2.state := by
  cases script with
  | nil => simp [closeFlow, run_bind, hflow, askUdp] at hends
  | cons del script => exact (safeClose_closeFlow hflow reason error del).kept script

theorem letsGo_closeFlow (hflow : s.tables.flows.lookup token = some flow)
    {script : List (Answerer UdpCall UdpAnswer)} (hends : (closeFlow token reason error ⟨script, s⟩).1 ≠ .cut) :
    Owners.LetsGo (fun s token => s.tables.flows.lookup token) (fun flow => [flow.fd])
      (fun s fd => s.tables.descriptors.lookup fd) UdpReactor.closes token flow s
      (closeFlow token reason error ⟨script, s⟩).2.state := by
  obtain ⟨htables, hcloses⟩ := closeFlow_left hflow hends
  rw [UdpReactor.released, FlowTables.close_of_lookup hflow] at htables
  refine ⟨fun i hi => ?_, ?_, fun fd hfd => ?_, fun fd hfd => ?_, hcloses⟩
  · simp only [htables, Finmap.lookup_erase_ne hi]
  · simp only [htables, Finmap.lookup_erase]
  · obtain rfl := List.mem_singleton.mp hfd
    simp only [htables, Finmap.lookup_erase]
  · simp only [htables, Finmap.lookup_erase_ne (mt List.mem_singleton.mpr hfd)]

/-- No two flows share a socket. -/
theorem FlowTables.Consistent.sockets_apart {options : UdpReactorOptions} (h : s.tables.Consistent options none) :
    Owners.Apart (fun s token => s.tables.flows.lookup token) (fun flow : UdpFlow => [flow.fd]) s := by
  refine ⟨fun _ _ _ => List.nodup_singleton _, fun token token' flow flow' hne hflow hflow' fd hfd hfd' => ?_⟩
  exact hne (h.apart hflow hflow' ((List.mem_singleton.mp hfd).symm.trans (List.mem_singleton.mp hfd')))

/-- The sockets of flows were closed, each once, and nothing else. -/
structure SocketsClosed (s s' : UdpReactor) (fds : List ℕ) : Prop where
  /-- They are what `::close` was called with. -/
  closes : s'.closes = fds ++ s.closes
  /-- They are the sockets of the flows. -/
  mem : ∀ fd, fd ∈ fds ↔ ∃ token flow, s.tables.flows.lookup token = some flow ∧ flow.fd = fd
  /-- They stand for nothing. -/
  nothing : ∀ fd ∈ fds, s'.tables.descriptors.lookup fd = none
  /-- The other descriptors stand for what they did. -/
  rest : ∀ fd ∉ fds, s'.tables.descriptors.lookup fd = s.tables.descriptors.lookup fd
  /-- None was closed twice. -/
  once : ∀ options, s.tables.Consistent options none → fds.Nodup

/-- **Closing all flows**: each is closed once, with its socket, and the indexes are empty. -/
theorem closeAllFlows_run {script : List (Answerer UdpCall UdpAnswer)}
    (hlength : 1 + s.tables.flows.size * 7 ≤ script.length) :
    ∃ closed w', flowOwners.ClosedAll closeAllFlows ⟨script, s⟩ closed w' ∧
      (∃ fds, SocketsClosed s w'.state fds) ∧
      ∀ options, s.tables.Consistent options none → ∀ key, key ∉ w'.state.tables.flowTokensByKey := by
  obtain ⟨closed, w', hclosed⟩ := flowOwners.closeAll_run (s := s) hlength
  have hlive : ∀ s token, token ∈ flowOwners.live s ↔ ∃ flow, s.tables.flows.lookup token = some flow := fun s token =>
    Finmap.mem_keys.trans Finmap.mem_iff
  refine ⟨closed, w', closeAllFlows_eq ▸ hclosed, ?_, fun options hconsistent key hkey => ?_⟩
  · obtain ⟨fds, hfds⟩ := hclosed.closes.letsGo hlive fun token s script flow hflow hends =>
      letsGo_closeFlow hflow hends
    refine ⟨fds, hfds.freed, fun fd => ?_, hfds.nothing, hfds.rest, fun options h => hfds.once h.sockets_apart⟩
    simp only [hfds.mem, List.mem_singleton, eq_comm]
  · have hkept : w'.state.tables.Consistent options none := by
      refine hclosed.closes.keeps (I := fun s => s.tables.Consistent options none) ?_ hconsistent
      intro token s script htoken hends hs
      obtain ⟨flow, hflow⟩ := (hlive s token).mp htoken
      show (closeFlow token "service-stop" 0 ⟨script, s⟩).2.state.tables.Consistent options none
      rw [(closeFlow_left hflow hends).tables]
      exact hs.close token
    obtain ⟨token, htoken⟩ := Finmap.mem_iff.mp hkey
    obtain ⟨flow, hflow, _⟩ := (hkept.index key token).mp htoken
    have hmem := (hlive w'.state token).mpr ⟨flow, hflow⟩
    rw [hclosed.empty] at hmem
    cases hmem

end Flows

/-! ### Sessions -/

namespace Tcp

variable {s : TcpReactor} {id : ℕ} {session : Session} {reason : String} {error : Errno}

/-- What `closeSession` reports of an end. -/
def detachReports (code : Errno) : List (TcpM Unit) :=
  if code ≠ 0 then [reportStatEvent .error, notify (.diagnostic "epoll_ctl DEL" code)] else []

/-- What `closeSession` reports. -/
def sessionReports (session : Session) (reason : String) (error : Errno) (codes : Side → Errno) :
    List (TcpM Unit) :=
  detachReports (codes .client) ++ detachReports (codes .backend) ++
    [notify (.sessionEvent ⟨session.id, session.backend, false, reason, error, session.sent⟩),
      reportStatEvent .closed, reportObservation "closed"]

/-- The error of an end, from the answer to its `epoll_ctl` if there was one. -/
def endCode (endpoint : EndpointState) : List (Answerer TcpCall TcpAnswer) → Errno
  | [] => 0
  | del :: _ => detachCode (del (.epollCtl .del endpoint.fd 0 0))

/-- A reactor when an end was taken out of `epoll`, or could not be. -/
def TcpReactor.detach (s : TcpReactor) (endpoint : EndpointState) :
    List (Answerer TcpCall TcpAnswer) → TcpReactor
  | [] => s
  | del :: _ =>
    let s := s.record (.epoll .del endpoint.fd (endpoint.fd.any (· ∈ s.tables.interests)))
    match del (.epollCtl .del endpoint.fd 0 0) with
    | .ok () => { s with tables := s.tables.control .del endpoint.fd 0 0 }
    | .error error => s.record (.epollFailed .del error)

/-- And its descriptor is closed. -/
def TcpReactor.closeEnd (s : TcpReactor) (endpoint : EndpointState) (dels : List (Answerer TcpCall TcpAnswer)) :
    TcpReactor :=
  (s.detach endpoint dels).close endpoint.fd

/-- A session is out of the tables, and its connections are closed. -/
def TcpReactor.released (s : TcpReactor) (id : ℕ) (session : Session) (reason : String)
    (dels : Side → List (Answerer TcpCall TcpAnswer)) : TcpReactor :=
  (({ s with
      tables := s.tables.remove session id
      log := .closed id reason (fun side => (session.pending side).size) :: s.log }).closeEnd
    (session.ends .client) (dels .client)).closeEnd (session.ends .backend) (dels .backend)

theorem detachError_run (endpoint : EndpointState) {dels : List (Answerer TcpCall TcpAnswer)}
    (hdels : dels.length = if endpoint.registered then 1 else 0) (script : List (Answerer TcpCall TcpAnswer)) :
    detachError endpoint ⟨dels ++ script, s⟩ = (.ok (endCode endpoint dels), ⟨script, s.detach endpoint dels⟩) := by
  cases hregistered : endpoint.registered with
  | false =>
    rw [hregistered] at hdels
    obtain rfl := List.length_eq_zero_iff.mp hdels
    simp [detachError, hregistered, endCode, TcpReactor.detach]
  | true =>
    rw [hregistered] at hdels
    obtain ⟨del, rfl⟩ := List.length_eq_one_iff.mp hdels
    cases hanswer : del (.epollCtl .del endpoint.fd 0 0) with
    | ok _ =>
      simp [detachError, epollControl, askTcp, modifyTables, run_bind, hregistered, endCode, detachCode,
        TcpReactor.detach, TcpReactor.record, hanswer]
    | error error =>
      simp [detachError, epollControl, askTcp, run_bind, hregistered, endCode, detachCode,
        TcpReactor.detach, TcpReactor.record, hanswer]

theorem attemptDetachReports_run (code : Errno) (failure : Option TcpError) :
    attemptDetachReports code failure = attemptAll (detachReports code) failure := by
  have hattempt : attemptTcpReport = attempt := rfl
  unfold attemptDetachReports detachReports attemptCloseErrorReport attemptCloseDiagnosticReport
  split
  · rw [hattempt]
    exact bind_congr fun failure => (Prog.bind_pure _).symm
  · rfl

theorem reportClosed_run (codes : Side → Errno) :
    reportClosed session reason error codes =
      attemptAll (sessionReports session reason error codes) none >>= rethrow := by
  simp only [reportClosed, sessionReports, attemptDetachReports_run, attemptAll_append, Prog.bind_assoc]
  refine bind_congr fun _ => bind_congr fun _ => ?_
  simp only [attemptAll, Prog.bind_assoc, Prog.pure_bind]
  refine bind_congr fun _ => bind_congr fun _ => bind_congr fun failure => ?_
  cases failure <;> rfl

/-- The errors of the two ends. -/
def endCodes (session : Session) (dels : Side → List (Answerer TcpCall TcpAnswer)) : Side → Errno
  | .client => endCode (session.ends .client) (dels .client)
  | .backend => endCode (session.ends .backend) (dels .backend)

/-- What is owned is closed, and then nothing is owned. -/
theorem closeFd_run (fd : Fd) (w : World TcpCall TcpAnswer TcpReactor) :
    (closeFd fd) w = (.ok none, ⟨w.script, w.state.close fd⟩) := rfl

theorem closeSession_run (hsession : s.tables.sessions.lookup id = some session)
    {dels : Side → List (Answerer TcpCall TcpAnswer)}
    (hdels : ∀ side, (dels side).length = if (session.ends side).registered then 1 else 0)
    (script : List (Answerer TcpCall TcpAnswer)) :
    closeSession id reason error ⟨dels .client ++ dels .backend ++ script, s⟩ =
      (attemptAll (sessionReports session reason error (endCodes session dels)) none >>= rethrow)
        ⟨script, s.released id session reason dels⟩ := by
  rw [← reportClosed_run, List.append_assoc]
  simp only [closeSession, run_bind, run_gets, hsession, run_modify, closeFd_run,
    detachError_run _ (hdels .client), detachError_run _ (hdels .backend)]
  rw [ensure_destroyFd_none]
  rfl

theorem asksOnce_notify (event : TcpEvent) : AsksOnce (notify event) := by
  refine ⟨fun a script s => ?_, fun a script s => ?_⟩
  · cases hanswer : a (.notify event) <;> simp [notify, askTcp, run_bind, hanswer]
  · cases hanswer : a (.notify event) <;> simp [notify, askTcp, run_bind, hanswer]

/-- The tables are as they were, and nothing was closed. -/
structure TcpReactor.AsLeft (s s' : TcpReactor) : Prop where
  /-- The tables. -/
  tables : s'.tables = s.tables
  /-- What was closed. -/
  closes : s'.closes = s.closes

theorem TcpReactor.AsLeft.refl (s : TcpReactor) : s.AsLeft s := ⟨rfl, rfl⟩

theorem keeps_notify (s₀ : TcpReactor) (event : TcpEvent) : Prog.Keeps s₀.AsLeft (notify event) := by
  rintro ⟨script, s⟩ hs
  cases script with
  | nil => exact ⟨hs.tables, hs.closes⟩
  | cons a script =>
    cases hanswer : a (.notify event) with
    | none =>
      simp only [notify, askTcp, run_bind, run_modify, run_call_cons, hanswer, run_pure]
      exact ⟨hs.tables, hs.closes⟩
    | some exception =>
      simp only [notify, askTcp, run_bind, run_modify, run_call_cons, hanswer, run_raise]
      exact ⟨hs.tables, hs.closes⟩

/-- Each report of a close tells a callback of one event. -/
theorem sessionReports_notify {codes : Side → Errno} {report : TcpM Unit}
    (hreport : report ∈ sessionReports session reason error codes) :
    (∃ event, report = notify event) ∨ report = reportObservation "closed" := by
  have hdetach : ∀ code, report ∈ detachReports code → ∃ event, report = notify event := by
    intro code hmem
    unfold detachReports at hmem
    split at hmem
    · simp only [List.mem_cons, List.not_mem_nil, or_false] at hmem
      rcases hmem with rfl | rfl
      · exact ⟨_, rfl⟩
      · exact ⟨_, rfl⟩
    · cases hmem
  simp only [sessionReports, List.mem_append, List.mem_cons, List.not_mem_nil, or_false] at hreport
  rcases hreport with (hreport | hreport) | rfl | rfl | rfl
  · exact .inl (hdetach _ hreport)
  · exact .inl (hdetach _ hreport)
  · exact .inl ⟨_, rfl⟩
  · exact .inl ⟨_, rfl⟩
  · exact .inr rfl

/-- **Closing a session**: everything is let go of before the first report. -/
theorem safeClose_closeSession (hsession : s.tables.sessions.lookup id = some session) (reason : String)
    (error : Errno) {dels : Side → List (Answerer TcpCall TcpAnswer)}
    (hdels : ∀ side, (dels side).length = if (session.ends side).registered then 1 else 0) :
    SafeClose (closeSession id reason error) s (dels .client ++ dels .backend) (s.released id session reason dels)
      (sessionReports session reason error (endCodes session dels)) TcpReactor.AsLeft := by
  refine SafeClose.of_reports (.refl _) (closeSession_run hsession hdels) (fun report hreport => ?_) fun report hreport => ?_
  · rcases sessionReports_notify hreport with ⟨event, rfl⟩ | rfl
    · exact asksOnce_notify event
    · exact ⟨fun a script s => (asksOnce_notify _).ends a script s, fun a script s => (asksOnce_notify _).used a script s⟩
  · rcases sessionReports_notify hreport with ⟨event, rfl⟩ | rfl
    · exact keeps_notify _ event
    · exact fun w hw => keeps_notify _ _ w hw

theorem closeSession_absent (habsent : s.tables.sessions.lookup id = none)
    (script : List (Answerer TcpCall TcpAnswer)) :
    closeSession id reason error ⟨script, s⟩ = (.ok (), ⟨script, s⟩) := by
  simp [closeSession, run_bind, habsent]

theorem release_control (tables : SessionTables) (fd : Option ℕ) :
    (tables.control .del fd 0 0).release fd = tables.release fd := by
  cases fd with
  | none => rfl
  | some fd =>
    have herase : (tables.interests.erase fd).erase fd = tables.interests.erase fd :=
      Table.erase_of_notMem Finmap.notMem_erase_self
    simp only [SessionTables.control, SessionTables.release, herase]

/-- Whatever the answer was, what was under its number is gone. -/
theorem closeEnd_tables (s : TcpReactor) (endpoint : EndpointState) (dels : List (Answerer TcpCall TcpAnswer)) :
    (s.closeEnd endpoint dels).tables = s.tables.release endpoint.fd := by
  cases dels with
  | nil => rfl
  | cons del dels =>
    cases hanswer : del (.epollCtl .del endpoint.fd 0 0) with
    | ok _ =>
      simp only [TcpReactor.closeEnd, TcpReactor.close, TcpReactor.detach, hanswer, TcpReactor.record,
        release_control]
    | error error => simp only [TcpReactor.closeEnd, TcpReactor.close, TcpReactor.detach, hanswer, TcpReactor.record]

/-- And its descriptor was closed. -/
theorem closeEnd_closes (s : TcpReactor) (endpoint : EndpointState) (dels : List (Answerer TcpCall TcpAnswer)) :
    (s.closeEnd endpoint dels).closes = endpoint.fd.toList ++ s.closes := by
  cases dels with
  | nil => rfl
  | cons del dels =>
    cases hanswer : del (.epollCtl .del endpoint.fd 0 0) with
    | ok _ => simp only [TcpReactor.closeEnd, TcpReactor.close, TcpReactor.detach, hanswer, TcpReactor.record]
    | error error => simp only [TcpReactor.closeEnd, TcpReactor.close, TcpReactor.detach, hanswer, TcpReactor.record]

/-- The tables without a session, and without its descriptors. -/
theorem released_tables (dels : Side → List (Answerer TcpCall TcpAnswer)) :
    (s.released id session reason dels).tables =
      ((s.tables.remove session id).release (session.ends .client).fd).release (session.ends .backend).fd := by
  rw [TcpReactor.released, closeEnd_tables, closeEnd_tables]

/-- What the ends of a session own. -/
def Session.fds (session : Session) : List ℕ := (session.ends .backend).fd.toList ++ (session.ends .client).fd.toList

theorem Session.mem_fds {fd : ℕ} : fd ∈ session.fds ↔ ∃ side, (session.ends side).fd = some fd := by
  rw [Session.fds, List.mem_append, Option.mem_toList, Option.mem_toList]
  constructor
  · rintro (h | h)
    · exact ⟨.backend, h⟩
    · exact ⟨.client, h⟩
  · rintro ⟨side, h⟩
    cases side with
    | client => exact .inr h
    | backend => exact .inl h

/-- Its descriptors were closed, each once. -/
theorem released_closes (dels : Side → List (Answerer TcpCall TcpAnswer)) :
    (s.released id session reason dels).closes = session.fds ++ s.closes := by
  rw [TcpReactor.released, closeEnd_closes, closeEnd_closes, Session.fds, List.append_assoc]

/-- There is an answer for each end that is registered, or the run is cut. -/
theorem exists_dels (hsession : s.tables.sessions.lookup id = some session) (reason : String) (error : Errno)
    (script : List (Answerer TcpCall TcpAnswer)) :
    (∃ (dels : Side → List (Answerer TcpCall TcpAnswer)) (rest : List (Answerer TcpCall TcpAnswer)),
        (∀ side, (dels side).length = if (session.ends side).registered then 1 else 0) ∧
          script = dels .client ++ dels .backend ++ rest) ∨
      (closeSession id reason error ⟨script, s⟩).1 = .cut ∧ script.length < 2 := by
  have hsplit : ∀ (endpoint : EndpointState) (script : List (Answerer TcpCall TcpAnswer)),
      (∃ dels rest : List (Answerer TcpCall TcpAnswer),
        dels.length = (if endpoint.registered then 1 else 0) ∧ script = dels ++ rest) ∨
      endpoint.registered = true ∧ script = [] := by
    intro endpoint script
    cases hregistered : endpoint.registered with
    | false => exact .inl ⟨[], script, rfl, rfl⟩
    | true =>
      cases script with
      | nil => exact .inr ⟨rfl, rfl⟩
      | cons del script => exact .inl ⟨[del], script, rfl, rfl⟩
  have hcut : ∀ (endpoint : EndpointState) (s : TcpReactor), endpoint.registered = true →
      detachError endpoint ⟨[], s⟩ =
        (.cut, ⟨[], s.record (.epoll .del endpoint.fd (endpoint.fd.any (· ∈ s.tables.interests)))⟩) := by
    intro endpoint s hregistered
    simp [detachError, hregistered, epollControl, askTcp, run_bind]
  rcases hsplit (session.ends .client) script with ⟨client, rest, hclient, rfl⟩ | ⟨hregistered, rfl⟩
  · rcases hsplit (session.ends .backend) rest with ⟨backend, rest, hbackend, rfl⟩ | ⟨hregistered, rfl⟩
    · refine .inl ⟨fun | .client => client | .backend => backend, rest, fun side => ?_, by simp⟩
      cases side with
      | client => exact hclient
      | backend => exact hbackend
    · refine .inr ⟨?_, ?_⟩
      · simp only [closeSession, run_bind, run_gets, hsession, run_modify, closeFd_run,
          detachError_run _ hclient, hcut _ _ hregistered]
      · rw [List.append_nil, hclient]
        split <;> omega
  · refine .inr ⟨?_, by simp⟩
    simp [closeSession, run_bind, hsession, hcut _ _ hregistered]

theorem length_sessionReports_le (codes : Side → Errno) :
    (sessionReports session reason error codes).length ≤ 7 := by
  have hdetach : ∀ code, (detachReports code).length ≤ 2 := by
    intro code
    unfold detachReports
    split
    · simp
    · simp
  have hclient := hdetach (codes .client)
  have hbackend := hdetach (codes .backend)
  simp only [sessionReports, List.length_append, List.length_cons, List.length_nil]
  omega

theorem released_sessions (dels : Side → List (Answerer TcpCall TcpAnswer)) :
    (s.released id session reason dels).tables.sessions = s.tables.sessions.erase id := by
  rw [released_tables]
  cases (session.ends .client).fd <;> cases (session.ends .backend).fd <;> rfl

/-- What the loop of `closeAllSessions` closes. -/
def sessionOwners (reason : String) : Owners TcpCall TcpAnswer TcpReactor TcpError ℕ where
  live s := s.tables.sessions.keys
  close id := closeSession id reason 0
  most := 9
  ends := by
    intro id s script hlive hlength
    obtain ⟨session, hsession⟩ := Finmap.mem_iff.mp (Finmap.mem_keys.mp hlive)
    rcases exists_dels hsession reason 0 script with ⟨dels, rest, hdels, rfl⟩ | ⟨_, hshort⟩
    · have hreports := @length_sessionReports_le session reason 0
        (endCodes session dels)
      have htwo : (dels .client ++ dels .backend).length ≤ 2 := by
        rw [List.length_append, hdels, hdels]
        split <;> split <;> omega
      rw [List.length_append] at hlength
      obtain ⟨hends, hused⟩ := (safeClose_closeSession hsession reason 0 hdels).ends rest (by omega)
      exact ⟨hends, by omega⟩
    · omega
  gone := by
    intro id s script hlive hends
    obtain ⟨session, hsession⟩ := Finmap.mem_iff.mp (Finmap.mem_keys.mp hlive)
    rcases exists_dels hsession reason 0 script with ⟨dels, rest, hdels, rfl⟩ | ⟨hcut, _⟩
    · rw [← Finmap.keys_erase, ← released_sessions dels]
      exact congrArg (·.sessions.keys) ((safeClose_closeSession hsession reason 0 hdels).kept rest).tables
    · exact absurd hcut hends
  pass := closeFirstSession reason
  pass_none := by
    intro s a script failure hlive
    have hhead : (s.tables.sessions.order (a .rank)).head? = none := Table.head?_order_eq_none.mpr hlive
    simp [closeFirstSession, askTcp, run_bind, hhead]
  pass_some := by
    intro s a script failure hlive
    cases hhead : (s.tables.sessions.order (a .rank)).head? with
    | none => exact absurd (Table.head?_order_eq_none.mp hhead) hlive
    | some id =>
      refine ⟨id, Table.mem_of_head?_order hhead, ?_⟩
      simp only [closeFirstSession, askTcp, run_bind, run_call_cons, run_gets, hhead]
      rfl

theorem closeAllSessions_eq (reason : String) : closeAllSessions reason = (sessionOwners reason).closeAll := by
  refine bind_congr fun failure => ?_
  cases failure <;> rfl

/-- What a close leaves. -/
theorem closeSession_left (hsession : s.tables.sessions.lookup id = some session)
    {script : List (Answerer TcpCall TcpAnswer)} (hends : (closeSession id reason error ⟨script, s⟩).1 ≠ .cut) :
    (closeSession id reason error ⟨script, s⟩).2.state.tables =
        ((s.tables.remove session id).release (session.ends .client).fd).release (session.ends .backend).fd ∧
      (closeSession id reason error ⟨script, s⟩).2.state.closes = session.fds ++ s.closes := by
  rcases exists_dels hsession reason error script with ⟨dels, rest, hdels, rfl⟩ | ⟨hcut, _⟩
  · have hleft := (safeClose_closeSession hsession reason error hdels).kept rest
    rw [← released_tables dels, ← released_closes dels]
    exact ⟨hleft.tables, hleft.closes⟩
  · exact absurd hcut hends

theorem lookup_release (tables : SessionTables) (fd : Option ℕ) (n : ℕ) :
    (tables.release fd).descriptors.lookup n = if fd = some n then none else tables.descriptors.lookup n := by
  cases fd with
  | none => rfl
  | some fd =>
    by_cases hn : fd = n
    · simp [SessionTables.release, hn]
    · simp [SessionTables.release, hn, Finmap.lookup_erase_ne (Ne.symm hn)]

theorem letsGo_closeSession (hsession : s.tables.sessions.lookup id = some session)
    {script : List (Answerer TcpCall TcpAnswer)} (hends : (closeSession id reason error ⟨script, s⟩).1 ≠ .cut) :
    Owners.LetsGo (fun s id => s.tables.sessions.lookup id) Session.fds (fun s fd => s.tables.descriptors.lookup fd)
      TcpReactor.closes id session s (closeSession id reason error ⟨script, s⟩).2.state := by
  obtain ⟨htables, hcloses⟩ := closeSession_left hsession hends
  have hsessions : (closeSession id reason error ⟨script, s⟩).2.state.tables.sessions = s.tables.sessions.erase id := by
    rw [htables]
    cases (session.ends .client).fd <;> cases (session.ends .backend).fd <;> rfl
  refine ⟨fun i hi => ?_, ?_, fun fd hfd => ?_, fun fd hfd => ?_, hcloses⟩
  · simp only [hsessions, Finmap.lookup_erase_ne hi]
  · simp only [hsessions, Finmap.lookup_erase]
  · obtain ⟨side, hside⟩ := Session.mem_fds.mp hfd
    simp only [htables, lookup_release]
    cases side with
    | client => simp [hside]
    | backend => simp [hside]
  · have hclient : (session.ends .client).fd ≠ some fd := fun he => hfd (Session.mem_fds.mpr ⟨_, he⟩)
    have hbackend : (session.ends .backend).fd ≠ some fd := fun he => hfd (Session.mem_fds.mpr ⟨_, he⟩)
    simp only [htables, lookup_release, hclient, hbackend, if_false]
    rfl

/-- A close keeps the tables. -/
theorem consistent_released (h : s.tables.Consistent) (hsession : s.tables.sessions.lookup id = some session) :
    (((s.tables.remove session id).release (session.ends .client).fd).release
      (session.ends .backend).fd).Consistent := by
  have hstep : ∀ (tables : SessionTables) (fd : Option ℕ), tables.Consistent →
      (∀ n, fd = some n → tables.Unused n) → (tables.release fd).Consistent := by
    intro tables fd htables hunused
    cases fd with
    | none => exact htables
    | some n => exact htables.release (hunused n rfl)
  have hunused : ∀ side n, (session.ends side).fd = some n → (s.tables.remove session id).Unused n :=
    fun side n hn => h.unused_remove hsession hn
  refine hstep _ _ (hstep _ _ (h.remove hsession) (hunused .client)) fun n hn => ?_
  cases (session.ends .client).fd with
  | none => exact hunused .backend n hn
  | some _ => exact hunused .backend n hn

/-- No session holds a connection twice, and no two hold the same. -/
theorem SessionTables.Consistent.connections_apart (h : s.tables.Consistent) :
    Owners.Apart (fun s id => s.tables.sessions.lookup id) Session.fds s := by
  -- a connection is of one side
  have hside : ∀ {id id' session session' side side' fd}, s.tables.sessions.lookup id = some session →
      s.tables.sessions.lookup id' = some session' → (session.ends side).fd = some fd →
      (session'.ends side').fd = some fd → side = side' := by
    intro id id' session session' side side' fd hsession hsession' hfd hfd'
    obtain ⟨serial, hdescriptor⟩ := h.wired hsession hfd
    obtain ⟨serial', hdescriptor'⟩ := h.wired hsession' hfd'
    rw [hdescriptor] at hdescriptor'
    cases hdescriptor'
    rfl
  refine ⟨fun id session hsession => ?_, fun id id' session session' hne hsession hsession' fd hfd hfd' => ?_⟩
  · refine List.nodup_append'.mpr ⟨Option.toList_nodup _, Option.toList_nodup _, fun fd hbackend hclient => ?_⟩
    cases hside hsession hsession (Option.mem_toList.mp hbackend) (Option.mem_toList.mp hclient)
  · obtain ⟨side, hend⟩ := Session.mem_fds.mp hfd
    obtain ⟨side', hend'⟩ := Session.mem_fds.mp hfd'
    obtain rfl := hside hsession hsession' hend hend'
    exact hne (h.apart hsession hsession' hend hend')

/-- The connections of sessions were closed, each once, and nothing else. -/
structure ConnectionsClosed (s s' : TcpReactor) (fds : List ℕ) : Prop where
  /-- They are what `::close` was called with. -/
  closes : s'.closes = fds ++ s.closes
  /-- They are what the ends of the sessions own. -/
  mem : ∀ fd, fd ∈ fds ↔ ∃ id session side, s.tables.sessions.lookup id = some session ∧ (session.ends side).fd = some fd
  /-- They stand for nothing. -/
  nothing : ∀ fd ∈ fds, s'.tables.descriptors.lookup fd = none
  /-- The other descriptors stand for what they did. -/
  rest : ∀ fd ∉ fds, s'.tables.descriptors.lookup fd = s.tables.descriptors.lookup fd
  /-- None was closed twice. -/
  once : s.tables.Consistent → fds.Nodup

/-- **Closing all sessions**: each is closed once, with its connections, and the indexes are empty. -/
theorem closeAllSessions_run (reason : String) {script : List (Answerer TcpCall TcpAnswer)}
    (hlength : 1 + s.tables.sessions.size * 10 ≤ script.length) :
    ∃ closed w', (sessionOwners reason).ClosedAll (closeAllSessions reason) ⟨script, s⟩ closed w' ∧
      (∃ fds, ConnectionsClosed s w'.state fds) ∧
      (s.tables.Consistent → ∀ token, token ∉ w'.state.tables.tokens.entries) := by
  obtain ⟨closed, w', hclosed⟩ := (sessionOwners reason).closeAll_run (s := s) hlength
  have hlive : ∀ s id, id ∈ (sessionOwners reason).live s ↔ ∃ session, s.tables.sessions.lookup id = some session :=
    fun s id => Finmap.mem_keys.trans Finmap.mem_iff
  refine ⟨closed, w', closeAllSessions_eq reason ▸ hclosed, ?_, fun hconsistent token htoken => ?_⟩
  · obtain ⟨fds, hfds⟩ := hclosed.closes.letsGo hlive fun id s script session hsession hends =>
      letsGo_closeSession hsession hends
    refine ⟨fds, hfds.freed, fun fd => ?_, hfds.nothing, hfds.rest, fun h => hfds.once h.connections_apart⟩
    simp only [hfds.mem, Session.mem_fds, exists_and_left]
  · have hkept : w'.state.tables.Consistent := by
      refine hclosed.closes.keeps (I := fun s => s.tables.Consistent) ?_ hconsistent
      intro id s script hid hends hs
      obtain ⟨session, hsession⟩ := (hlive s id).mp hid
      show (closeSession id reason 0 ⟨script, s⟩).2.state.tables.Consistent
      rw [(closeSession_left hsession hends).1]
      exact consistent_released hs hsession
    obtain ⟨target, htarget⟩ := Finmap.mem_iff.mp htoken
    obtain ⟨session, hsession, _⟩ := hkept.token htarget
    have hmem := (hlive w'.state target.sessionId).mpr ⟨session, hsession⟩
    rw [hclosed.empty] at hmem
    cases hmem

end Tcp

open Tcp in
/-- **Closing is safe, whatever is thrown.** In any state, closing what is not there does nothing. What is there is
out of all tables and `::close` was called with each of its descriptors, open until then, and with nothing else, once,
before the first report; nothing is closed after that, when the owner is destroyed. Then each report is made once,
whatever the others threw, and what was thrown first is thrown in the end; closing it again does nothing. Closing all
ends, each owner is closed once so, `::close` was called with each of their descriptors once and with nothing else,
and what was thrown first over all of them is thrown. -/
theorem exception_safe_close :
    (∀ (s : UdpReactor) (token : ℕ) (reason : String) (error : Errno),
      (s.tables.flows.lookup token = none → ∀ script, closeFlow token reason error ⟨script, s⟩ = (.ok (), ⟨script, s⟩)) ∧
      ∀ flow, s.tables.flows.lookup token = some flow → ∀ del,
        SafeClose (closeFlow token reason error) s [del] (s.released token flow reason)
          (flowReports token flow reason error (detachCode (del (.epollDel flow.fd)))) UdpReactor.AsLeft ∧
        (s.released token flow reason).tables = { s.tables with
          flowTokensByKey := s.tables.flowTokensByKey.erase flow.key
          flows := s.tables.flows.erase token
          descriptors := s.tables.descriptors.erase flow.fd } ∧
        (s.released token flow reason).closes = flow.fd :: s.closes ∧
        (∀ options, s.tables.Consistent options none → flow.fd ∈ s.tables.descriptors) ∧
        ∀ script s' reason' error' script', (closeFlow token reason error ⟨del :: script, s⟩).2.state = s' →
          closeFlow token reason' error' ⟨script', s'⟩ = (.ok (), ⟨script', s'⟩)) ∧
    (∀ (s : UdpReactor) (script : List (Answerer UdpCall UdpAnswer)), 1 + s.tables.flows.size * 7 ≤ script.length →
      ∃ closed w', flowOwners.ClosedAll closeAllFlows ⟨script, s⟩ closed w' ∧
        (∃ fds, SocketsClosed s w'.state fds) ∧
        ∀ options, s.tables.Consistent options none → ∀ key, key ∉ w'.state.tables.flowTokensByKey) ∧
    (∀ (s : TcpReactor) (id : ℕ) (reason : String) (error : Errno),
      (s.tables.sessions.lookup id = none →
        ∀ script, closeSession id reason error ⟨script, s⟩ = (.ok (), ⟨script, s⟩)) ∧
      ∀ session, s.tables.sessions.lookup id = some session → ∀ dels : Side → List (Answerer TcpCall TcpAnswer),
        (∀ side, (dels side).length = if (session.ends side).registered then 1 else 0) →
        SafeClose (closeSession id reason error) s (dels .client ++ dels .backend) (s.released id session reason dels)
          (sessionReports session reason error (endCodes session dels)) TcpReactor.AsLeft ∧
        (s.released id session reason dels).tables =
          ((s.tables.remove session id).release (session.ends .client).fd).release (session.ends .backend).fd ∧
        (s.released id session reason dels).closes = session.fds ++ s.closes ∧
        (s.tables.Consistent → session.fds.Nodup ∧
          (∀ side fd, (session.ends side).fd = some fd → fd ∈ s.tables.descriptors) ∧
          ∀ fd, (session.ends .client).fd = some fd → (session.ends .backend).fd ≠ some fd) ∧
        ∀ script s' reason' error' script',
          (closeSession id reason error ⟨dels .client ++ dels .backend ++ script, s⟩).2.state = s' →
          closeSession id reason' error' ⟨script', s'⟩ = (.ok (), ⟨script', s'⟩)) ∧
    ∀ (s : TcpReactor) (reason : String) (script : List (Answerer TcpCall TcpAnswer)),
      1 + s.tables.sessions.size * 10 ≤ script.length →
      ∃ closed w', (sessionOwners reason).ClosedAll (closeAllSessions reason) ⟨script, s⟩ closed w' ∧
        (∃ fds, ConnectionsClosed s w'.state fds) ∧
        (s.tables.Consistent → ∀ token, token ∉ w'.state.tables.tokens.entries) := by
  refine ⟨fun s token reason error => ⟨fun habsent script => closeFlow_absent habsent script,
      fun flow hflow del => ?_⟩, fun s script hlength => closeAllFlows_run hlength,
    fun s id reason error => ⟨fun habsent script => closeSession_absent habsent script,
      fun session hsession dels hdels => ?_⟩, fun s reason script hlength => closeAllSessions_run reason hlength⟩
  · have hsafe := safeClose_closeFlow hflow reason error del
    refine ⟨hsafe, ?_, rfl, fun options h => ?_, ?_⟩
    · rw [UdpReactor.released, FlowTables.close_of_lookup hflow]
    · obtain ⟨serial, hsocket⟩ := h.socket hflow
      exact Finmap.mem_iff.mpr ⟨_, hsocket⟩
    · rintro script s' reason' error' script' rfl
      have hkept : (closeFlow token reason error ⟨del :: script, s⟩).2.state.tables = s.tables.close token :=
        (hsafe.kept script).tables
      refine closeFlow_absent ?_ script'
      rw [hkept, FlowTables.close_of_lookup hflow]
      exact Finmap.lookup_erase _ _
  · have hsafe := safeClose_closeSession hsession reason error hdels
    refine ⟨hsafe, released_tables dels, released_closes dels, fun h =>
      ⟨h.connections_apart.nodup id session hsession, fun side fd hfd => ?_, fun fd hclient hbackend => ?_⟩, ?_⟩
    · obtain ⟨serial, hdescriptor⟩ := h.wired hsession hfd
      exact Finmap.mem_iff.mpr ⟨_, hdescriptor⟩
    · obtain ⟨serial, hdescriptor⟩ := h.wired hsession hclient
      obtain ⟨serial', hdescriptor'⟩ := h.wired hsession hbackend
      rw [hdescriptor] at hdescriptor'
      cases hdescriptor'
    · rintro script s' reason' error' script' rfl
      have hkept : (closeSession id reason error ⟨dels .client ++ dels .backend ++ script, s⟩).2.state.tables =
          (s.released id session reason dels).tables := (hsafe.kept script).tables
      refine closeSession_absent ?_ script'
      rw [hkept, released_sessions]
      exact Finmap.lookup_erase _ _

end L4lb.Net
