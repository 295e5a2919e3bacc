import L4lb.Net.TcpLoop

/-!
# The streams of bytes

What is sent on from one end of a session to the other is what was received, in order, and
nothing else; the rest is queued. Between a `send` that succeeds and the report that counts it,
what was sent is still at the front of the queue.
-/

namespace L4lb.Net.Tcp

open Effect

variable {options : TcpReactorOptions} {log : List TcpEvent} {event : TcpEvent} {c : Connection}

/-! ### How many bytes -/

/-- How many bytes of a side an event reports as sent on. -/
def TcpEvent.reported (source : Side) : TcpEvent → ℕ
  | .statistic event => if event.kind = bytesKind source then event.amount else 0
  | _ => 0

/-- How many bytes of a side an event sends on. -/
def TcpEvent.forwarded (source : Side) : TcpEvent → ℕ
  | .sent connection bytes => if connection.any (·.side = source.other) then bytes.length else 0
  | _ => 0

/-- How many bytes of a side were reported as sent on. -/
def reportedBytes (source : Side) (log : List TcpEvent) : ℕ := (log.map (·.reported source)).sum

/-- How many bytes of a side were sent on. -/
def forwardedBytes (source : Side) (log : List TcpEvent) : ℕ := (log.map (·.forwarded source)).sum

theorem reportedBytes_cons (source : Side) (event : TcpEvent) (log : List TcpEvent) :
    reportedBytes source (event :: log) = event.reported source + reportedBytes source log := by
  rw [reportedBytes, List.map_cons, List.sum_cons, reportedBytes]

theorem forwardedBytes_cons (source : Side) (event : TcpEvent) (log : List TcpEvent) :
    forwardedBytes source (event :: log) = event.forwarded source + forwardedBytes source log := by
  rw [forwardedBytes, List.map_cons, List.sum_cons, forwardedBytes]

/-- What was sent on is counted but for what was sent to one connection last. -/
structure Behind (log : List TcpEvent) (c : Connection) : Prop where
  /-- Something is to be counted. -/
  late : (hear log (some c)).uncounted ≠ []
  /-- Of no other connection. -/
  alone : ∀ c' ≠ c, (hear log (some c')).uncounted = []
  /-- It is what the reports are short of. -/
  short : ∀ source, forwardedBytes source log =
    reportedBytes source log + if c.side = source.other then (hear log (some c)).uncounted.length else 0

/-- All that was sent on is counted. -/
structure Even (log : List TcpEvent) : Prop where
  /-- Nothing is to be counted. -/
  counted : AllCounted log
  /-- The reports say so. -/
  equal : ∀ source, forwardedBytes source log = reportedBytes source log

/-- What is neither sent nor counted changes nothing. -/
theorem Heard.uncounted_after (heard : Heard) (hsent : ∀ bytes, event ≠ .sent (some c) bytes)
    (hcounted : ∀ stat, event = .statistic stat → ¬ countsBytes stat.kind) :
    (heard.after c event).uncounted = heard.uncounted := by
  cases event with
  | sent connection bytes =>
    have hne : connection ≠ some c := by
      rintro rfl
      exact hsent bytes rfl
    simp only [after, if_neg hne]
  | statistic stat =>
    have hnot : ¬ (countsBytes stat.kind ∧ heard.uncounted ≠ []) := fun hboth => hcounted stat rfl hboth.1
    simp only [after, if_neg hnot]
  | received | ended | shut =>
    simp only [after]
    split <;> rfl
  | _ => rfl

/-- **What is reported is what was sent**, but for what was sent last. -/
theorem Legal.even_or_behind (h : Legal options log) : Even log ∨ ∃ c, Behind log c := by
  induction log with
  | nil => exact .inl ⟨fun _ => rfl, fun _ => rfl⟩
  | cons event log ih =>
    obtain ⟨hallowed, -, hlegal⟩ := h
    have hplain : (∀ c, (hear (event :: log) (some c)).uncounted = (hear log (some c)).uncounted) →
        (∀ source, event.forwarded source = 0) → (∀ source, event.reported source = 0) →
        Even (event :: log) ∨ ∃ c, Behind (event :: log) c := by
      intro huncounted hforwarded hreported
      have hforwarded' : ∀ source, forwardedBytes source (event :: log) = forwardedBytes source log := by
        intro source
        rw [forwardedBytes_cons, hforwarded, Nat.zero_add]
      have hreported' : ∀ source, reportedBytes source (event :: log) = reportedBytes source log := by
        intro source
        rw [reportedBytes_cons, hreported, Nat.zero_add]
      rcases ih hlegal with heven | ⟨c, hbehind⟩
      · exact .inl ⟨fun c => by rw [huncounted, heven.counted], fun source => by rw [hforwarded', hreported', heven.equal]⟩
      · refine .inr ⟨c, ?_, fun c' hne => ?_, fun source => ?_⟩
        · rw [huncounted]
          exact hbehind.late
        · rw [huncounted, hbehind.alone c' hne]
        · rw [hforwarded', hreported', huncounted, hbehind.short]
    cases event with
    | sent connection bytes =>
      obtain ⟨hcounted, -, hbytes, id, c, c', rfl, -⟩ := hallowed
      have heven : Even log := (ih hlegal).resolve_right fun ⟨c, hbehind⟩ => hbehind.late (hcounted c)
      have huncounted : (hear (.sent (some c) bytes :: log) (some c)).uncounted = bytes := by
        rw [hear_cons, Heard.after, if_pos rfl]
      refine .inr ⟨c, by rw [huncounted]; exact hbytes, fun c' hne => ?_, fun source => ?_⟩
      · rw [hear_cons, Heard.uncounted_after _ (by simp [hne.symm]) (by simp), hcounted]
      · rw [huncounted, forwardedBytes_cons, reportedBytes_cons, heven.equal]
        simp [TcpEvent.forwarded, TcpEvent.reported, Nat.add_comm]
    | statistic stat =>
      by_cases hkind : countsBytes stat.kind
      · -- what was behind is counted
        obtain ⟨c, hsome, rfl⟩ := hallowed.1 hkind
        obtain ⟨c', hbehind⟩ := (ih hlegal).resolve_left fun heven => hsome (heven.counted c)
        obtain rfl : c = c' := by
          by_contra hne
          exact hsome (hbehind.alone c hne)
        refine .inl ⟨fun c' => ?_, fun source => ?_⟩
        · rw [hear_cons]
          simp only [Heard.after]
          split
          · rfl
          · rename_i hnot
            by_contra hmore
            exact hnot ⟨hkind, hmore⟩
        · rw [forwardedBytes_cons, reportedBytes_cons, hbehind.short]
          simp only [TcpEvent.forwarded, TcpEvent.reported]
          cases source <;> cases hside : c.side <;> simp [bytesKind, Side.other, Nat.add_comm]
      · apply hplain
        · intro c
          rw [hear_cons, Heard.uncounted_after _ (by simp)]
          rintro stat' ⟨⟩
          exact hkind
        · exact fun _ => rfl
        · intro source
          refine if_neg fun heq => ?_
          exact hkind (by cases source <;> simp [countsBytes, heq, bytesKind])
    | _ =>
      refine hplain (fun c => ?_) (fun _ => rfl) fun _ => rfl
      rw [hear_cons, Heard.uncounted_after _ (by simp) (by simp)]

/-! ### Which bytes -/

/-- What was received stays so. -/
theorem received_mono (event : TcpEvent) (log : List TcpEvent) (c : Connection) :
    (hear log (some c)).received <+: (hear (event :: log) (some c)).received := by
  by_cases hreceived : ∃ bytes, event = .received (some c) bytes
  · obtain ⟨bytes, rfl⟩ := hreceived
    rw [hear_cons, Heard.after, if_pos rfl]
    exact List.prefix_append _ _
  · rw [hear_cons, Heard.received_after]
    exact fun bytes heq => hreceived ⟨bytes, heq⟩

/-- **What was sent to a connection is the front of what was received from the other end of its
session.** -/
theorem Legal.sent_own (h : Legal options log) (c : Connection) (hsome : (hear log (some c)).sent ≠ []) :
    ∃ id c', .attached id (some c) ∈ log ∧ .attached id (some c') ∈ log ∧ c'.side = c.side.other ∧
      (hear log (some c)).sent <+: (hear log (some c')).received := by
  induction log with
  | nil => exact absurd rfl hsome
  | cons event log ih =>
    by_cases hsent : ∃ bytes, event = .sent (some c) bytes
    · obtain ⟨bytes, rfl⟩ := hsent
      obtain ⟨-, -, -, id, c₁, c', hc, hjoins, -, hprefix⟩ := h.1
      obtain rfl := Option.some.inj hc
      refine ⟨id, c', List.mem_cons_of_mem _ hjoins.here, List.mem_cons_of_mem _ hjoins.there, hjoins.across, ?_⟩
      rw [hear_cons, hear_cons, Heard.received_after _ (by simp), Heard.after, if_pos rfl]
      exact hprefix
    · have hsame : (hear (event :: log) (some c)).sent = (hear log (some c)).sent := by
        rw [hear_cons, Heard.sent_after]
        exact fun bytes heq => hsent ⟨bytes, heq⟩
      rw [hsame] at hsome ⊢
      obtain ⟨id, c', hhere, hthere, hacross, hprefix⟩ := ih h.2.2 hsome
      exact ⟨id, c', List.mem_cons_of_mem _ hhere, List.mem_cons_of_mem _ hthere, hacross,
        hprefix.trans (received_mono event log c')⟩

/-! ### Every run -/

/-- The connection at an end of a session. -/
def TcpReactor.wire (s : TcpReactor) (session : Session) (side : Side) : Option Connection :=
  s.tables.connection (session.ends side).fd

/-- What holds of the streams in a state. -/
structure Streamed (s : TcpReactor) : Prop where
  /-- What was received from a side of a session is what was sent on and what is queued; what
  was sent last is still queued until it is counted. -/
  whole : ∀ {id session}, s.tables.sessions.lookup id = some session → ∀ source,
    (hear s.log (s.wire session source)).received = (hear s.log (s.wire session source.other)).sent ++
      (session.pending source).content.drop (hear s.log (s.wire session source.other)).uncounted.length
  /-- What is still to be counted is at the front of the queue. -/
  front : ∀ {id session}, s.tables.sessions.lookup id = some session → ∀ source,
    (hear s.log (s.wire session source.other)).uncounted <+: (session.pending source).content
  /-- The session has counted all of what was sent on but that. -/
  counted : ∀ {id session}, s.tables.sessions.lookup id = some session → ∀ source,
    (hear s.log (s.wire session source.other)).sent.length =
      session.sent source + (hear s.log (s.wire session source.other)).uncounted.length
  /-- So have the reports, of all sessions. -/
  reported : Even s.log ∨ ∃ c, Behind s.log c
  /-- When all is counted, nothing of this is put off. -/
  settled : AllCounted s.log →
    (∀ {id session}, s.tables.sessions.lookup id = some session → ∀ source,
      (hear s.log (s.wire session source)).received =
        (hear s.log (s.wire session source.other)).sent ++ (session.pending source).content ∧
      (hear s.log (s.wire session source.other)).sent.length = session.sent source) ∧
    ∀ source, forwardedBytes source s.log = reportedBytes source s.log
  /-- What was sent to a connection is from the other end of its session. -/
  own : ∀ c, (hear s.log (some c)).sent ≠ [] → ∃ id c', .attached id (some c) ∈ s.log ∧
    .attached id (some c') ∈ s.log ∧ c'.side = c.side.other ∧
      (hear s.log (some c)).sent <+: (hear s.log (some c')).received
  /-- A queue is never longer than its buffer. -/
  bounded : ∀ {id session}, s.tables.sessions.lookup id = some session → ∀ source,
    (session.pending source).size ≤ 65536

theorem Sound.streamed {s : TcpReactor} (h : Sound options s) : Streamed s := by
  have htold : ∀ {id session}, s.tables.sessions.lookup id = some session → Told s.log id (s.tables.circuitOf session) :=
    fun hsession => h.told (SessionTables.circuit_of_lookup hsession)
  have hwhole : ∀ {id session}, s.tables.sessions.lookup id = some session → ∀ source,
      (hear s.log (s.wire session source)).received = (hear s.log (s.wire session source.other)).sent ++
        (session.pending source).content.drop (hear s.log (s.wire session source.other)).uncounted.length := by
    intro id session hsession source
    have hreceived := (htold hsession).received source.other
    rw [Side.other_other] at hreceived
    exact hreceived
  have hcount : ∀ {id session}, s.tables.sessions.lookup id = some session → ∀ source,
      (hear s.log (s.wire session source.other)).sent.length =
        session.sent source + (hear s.log (s.wire session source.other)).uncounted.length := by
    intro id session hsession source
    have hcounted := (htold hsession).counted source.other
    rw [Side.other_other] at hcounted
    have hlength := (htold hsession).length source.other
    rw [hcounted] at hlength
    exact hlength
  constructor
  · exact hwhole
  · intro id session hsession source
    have hfront := (htold hsession).front source.other
    rw [Side.other_other] at hfront
    exact hfront
  · exact hcount
  · exact h.legal.even_or_behind
  · intro hall
    have hnone : ∀ connection, (hear s.log connection).uncounted = [] := by
      rintro (_ | c)
      · rfl
      · exact hall c
    constructor
    · intro id session hsession source
      have hreceived := hwhole hsession source
      have hlength := hcount hsession source
      rw [hnone] at hreceived hlength
      exact ⟨hreceived, hlength⟩
    · exact (h.legal.even_or_behind.resolve_right fun ⟨c, hbehind⟩ => hbehind.late (hall c)).equal
  · exact fun c hsome => h.legal.sent_own c hsome
  · exact fun _ source => (_ : TcpPendingBuffer).size_le

/-- **No byte is lost, doubled, reordered or misdirected**, at every point of every run of the
reactor, and no buffer is written or read past its end. -/
theorem streamed_reached (options : TcpReactorOptions) (script : List (Answerer TcpCall TcpAnswer)) :
    Streamed (reached options script) ∧
      ∀ what, (runTcpReactor options ⟨script, {}⟩).1 ≠ .thrown (.logicError what) := by
  refine ⟨(sound_reached options script).streamed, fun what hthrown => ?_⟩
  have hmeets := (serves_runTcpReactor options script).2
  rw [hthrown] at hmeets
  have hundone : Undone options (.logicError what) _ := hmeets
  exact hundone.sensible.within what rfl

/-- An answer to a call of a run, by its place: a client sends two bytes, and its backend takes
one at a time. -/
def shortSendAnswer (place : ℕ) : Answerer TcpCall TcpAnswer
  | .now => 0
  | .notify _ => none
  | .ready => none
  | .maintenance => none
  | .selectBackend => .ok (some ⟨#v[10, 0, 0, 1], 80⟩)
  | .sigprocmask => .ok ()
  | .openDescriptor => .ok place
  | .setsockopt _ => .ok ()
  | .bind _ => .ok ()
  | .listen _ => .ok ()
  | .accept _ => if place < 30 then .ok place else .error .EAGAIN
  | .connect _ _ => .ok ()
  | .recv _ size => if h : 2 ≤ size ∧ place < 53 then .ok ⟨[1, 2], h.1⟩ else .error .EAGAIN
  | .send _ bytes => if h : 1 ≤ bytes.length then .ok ⟨1, Nat.lt_succ_of_le h⟩ else .error .EAGAIN
  | .shutdown _ => .ok ()
  | .socketError _ => .ok 0
  | .epollCtl _ _ _ _ => .ok ()
  | .epollWait _ => .ok ⟨[(if place < 20 then 3 else 22, EPOLLIN)], List.nodup_singleton _⟩
  | .readSignal => .error .EAGAIN
  | .errno => 0
  | .rank => id

/-- A byte was sent and is still queued when `short-send` is reported. -/
theorem not_whole_before_counted : ¬ ∀ options script id session source,
    (reached options script).tables.sessions.lookup id = some session →
      (hear (reached options script).log ((reached options script).wire session source)).received =
        (hear (reached options script).log ((reached options script).wire session source.other)).sent ++
          (session.pending source).content := by
  intro hwhole
  have hshort : ((reached {} ((List.range 59).map shortSendAnswer)).tables.sessions.lookup 1).any (fun session =>
      (hear (reached {} ((List.range 59).map shortSendAnswer)).log
        ((reached {} ((List.range 59).map shortSendAnswer)).wire session .client)).received ≠
        (hear (reached {} ((List.range 59).map shortSendAnswer)).log
          ((reached {} ((List.range 59).map shortSendAnswer)).wire session Side.client.other)).sent ++
          (session.pending .client).content) = true := by
    decide +kernel
  obtain ⟨session, hsession, hne⟩ := (Option.any_eq_true _ _).mp hshort
  exact of_decide_eq_true hne (hwhole {} _ 1 session .client hsession)

end L4lb.Net.Tcp
