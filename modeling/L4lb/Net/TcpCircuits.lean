import L4lb.Net.TcpHistory

/-!
# The circuits of the TCP reactor

What a session is for: two connections, two queues of bytes on their way from one to the
other, and whether either way has ended. A history tells of a circuit (`Told`) when it says
the same of the two connections: what came from one is what was sent to the other, and then
what is queued. Every operation on a circuit keeps this, together with the event that is
recorded of it.
-/

namespace L4lb.Net.Tcp

/-- What a session connects. -/
structure Circuit where
  /-- The two connections. -/
  wire : Side → Option Connection
  /-- What was received from a side and is to be sent on. -/
  queue : Side → Bytes
  /-- How many bytes of a side were counted as sent on. -/
  sent : Side → ℕ
  /-- All that a side sends was received. -/
  eof : Side → Bool
  /-- A side was told that no more will be sent to it. -/
  shutdown : Side → Bool

/-- The circuit of a session. -/
def SessionTables.circuitOf (tables : SessionTables) (session : Session) : Circuit where
  wire side := tables.connection (session.ends side).fd
  queue side := (session.pending side).content
  sent := session.sent
  eof side := (session.ends side).eof
  shutdown side := (session.ends side).shutdown

/-- The circuit of the session with an id. -/
def SessionTables.circuit (tables : SessionTables) (id : ℕ) : Option Circuit :=
  (tables.sessions.lookup id).map tables.circuitOf

namespace Circuit

/-- The circuit of a new session. -/
def new (connection : Connection) : Circuit where
  wire := Function.update (fun _ => none) .client (some connection)
  queue _ := []
  sent _ := 0
  eof _ := false
  shutdown _ := false

/-- A session gets its backend. -/
def attach (circuit : Circuit) (connection : Connection) : Circuit :=
  { circuit with wire := Function.update circuit.wire .backend (some connection) }

/-- What a side sends joins its queue. -/
def receive (circuit : Circuit) (source : Side) (bytes : Bytes) : Circuit :=
  { circuit with queue := Function.update circuit.queue source (circuit.queue source ++ bytes) }

/-- What was sent leaves the queue, and is counted. -/
def account (circuit : Circuit) (source : Side) (sentBytes : ℕ) : Circuit :=
  { circuit with
    queue := Function.update circuit.queue source ((circuit.queue source).drop sentBytes)
    sent := Function.update circuit.sent source (circuit.sent source + sentBytes) }

/-- A side has ended. -/
def finish (circuit : Circuit) (source : Side) : Circuit :=
  { circuit with eof := Function.update circuit.eof source true }

/-- A side was told. -/
def shut (circuit : Circuit) (target : Side) : Circuit :=
  { circuit with shutdown := Function.update circuit.shutdown target true }

end Circuit

/-! ### What is told of a circuit -/

/-- A history tells of a circuit: of each side, the one that bytes are sent to. -/
structure Told (log : List TcpEvent) (id : ℕ) (circuit : Circuit) : Prop where
  /-- Its connections are those of the session. -/
  attached : ∀ {side c}, circuit.wire side = some c ↔ .attached id (some c) ∈ log ∧ c.side = side
  /-- What was received is what was sent, and then what is queued and was not. -/
  received : ∀ side, (hear log (circuit.wire side.other)).received = (hear log (circuit.wire side)).sent ++
    (circuit.queue side.other).drop (hear log (circuit.wire side)).uncounted.length
  /-- What is still to be counted is at the front of the queue. -/
  front : ∀ side, (hear log (circuit.wire side)).uncounted <+: circuit.queue side.other
  /-- The rest of what was sent is counted, by the session too. -/
  counted : ∀ side, (hear log (circuit.wire side)).counted = circuit.sent side.other
  /-- All of what was sent is counted or not. -/
  length : ∀ side, (hear log (circuit.wire side)).sent.length =
    (hear log (circuit.wire side)).counted + (hear log (circuit.wire side)).uncounted.length
  /-- Whether a side has ended. -/
  eof : ∀ side, (hear log (circuit.wire side)).ended = circuit.eof side
  /-- Whether a side was told. -/
  shutdown : ∀ side, (hear log (circuit.wire side)).shut = circuit.shutdown side
  /-- A side is told when there is nothing more for it. -/
  finished : ∀ side, circuit.shutdown side = true → circuit.eof side.other = true ∧ circuit.queue side.other = []

namespace Told

variable {log : List TcpEvent} {id : ℕ} {circuit : Circuit} {source side : Side} {c : Connection}

/-- The connections stay those of the session. -/
theorem attached_cons (h : Told log id circuit) {event : TcpEvent} (hne : ∀ c, event ≠ .attached id (some c))
    {side : Side} {c : Connection} :
    circuit.wire side = some c ↔ .attached id (some c) ∈ event :: log ∧ c.side = side := by
  rw [h.attached, List.mem_cons, or_iff_right fun he => hne c he.symm]

/-- What is not about its connections changes nothing. -/
theorem cons (h : Told log id circuit) {event : TcpEvent} (hne : ∀ c, event ≠ .attached id (some c))
    (hear_eq : ∀ side, hear (event :: log) (circuit.wire side) = hear log (circuit.wire side)) :
    Told (event :: log) id circuit where
  attached := h.attached_cons hne
  received side := by rw [hear_eq, hear_eq, h.received]
  front side := by rw [hear_eq]; exact h.front side
  counted side := by rw [hear_eq, h.counted]
  length side := by rw [hear_eq, h.length]
  eof side := by rw [hear_eq, h.eof]
  shutdown side := by rw [hear_eq, h.shutdown]
  finished := h.finished

/-- The two ends have different connections. -/
theorem wire_other_ne (h : Told log id circuit) (hwire : circuit.wire side = some c) :
    circuit.wire side.other ≠ some c := by
  intro hother
  have hsame := (h.attached.mp hwire).2.symm.trans (h.attached.mp hother).2
  exact side.other_ne hsame.symm

/-- What is about one connection says nothing of the other. -/
theorem hear_other (h : Told log id circuit) (hwire : circuit.wire side = some c) (event : TcpEvent)
    (hevent : ∀ c' heard, c' ≠ c → Heard.after c' heard event = heard) :
    hear (event :: log) (circuit.wire side.other) = hear log (circuit.wire side.other) := by
  cases hother : circuit.wire side.other with
  | none => rfl
  | some c' =>
    have hne : c' ≠ c := by
      rintro rfl
      exact h.wire_other_ne hwire hother
    rw [hear_cons, hevent c' _ hne]

/-- Bytes are received from a side. -/
theorem receive (h : Told log id circuit) (hwire : circuit.wire source = some c)
    (hmore : circuit.eof source = false) (bytes : Bytes) :
    Told (.received (some c) bytes :: log) id (circuit.receive source bytes) := by
  have hsource : hear (.received (some c) bytes :: log) (circuit.wire source) =
      { hear log (circuit.wire source) with received := (hear log (circuit.wire source)).received ++ bytes } := by
    rw [hwire]
    exact if_pos rfl
  have hother := h.hear_other hwire (.received (some c) bytes) fun c' heard hne =>
    if_neg fun he => hne (Option.some.inj he).symm
  have hreceived := h.received source.other
  have hfront := h.front source.other
  have hcounted := h.counted source.other
  have hfinished := h.finished source.other
  rw [Side.other_other] at hreceived hfront hcounted hfinished
  constructor
  · exact h.attached_cons (by nofun)
  all_goals
    intro side
    rcases side.eq_or_eq_other source with rfl | rfl
  all_goals simp only [Circuit.receive, Side.other_other, hsource, hother, Function.update_self,
    Function.update_of_ne (Side.other_ne _)]
  · exact h.received side
  · rw [hreceived, List.drop_append_of_le_length hfront.length_le, List.append_assoc]
  · exact h.front side
  · exact hfront.trans (List.prefix_append _ _)
  · exact h.counted side
  · exact hcounted
  · exact h.length side
  · exact h.length source.other
  · exact h.eof side
  · exact h.eof source.other
  · exact h.shutdown side
  · exact h.shutdown source.other
  · exact h.finished side
  · intro hshutdown
    have hended := (hfinished hshutdown).1
    rw [hmore] at hended
    cases hended

/-- A side has ended. -/
theorem finish (h : Told log id circuit) (hwire : circuit.wire source = some c) :
    Told (.ended (some c) :: log) id (circuit.finish source) := by
  have hsource : hear (.ended (some c) :: log) (circuit.wire source) =
      { hear log (circuit.wire source) with ended := true } := by
    rw [hwire]
    exact if_pos rfl
  have hother := h.hear_other hwire (.ended (some c)) fun c' heard hne =>
    if_neg fun he => hne (Option.some.inj he).symm
  have hreceived := h.received source.other
  have hfront := h.front source.other
  have hcounted := h.counted source.other
  have hfinished := h.finished source.other
  rw [Side.other_other] at hreceived hfront hcounted hfinished
  constructor
  · exact h.attached_cons (by nofun)
  all_goals
    intro side
    rcases side.eq_or_eq_other source with rfl | rfl
  all_goals simp only [Circuit.finish, Side.other_other, hsource, hother, Function.update_self,
    Function.update_of_ne (Side.other_ne _)]
  · exact h.received side
  · exact hreceived
  · exact h.front side
  · exact hfront
  · exact h.counted side
  · exact hcounted
  · exact h.length side
  · exact h.length source.other
  · exact h.eof source.other
  · exact h.shutdown side
  · exact h.shutdown source.other
  · exact h.finished side
  · intro hshutdown
    exact ⟨trivial, (hfinished hshutdown).2⟩

/-- Bytes are sent to a side; they are still to be counted. -/
theorem send (h : Told log id circuit) (hwire : circuit.wire source.other = some c)
    (hcounted : (hear log (some c)).uncounted = []) {bytes : Bytes} (hbytes : bytes <+: circuit.queue source) :
    Told (.sent (some c) bytes :: log) id circuit := by
  have htarget : hear (.sent (some c) bytes :: log) (circuit.wire source.other) =
      { hear log (circuit.wire source.other) with
        sent := (hear log (circuit.wire source.other)).sent ++ bytes, uncounted := bytes } := by
    rw [hwire]
    exact if_pos rfl
  have hother := h.hear_other hwire (.sent (some c) bytes) fun c' heard hne =>
    if_neg fun he => hne (Option.some.inj he).symm
  rw [Side.other_other] at hother
  have hreceived := h.received source.other
  have hlength := h.length source.other
  have hsent := h.counted source.other
  rw [← hwire] at hcounted
  rw [hcounted, List.length_nil] at hreceived hlength
  rw [Side.other_other] at hreceived hsent
  constructor
  case finished => exact h.finished
  · exact h.attached_cons (by nofun)
  all_goals
    intro side
    rcases side.eq_or_eq_other source with rfl | rfl
  all_goals simp only [Side.other_other, htarget, hother]
  · exact h.received side
  · rw [hreceived, List.drop_zero, List.append_assoc, List.prefix_iff_eq_append.mp hbytes]
  · exact h.front side
  · exact hbytes
  · exact h.counted side
  · exact hsent
  · exact h.length side
  · rw [List.length_append, hlength, Nat.add_zero]
  · exact h.eof side
  · exact h.eof source.other
  · exact h.shutdown side
  · exact h.shutdown source.other

/-- What was sent to a side is counted, and nothing else was to be. -/
theorem account (h : Told log id circuit) (hwire : circuit.wire source.other = some c)
    (hpending : (hear log (some c)).uncounted ≠ []) {kind : StatKind} (hkind : countsBytes kind)
    (hother : ∀ c', c' ≠ c → (hear log (some c')).uncounted = []) :
    Told (.statistic ⟨kind, (hear log (some c)).uncounted.length⟩ :: log) id
      (circuit.account source (hear log (some c)).uncounted.length) := by
  have htarget : hear (.statistic ⟨kind, (hear log (some c)).uncounted.length⟩ :: log) (circuit.wire source.other) =
      { hear log (circuit.wire source.other) with
        uncounted := [], counted := (hear log (circuit.wire source.other)).counted +
          (hear log (some c)).uncounted.length } := by
    rw [hwire]
    exact if_pos ⟨hkind, hpending⟩
  have hsource : hear (.statistic ⟨kind, (hear log (some c)).uncounted.length⟩ :: log) (circuit.wire source) =
      hear log (circuit.wire source) := by
    cases hside : circuit.wire source with
    | none => rfl
    | some c' =>
      have hne : c' ≠ c := by
        rintro rfl
        exact h.wire_other_ne hside hwire
      exact if_neg fun he => he.2 (hother c' hne)
  have hreceived := h.received source.other
  have hfront := h.front source.other
  have hlength := h.length source.other
  have hcounted := h.counted source.other
  have hfinished := h.finished source.other
  rw [Side.other_other] at hreceived hfront hcounted hfinished
  rw [hwire] at hreceived
  constructor
  · exact h.attached_cons (by nofun)
  all_goals
    intro side
    rcases side.eq_or_eq_other source with rfl | rfl
  all_goals simp only [Circuit.account, Side.other_other, htarget, hsource, Function.update_self,
    Function.update_of_ne (Side.other_ne _)]
  · exact h.received side
  · rw [hreceived, hwire]
    rfl
  · exact h.front side
  · exact List.nil_prefix
  · exact h.counted side
  · rw [hcounted]
  · exact h.length side
  · rw [hlength, hwire]
    rfl
  · exact h.eof side
  · exact h.eof source.other
  · exact h.shutdown side
  · exact h.shutdown source.other
  · exact h.finished side
  · intro hshutdown
    obtain ⟨heof, hqueue⟩ := hfinished hshutdown
    rw [hqueue, List.drop_nil]
    exact ⟨heof, rfl⟩

/-- A side is told that there is nothing more for it. -/
theorem shut (h : Told log id circuit) (hwire : circuit.wire source.other = some c)
    (heof : circuit.eof source = true) (hqueue : circuit.queue source = []) :
    Told (.shut (some c) :: log) id (circuit.shut source.other) := by
  have htarget : hear (.shut (some c) :: log) (circuit.wire source.other) =
      { hear log (circuit.wire source.other) with shut := true } := by
    rw [hwire]
    exact if_pos rfl
  have hother := h.hear_other hwire (.shut (some c)) fun c' heard hne =>
    if_neg fun he => hne (Option.some.inj he).symm
  rw [Side.other_other] at hother
  have hne : source ≠ source.other := fun he => source.other_ne he.symm
  have hreceived := h.received source.other
  have hfront := h.front source.other
  have hcounted := h.counted source.other
  rw [Side.other_other] at hreceived hfront hcounted
  constructor
  · exact h.attached_cons (by nofun)
  all_goals
    intro side
    rcases side.eq_or_eq_other source with rfl | rfl
  all_goals simp only [Circuit.shut, Side.other_other, htarget, hother, Function.update_self,
    Function.update_of_ne hne]
  · exact h.received side
  · exact hreceived
  · exact h.front side
  · exact hfront
  · exact h.counted side
  · exact hcounted
  · exact h.length side
  · exact h.length source.other
  · exact h.eof side
  · exact h.eof source.other
  · exact h.shutdown side
  · exact h.finished side
  · exact fun _ => ⟨heof, hqueue⟩

/-- A session begins. -/
theorem new (hside : c.side = .client) (hfresh : hear log (some c) = {})
    (hid : ∀ connection, .attached id connection ∉ log) :
    Told (.attached id (some c) :: log) id (Circuit.new c) := by
  have hear_eq : ∀ side, hear (.attached id (some c) :: log) ((Circuit.new c).wire side) = {} := by
    intro side
    cases side with
    | client => exact hfresh
    | backend => rfl
  constructor
  case finished => exact fun side hshutdown => nomatch hshutdown
  · intro side c'
    rw [List.mem_cons, or_iff_left (hid _)]
    constructor
    · intro hc'
      cases side with
      | client =>
        obtain rfl := Option.some.inj hc'
        exact ⟨rfl, hside⟩
      | backend => cases hc'
    · rintro ⟨he, rfl⟩
      obtain rfl : c' = c := by injection he with _ he; exact Option.some.inj he
      rw [hside]
      rfl
  all_goals
    intro side
    simp only [hear_eq]
    rfl

/-- It gets its backend. -/
theorem attach (h : Told log id circuit) (hunwired : circuit.wire .backend = none) (hside : c.side = .backend)
    (hfresh : hear log (some c) = {}) : Told (.attached id (some c) :: log) id (circuit.attach c) := by
  have hclient : (circuit.attach c).wire .client = circuit.wire .client := rfl
  have hbackend : (circuit.attach c).wire .backend = some c := rfl
  have hear_eq : ∀ side, hear (.attached id (some c) :: log) ((circuit.attach c).wire side) =
      hear log (circuit.wire side) := by
    intro side
    cases side with
    | client =>
      rw [hclient]
      cases circuit.wire .client <;> rfl
    | backend =>
      rw [hunwired]
      exact hfresh
  constructor
  case finished => exact h.finished
  · intro side c'
    rw [List.mem_cons]
    constructor
    · intro hc'
      cases side with
      | client =>
        obtain ⟨hmem, hside'⟩ := h.attached.mp hc'
        exact ⟨.inr hmem, hside'⟩
      | backend =>
        obtain rfl := Option.some.inj hc'
        exact ⟨.inl rfl, hside⟩
    · rintro ⟨he | hmem, hside'⟩
      · obtain rfl : c' = c := by injection he with _ he; exact Option.some.inj he
        obtain rfl := hside.symm.trans hside'
        exact hbackend
      · have hwire := h.attached.mpr ⟨hmem, hside'⟩
        cases side with
        | client => exact hwire
        | backend =>
          rw [hunwired] at hwire
          cases hwire
  all_goals
    intro side
    simp only [hear_eq]
  · exact h.received side
  · exact h.front side
  · exact h.counted side
  · exact h.length side
  · exact h.eof side
  · exact h.shutdown side

end Told

/-! ### The circuits of the tables -/

namespace SessionTables

variable {tables tables' : SessionTables} {id id' : ℕ} {session : Session} {f : Session → Session}
  {fd : ℕ}

/-- A number no session uses. -/
def Unused (tables : SessionTables) (fd : ℕ) : Prop :=
  ∀ id session side, tables.sessions.lookup id = some session → (session.ends side).fd ≠ some fd

theorem circuit_of_lookup (h : tables.sessions.lookup id = some session) :
    tables.circuit id = some (tables.circuitOf session) := by
  rw [circuit, h]
  rfl

theorem circuit_of_none (h : tables.sessions.lookup id = none) : tables.circuit id = none := by
  rw [circuit, h]
  rfl

/-- The circuits do not depend on what no session uses. -/
theorem circuit_congr (hsessions : tables'.sessions = tables.sessions)
    (hdescriptors : ∀ fd, ¬ tables.Unused fd →
      tables'.descriptors.lookup fd = tables.descriptors.lookup fd) (id : ℕ) :
    tables'.circuit id = tables.circuit id := by
  rw [circuit, circuit, hsessions]
  cases h : tables.sessions.lookup id with
  | none => rfl
  | some session =>
    have hwire : ∀ side, tables'.connection (session.ends side).fd =
        tables.connection (session.ends side).fd := by
      intro side
      cases hfd : (session.ends side).fd with
      | none => rfl
      | some fd =>
        have hused : ¬ tables.Unused fd := fun hunused => hunused id session side h hfd
        simp only [connection, Option.bind_some, hdescriptors fd hused]
    simp only [Option.map_some, circuitOf, hwire]

theorem update_of_lookup (h : tables.sessions.lookup id = some session) :
    tables.update id f = { tables with sessions := tables.sessions.insert id (f session) } := by
  rw [update, h]

@[simp] theorem update_descriptors : (tables.update id f).descriptors = tables.descriptors := by
  unfold update
  split <;> rfl

@[simp] theorem update_connections : (tables.update id f).connections = tables.connections := by
  unfold update
  split <;> rfl

@[simp] theorem update_nextSessionId : (tables.update id f).nextSessionId = tables.nextSessionId := by
  unfold update
  split <;> rfl

@[simp] theorem update_tokens : (tables.update id f).tokens = tables.tokens := by
  unfold update
  split <;> rfl

theorem lookup_update (h : tables.sessions.lookup id = some session) (id' : ℕ) :
    (tables.update id f).sessions.lookup id' =
      if id' = id then some (f session) else tables.sessions.lookup id' := by
  rw [update_of_lookup h]
  by_cases hid : id' = id
  · rw [if_pos hid, hid, Finmap.lookup_insert]
  · rw [if_neg hid, Finmap.lookup_insert_of_ne _ hid]

theorem mem_update : id' ∈ (tables.update id f).sessions ↔ id' ∈ tables.sessions := by
  cases h : tables.sessions.lookup id with
  | none =>
    rw [update, h]
  | some session =>
    rw [update_of_lookup h, Finmap.mem_insert, or_iff_right_iff_imp]
    rintro rfl
    exact Finmap.mem_of_lookup_eq_some h

theorem connection_congr (h : tables'.descriptors = tables.descriptors) (fd : Option ℕ) :
    tables'.connection fd = tables.connection fd := by
  rw [connection, connection, h]

theorem connection_update (fd : Option ℕ) :
    (tables.update id f).connection fd = tables.connection fd := connection_congr update_descriptors fd

theorem circuit_update (h : tables.sessions.lookup id = some session) (id' : ℕ) :
    (tables.update id f).circuit id' =
      if id' = id then some (tables.circuitOf (f session)) else tables.circuit id' := by
  have hof : ∀ session, (tables.update id f).circuitOf session = tables.circuitOf session := by
    intro session
    simp only [circuitOf, connection_update]
  rw [circuit, lookup_update h]
  by_cases hid : id' = id
  · simp only [if_pos hid, Option.map_some, hof]
  · simp only [if_neg hid, circuit]
    cases tables.sessions.lookup id' with
    | none => rfl
    | some session' => simp only [Option.map_some, hof]

end SessionTables

end L4lb.Net.Tcp
