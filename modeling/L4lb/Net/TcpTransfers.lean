import L4lb.Net.TcpVisits

/-!
# Bytes in and out

What `writeBufferedDirection` and `readSessionDirection` do to a session: queues are sent
from and received into, each within a budget. Unless the service is stopping, a side stays
paused only while its queue holds enough (`Easy`).
-/

namespace L4lb.Net.Tcp

open Effect Prog

variable {options : TcpReactorOptions} {scene : Scene} {s s' : TcpReactor} {session : Session} {source : Side}

/-- Unless the service is stopping, sides are paused only while enough is queued; but for the
side that is being dealt with. -/
def Easy (exempt : Option Side) (session : Session) (draining : Bool) : Prop :=
  draining = false → ∀ side, some side ≠ exempt → (session.ends side).paused = true →
    kLowWater < (session.pending side).size

theorem Easy.weaken {draining draining' : Bool} (h : Easy none session draining)
    (hdraining : draining' = false → draining = false) (exempt : Option Side) : Easy exempt session draining' :=
  fun hrunning side _ => h (hdraining hrunning) side nofun

theorem Easy.back {exempt : Option Side} {draining draining' : Bool} (h : Easy exempt session draining)
    (hdraining : draining' = false → draining = false) : Easy exempt session draining' :=
  fun hrunning => h (hdraining hrunning)

variable (options scene) in
/-- In the turn of a session that is connected. -/
structure Working (exempt : Option Side) (session : Session) (s : TcpReactor) : Prop
    extends Within options scene session s where
  /-- It is connected. -/
  connected : session.connecting = false
  /-- Its sides are paused for a reason. -/
  easy : Easy exempt session s.stop.draining

variable {exempt : Option Side}

/-- A report of no consequence. -/
theorem Working.report (h : Working options scene exempt session s) (kind : String) (id : ℕ) (side : Option Side)
    (value : ℤ) : Serves options (reportObservation kind id side value) s (Fails options scene) fun _ s' =>
      Working options scene exempt session s' ∧ Alike s s' := by
  apply (h.toWithin.report kind id side value).post
  rintro - s' - ⟨h', ha⟩
  exact ⟨⟨h', h.connected, by rw [ha.stop]; exact h.easy⟩, ha⟩

/-- The stop signals are consumed. -/
theorem Working.consume (h : Working options scene exempt session s) :
    Serves options (consumeStopSignals options) s (Fails options scene) fun result s' =>
      Working options scene exempt session s' ∧ (s'.stop.draining = false → s.stop.draining = false) ∧
        (result = false → s'.stop.draining = false) := by
  apply h.toWithin.consume.post
  rintro result s' - ⟨h', hback, hresult⟩
  exact ⟨⟨h', h.connected, h.easy.back hback⟩, hback, hresult⟩

/-- Bytes went in or out. -/
theorem Working.recordIoProgress (h : Working options scene exempt session s) (bytes : ℕ) :
    Serves options (recordIoProgress scene.id bytes) s (Fails options scene) fun _ s' =>
      (∃ session', Working options scene exempt session' s' ∧ session'.ends = session.ends ∧
        session'.pending = session.pending) ∧ s'.stop = s.stop := by
  apply Runs.bind h.toWithin.time
  rintro time s₁ - ⟨h₁, ha₁, -⟩
  have hstill : Still fun session => { session with deadline := session.deadline.recordIoProgress time bytes } :=
    ⟨⟨fun _ => rfl, fun _ _ => rfl, fun _ _ => rfl⟩, fun _ _ => rfl, fun _ _ => rfl⟩
  have hharmless : Harmless fun session =>
      { session with deadline := session.deadline.recordIoProgress time bytes } :=
    ⟨fun _ _ => rfl, fun _ => rfl, fun _ => rfl, fun _ _ => rfl, fun _ _ => rfl⟩
  apply (h₁.update hstill hharmless (Orderly.of_eq (fun _ => rfl) fun _ => rfl)).post
  rintro - s₂ - ⟨h₂, hstop₂⟩
  refine ⟨⟨_, ⟨h₂, h.connected, ?_⟩, rfl, rfl⟩, by rw [hstop₂, ha₁.stop]⟩
  rw [hstop₂, ha₁.stop]
  exact h.easy

/-! ### Sending -/

/-- A session of which some bytes were sent and are still to be counted. -/
structure Owing (options : TcpReactorOptions) (scene : Scene) (source : Side) (bytes : Bytes) (session : Session)
    (s : TcpReactor) : Prop extends Sane options s where
  /-- The session is there. -/
  here : s.tables.sessions.lookup scene.id = some session
  /-- The others are as they were. -/
  others : ∀ id ≠ scene.id, s.tables.sessions.lookup id = scene.others id
  /-- The stop is not taken back. -/
  running : s.stop.draining = false → scene.running = true
  /-- What is known of the listener is kept. -/
  kept : scene.Keeps s
  /-- It is connected. -/
  connected : session.connecting = false
  /-- Its sides are paused for a reason. -/
  easy : Easy (some source) session s.stop.draining
  /-- There are some. -/
  ne : bytes ≠ []
  /-- They are at the front of the queue. -/
  front : bytes <+: (session.pending source).content
  /-- It is they that are to be counted. -/
  owed : ∃ c, s.tables.connection (session.ends source.other).fd = some c ∧
    (hear s.log (some c)).uncounted = bytes ∧ ∀ c', c' ≠ c → (hear s.log (some c')).uncounted = []

theorem Owing.alike {bytes : Bytes} (h : Owing options scene source bytes session s) (ha : Alike s s')
    (hs : Sane options s') : Owing options scene source bytes session s' where
  toSane := hs
  here := by rw [ha.tables, h.here]
  others := by rw [ha.tables]; exact h.others
  running := by rw [ha.stop]; exact h.running
  kept := h.kept.onward ha.listenerDeferred (by rw [ha.stop]; exact id) ha.log
  connected := h.connected
  easy := by rw [ha.stop]; exact h.easy
  ne := h.ne
  front := h.front
  owed := by
    obtain ⟨c, hc, hbytes, hothers⟩ := h.owed
    exact ⟨c, by rw [ha.tables, hc], by rw [ha.heard, hbytes], fun c' hne => by rw [ha.heard, hothers c' hne]⟩

/-- What a callback threw leaves the session as it is. -/
theorem Within.answered (h : Within options scene session s) (event : TcpEvent) :
    Serves options (askTcp (.notify event) >>= fun
        | none => pure ()
        | some exception => do
          modify (·.record .callbackThrew)
          raise (.callback exception)) s (Fails options scene) fun _ s' => s' = s := by
  apply Runs.call_bind
  intro answer
  cases answer with
  | none => exact Runs.pure rfl
  | some exception =>
    have hthrown : Sane options (s.record .callbackThrew) := h.toSane.record trivial trivial rfl
    apply Runs.modify_bind (.single fun _ => hthrown.sound)
    exact Runs.raise (fails_of_callback hthrown h.others ⟨exception, rfl⟩)

/-- **What was sent is accounted for**: it leaves the queue, and is counted. -/
theorem Owing.accountSent {bytes : Bytes} (h : Owing options scene source bytes session s) :
    Serves options (accountSent scene.id source bytes.length) s (Fails options scene) fun _ s' =>
      ∃ session', Working options scene (some source) session' s' := by
  obtain ⟨c, hc, hbytes, hothers⟩ := h.owed
  have hle : bytes.length ≤ (session.pending source).size := by
    rw [← TcpPendingBuffer.length_content]
    exact h.front.length_le
  obtain ⟨buffer, hconsume, hbuffer⟩ := TcpPendingBuffer.content_consume hle
  have hpending : (hear s.log (some c)).uncounted ≠ [] := by
    rw [hbytes]
    exact h.ne
  have hcounted := h.sound.counted h.due h.here h.connected hc hpending hothers (congrArg List.length hbytes).symm hbuffer
  have hkind : countsBytes (bytesKind source) := by cases source <;> simp [countsBytes, bytesKind]
  apply serves_sessionAt_bind h.here
  rw [hconsume]
  unfold updateSession modifyTables reportStatEvent Tcp.notify
  apply Runs.modify_modify
  apply Runs.modify_bind (.single fun _ => hcounted)
  have hworking : Working options scene (some source) { session with
      pending := Function.update session.pending source buffer
      sent := Function.update session.sent source (session.sent source + bytes.length) } { s with
        log := .statistic ⟨bytesKind source, bytes.length⟩ :: s.log
        tables := s.tables.update scene.id fun session => { session with
          pending := Function.update session.pending source buffer
          sent := Function.update session.sent source (session.sent source + bytes.length) } } := by
    refine ⟨h.toSteady.changed h.here h.others h.running h.kept (f := fun session => { session with
      pending := Function.update session.pending source buffer
      sent := Function.update session.sent source (session.sent source + bytes.length) })
      ⟨⟨fun _ => rfl, fun _ _ => rfl, fun _ _ => rfl⟩, fun _ _ => rfl, fun _ _ => rfl⟩ hcounted rfl
      (List.suffix_cons _ _) ?_ ?_ rfl rfl rfl, h.connected, ?_⟩
    · rw [due_cons h.due]
      cases source <;> rfl
    · intro c'
      rw [hear_cons]
      by_cases hne : c' = c
      · subst hne
        exact congrArg Heard.uncounted (if_pos ⟨hkind, hpending⟩)
      · rw [show (hear s.log (some c')).after c' (.statistic ⟨bytesKind source, bytes.length⟩) = hear s.log (some c') from
          if_neg fun hcounts => hcounts.2 (hothers c' hne)]
        exact hothers c' hne
    · intro hrunning side hside
      show _ → kLowWater < (Function.update session.pending source buffer side).size
      rw [Function.update_of_ne fun heq => hside (congrArg some heq)]
      exact h.easy hrunning side hside
  apply (hworking.toWithin.answered _).post
  rintro - s' - rfl
  exact ⟨_, hworking⟩

/-- A call may be made, and is on record. -/
theorem Working.attempt (h : Working options scene exempt session s) (what : TcpAttempt) (connection : Option Connection)
    (ha : what.Allowed s.log connection) (hstart : what ≠ .select) :
    Working options scene exempt session (s.record (.attempted what connection)) := by
  have hdue : Due.start (.attempted what connection) = some .nothing := by
    cases what <;> first | rfl | exact absurd rfl hstart
  have hsane : Sane options (s.record (.attempted what connection)) :=
    h.toSane.record trivial ⟨h.counted, ha⟩ hdue
  exact ⟨h.toWithin.alike (.record trivial) hsane, h.connected, h.easy⟩

/-- Bytes from the front of a queue were sent. -/
theorem Working.sent (h : Working options scene (some source) session s) (hgoing : s.stop.stopRequested = false)
    {bytes : Bytes} (hbytes : bytes <+: (session.pending source).content) (hne : bytes ≠ []) :
    Owing options scene source bytes session
      (s.record (.sent (s.tables.connection (session.ends source.other).fd) bytes)) := by
  obtain ⟨c, -, hc, -⟩ := h.sound.joined h.here h.connected source.other
  have hdue : due (.sent (s.tables.connection (session.ends source.other).fd) bytes :: s.log) = some .nothing := by
    rw [due_cons h.due]
    rfl
  have hsound := h.sound.sent h.due h.counted hgoing h.here h.connected hbytes hne
  refine ⟨⟨⟨hsound, h.listener, h.listening, ?_⟩, hdue⟩, h.here, h.others, h.running,
    h.kept.onward rfl id (List.suffix_cons _ _), h.connected, h.easy, hne, hbytes, c, hc, ?_, ?_⟩
  · exact h.tracked.imp (fun ⟨error, hmem⟩ => ⟨error, List.mem_cons_of_mem _ hmem⟩) fun htracked =>
      ⟨htracked.registered, htracked.unopened, htracked.listener, htracked.opened, htracked.alone⟩
  · rw [hc]
    exact congrArg Heard.uncounted (if_pos rfl)
  · intro c' hother
    rw [hc]
    exact (congrArg Heard.uncounted (if_neg fun heq => hother (Option.some.inj heq).symm)).trans (h.counted c')

/-- **A queue is sent from.** -/
theorem Working.sendBuffered (h : Working options scene (some source) session s) (hgoing : s.stop.stopRequested = false)
    (hsize : (session.pending source).size ≠ 0) (budget : ℕ) :
    Serves options (sendBuffered scene.id source budget) s (Fails options scene) fun _ s' =>
      ∃ session', Working options scene (some source) session' s' := by
  have hqueue : (session.pending source).content ≠ [] := mt TcpPendingBuffer.content_eq_nil.mp hsize
  have hattempted := h.attempt .send _ (h.sound.send_allowed hgoing h.here h.connected hqueue) nofun
  apply serves_sessionAt_bind h.here
  apply Runs.modify_bind (.single fun _ => hattempted.sound)
  apply Runs.call_bind
  intro answer
  cases answer with
  | error error =>
    apply Runs.ite
    · exact fun _ => Runs.pure ⟨session, hattempted⟩
    · intro _
      apply Runs.ite
      · intro _
        apply Runs.bind (hattempted.report _ _ _ _)
        rintro - s₂ - ⟨h₂, -⟩
        exact Runs.pure ⟨session, h₂⟩
      · exact fun _ => Runs.raise (hattempted.toWithin.fails (by simp [reserved]))
  | ok sentBytes =>
    obtain ⟨sentBytes, hlimit⟩ := sentBytes
    apply Runs.ite
    · exact fun _ => Runs.raise (hattempted.toWithin.fails (by simp [reserved]))
    · intro hsome
      set size := min (session.pending source).readableBytes budget with hmin
      have hlength : ((session.pending source).data size).length = size := by simp [TcpPendingBuffer.data]
      have hle : sentBytes ≤ size := by
        rw [hlength] at hlimit
        exact Nat.lt_succ_iff.mp hlimit
      have hdata : (session.pending source).data size = (session.pending source).content.take size :=
        TcpPendingBuffer.data_eq_take (min_le_left _ _)
      have hprefix : ((session.pending source).data size).take sentBytes <+: (session.pending source).content := by
        rw [hdata]
        exact (List.take_prefix _ _).trans (List.take_prefix _ _)
      have htaken : (((session.pending source).data size).take sentBytes).length = sentBytes := by
        rw [List.length_take, hlength]
        exact min_eq_left hle
      have hne : ((session.pending source).data size).take sentBytes ≠ [] := by
        intro hempty
        rw [hempty] at htaken
        exact hsome htaken.symm
      have howing := hattempted.sent hgoing hprefix hne
      apply Runs.modify_bind (.single fun _ => howing.sound)
      apply Runs.bind (Q := fun _ s' => Owing options scene source (((session.pending source).data size).take sentBytes)
        session s')
      · apply Runs.when
        · intro _
          apply (serves_reportObservation howing.toSane _ _ _ _).mono
          · exact fun e s' _ he => fails_of_callback he.1 (howing.alike he.2.1 he.1).others he.2.2
          · exact fun _ s' _ hq => howing.alike hq.2 hq.1
        · exact fun _ => howing
      · intro _ s₂ _ howing₂
        have haccount := howing₂.accountSent
        rw [htaken] at haccount
        apply Runs.bind haccount
        rintro - s₃ - ⟨session₃, h₃⟩
        apply Runs.bind (h₃.recordIoProgress sentBytes)
        rintro - s₄ - ⟨⟨session₄, h₄, -⟩, -⟩
        exact Runs.pure ⟨session₄, h₄⟩

/-- A pass of the loop. -/
theorem Working.writePass (h : Working options scene (some source) session s) (budget : ℕ) :
    Serves options (writePass options scene.id source budget) s (Fails options scene) fun _ s' =>
      ∃ session', Working options scene (some source) session' s' := by
  apply serves_sessionAt_bind h.here
  apply Runs.ite
  · exact fun _ => Runs.pure ⟨session, h⟩
  · intro hmore
    rw [not_or] at hmore
    apply Runs.bind h.consume
    rintro - s₁ - ⟨h₁, -⟩
    apply Runs.gets_bind
    apply Runs.ite
    · exact fun _ => Runs.pure ⟨session, h₁⟩
    · intro hgoing
      apply Runs.bind (h₁.sendBuffered (Bool.eq_false_of_not_eq_true hgoing) hmore.1 budget)
      intro result s₂ _ h₂
      cases result with
      | none => exact Runs.pure h₂
      | some _ => exact Runs.pure h₂

/-- A side is no longer paused when little is queued. -/
theorem Working.resume (h : Working options scene (some source) session s)
    (hresume : s.stop.draining = false → (session.ends source).paused = true →
      kLowWater < (session.pending source).size) : Working options scene none session s := by
  refine ⟨h.toWithin, h.connected, fun hrunning side _ hpaused => ?_⟩
  by_cases hside : side = source
  · subst hside
    exact hresume hrunning hpaused
  · exact h.easy hrunning side (fun heq => hside (Option.some.inj heq)) hpaused

/-- **`writeBufferedDirection`.** -/
theorem Working.writeBufferedDirection (h : Working options scene none session s) (source : Side) (budget : ℕ) :
    Serves options (writeBufferedDirection options scene.id source budget) s (Fails options scene) fun _ s' =>
      ∃ session', Working options scene none session' s' := by
  apply Runs.bind (Runs.loop (Q := fun _ s' => ∃ session', Working options scene (some source) session' s')
    (fun _ s' => ∃ session', Working options scene (some source) session' s') ?_ ⟨session, h.toWithin, h.connected,
      h.easy.weaken id _⟩)
  · rintro left s₁ - ⟨session₁, h₁⟩
    apply serves_sessionAt_bind h₁.here
    apply Runs.gets_bind
    apply Runs.bind (Q := fun _ s' => ∃ session', Working options scene none session' s')
    · apply Runs.when
      · rintro ⟨-, -, hlow⟩
        have hstill : Still (·.setEnd source fun endpoint => { endpoint with paused := false }) :=
          Still.setEnd (fun _ => rfl) (fun _ => rfl) (fun _ => rfl) fun _ => rfl
        have hharmless : Harmless (·.setEnd source fun endpoint => { endpoint with paused := false }) :=
          Harmless.setEnd (fun _ => rfl) (fun _ => rfl) fun _ => rfl
        apply Runs.bind (h₁.toWithin.update hstill hharmless (Orderly.of_eq (fun _ => rfl) fun _ => rfl))
        rintro - s₂ - ⟨h₂, hstop₂⟩
        have hworking : Working options scene none
            (session₁.setEnd source fun endpoint => { endpoint with paused := false }) s₂ := by
          refine ⟨h₂, h₁.connected, fun hrunning side _ hpaused => ?_⟩
          rw [Session.setEnd_ends] at hpaused
          by_cases hside : side = source
          · rw [hside, Function.update_self] at hpaused
            cases hpaused
          · rw [Function.update_of_ne hside] at hpaused
            rw [hstop₂] at hrunning
            exact h₁.easy hrunning side (fun heq => hside (Option.some.inj heq)) hpaused
        apply (hworking.report _ _ _ _).post
        exact fun _ s₃ _ h₃ => ⟨_, h₃.1⟩
      · intro hnot
        refine ⟨session₁, h₁.resume fun hrunning hpaused => ?_⟩
        exact not_le.mp fun hlow => hnot ⟨hrunning, hpaused, hlow⟩
    · exact fun _ s₂ _ h₂ => Runs.pure h₂
  · rintro left s₁ ⟨session₁, h₁⟩
    apply (h₁.writePass left).post
    intro result s₂ _ h₂
    cases result with
    | inl _ => exact h₂
    | inr _ => exact h₂

/-! ### Receiving -/

/-- **What was received joins the queue.** -/
theorem Working.storeReceived (h : Working options scene none session s) (hrunning : s.stop.draining = false)
    (hmore : (session.ends source).eof = false) (hpaused : (session.ends source).paused = false) {bytes : Bytes}
    (hfits : bytes.length ≤ (session.pending source).writableBytes) :
    Serves options (storeReceived scene.id source bytes) s (Fails options scene) fun _ s' =>
      ∃ session', Working options scene none session' s' := by
  obtain ⟨buffer, hcommit, hbuffer⟩ := TcpPendingBuffer.content_commit hfits
  have hgrown : (session.pending source).size ≤ buffer.size := by
    rw [← TcpPendingBuffer.length_content, ← TcpPendingBuffer.length_content, hbuffer, List.length_append]
    exact Nat.le_add_right _ _
  have hsound := h.sound.received h.due hrunning h.here h.connected hmore hbuffer
  set received : Session → Session := fun session => { session with
    pending := Function.update session.pending source buffer } with hf
  have hworking : Working options scene none (received session) { s with
      log := .received (s.tables.connection (session.ends source).fd) bytes :: s.log
      tables := s.tables.update scene.id received } := by
    refine ⟨h.toWithin.changed (f := received)
      ⟨⟨fun _ => rfl, fun _ _ => rfl, fun _ _ => rfl⟩, fun _ _ => rfl, fun _ _ => rfl⟩ hsound rfl
      (List.suffix_cons _ _) ?_ ?_ rfl rfl rfl, h.connected, ?_⟩
    · rw [due_cons h.due]
      rfl
    · intro c
      rw [hear_cons, Heard.after]
      split
      · exact h.counted c
      · exact h.counted c
    · intro hdraining side _ hside
      have heasy := h.easy hdraining side (by simp) hside
      show _ < (Function.update session.pending source buffer side).size
      by_cases hsource : side = source
      · subst hsource
        rw [Function.update_self]
        omega
      · rwa [Function.update_of_ne hsource]
  unfold Tcp.storeReceived updateSession modifyTables
  apply serves_sessionAt_bind h.here
  rw [hcommit]
  dsimp only
  apply Runs.modify_modify
  apply Runs.modify_bind (.single fun _ => hsound)
  apply Runs.bind (hworking.recordIoProgress _)
  rintro - s₁ - ⟨⟨session₁, h₁, hends₁, hpending₁⟩, -⟩
  apply Runs.bind (h₁.report _ _ _ _)
  rintro - s₂ - ⟨h₂, -⟩
  apply Runs.when
  · intro hfull
    have hstill : Still (·.setEnd source fun endpoint => { endpoint with paused := true }) :=
      Still.setEnd (fun _ => rfl) (fun _ => rfl) (fun _ => rfl) fun _ => rfl
    have hharmless : Harmless (·.setEnd source fun endpoint => { endpoint with paused := true }) :=
      Harmless.setEnd (fun _ => rfl) (fun _ => rfl) fun _ => rfl
    apply Runs.bind (h₂.toWithin.update hstill hharmless (Orderly.of_eq (fun _ => rfl) fun _ => rfl))
    rintro - s₃ - ⟨h₃, hstop₃⟩
    have hpause : Working options scene none (session₁.setEnd source fun endpoint => { endpoint with paused := true })
        s₃ := by
      refine ⟨h₃, h₁.connected, fun hdraining side _ hside => ?_⟩
      by_cases hsource : side = source
      · subst hsource
        show _ < (session₁.pending side).size
        rw [hpending₁]
        show _ < (Function.update session.pending side buffer side).size
        rw [Function.update_self, hfull]
        decide
      · rw [Session.setEnd_ends, Function.update_of_ne hsource] at hside
        rw [hstop₃] at hdraining
        exact h₂.easy hdraining side (by simp) hside
    apply (hpause.report _ _ _ _).post
    exact fun _ s₄ _ h₄ => ⟨_, h₄.1⟩
  · exact fun _ => ⟨session₁, h₂⟩

/-- A side has ended. -/
theorem Working.endReceiving (h : Working options scene none session s) (hrunning : s.stop.draining = false)
    (hmore : (session.ends source).eof = false) :
    Serves options (endReceiving scene.id source) s (Fails options scene) fun _ s' =>
      ∃ session', Working options scene none session' s' := by
  have hsound := h.sound.ended h.due hrunning h.here h.connected hmore
  have hstill : Still (·.setEnd source fun endpoint => { endpoint with eof := true }) :=
    Still.setEnd (fun _ => rfl) (fun _ => rfl) (fun _ => rfl) fun _ => rfl
  unfold Tcp.endReceiving updateSession modifyTables
  apply serves_sessionAt_bind h.here
  show Serves options (Prog.modify fun s => { s with
    log := .ended (s.tables.connection (session.ends source).fd) :: s.log
    tables := s.tables.update scene.id (·.setEnd source fun endpoint => { endpoint with eof := true }) }) s _ _
  apply Runs.modify (.single fun _ => hsound)
  refine ⟨_, h.toWithin.changed hstill hsound rfl (List.suffix_cons _ _) ?_ ?_ rfl rfl rfl, h.connected, ?_⟩
  · rw [due_cons h.due]
    rfl
  · intro c
    rw [hear_cons, Heard.after]
    split
    · exact h.counted c
    · exact h.counted c
  · intro hdraining side hside hpaused
    have hsame : ((session.setEnd source fun endpoint => { endpoint with eof := true }).ends side).paused =
        (session.ends side).paused := by
      apply setEnd_field (·.paused)
      intro endpoint
      rfl
    exact h.easy hdraining side hside (hsame ▸ hpaused)

/-- **A side is received from.** -/
theorem Working.receiveBuffered (h : Working options scene none session s) (hrunning : s.stop.draining = false)
    (hmore : (session.ends source).eof = false) (hpaused : (session.ends source).paused = false) (budget : ℕ) :
    Serves options (receiveBuffered scene.id source budget) s (Fails options scene) fun _ s' =>
      ∃ session', Working options scene none session' s' := by
  have hattempted := h.attempt .receive _ (h.sound.receive_allowed hrunning h.here h.connected hmore) nofun
  apply serves_sessionAt_bind h.here
  apply Runs.ite
  · exact fun _ => Runs.pure ⟨session, h⟩
  · intro _
    apply Runs.modify_bind (.single fun _ => hattempted.sound)
    apply Runs.call_bind
    intro answer
    cases answer with
    | error error =>
      apply Runs.ite
      · exact fun _ => Runs.pure ⟨session, hattempted⟩
      · intro _
        apply Runs.ite
        · exact fun _ => Runs.pure ⟨session, hattempted⟩
        · exact fun _ => Runs.raise (hattempted.toWithin.fails (by simp [reserved]))
    | ok received =>
      apply Runs.ite
      · intro _
        apply Runs.bind (hattempted.endReceiving hrunning hmore)
        rintro - s₂ - ⟨session₂, h₂⟩
        apply Runs.bind (h₂.report _ _ _ _)
        rintro - s₃ - ⟨h₃, -⟩
        exact Runs.pure ⟨session₂, h₃⟩
      · intro _
        have hfits := received.property.trans (min_le_left _ _)
        apply Runs.bind (hattempted.storeReceived hrunning hmore hpaused hfits)
        exact fun _ s₂ _ h₂ => Runs.pure h₂

/-- A pass of the loop. -/
theorem Working.readPass (h : Working options scene none session s) (budget : ℕ) :
    Serves options (readPass options scene.id source budget) s (Fails options scene) fun _ s' =>
      ∃ session', Working options scene none session' s' := by
  apply serves_sessionAt_bind h.here
  apply Runs.ite
  · exact fun _ => Runs.pure ⟨session, h⟩
  · intro hmore
    rw [not_or, not_or, Bool.not_eq_true, Bool.not_eq_true] at hmore
    apply Runs.bind h.consume
    rintro result s₁ - ⟨h₁, -, hresult⟩
    apply Runs.ite
    · exact fun _ => Runs.pure ⟨session, h₁⟩
    · intro hnot
      apply Runs.bind (h₁.receiveBuffered (hresult (Bool.eq_false_of_not_eq_true hnot)) hmore.1 hmore.2.1 budget)
      intro result s₂ _ h₂
      cases result with
      | none => exact Runs.pure h₂
      | some _ => exact Runs.pure h₂

/-- **`readSessionDirection`.** -/
theorem Working.readSessionDirection (h : Working options scene none session s) (source : Side) :
    Serves options (readSessionDirection options scene.id source) s (Fails options scene) fun _ s' =>
      ∃ session', Working options scene none session' s' := by
  apply Runs.loop (fun _ s' => ∃ session', Working options scene none session' s') ?_ ⟨session, h⟩
  rintro left s₁ ⟨session₁, h₁⟩
  apply (h₁.readPass left).post
  intro result s₂ _ h₂
  cases result with
  | inl _ => exact h₂
  | inr _ => exact h₂

end L4lb.Net.Tcp
