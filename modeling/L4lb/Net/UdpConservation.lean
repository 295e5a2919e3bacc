import L4lb.Net.UdpDatagrams

/-!
# No datagram is lost count of

Of a datagram that the UDP reactor takes, the statistics say exactly one thing: that its
bytes and it went on, the way it was going, or that it was dropped. Nothing else is ever
counted so (`udp_datagram_conservation`).

## The argument

`owed` goes through the history and says what is still to be counted. Every step keeps it
defined; every method that takes datagrams leaves nothing owed. A history that owes
nothing is one `Accounted` datagram after another.
-/

namespace L4lb.Net

open Effect Prog Relation

variable {listenEndpoint : Endpoint} {options : UdpReactorOptions} {s s' : UdpReactor}

/-- Every step keeps account. -/
theorem UdpStep.owes (hstep : UdpStep listenEndpoint s s') (h : ∃ o, Owes s o) : ∃ o, Owes s' o := by
  obtain ⟨o, ho⟩ := h
  cases hstep with
  | quiet hlog _ => exact ⟨o, by rwa [Owes, hlog]⟩
  | happened event permitted hlog _ =>
    rcases ho with hthrew | howed
    · refine ⟨.nothing, .inl ?_⟩
      rw [hlog]
      exact hthrew.cons event
    have hnext : ∀ {o'}, o.next event = some o' → ∃ o, Owes s' o := fun h' =>
      ⟨_, Owes.cons (s := s) (.inr howed) hlog h'⟩
    cases event with
    | statistic event =>
      by_cases haccounts : event.kind.accounts
      · obtain ⟨o₁, ho₁, hsettle⟩ := permitted haccounts
        obtain ⟨o₂, ho₂⟩ := Option.isSome_iff_exists.mp hsettle
        exact ⟨o₂, ho₁.cons hlog (by rw [Owed.next, if_pos haccounts, ho₂])⟩
      · exact hnext (if_neg haccounts)
    | received source receipt =>
      have ho₁ : Owes s .nothing := permitted
      exact ⟨_, ho₁.cons hlog (by rw [Owed.next, if_pos rfl])⟩
    | _ => exact hnext rfl
  | inserted flow socket _ _ _ hlog _ => exact ⟨o, ho.cons hlog rfl⟩
  | erased token hlog _ => exact ⟨o, ho.cons hlog rfl⟩

/-- A step adds an event at most. -/
theorem UdpStep.suffix (hstep : UdpStep listenEndpoint s s') {before : List UdpEvent} (h : before <:+ s'.log) :
    before = s'.log ∨ before <:+ s.log := by
  have hcons : ∀ event, s'.log = event :: s.log → before = s'.log ∨ before <:+ s.log := fun event hlog => by
    rw [hlog] at h ⊢
    exact List.suffix_cons_iff.mp h
  cases hstep with
  | quiet hlog _ => exact .inr (hlog ▸ h)
  | happened event _ hlog _ => exact hcons event hlog
  | inserted flow socket _ _ _ hlog _ => exact hcons (.inserted flow socket) hlog
  | erased token hlog _ => exact hcons (.erased token) hlog

/-- Every step keeps account at every moment there was. -/
theorem UdpStep.everOwed (hstep : UdpStep listenEndpoint s s')
    (h : ∀ before, before <:+ s.log → ∃ o, Threw before ∨ owed before = some o) :
    ∀ before, before <:+ s'.log → ∃ o, Threw before ∨ owed before = some o := by
  intro before hbefore
  rcases hstep.suffix hbefore with rfl | hbefore
  · exact hstep.owes (h s.log (List.suffix_refl _))
  · exact h before hbefore

/-- The reactor itself calls no method that it catches all of. -/
theorem UdpStep.caught (hstep : UdpStep listenEndpoint s s') (h : .caught ∉ s.log) : .caught ∉ s'.log := by
  have hcons : ∀ event : UdpEvent, event ≠ .caught → s'.log = event :: s.log → .caught ∉ s'.log := by
    intro event hevent hlog hmem
    rw [hlog] at hmem
    exact (List.mem_cons.mp hmem).elim (fun he => hevent he.symm) h
  cases hstep with
  | quiet hlog _ => rwa [hlog]
  | happened event permitted hlog _ => exact hcons event (fun he => by rwa [he] at permitted) hlog
  | inserted flow socket _ _ _ hlog _ => exact hcons (.inserted flow socket) nofun hlog
  | erased token hlog _ => exact hcons (.erased token) nofun hlog

/-! ### What the statistics say -/

/-- What is taken, and what is counted of datagrams. -/
inductive Account where
  /-- A datagram of so many bytes was taken, going one way. -/
  | taken (direction : Direction) (length : ℕ)
  /-- Something was counted. -/
  | counted (event : StatEvent)
  deriving DecidableEq

/-- What an event says of datagrams. -/
def UdpEvent.account : UdpEvent → Option Account
  | .received source receipt => some (.taken (sourceDirection source) receipt.datagram.length)
  | .statistic event => if event.kind.accounts then some (.counted event) else none
  | _ => none

/-- What a history says of datagrams, oldest first. -/
def accounts (log : List UdpEvent) : List Account := log.reverse.filterMap UdpEvent.account

/-- A datagram of so many bytes, and what became of it. -/
structure Accounted where
  /-- Which way it was going. -/
  direction : Direction
  /-- Its length. -/
  length : ℕ
  /-- It went on. -/
  delivered : Bool

/-- What is said of a datagram, once. -/
def Accounted.entries (datagram : Accounted) : List Account :=
  .taken datagram.direction datagram.length ::
    if datagram.delivered then
      [.counted ⟨datagram.direction.bytes, datagram.length⟩, .counted ⟨datagram.direction.datagram, 1⟩]
    else [.counted ⟨.dropped, 1⟩]

/-- What has been said so far of the datagram that is owed. -/
def Owed.Pending : Owed → List Account → Prop
  | .nothing, pending => pending = []
  | .datagram direction length, pending => pending = [.taken direction length]
  | .bytes direction, pending =>
    ∃ length, pending = [.taken direction length, .counted ⟨direction.bytes, length⟩]

/-- What is pending is the beginning of what is said of one datagram. -/
theorem Owed.Pending.prefix {o : Owed} {pending : List Account} (h : o.Pending pending) :
    ∃ datagram : Accounted, pending <+: datagram.entries := by
  cases o with
  | nothing =>
    obtain rfl := h
    exact ⟨⟨.c2b, 0, false⟩, List.nil_prefix⟩
  | datagram direction length =>
    obtain rfl := h
    exact ⟨⟨direction, length, false⟩, [.counted ⟨.dropped, 1⟩], rfl⟩
  | bytes direction =>
    obtain ⟨length, rfl⟩ := h
    exact ⟨⟨direction, length, true⟩, [.counted ⟨direction.datagram, 1⟩], rfl⟩

/-- An event settles what is pending, or adds to it. -/
theorem Owed.Pending.next {o o' : Owed} {event : UdpEvent} {pending : List Account} (h : o.Pending pending)
    (hcaught : event ≠ .caught) (hnext : o.next event = some o') :
    ∃ (datagrams : List Accounted) (pending' : List Account), o'.Pending pending' ∧
      pending ++ event.account.toList = datagrams.flatMap Accounted.entries ++ pending' := by
  have hsame : o' = o → event.account = none → ∃ (datagrams : List Accounted) (pending' : List Account),
      o'.Pending pending' ∧
        pending ++ event.account.toList = datagrams.flatMap Accounted.entries ++ pending' := by
    rintro rfl haccount
    refine ⟨[], pending, h, ?_⟩
    rw [haccount]
    simp
  cases event with
  | received source receipt =>
    rw [Owed.next] at hnext
    split at hnext
    · rename_i ho
      subst ho
      obtain rfl := h
      obtain rfl := Option.some.inj hnext
      exact ⟨[], _, rfl, rfl⟩
    · cases hnext
  | statistic event =>
    rw [Owed.next] at hnext
    split at hnext
    · rename_i haccounts
      have haccount : (UdpEvent.statistic event).account = some (.counted event) := if_pos haccounts
      rw [haccount]
      cases o with
      | nothing => cases hnext
      | datagram direction length =>
        obtain rfl := h
        rw [Owed.settle] at hnext
        split at hnext
        · rename_i he
          obtain rfl := Option.some.inj hnext
          exact ⟨[], _, ⟨length, rfl⟩, by rw [he]; rfl⟩
        · split at hnext
          · rename_i he
            obtain rfl := Option.some.inj hnext
            exact ⟨[⟨direction, length, false⟩], [], rfl, by rw [he]; rfl⟩
          · cases hnext
      | bytes direction =>
        obtain ⟨length, rfl⟩ := h
        rw [Owed.settle] at hnext
        split at hnext
        · rename_i he
          obtain rfl := Option.some.inj hnext
          exact ⟨[⟨direction, length, true⟩], [], rfl, by rw [he]; rfl⟩
        · cases hnext
    · rename_i haccounts
      exact hsame (Option.some.inj hnext).symm (if_neg haccounts)
  | caught => exact absurd rfl hcaught
  | _ => exact hsame (Option.some.inj hnext).symm rfl

theorem accounts_cons (event : UdpEvent) (log : List UdpEvent) :
    accounts (event :: log) = accounts log ++ event.account.toList := by
  rw [accounts, accounts, List.reverse_cons, List.filterMap_append, List.filterMap_cons]
  cases event.account <;> rfl

/-- A history in order, of one call, is one datagram after another, and then what is pending. -/
theorem accounts_of_owed {log : List UdpEvent} {o : Owed} (hcaught : .caught ∉ log) (h : owed log = some o) :
    ∃ (datagrams : List Accounted) (pending : List Account), o.Pending pending ∧
      accounts log = datagrams.flatMap Accounted.entries ++ pending := by
  induction log generalizing o with
  | nil =>
    obtain rfl := Option.some.inj h
    exact ⟨[], [], rfl, rfl⟩
  | cons event log ih =>
    obtain ⟨o₁, ho₁, hnext⟩ := Option.bind_eq_some_iff.mp h
    obtain ⟨hevent, hcaught⟩ := not_or.mp (mt List.mem_cons.mpr hcaught)
    obtain ⟨datagrams, pending, hpending, haccounts⟩ := ih hcaught ho₁
    obtain ⟨more, pending', hpending', hmore⟩ := hpending.next (Ne.symm hevent) hnext
    refine ⟨datagrams ++ more, pending', hpending', ?_⟩
    rw [accounts_cons, haccounts, List.append_assoc, hmore, List.flatMap_append, List.append_assoc]

/-- What is said of whole datagrams does not end with one being taken. -/
theorem getLast?_entries (datagrams : List Accounted) (direction : Direction) (length : ℕ) :
    (datagrams.flatMap Accounted.entries).getLast? ≠ some (.taken direction length) := by
  rcases List.eq_nil_or_concat datagrams with rfl | ⟨before, datagram, rfl⟩
  · exact nofun
  · rw [List.concat_eq_append, List.flatMap_append, List.flatMap_singleton, List.getLast?_append, Accounted.entries]
    cases datagram.delivered <;> exact nofun

/-- **Every datagram is accounted for once.** At every moment of every run of the reactor at which no statistics,
diagnostic or flow callback has thrown yet, what was taken and what was counted of datagrams is one after another of:

* a datagram taken, its bytes counted, and one datagram counted, both going its way;
* a datagram taken, and one dropped;

followed, where the run is still going on, by the beginning of one of these. A run that has returned has nothing
more to count, and neither has one that has thrown, unless it lost its last datagram: the flow of its key had
expired, and the observation callback threw as it was closed. -/
theorem udp_datagram_conservation (listenEndpoint : Endpoint) (options : UdpReactorOptions)
    (script : List (Answerer UdpCall UdpAnswer)) :
    let r := runUdpReactor listenEndpoint options ⟨script, {}⟩
    ∀ log, log <:+ r.2.state.log → Threw log ∨ ∃ (datagrams : List Accounted) (pending : List Account),
      accounts log = datagrams.flatMap Accounted.entries ++ pending ∧
        (∃ datagram : Accounted, pending <+: datagram.entries) ∧
        (log = r.2.state.log →
          (∀ result, r.1 = .ok result → pending = []) ∧
            ∀ e, r.1 = .thrown e → pending = [] ∨
              (∃ length, pending = [.taken .c2b length]) ∧ Forfeited listenEndpoint options log) := by
  intro r log hlog
  by_cases hthrew : Threw log
  · exact .inl hthrew
  have hblank : Blank {} := ⟨rfl, rfl, rfl, rfl, fun _ _ _ => nofun⟩
  have hruns : Runs (UdpStep listenEndpoint) (fun _ => Failed listenEndpoint options)
      (runUdpReactor listenEndpoint options) {} fun _ => Finished := runs_runUdpReactor hblank
  have hall : ∀ before, before <:+ r.2.state.log → ∃ o, Threw before ∨ owed before = some o :=
    hruns.invariant (I := fun s => ∀ before, before <:+ s.log → ∃ o, Threw before ∨ owed before = some o)
      (fun before hbefore => ⟨.nothing, .inr (by rw [List.suffix_nil.mp hbefore]; rfl)⟩)
      (fun _ _ hstep h => hstep.everOwed h) script
  have hcaught : .caught ∉ r.2.state.log := hruns.invariant (I := fun s => .caught ∉ s.log) List.not_mem_nil
    (fun _ _ hstep h => hstep.caught h) script
  obtain ⟨o, ho⟩ := hall log hlog
  have howed : owed log = some o := ho.resolve_left hthrew
  obtain ⟨datagrams, pending, hpending, haccounts⟩ := accounts_of_owed (fun hmem => hcaught (hlog.mem hmem)) howed
  refine .inr ⟨datagrams, pending, haccounts, hpending.prefix, ?_⟩
  rintro rfl
  have hsame : ∀ {o'}, Owes r.2.state o' → o'.Pending pending := by
    intro o' ho'
    obtain rfl := Option.some.inj (howed.symm.trans (ho'.resolve_left hthrew))
    exact hpending
  have hmeets := (hruns script).2
  refine ⟨fun result hr => ?_, fun e hr => ?_⟩
  · rw [show (runUdpReactor listenEndpoint options ⟨script, {}⟩).1 = .ok result from hr] at hmeets
    exact hsame hmeets.1
  · rw [show (runUdpReactor listenEndpoint options ⟨script, {}⟩).1 = .thrown e from hr] at hmeets
    rcases hmeets.1 with hnothing | ⟨⟨length, hlost⟩, hforfeited⟩
    · exact .inl (hsame hnothing)
    · exact .inr ⟨⟨length, hsame hlost⟩, hforfeited⟩

/-- The observation callback throws when it is told of a flow that is idle. -/
def throwsIdle : UdpEvent → Option ℕ
  | .observation kind _ _ _ _ => if kind = "idle-timeout" then some 1 else none
  | _ => none

/-- An answer to a call of a run, by its place: a client sends the same byte again and again, each reading of the
clock is a minute after the one before, and the callbacks are `throwsIdle`. -/
def idleThrowAnswer (place : ℕ) : Answerer UdpCall UdpAnswer
  | .now => Time.milliseconds 60000
  | .notify event => throwsIdle event
  | .ready => none
  | .maintenance => none
  | .selectBackend => .ok (some ⟨.replicate 4 10, 53⟩)
  | .sigprocmask => .ok ()
  | .openDescriptor => .ok place
  | .setsockopt _ => .ok ()
  | .bind _ => .ok ()
  | .connect _ _ => .ok ()
  | .setupEpoll _ => 0
  | .allocate => true
  | .epollAdd _ _ => .ok ()
  | .epollDel _ => .ok ()
  | .epollWait => .ok [(1, EPOLLIN)]
  | .readSignal => .error .EAGAIN
  | .recvmsg _ _ => .ok {
      datagram := [7]
      sender := ⟨.replicate 4 11, 4000⟩
      control := [⟨true, true, .replicate 4 12, .replicate 4 12⟩] }
  | .sendmsg _ message => .ok message.payload.length
  | .socketError _ => .ok 0
  | .rank => id

/-- The second datagram is taken, and then neither counted nor dropped: the flow of the first has expired, and
what the observation callback throws passes the `catch` that would have counted it. -/
theorem not_every_datagram_counted : ¬ ∀ listenEndpoint options script,
    let r := runUdpReactor listenEndpoint options ⟨script, {}⟩
    Threw r.2.state.log ∨ ∃ (datagrams : List Accounted) (pending : List Account),
      accounts r.2.state.log = datagrams.flatMap Accounted.entries ++ pending ∧
        (∃ datagram : Accounted, pending <+: datagram.entries) ∧ (r.1 ≠ .cut → pending = []) := by
  intro h
  let r := runUdpReactor ⟨.replicate 4 12, 53⟩ {} ⟨(List.range 53).map idleThrowAnswer, {}⟩
  have hrun : r.1 = .thrown (.callback 1) ∧ ¬ Threw r.2.state.log ∧ accounts r.2.state.log =
      [.taken .c2b 1, .counted ⟨.bytesC2b, 1⟩, .counted ⟨.datagramC2b, 1⟩, .taken .c2b 1] := by decide +kernel
  obtain ⟨hthrown, hnot, haccounts⟩ := hrun
  obtain ⟨datagrams, pending, hentries, -, hend⟩ := (h _ _ _).resolve_left hnot
  rw [hend (by rw [show (runUdpReactor _ _ _).1 = _ from hthrown]; nofun), List.append_nil] at hentries
  refine getLast?_entries datagrams .c2b 1 ?_
  rw [← hentries, show accounts (runUdpReactor _ _ _).2.state.log = _ from haccounts]
  rfl

end L4lb.Net
