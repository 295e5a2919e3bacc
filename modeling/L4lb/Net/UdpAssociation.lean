import L4lb.Net.UdpFlowTable

/-!
# A datagram goes where its flow says

Whatever is handed to a socket is the whole of the datagram taken last, and goes between
the client and the backend of one flow; a flow keeps its key, its backend and its socket
for as long as it is there (`udp_association`).

## The argument

The flows that are there can be read off the history (`liveAssociation`), and the tables
say the same (`Linked`): every step keeps that, since the only steps that change what a
flow connects are those that put it in and take it out. What is handed over is
`Justified` by the tables, and so by the history.
-/

namespace L4lb.Net

open Effect Prog Relation

variable {listenEndpoint : Endpoint} {options : UdpReactorOptions} {s s' : UdpReactor}

/-- The flow with a token, by the history: the last that came with it, if it has not gone. -/
def liveAssociation : List UdpEvent → ℕ → Option Association
  | [], _ => none
  | .inserted flow socket :: log, token =>
    if token = flow.token then some ⟨flow.key, flow.backend, socket⟩ else liveAssociation log token
  | .erased gone :: log, token => if token = gone then none else liveAssociation log token
  | _ :: log, token => liveAssociation log token

/-- No two flows have the same key, or the same socket. -/
def Apart (flows : ℕ → Option Association) : Prop :=
  ∀ token token' association association', flows token = some association →
    flows token' = some association' →
      association.key = association'.key ∨ association.socket = association'.socket → token = token'

/-- What holds of a history at each of its points. -/
structure Associated (listenEndpoint : Endpoint) (log : List UdpEvent) : Prop where
  /-- What was handed over was justified. -/
  handed : ∀ via message before, .handed via message :: before <:+ log →
    Justified listenEndpoint before (liveAssociation before) via message
  /-- No two flows had the same key, or the same socket, at once. -/
  apart : ∀ before, before <:+ log → Apart (liveAssociation before)

/-- The tables say what the history says. -/
structure Linked (listenEndpoint : Endpoint) (s : UdpReactor) : Prop where
  /-- Of the flows. -/
  flows : ∀ token, s.tables.association token = liveAssociation s.log token
  /-- The history is in order. -/
  history : Associated listenEndpoint s.log

theorem Associated.cons {log : List UdpEvent} {event : UdpEvent} (h : Associated listenEndpoint log)
    (hhanded : ∀ via message, event = .handed via message →
      Justified listenEndpoint log (liveAssociation log) via message)
    (hapart : Apart (liveAssociation (event :: log))) : Associated listenEndpoint (event :: log) := by
  refine ⟨fun via message before hsuffix => ?_, fun before hsuffix => ?_⟩
  · rcases List.suffix_cons_iff.mp hsuffix with he | hsuffix
    · obtain ⟨rfl, rfl⟩ := List.cons.inj he
      exact hhanded via message rfl
    · exact h.handed via message before hsuffix
  · rcases List.suffix_cons_iff.mp hsuffix with rfl | hsuffix
    · exact hapart
    · exact h.apart before hsuffix

theorem Linked.step (h : Linked listenEndpoint s) (hstep : UdpStep listenEndpoint s s') :
    Linked listenEndpoint s' := by
  have hapart := h.history.apart s.log (List.suffix_refl _)
  cases hstep with
  | quiet hlog hflows =>
    refine ⟨fun token => ?_, ?_⟩
    · rw [hlog, hflows, h.flows]
    · rw [hlog]
      exact h.history
  | happened event permitted hlog htables =>
    have hlive : liveAssociation (event :: s.log) = liveAssociation s.log := by
      funext token
      cases event <;> first | rfl | exact permitted.elim
    refine ⟨fun token => ?_, ?_⟩
    · rw [hlog, htables, h.flows, hlive]
    · rw [hlog]
      refine h.history.cons (fun via message he => ?_) (by rwa [hlive])
      rw [he] at permitted
      have hflows : s.tables.association = liveAssociation s.log := funext h.flows
      rw [← hflows]
      exact permitted
  | inserted flow socket _ unused unshared hlog hflows =>
    refine ⟨fun token => ?_, ?_⟩
    · rw [hlog, hflows, liveAssociation, h.flows]
    · rw [hlog]
      refine h.history.cons (fun _ _ => nofun) fun token token' association association' h₁ h₂ he => ?_
      have hnew : ∀ {token association}, liveAssociation s.log token = some association →
          ¬ (association.key = flow.key ∨ association.socket = socket) := fun h₃ he =>
        he.elim (unused _ _ (by rw [h.flows, h₃])) (unshared _ _ (by rw [h.flows, h₃]))
      rw [liveAssociation] at h₁ h₂
      split at h₁ <;> split at h₂
      · rename_i ht ht'
        rw [ht, ht']
      · rw [← Option.some.inj h₁] at he
        exact absurd (he.imp Eq.symm Eq.symm) (hnew h₂)
      · rw [← Option.some.inj h₂] at he
        exact absurd he (hnew h₁)
      · exact hapart _ _ _ _ h₁ h₂ he
  | erased gone hlog hflows =>
    refine ⟨fun token => ?_, ?_⟩
    · rw [hlog, hflows, liveAssociation, h.flows]
    · rw [hlog]
      refine h.history.cons (fun _ _ => nofun) fun token token' association association' h₁ h₂ he => ?_
      rw [liveAssociation] at h₁ h₂
      split at h₁
      · cases h₁
      split at h₂
      · cases h₂
      exact hapart _ _ _ _ h₁ h₂ he

/-- A flow that is not taken out, and whose token does not come again, stays as it is. -/
theorem liveAssociation_append {before : List UdpEvent} {token : ℕ} {association : Association}
    (h : liveAssociation before token = some association) (between : List UdpEvent)
    (herased : .erased token ∉ between)
    (hinserted : ∀ flow socket, .inserted flow socket ∈ between → flow.token ≠ token) :
    liveAssociation (between ++ before) token = some association := by
  induction between with
  | nil => exact h
  | cons event between ih =>
    have ih := ih (fun hmem => herased (List.mem_cons_of_mem _ hmem))
      fun flow socket hmem => hinserted flow socket (List.mem_cons_of_mem _ hmem)
    cases event with
    | inserted flow socket =>
      have hne := hinserted flow socket List.mem_cons_self
      rw [List.cons_append, liveAssociation, if_neg (Ne.symm hne), ih]
    | erased gone =>
      have hne : token ≠ gone := fun he => herased (he ▸ List.mem_cons_self)
      rw [List.cons_append, liveAssociation, if_neg hne, ih]
    | _ => exact ih

/-- A flow that is there has come. -/
theorem mem_insertedTokens_of_live {log : List UdpEvent} {token : ℕ} {association : Association}
    (h : liveAssociation log token = some association) : token ∈ insertedTokens log := by
  induction log with
  | nil => cases h
  | cons event log ih =>
    have hcons : ∀ {token}, token ∈ insertedTokens log → token ∈ insertedTokens (event :: log) := by
      intro token hmem
      rw [insertedTokens, List.filterMap_cons]
      split
      · exact hmem
      · exact List.mem_cons_of_mem _ hmem
    cases event with
    | inserted flow socket =>
      rw [liveAssociation] at h
      split at h
      · rename_i ht
        rw [ht]
        exact List.mem_cons_self
      · exact hcons (ih h)
    | erased gone =>
      rw [liveAssociation] at h
      split at h
      · cases h
      · exact hcons (ih h)
    | _ => exact hcons (ih h)

/-- The datagram taken last is a client's, for the flow with this key. -/
def RequestFor (listenEndpoint : Endpoint) (log : List UdpEvent) (key : UdpFlowKey) : Prop :=
  ∃ receipt, lastReceived log = some (some .listener, receipt) ∧
    parsePacketMetadata listenEndpoint receipt = some key

/-- A client's datagram is handed to the socket of the flow with its key. -/
theorem Justified.request {log : List UdpEvent} {flows : ℕ → Option Association}
    {via : Option UdpDescriptor} {message : UdpMessage} {key : UdpFlowKey}
    (h : Justified listenEndpoint log flows via message) (hrequest : RequestFor listenEndpoint log key) :
    ∃ token association, flows token = some association ∧ association.key = key ∧
      via = association.socket := by
  obtain ⟨source, receipt, token, association, hlast, -, hflow, ⟨serial, hsocket⟩, hcase⟩ := h
  obtain ⟨receipt', hlast', hparsed⟩ := hrequest
  obtain ⟨rfl, rfl⟩ := Prod.mk.inj (Option.some.inj (hlast'.symm.trans hlast))
  rcases hcase with ⟨-, hkey, hvia, -⟩ | ⟨hsource, -⟩
  · exact ⟨token, association, hflow, Option.some.inj (hkey.symm.trans hparsed), hvia⟩
  · rw [hsocket] at hsource
    cases hsource

theorem linked_runUdpReactor (listenEndpoint : Endpoint) (options : UdpReactorOptions)
    (script : List (Answerer UdpCall UdpAnswer)) :
    Linked listenEndpoint (runUdpReactor listenEndpoint options ⟨script, {}⟩).2.state := by
  have hruns : Runs (UdpStep listenEndpoint) (fun _ => Failed listenEndpoint options)
      (runUdpReactor listenEndpoint options) {} fun _ => Finished := runs_runUdpReactor Blank.initial
  have hempty : Associated listenEndpoint [] :=
    ⟨fun via message before h => absurd h.length_le (by simp), fun before h => by
      rw [List.suffix_nil.mp h]
      exact fun _ _ _ _ => nofun⟩
  have hstart : Linked listenEndpoint {} := by
    refine ⟨fun token => ?_, hempty⟩
    rw [FlowTables.association, Blank.initial.lookup token]
    rfl
  exact hruns.invariant hstart (fun _ _ hstep h => h.step hstep) script

theorem orderly_runUdpReactor (listenEndpoint : Endpoint) (options : UdpReactorOptions)
    (script : List (Answerer UdpCall UdpAnswer)) :
    Orderly (runUdpReactor listenEndpoint options ⟨script, {}⟩).2.state.log := by
  have hruns : Runs (UdpStep listenEndpoint) (fun _ => Failed listenEndpoint options)
      (runUdpReactor listenEndpoint options) {} fun _ => Finished := runs_runUdpReactor Blank.initial
  have hstart : Orderly [] := ⟨List.nodup_nil, fun _ _ _ => nofun⟩
  exact hruns.invariant (I := fun s => Orderly s.log) hstart (fun _ _ hstep h => h.step hstep) script

/-- **A datagram goes where its flow says.** At each point of every run of the reactor:

* what a flow connects is what it connected when it came;
* what was handed over was the whole of the datagram taken last; a client's went to the
  socket of the flow with its key, connected to that flow's backend, and what came on
  that socket went from the listener to that flow's client, from the address it had
  written to;
* no two flows had the same key, or the same socket, at once;
* two datagrams of clients with one key, between which its flow was not closed, went to
  the same socket, connected to the same backend. -/
theorem udp_association (listenEndpoint : Endpoint) (options : UdpReactorOptions)
    (script : List (Answerer UdpCall UdpAnswer)) :
    let s := (runUdpReactor listenEndpoint options ⟨script, {}⟩).2.state
    (∀ token, s.tables.association token = liveAssociation s.log token) ∧
      (∀ via message before, .handed via message :: before <:+ s.log →
        Justified listenEndpoint before (liveAssociation before) via message) ∧
      (∀ before, before <:+ s.log → Apart (liveAssociation before)) ∧
      ∀ key via message via' message' between before,
        .handed via' message' :: (between ++ .handed via message :: before) <:+ s.log →
          RequestFor listenEndpoint before key →
            RequestFor listenEndpoint (between ++ .handed via message :: before) key →
              (∀ token association, liveAssociation before token = some association →
                association.key = key → .erased token ∉ between) → via' = via := by
  intro s
  have hlinked : Linked listenEndpoint s := linked_runUdpReactor listenEndpoint options script
  have horderly : Orderly s.log := orderly_runUdpReactor listenEndpoint options script
  refine ⟨hlinked.flows, hlinked.history.handed, hlinked.history.apart, ?_⟩
  intro key via message via' message' between before hsuffix hrequest hrequest' hopen
  have hlater := (List.suffix_cons _ _).trans hsuffix
  have hearlier := (List.suffix_append _ _).trans hlater
  obtain ⟨token, association, hflow, hkey, rfl⟩ := (hlinked.history.handed _ _ _ hearlier).request hrequest
  obtain ⟨token', association', hflow', hkey', rfl⟩ := (hlinked.history.handed _ _ _ hsuffix).request hrequest'
  have hheld : liveAssociation (.handed association.socket message :: before) token = some association := hflow
  -- the flow that was there for the first is still there for the second
  have hstill : liveAssociation (between ++ .handed association.socket message :: before) token =
      some association := by
    refine liveAssociation_append hheld between (hopen token _ hflow hkey) fun flow socket hmem he => ?_
    have hnodup := (hlater.sublist.filterMap _).nodup horderly.tokens
    rw [List.filterMap_append] at hnodup
    refine (List.nodup_append.mp hnodup).2.2 _ (List.mem_filterMap.mpr ⟨_, hmem, rfl⟩) token ?_ he
    exact mem_insertedTokens_of_live hheld
  have htoken := hlinked.history.apart _ hlater _ _ _ _ hflow' hstill (.inl (hkey'.trans hkey.symm))
  rw [htoken, hstill] at hflow'
  rw [Option.some.inj hflow']

end L4lb.Net
