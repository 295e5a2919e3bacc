import L4lb.Effect.Prog
import L4lb.Metrics.MetricsLine

/-!
# The output of metrics

`MetricsOutput` writes a line when the service is ready, one each second or more after that, and
one at the end. Its clock and its callbacks may throw, and a line may be written in part; the first
failure ends the output. `metrics_output_lifecycle` is about any calls in any order.

## The model

* `MetricsOutput` — the flags, the next time, the number of the last line, and what has happened.
* `emitReadySnapshot`, `emitPeriodicSnapshotIfDue`, `emitFinalSnapshot` — its methods.
* `MetricsOutput.Law` — what is asked of what has happened.

## The argument

Every entry of the log is put there by a step, and each step keeps `Law`: most entries are no
lines (`Law.quiet`), and a line is handed over only from a state that allows it (`Law.handed`).
`Standing` is what makes it so between two calls.
-/

namespace L4lb.Metrics

open Text Effect Relation

/-- The phases of a line. -/
inductive Phase where
  /-- `ready`. -/
  | ready
  /-- `periodic`. -/
  | periodic
  /-- `final`. -/
  | final
  /-- `error`. -/
  | error
  deriving DecidableEq, Repr

/-- Its name. -/
def Phase.name : Phase → Chars
  | .ready => literal "ready"
  | .periodic => literal "periodic"
  | .final => literal "final"
  | .error => literal "error"

/-- What happens in the course of a call. -/
inductive OutputEntry where
  /-- The clock was read. -/
  | read (time : Time)
  /-- A line was handed to the writer. -/
  | handed (phase : Phase) (seq : UInt64)
  /-- The writer returned, of a line of `size` bytes. -/
  | written (size : ℕ) (result : ℤ)
  /-- A line was too long to be handed over. -/
  | tooLong
  /-- The clock or a callback threw. -/
  | threw
  deriving DecidableEq, Repr

/-- `MetricsOutput`, and what has happened. -/
structure MetricsOutput where
  /-- `startTime_`. -/
  startTime : Time
  /-- `nextSnapshotTime_`. -/
  nextSnapshotTime : Time := 0
  /-- `seq_`. -/
  seq : UInt64 := 0
  /-- `readyEmitted_`. -/
  readyEmitted : Bool := false
  /-- `finalized_`. -/
  finalized : Bool := false
  /-- `enabled_`. -/
  enabled : Bool := true
  /-- What has happened, first things first. -/
  log : List OutputEntry := []

/-- The calls. -/
inductive MetricsCall where
  /-- `MetricsCollector::snapshot`. -/
  | collect
  /-- `now`, or `Clock::now`. -/
  | now
  /-- `backendHealthProvider_`, of so many backends. -/
  | backends (count : UInt64)
  /-- `formatter`, or `formatMetricsSnapshot`. -/
  | format (snapshot : MetricsSnapshot) (phase : Chars)
  /-- `writer`, or `write` to the standard error. -/
  | write (line : Chars)

/-- The answers; `none` is an exception. -/
abbrev MetricsAnswer : MetricsCall → Type
  | .collect => MetricsSnapshot
  | .now => Option Time
  | .backends _ => Option (ℕ → BackendHealthSnapshot)
  | .format _ _ => Option Chars
  | .write _ => Option ℤ

/-- An exception of a callback. -/
inductive CallbackError where
  /-- Whatever was thrown. -/
  | thrown
  deriving DecidableEq, Repr

/-- A method of the output. -/
abbrev MetricsM := Prog MetricsCall MetricsAnswer MetricsOutput CallbackError

namespace MetricsOutput

open Prog

/-- Make a call. -/
def ask (c : MetricsCall) : MetricsM (MetricsAnswer c) := Prog.call c

/-- Something happens. -/
def record (entry : OutputEntry) : MetricsM Unit := modify fun s => { s with log := s.log ++ [entry] }

/-- Throw what a callback threw. -/
def orThrow {α : Type} : Option α → MetricsM α
  | some a => pure a
  | none => do
    record .threw
    raise .thrown

/-- `enabled_ = false`. -/
def disable : MetricsM Unit := modify fun s => { s with enabled := false }

/-- `MetricsOutput::currentTime`. -/
def currentTime : MetricsM Time := do
  let time ← orThrow (← ask .now)
  record (.read time)
  pure time

/-- The snapshot that is written, with what `addSaturatingCounter` made of the number. -/
def fill (s : MetricsOutput) (snapshot : MetricsSnapshot) (added : UInt64 × Bool) (time : Time)
    (health : ℕ → BackendHealthSnapshot) : MetricsSnapshot :=
  { snapshot with
    seq := added.1
    counterSaturated := snapshot.counterSaturated || added.2
    uptimeMs := UInt64.ofNat (((time - s.startTime).tdiv 1000000) % 2 ^ 64).toNat
    backends := snapshot.backends.mapIdx fun i backend => if i < snapshot.backendCount.toNat then health i else backend }

/-- The `try` block of `emitSnapshot`, from the number on. -/
def writeSnapshot (phase : Phase) (snapshot : MetricsSnapshot) (added : UInt64 × Bool) : MetricsM Unit := do
  modify fun s => { s with seq := added.1 }
  let time ← currentTime
  let health ← orThrow (← ask (.backends snapshot.backendCount))
  let line ← orThrow (← ask (.format ((← get).fill snapshot added time health) phase.name))
  if line.length > 32768 then
    record .tooLong
    disable
  else
    record (.handed phase added.1)
    let result ← orThrow (← ask (.write line))
    record (.written line.length result)
    if result < 0 ∨ result ≠ line.length then disable else pure ()

/-- The `try` block of `emitSnapshot`. -/
def trySnapshot (phase : Phase) : MetricsM Unit := do
  let snapshot ← ask .collect
  writeSnapshot phase snapshot (addSaturatingCounter (← get).seq 1 false)

/-- `MetricsOutput::emitSnapshot`. -/
def emitSnapshot (phase : Phase) : MetricsM Unit := do
  if (← get).enabled = false then pure () else handle (trySnapshot phase) fun _ => disable

/-- `nextSnapshotTime_ = currentTime() + 1s`. -/
def scheduleNext : MetricsM Unit := do
  let time ← currentTime
  modify fun s => { s with nextSnapshotTime := time + Time.seconds 1 }

/-- `MetricsOutput::emitReadySnapshot`. -/
def emitReadySnapshot : MetricsM Unit := do
  let s ← get
  if s.readyEmitted = true ∨ s.finalized = true then pure ()
  else
    modify fun s => { s with readyEmitted := true }
    emitSnapshot .ready
    handle scheduleNext fun _ => disable

/-- The `try` block of `emitPeriodicSnapshotIfDue`. -/
def tryPeriodic : MetricsM Unit := do
  let time ← currentTime
  if time < (← get).nextSnapshotTime then pure ()
  else
    emitSnapshot .periodic
    scheduleNext

/-- `MetricsOutput::emitPeriodicSnapshotIfDue`. -/
def emitPeriodicSnapshotIfDue : MetricsM Unit := do
  let s ← get
  if s.readyEmitted = false ∨ s.finalized = true ∨ s.enabled = false then pure ()
  else handle tryPeriodic fun _ => disable

/-- `MetricsOutput::emitFinalSnapshot`. -/
def emitFinalSnapshot (error : Bool) : MetricsM Unit := do
  if (← get).finalized = true then pure ()
  else
    modify fun s => { s with finalized := true }
    emitSnapshot (if error then .error else .final)

/-! ### What has happened -/

end MetricsOutput

namespace OutputEntry

/-- The line that was handed over. -/
def line : OutputEntry → Option (Phase × UInt64)
  | .handed phase seq => some (phase, seq)
  | _ => none

/-- An attempt has failed. -/
def Failed : OutputEntry → Prop
  | .written size result => result ≠ size
  | .tooLong | .threw => True
  | _ => False

end OutputEntry

namespace MetricsOutput

open Prog

/-- The lines that were handed over. -/
def lines (log : List OutputEntry) : List (Phase × UInt64) := log.filterMap OutputEntry.line

/-- Nothing but readings of the clock. -/
def Readings (log : List OutputEntry) : Prop := ∀ entry ∈ log, ∃ time, entry = .read time

/-- A line was handed over and written, after which the clock stood at `time` and was read only. -/
def Completed (log : List OutputEntry) (time : Time) : Prop :=
  ∃ earlier phase seq size result waits,
    log = earlier ++ [.handed phase seq, .written size result, .read time] ++ waits ∧ Readings waits

/-- A second has gone by since the last line was completed. -/
def Paced (log : List OutputEntry) : Prop :=
  ∃ earlier completion due emission, Completed earlier completion ∧ completion + Time.seconds 1 ≤ due ∧
    log = earlier ++ [.read due, .read emission]

/-- The order of the phases: `(ready periodic*)? (final|error)`, as far as it went. -/
def Lifecycle (phases : List Phase) : Prop :=
  ∃ started ending, (started = [] ∨ ∃ k, started = .ready :: List.replicate k .periodic) ∧
    (ending = .final ∨ ending = .error) ∧ phases <+: started ++ [ending]

/-- What is asked of what has happened. -/
structure Law (log : List OutputEntry) : Prop where
  /-- The phases are in order. -/
  phases : Lifecycle ((lines log).map Prod.fst)
  /-- The numbers count the lines. -/
  numbers : ∀ (i : ℕ) line, (lines log)[i]? = some line → line.2.toNat = min (2 ^ 64 - 1) (i + 1)
  /-- Before a periodic line, a second went by. -/
  paced : ∀ before seq after, log = before ++ .handed .periodic seq :: after → Paced before
  /-- After a failure, no line is handed over. -/
  stopped : ∀ before entry after, log = before ++ entry :: after → entry.Failed → lines after = []

variable {log earlier : List OutputEntry} {entry : OutputEntry} {phase : Phase} {seq : UInt64}

@[simp] theorem lines_append (log log' : List OutputEntry) : lines (log ++ log') = lines log ++ lines log' :=
  List.filterMap_append

@[simp] theorem lines_nil : lines [] = [] := rfl

@[simp] theorem lines_handed (phase : Phase) (seq : UInt64) (log : List OutputEntry) :
    lines (.handed phase seq :: log) = (phase, seq) :: lines log := rfl

@[simp] theorem lines_read (time : Time) (log : List OutputEntry) : lines (.read time :: log) = lines log := rfl

@[simp] theorem lines_written (size : ℕ) (result : ℤ) (log : List OutputEntry) :
    lines (.written size result :: log) = lines log := rfl

theorem lines_quiet (h : entry.line = none) : lines [entry] = [] := by
  simp [lines, h]

/-- Where an entry is, in a log with one more at its end. -/
theorem split_concat {x y : OutputEntry} {before after : List OutputEntry} (h : log ++ [x] = before ++ y :: after) :
    (log = before ∧ x = y ∧ after = []) ∨ ∃ after', after = after' ++ [x] ∧ log = before ++ y :: after' := by
  rcases List.eq_nil_or_concat after with rfl | ⟨after', z, rfl⟩
  · obtain ⟨hlog, hxy⟩ := List.append_inj' h rfl
    exact .inl ⟨hlog, List.singleton_inj.mp hxy, rfl⟩
  · rw [List.concat_eq_append, ← List.cons_append, ← List.append_assoc] at h
    obtain ⟨hlog, hxz⟩ := List.append_inj' h rfl
    exact .inr ⟨after', by rw [List.concat_eq_append, List.singleton_inj.mp hxz], hlog⟩

/-- What is no line changes nothing. -/
theorem Law.quiet (h : Law log) (hentry : entry.line = none) : Law (log ++ [entry]) where
  phases := by simpa [lines_quiet hentry] using h.phases
  numbers := by simpa [lines_quiet hentry] using h.numbers
  paced before seq after heq := by
    rcases split_concat heq with ⟨_, rfl, _⟩ | ⟨after', _, hlog⟩
    · cases hentry
    · exact h.paced before seq after' hlog
  stopped before other after heq hfailed := by
    rcases split_concat heq with ⟨_, _, rfl⟩ | ⟨after', rfl, hlog⟩
    · rfl
    · rw [lines_append, h.stopped before other after' hlog hfailed, lines_quiet hentry]
      rfl

theorem Law.read (h : Law log) (time : Time) : Law (log ++ [.read time]) := h.quiet rfl

theorem Law.written (h : Law log) (size : ℕ) (result : ℤ) : Law (log ++ [.written size result]) := h.quiet rfl

/-- A line can be handed over: nothing has failed, it is next in the order, and in number and time. -/
theorem Law.handed (h : Law log) (hclean : ∀ entry ∈ log, ¬ entry.Failed)
    (hphase : Lifecycle ((lines log).map Prod.fst ++ [phase]))
    (hseq : seq.toNat = min (2 ^ 64 - 1) ((lines log).length + 1)) (hpaced : phase = .periodic → Paced log) :
    Law (log ++ [.handed phase seq]) where
  phases := by simpa using hphase
  numbers i line hline := by
    rw [lines_append, lines_handed, lines_nil] at hline
    rcases Nat.lt_or_ge i (lines log).length with hlt | hge
    · rw [List.getElem?_append_left hlt] at hline
      exact h.numbers i line hline
    · rw [List.getElem?_append_right hge] at hline
      obtain ⟨hi, rfl⟩ := List.getElem?_eq_some_iff.mp hline
      have hi : i = (lines log).length := by
        simp only [List.length_singleton] at hi
        omega
      subst hi
      simpa using hseq
  paced before other after heq := by
    rcases split_concat heq with ⟨rfl, hxy, _⟩ | ⟨after', _, hlog⟩
    · cases hxy
      exact hpaced rfl
    · exact h.paced before other after' hlog
  stopped before other after heq hfailed := by
    rcases split_concat heq with ⟨_, _, rfl⟩ | ⟨after', _, hlog⟩
    · rfl
    · exact absurd hfailed (hclean other (hlog ▸ List.mem_append_right _ List.mem_cons_self))

/-! ### An emission -/

/-- What every step of a call does. -/
def Lawful (_ s' : MetricsOutput) : Prop := Law s'.log

/-- The flags of the phases are as they were. -/
def Alike (s s' : MetricsOutput) : Prop := s'.readyEmitted = s.readyEmitted ∧ s'.finalized = s.finalized

/-- A call is given up: the log is as it should be. -/
def GivenUp (s : MetricsOutput) (_ : CallbackError) (s' : MetricsOutput) : Prop := Law s'.log ∧ Alike s s'

/-- A line can be emitted. -/
structure Emits (phase : Phase) (s : MetricsOutput) : Prop where
  /-- The log is as it should be. -/
  law : Law s.log
  /-- Nothing has failed. -/
  clean : ∀ entry ∈ s.log, ¬ entry.Failed
  /-- The number is that of the last line. -/
  number : s.seq.toNat = min (2 ^ 64 - 1) (lines s.log).length
  /-- The phase is next. -/
  next : Lifecycle ((lines s.log).map Prod.fst ++ [phase])
  /-- And it is time. -/
  paced : phase = .periodic → ∀ emission, Paced (s.log ++ [.read emission])

/-- What an emission leaves. -/
structure Emitted (phase : Phase) (s s' : MetricsOutput) : Prop where
  /-- The flags of the phases. -/
  alike : Alike s s'
  /-- The log is as it should be. -/
  law : Law s'.log
  /-- If the output goes on, a line was handed over and written. -/
  done : s'.enabled = true → s.enabled = true ∧ s'.seq.toNat = min (2 ^ 64 - 1) (lines s'.log).length ∧
    ∃ time seq size, s'.log = s.log ++ [.read time, .handed phase seq, .written size (size : ℕ)]

variable {α β : Type} {s s₀ : MetricsOutput} {E : CallbackError → MetricsOutput → Prop}
  {Q : β → MetricsOutput → Prop}

theorem runs_ask_bind {c : MetricsCall} {f : MetricsAnswer c → MetricsM β} (h : ∀ a, Runs Lawful E (f a) s Q) :
    Runs Lawful E (ask c >>= f) s Q :=
  Runs.call_bind h

theorem runs_record_bind {f : Unit → MetricsM β} (hlaw : Law (s.log ++ [entry]))
    (h : Runs Lawful E (f ()) { s with log := s.log ++ [entry] } Q) : Runs Lawful E (record entry >>= f) s Q :=
  Runs.modify_bind (.single hlaw) h

theorem runs_orThrow_bind {a? : Option α} {f : α → MetricsM β} (hlaw : Law s.log) (halike : Alike s₀ s)
    (h : ∀ a, Runs Lawful (GivenUp s₀) (f a) s Q) : Runs Lawful (GivenUp s₀) (orThrow a? >>= f) s Q := by
  cases a? with
  | some a => exact h a
  | none =>
    have hthrew : Law (s.log ++ [.threw]) := hlaw.quiet rfl
    rw [orThrow, Prog.bind_assoc]
    exact runs_record_bind hthrew fun _ => ⟨.refl, hthrew, halike⟩

theorem runs_currentTime_bind {f : Time → MetricsM β} (hlaw : Law s.log) (halike : Alike s₀ s)
    (h : ∀ time, Runs Lawful (GivenUp s₀) (f time) { s with log := s.log ++ [.read time] } Q) :
    Runs Lawful (GivenUp s₀) (currentTime >>= f) s Q := by
  rw [currentTime, Prog.bind_assoc]
  refine runs_ask_bind fun time? => ?_
  rw [Prog.bind_assoc]
  refine runs_orThrow_bind hlaw halike fun time => ?_
  rw [Prog.bind_assoc]
  exact runs_record_bind (hlaw.quiet rfl) (h time)

theorem runs_writeSnapshot (h : Emits phase s) (henabled : s.enabled = true) (snapshot : MetricsSnapshot)
    {added : UInt64 × Bool} (hadded : added.1.toNat = min (2 ^ 64 - 1) ((lines s.log).length + 1)) :
    Runs Lawful (GivenUp s) (writeSnapshot phase snapshot added) s fun _ s' => Emitted phase s s' := by
  refine Runs.modify_bind (.single h.law) (runs_currentTime_bind h.law ⟨rfl, rfl⟩ fun time => ?_)
  have htime := h.law.read time
  refine runs_ask_bind fun health? => runs_orThrow_bind htime ⟨rfl, rfl⟩ fun health => Runs.get_bind ?_
  refine runs_ask_bind fun line? => runs_orThrow_bind htime ⟨rfl, rfl⟩ fun line => ?_
  refine Runs.ite (fun _ => ?_) fun _ => ?_
  · have hlong : Law (s.log ++ [.read time] ++ [.tooLong]) := htime.quiet rfl
    refine runs_record_bind hlong (Runs.modify (.single hlong) ⟨⟨rfl, rfl⟩, hlong, ?_⟩)
    exact fun hdisabled => absurd hdisabled Bool.false_ne_true
  · have hhanded : Law (s.log ++ [.read time] ++ [.handed phase added.1]) := by
      refine htime.handed ?_ ?_ ?_ fun hphase => h.paced hphase time
      · simpa [OutputEntry.Failed, or_imp, forall_and] using h.clean
      · simpa using h.next
      · simpa using hadded
    refine runs_record_bind hhanded ?_
    refine runs_ask_bind fun result? => runs_orThrow_bind hhanded ⟨rfl, rfl⟩ fun result => ?_
    have hwritten := hhanded.written line.length result
    refine runs_record_bind hwritten (Runs.ite (fun _ => ?_) fun hresult => ?_)
    · refine Runs.modify (.single hwritten) ⟨⟨rfl, rfl⟩, hwritten, ?_⟩
      exact fun hdisabled => absurd hdisabled Bool.false_ne_true
    · obtain ⟨_, hwhole⟩ := not_or.mp hresult
      rw [not_not] at hwhole
      refine Runs.pure ⟨⟨rfl, rfl⟩, hwritten, fun _ => ⟨henabled, ?_, time, added.1, line.length, ?_⟩⟩
      · rw [hadded]
        simp
      · rw [hwhole]
        simp

theorem runs_trySnapshot (h : Emits phase s) (henabled : s.enabled = true) :
    Runs Lawful (GivenUp s) (trySnapshot phase) s fun _ s' => Emitted phase s s' := by
  refine runs_ask_bind fun snapshot => Runs.get_bind (runs_writeSnapshot h henabled snapshot ?_)
  rw [(addSaturatingCounter_eq s.seq 1 false).1, h.number]
  show min _ (min _ _ + 1) = _
  omega

/-- What throws is caught, and the output ends. -/
theorem runs_handle_disable {m : MetricsM Unit} {Q : MetricsOutput → Prop}
    (hm : Runs Lawful (GivenUp s) m s fun _ s' => Q s')
    (hdisabled : ∀ s', Law s'.log → Alike s s' → Q { s' with enabled := false }) :
    Runs Lawful (fun _ _ => False) (handle m fun _ => disable) s fun _ s' => Q s' :=
  Runs.handle hm fun _ s' _ hgiven => Runs.modify (.single hgiven.1) (hdisabled s' hgiven.1 hgiven.2)

/-- **An emission**: nothing, or a line, or the end of the output. -/
theorem runs_emitSnapshot (hlaw : Law s.log) (h : s.enabled = true → Emits phase s) :
    Runs Lawful (fun _ _ => False) (emitSnapshot phase) s fun _ s' => Emitted phase s s' := by
  refine Runs.get_bind (Runs.ite (fun hdisabled => ?_) fun henabled => ?_)
  · exact Runs.pure ⟨⟨rfl, rfl⟩, hlaw, fun henabled => absurd (hdisabled.symm.trans henabled) Bool.false_ne_true⟩
  · rw [Bool.not_eq_false] at henabled
    refine runs_handle_disable (runs_trySnapshot (h henabled) henabled) fun s' hlaw' halike => ⟨halike, hlaw', ?_⟩
    exact fun hdisabled => absurd hdisabled Bool.false_ne_true

/-! ### Between two calls -/

/-- What holds between two calls. -/
structure Standing (s : MetricsOutput) : Prop where
  /-- The log is as it should be. -/
  law : Law s.log
  /-- While the output goes on, nothing has failed. -/
  clean : s.enabled = true → ∀ entry ∈ s.log, ¬ entry.Failed
  /-- And the number is that of the last line. -/
  number : s.enabled = true → s.seq.toNat = min (2 ^ 64 - 1) (lines s.log).length
  /-- Before the first line there is none. -/
  fresh : s.readyEmitted = false → s.finalized = false → lines s.log = []
  /-- While lines are written from time to time, they are `ready` and then `periodic`. -/
  phases : s.enabled = true → s.readyEmitted = true → s.finalized = false →
    ∃ k, (lines s.log).map Prod.fst = .ready :: List.replicate k .periodic
  /-- And the next is a second away from the last. -/
  waiting : s.enabled = true → s.readyEmitted = true → s.finalized = false →
    ∃ completion, Completed s.log completion ∧ s.nextSnapshotTime = completion + Time.seconds 1

/-- An output that has ended stands, whatever its flags. -/
theorem standing_disabled (hlaw : Law s.log) (h : s.enabled = false)
    (hflags : s.readyEmitted = true ∨ s.finalized = true) : Standing s where
  law := hlaw
  clean henabled := absurd (h.symm.trans henabled) Bool.false_ne_true
  number henabled := absurd (h.symm.trans henabled) Bool.false_ne_true
  fresh hready hfinalized := by
    rcases hflags with h' | h'
    · exact absurd (hready.symm.trans h') Bool.false_ne_true
    · exact absurd (hfinalized.symm.trans h') Bool.false_ne_true
  phases henabled := absurd (h.symm.trans henabled) Bool.false_ne_true
  waiting henabled := absurd (h.symm.trans henabled) Bool.false_ne_true

theorem lifecycle_ready : Lifecycle [.ready] :=
  ⟨[.ready], .final, .inr ⟨0, rfl⟩, .inl rfl, List.prefix_append _ _⟩

theorem lifecycle_periodic (k : ℕ) : Lifecycle (.ready :: List.replicate k .periodic ++ [.periodic]) := by
  refine ⟨.ready :: List.replicate (k + 1) .periodic, .final, .inr ⟨k + 1, rfl⟩, .inl rfl, ?_⟩
  rw [List.replicate_succ']
  exact List.prefix_append _ _

theorem lifecycle_last {started : List Phase} (h : started = [] ∨ ∃ k, started = .ready :: List.replicate k .periodic)
    (error : Bool) : Lifecycle (started ++ [if error then .error else .final]) := by
  refine ⟨started, if error then .error else .final, h, ?_, List.prefix_rfl⟩
  cases error with
  | false => exact .inl rfl
  | true => exact .inr rfl

theorem lifecycle_nil : Lifecycle [] :=
  ⟨[], .final, .inl rfl, .inl rfl, List.nil_prefix⟩

theorem law_nil : Law [] where
  phases := lifecycle_nil
  numbers i line h := by cases h
  paced before seq after h := by simp at h
  stopped before entry after h := by simp at h

/-- The clean log of an output that has just emitted a line. -/
theorem clean_emitted {s' : MetricsOutput} {time : Time} {size : ℕ} (hclean : ∀ entry ∈ s.log, ¬ entry.Failed)
    (hlog : s'.log = s.log ++ [.read time, .handed phase seq, .written size (size : ℕ)]) :
    ∀ entry ∈ s'.log, ¬ entry.Failed := by
  rw [hlog]
  simpa [OutputEntry.Failed, or_imp, forall_and] using hclean

/-! ### The calls -/

/-- The next time is set from the clock. -/
theorem runs_scheduleNext (hlaw : Law s.log) (halike : Alike s₀ s) :
    Runs Lawful (GivenUp s₀) scheduleNext s fun _ s' => ∃ time,
      s' = { s with log := s.log ++ [.read time], nextSnapshotTime := time + Time.seconds 1 } :=
  runs_currentTime_bind hlaw halike fun time => Runs.modify (.single (hlaw.quiet rfl)) ⟨time, rfl⟩

/-- What follows a line of a running output: its completion is noted. -/
theorem standing_scheduled {s' : MetricsOutput} (h : Emitted phase s s') (hready : s.readyEmitted = true)
    (hclean : s.enabled = true → ∀ entry ∈ s.log, ¬ entry.Failed)
    (hphases : s.enabled = true →
      ∃ k, (lines s.log).map Prod.fst ++ [phase] = .ready :: List.replicate k .periodic) (time : Time) :
    Standing { s' with log := s'.log ++ [.read time], nextSnapshotTime := time + Time.seconds 1 } where
  law := h.law.quiet rfl
  clean henabled := by
    obtain ⟨hbefore, _, emission, seq, size, hlog⟩ := h.done henabled
    have hemitted := clean_emitted (hclean hbefore) hlog
    simpa [OutputEntry.Failed, or_imp, forall_and] using hemitted
  number henabled := by
    obtain ⟨_, hnumber, _⟩ := h.done henabled
    simpa using hnumber
  fresh hfresh _ := absurd (h.alike.1.symm.trans hfresh) (by rw [hready]; exact Bool.noConfusion)
  phases henabled _ _ := by
    obtain ⟨hbefore, _, emission, seq, size, hlog⟩ := h.done henabled
    obtain ⟨k, hk⟩ := hphases hbefore
    exact ⟨k, by simpa [hlog] using hk⟩
  waiting henabled _ _ := by
    obtain ⟨_, _, emission, seq, size, hlog⟩ := h.done henabled
    refine ⟨time, ⟨s.log ++ [.read emission], phase, seq, size, size, [], ?_, by simp [Readings]⟩, rfl⟩
    simp [hlog]

/-- The clock was read, and it was not time. -/
theorem Standing.read (h : Standing s) (henabled : s.enabled = true) (hready : s.readyEmitted = true)
    (hfinalized : s.finalized = false) (time : Time) : Standing { s with log := s.log ++ [.read time] } where
  law := h.law.quiet rfl
  clean _ := by simpa [OutputEntry.Failed, or_imp, forall_and] using h.clean henabled
  number _ := by simpa using h.number henabled
  fresh hfresh _ := absurd (hready.symm.trans hfresh) Bool.noConfusion
  phases _ _ _ := by simpa using h.phases henabled hready hfinalized
  waiting _ _ _ := by
    obtain ⟨completion, ⟨earlier, phase, seq, size, result, waits, hlog, hwaits⟩, hnext⟩ :=
      h.waiting henabled hready hfinalized
    refine ⟨completion, ⟨earlier, phase, seq, size, result, waits ++ [.read time], by simp [hlog], ?_⟩, hnext⟩
    intro entry hentry
    rcases List.mem_append.mp hentry with hmem | hmem
    · exact hwaits entry hmem
    · exact ⟨time, List.mem_singleton.mp hmem⟩

theorem runs_emitReadySnapshot (h : Standing s) :
    Runs Lawful (fun _ _ => False) emitReadySnapshot s fun _ s' => Standing s' := by
  refine Runs.get_bind (Runs.ite (fun _ => Runs.pure h) fun hflags => ?_)
  obtain ⟨hready, hfinalized⟩ := not_or.mp hflags
  rw [Bool.not_eq_true] at hready hfinalized
  have hlines := h.fresh hready hfinalized
  refine Runs.modify_bind (.single h.law) ?_
  refine Runs.bind (runs_emitSnapshot h.law fun henabled => ?_) fun _ s' _ hemitted => ?_
  · exact ⟨h.law, h.clean henabled, h.number henabled, by rw [hlines]; exact lifecycle_ready, fun heq => by cases heq⟩
  · refine runs_handle_disable ((runs_scheduleNext hemitted.law ⟨rfl, rfl⟩).post ?_) fun s'' hlaw halike => ?_
    · intro _ s'' _ hs''
      obtain ⟨time, rfl⟩ := hs''
      exact standing_scheduled hemitted rfl h.clean (fun _ => ⟨0, by rw [hlines]; rfl⟩) time
    · exact standing_disabled hlaw rfl (.inl (halike.1.trans hemitted.alike.1))

theorem runs_tryPeriodic (h : Standing s) (henabled : s.enabled = true) (hready : s.readyEmitted = true)
    (hfinalized : s.finalized = false) : Runs Lawful (GivenUp s) tryPeriodic s fun _ s' => Standing s' := by
  obtain ⟨k, hphases⟩ := h.phases henabled hready hfinalized
  obtain ⟨completion, hcompleted, hnext⟩ := h.waiting henabled hready hfinalized
  refine runs_currentTime_bind h.law ⟨rfl, rfl⟩ fun due => Runs.get_bind (Runs.ite (fun _ => ?_) fun hdue => ?_)
  · exact Runs.pure (h.read henabled hready hfinalized due)
  · have hread := h.read henabled hready hfinalized due
    have hemits : Emits .periodic { s with log := s.log ++ [.read due] } := by
      refine ⟨hread.law, hread.clean henabled, hread.number henabled, ?_, fun _ emission => ?_⟩
      · simpa [hphases] using lifecycle_periodic k
      · exact ⟨s.log, completion, due, emission, hcompleted, hnext ▸ not_lt.mp hdue, by simp⟩
    refine Runs.bind ((runs_emitSnapshot hread.law fun _ => hemits).mono (fun _ _ _ => False.elim) fun _ _ _ h => h) ?_
    intro _ s' _ hemitted
    refine (runs_scheduleNext hemitted.law hemitted.alike).post fun _ s'' _ hs'' => ?_
    obtain ⟨time, rfl⟩ := hs''
    refine standing_scheduled hemitted hready hread.clean (fun _ => ⟨k + 1, ?_⟩) time
    simp [hphases, List.replicate_succ']

theorem runs_emitPeriodicSnapshotIfDue (h : Standing s) :
    Runs Lawful (fun _ _ => False) emitPeriodicSnapshotIfDue s fun _ s' => Standing s' := by
  refine Runs.get_bind (Runs.ite (fun _ => Runs.pure h) fun hflags => ?_)
  obtain ⟨hready, hfinalized, henabled⟩ := not_or.mp hflags |>.imp id not_or.mp
  rw [Bool.not_eq_false] at hready henabled
  rw [Bool.not_eq_true] at hfinalized
  refine runs_handle_disable (runs_tryPeriodic h henabled hready hfinalized) fun s' hlaw halike => ?_
  exact standing_disabled hlaw rfl (.inl (halike.1.trans hready))

theorem runs_emitFinalSnapshot (h : Standing s) (error : Bool) :
    Runs Lawful (fun _ _ => False) (emitFinalSnapshot error) s fun _ s' => Standing s' := by
  refine Runs.get_bind (Runs.ite (fun _ => Runs.pure h) fun hfinalized => ?_)
  rw [Bool.not_eq_true] at hfinalized
  refine Runs.modify_bind (.single h.law) ?_
  refine Runs.post (Q := fun _ => Emitted _ { s with finalized := true }) (runs_emitSnapshot h.law fun henabled => ?_)
    fun _ s' _ hemitted => ?_
  · refine ⟨h.law, h.clean henabled, h.number henabled, lifecycle_last ?_ error, ?_⟩
    · rcases hready : s.readyEmitted with _ | _
      · exact .inl (by rw [h.fresh hready hfinalized]; rfl)
      · exact .inr (h.phases henabled hready hfinalized)
    · cases error with
      | false => exact fun heq => by cases heq
      | true => exact fun heq => by cases heq
  · have hended : s'.finalized = true := hemitted.alike.2
    refine ⟨hemitted.law, fun henabled => ?_, fun henabled => (hemitted.done henabled).2.1, fun _ hnot => ?_,
      fun _ _ hnot => ?_, fun _ _ hnot => ?_⟩
    · obtain ⟨hbefore, _, time, seq, size, hlog⟩ := hemitted.done henabled
      exact clean_emitted (h.clean hbefore) hlog
    all_goals exact absurd (hended.symm.trans hnot) Bool.noConfusion

/-- What is asked of the output. -/
inductive Request where
  /-- `emitReadySnapshot`. -/
  | ready
  /-- `emitPeriodicSnapshotIfDue`. -/
  | periodic
  /-- `emitFinalSnapshot`. -/
  | final (error : Bool)
  deriving DecidableEq, Repr

/-- The call. -/
def Request.perform : Request → MetricsM Unit
  | .ready => emitReadySnapshot
  | .periodic => emitPeriodicSnapshotIfDue
  | .final error => emitFinalSnapshot error

theorem runs_perform (h : Standing s) (request : Request) :
    Runs Lawful (fun _ _ => False) request.perform s fun _ s' => Standing s' := by
  cases request with
  | ready => exact runs_emitReadySnapshot h
  | periodic => exact runs_emitPeriodicSnapshotIfDue h
  | final error => exact runs_emitFinalSnapshot h error

/-- An output after calls, in any order, of what returned. -/
inductive Called : MetricsOutput → Prop
  /-- None yet. -/
  | constructed (startTime : Time) : Called { startTime }
  /-- One more. -/
  | next {s : MetricsOutput} (h : Called s) (request : Request) (script : List (Answerer MetricsCall MetricsAnswer))
      (hreturned : (request.perform ⟨script, s⟩).1 = .ok ()) : Called (request.perform ⟨script, s⟩).2.state

theorem standing_of_called (h : Called s) : Standing s := by
  induction h with
  | constructed startTime =>
    exact ⟨law_nil, fun _ _ hentry => absurd hentry List.not_mem_nil, fun _ => rfl, fun _ _ => rfl,
      fun _ hready => absurd hready Bool.false_ne_true, fun _ hready => absurd hready Bool.false_ne_true⟩
  | next _ request script hreturned ih =>
    have hmeets := (runs_perform ih request script).2
    rw [hreturned] at hmeets
    exact hmeets

end MetricsOutput

open MetricsOutput

/-- **The life of the output of metrics.** At any point of any call, after any calls in any order, whatever the clock
says and the callbacks do: what has happened is lawful, and no exception gets out of the call. -/
theorem metrics_output_lifecycle {s : MetricsOutput} (h : Called s) (request : Request)
    (script : List (Answerer MetricsCall MetricsAnswer)) :
    Law (request.perform ⟨script, s⟩).2.state.log ∧ ∀ e, (request.perform ⟨script, s⟩).1 ≠ .thrown e := by
  have hstanding := standing_of_called h
  obtain ⟨hchain, hmeets⟩ := runs_perform hstanding request script
  refine ⟨?_, fun e he => ?_⟩
  · rcases hchain.cases_tail with heq | ⟨_, _, hlast⟩
    · rw [heq]
      exact hstanding.law
    · exact hlast
  · rw [he] at hmeets
    exact hmeets

/-- All goes well at `time`, and a line is one byte. -/
def metricsAnswers (time : Time) : Answerer MetricsCall MetricsAnswer
  | .collect => {}
  | .now => some time
  | .backends _ => some fun _ => {}
  | .format _ _ => some [char '\n']
  | .write _ => some 1

/-- A line when ready, and a second later a line of which nothing is written. -/
theorem metrics_output_lifecycle_short :
    let first := List.replicate 6 (metricsAnswers 0)
    let then' := List.replicate 5 (metricsAnswers (Time.seconds 1)) ++ [fun
      | .write _ => some 0
      | c => metricsAnswers (Time.seconds 1) c]
    let s := (Request.ready.perform ⟨first, { startTime := 0 }⟩).2.state
    (Request.periodic.perform ⟨then', s⟩).2.state.log =
        [.read 0, .handed .ready 1, .written 1 1, .read 0,
          .read (Time.seconds 1), .read (Time.seconds 1), .handed .periodic 2, .written 1 0] ∧
      Law (Request.periodic.perform ⟨then', s⟩).2.state.log ∧
      ∀ e, (Request.periodic.perform ⟨then', s⟩).1 ≠ .thrown e :=
  ⟨by rfl, metrics_output_lifecycle (.next (.constructed 0) .ready _ (by rfl)) .periodic _⟩

end L4lb.Metrics
