import L4lb.Xdp.ProgramCalls
import Mathlib.Algebra.BigOperators.Fin
import Mathlib.Logic.Relation

/-!
# The counters add up

Whatever frames come, on whatever CPU each is processed, and whatever the maps and the redirect
helper answer, the statistics summed over the CPUs split the total into what was passed,
redirected and dropped, and these into their reasons (`xdp_counter_partition`).

## The model

* `FrameCounts` — what one frame has counted; its calls are answered in any way (`Counting`).
* `XdpMachine` — the CPUs, each with its own statistics and at most one frame on its way, a call
  of a program at a time.
* `readDsrStatistics`, `readRuntimeStatistics` — the sums that are reported, modulo 2^64.

## The argument

Either program ends a frame in one of five ways (`FrameEnd`), each of which counts the frame,
its reason and its action once. What is in the counters of a CPU is what its frames have
counted; when none is on its way, that is made of whole ends.
-/

namespace L4lb.Xdp

open Effect Relation

/-! ### One frame -/

/-- What a frame has come to. -/
structure FrameCounts where
  /-- The statistics were there. -/
  available : Bool := false
  /-- What was counted, the last first. -/
  counts : List XdpCounter := []
  deriving DecidableEq, Repr

/-- After a call and its answer. -/
def FrameCounts.after (s : FrameCounts) : (c : XdpCall) → XdpAnswer c → FrameCounts
  | .lookupStats _, found => { s with available := found }
  | .count counter, _ => { s with counts := counter :: s.counts }
  | _, _ => s

/-- A call is answered in any way. -/
def Counting (c : XdpCall) (s : FrameCounts) (a : XdpAnswer c) (s' : FrameCounts) : Prop := s' = s.after c a

/-- How a frame can end once its statistics were there. -/
inductive FrameEnd where
  /-- It is not one of the service. -/
  | unsupported
  /-- The configuration cannot be used. -/
  | invalidConfig
  /-- There is no backend. -/
  | noBackend
  /-- The redirect was refused. -/
  | helperError
  /-- It goes to a backend. -/
  | redirected
  deriving DecidableEq, Repr

/-- What is returned then; `empty` is what becomes of a frame without a backend. -/
def FrameEnd.action (empty : XdpAction) : FrameEnd → XdpAction
  | .unsupported | .invalidConfig => .pass
  | .noBackend => empty
  | .helperError => .drop
  | .redirected => .redirect

/-- The counter of the reason, if there is one. -/
def FrameEnd.reason : FrameEnd → List XdpCounter
  | .unsupported => [.unsupportedPackets]
  | .invalidConfig => [.invalidConfigPackets]
  | .noBackend => [.noBackendPackets]
  | .helperError => [.helperErrorPackets]
  | .redirected => []

/-- The counter of an action. -/
def XdpAction.counter : XdpAction → XdpCounter
  | .drop => .dropPackets
  | .pass => .passPackets
  | .redirect => .redirectRequests

/-- All that is counted by then, the last first. -/
def FrameEnd.counts (empty : XdpAction) (e : FrameEnd) : List XdpCounter :=
  (e.action empty).counter :: (e.reason ++ [.totalPackets])

/-- A frame has ended as it may: it was passed without its statistics, or it was counted. -/
def Accounted (empty action : XdpAction) (s : FrameCounts) : Prop :=
  s = {} ∧ action = .pass ∨ ∃ e : FrameEnd, s = ⟨true, e.counts empty⟩ ∧ action = e.action empty

/-! ### The programs -/

/-- A call that counts nothing. -/
def XdpCall.Quiet : XdpCall → Prop
  | .lookupStats _ | .count _ => False
  | _ => True

theorem XdpCall.OfFrame.quiet {c : XdpCall} (h : c.OfFrame) : c.Quiet := by
  cases c <;> trivial

variable {α : Type} {s : FrameCounts} {empty : XdpAction}

/-- A frame counts nothing by quiet calls. -/
theorem always_quiet {m : XdpProgram α} (h : m.Uses XdpCall.Quiet) (s : FrameCounts) :
    m.Always Counting (fun _ => True) (fun _ s' => s' = s) s := by
  induction m generalizing s with
  | ret a => rfl
  | call c k ih =>
    rintro a s' rfl
    refine ⟨trivial, ?_⟩
    have hsame : s.after c a = s := by
      have hc := h.1
      cases c <;> first | rfl | cases hc
    rw [hsame]
    exact ih a (h.2 a) s

/-- So it can be looked over. -/
theorem always_quiet_bind {β : Type} {m : XdpProgram α} {f : α → XdpProgram β} {Q : β → FrameCounts → Prop}
    (h : m.Uses XdpCall.Quiet) (hf : ∀ a, (f a).Always Counting (fun _ => True) Q s) :
    (m >>= f).Always Counting (fun _ => True) Q s := by
  refine (always_quiet h s).bind ?_
  rintro a s' rfl
  exact hf a

theorem always_count {Q : Unit → FrameCounts → Prop} {counter : XdpCounter}
    (h : Q () { s with counts := counter :: s.counts }) :
    (count counter).Always Counting (fun _ => True) Q s := by
  rintro a s' rfl
  exact ⟨trivial, h⟩

/-- The frame is counted, and nothing else was. -/
def FrameCounts.started : FrameCounts := ⟨true, [.totalPackets]⟩

theorem always_unsupported :
    unsupported.Always Counting (fun _ => True) (Accounted empty) .started := by
  refine Tree.Always.bind (Q := fun _ s => s = ⟨true, [.unsupportedPackets, .totalPackets]⟩) (always_count rfl) ?_
  rintro a s rfl
  refine Tree.Always.bind (Q := fun _ s => s = ⟨true, FrameEnd.unsupported.counts empty⟩) (always_count rfl) ?_
  rintro a s rfl
  exact .inr ⟨.unsupported, rfl, rfl⟩

theorem always_invalidConfig :
    invalidConfig.Always Counting (fun _ => True) (Accounted empty) .started := by
  refine Tree.Always.bind (Q := fun _ s => s = ⟨true, [.invalidConfigPackets, .totalPackets]⟩) (always_count rfl) ?_
  rintro a s rfl
  refine Tree.Always.bind (Q := fun _ s => s = ⟨true, FrameEnd.invalidConfig.counts empty⟩) (always_count rfl) ?_
  rintro a s rfl
  exact .inr ⟨.invalidConfig, rfl, rfl⟩

theorem uses_storeMac_quiet (offset : ℕ) {bytes : Fin 6 → XdpProgram UInt8}
    (h : ∀ i, (bytes i).Uses XdpCall.Quiet) : (storeMac offset bytes).Uses XdpCall.Quiet := by
  refine Tree.uses_forM (fun i => ?_) _
  exact (h i).bind fun value => Tree.uses_ask trivial

theorem always_redirectFrame (ifindex : UInt32) {destination source : Fin 6 → XdpProgram UInt8}
    (hd : ∀ i, (destination i).Uses XdpCall.Quiet) (hs : ∀ i, (source i).Uses XdpCall.Quiet) :
    (redirectFrame ifindex destination source).Always Counting (fun _ => True) (Accounted empty) .started := by
  refine always_quiet_bind (Tree.uses_ask trivial) fun result => ?_
  split
  · refine Tree.Always.bind (Q := fun _ s => s = ⟨true, [.helperErrorPackets, .totalPackets]⟩) (always_count rfl) ?_
    rintro a s rfl
    refine Tree.Always.bind (Q := fun _ s => s = ⟨true, FrameEnd.helperError.counts empty⟩) (always_count rfl) ?_
    rintro a s rfl
    exact .inr ⟨.helperError, rfl, rfl⟩
  · refine always_quiet_bind (uses_storeMac_quiet _ hd) fun _ => ?_
    refine always_quiet_bind (uses_storeMac_quiet _ hs) fun _ => ?_
    refine Tree.Always.bind (Q := fun _ s => s = ⟨true, FrameEnd.redirected.counts empty⟩) (always_count rfl) ?_
    rintro a s rfl
    exact .inr ⟨.redirected, rfl, rfl⟩

theorem quiet_ofFrame : ∀ c : XdpCall, c.OfFrame → c.Quiet := fun _ h => h.quiet

theorem always_serveStatic (key : UInt32) :
    (serveStatic key).Always Counting (fun _ => True) (Accounted .pass) .started := by
  refine always_quiet_bind (Tree.uses_ask trivial) fun found => ?_
  cases found with
  | none => exact always_invalidConfig
  | some config =>
    dsimp only
    split
    · exact always_invalidConfig
    refine always_quiet_bind (uses_otherDestination quiet_ofFrame trivial trivial) fun other => ?_
    split
    · exact always_unsupported
    split
    · refine Tree.Always.bind (Q := fun _ s => s = ⟨true, [.noBackendPackets, .totalPackets]⟩) (always_count rfl) ?_
      rintro a s rfl
      refine Tree.Always.bind (Q := fun _ s => s = ⟨true, FrameEnd.noBackend.counts .pass⟩) (always_count rfl) ?_
      rintro a s rfl
      exact .inr ⟨.noBackend, rfl, rfl⟩
    refine always_quiet_bind (uses_hashFlow quiet_ofFrame) fun hash => ?_
    refine always_quiet_bind (Tree.uses_ask trivial) fun backend => ?_
    cases backend with
    | none => exact always_invalidConfig
    | some backend =>
      dsimp only
      split
      · exact always_invalidConfig
      · exact always_redirectFrame _ (fun _ => trivial) fun _ => trivial

/-- **Every frame of the static profile is accounted for.** -/
theorem always_xdp_udp_dsr : xdp_udp_dsr.Always Counting (fun _ => True) (Accounted .pass) {} := by
  rintro found s rfl
  refine ⟨trivial, ?_⟩
  cases found with
  | false => exact .inl ⟨rfl, rfl⟩
  | true =>
    refine Tree.Always.bind (m := count .totalPackets) (Q := fun _ s => s = .started) (always_count rfl) ?_
    rintro a s rfl
    refine always_quiet_bind (uses_unsupportedFrame quiet_ofFrame) fun b => ?_
    split
    · exact always_unsupported
    · exact always_serveStatic 0

theorem always_serveSnapshot (map : ℕ) :
    (serveSnapshot map).Always Counting (fun _ => True) (Accounted .drop) .started := by
  have hread : ∀ field, (ask (.read map field)).Uses XdpCall.Quiet := fun field => Tree.uses_ask trivial
  refine always_quiet_bind (Tree.uses_ask trivial) fun found => ?_
  split
  · exact always_invalidConfig
  refine always_quiet_bind (Tree.uses_anyOf fun test htest => ?_) fun b => ?_
  · simp only [List.mem_cons, List.not_mem_nil, or_false] at htest
    rcases htest with rfl | rfl | rfl | rfl <;> exact (hread _).map _
  split
  · exact always_invalidConfig
  refine always_quiet_bind (uses_otherDestination quiet_ofFrame (hread _) (hread _)) fun other => ?_
  split
  · exact always_unsupported
  refine always_quiet_bind (hread _) fun n => ?_
  split
  · refine Tree.Always.bind (Q := fun _ s => s = ⟨true, [.noBackendPackets, .totalPackets]⟩) (always_count rfl) ?_
    rintro a s rfl
    refine Tree.Always.bind (Q := fun _ s => s = ⟨true, FrameEnd.noBackend.counts .drop⟩) (always_count rfl) ?_
    rintro a s rfl
    exact .inr ⟨.noBackend, rfl, rfl⟩
  refine always_quiet_bind (uses_hashFlow quiet_ofFrame) fun hash => ?_
  refine always_quiet_bind (Tree.uses_anyOf fun test htest => ?_) fun b => ?_
  · simp only [List.mem_cons, List.not_mem_nil, or_false] at htest
    rcases htest with rfl | rfl | rfl
    · exact (hread _).map _
    · exact uses_invalidMac fun i => hread _
    · exact uses_invalidMac fun i => hread _
  split
  · exact always_invalidConfig
  refine always_quiet_bind (hread _) fun ifindex => ?_
  exact always_redirectFrame _ (fun i => hread _) fun i => hread _

/-- **Every frame of the runtime profile is accounted for.** -/
theorem always_xdp_udp_rt : xdp_udp_rt.Always Counting (fun _ => True) (Accounted .drop) {} := by
  rintro found s rfl
  refine ⟨trivial, ?_⟩
  cases found with
  | false => exact .inl ⟨rfl, rfl⟩
  | true =>
    refine Tree.Always.bind (m := count .totalPackets) (Q := fun _ s => s = .started) (always_count rfl) ?_
    rintro a s rfl
    refine always_quiet_bind (uses_unsupportedFrame quiet_ofFrame) fun b => ?_
    split
    · exact always_unsupported
    · refine always_quiet_bind (Tree.uses_ask trivial) fun active => ?_
      cases active with
      | none => exact always_invalidConfig
      | some map => exact always_serveSnapshot map

/-! ### All frames -/

/-- A frame on its way. -/
structure FrameRun where
  /-- What is left of the program. -/
  program : XdpProgram XdpAction
  /-- What it has come to. -/
  counts : FrameCounts := {}

/-- A CPU. -/
structure XdpCpu where
  /-- Its own statistics. -/
  stats : UdpDsrStatsValue := fun _ => 0
  /-- The frame it is at. -/
  running : Option FrameRun := none

/-- A frame that has been processed. -/
structure FrameRecord (n : ℕ) where
  /-- Where. -/
  cpu : Fin n
  /-- What was returned. -/
  action : XdpAction
  /-- What it came to. -/
  counts : FrameCounts

/-- All CPUs, and for the record the frames that have been processed. -/
structure XdpMachine (n : ℕ) where
  /-- The CPUs. -/
  cpus : Fin n → XdpCpu := fun _ => {}
  /-- The frames. -/
  finished : List (FrameRecord n) := []

/-- What a call does to the statistics of the CPU that makes it. -/
def countCall (stats : UdpDsrStatsValue) : XdpCall → UdpDsrStatsValue
  | .count counter => Function.update stats counter (stats counter + 1)
  | _ => stats

variable {n : ℕ}

/-- A CPU takes a frame, has a call of it answered in any way, or is done with it. -/
inductive XdpMachine.Step (program : XdpProgram XdpAction) : XdpMachine n → XdpMachine n → Prop where
  /-- A frame comes. -/
  | arrive {m : XdpMachine n} (cpu : Fin n) (h : (m.cpus cpu).running = none) :
      Step program m { m with
        cpus := Function.update m.cpus cpu { m.cpus cpu with running := some { program } } }
  /-- A call is answered. -/
  | answer {m : XdpMachine n} (cpu : Fin n) {c : XdpCall} {k : XdpAnswer c → XdpProgram XdpAction} {s : FrameCounts}
      (a : XdpAnswer c) (h : (m.cpus cpu).running = some ⟨.call c k, s⟩) :
      Step program m { m with
        cpus := Function.update m.cpus cpu ⟨countCall (m.cpus cpu).stats c, some ⟨k a, s.after c a⟩⟩ }
  /-- A frame is done. -/
  | finish {m : XdpMachine n} (cpu : Fin n) {action : XdpAction} {s : FrameCounts}
      (h : (m.cpus cpu).running = some ⟨.ret action, s⟩) :
      Step program m {
        cpus := Function.update m.cpus cpu { m.cpus cpu with running := none }
        finished := ⟨cpu, action, s⟩ :: m.finished }

/-- No frame is on its way. -/
def XdpMachine.Idle (m : XdpMachine n) : Prop := ∀ cpu, (m.cpus cpu).running = none

/-- What `bpf_map_lookup_elem` reads: the statistics of each CPU. -/
def XdpMachine.values (m : XdpMachine n) : List UdpDsrStatsValue :=
  (List.finRange n).map fun cpu => (m.cpus cpu).stats

/-- What `readDsrStatistics` and `readRuntimeStatistics` throw. -/
inductive StatisticsError where
  /-- `无效 possible CPU 数量`. -/
  | possibleCpus
  /-- `throwMapSystemError`. -/
  | mapOperation (operation : String) (error : Errno)
  deriving DecidableEq, Repr

/-- What `readDsrStatistics` and `readRuntimeStatistics` share: `possibleCpus` and `lookup` are what the two
calls answer. -/
def readStatistics (operation : String) (possibleCpus : ℤ) (lookup : Except Errno (List UdpDsrStatsValue)) :
    Except StatisticsError UdpDsrStatsValue :=
  if possibleCpus ≤ 0 ∨ possibleCpus > (2 ^ 64 - 1) / 64 then .error .possibleCpus
  else
    match lookup with
    | .error error => .error (.mapOperation operation error)
    | .ok values => .ok (values.foldl (fun sum value counter => sum counter + value counter) fun _ => 0)

/-- `readDsrStatistics`. -/
def readDsrStatistics : ℤ → Except Errno (List UdpDsrStatsValue) → Except StatisticsError UdpDsrStatsValue :=
  readStatistics "读取 stats"

/-- `readRuntimeStatistics`. -/
def readRuntimeStatistics : ℤ → Except Errno (List UdpDsrStatsValue) → Except StatisticsError UdpDsrStatsValue :=
  readStatistics "读取 runtime stats"

/-! ### What is in the counters -/

/-- How often the frames of a list have counted something. -/
def tally (finished : List (FrameRecord n)) (counter : XdpCounter) : ℕ :=
  (finished.map fun record => record.counts.counts.count counter).sum

/-- How often the frames of a CPU have. -/
def XdpMachine.tallyAt (m : XdpMachine n) (cpu : Fin n) (counter : XdpCounter) : ℕ :=
  tally (m.finished.filter (·.cpu = cpu)) counter +
    ((m.cpus cpu).running.map fun run => run.counts.counts.count counter).getD 0

/-- What holds of the machine at any time. -/
structure XdpMachine.Sound (empty : XdpAction) (m : XdpMachine n) : Prop where
  /-- What is in a counter was counted. -/
  stats : ∀ cpu counter, (m.cpus cpu).stats counter = UInt64.ofNat (m.tallyAt cpu counter)
  /-- A frame on its way will be accounted for. -/
  running : ∀ cpu run, (m.cpus cpu).running = some run →
    run.program.Always Counting (fun _ => True) (Accounted empty) run.counts
  /-- And one that has been processed is. -/
  finished : ∀ record ∈ m.finished, Accounted empty record.action record.counts

/-- A call adds to the statistics what it adds to the frame. -/
theorem countCall_eq {stats : UdpDsrStatsValue} {c : XdpCall} (a : XdpAnswer c) {counter : XdpCounter} {before : ℕ}
    (h : stats counter = UInt64.ofNat (before + s.counts.count counter)) :
    countCall stats c counter = UInt64.ofNat (before + (s.after c a).counts.count counter) := by
  cases c with
  | count counted =>
    by_cases hcounter : counter = counted
    · subst hcounter
      simp only [countCall, Function.update_self, FrameCounts.after, List.count_cons_self]
      rw [h, ← Nat.add_assoc]
      exact (UInt64.ofNat_add _ 1).symm
    · have hne : ¬ counted = counter := fun he => hcounter he.symm
      simpa [countCall, FrameCounts.after, hcounter, hne, List.count_cons] using h
  | _ => exact h

theorem XdpMachine.Step.sound {program : XdpProgram XdpAction} {m m' : XdpMachine n} (hstep : Step program m m')
    (hprogram : program.Always Counting (fun _ => True) (Accounted empty) {}) (h : m.Sound empty) : m'.Sound empty := by
  cases hstep with
  | arrive cpu hidle =>
    refine ⟨fun cpu' counter => ?_, fun cpu' run hrun => ?_, h.finished⟩
    · have hstats := h.stats cpu' counter
      by_cases hcpu : cpu' = cpu
      · subst hcpu
        simpa [XdpMachine.tallyAt, hidle] using hstats
      · simpa [XdpMachine.tallyAt, hcpu] using hstats
    · by_cases hcpu : cpu' = cpu
      · subst hcpu
        simp only [Function.update_self, Option.some.injEq] at hrun
        rw [← hrun]
        exact hprogram
      · simp only [Function.update_of_ne hcpu] at hrun
        exact h.running cpu' run hrun
  | @answer cpu c k s a hcall =>
    have hrest := h.running cpu _ hcall
    refine ⟨fun cpu' counter => ?_, fun cpu' run hrun => ?_, h.finished⟩
    · have hstats := h.stats cpu' counter
      by_cases hcpu : cpu' = cpu
      · subst hcpu
        simp only [XdpMachine.tallyAt, hcall, Option.map_some, Option.getD_some] at hstats
        simp only [XdpMachine.tallyAt, Function.update_self, Option.map_some, Option.getD_some]
        exact countCall_eq a hstats
      · simpa [XdpMachine.tallyAt, hcpu] using hstats
    · by_cases hcpu : cpu' = cpu
      · subst hcpu
        simp only [Function.update_self, Option.some.injEq] at hrun
        rw [← hrun]
        exact (hrest a _ rfl).2
      · simp only [Function.update_of_ne hcpu] at hrun
        exact h.running cpu' run hrun
  | @finish cpu action s hdone =>
    have hend := h.running cpu _ hdone
    refine ⟨fun cpu' counter => ?_, fun cpu' run hrun => ?_, fun record hrecord => ?_⟩
    · have hstats := h.stats cpu' counter
      by_cases hcpu : cpu' = cpu
      · subst hcpu
        simp only [XdpMachine.tallyAt, hdone, Option.map_some, Option.getD_some] at hstats
        simp only [XdpMachine.tallyAt, Function.update_self, decide_true, List.filter_cons_of_pos, tally, List.map_cons,
          List.sum_cons, Option.map_none, Option.getD_none, Nat.add_zero]
        rw [hstats, Nat.add_comm, tally]
      · have hne : ¬ cpu = cpu' := fun he => hcpu he.symm
        simpa [XdpMachine.tallyAt, hcpu, hne] using hstats
    · by_cases hcpu : cpu' = cpu
      · subst hcpu
        simp at hrun
      · simp only [Function.update_of_ne hcpu] at hrun
        exact h.running cpu' run hrun
    · rcases List.mem_cons.mp hrecord with rfl | hrecord
      · exact hend
      · exact h.finished record hrecord

theorem XdpMachine.sound_init (empty : XdpAction) : ({} : XdpMachine n).Sound empty :=
  ⟨fun _ _ => rfl, nofun, nofun⟩

/-- What holds at any time of a run. -/
theorem sound_of_run {program : XdpProgram XdpAction} {m : XdpMachine n}
    (hprogram : program.Always Counting (fun _ => True) (Accounted empty) {})
    (h : ReflTransGen (XdpMachine.Step program) {} m) : m.Sound empty := by
  induction h with
  | refl => exact XdpMachine.sound_init empty
  | tail _ hstep ih => exact hstep.sound hprogram ih

/-! ### The sums -/

theorem foldl_stats (values : List UdpDsrStatsValue) (sum : UdpDsrStatsValue) (counter : XdpCounter) :
    values.foldl (fun sum value counter => sum counter + value counter) sum counter =
      values.foldl (fun total value => total + value counter) (sum counter) := by
  induction values generalizing sum with
  | nil => rfl
  | cons value values ih => rw [List.foldl_cons, List.foldl_cons, ih]

theorem foldl_ofNat {cpus : List (Fin n)} {stats : Fin n → UInt64} {f : Fin n → ℕ}
    (h : ∀ cpu, stats cpu = UInt64.ofNat (f cpu)) (before : ℕ) :
    cpus.foldl (fun total cpu => total + stats cpu) (UInt64.ofNat before) =
      UInt64.ofNat (before + (cpus.map f).sum) := by
  induction cpus generalizing before with
  | nil => rfl
  | cons cpu cpus ih =>
    rw [List.foldl_cons, h, ← UInt64.ofNat_add, ih, List.map_cons, List.sum_cons, Nat.add_assoc]

/-- The frames of all CPUs are all frames. -/
theorem sum_tally_filter (finished : List (FrameRecord n)) (counter : XdpCounter) :
    ((List.finRange n).map fun cpu => tally (finished.filter (·.cpu = cpu)) counter).sum = tally finished counter := by
  rw [← Fin.sum_univ_def]
  induction finished with
  | nil => simp [tally]
  | cons record finished ih =>
    have hcons : ∀ cpu, tally ((record :: finished).filter (·.cpu = cpu)) counter =
        (if record.cpu = cpu then record.counts.counts.count counter else 0) +
          tally (finished.filter (·.cpu = cpu)) counter := by
      intro cpu
      by_cases hcpu : record.cpu = cpu
      · simp [hcpu, tally]
      · simp [hcpu, tally]
    simp only [hcons, Finset.sum_add_distrib, Finset.sum_ite_eq, Finset.mem_univ, if_true, ih]
    simp [tally]

/-- **What is reported is what the frames have counted**, modulo 2^64. -/
theorem readStatistics_eq {m : XdpMachine n} (operation : String) (hn : 0 < n) (hint : n < 2 ^ 31)
    (hidle : m.Idle) (h : m.Sound empty) :
    readStatistics operation n (.ok m.values) = .ok fun counter => UInt64.ofNat (tally m.finished counter) := by
  have hcpus : ¬ ((n : ℤ) ≤ 0 ∨ (n : ℤ) > (2 ^ 64 - 1) / 64) := by omega
  rw [readStatistics, if_neg hcpus]
  refine congrArg Except.ok (funext fun counter => ?_)
  have hstats : ∀ cpu, (m.cpus cpu).stats counter =
      UInt64.ofNat (tally (m.finished.filter (·.cpu = cpu)) counter) := by
    intro cpu
    rw [h.stats cpu counter, XdpMachine.tallyAt, hidle cpu]
    rfl
  rw [foldl_stats, XdpMachine.values, List.foldl_map]
  refine (foldl_ofNat hstats 0).trans ?_
  rw [Nat.zero_add, sum_tally_filter]

/-! ### The parts -/

variable {action : XdpAction} {finished : List (FrameRecord n)}

/-- What one frame adds to the total, and to its action. -/
theorem Accounted.counted (hempty : empty = .pass ∨ empty = .drop) (h : Accounted empty action s) :
    s.counts.count .totalPackets = (if s.available then 1 else 0) ∧
      ∀ a : XdpAction, s.counts.count a.counter = if s.available ∧ action = a then 1 else 0 := by
  rcases h with ⟨rfl, rfl⟩ | ⟨e, rfl, rfl⟩
  · exact ⟨rfl, fun a => by simp⟩
  · rcases hempty with rfl | rfl
    · cases e <;> exact ⟨rfl, fun a => by cases a <;> rfl⟩
    · cases e <;> exact ⟨rfl, fun a => by cases a <;> rfl⟩

/-- And to the reasons of the static profile. -/
theorem Accounted.static (h : Accounted .pass action s) :
    s.counts.count .passPackets = s.counts.count .unsupportedPackets + s.counts.count .noBackendPackets +
        s.counts.count .invalidConfigPackets ∧
      s.counts.count .dropPackets = s.counts.count .helperErrorPackets := by
  rcases h with ⟨rfl, rfl⟩ | ⟨e, rfl, rfl⟩
  · exact ⟨rfl, rfl⟩
  · cases e <;> exact ⟨rfl, rfl⟩

/-- And to those of the runtime profile. -/
theorem Accounted.runtime (h : Accounted .drop action s) :
    s.counts.count .passPackets = s.counts.count .unsupportedPackets + s.counts.count .invalidConfigPackets ∧
      s.counts.count .dropPackets = s.counts.count .noBackendPackets + s.counts.count .helperErrorPackets := by
  rcases h with ⟨rfl, rfl⟩ | ⟨e, rfl, rfl⟩
  · exact ⟨rfl, rfl⟩
  · cases e <;> exact ⟨rfl, rfl⟩

/-- What holds of each frame holds of all. -/
theorem tally_eq_add {c c₁ c₂ : XdpCounter} (h : ∀ record ∈ finished, record.counts.counts.count c =
      record.counts.counts.count c₁ + record.counts.counts.count c₂) :
    tally finished c = tally finished c₁ + tally finished c₂ := by
  rw [tally, tally, tally, ← List.sum_map_add]
  exact congrArg _ (List.map_congr_left h)

theorem tally_eq_countP {c : XdpCounter} {p : FrameRecord n → Bool}
    (h : ∀ record ∈ finished, record.counts.counts.count c = if p record then 1 else 0) :
    tally finished c = finished.countP p := by
  induction finished with
  | nil => rfl
  | cons record finished ih =>
    have ih := ih fun record hrecord => h record (List.mem_cons_of_mem _ hrecord)
    have hrecord := h record List.mem_cons_self
    rw [tally] at ih
    rw [tally, List.map_cons, List.sum_cons, hrecord, List.countP_cons, ih, Nat.add_comm]

/-- What summed statistics say of the frames that were processed. -/
structure Partition (sum : UdpDsrStatsValue) (finished : List (FrameRecord n)) : Prop where
  /-- The actions make up the total. -/
  total : sum .totalPackets = sum .passPackets + sum .redirectRequests + sum .dropPackets
  /-- The total is the number of frames whose statistics were there. -/
  frames : sum .totalPackets = UInt64.ofNat (finished.countP fun record => record.counts.available)
  /-- Each action has the number of those it was returned for. -/
  actions : ∀ action : XdpAction, sum action.counter =
    UInt64.ofNat (finished.countP fun record => record.counts.available && record.action = action)
  /-- Each of them has counted the action it returned, once, and no other. -/
  counted : ∀ record ∈ finished, record.counts.available = true → ∀ action : XdpAction,
    record.counts.counts.count action.counter = if record.action = action then 1 else 0
  /-- Without its statistics a frame is passed, and counts nothing. -/
  uncounted : ∀ record ∈ finished, record.counts.available = false →
    record.counts.counts = [] ∧ record.action = .pass

theorem partition_of_sound {m : XdpMachine n} (hempty : empty = .pass ∨ empty = .drop) (h : m.Sound empty) :
    Partition (fun counter => UInt64.ofNat (tally m.finished counter)) m.finished := by
  have htotal : tally m.finished .totalPackets = m.finished.countP fun record => record.counts.available :=
    tally_eq_countP fun record hrecord => ((h.finished record hrecord).counted hempty).1
  have haction : ∀ action : XdpAction, tally m.finished action.counter =
      m.finished.countP fun record => record.counts.available && record.action = action := by
    intro action
    refine tally_eq_countP fun record hrecord => ?_
    rw [((h.finished record hrecord).counted hempty).2 action]
    simp
  have hsplit : tally m.finished .totalPackets =
      tally m.finished .passPackets + tally m.finished .redirectRequests + tally m.finished .dropPackets := by
    rw [tally, tally, tally, tally, ← List.sum_map_add, ← List.sum_map_add]
    refine congrArg _ (List.map_congr_left fun record hrecord => ?_)
    obtain ⟨htotal, hactions⟩ := (h.finished record hrecord).counted hempty
    have hpass := hactions .pass
    have hredirect := hactions .redirect
    have hdrop := hactions .drop
    simp only [XdpAction.counter] at hpass hredirect hdrop
    rw [htotal, hpass, hredirect, hdrop]
    cases record.counts.available <;> cases record.action <;> rfl
  refine ⟨?_, ?_, fun action => ?_, fun record hrecord havailable action => ?_, fun record hrecord habsent => ?_⟩
  · simp only [hsplit, UInt64.ofNat_add]
  · simp only [htotal]
  · simp only [haction]
  · rw [((h.finished record hrecord).counted hempty).2 action]
    simp [havailable]
  · rcases h.finished record hrecord with ⟨hs, hpass⟩ | ⟨e, hs, _⟩
    · rw [hs]
      exact ⟨rfl, hpass⟩
    · rw [hs] at habsent
      cases habsent

/-- **The counters add up.** After any frames on any CPUs, their calls answered in any way and in any order between
the CPUs, the statistics that are read split the total into what was passed, redirected and dropped, and what was
passed or dropped into its reasons, modulo 2^64. -/
theorem xdp_counter_partition (n : ℕ) (m : XdpMachine n) (hidle : m.Idle) :
    (ReflTransGen (XdpMachine.Step xdp_udp_dsr) {} m → ∃ sum : UdpDsrStatsValue,
      (0 < n → n < 2 ^ 31 → readDsrStatistics n (.ok m.values) = .ok sum) ∧ Partition sum m.finished ∧
      sum .passPackets = sum .unsupportedPackets + sum .noBackendPackets + sum .invalidConfigPackets ∧
      sum .dropPackets = sum .helperErrorPackets) ∧
    (ReflTransGen (XdpMachine.Step xdp_udp_rt) {} m → ∃ sum : UdpDsrStatsValue,
      (0 < n → n < 2 ^ 31 → readRuntimeStatistics n (.ok m.values) = .ok sum) ∧ Partition sum m.finished ∧
      sum .passPackets = sum .unsupportedPackets + sum .invalidConfigPackets ∧
      sum .dropPackets = sum .noBackendPackets + sum .helperErrorPackets) := by
  refine ⟨fun hrun => ?_, fun hrun => ?_⟩
  · have h := sound_of_run always_xdp_udp_dsr hrun
    refine ⟨_, fun hn hint => readStatistics_eq _ hn hint hidle h, partition_of_sound (.inl rfl) h, ?_, ?_⟩
    · have hpass : tally m.finished .passPackets = tally m.finished .unsupportedPackets +
          tally m.finished .noBackendPackets + tally m.finished .invalidConfigPackets := by
        rw [tally, tally, tally, tally, ← List.sum_map_add, ← List.sum_map_add]
        exact congrArg _ (List.map_congr_left fun record hrecord => (h.finished record hrecord).static.1)
      simp only [hpass, UInt64.ofNat_add]
    · have hdrop : tally m.finished .dropPackets = tally m.finished .helperErrorPackets :=
        congrArg List.sum (List.map_congr_left fun record hrecord => (h.finished record hrecord).static.2)
      simp only [hdrop]
  · have h := sound_of_run always_xdp_udp_rt hrun
    refine ⟨_, fun hn hint => readStatistics_eq _ hn hint hidle h, partition_of_sound (.inr rfl) h, ?_, ?_⟩
    · have hpass := tally_eq_add fun record hrecord => (h.finished record hrecord).runtime.1
      simp only [hpass, UInt64.ofNat_add]
    · have hdrop := tally_eq_add fun record hrecord => (h.finished record hrecord).runtime.2
      simp only [hdrop, UInt64.ofNat_add]

/-! ### Two CPUs -/

/-- A frame on its way can be carried to its end: its calls are answered by `f`, and no other CPU moves. -/
theorem XdpMachine.exists_finished {program : XdpProgram XdpAction} {m₀ m : XdpMachine n}
    {tree : XdpProgram XdpAction} {s ended : FrameCounts} {action : XdpAction} {f : (c : XdpCall) → XdpAnswer c}
    (hrun : ReflTransGen (XdpMachine.Step program) m₀ m) (cpu : Fin n)
    (hrunning : (m.cpus cpu).running = some ⟨tree, s⟩)
    (hended : tree.play (fun (_ : Unit) c s => (f c, s.after c (f c))) () [] s = (action, ended)) :
    ∃ m' : XdpMachine n, ReflTransGen (XdpMachine.Step program) m₀ m' ∧ (m'.cpus cpu).running = none ∧
      (∀ other, other ≠ cpu → m'.cpus other = m.cpus other) ∧ m'.finished = ⟨cpu, action, ended⟩ :: m.finished := by
  induction tree generalizing m s with
  | ret a =>
    obtain ⟨rfl, rfl⟩ := Prod.mk.inj hended
    refine ⟨_, hrun.tail (.finish cpu hrunning), ?_, fun other hother => ?_, rfl⟩
    · simp only [Function.update_self]
    · simp only [Function.update_of_ne hother]
  | call c k ih =>
    have hnext : (Function.update m.cpus cpu ⟨countCall (m.cpus cpu).stats c, some ⟨k (f c), s.after c (f c)⟩⟩
        cpu).running = some ⟨k (f c), s.after c (f c)⟩ := by rw [Function.update_self]
    obtain ⟨m', hrun, hdone, hothers, hfinished⟩ := ih (f c) (hrun.tail (.answer cpu (f c) hrunning)) hnext hended
    refine ⟨m', hrun, hdone, fun other hother => ?_, hfinished⟩
    rw [hothers other hother]
    simp only [Function.update_of_ne hother]

instance : (field : SnapshotField) → Inhabited field.Value
  | .schemaVersion | .backendCount | .vipAddress | .ifindex _ => inferInstanceAs (Inhabited UInt32)
  | .generation => inferInstanceAs (Inhabited UInt64)
  | .vipPort | .reserved => inferInstanceAs (Inhabited UInt16)
  | .destinationMac _ _ | .sourceMac _ _ => inferInstanceAs (Inhabited UInt8)

/-- The answers for a frame when each slot of the static profile has the one backend and redirects are accepted. -/
def answerFrame (frame : Bytes) (config : UdpDsrConfigValue) (backend : UdpDsrBackendValue) :
    (c : XdpCall) → XdpAnswer c
  | .frameLength => frame.length
  | .load offset => frame.getD offset 0
  | .store _ _ | .count _ => ()
  | .lookupStats _ | .lookupSnapshot _ _ => true
  | .redirectPacket _ => XDP_REDIRECT
  | .lookupConfig _ => some config
  | .lookupBackend _ => some backend
  | .lookupActive _ => none
  | .read _ _ => default

/-- While a frame of the service is on its way on one of two CPUs, an empty one comes to the other and is passed;
the first is then redirected. -/
theorem xdp_counter_partition_two : ∃ m : XdpMachine 2,
    m.finished.map (fun record => (record.cpu, record.action)) = [(0, .redirect), (1, .pass)] ∧
    ∃ sum : UdpDsrStatsValue, readDsrStatistics 2 (.ok m.values) = .ok sum ∧ sum .totalPackets = 2 ∧
      sum .redirectRequests = 1 ∧ sum .passPackets = 1 ∧ sum .dropPackets = 0 ∧
      sum .passPackets = sum .unsupportedPackets + sum .noBackendPackets + sum .invalidConfigPackets := by
  let frame : Bytes := [2, 0, 0, 0, 0, 1, 2, 0, 0, 0, 0, 2, 8, 0, 0x45, 0, 0, 28, 0, 0, 0, 0, 64, 17, 0xee, 0xa1,
    198, 18, 0, 1, 198, 18, 0, 10, 0x12, 0x34, 0, 80, 0, 8, 0, 0]
  let config : UdpDsrConfigValue := ⟨2, 1, 0x0a0012c6, 0x5000, 0⟩
  let backend : UdpDsrBackendValue := ⟨2, .replicate 6 4, .replicate 6 2⟩
  have hrun : ∃ m : XdpMachine 2, ReflTransGen (XdpMachine.Step xdp_udp_dsr) {} m ∧ m.Idle ∧
      m.finished = [⟨0, .redirect, ⟨true, [.redirectRequests, .totalPackets]⟩⟩,
        ⟨1, .pass, ⟨true, [.passPackets, .unsupportedPackets, .totalPackets]⟩⟩] := by
    have hpass : xdp_udp_dsr.play (fun (_ : Unit) c s => (answerFrame [] config backend c,
        FrameCounts.after s c (answerFrame [] config backend c))) () [] {} =
          (.pass, ⟨true, [.passPackets, .unsupportedPackets, .totalPackets]⟩) := by decide +kernel
    have hredirect : xdp_udp_dsr.play (fun (_ : Unit) c s => (answerFrame frame config backend c,
        FrameCounts.after s c (answerFrame frame config backend c))) () [] {} =
          (.redirect, ⟨true, [.redirectRequests, .totalPackets]⟩) := by decide +kernel
    have harrived : ReflTransGen (XdpMachine.Step (n := 2) xdp_udp_dsr) {} _ := .single (.arrive 0 rfl)
    have hcounted := (harrived.tail (.answer 0 true rfl)).tail (.answer 0 () rfl)
    obtain ⟨m₁, hrun₁, hidle₁, hothers₁, hfinished₁⟩ :=
      XdpMachine.exists_finished (hcounted.tail (.arrive 1 rfl)) 1 rfl hpass
    obtain ⟨m₂, hrun₂, hidle₂, hothers₂, hfinished₂⟩ :=
      XdpMachine.exists_finished hrun₁ 0 (congrArg XdpCpu.running (hothers₁ 0 (by decide))) hredirect
    refine ⟨m₂, hrun₂, fun cpu => ?_, hfinished₂.trans (congrArg _ hfinished₁)⟩
    match cpu with
    | 0 => exact hidle₂
    | 1 => exact (congrArg XdpCpu.running (hothers₂ 1 (by decide))).trans hidle₁
  obtain ⟨m, hrun, hidle, hfinished⟩ := hrun
  obtain ⟨sum, hread, hpartition, hpass, _⟩ := (xdp_counter_partition 2 m hidle).1 hrun
  rw [hfinished] at hpartition
  exact ⟨m, congrArg _ hfinished, sum, hread (by decide) (by decide), hpartition.frames, hpartition.actions .redirect,
    hpartition.actions .pass, hpartition.actions .drop, hpass⟩

end L4lb.Xdp
