import Mathlib.Data.List.Rotate
import Mathlib.Data.List.Nodup

/-!
# The round-robin scheduler, and selection among the eligible

`RoundRobinScheduler.h` goes round a fixed pool; `selectEligibleBackendIndex` of
`HealthSelection.cpp` asks it until it names a backend that is eligible.

## The model

A scheduler carries that its cursor is a place of the pool, so that the pool is not
empty. `RoundRobinScheduler.order` is the pool as it will be visited, from the cursor on.

## What is proved

A selection takes the first eligible backend of the order and turns the order to just
behind it (`selectEligibleBackendIndex_eq`). So what a backend waits for only shrinks
while it is eligible (`mem_picks_of_eligible`), and under one eligible set the eligible
are taken in their order (`picks_replicate`).
-/

namespace L4lb

/-- `SchedulerKind`. -/
inductive SchedulerKind where
  /-- `kRoundRobin`. -/
  | roundRobin
  deriving DecidableEq, Repr

/-- `RoundRobinScheduler`. -/
@[ext] structure RoundRobinScheduler where
  /-- The size of the pool. -/
  backendCount : ℕ
  /-- The backend that is next. -/
  nextBackendIndex : ℕ
  /-- It is one of the pool. -/
  next_lt : nextBackendIndex < backendCount
  deriving DecidableEq, Repr

/-- The constructor, which throws of an empty pool. -/
def RoundRobinScheduler.new (backendCount : ℕ) : Option RoundRobinScheduler :=
  if h : 0 < backendCount then some ⟨backendCount, 0, h⟩ else none

/-- `createBackendScheduler`. -/
def createBackendScheduler (kind : SchedulerKind) (backendCount : ℕ) : Option RoundRobinScheduler :=
  match kind with
  | .roundRobin => RoundRobinScheduler.new backendCount

/-- What `selectEligibleBackendIndex` throws. -/
inductive SelectionError where
  /-- `std::out_of_range`, from `at`. -/
  | outOfRange
  /-- `scheduler did not visit eligible backend`. -/
  | notVisited
  deriving DecidableEq, Repr

namespace RoundRobinScheduler

/-- `selectNextBackendIndex`: the backend, and the scheduler after it. -/
def selectNextBackendIndex (s : RoundRobinScheduler) : ℕ × RoundRobinScheduler :=
  (s.nextBackendIndex,
    ⟨s.backendCount, if s.nextBackendIndex = s.backendCount - 1 then 0 else s.nextBackendIndex + 1, by
      have := s.next_lt
      split <;> omega⟩)

/-- The loop of `selectEligibleBackendIndex`, with so many attempts left. -/
def visitBackends (eligible : List Bool) :
    ℕ → RoundRobinScheduler → Except SelectionError ℕ × RoundRobinScheduler
  | 0, s => (.error .notVisited, s)
  | attempts + 1, s =>
    let (backendIndex, s) := s.selectNextBackendIndex
    match eligible[backendIndex]? with
    | none => (.error .outOfRange, s)
    | some true => (.ok backendIndex, s)
    | some false => visitBackends eligible attempts s

/-- `selectEligibleBackendIndex`. -/
def selectEligibleBackendIndex (s : RoundRobinScheduler) (eligible : List Bool) :
    Except SelectionError (Option ℕ) × RoundRobinScheduler :=
  if eligible.any id = false then (.ok none, s)
  else
    match visitBackends eligible eligible.length s with
    | (.ok backendIndex, s) => (.ok (some backendIndex), s)
    | (.error e, s) => (.error e, s)

/-- Calls one after the other, each with its own eligible set: what each returned, and
the scheduler after them. -/
def picks : RoundRobinScheduler → List (List Bool) → List (Except SelectionError (Option ℕ)) × RoundRobinScheduler
  | s, [] => ([], s)
  | s, eligible :: rest =>
    let (pick, s) := s.selectEligibleBackendIndex eligible
    let (later, s) := picks s rest
    (pick :: later, s)

/-- The pool in the order of its next visits. -/
def order (s : RoundRobinScheduler) : List ℕ := (List.range s.backendCount).rotate s.nextBackendIndex

/-! ### The order -/

variable {s : RoundRobinScheduler} {eligible : List Bool}

@[simp] theorem length_order (s : RoundRobinScheduler) : s.order.length = s.backendCount := by
  simp [order]

theorem order_perm (s : RoundRobinScheduler) : s.order.Perm (List.range s.backendCount) :=
  List.rotate_perm _ _

theorem mem_order {b : ℕ} : b ∈ s.order ↔ b < s.backendCount := by
  simp [order]

theorem nodup_order (s : RoundRobinScheduler) : s.order.Nodup :=
  s.order_perm.nodup_iff.mpr List.nodup_range

/-- What is visited `k` steps on. -/
theorem getElem_order {k : ℕ} (h : k < s.order.length) :
    s.order[k] = (s.nextBackendIndex + k) % s.backendCount := by
  simp [order, List.getElem_rotate, Nat.add_comm]

theorem backendCount_next (s : RoundRobinScheduler) : s.selectNextBackendIndex.2.backendCount = s.backendCount :=
  rfl

theorem nextBackendIndex_next (s : RoundRobinScheduler) :
    s.selectNextBackendIndex.2.nextBackendIndex = (s.nextBackendIndex + 1) % s.backendCount := by
  have hlt := s.next_lt
  show (if s.nextBackendIndex = s.backendCount - 1 then 0 else s.nextBackendIndex + 1) = _
  split
  · rename_i h
    rw [show s.nextBackendIndex + 1 = s.backendCount by omega, Nat.mod_self]
  · rw [Nat.mod_eq_of_lt (by omega)]

/-- A visit takes the head of the order to its end. -/
theorem order_next (s : RoundRobinScheduler) :
    s.order = s.nextBackendIndex :: s.order.tail ∧
      s.selectNextBackendIndex.2.order = s.order.tail ++ [s.nextBackendIndex] := by
  have hpos : 0 < s.order.length := by
    rw [length_order]
    exact Nat.lt_of_le_of_lt (Nat.zero_le _) s.next_lt
  have hhead : s.order = s.nextBackendIndex :: s.order.tail := by
    have h0 : s.order[0] = s.nextBackendIndex := by
      rw [getElem_order, Nat.add_zero, Nat.mod_eq_of_lt s.next_lt]
    rw [← h0]
    exact (List.cons_getElem_drop_succ (h := hpos)).symm.trans (by simp)
  have hnext : s.selectNextBackendIndex.2.order = s.order.rotate 1 := by
    rw [order, backendCount_next, nextBackendIndex_next, order, List.rotate_rotate]
    conv_lhs => rw [show s.backendCount = (List.range s.backendCount).length by simp]
    simpa using List.rotate_mod (List.range s.backendCount) (s.nextBackendIndex + 1)
  refine ⟨hhead, ?_⟩
  rw [hnext]
  conv_lhs => rw [hhead]
  simp

/-! ### One selection -/

/-- The loop takes the first eligible backend of the order, and leaves the order turned
to just behind it. -/
theorem visitBackends_eq {pre post : List ℕ} {b attempts : ℕ} (hlength : eligible.length = s.backendCount)
    (horder : s.order = pre ++ b :: post) (hb : eligible[b]? = some true)
    (hpre : ∀ x ∈ pre, eligible[x]? ≠ some true) (hattempts : pre.length < attempts) :
    ∃ s', visitBackends eligible attempts s = (.ok b, s') ∧ s'.backendCount = s.backendCount ∧
      s'.nextBackendIndex = (b + 1) % s.backendCount ∧ s'.order = post ++ (pre ++ [b]) := by
  induction attempts generalizing s pre post with
  | zero => omega
  | succ attempts ih =>
    obtain ⟨hhead, hnext⟩ := s.order_next
    rw [horder] at hhead hnext
    cases pre with
    | nil =>
      obtain ⟨hbx, -⟩ := List.cons.inj hhead
      refine ⟨s.selectNextBackendIndex.2, ?_, rfl, ?_, ?_⟩
      · have hsel : s.selectNextBackendIndex = (b, s.selectNextBackendIndex.2) := Prod.ext hbx.symm rfl
        rw [visitBackends, hsel]
        simp only [hb]
      · rw [nextBackendIndex_next, ← hbx]
      · rw [hnext, ← hbx]
        rfl
    | cons x pre =>
      obtain ⟨hx, -⟩ := List.cons.inj hhead
      have hlt : x < eligible.length := by
        rw [hlength, hx]
        exact s.next_lt
      have hxno : eligible[x]? = some false := by
        have := hpre x List.mem_cons_self
        rw [List.getElem?_eq_getElem hlt] at this ⊢
        simpa using this
      obtain ⟨s', hrun, hcount, hcursor, hturned⟩ :=
        @ih s.selectNextBackendIndex.2 pre (post ++ [x]) hlength
          (by rw [hnext, ← hx]; simp) (fun y hy => hpre y (List.mem_cons_of_mem x hy)) (by
            simpa using hattempts)
      refine ⟨s', ?_, hcount, hcursor, by rw [hturned]; simp⟩
      have hsel : s.selectNextBackendIndex = (x, s.selectNextBackendIndex.2) := Prod.ext hx.symm rfl
      rw [visitBackends, hsel]
      simpa only [hxno] using hrun

/-- Of a pool with an eligible backend: the order up to the first that is. -/
theorem exists_first (h : ∃ b < s.backendCount, eligible[b]? = some true) :
    ∃ pre b post, s.order = pre ++ b :: post ∧ eligible[b]? = some true ∧
      ∀ x ∈ pre, eligible[x]? ≠ some true := by
  obtain ⟨b, hb, hel⟩ := h
  have hsome : (s.order.find? fun x => decide (eligible[x]? = some true)).isSome :=
    List.find?_isSome.mpr ⟨b, mem_order.mpr hb, decide_eq_true hel⟩
  obtain ⟨x, hx⟩ := Option.isSome_iff_exists.mp hsome
  obtain ⟨hx, pre, post, horder, hpre⟩ := List.find?_eq_some_iff_append.mp hx
  exact ⟨pre, x, post, horder, of_decide_eq_true hx, fun y hy => by simpa using hpre y hy⟩

theorem any_id_iff : eligible.any id = true ↔ ∃ b < eligible.length, eligible[b]? = some true := by
  rw [List.any_eq_true]
  constructor
  · rintro ⟨_, hmem, rfl⟩
    obtain ⟨b, hb, hval⟩ := List.getElem_of_mem hmem
    exact ⟨b, hb, by rw [List.getElem?_eq_getElem hb, hval]⟩
  · rintro ⟨b, -, hval⟩
    exact ⟨true, List.mem_of_getElem? hval, rfl⟩

/-- **A selection** finds none, and leaves the scheduler as it is, when no backend is
eligible. Otherwise it takes the first eligible one of the order and turns the order to
just behind it. -/
theorem selectEligibleBackendIndex_eq (s : RoundRobinScheduler) (hlength : eligible.length = s.backendCount) :
    (eligible.any id = false ∧ s.selectEligibleBackendIndex eligible = (.ok none, s)) ∨
      ∃ pre b post s', s.order = pre ++ b :: post ∧ eligible[b]? = some true ∧
        (∀ x ∈ pre, eligible[x]? ≠ some true) ∧
        s.selectEligibleBackendIndex eligible = (.ok (some b), s') ∧
        s'.backendCount = s.backendCount ∧ s'.nextBackendIndex = (b + 1) % s.backendCount ∧
        s'.order = post ++ (pre ++ [b]) := by
  cases hany : eligible.any id with
  | false => exact Or.inl ⟨rfl, by simp [selectEligibleBackendIndex, hany]⟩
  | true =>
    right
    obtain ⟨pre, b, post, horder, hb, hpre⟩ := exists_first (s := s) (hlength ▸ any_id_iff.mp hany)
    have hlt : pre.length < eligible.length := by
      rw [hlength, ← length_order, horder, List.length_append, List.length_cons]
      omega
    obtain ⟨s', hrun, hrest⟩ := visitBackends_eq hlength horder hb hpre hlt
    refine ⟨pre, b, post, s', horder, hb, hpre, ?_, hrest⟩
    rw [selectEligibleBackendIndex, if_neg (by simp [hany]), hrun]

/-! ### Many selections -/

/-- The places before `b` in the order. -/
def distance (s : RoundRobinScheduler) (b : ℕ) : ℕ := s.order.idxOf b

theorem distance_lt {b : ℕ} (h : b < s.backendCount) : s.distance b < s.backendCount := by
  rw [← length_order s]
  exact List.idxOf_lt_length_of_mem (mem_order.mpr h)

/-- A selection that passes over an eligible backend brings it nearer. -/
theorem distance_lt_of_ne {s' : RoundRobinScheduler} {pre post : List ℕ} {b c : ℕ} (horder : s.order = pre ++ b :: post)
    (hturned : s'.order = post ++ (pre ++ [b])) (hc : c < s.backendCount) (hpre : c ∉ pre) (hne : c ≠ b) :
    s'.distance c < s.distance c := by
  have hpost : c ∈ post := by
    have := mem_order.mpr hc
    rw [horder] at this
    simpa [hpre, hne] using this
  rw [distance, distance, horder, hturned, List.idxOf_append_of_mem hpost, List.idxOf_append_of_notMem hpre,
    List.idxOf_cons_ne _ (Ne.symm hne)]
  omega

/-- **No backend starves**: one that is eligible whenever some backend is, is among the
picks once there are more of those than places before it. -/
theorem mem_picks_of_eligible {b : ℕ} {s : RoundRobinScheduler} {sets : List (List Bool)} (hb : b < s.backendCount)
    (hlength : ∀ eligible ∈ sets, eligible.length = s.backendCount)
    (hel : ∀ eligible ∈ sets, eligible.any id = true → eligible[b]? = some true)
    (hmany : s.distance b < sets.countP fun eligible => eligible.any id) :
    .ok (some b) ∈ (s.picks sets).1 := by
  induction sets generalizing s with
  | nil => simp at hmany
  | cons eligible sets ih =>
    rw [picks]
    rcases s.selectEligibleBackendIndex_eq (hlength eligible List.mem_cons_self) with
      ⟨hany, hpick⟩ | ⟨pre, c, post, s', horder, hc, hpre, hpick, hcount, -, hturned⟩
    · rw [hpick]
      refine List.mem_cons_of_mem _ (ih hb (fun e he => hlength e (List.mem_cons_of_mem _ he))
        (fun e he => hel e (List.mem_cons_of_mem _ he)) ?_)
      rwa [List.countP_cons_of_neg (by simp [hany])] at hmany
    · rw [hpick]
      have hany : eligible.any id = true := by
        refine any_id_iff.mpr ⟨c, ?_, hc⟩
        exact (List.getElem?_eq_some_iff.mp hc).1
      have hbel := hel eligible List.mem_cons_self hany
      by_cases hbc : b = c
      · rw [hbc]
        exact List.mem_cons_self
      · have hnearer := distance_lt_of_ne horder hturned hb (fun hm => hpre b hm hbel) hbc
        refine List.mem_cons_of_mem _ (ih (by rwa [hcount]) (fun e he => ?_)
          (fun e he => hel e (List.mem_cons_of_mem _ he)) ?_)
        · rw [hcount]
          exact hlength e (List.mem_cons_of_mem _ he)
        · rw [List.countP_cons_of_pos (p := fun e : List Bool => e.any id) hany] at hmany
          omega

/-- The eligible backends, in the order of the next visits. -/
def queue (s : RoundRobinScheduler) (eligible : List Bool) : List ℕ :=
  s.order.filter fun b => eligible[b]? = some true

/-- A selection takes the head of the queue to its end. -/
theorem queue_eq {s' : RoundRobinScheduler} {pre post : List ℕ} {b : ℕ} (horder : s.order = pre ++ b :: post)
    (hb : eligible[b]? = some true) (hpre : ∀ x ∈ pre, eligible[x]? ≠ some true)
    (hturned : s'.order = post ++ (pre ++ [b])) :
    ∃ rest, s.queue eligible = b :: rest ∧ s'.queue eligible = rest ++ [b] := by
  have hnil : pre.filter (fun b => eligible[b]? = some true) = [] :=
    List.filter_eq_nil_iff.mpr fun x hx => by simpa using hpre x hx
  refine ⟨post.filter fun b => eligible[b]? = some true, ?_, ?_⟩
  · rw [queue, horder, List.filter_append, hnil, List.filter_cons_of_pos (by simpa using hb)]
    rfl
  · rw [queue, hturned, List.filter_append, List.filter_append, hnil, List.filter_cons_of_pos (by simpa using hb)]
    rfl

/-- **Under one eligible set the eligible are taken in turn**: so many selections as
there are places in a part of the queue take just that part. -/
theorem picks_replicate {s : RoundRobinScheduler} (hlength : eligible.length = s.backendCount) {taken rest : List ℕ}
    (hqueue : s.queue eligible = taken ++ rest) :
    (s.picks (List.replicate taken.length eligible)).1 = taken.map fun b => .ok (some b) := by
  induction taken generalizing s rest with
  | nil => rfl
  | cons b taken ih =>
    rw [List.length_cons, List.replicate_succ, picks]
    have hmem : b ∈ s.queue eligible := by rw [hqueue]; exact List.mem_cons_self
    obtain ⟨-, hbel⟩ := List.mem_filter.mp hmem
    have hbel := of_decide_eq_true hbel
    rcases s.selectEligibleBackendIndex_eq hlength with
      ⟨hany, -⟩ | ⟨pre, c, post, s', horder, hc, hpre, hpick, hcount, -, hturned⟩
    · have := any_id_iff.mpr ⟨b, (List.getElem?_eq_some_iff.mp hbel).1, hbel⟩
      rw [hany] at this
      cases this
    · obtain ⟨later, hhead, hnext⟩ := queue_eq horder hc hpre hturned
      rw [hqueue, List.cons_append] at hhead
      obtain ⟨rfl, rfl⟩ := List.cons.inj hhead
      rw [hpick, List.map_cons]
      have hlength' : eligible.length = s'.backendCount := by rw [hcount, hlength]
      exact congrArg _ (ih hlength' (hnext.trans (List.append_assoc taken rest [b])))

theorem nodup_queue (s : RoundRobinScheduler) (eligible : List Bool) : (s.queue eligible).Nodup :=
  s.nodup_order.filter _

theorem mem_queue (hlength : eligible.length = s.backendCount) {b : ℕ} :
    b ∈ s.queue eligible ↔ eligible[b]? = some true := by
  simp only [queue, List.mem_filter, mem_order, decide_eq_true_eq, and_iff_right_iff_imp]
  exact fun h => hlength ▸ (List.getElem?_eq_some_iff.mp h).1

/-- Counted by place. -/
theorem countP_range_eq (eligible : List Bool) :
    (List.range eligible.length).countP (fun b => eligible[b]? = some true) = eligible.count true := by
  induction eligible with
  | nil => rfl
  | cons e eligible ih =>
    rw [List.length_cons, List.range_succ_eq_map, List.countP_cons, List.countP_map, List.count_cons, ← ih]
    cases e <;> simp [Function.comp_def]

/-- The queue holds as many as are eligible. -/
theorem length_queue (hlength : eligible.length = s.backendCount) :
    (s.queue eligible).length = eligible.count true := by
  rw [← countP_range_eq, hlength, List.countP_eq_length_filter]
  exact (s.order_perm.filter _).length_eq

end RoundRobinScheduler

end L4lb
