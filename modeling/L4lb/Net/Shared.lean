import L4lb.Core.System
import L4lb.Effect.Prog
import Mathlib.Data.Finmap
import Mathlib.Data.Finset.Sort

/-!
# What the two reactors share

The statistics they report, the owners of their descriptors, the readiness events they are
woken by, and the hash tables they keep their sessions and flows in. A table says what a key maps to; the order its
entries are gone through is that of `Table.order`, with any ranks for the keys.
-/

namespace L4lb.Net

/-- `StatKind`. -/
inductive StatKind where
  /-- `kCreated`. -/
  | created
  /-- `kClosed`. -/
  | closed
  /-- `kBytesC2b`. -/
  | bytesC2b
  /-- `kBytesB2c`. -/
  | bytesB2c
  /-- `kDatagramC2b`. -/
  | datagramC2b
  /-- `kDatagramB2c`. -/
  | datagramB2c
  /-- `kRejected`. -/
  | rejected
  /-- `kDropped`. -/
  | dropped
  /-- `kError`. -/
  | error
  /-- `kTimeout`. -/
  | timeout
  deriving DecidableEq, Repr

/-- `StatEvent`. -/
structure StatEvent where
  /-- What is counted. -/
  kind : StatKind
  /-- How much of it. -/
  amount : ℕ := 1
  deriving DecidableEq, Repr

/-- Which way data goes. -/
inductive Direction where
  /-- From a client to a backend. -/
  | c2b
  /-- From a backend to a client. -/
  | b2c
  deriving DecidableEq, Repr

/-- `Fd`: the descriptor it owns, or none where the source has `-1`. -/
abbrev Fd := Option ℕ

/-- `Fd::closeFd`: what `::close` is called with, if it is, and what is owned then. -/
def Fd.closeFd (fd : Fd) : Option ℕ × Fd := (fd, none)

/-- A set of readiness events. -/
abbrev EpollEvents := UInt32

abbrev EPOLLIN : EpollEvents := 0x1
abbrev EPOLLOUT : EpollEvents := 0x4
abbrev EPOLLERR : EpollEvents := 0x8
abbrev EPOLLHUP : EpollEvents := 0x10

/-- A `std::unordered_map`. -/
abbrev Table (K V : Type) := Finmap fun _ : K => V

namespace Table

variable {K V : Type} [DecidableEq K]

/-- `emplace`: a key that is there keeps what it maps to. -/
def emplace (table : Table K V) (key : K) (value : V) : Table K V :=
  if key ∈ table then table else table.insert key value

/-- `size`. -/
def size (table : Table K V) : ℕ := table.keys.card

/-- The keys, in the order of the ranks given to them. -/
def order (table : Table ℕ V) (rank : ℕ → ℕ) : List ℕ :=
  (table.keys.sort (· ≤ ·)).mergeSort fun first second => rank first ≤ rank second

@[simp] theorem mem_order {table : Table ℕ V} {rank : ℕ → ℕ} {key : ℕ} :
    key ∈ table.order rank ↔ key ∈ table := by
  simp [order, Finmap.mem_keys]

theorem head?_order_eq_none {table : Table ℕ V} {rank : ℕ → ℕ} :
    (table.order rank).head? = none ↔ table.keys = ∅ := by
  rw [List.head?_eq_none_iff, List.eq_nil_iff_forall_not_mem, Finset.eq_empty_iff_forall_notMem]
  simp only [mem_order, Finmap.mem_keys]

theorem mem_of_head?_order {table : Table ℕ V} {rank : ℕ → ℕ} {key : ℕ}
    (h : (table.order rank).head? = some key) : key ∈ table.keys :=
  Finmap.mem_keys.mpr (mem_order.mp (List.mem_of_mem_head? h))

theorem nodup_order (table : Table ℕ V) (rank : ℕ → ℕ) : (table.order rank).Nodup :=
  (List.mergeSort_perm _ _).nodup_iff.mpr (Finset.sort_nodup _ _)

omit [DecidableEq K] in
theorem notMem_of_size_eq_zero {table : Table K V} (h : table.size = 0) (key : K) : key ∉ table := by
  intro hmem
  rw [size, Finset.card_eq_zero] at h
  rw [← Finmap.mem_keys, h] at hmem
  cases hmem

omit [DecidableEq K] in
theorem size_eq_zero {table : Table K V} (h : ∀ key, key ∉ table) : table.size = 0 := by
  rw [size, Finset.card_eq_zero]
  refine Finset.eq_empty_of_forall_notMem fun key hmem => h key (Finmap.mem_keys.mp hmem)

theorem emplace_of_notMem {table : Table K V} {key : K} (h : key ∉ table) (value : V) :
    table.emplace key value = table.insert key value := if_neg h

theorem erase_insert {table : Table K V} {key : K} (h : key ∉ table) (value : V) :
    Finmap.erase key (table.insert key value) = table := by
  refine Finmap.ext_lookup fun k => ?_
  by_cases hk : k = key
  · rw [hk, Finmap.lookup_erase, Finmap.lookup_eq_none.mpr h]
  · rw [Finmap.lookup_erase_ne hk, Finmap.lookup_insert_of_ne _ hk]

theorem erase_of_notMem {table : Table K V} {key : K} (h : key ∉ table) :
    Finmap.erase key table = table := by
  refine Finmap.ext_lookup fun k => ?_
  by_cases hk : k = key
  · rw [hk, Finmap.lookup_erase, Finmap.lookup_eq_none.mpr h]
  · rw [Finmap.lookup_erase_ne hk]

theorem lookup_of_lookup_erase {table : Table K V} {key k : K} {value : V}
    (h : (Finmap.erase key table).lookup k = some value) : table.lookup k = some value := by
  by_cases hk : k = key
  · rw [hk, Finmap.lookup_erase] at h
    cases h
  · rwa [Finmap.lookup_erase_ne hk] at h

theorem mem_congr {table table' : Table K V} {key : K} (h : table'.lookup key = table.lookup key) :
    key ∈ table' ↔ key ∈ table := by
  simp only [Finmap.mem_iff, h]

theorem size_insert {table : Table K V} {key : K} (h : key ∉ table) (value : V) :
    size (table.insert key value) = size table + 1 := by
  have hkeys : (Finmap.insert key value table).keys = insert key table.keys := by
    ext k
    simp [Finmap.mem_keys, Finmap.mem_insert]
  rw [size, hkeys, Finset.card_insert_of_notMem (by rwa [Finmap.mem_keys]), size]

theorem size_insert_of_mem {table : Table K V} {key : K} (h : key ∈ table) (value : V) :
    size (table.insert key value) = size table := by
  have hkeys : (Finmap.insert key value table).keys = table.keys := by
    ext k
    simp only [Finmap.mem_keys, Finmap.mem_insert, or_iff_right_iff_imp]
    rintro rfl
    exact h
  rw [size, hkeys, size]

theorem size_erase_le (table : Table K V) (key : K) : size (table.erase key) ≤ size table := by
  rw [size, Finmap.keys_erase]
  exact Finset.card_erase_le

theorem size_erase {table : Table K V} {key : K} (h : key ∈ table) : size (table.erase key) + 1 = size table := by
  rw [size, Finmap.keys_erase, size, Finset.card_erase_add_one (Finmap.mem_keys.mpr h)]

omit [DecidableEq K] in
theorem size_empty : size (∅ : Table K V) = 0 := by
  rw [size, Finmap.keys_empty]
  rfl

end Table

end L4lb.Net
