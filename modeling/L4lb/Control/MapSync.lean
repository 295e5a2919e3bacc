import L4lb.Control.DsrConfigSync
import L4lb.Effect.Simulation

/-!
# Maps that are verified, and then frozen

`synchronizeXdpConfig` and `synchronizeDsrConfig` against any access to the maps at all:
whatever an operation throws and whatever it reads, the maps are frozen only after each value
that was written was read back (`synchronized_then_frozen`).

## The model

`ConfigMapAccess` and `DsrMapAccess` are one interface, over the values of the two profiles. A
call of it is answered in any way. The state of a run is the record of the calls and their
answers.

## The argument

Either program is a checklist: every call has the one answer after which it goes on.

The maps of the static profile are such an access: `synchronizeDsrConfig`, over the maps, does what it
does with an access that is answered as `DsrMapStore` answers (`simulates_synchronizeDsrConfig`).
-/

namespace L4lb.Control

open Effect Effect.Prog Text Xdp

/-- The operations of `ConfigMapAccess` and of `DsrMapAccess`. -/
inductive AccessCall (B F : Type) where
  /-- `writeBackend`. -/
  | writeBackend (index : ℕ) (value : B)
  /-- `writeConfig`. -/
  | writeConfig (value : F)
  /-- `readBackend`. -/
  | readBackend (index : ℕ)
  /-- `readConfig`. -/
  | readConfig
  /-- `freezeBackends`. -/
  | freezeBackends
  /-- `freezeConfig`. -/
  | freezeConfig

/-- The answers: what was thrown, or what was read. -/
abbrev AccessAnswer (B F : Type) : AccessCall B F → Type
  | .writeBackend _ _ => Option ConfigError
  | .writeConfig _ => Option ConfigError
  | .readBackend _ => Except ConfigError B
  | .readConfig => Except ConfigError F
  | .freezeBackends => Option ConfigError
  | .freezeConfig => Option ConfigError

/-- A call of an access, with its answer. -/
abbrev AccessRecord (B F : Type) := Exchange (AccessCall B F) (AccessAnswer B F)

/-- A program that uses an access. -/
abbrev AccessM (B F : Type) := Prog (AccessCall B F) (AccessAnswer B F) (List (AccessRecord B F)) ConfigError

section Access

variable {B F : Type}

/-- What was read, unless it was thrown. -/
def orThrow {α : Type} : Except ConfigError α → AccessM B F α
  | .ok value => pure value
  | .error e => raise e

variable [DecidableEq B] [DecidableEq F]

/-- What `synchronizeXdpConfig` and `synchronizeDsrConfig` do once the image is accepted: 64 slots and the
configuration are written, read back, and frozen. -/
def synchronizeMaps (slot : ℕ → B) (config : F) : AccessM B F Unit := do
  forEach (fun index => do
    rethrow (← exchange (.writeBackend index (slot index)))
    pure true) (List.range 64)
  rethrow (← exchange (.writeConfig config))
  let actualConfig ← orThrow (← exchange .readConfig)
  if actualConfig ≠ config then raise .configReadback
  else
    forEach (fun index => do
      let actual ← orThrow (← exchange (.readBackend index))
      if actual ≠ slot index then raise (.backendReadback index) else pure true) (List.range 64)
    rethrow (← exchange .freezeBackends)
    rethrow (← exchange .freezeConfig)

end Access

/-- `XdpConfigValue`. -/
structure XdpConfigValue where
  /-- `schemaVersion`. -/
  schemaVersion : UInt32
  /-- `backendCount`. -/
  backendCount : UInt32
  deriving DecidableEq, Repr

/-- `index < backends.size() ? backends[index] : XdpBackendValue{}`. -/
def slotXdpBackend (backends : List XdpBackendValue) (index : ℕ) : XdpBackendValue :=
  (backends[index]?).getD ⟨0, 0, 0⟩

/-- `synchronizeXdpConfig`. -/
def synchronizeXdpConfig (backends : List XdpBackendValue) : AccessM XdpBackendValue XdpConfigValue Unit :=
  if backends.length > 64 then raise .tooManyBackends
  else synchronizeMaps (slotXdpBackend backends) ⟨1, backends.length.toUInt32⟩

namespace DsrMapAccess

/-- `synchronizeDsrConfig`, with any `DsrMapAccess`. -/
def synchronizeDsrConfig (configuration : DsrConfiguration) :
    AccessM UdpDsrBackendValue UdpDsrConfigValue Unit :=
  if configuration.backends.length > L4LB_DSR_MAX_BACKENDS then raise .tooManyBackends
  else if configuration.Invalid then raise .invalidDsrConfig
  else if ∃ backend ∈ configuration.backends, invalidDsrBackend backend then raise .invalidDsrBackend
  else synchronizeMaps (slotBackend configuration.backends) configuration.config

end DsrMapAccess

/-! ### What is recorded -/

section Image

variable {B F : Type}

/-- The slots and the configuration are written, and read back as they were written. -/
def verifiedTrace (slot : ℕ → B) (config : F) : List (AccessRecord B F) :=
  (List.range 64).map (fun index => ⟨.writeBackend index (slot index), none⟩) ++
    [⟨.writeConfig config, none⟩, ⟨.readConfig, .ok config⟩] ++
    (List.range 64).map fun index => ⟨.readBackend index, .ok (slot index)⟩

/-- Both maps are frozen. -/
def frozenTrace : List (AccessRecord B F) := [⟨.freezeBackends, none⟩, ⟨.freezeConfig, none⟩]

/-- A call that freezes a map. -/
def AccessCall.Freezes : AccessCall B F → Prop
  | .freezeBackends => True
  | .freezeConfig => True
  | _ => False

/-- An operation that threw. -/
def Threw : AccessRecord B F → Prop
  | ⟨.writeBackend _ _, answer⟩ => answer ≠ none
  | ⟨.writeConfig _, answer⟩ => answer ≠ none
  | ⟨.readBackend _, answer⟩ => ∃ e, answer = .error e
  | ⟨.readConfig, answer⟩ => ∃ e, answer = .error e
  | ⟨.freezeBackends, answer⟩ => answer ≠ none
  | ⟨.freezeConfig, answer⟩ => answer ≠ none

/-- A value that was not read back as it was written. -/
def Differs (slot : ℕ → B) (config : F) : AccessRecord B F → Prop
  | ⟨.readBackend index, answer⟩ => ∃ actual, answer = .ok actual ∧ actual ≠ slot index
  | ⟨.readConfig, answer⟩ => ∃ actual, answer = .ok actual ∧ actual ≠ config
  | _ => False

/-- What a synchronisation has done, first call first, and how it ended. -/
structure VerifiedThenFrozen (slot : ℕ → B) (config : F) (outcome : Outcome ConfigError Unit)
    (history : List (AccessRecord B F)) : Prop where
  /-- When it returns, all was written, all was read back, and then both maps were frozen. -/
  returned : outcome = .ok () → history = verifiedTrace slot config ++ frozenTrace
  /-- However it ends, all was verified before a map was frozen. -/
  verified : ∀ before record after, history = before ++ record :: after → record.1.Freezes →
    verifiedTrace slot config <+: before
  /-- Once something differs, nothing is frozen, -/
  differs : (∃ record ∈ history, Differs slot config record) →
    (∃ e, outcome = .thrown e) ∧ ∀ record ∈ history, ¬ record.1.Freezes
  /-- Once something throws, nothing is done, -/
  last : ∀ before record after, history = before ++ record :: after → Threw record →
    after = [] ∧ ∃ e, outcome = .thrown e
  /-- and the configuration is not frozen. -/
  unfrozen : (∃ record ∈ history, Threw record) → ⟨.freezeConfig, none⟩ ∉ history

end Image

section Plan

variable {B F : Type} [DecidableEq B] [DecidableEq F]

/-- A backend is written. -/
def writesBackend (index : ℕ) (value : B) : Check (AccessCall B F) (AccessAnswer B F) ConfigError where
  call := .writeBackend index value
  expected := none
  verdict := fun answer : Option ConfigError => answer
  passes := rfl
  only := fun _ h => h

/-- The configuration is written. -/
def writesConfig (value : F) : Check (AccessCall B F) (AccessAnswer B F) ConfigError where
  call := .writeConfig value
  expected := none
  verdict := fun answer : Option ConfigError => answer
  passes := rfl
  only := fun _ h => h

/-- What is thrown at a value that was read. -/
def readVerdict {α : Type} [DecidableEq α] (expected : α) (mismatch : ConfigError) :
    Except ConfigError α → Option ConfigError
  | .error e => some e
  | .ok actual => if actual ≠ expected then some mismatch else none

theorem readVerdict_eq_none {α : Type} [DecidableEq α] {expected : α} {mismatch : ConfigError}
    {answer : Except ConfigError α} (h : readVerdict expected mismatch answer = none) : answer = .ok expected := by
  cases answer with
  | error e => cases h
  | ok actual =>
    by_cases hsame : actual = expected
    · rw [hsame]
    · simp [readVerdict, hsame] at h

/-- The configuration is read back. -/
def readsConfig (value : F) : Check (AccessCall B F) (AccessAnswer B F) ConfigError where
  call := .readConfig
  expected := .ok value
  verdict := readVerdict value .configReadback
  passes := by simp [readVerdict]
  only := fun _ h => readVerdict_eq_none h

/-- A backend is read back. -/
def readsBackend (index : ℕ) (value : B) : Check (AccessCall B F) (AccessAnswer B F) ConfigError where
  call := .readBackend index
  expected := .ok value
  verdict := readVerdict value (.backendReadback index)
  passes := by simp [readVerdict]
  only := fun _ h => readVerdict_eq_none h

/-- The backends are frozen. -/
def freezesBackends : Check (AccessCall B F) (AccessAnswer B F) ConfigError where
  call := .freezeBackends
  expected := none
  verdict := fun answer : Option ConfigError => answer
  passes := rfl
  only := fun _ h => h

/-- The configuration is frozen. -/
def freezesConfig : Check (AccessCall B F) (AccessAnswer B F) ConfigError where
  call := .freezeConfig
  expected := none
  verdict := fun answer : Option ConfigError => answer
  passes := rfl
  only := fun _ h => h

/-- The checks of a synchronisation. -/
def syncPlan (slot : ℕ → B) (config : F) : List (Check (AccessCall B F) (AccessAnswer B F) ConfigError) :=
  (List.range 64).map (fun index => writesBackend index (slot index)) ++ [writesConfig config, readsConfig config] ++
    (List.range 64).map (fun index => readsBackend index (slot index)) ++ [freezesBackends, freezesConfig]

theorem passed_syncPlan (slot : ℕ → B) (config : F) :
    (syncPlan slot config).map Check.passed = verifiedTrace slot config ++ frozenTrace := by
  simp only [syncPlan, verifiedTrace, frozenTrace, List.map_append, List.map_map]
  rfl

omit [DecidableEq B] [DecidableEq F] in
/-- What is read is compared, and then the program goes on. -/
theorem readVerdict_bind {α β : Type} [DecidableEq α] (expected : α) (mismatch : ConfigError)
    (answer : Except ConfigError α) (m : AccessM B F β) :
    (orThrow answer >>= fun actual => if actual ≠ expected then raise mismatch else m) =
      (rethrow (readVerdict expected mismatch answer) >>= fun _ => m) := by
  cases answer with
  | error e => rfl
  | ok actual =>
    by_cases hsame : actual = expected
    · simp only [orThrow, readVerdict, rethrow, hsame, ne_eq, not_true, if_false, Prog.pure_bind]
    · simp only [orThrow, readVerdict, rethrow, hsame, ne_eq, not_false_eq_true, if_true, Prog.pure_bind]
      rfl

/-- **A synchronisation is a checklist.** -/
theorem synchronizeMaps_eq (slot : ℕ → B) (config : F) :
    synchronizeMaps slot config = checklist (syncPlan slot config) := by
  have hwrites : forEach (fun index => do
      rethrow (← exchange (.writeBackend index (slot index)))
      pure true) (List.range 64) =
      (checklist ((List.range 64).map fun index => writesBackend index (slot index)) : AccessM B F Unit) := by
    refine forEach_check (fun index => ?_) _
    exact (Prog.bind_assoc _ _ _).symm
  have hreads : forEach (fun index => do
      let actual ← orThrow (← exchange (.readBackend index))
      if actual ≠ slot index then raise (.backendReadback index) else pure true) (List.range 64) =
      (checklist ((List.range 64).map fun index => readsBackend index (slot index)) : AccessM B F Unit) := by
    refine forEach_check (fun index => ?_) _
    rw [check, Prog.bind_assoc]
    exact bind_congr fun answer => readVerdict_bind _ _ answer _
  have hread : ∀ m : AccessM B F Unit, (do
      let actual ← orThrow (← exchange .readConfig)
      if actual ≠ config then raise .configReadback else m) = check (readsConfig config) >>= fun _ => m := by
    intro m
    rw [check, Prog.bind_assoc]
    exact bind_congr fun answer => readVerdict_bind _ _ answer _
  unfold synchronizeMaps syncPlan
  rw [hwrites, hread, hreads]
  simp only [checklist_append, Prog.bind_assoc, checklist, Prog.pure_bind]
  have hlast : check freezesConfig = ((check freezesConfig >>= fun _ => pure ()) : AccessM B F Unit) :=
    (Prog.bind_pure _).symm
  rw [← hlast]
  have hconfig : check (writesConfig config) =
      (exchange (.writeConfig config) >>= fun failure => rethrow failure : AccessM B F Unit) := rfl
  have hbackends : check freezesBackends =
      (exchange .freezeBackends >>= fun failure => rethrow failure : AccessM B F Unit) := rfl
  rw [hconfig, hbackends, Prog.bind_assoc, Prog.bind_assoc]
  rfl

end Plan

/-! ### What that comes to -/

/-- What ends outside of the second part of a list ends in the first. -/
theorem prefix_of_notMem_right {α : Type} {l xs ys : List α} {x : α} (h : l ++ [x] <+: xs ++ ys) (hx : x ∉ ys) :
    l ++ [x] <+: xs := by
  rcases List.prefix_or_prefix_of_prefix h (List.prefix_append xs ys) with hprefix | hprefix
  · exact hprefix
  · rcases List.prefix_concat_iff.mp hprefix with heq | ⟨rest, rfl⟩
    · exact heq ▸ List.prefix_refl _
    · rw [List.append_assoc, List.prefix_append_right_inj] at h
      exact absurd (h.subset (by simp)) hx

/-- What ends outside of the first part of a list has all of it before. -/
theorem prefix_of_notMem_left {α : Type} {l xs ys : List α} {x : α} (h : l ++ [x] <+: xs ++ ys) (hx : x ∉ xs) :
    xs <+: l := by
  rcases List.prefix_or_prefix_of_prefix h (List.prefix_append xs ys) with hprefix | hprefix
  · exact absurd (List.IsPrefix.subset hprefix (by simp)) hx
  · rcases List.prefix_concat_iff.mp hprefix with heq | hprefix
    · rw [heq] at hx
      simp at hx
    · exact hprefix

section Traces

variable {B F : Type} {slot : ℕ → B} {config : F} {record : AccessRecord B F}

theorem mem_verifiedTrace (h : record ∈ verifiedTrace slot config) :
    (∃ index, record = ⟨.writeBackend index (slot index), none⟩) ∨ record = ⟨.writeConfig config, none⟩ ∨
      record = ⟨.readConfig, .ok config⟩ ∨ ∃ index, record = ⟨.readBackend index, .ok (slot index)⟩ := by
  simp only [verifiedTrace, List.mem_append, List.mem_map, List.mem_cons, List.not_mem_nil, or_false] at h
  rcases h with (⟨index, _, rfl⟩ | rfl | rfl) | ⟨index, _, rfl⟩
  · exact .inl ⟨index, rfl⟩
  · exact .inr (.inl rfl)
  · exact .inr (.inr (.inl rfl))
  · exact .inr (.inr (.inr ⟨index, rfl⟩))

theorem not_freezes_verifiedTrace (h : record ∈ verifiedTrace slot config) : ¬ record.1.Freezes := by
  rcases mem_verifiedTrace h with ⟨index, rfl⟩ | rfl | rfl | ⟨index, rfl⟩ <;> exact id

theorem freezes_frozenTrace (h : record ∈ (frozenTrace : List (AccessRecord B F))) : record.1.Freezes := by
  simp only [frozenTrace, List.mem_cons, List.not_mem_nil, or_false] at h
  rcases h with rfl | rfl <;> trivial

theorem not_threw_trace (h : record ∈ verifiedTrace slot config ++ frozenTrace) : ¬ Threw record := by
  rcases List.mem_append.mp h with h | h
  · rcases mem_verifiedTrace h with ⟨index, rfl⟩ | rfl | rfl | ⟨index, rfl⟩ <;> simp [Threw]
  · simp only [frozenTrace, List.mem_cons, List.not_mem_nil, or_false] at h
    rcases h with rfl | rfl <;> simp [Threw]

theorem not_differs_trace (h : record ∈ verifiedTrace slot config ++ frozenTrace) : ¬ Differs slot config record := by
  rcases List.mem_append.mp h with h | h
  · rcases mem_verifiedTrace h with ⟨index, rfl⟩ | rfl | rfl | ⟨index, rfl⟩ <;> simp [Differs]
  · simp only [frozenTrace, List.mem_cons, List.not_mem_nil, or_false] at h
    rcases h with rfl | rfl <;> simp [Differs]

theorem not_freezes_of_differs (h : Differs slot config record) : ¬ record.1.Freezes := by
  obtain ⟨call, answer⟩ := record
  cases call with
  | readBackend index => exact id
  | readConfig => exact id
  | writeBackend index value => cases h
  | writeConfig value => cases h
  | freezeBackends => cases h
  | freezeConfig => cases h

variable [DecidableEq B] [DecidableEq F] {outcome : Outcome ConfigError Unit} {history : List (AccessRecord B F)}

/-- **A synchronisation verifies, and then freezes.** -/
theorem verifiedThenFrozen (h : Checked (syncPlan slot config) outcome history) :
    VerifiedThenFrozen slot config outcome history := by
  have hrecorded : ∀ {before record after}, history = before ++ record :: after →
      ∃ item : Check (AccessCall B F) (AccessAnswer B F) ConfigError, item.call = record.1 ∧
        before ++ [item.passed] <+: verifiedTrace slot config ++ frozenTrace ∧
        (record = item.passed ∨ after = [] ∧ ∃ e, outcome = .thrown e) := by
    intro before record after hhistory
    rw [← passed_syncPlan]
    exact h.recorded hhistory
  -- what is not as it should be comes last
  have hlast : ∀ {before record after}, history = before ++ record :: after →
      record ∉ verifiedTrace slot config ++ frozenTrace → after = [] ∧ ∃ e, outcome = .thrown e := by
    intro before record after hhistory hbad
    obtain ⟨item, _, hprefix, hrecord⟩ := hrecorded hhistory
    refine hrecord.resolve_left fun heq => hbad ?_
    rw [heq]
    exact List.IsPrefix.subset hprefix (by simp)
  refine ⟨fun houtcome => ?_, fun before record after hhistory hfreezes => ?_, fun hdiffers => ?_,
    fun before record after hhistory hthrew => hlast hhistory fun hmem => not_threw_trace hmem hthrew,
    fun hthrew hfrozen => ?_⟩
  · subst houtcome
    rw [h.eq_of_ok, passed_syncPlan]
  · obtain ⟨item, hcall, hprefix, _⟩ := hrecorded hhistory
    refine prefix_of_notMem_left hprefix fun hmem => not_freezes_verifiedTrace hmem ?_
    show item.call.Freezes
    rwa [hcall]
  · obtain ⟨record, hmem, hdiffers⟩ := hdiffers
    obtain ⟨before, after, hhistory⟩ := List.append_of_mem hmem
    obtain ⟨rfl, hthrown⟩ := hlast hhistory fun hmem => not_differs_trace hmem hdiffers
    refine ⟨hthrown, fun other hother hfreezes => ?_⟩
    obtain ⟨item, hcall, hprefix, _⟩ := hrecorded hhistory
    have hbefore : before ++ [item.passed] <+: verifiedTrace slot config := by
      refine prefix_of_notMem_right hprefix fun hitem => not_freezes_of_differs hdiffers ?_
      rw [← hcall]
      exact freezes_frozenTrace hitem
    rw [hhistory] at hother
    rcases List.mem_append.mp hother with hother | hother
    · exact not_freezes_verifiedTrace (hbefore.subset (List.mem_append_left _ hother)) hfreezes
    · rw [List.mem_singleton.mp hother] at hfreezes
      exact not_freezes_of_differs hdiffers hfreezes
  · obtain ⟨record, hmem, hthrew⟩ := hthrew
    obtain ⟨before, after, hhistory⟩ := List.append_of_mem hmem
    obtain ⟨rfl, _⟩ := hlast hhistory fun hmem => not_threw_trace hmem hthrew
    obtain ⟨item, _, hprefix, _⟩ := hrecorded hhistory
    have hbefore : before <+: verifiedTrace slot config ++ [⟨.freezeBackends, none⟩] := by
      have hsplit : verifiedTrace slot config ++ frozenTrace =
          verifiedTrace slot config ++ [⟨.freezeBackends, none⟩] ++ [⟨.freezeConfig, none⟩] := by
        simp [frozenTrace]
      rw [hsplit] at hprefix
      rcases List.prefix_concat_iff.mp hprefix with heq | hprefix
      · exact (List.append_inj' heq rfl).1 ▸ List.prefix_refl _
      · exact (List.prefix_append _ _).trans hprefix
    rw [hhistory] at hfrozen
    rcases List.mem_append.mp hfrozen with hfrozen | hfrozen
    · rcases List.mem_append.mp (hbefore.subset hfrozen) with hfrozen | hfrozen
      · exact not_freezes_verifiedTrace hfrozen trivial
      · cases List.mem_singleton.mp hfrozen
    · rw [← List.mem_singleton.mp hfrozen] at hthrew
      exact hthrew rfl

theorem verifiedThenFrozen_run (slot : ℕ → B) (config : F)
    (script : List (Answerer (AccessCall B F) (AccessAnswer B F))) :
    VerifiedThenFrozen slot config (synchronizeMaps slot config ⟨script, []⟩).1
      (synchronizeMaps slot config ⟨script, []⟩).2.state.reverse := by
  rw [synchronizeMaps_eq]
  obtain ⟨history, hchecked, hstate⟩ := checklist_run (syncPlan slot config) script []
  rw [hstate, List.append_nil, List.reverse_reverse]
  exact verifiedThenFrozen hchecked

end Traces

/-- What `synchronizeDsrConfig` refuses. -/
def DsrConfiguration.Refused (configuration : DsrConfiguration) : Prop :=
  configuration.backends.length > L4LB_DSR_MAX_BACKENDS ∨ configuration.Invalid ∨
    ∃ backend ∈ configuration.backends, invalidDsrBackend backend

theorem DsrMapAccess.synchronizeDsrConfig_of_accepted {configuration : DsrConfiguration}
    (haccepted : ¬ configuration.Refused) : DsrMapAccess.synchronizeDsrConfig configuration =
      synchronizeMaps (slotBackend configuration.backends) configuration.config := by
  obtain ⟨hlength, hrest⟩ := not_or.mp haccepted
  obtain ⟨hinvalid, hbackend⟩ := not_or.mp hrest
  rw [DsrMapAccess.synchronizeDsrConfig, if_neg hlength, if_neg hinvalid, if_neg hbackend]

/-- **Verified, and then frozen.** Of any configuration, and whatever an access to the maps throws and reads: a
synchronisation refuses it without using the access at all, or it writes the configuration and 64 slots, reads them
back, and only then freezes both maps; at the first operation that throws or reads something else it stops. -/
theorem synchronized_then_frozen :
    (∀ (backends : List XdpBackendValue) (script : List (Answerer (AccessCall XdpBackendValue XdpConfigValue)
        (AccessAnswer XdpBackendValue XdpConfigValue))),
      (64 < backends.length →
        synchronizeXdpConfig backends ⟨script, []⟩ = (.thrown .tooManyBackends, ⟨script, []⟩)) ∧
      (backends.length ≤ 64 → VerifiedThenFrozen (slotXdpBackend backends) ⟨1, backends.length.toUInt32⟩
        (synchronizeXdpConfig backends ⟨script, []⟩).1 (synchronizeXdpConfig backends ⟨script, []⟩).2.state.reverse)) ∧
    ∀ (configuration : DsrConfiguration) (script : List (Answerer (AccessCall UdpDsrBackendValue UdpDsrConfigValue)
        (AccessAnswer UdpDsrBackendValue UdpDsrConfigValue))),
      (configuration.Refused → ∃ e,
        DsrMapAccess.synchronizeDsrConfig configuration ⟨script, []⟩ = (.thrown e, ⟨script, []⟩)) ∧
      (¬ configuration.Refused → VerifiedThenFrozen (slotBackend configuration.backends) configuration.config
        (DsrMapAccess.synchronizeDsrConfig configuration ⟨script, []⟩).1
        (DsrMapAccess.synchronizeDsrConfig configuration ⟨script, []⟩).2.state.reverse) := by
  refine ⟨fun backends script => ⟨fun hlength => ?_, fun hlength => ?_⟩,
    fun configuration script => ⟨fun hrefused => ?_, fun haccepted => ?_⟩⟩
  · rw [synchronizeXdpConfig, if_pos hlength, run_raise]
  · rw [synchronizeXdpConfig, if_neg (not_lt.mpr hlength)]
    exact verifiedThenFrozen_run _ _ script
  · unfold DsrMapAccess.synchronizeDsrConfig
    by_cases hlength : configuration.backends.length > L4LB_DSR_MAX_BACKENDS
    · exact ⟨_, by rw [if_pos hlength, run_raise]⟩
    · by_cases hinvalid : configuration.Invalid
      · exact ⟨_, by rw [if_neg hlength, if_pos hinvalid, run_raise]⟩
      · have hbackend := (hrefused.resolve_left hlength).resolve_left hinvalid
        exact ⟨_, by rw [if_neg hlength, if_neg hinvalid, if_pos hbackend, run_raise]⟩
  · rw [DsrMapAccess.synchronizeDsrConfig_of_accepted haccepted]
    exact verifiedThenFrozen_run _ _ script

/-! ### The maps are an access -/

namespace DsrMapStore

instance (c : AccessCall UdpDsrBackendValue UdpDsrConfigValue) : Nonempty (AccessAnswer _ _ c) := by
  cases c with
  | writeBackend index value => exact ⟨(none : Option ConfigError)⟩
  | writeConfig value => exact ⟨(none : Option ConfigError)⟩
  | readBackend index => exact ⟨(.error .tooManyBackends : Except ConfigError UdpDsrBackendValue)⟩
  | readConfig => exact ⟨(.error .tooManyBackends : Except ConfigError UdpDsrConfigValue)⟩
  | freezeBackends => exact ⟨(none : Option ConfigError)⟩
  | freezeConfig => exact ⟨(none : Option ConfigError)⟩

/-- An operation of `DsrMapAccess`, as `DsrMapStore` performs it. -/
def perform : (c : AccessCall UdpDsrBackendValue UdpDsrConfigValue) → DsrMapM (AccessAnswer _ _ c)
  | .writeBackend index value => failureOf (writeBackend index value)
  | .writeConfig value => failureOf (writeConfig value)
  | .readBackend index => resultOf (readBackend index)
  | .readConfig => resultOf readConfig
  | .freezeBackends => failureOf freezeBackends
  | .freezeConfig => failureOf freezeConfig

theorem caught_perform (c : AccessCall UdpDsrBackendValue UdpDsrConfigValue) : Caught (perform c) := by
  cases c with
  | writeBackend index value => exact caught_failureOf _
  | writeConfig value => exact caught_failureOf _
  | readBackend index => exact caught_resultOf _
  | readConfig => exact caught_resultOf _
  | freezeBackends => exact caught_failureOf _
  | freezeConfig => exact caught_failureOf _

end DsrMapStore

open DsrMapStore

/-- What was read is compared, the same way on either side. -/
theorem simulates_compare {α : Type} [DecidableEq α] {R : World DsrMapCall DsrMapAnswer XdpMaps →
      List (AccessRecord UdpDsrBackendValue UdpDsrConfigValue) → Prop}
    {w : World DsrMapCall DsrMapAnswer XdpMaps} {history : List (AccessRecord UdpDsrBackendValue UdpDsrConfigValue)}
    (hR : R w history) (expected : α) (mismatch : ConfigError) (result : Except ConfigError α) {m : DsrMapM β}
    {m' : AccessM UdpDsrBackendValue UdpDsrConfigValue β} (h : Simulates R id m w m' history) :
    Simulates R id (returnOrRaise result >>= fun actual => if actual ≠ expected then raise mismatch else m) w
      (orThrow result >>= fun actual => if actual ≠ expected then raise mismatch else m') history := by
  cases result with
  | error e => exact .raise hR
  | ok actual => exact .ite (fun _ => .raise hR) fun _ => h

/-- **The maps are an access.** Every run of `synchronizeDsrConfig` over the maps is a run of it with an access: the
operations that were recorded, performed one after the other on the maps, were answered so and have led to where the
run is, and it ends the same way. -/
theorem simulates_synchronizeDsrConfig (configuration : DsrConfiguration) (w₀ : World DsrMapCall DsrMapAnswer XdpMaps) :
    Simulates (Leads perform w₀) id (synchronizeDsrConfig configuration) w₀
      (DsrMapAccess.synchronizeDsrConfig configuration) [] := by
  refine .ite (fun _ => .raise .start) fun _ => .ite (fun _ => .raise .start) fun _ => ?_
  refine .ite (fun _ => .raise .start) fun _ => ?_
  refine .bind (Simulates.forEach (fun index w history h => ?_) _ .start) fun _ w₁ history₁ _ h₁ => ?_
  · rw [failureOf_bind (writeBackend _ _)]
    refine .bind (h.simulates caught_perform (.writeBackend index _)) fun failure w' history' _ h' => ?_
    exact .bind (.rethrow h' failure) fun _ _ _ _ h'' => .pure h''
  rw [failureOf_bind (writeConfig _)]
  refine .bind (h₁.simulates caught_perform (.writeConfig _)) fun failure w₂ history₂ _ h₂ => ?_
  refine .bind (.rethrow h₂ failure) fun _ w₃ history₃ _ h₃ => ?_
  rw [resultOf_bind readConfig]
  refine .bind (h₃.simulates caught_perform .readConfig) fun result w₄ history₄ _ h₄ => ?_
  refine simulates_compare h₄ _ _ result ?_
  refine .bind (Simulates.forEach (fun index w history h => ?_) _ h₄) fun _ w₅ history₅ _ h₅ => ?_
  · unfold checkBackend
    rw [resultOf_bind (readBackend _)]
    refine .bind (h.simulates caught_perform (.readBackend index)) fun actual w' history' _ h' => ?_
    exact simulates_compare h' _ _ actual (.pure h')
  rw [failureOf_bind freezeBackends]
  refine .bind (h₅.simulates caught_perform .freezeBackends) fun failure w₆ history₆ _ h₆ => ?_
  refine .bind (.rethrow h₆ failure) fun _ w₇ history₇ _ h₇ => ?_
  rw [← failureOf_bind_rethrow freezeConfig]
  exact .bind (h₇.simulates caught_perform .freezeConfig) fun failure w' history' _ h' => .rethrow h' failure

/-- **So the maps are verified, and then frozen.** -/
theorem verifiedThenFrozen_maps {configuration : DsrConfiguration} (haccepted : ¬ configuration.Refused)
    (w₀ : World DsrMapCall DsrMapAnswer XdpMaps) :
    ∃ history, Leads perform w₀ (synchronizeDsrConfig configuration w₀).2 history ∧
      VerifiedThenFrozen (slotBackend configuration.backends) configuration.config
        (synchronizeDsrConfig configuration w₀).1 history.reverse := by
  refine (simulates_synchronizeDsrConfig configuration w₀).transfer (P := fun outcome history =>
    VerifiedThenFrozen (slotBackend configuration.backends) configuration.config outcome history.reverse) fun script => ?_
  rw [Outcome.rename_id, DsrMapAccess.synchronizeDsrConfig_of_accepted haccepted]
  exact verifiedThenFrozen_run _ _ script

end L4lb.Control
