import L4lb.Control.RuntimeSnapshot
import L4lb.Health.HealthContinuity
import L4lb.Xdp.UdpRuntime

/-!
# A configuration that was loaded can be published

Five checks are made of a configuration on its way from text to the maps: of the
literals in the text, of the literals and interfaces, of the probes, of the targets of a
checker, and of a snapshot. Each lets through what the next lets through.
-/

namespace L4lb.Control

open Effect Effect.Prog Health Text Xdp

/-! ### The two checks of an address in text -/

/-- The number of a byte of an address in text. -/
def macNumber (text : Bytes) (i : ℕ) : Option ℕ :=
  match number 16 ((text.drop (3 * i)).take 2) with
  | none => none
  | some byte => if i < 5 ∧ text[3 * i + 2]? ≠ some 58 then none else some byte

theorem macNumber_lt {text : Bytes} {i n : ℕ} (h : macNumber text i = some n) : n < 256 := by
  unfold macNumber at h
  split at h
  · cases h
  · rename_i byte hbyte
    split_ifs at h
    cases h
    have hlength : ((text.drop (3 * i)).take 2).length ≤ 2 := List.length_take_le _ _
    exact (number_lt hbyte).trans_le (Nat.pow_le_pow_right (by decide : 0 < 16) hlength)

theorem macByte_eq (text : Bytes) (i : ℕ) : macByte text i = (macNumber text i).map Nat.toUInt8 := by
  unfold macByte macNumber
  cases number 16 ((text.drop (3 * i)).take 2) with
  | none => rfl
  | some byte =>
    dsimp only
    split <;> rfl

theorem combineMacByte_eq (text : Bytes) (combined i : ℕ) :
    combineMacByte text combined i = match macNumber text i with
      | none => .error .targetMacUnicast
      | some byte => if i = 0 ∧ byte % 2 = 1 then .error .targetMacUnicast else .ok (combined ||| byte) := by
  unfold combineMacByte macNumber
  cases number 16 ((text.drop (3 * i)).take 2) with
  | none => rfl
  | some byte =>
    have hodd : byte &&& 1 ≠ 0 ↔ byte % 2 = 1 := by
      rw [Nat.and_one_is_mod]
      omega
    by_cases hbad : i < 5 ∧ text[3 * i + 2]? ≠ some 58
    · simp only [if_pos hbad, if_pos (Or.inl hbad)]
    · simp only [hbad, hodd, false_or, if_false]

/-- A byte below 256 is its number. -/
theorem toNat_byte {n : ℕ} (h : n < 256) : n.toUInt8.toNat = n := UInt8.toNat_ofNat_of_lt' h

/-- **Both checks of an address in text** accept the same texts. -/
theorem validateTargetMac_iff (text : Bytes) :
    validateTargetMac text = .ok () ↔ ∃ mac, parseMac text = .ok mac := by
  unfold validateTargetMac parseMac
  by_cases hlength : text.length ≠ 17
  · simp [hlength]
  simp only [hlength, if_false, show List.range 6 = [0, 1, 2, 3, 4, 5] from rfl, List.foldlM_cons,
    List.foldlM_nil, List.mapM_cons, List.mapM_nil, macByte_eq, combineMacByte_eq]
  rcases h0 : macNumber text 0 with _ | a
  · simp [bind, Except.bind, pure]
  rcases h1 : macNumber text 1 with _ | b
  · by_cases hodd : a % 2 = 1 <;> simp [hodd, bind, Except.bind, pure]
  rcases h2 : macNumber text 2 with _ | c
  · by_cases hodd : a % 2 = 1 <;> simp [hodd, bind, Except.bind, pure]
  rcases h3 : macNumber text 3 with _ | d
  · by_cases hodd : a % 2 = 1 <;> simp [hodd, bind, Except.bind, pure]
  rcases h4 : macNumber text 4 with _ | e
  · by_cases hodd : a % 2 = 1 <;> simp [hodd, bind, Except.bind, pure]
  rcases h5 : macNumber text 5 with _ | f
  · by_cases hodd : a % 2 = 1 <;> simp [hodd, bind, Except.bind, pure]
  have ha := toNat_byte (macNumber_lt h0)
  have hb := toNat_byte (macNumber_lt h1)
  have hc := toNat_byte (macNumber_lt h2)
  have hd := toNat_byte (macNumber_lt h3)
  have he := toNat_byte (macNumber_lt h4)
  have hf := toNat_byte (macNumber_lt h5)
  have hgroup : a.toUInt8 &&& 1 = 0 ↔ ¬ a % 2 = 1 := by
    rw [← UInt8.toNat_inj, UInt8.toNat_and, ha]
    change a &&& 1 = 0 ↔ _
    rw [Nat.and_one_is_mod]
    omega
  have hzero : a.toUInt8 ||| b.toUInt8 ||| c.toUInt8 ||| d.toUInt8 ||| e.toUInt8 ||| f.toUInt8 = 0 ↔
      a ||| b ||| c ||| d ||| e ||| f = 0 := by
    simp only [← UInt8.toNat_inj, UInt8.toNat_or, ha, hb, hc, hd, he, hf]
    rfl
  by_cases hodd : a % 2 = 1
  · simp [hodd, validMac_mk, hgroup, bind, Except.bind, pure]
  · by_cases hnone : a ||| b ||| c ||| d ||| e ||| f = 0
    · simp [hodd, hnone, validMac_mk, hgroup, hzero, bind, Except.bind, pure, Except.pure]
    · simp [hodd, hnone, validMac_mk, hgroup, hzero, bind, Except.bind, pure, Except.pure]
      exact ⟨#v[a.toUInt8, b.toUInt8, c.toUInt8, d.toUInt8, e.toUInt8, f.toUInt8], rfl⟩

/-- How an endpoint is refused. -/
theorem parseXdpBackend_error {endpoint : Bytes} {e : ConfigError} (h : parseXdpBackend endpoint = .error e) :
    e = .endpointForm endpoint ∨ e = .invalidEndpoint endpoint ∨ e = .notUnicastEndpoint endpoint := by
  unfold parseXdpBackend at h
  split at h
  · cases h
    exact Or.inl rfl
  split at h
  · split_ifs at h
    · cases h
      exact Or.inr (Or.inl rfl)
    · cases h
      exact Or.inr (Or.inr rfl)
  · cases h
    exact Or.inr (Or.inl rfl)

theorem foldlM_combineMacByte_error {text : Bytes} {indices : List ℕ} {combined : ℕ} {e : ConfigError}
    (h : indices.foldlM (combineMacByte text) combined = .error e) : e = .targetMacUnicast := by
  induction indices generalizing combined with
  | nil => cases h
  | cons index indices ih =>
    rw [List.foldlM_cons] at h
    cases hbyte : combineMacByte text combined index with
    | error e' =>
      rw [hbyte] at h
      cases h
      unfold combineMacByte at hbyte
      split at hbyte
      · cases hbyte
        rfl
      · split_ifs at hbyte
        cases hbyte
        rfl
    | ok combined' =>
      rw [hbyte] at h
      exact ih h

/-- How an address is refused. -/
theorem validateTargetMac_error {text : Bytes} {e : ConfigError} (h : validateTargetMac text = .error e) :
    e = .targetMac ∨ e = .targetMacUnicast ∨ e = .targetMacZero := by
  unfold validateTargetMac at h
  split at h
  · cases h
    exact Or.inl rfl
  cases hfold : (List.range 6).foldlM (combineMacByte text) 0 with
  | error e' =>
    rw [hfold] at h
    cases h
    exact Or.inr (Or.inl (foldlM_combineMacByte_error hfold))
  | ok combined =>
    rw [hfold] at h
    change (if _ then _ else _) = _ at h
    split_ifs at h
    cases h
    exact Or.inr (Or.inr rfl)

/-! ### The entries of a text -/

/-- What the check of literals ensures of an entry. -/
structure RuntimeTargetText.Checked (entry : RuntimeTargetText) : Prop where
  /-- It has a name. -/
  id : entry.id ≠ []
  /-- It has an interface. -/
  egress : ¬ (entry.egress = [] ∨ entry.egress.length ≥ 16 ∨ entry.egress.any isSeparator)
  /-- Its address is one. -/
  mac : ∃ mac, parseMac entry.destinationMac = .ok mac
  /-- So is the endpoint of its probes. -/
  probe : ∃ backend, parseXdpBackend entry.probeEndpoint = .ok backend

theorem checked_of_literal {entry : RuntimeTargetText} (h : validateRuntimeTargetLiteral entry = .ok ()) :
    entry.Checked := by
  unfold validateRuntimeTargetLiteral at h
  split_ifs at h with hid hegress
  cases hmac : validateTargetMac entry.destinationMac with
  | error e =>
    rw [hmac] at h
    cases h
  | ok u =>
    rw [hmac, parseXdpBackends_singleton] at h
    refine ⟨fun hnil => hid ?_, hegress, (validateTargetMac_iff _).mp hmac, ?_⟩
    · rw [hnil]
      rfl
    · cases hprobe : parseXdpBackend entry.probeEndpoint with
      | error e =>
        rw [hprobe] at h
        cases h
      | ok backend => exact ⟨backend, rfl⟩

/-- What holds of the entries so far. -/
structure ConfigText.Checked (state : ConfigText) : Prop where
  /-- The literals of each were checked. -/
  entries : ∀ entry ∈ state.targets, entry.Checked
  /-- Their names are kept. -/
  ids : state.ids = state.targets.map (·.id)
  /-- No two have one name. -/
  nodup : state.ids.Nodup
  /-- There are no more than fit. -/
  length_le : state.targets.length ≤ 64

section Text

variable {state state' : ConfigText}

theorem ConfigText.Checked.addTarget {first link probe : Bytes} (h : state.Checked)
    (hadd : state.addTarget first link probe = .ok state') : state'.Checked := by
  unfold ConfigText.addTarget at hadd
  split at hadd
  · cases hadd
  rename_i egress mac _
  dsimp only at hadd
  cases hliteral : validateRuntimeTargetLiteral ⟨first.drop 7, egress, mac, probe⟩ with
  | error e =>
    rw [hliteral] at hadd
    cases hadd
  | ok u =>
    rw [hliteral] at hadd
    change (if _ then _ else _) = _ at hadd
    split_ifs at hadd with hdup hfull
    cases hadd
    refine ⟨fun entry hentry => ?_, ?_, ?_, ?_⟩
    · rcases List.mem_append.mp hentry with hentry | hentry
      · exact h.entries entry hentry
      · obtain rfl := List.mem_singleton.mp hentry
        exact checked_of_literal hliteral
    · simp [h.ids]
    · exact List.nodup_append.mpr ⟨h.nodup, List.nodup_singleton _, by
        rintro id hid id' hid' rfl
        exact hdup (List.mem_singleton.mp hid' ▸ hid)⟩
    · simp only [List.length_append, List.length_singleton]
      omega

theorem ConfigText.Checked.addFields {fields : List Bytes} (h : state.Checked)
    (hadd : state.addFields fields = .ok state') : state'.Checked := by
  unfold ConfigText.addFields at hadd
  split at hadd
  · split_ifs at hadd
    · cases hadd
      exact ⟨h.entries, h.ids, h.nodup, h.length_le⟩
    · split at hadd
      · exact h.addTarget hadd
      · cases hadd
  · cases hadd

theorem ConfigText.Checked.addLine {line : Bytes} (h : state.Checked)
    (hadd : state.addLine line = .ok state') : state'.Checked := by
  have hnext : ConfigText.Checked { state with lines := state.lines + 1 } :=
    ⟨h.entries, h.ids, h.nodup, h.length_le⟩
  unfold ConfigText.addLine at hadd
  simp only at hadd
  split at hadd
  · cases hadd
  generalize (if line.getLast? = some 13 then line.dropLast else line) = text at hadd
  split at hadd
  · cases hadd
  split at hadd
  · cases hadd
    exact hnext
  · split at hadd
    · cases hadd
      exact hnext
    · exact hnext.addFields hadd

theorem ConfigText.Checked.foldlM {lines : List Bytes} (h : state.Checked)
    (hfold : lines.foldlM ConfigText.addLine state = .ok state') : state'.Checked := by
  induction lines generalizing state with
  | nil =>
    cases hfold
    exact h
  | cons line lines ih =>
    rw [List.foldlM_cons] at hfold
    cases hline : state.addLine line with
    | error e =>
      rw [hline] at hfold
      cases hfold
    | ok next =>
      rw [hline] at hfold
      exact ih (h.addLine hline) hfold

end Text

/-- What an accepted text ensures of its entries. -/
structure CheckedEntries (entries : List RuntimeTargetText) : Prop where
  /-- The literals of each were checked. -/
  checked : ∀ entry ∈ entries, entry.Checked
  /-- No two have one name. -/
  nodup : (entries.map (·.id)).Nodup
  /-- There are no more than fit. -/
  length_le : entries.length ≤ 64

theorem checkedEntries_of_text {text : Bytes} {entries : List RuntimeTargetText}
    (h : parseRuntimeConfigText text = .ok entries) : CheckedEntries entries := by
  unfold parseRuntimeConfigText at h
  split_ifs at h
  cases hfold : (lines text).foldlM ConfigText.addLine {} with
  | error e =>
    rw [hfold] at h
    cases h
  | ok state =>
    rw [hfold] at h
    change (if _ then _ else _) = _ at h
    split_ifs at h
    cases h
    have hchecked : state.Checked := ConfigText.Checked.foldlM ⟨by simp, rfl, List.nodup_nil, by simp⟩ hfold
    exact ⟨hchecked.entries, hchecked.ids ▸ hchecked.nodup, hchecked.length_le⟩

/-! ### The literals again, and the interfaces -/

/-- An entry's literals are found again. -/
theorem cut_link {entry : RuntimeTargetText} (h : entry.Checked) :
    cut 64 entry.link = some (entry.egress, entry.destinationMac) := by
  refine cut_append (fun hat => h.egress (Or.inr (Or.inr ?_))) _
  exact List.any_eq_true.mpr ⟨64, hat, rfl⟩

/-- The literals of checked entries are never refused. -/
theorem parseTargets_links {entries : List RuntimeTargetText} (h : ∀ entry ∈ entries, entry.Checked) :
    ∃ targets, parseTargets (entries.map RuntimeTargetText.link) = .ok targets ∧
      (∀ target ∈ targets, ¬ (target.1 = [] ∨ target.1.length ≥ 16 ∨ target.1.any isSeparator)) ∧
      List.Forall₂ (fun entry target => parseMac entry.destinationMac = .ok target.2) entries targets := by
  induction entries with
  | nil => exact ⟨[], rfl, by simp, .nil⟩
  | cons entry entries ih =>
    have hentry := h entry List.mem_cons_self
    obtain ⟨mac, hmac⟩ := hentry.mac
    obtain ⟨targets, hrest, hnames, hall⟩ := ih fun e he => h e (List.mem_cons_of_mem entry he)
    refine ⟨(entry.egress, mac) :: targets, ?_, ?_, .cons hmac hall⟩
    · rw [List.map_cons, parseTargets, cut_link hentry]
      dsimp only
      rw [hmac, hrest]
      rfl
    · intro target htarget
      rcases List.mem_cons.mp htarget with rfl | htarget
      · exact hentry.egress
      · exact hnames target htarget

/-- Two relations of lists, one after the other. -/
theorem forall₂_comp {α β γ : Type} {R : α → β → Prop} {S : β → γ → Prop} {xs : List α} {ys : List β}
    {zs : List γ} (h : List.Forall₂ R xs ys) (h' : List.Forall₂ S ys zs) :
    List.Forall₂ (fun x z => ∃ y, R x y ∧ S y z) xs zs := by
  induction h generalizing zs with
  | nil =>
    cases h'
    exact .nil
  | cons hR _ ih =>
    cases h' with
    | cons hS hrest => exact .cons ⟨_, hR, hS⟩ (ih hrest)

/-- Every run of a program that reads a configuration. -/
abbrev Reads {α : Type} (m : ConfigM α) (E : ConfigError → Prop) (Q : α → Prop) : Prop :=
  Runs (fun _ _ => True) (fun e _ => E e) m () fun a _ => Q a

/-- An error of a literal, of those a target has. -/
def ConfigError.IsTargetLiteral : ConfigError → Prop
  | .targetForm | .macLength | .invalidMac _ | .notUnicastMac _ => True
  | _ => False

/-- An error that is not of a literal. -/
def ConfigError.NotLiteral (e : ConfigError) : Prop :=
  ¬ e.IsTargetLiteral ∧ ∀ name, e ≠ .interfaceName name

/-- **An interface** whose name is one is never refused for its name; what is found has an
index and an address. -/
theorem reads_inspectInterface (name : Bytes) :
    Reads (inspectInterface name)
      (fun e => ((name = [] ∨ name.length ≥ 16 ∨ name.any isSeparator) ∧ e = .interfaceName name) ∨ e.NotLiteral)
      fun info => info.index ≠ 0 ∧ Xdp.validMac info.mac = true := by
  have hother : ∀ {e : ConfigError}, e.NotLiteral →
      ((name = [] ∨ name.length ≥ 16 ∨ name.any isSeparator) ∧ e = .interfaceName name) ∨ e.NotLiteral :=
    fun h => Or.inr h
  refine Runs.ite (fun hbad => Runs.raise (Or.inl ⟨hbad, rfl⟩)) fun _ => ?_
  refine Runs.call_bind fun opened => Runs.ite (fun _ => ?_)
    fun _ => Runs.raise (hother ⟨fun h => h, fun _ => nofun⟩)
  refine Runs.call_bind fun index => ?_
  rcases index with _ | ⟨index, hindex⟩
  · exact Runs.raise (hother ⟨fun h => h, fun _ => nofun⟩)
  refine Runs.call_bind fun up => Runs.ite (fun _ => Runs.raise (hother ⟨fun h => h, fun _ => nofun⟩)) fun _ => ?_
  refine Runs.call_bind fun mtu => ?_
  rcases mtu with _ | mtu
  · exact Runs.raise (hother ⟨fun h => h, fun _ => nofun⟩)
  refine Runs.ite (fun _ => Runs.raise (hother ⟨fun h => h, fun _ => nofun⟩)) fun _ => ?_
  refine Runs.call_bind fun hardware => ?_
  rcases hardware with _ | ⟨_ | _, mac⟩
  · exact Runs.raise (hother ⟨fun h => h, fun _ => nofun⟩)
  · exact Runs.raise (hother ⟨fun h => h, fun _ => nofun⟩)
  refine Runs.ite (fun _ => Runs.raise (hother ⟨fun h => h, fun _ => nofun⟩)) fun hmac => Runs.pure ⟨?_, ?_⟩
  · rintro rfl
    exact absurd hindex (by decide)
  · rw [← validMac_eq]
    exact Bool.not_eq_false _ ▸ hmac

/-- What is known of a backend that was resolved. -/
structure Resolved (mac : Mac) (backend : UdpDsrBackendValue) : Prop where
  /-- It goes to the address. -/
  destinationMac : backend.destinationMac = mac
  /-- By an interface. -/
  ifindex : backend.ifindex ≠ 0
  /-- From an address of a station. -/
  sourceMac : Xdp.validMac backend.sourceMac = true

theorem reads_resolveTargets (input : InterfaceInfo) (backends : List UdpDsrBackendValue)
    (targets : List (Bytes × Mac))
    (hnames : ∀ target ∈ targets, ¬ (target.1 = [] ∨ target.1.length ≥ 16 ∨ target.1.any isSeparator)) :
    Reads (resolveTargets input backends targets) ConfigError.NotLiteral fun resolved =>
      ∃ new, resolved = backends ++ new ∧ List.Forall₂ (fun target backend => Resolved target.2 backend) targets new := by
  induction targets generalizing backends with
  | nil => exact Runs.pure ⟨[], (List.append_nil _).symm, .nil⟩
  | cons target targets ih =>
    obtain ⟨name, mac⟩ := target
    have hname := hnames _ List.mem_cons_self
    refine Runs.bind (Q := fun info _ => info.index ≠ 0 ∧ Xdp.validMac info.mac = true)
      ((reads_inspectInterface name).mono ?_ fun _ _ _ h => h) ?_
    · rintro e - - (⟨hbad, -⟩ | he)
      · exact absurd hbad hname
      · exact he
    rintro output ⟨⟩ - ⟨hindex, hmac⟩
    refine Runs.ite (fun _ => Runs.raise ⟨fun h => h, fun _ => nofun⟩) fun _ =>
      Runs.ite (fun _ => Runs.raise ⟨fun h => h, fun _ => nofun⟩) fun _ => ?_
    refine (ih _ fun t ht => hnames t (List.mem_cons_of_mem _ ht)).post ?_
    rintro resolved - - ⟨new, rfl, hall⟩
    exact ⟨⟨output.index, mac, output.mac⟩ :: new, by simp, .cons ⟨rfl, hindex, hmac⟩ hall⟩

/-- **The literals of a checked text are never refused**: `parseDsrConfiguration` may refuse
the name of the ingress, the endpoint of the service, or what it finds of interfaces. -/
theorem reads_parseDsrConfiguration (ingress vip : Bytes) {entries : List RuntimeTargetText}
    (h : CheckedEntries entries) :
    Reads (parseDsrConfiguration ingress vip (entries.map RuntimeTargetText.link))
      (fun e => ¬ e.IsTargetLiteral ∧ ∀ entry ∈ entries, e ≠ .interfaceName entry.egress)
      fun dsr => dsr.config.vipAddress ≠ 0 ∧ dsr.config.vipPort ≠ 0 ∧
        List.Forall₂ (fun entry backend => ∃ mac, parseMac entry.destinationMac = .ok mac ∧
          Resolved mac backend) entries dsr.backends := by
  have hnot : ∀ {e : ConfigError}, e.NotLiteral →
      ¬ e.IsTargetLiteral ∧ ∀ entry ∈ entries, e ≠ .interfaceName entry.egress :=
    fun he => ⟨he.1, fun entry _ => he.2 entry.egress⟩
  unfold parseDsrConfiguration
  rw [parseXdpBackends_singleton]
  cases hvip : parseXdpBackend vip with
  | error e =>
    refine Runs.raise ?_
    rcases parseXdpBackend_error hvip with rfl | rfl | rfl <;> exact ⟨fun h => h, fun _ _ => nofun⟩
  | ok endpoint =>
    obtain ⟨-, haddress, hport⟩ := parseXdpBackend_ok hvip
    refine Runs.pure_bind (Runs.ite (fun hmany => ?_) fun _ => ?_)
    · rw [List.length_map] at hmany
      exact absurd h.length_le (not_le.mpr hmany)
    obtain ⟨targets, htargets, hnames, hall⟩ := parseTargets_links h.checked
    rw [htargets]
    refine Runs.pure_bind ?_
    refine Runs.bind ((reads_inspectInterface ingress).mono ?_ fun _ _ _ h => h) ?_
    · rintro e - - (⟨hbad, rfl⟩ | he)
      · refine ⟨fun h => h, fun entry hentry hname => ?_⟩
        rw [ConfigError.interfaceName.inj hname] at hbad
        exact (h.checked entry hentry).egress hbad
      · exact hnot he
    rintro input ⟨⟩ - -
    refine Runs.bind ((reads_resolveTargets input [] targets hnames).mono (fun e _ _ he => hnot he)
      fun _ _ _ h => h) ?_
    rintro backends ⟨⟩ - ⟨new, rfl, hnew⟩
    refine Runs.pure ⟨haddress, hport, ?_⟩
    refine (forall₂_comp hall hnew).imp ?_
    rintro entry backend ⟨target, hmac, hresolved⟩
    exact ⟨target.2, hmac, hresolved⟩

/-! ### What was loaded -/

/-- An address that was read is one of a station. -/
theorem validMac_of_parseMac {text : Bytes} {mac : Mac} (h : parseMac text = .ok mac) :
    Xdp.validMac mac = true := by
  unfold parseMac at h
  split at h
  · cases h
  split at h
  · split at h
    · cases h
    · rename_i hvalid
      cases h
      exact Bool.not_eq_false _ ▸ hvalid
  · cases h

/-- What is known of a target that was loaded. -/
structure RuntimeTarget.Loaded (target : RuntimeTarget) : Prop where
  /-- It has a name. -/
  id : target.id ≠ []
  /-- It has an interface. -/
  egress : target.egress ≠ [] ∧ target.egress.length < 16
  /-- Its backend can be used. -/
  backend : ¬ target.backend.Invalid
  /-- Its probes go somewhere. -/
  probe : target.probeAddress ≠ 0 ∧ target.probePort ≠ 0

/-- What is known of a configuration that was loaded. -/
structure RuntimeDsrConfiguration.Loaded (configuration : RuntimeDsrConfiguration) : Prop where
  /-- The service has an address and a port. -/
  vip : configuration.vipAddress ≠ 0 ∧ configuration.vipPort ≠ 0
  /-- Its targets can be used. -/
  targets : ∀ target ∈ configuration.targets, target.Loaded
  /-- No two have one name. -/
  nodup : (configuration.targets.map (·.id)).Nodup
  /-- There are no more than fit. -/
  length_le : configuration.targets.length ≤ 64

/-- An entry and its backend, as far as they were checked. -/
def CheckedPair (pair : RuntimeTargetText × UdpDsrBackendValue) : Prop :=
  pair.1.Checked ∧ ¬ pair.2.Invalid

/-- The targets are of the entries, in order. -/
theorem resolveProbes_ok {vipAddress : UInt32} {pairs : List (RuntimeTargetText × UdpDsrBackendValue)}
    {before targets : List RuntimeTarget} (hpairs : ∀ pair ∈ pairs, CheckedPair pair)
    (hbefore : ∀ target ∈ before, target.Loaded) (h : resolveProbes vipAddress before pairs = .ok targets) :
    (∀ target ∈ targets, target.Loaded) ∧
      targets.map (·.id) = before.map (·.id) ++ pairs.map (·.1.id) := by
  induction pairs generalizing before with
  | nil =>
    cases h
    exact ⟨hbefore, by simp⟩
  | cons pair pairs ih =>
    obtain ⟨entry, backend⟩ := pair
    obtain ⟨hentry, hbackend⟩ := hpairs _ List.mem_cons_self
    obtain ⟨endpoint, hendpoint⟩ := hentry.probe
    obtain ⟨-, haddress, hport⟩ := parseXdpBackend_ok hendpoint
    rw [resolveProbes, parseXdpBackends_singleton, hendpoint] at h
    change (if _ then _ else if _ then _ else _) = _ at h
    split_ifs at h
    have hegress := hentry.egress
    simp only [not_or] at hegress
    have hnext : ∀ target ∈ before ++ [⟨entry.id, entry.egress, backend, endpoint.address, endpoint.port⟩],
        target.Loaded := by
      intro target htarget
      rcases List.mem_append.mp htarget with htarget | htarget
      · exact hbefore target htarget
      · obtain rfl := List.mem_singleton.mp htarget
        exact ⟨hentry.id, ⟨hegress.1, not_le.mp hegress.2.1⟩, hbackend, haddress, hport⟩
    obtain ⟨hall, hids⟩ := ih (fun p hp => hpairs p (List.mem_cons_of_mem _ hp)) hnext h
    exact ⟨hall, by simp [hids]⟩

/-- A program that may throw what it likes. -/
abbrev MayThrow {α : Type} (m : ConfigM α) (Q : α → Prop) : Prop := Reads m (fun _ => True) Q

theorem mayThrow_readRuntimeConfigFile (path : Bytes) :
    MayThrow (readRuntimeConfigFile path) fun _ => True := by
  refine Runs.call_bind fun failure => ?_
  rcases failure with _ | e
  swap
  · exact Runs.raise trivial
  refine Runs.ensure (E := fun _ _ => True) (Q := fun _ _ => True) ?_
    (fun _ _ _ _ => Runs.call fun _ => trivial) fun _ _ _ _ => Runs.call fun _ => trivial
  refine Runs.call_bind fun before => ?_
  rcases before with _ | before
  · exact Runs.raise trivial
  refine Runs.ite (fun _ => Runs.raise trivial) fun _ => ?_
  refine Runs.bind (Q := fun _ _ => True) ?_ fun bytes _ _ _ => Runs.call_bind fun after => ?_
  · refine Runs.loop (fun _ _ => True) (fun bytes _ _ => Runs.call_bind fun r => ?_) trivial
    rcases r with e | _ | _
    · exact Runs.ite (fun _ => Runs.pure trivial) fun _ => Runs.raise trivial
    · exact Runs.pure trivial
    · exact Runs.ite (fun _ => Runs.raise trivial) fun _ => Runs.pure trivial
  · rcases after with _ | after
    · exact Runs.raise trivial
    · exact Runs.ite (fun _ => Runs.raise trivial) fun _ => Runs.pure trivial

/-- **What `loadRuntimeConfig` accepts.** -/
theorem mayThrow_loadRuntimeConfig (path ingress vip : Bytes) :
    MayThrow (loadRuntimeConfig path ingress vip) RuntimeDsrConfiguration.Loaded := by
  refine Runs.bind (mayThrow_readRuntimeConfigFile path) ?_
  rintro text ⟨⟩ - -
  cases hentries : parseRuntimeConfigText text with
  | error e => exact Runs.raise trivial
  | ok entries =>
    have hchecked := checkedEntries_of_text hentries
    refine Runs.pure_bind (Runs.bind ((reads_parseDsrConfiguration ingress vip hchecked).mono
      (fun _ _ _ _ => trivial) fun _ _ _ h => h) ?_)
    rintro dsr ⟨⟩ - ⟨haddress, hport, hall⟩
    cases htargets : resolveProbes dsr.config.vipAddress [] (entries.zip dsr.backends) with
    | error e => exact Runs.raise trivial
    | ok targets =>
      have hpairs : ∀ pair ∈ entries.zip dsr.backends, CheckedPair pair := by
        rintro ⟨entry, backend⟩ hpair
        obtain ⟨mac, hmac, hresolved⟩ := List.forall₂_zip hall hpair
        refine ⟨hchecked.checked entry (List.of_mem_zip hpair).1, ?_⟩
        rintro (hif | hd | hs)
        · exact hresolved.ifindex hif
        · rw [hresolved.destinationMac, validMac_of_parseMac hmac] at hd
          cases hd
        · rw [hresolved.sourceMac] at hs
          cases hs
      obtain ⟨hloaded, hids⟩ := resolveProbes_ok hpairs (by simp) htargets
      have hnames : targets.map (·.id) = entries.map (·.id) := by
        have hfst := List.map_fst_zip hall.length_eq.le
        conv_rhs => rw [← hfst, List.map_map]
        rw [hids]
        rfl
      refine Runs.pure ⟨⟨haddress, hport⟩, hloaded, ?_, ?_⟩
      · rw [hnames]
        exact hchecked.nodup
      · have hlength := congrArg List.length hnames
        simp only [List.length_map] at hlength
        rw [hlength]
        exact hchecked.length_le

/-! ### What becomes of it -/

section Loaded

variable {configuration : RuntimeDsrConfiguration}

/-- The targets of a checker are valid. -/
theorem RuntimeDsrConfiguration.Loaded.validTargets (h : configuration.Loaded) :
    (buildProbeTargets configuration).length ≤ 64 ∧ validTargets (buildProbeTargets configuration) := by
  refine ⟨by simpa [buildProbeTargets] using h.length_le, fun target htarget => ?_, ?_⟩
  · obtain ⟨source, hsource, rfl⟩ := List.mem_map.mp htarget
    have hloaded := h.targets source hsource
    exact ⟨hloaded.id, fun hif => hloaded.backend (Or.inl hif), hloaded.egress.1, hloaded.egress.2, hloaded.probe⟩
  · rw [buildProbeTargets, List.map_map]
    exact h.nodup

/-- A checker is refused for its sockets only. -/
theorem runs_constructChecker_loaded (h : configuration.Loaded) {previous : List ProbeSnapshot}
    (hprevious : ∀ old ∈ previous, old.Importable) (s : ProbeProcess) :
    Runs (fun _ _ => True) (fun e _ => e = .openFailed ∨ e = .invalidHandle)
      (constructChecker (buildProbeTargets configuration) previous) s fun _ _ => True := by
  obtain ⟨hlength, hvalid⟩ := h.validTargets
  unfold constructChecker
  refine Runs.gets_bind (Runs.ite (fun hmany => absurd hlength (not_le.mpr hmany)) fun _ =>
    Runs.ite (fun hbad => absurd hvalid hbad) fun _ => ?_)
  refine Runs.modify_bind (.single trivial) ?_
  refine Runs.bind (Q := fun _ _ => True) (Runs.handle (E := fun e _ => e = .openFailed ∨ e = .invalidHandle)
    (Runs.forEach (fun _ => True) _ (fun target _ s _ => ?_) trivial) ?_) fun _ _ _ _ => ?_
  · obtain ⟨snapshot, hsnapshot⟩ := Option.ne_none_iff_exists'.mp (importSnapshot_isSome hprevious target)
    unfold enrollProbe
    rw [hsnapshot]
    refine Runs.modify_bind (.single trivial) (Runs.call_bind fun handle => ?_)
    rcases handle with _ | handle
    · exact Runs.raise (Or.inl rfl)
    · exact Runs.modify_bind (.single trivial)
        (Runs.ite (fun _ => Runs.raise (Or.inr rfl)) fun _ => Runs.pure trivial)
  · rintro e s' - he
    exact Runs.modify_bind (.single trivial) (Runs.raise he)
  · exact Runs.modify_bind (.single trivial) (Runs.pure trivial)

/-- The backend of the probe of a target is that of the target. -/
theorem targetBackend_probe (target : RuntimeTarget) : targetBackend target.probe = target.backend := rfl

theorem forM_ok_of {α : Type} {f : α → Except PublishError Unit} {xs : List α}
    (h : ∀ x ∈ xs, f x = .ok ()) : xs.forM f = .ok () := by
  induction xs with
  | nil => rfl
  | cons y ys ih =>
    rw [List.forM_eq_forM, List.forM_cons, h y List.mem_cons_self]
    exact ih fun x hx => h x (List.mem_cons_of_mem y hx)

/-- **A snapshot of a loaded configuration is accepted**, whatever targets are healthy. -/
theorem RuntimeDsrConfiguration.Loaded.accepted (h : configuration.Loaded) {checker : UdpProbeChecker}
    (hchecker : checker.probes.map (·.snapshot.target) = buildProbeTargets configuration)
    {generation : UInt64} (hgeneration : generation ≠ 0xffffffffffffffff) :
    ∃ snapshot, buildRuntimeSnapshot configuration checker (generation + 1) = some snapshot ∧
      validateCandidateSnapshot snapshot generation = .ok () := by
  have hlength : checker.probes.length ≤ 64 := by
    have hsame := congrArg List.length hchecker
    rw [List.length_map] at hsame
    exact hsame ▸ h.validTargets.1
  refine ⟨_, buildRuntimeSnapshot_eq configuration (generation + 1) hlength, ?_⟩
  set backends := checker.copyHealthyProbeTargets.map targetBackend with hbackends
  have hle : backends.length ≤ 64 := by
    rw [hbackends, List.length_map, UdpProbeChecker.copyHealthyProbeTargets, List.length_map]
    exact (List.length_filter_le _ _).trans hlength
  have hvalid : ∀ backend ∈ backends, ¬ backend.Invalid := by
    intro backend hbackend
    obtain ⟨target, htarget, rfl⟩ := List.mem_map.mp hbackend
    obtain ⟨probe, hprobe, rfl⟩ := List.mem_map.mp htarget
    have hmem : probe.snapshot.target ∈ buildProbeTargets configuration := by
      rw [← hchecker]
      exact List.mem_map_of_mem (List.mem_of_mem_filter hprobe)
    obtain ⟨source, hsource, he⟩ := List.mem_map.mp hmem
    rw [← he, targetBackend_probe]
    exact (h.targets source hsource).backend
  have hchecks : ¬ ((denseSnapshot configuration (generation + 1) backends).schemaVersion ≠ 3 ∨
      (denseSnapshot configuration (generation + 1) backends).backendCount > 64 ∨
      (denseSnapshot configuration (generation + 1) backends).reserved ≠ 0 ∨
      generation = 0xffffffffffffffff ∨
      (denseSnapshot configuration (generation + 1) backends).generation ≠ generation + 1 ∨
      (denseSnapshot configuration (generation + 1) backends).vipAddress = 0 ∨
      (denseSnapshot configuration (generation + 1) backends).vipPort = 0) := by
    rintro (hv | hc | hr | hg | hn | ha | hp)
    · exact hv rfl
    · rw [denseSnapshot, gt_iff_lt, UInt32.lt_iff_toNat_lt, toNat_length hle] at hc
      exact absurd hle (not_le.mpr hc)
    · exact hr rfl
    · exact hgeneration hg
    · exact hn rfl
    · exact h.vip.1 ha
    · exact h.vip.2 hp
  unfold validateCandidateSnapshot
  rw [if_neg hchecks]
  refine forM_ok_of fun index _ => ?_
  have hslot : (denseSnapshot configuration (generation + 1) backends).backends.get index =
      slotBackend backends index := by
    exact Vector.getElem_ofFn index.isLt
  unfold validateSlot
  simp only [hslot]
  rw [denseSnapshot, toNat_length hle]
  split
  · rename_i hlt
    have hmem : slotBackend backends index ∈ backends := by
      rw [slotBackend, List.getElem?_eq_getElem hlt]
      exact List.getElem_mem hlt
    rw [if_neg]
    exact hvalid _ hmem
  · rename_i hge
    rw [slotBackend, List.getElem?_eq_none (not_lt.mp hge)]
    rfl

end Loaded

/-! ### Publishing it -/

/-- It is the error of an operation on maps. -/
def OfMapOperation : PublishError → Prop
  | .invalidSnapshot | .invalidBackend | .unusedSlot => False
  | _ => True

/-- However the calls are answered. -/
abbrev Anyhow {α : Type} (m : MapProgram α) (Q : α → Prop) : Prop :=
  m.Always (fun _ (_ : Unit) _ _ => True) (fun _ => True) (fun a _ => Q a) ()

theorem anyhow_validateMapMetadata (fd : ℤ) :
    Anyhow (validateMapMetadata fd) fun r => ∀ e, r = .error e → OfMapOperation e := by
  unfold validateMapMetadata
  refine Tree.Always.ask_bind fun info s _ => ⟨trivial, ?_⟩
  rcases info with error | info
  · rintro e ⟨⟩
    trivial
  · dsimp only
    split
    · rintro e ⟨⟩
      trivial
    · exact nofun

theorem anyhow_verifyFrozenSnapshot (fd : ℤ) (snapshot : UdpRuntimeSnapshot) :
    Anyhow (verifyFrozenSnapshot fd snapshot) fun r => ∀ e, r = .error e → OfMapOperation e := by
  unfold verifyFrozenSnapshot
  refine Tree.Always.ask_bind fun written s _ => ⟨trivial, ?_⟩
  rcases written with error | _
  · dsimp only
    split
    · rintro e ⟨⟩
      trivial
    · exact nofun
  · rintro e ⟨⟩
    trivial

theorem anyhow_prepareCandidate (fd : ℤ) (snapshot : UdpRuntimeSnapshot) :
    Anyhow (prepareCandidate fd snapshot) fun r => ∀ e, r = .error e → OfMapOperation e := by
  unfold prepareCandidate
  refine Tree.Always.ask_bind fun written s _ => ⟨trivial, ?_⟩
  rcases written with error | _
  · rintro e ⟨⟩
    trivial
  refine Tree.Always.ask_bind fun readback s _ => ⟨trivial, ?_⟩
  rcases readback with error | readback
  · rintro e ⟨⟩
    trivial
  dsimp only
  split
  · rintro e ⟨⟩
    trivial
  refine Tree.Always.ask_bind fun frozen s _ => ⟨trivial, ?_⟩
  rcases frozen with error | _
  · rintro e ⟨⟩
    trivial
  refine (anyhow_validateMapMetadata fd).bind fun info s hinfo => ?_
  rcases info with error | info
  · rintro e ⟨⟩
    exact hinfo error rfl
  refine (anyhow_verifyFrozenSnapshot fd snapshot).bind fun denied s hdenied => ?_
  rcases denied with error | _
  · rintro e ⟨⟩
    exact hdenied error rfl
  · exact nofun

theorem anyhow_confirmPublished (info : MapInfo) :
    Anyhow (confirmPublished info) fun r => ∀ e, r = .error e → OfMapOperation e := by
  unfold confirmPublished
  refine Tree.Always.ask_bind fun id s _ => ⟨trivial, ?_⟩
  rcases id with error | id
  · rintro e ⟨⟩
    trivial
  · dsimp only
    split
    · rintro e ⟨⟩
      trivial
    · exact nofun

/-- **A snapshot that is accepted** fails to be published only for an operation on maps. -/
theorem anyhow_publishSnapshot {store : RuntimeMapStore} {snapshot : UdpRuntimeSnapshot}
    (h : validateCandidateSnapshot snapshot store.generation = .ok ()) :
    Anyhow (publishSnapshot store snapshot) fun r => ∀ e, r.2 = .error e → OfMapOperation e := by
  unfold publishSnapshot
  rw [h]
  refine Tree.Always.ask_bind fun created s _ => ⟨trivial, ?_⟩
  rcases created with error | fd
  · rintro e ⟨⟩
    trivial
  refine (anyhow_prepareCandidate fd snapshot).bind fun info s hinfo => ?_
  rcases info with error | info
  · refine Tree.Always.ask_bind fun _ s _ => ⟨trivial, ?_⟩
    rintro e ⟨⟩
    exact hinfo error rfl
  refine Tree.Always.ask_bind fun published s _ => ⟨trivial, ?_⟩
  rcases published with error | _
  · refine Tree.Always.ask_bind fun _ s _ => ⟨trivial, ?_⟩
    rintro e ⟨⟩
    trivial
  refine Tree.Always.bind (Q := fun _ _ => True) ?_ fun _ s _ => ?_
  · unfold closePrevious
    split
    · exact fun _ _ _ => ⟨trivial, trivial⟩
    · trivial
  exact (anyhow_confirmPublished info).bind fun r s hr => hr

/-! ### The closure -/

/-- The two checks of an interface's name in text agree. -/
theorem validateRuntimeTargetLiteral_egress (entry : RuntimeTargetText)
    (hid : isValidRuntimeTargetId entry.id = true) (script : List (Answerer ConfigCall ConfigAnswer)) :
    validateRuntimeTargetLiteral entry = .error .targetEgress ↔
      (inspectInterface entry.egress ⟨script, ()⟩).1 = .thrown (.interfaceName entry.egress) := by
  unfold validateRuntimeTargetLiteral
  rw [if_neg (by simp [hid])]
  by_cases hbad : entry.egress = [] ∨ entry.egress.length ≥ 16 ∨ entry.egress.any isSeparator
  · have hthrown : (inspectInterface entry.egress ⟨script, ()⟩).1 = .thrown (.interfaceName entry.egress) := by
      unfold inspectInterface IF_NAMESIZE
      rw [if_pos hbad]
      rfl
    rw [if_pos hbad]
    exact ⟨fun _ => hthrown, fun _ => rfl⟩
  · rw [if_neg hbad]
    constructor
    · intro herror
      cases hmac : validateTargetMac entry.destinationMac with
      | error e =>
        rw [hmac] at herror
        cases herror
        rcases validateTargetMac_error hmac with h | h | h <;> cases h
      | ok u =>
        rw [hmac, parseXdpBackends_singleton] at herror
        cases hprobe : parseXdpBackend entry.probeEndpoint with
        | error e =>
          rw [hprobe] at herror
          cases herror
          rcases parseXdpBackend_error hprobe with h | h | h <;> cases h
        | ok backend =>
          rw [hprobe] at herror
          cases herror
    · intro hthrown
      have hrun := (reads_inspectInterface entry.egress script).2
      rw [hthrown] at hrun
      rcases hrun with ⟨hname, -⟩ | hother
      · exact absurd hname hbad
      · exact absurd rfl (hother.2 entry.egress)

/-- The snapshots of the checker in place can be imported. -/
theorem importable_currentSnapshots (nonceSource : ProbeNonceSequence) (clock : Time)
    (script : List (Answerer ProbeCall ProbeAnswer)) :
    ∀ old ∈ currentSnapshots (checkerChain ⟨script, { nonceSource, clock }⟩).2.state, old.Importable := by
  intro old hold
  exact importable_of_health ((continuity_checkerChain nonceSource clock script).health old hold)

/-- **From a configuration to its publication.** Both checks of an address in text accept the
same texts, and both checks of an interface's name refuse the same; so the literals of an
accepted text are never refused by `parseDsrConfiguration`. Of a configuration that was
loaded:

* constructing a checker, whatever checkers there were before, fails only when a socket
  cannot be opened;
* whichever of its targets are healthy, and whatever the generation in place, but the last,
  there is a snapshot, which is accepted;
* publishing it fails only for an operation on maps. -/
theorem configuration_closure :
    (∀ text, validateTargetMac text = .ok () ↔ ∃ mac, parseMac text = .ok mac) ∧
    (∀ entry, isValidRuntimeTargetId entry.id = true → ∀ script,
      (validateRuntimeTargetLiteral entry = .error .targetEgress ↔
        (inspectInterface entry.egress ⟨script, ()⟩).1 = .thrown (.interfaceName entry.egress))) ∧
    (∀ text entries, parseRuntimeConfigText text = .ok entries → ∀ ingress vip script e world,
      parseDsrConfiguration ingress vip (entries.map RuntimeTargetText.link) ⟨script, ()⟩ = (.thrown e, world) →
        ¬ e.IsTargetLiteral ∧ ∀ entry ∈ entries, e ≠ .interfaceName entry.egress) ∧
    ∀ path ingress vip script configuration world,
      loadRuntimeConfig path ingress vip ⟨script, ()⟩ = (.ok configuration, world) →
        (∀ nonceSource clock chain probing e process,
          let s := (checkerChain ⟨chain, { nonceSource, clock }⟩).2.state
          constructChecker (buildProbeTargets configuration) (currentSnapshots s) ⟨probing, s⟩ =
            (.thrown e, process) → e = .openFailed ∨ e = .invalidHandle) ∧
        ∀ (checker : UdpProbeChecker) (store : RuntimeMapStore),
          checker.probes.map (·.snapshot.target) = buildProbeTargets configuration →
          store.generation ≠ 0xffffffffffffffff →
            ∃ snapshot, buildRuntimeSnapshot configuration checker (store.generation + 1) = some snapshot ∧
              validateCandidateSnapshot snapshot store.generation = .ok () ∧
              Anyhow (publishSnapshot store snapshot) fun r => ∀ e, r.2 = .error e → OfMapOperation e := by
  refine ⟨validateTargetMac_iff, validateRuntimeTargetLiteral_egress, ?_, ?_⟩
  · intro text entries htext ingress vip script e world hrun
    exact ((reads_parseDsrConfiguration ingress vip (checkedEntries_of_text htext)).of_thrown hrun).2
  · intro path ingress vip script configuration world hrun
    have hloaded : configuration.Loaded := ((mayThrow_loadRuntimeConfig path ingress vip).of_ok hrun).2
    constructor
    · intro nonceSource clock chain probing e process s hthrown
      exact ((runs_constructChecker_loaded hloaded
        (importable_currentSnapshots nonceSource clock chain) s).of_thrown hthrown).2
    · intro checker store hchecker hgeneration
      obtain ⟨snapshot, hsnapshot, haccepted⟩ := hloaded.accepted hchecker hgeneration
      exact ⟨snapshot, hsnapshot, haccepted, anyhow_publishSnapshot haccepted⟩

/-- A text of one target. -/
def oneTargetText : Bytes := literal "schema=1\ntarget=a eth1@02:00:00:00:00:02 10.0.0.2:53\n"

/-- A system where all goes well; what is read is `text`. -/
def obligingSystem (text : Bytes) : Answerer ConfigCall ConfigAnswer
  | .socket => true
  | .ifIndex name => some (if name = literal "eth0" then ⟨1, by decide⟩ else ⟨2, by decide⟩)
  | .ifUp _ => some true
  | .ifMtu _ => some 1500
  | .ifHardware _ => some (true, #v[2, 0, 0, 0, 0, 1])
  | .openFile _ => none
  | .fstat => some ⟨true, 1, 1, oneTargetText.length, (0, 0), (0, 0)⟩
  | .read => .ok text
  | .closeFile => ()

/-- The configuration of that text. -/
def oneTargetConfiguration : RuntimeDsrConfiguration where
  vipAddress := 0x0100000a
  vipPort := 0x3500
  targets := [⟨literal "a", literal "eth1", ⟨2, #v[2, 0, 0, 0, 0, 2], #v[2, 0, 0, 0, 0, 1]⟩, 0x0200000a, 0x3500⟩]

/-- With its one target healthy. -/
theorem configuration_closure_one :
    let checker : UdpProbeChecker :=
      { probes := (buildProbeTargets oneTargetConfiguration).map fun target => ⟨{ target, state := .healthy }, -1,
        false, .replicate 24 0, 0, 0⟩ }
    ∃ snapshot, buildRuntimeSnapshot oneTargetConfiguration checker 1 = some snapshot ∧
      validateCandidateSnapshot snapshot 0 = .ok () ∧
      Anyhow (publishSnapshot {} snapshot) fun r => ∀ e, r.2 = .error e → OfMapOperation e := by
  intro checker
  let system := List.replicate 3 (obligingSystem oneTargetText) ++ List.replicate 13 (obligingSystem [])
  have hrun : loadRuntimeConfig [] (literal "eth0") (literal "10.0.0.1:53") ⟨system, ()⟩ =
      (.ok oneTargetConfiguration,
        (loadRuntimeConfig [] (literal "eth0") (literal "10.0.0.1:53") ⟨system, ()⟩).2) :=
    Prod.ext (by decide +kernel) rfl
  exact (configuration_closure.2.2.2 _ _ _ _ _ _ hrun).2 checker {} rfl (by decide)

end L4lb.Control
