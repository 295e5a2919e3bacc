import L4lb.Config.ConfigGrammar

/-!
# The endpoint codec

An endpoint is written in one way, and read from nothing else (`endpoint_codec`).

## The model

* `formatEndpoint` — how an endpoint is written, by those who report it.
* `accumulateDigit` — a pass of the loop of `parseUnsignedDecimal`, in 32 bits, which wrap.

## The argument

The grammar of the configuration has the one direction and the other
(`parseIpv4Endpoint_eq_some_iff`); what the formatter writes is what the grammar asks for. In
32 bits the guard `(maximum - digit) / 10` keeps each pass below `maximum`, so that nothing
wraps.
-/

namespace L4lb

open Text

/-! ### Writing -/

/-- `formatEndpoint`. -/
def formatEndpoint (endpoint : Endpoint) : Bytes :=
  decimal (endpoint.address.get 0).toNat ++ literal "." ++ decimal (endpoint.address.get 1).toNat ++ literal "." ++
    decimal (endpoint.address.get 2).toNat ++ literal "." ++ decimal (endpoint.address.get 3).toNat ++ literal ":" ++
    decimal endpoint.port.toNat

/-- An endpoint that a listener, or a backend, may have. -/
structure Permitted (endpoint : Endpoint) (backend : Bool) : Prop where
  /-- It has a port. -/
  port : endpoint.port ≠ 0
  /-- It is not in 224.0.0.0/4. -/
  multicast : (endpoint.address.get 0).toNat / 16 ≠ 14
  /-- It is not the broadcast address. -/
  broadcast : endpoint.address ≠ broadcastAddress
  /-- A backend is somewhere. -/
  unspecified : backend = true → endpoint.address ≠ anyAddress

variable {endpoint : Endpoint} {backend : Bool} {value : Bytes}

theorem formatEndpoint_eq (endpoint : Endpoint) : formatEndpoint endpoint = endpointText endpoint := by
  have hdot : literal "." = [46] := by simp only [literal_eq]; decide
  have hcolon : literal ":" = [58] := by simp only [literal_eq]; decide
  simp [formatEndpoint, endpointText, addressText, hdot, hcolon]

theorem isMulticast_iff (x : UInt8) : (x ≥ 224 ∧ x ≤ 239) ↔ x.toNat / 16 = 14 := by
  simp only [ge_iff_le, UInt8.le_iff_toNat_le]
  show 224 ≤ x.toNat ∧ x.toNat ≤ 239 ↔ _
  omega

theorem permitted_iff : Permitted endpoint backend ↔
    endpoint.port ≠ 0 ∧ isRefusedAddress endpoint.address backend = false := by
  have hrefused : isRefusedAddress endpoint.address backend = false ↔
      ¬ (endpoint.address.get 0).toNat / 16 = 14 ∧ ¬ endpoint.address = broadcastAddress ∧
        ¬ (backend = true ∧ endpoint.address = anyAddress) := by
    rw [← isMulticast_iff, ← Bool.not_eq_true]
    simp only [isRefusedAddress, Bool.or_eq_true, Bool.and_eq_true, decide_eq_true_eq, not_or, and_assoc]
  rw [hrefused]
  constructor
  · intro h
    exact ⟨h.port, h.multicast, h.broadcast, fun ⟨hbackend, haddress⟩ => h.unspecified hbackend haddress⟩
  · rintro ⟨hport, hmulticast, hbroadcast, hunspecified⟩
    exact ⟨hport, hmulticast, hbroadcast, fun hbackend haddress => hunspecified ⟨hbackend, haddress⟩⟩

/-- **An endpoint is read from what is written for it, and from nothing else.** -/
theorem parseIpv4Endpoint_iff_format :
    parseIpv4Endpoint value backend = some endpoint ↔ Permitted endpoint backend ∧ value = formatEndpoint endpoint := by
  rw [parseIpv4Endpoint_eq_some_iff, permitted_iff, formatEndpoint_eq]
  constructor
  · intro h
    exact ⟨⟨h.port, h.address⟩, h.text⟩
  · rintro ⟨⟨hport, haddress⟩, htext⟩
    exact ⟨htext, hport, haddress⟩

theorem formatEndpoint_injective : Function.Injective formatEndpoint := by
  intro endpoint endpoint' h
  rw [formatEndpoint_eq, formatEndpoint_eq, endpointText, endpointText] at h
  have hcut := cut_append (notMem_addressText endpoint.address) (decimal endpoint.port.toNat)
  rw [h, cut_append (notMem_addressText endpoint'.address)] at hcut
  obtain ⟨haddress, hport⟩ := Prod.mk.inj (Option.some.inj hcut)
  have haddress : endpoint'.address = endpoint.address := by
    have hparse := parseAddress_eq_some_iff.mpr haddress
    rw [parseAddress_eq_some_iff.mpr rfl] at hparse
    exact Option.some.inj hparse
  have hport : endpoint'.port = endpoint.port := UInt16.toNat_inj.mp (decimal_injective hport)
  cases endpoint
  cases endpoint'
  simp only at haddress hport
  rw [haddress, hport]

/-- Texts are equal when what is read from them is. -/
theorem parse_inj {value' : Bytes} {endpoint' : Endpoint} {backend' : Bool}
    (h : parseIpv4Endpoint value backend = some endpoint) (h' : parseIpv4Endpoint value' backend' = some endpoint') :
    endpoint = endpoint' ↔ value = value' := by
  obtain ⟨_, rfl⟩ := parseIpv4Endpoint_iff_format.mp h
  obtain ⟨_, rfl⟩ := parseIpv4Endpoint_iff_format.mp h'
  exact formatEndpoint_injective.eq_iff.symm

/-- **A duplicate is a text that was there.** -/
theorem addBackend_duplicate_iff {s : ConfigParse} {texts : List Bytes}
    (htexts : texts.map (parseIpv4Endpoint · true) = s.config.backends.map some)
    (hroom : s.config.backends.length < 256) (h : parseIpv4Endpoint value true = some endpoint) :
    s.addBackend value = .error (.field, "backend 端点不能重复") ↔ value ∈ texts := by
  have hmem : endpoint ∈ s.config.backends ↔ value ∈ texts := by
    have hsome : some endpoint ∈ texts.map (parseIpv4Endpoint · true) ↔ endpoint ∈ s.config.backends := by
      rw [htexts]
      simp
    rw [← hsome, List.mem_map]
    constructor
    · rintro ⟨text, htext, hparse⟩
      rwa [← (parse_inj hparse h).mp rfl]
    · exact fun hvalue => ⟨value, hvalue, h⟩
  rw [← hmem]
  simp only [ConfigParse.addBackend, h, if_neg hroom.ne]
  split
  · rename_i hduplicate
    simp [hduplicate]
  · rename_i hnew
    simp [hnew]

/-! ### Digits in 32 bits -/

/-- A pass of the loop of `parseUnsignedDecimal`, as it is computed: `unsigned` wraps. -/
def accumulateDigit (maximum result : UInt32) (character : UInt8) : Option UInt32 :=
  if character < 48 ∨ character > 57 then none
  else
    let digit := (character - 48).toUInt32
    if result > (maximum - digit) / 10 then none else some (result * 10 + digit)

/-- `parseUnsignedDecimal`, as it is computed. -/
def parseUnsignedWord (value : Bytes) (maximum : UInt32) : Option UInt32 :=
  if value = [] ∨ value.length > 1 ∧ value.head? = some 48 then none
  else (value.foldlM (accumulateDigit maximum) 0).filter (· ≤ maximum)

variable {maximum result : UInt32} {character : UInt8}

theorem digit_toNat (hdigit : ¬ (character < 48 ∨ character > 57)) :
    (character - 48).toUInt32.toNat = character.toNat - 48 ∧ character.toNat - 48 ≤ 9 := by
  obtain ⟨hlow, hhigh⟩ := not_or.mp hdigit
  have hlow : (48 : UInt8) ≤ character := UInt8.not_lt.mp hlow
  have hhigh : character ≤ 57 := UInt8.not_lt.mp hhigh
  rw [UInt8.toNat_toUInt32, UInt8.toNat_sub_of_le _ _ hlow]
  have := UInt8.le_iff_toNat_le.mp hhigh
  have hvalue : (57 : UInt8).toNat = 57 := rfl
  exact ⟨rfl, by omega⟩

/-- **A pass does not wrap.** -/
theorem accumulateDigit_toNat (hmax : 9 ≤ maximum.toNat) (result : UInt32) (character : UInt8) :
    (accumulateDigit maximum result character).map UInt32.toNat =
      addDecimalDigit maximum.toNat result.toNat character := by
  unfold accumulateDigit addDecimalDigit
  by_cases hdigit : character < 48 ∨ character > 57
  · simp [hdigit]
  · obtain ⟨hvalue, hnine⟩ := digit_toNat hdigit
    have hle : (character - 48).toUInt32 ≤ maximum := by
      rw [UInt32.le_iff_toNat_le, hvalue]
      omega
    have hbound : ((maximum - (character - 48).toUInt32) / 10).toNat = (maximum.toNat - (character.toNat - 48)) / 10 := by
      rw [UInt32.toNat_div, UInt32.toNat_sub_of_le _ _ hle, hvalue]
      rfl
    have hguard : result > (maximum - (character - 48).toUInt32) / 10 ↔
        result.toNat > (maximum.toNat - (character.toNat - 48)) / 10 := by
      rw [gt_iff_lt, UInt32.lt_iff_toNat_lt, hbound]
    rw [if_neg hdigit, if_neg hdigit]
    simp only [hguard]
    split
    · rfl
    · rename_i hsmall
      have hmaximum := maximum.toNat_lt
      have hsum : (result * 10 + (character - 48).toUInt32).toNat = result.toNat * 10 + (character.toNat - 48) := by
        have hten : (10 : UInt32).toNat = 10 := rfl
        rw [UInt32.toNat_add, UInt32.toNat_mul, hvalue, hten]
        omega
      rw [Option.map_some, hsum]

theorem foldlM_accumulateDigit (hmax : 9 ≤ maximum.toNat) (value : Bytes) (result : UInt32) :
    (value.foldlM (accumulateDigit maximum) result).map UInt32.toNat =
      value.foldlM (addDecimalDigit maximum.toNat) result.toNat := by
  induction value generalizing result with
  | nil => rfl
  | cons character value ih =>
    rw [List.foldlM_cons, List.foldlM_cons, ← accumulateDigit_toNat hmax]
    cases accumulateDigit maximum result character with
    | none => rfl
    | some next => exact ih next

/-- **Wrapping makes no difference.** -/
theorem parseUnsignedWord_toNat (hmax : 9 ≤ maximum.toNat) (value : Bytes) :
    (parseUnsignedWord value maximum).map UInt32.toNat = parseUnsignedDecimal value maximum.toNat := by
  unfold parseUnsignedWord parseUnsignedDecimal
  split
  · rfl
  · have hfold := foldlM_accumulateDigit hmax value 0
    rw [← show (value.foldlM (accumulateDigit maximum) 0).map UInt32.toNat =
      value.foldlM (addDecimalDigit maximum.toNat) 0 from hfold]
    cases value.foldlM (accumulateDigit maximum) 0 with
    | none => rfl
    | some result =>
      simp only [Option.map_some, Option.filter_some, decide_eq_true_eq, UInt32.le_iff_toNat_le]
      split
      · rfl
      · rfl

/-- **Endpoints and their texts.** Whatever the text, an endpoint is read from it just when it is permitted and the
text is what is written for it. So reading undoes writing and writing undoes reading; texts are the same when the
endpoints are, and a backend is refused as a duplicate just when its text was there before. The digits, however many,
are added up without wrapping, under both limits that are used. -/
theorem endpoint_codec :
    (∀ value backend endpoint, parseIpv4Endpoint value backend = some endpoint ↔
      Permitted endpoint backend ∧ value = formatEndpoint endpoint) ∧
    (∀ endpoint backend, Permitted endpoint backend →
      parseIpv4Endpoint (formatEndpoint endpoint) backend = some endpoint) ∧
    (∀ value backend endpoint, parseIpv4Endpoint value backend = some endpoint → formatEndpoint endpoint = value) ∧
    (∀ value value' backend backend' endpoint, parseIpv4Endpoint value backend = some endpoint →
      parseIpv4Endpoint value' backend' = some endpoint → value = value') ∧
    (∀ (s : ConfigParse) (texts : List Bytes) value endpoint,
      texts.map (parseIpv4Endpoint · true) = s.config.backends.map some → s.config.backends.length < 256 →
      parseIpv4Endpoint value true = some endpoint →
      (s.addBackend value = .error (.field, "backend 端点不能重复") ↔ value ∈ texts)) ∧
    ∀ maximum : UInt32, maximum = 255 ∨ maximum = 65535 → ∀ value : Bytes,
      (parseUnsignedWord value maximum).map UInt32.toNat = parseUnsignedDecimal value maximum.toNat ∧
      ∀ before result character next, value.foldlM (accumulateDigit maximum) before = some result →
        accumulateDigit maximum result character = some next →
        next.toNat = result.toNat * 10 + (character.toNat - 48) ∧ result.toNat * 10 + (character.toNat - 48) < 2 ^ 32 := by
  refine ⟨fun value backend endpoint => parseIpv4Endpoint_iff_format,
    fun endpoint backend h => parseIpv4Endpoint_iff_format.mpr ⟨h, rfl⟩,
    fun value backend endpoint h => (parseIpv4Endpoint_iff_format.mp h).2.symm,
    fun value value' backend backend' endpoint h h' => (parse_inj h h').mp rfl,
    fun s texts value endpoint htexts hroom h => addBackend_duplicate_iff htexts hroom h,
    fun maximum hmax value => ?_⟩
  have hmax : 9 ≤ maximum.toNat := by
    rcases hmax with rfl | rfl
    · decide
    · decide
  refine ⟨parseUnsignedWord_toNat hmax value, fun before result character next _ h => ?_⟩
  have hpass := accumulateDigit_toNat hmax result character
  rw [h, Option.map_some] at hpass
  obtain ⟨_, hnext, _⟩ := (addDecimalDigit_eq_some_iff hmax).mp hpass.symm
  have hlt := next.toNat_lt
  exact ⟨hnext, by omega⟩

end L4lb
