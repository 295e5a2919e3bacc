import L4lb.Config.Config
import L4lb.Text.Layout

/-!
# The grammar of the configuration

What a configuration is, said of its lines: which line is one of settings, which is a
note, and which settings may follow those before it.

## The model

* `EndpointText` — a value that says an endpoint.
* `IsNote`, `IsSetting` — a blank line or a comment; a key and a value in blanks.
* `Admissible` — a setting that may follow others; `ValidLine` — a line that may follow others.
* `Means` — the configuration that settings say.

## What is proved

The parser of a line and of a field accept just what the grammar says, and keep that
the configuration so far is what the settings so far say (`parseLine_spec`).
-/

namespace L4lb

open Text

/-! ### Numbers and endpoints -/

/-- A digit is added while the number stays in its bound. -/
theorem addDecimalDigit_eq_some_iff {maximum result n : ℕ} {c : UInt8} (hmax : 9 ≤ maximum) :
    addDecimalDigit maximum result c = some n ↔
      IsDigit c ∧ n = result * 10 + (c.toNat - 48) ∧ n ≤ maximum := by
  unfold addDecimalDigit
  by_cases hc : IsDigit c
  · have hcn := hc.toNat
    rw [if_neg (by
      rintro (h | h)
      · exact absurd hc.1 (UInt8.not_le.mpr h)
      · exact absurd hc.2 (UInt8.not_le.mpr h))]
    dsimp only
    split
    · rename_i hbig
      simp only [reduceCtorEq, hc, true_and, false_iff, not_and]
      omega
    · rename_i hsmall
      simp only [Option.some.injEq, hc, true_and]
      omega
  · rw [if_pos (by
      by_contra h
      obtain ⟨h1, h2⟩ := not_or.mp h
      exact hc ⟨UInt8.not_lt.mp h1, UInt8.not_lt.mp h2⟩)]
    simp [hc]

/-- Digits are read as their number, while it stays in its bound. -/
theorem foldlM_addDecimalDigit {maximum n : ℕ} {value : Bytes} (hmax : 9 ≤ maximum) :
    value.foldlM (addDecimalDigit maximum) 0 = some n ↔
      (∀ c ∈ value, IsDigit c) ∧ decimalValue value = n ∧ n ≤ maximum := by
  induction value using List.reverseRecOn generalizing n with
  | nil =>
    simp only [List.foldlM_nil, List.not_mem_nil, false_implies, implies_true, true_and, decimalValue, List.foldl_nil]
    constructor
    · intro h
      cases h
      omega
    · rintro ⟨rfl, -⟩
      rfl
  | append_singleton xs c ih =>
    rw [List.foldlM_append, decimalValue_concat]
    simp only [List.foldlM_cons, List.foldlM_nil]
    constructor
    · intro h
      obtain ⟨r, hr, h⟩ := Option.bind_eq_some_iff.mp h
      obtain ⟨hxs, hval, hle⟩ := ih.mp hr
      obtain ⟨n', hn', h⟩ := Option.bind_eq_some_iff.mp h
      obtain ⟨hc, hadd, hbound⟩ := (addDecimalDigit_eq_some_iff hmax).mp hn'
      cases h
      refine ⟨fun x hx => ?_, by rw [hval, hadd], hbound⟩
      rcases List.mem_append.mp hx with hx | hx
      · exact hxs x hx
      · rw [List.mem_singleton.mp hx]
        exact hc
    · rintro ⟨hall, hval, hle⟩
      have hxs := ih.mpr ⟨fun x hx => hall x (by simp [hx]), rfl, by omega⟩
      rw [hxs]
      have hadd := (@addDecimalDigit_eq_some_iff _ (decimalValue xs) n _ hmax).mpr
        ⟨hall c (by simp), hval.symm, hle⟩
      show (addDecimalDigit maximum (decimalValue xs) c).bind some = some n
      rw [hadd]
      rfl

/-- **A number is read from its decimal, and from nothing else.** -/
theorem parseUnsignedDecimal_eq_some_iff {maximum n : ℕ} {value : Bytes} (hmax : 9 ≤ maximum) :
    parseUnsignedDecimal value maximum = some n ↔ value = decimal n ∧ n ≤ maximum := by
  unfold parseUnsignedDecimal
  rw [eq_decimal_iff]
  by_cases hform : value = [] ∨ value.length > 1 ∧ value.head? = some 48
  · rw [if_pos hform]
    simp only [reduceCtorEq, false_iff]
    rintro ⟨⟨h, -⟩, -⟩
    rcases hform with hnil | ⟨hlen, hhead⟩
    · exact h.ne_nil hnil
    · have := h.head hhead
      omega
  · rw [if_neg hform, Option.filter_eq_some_iff, foldlM_addDecimalDigit hmax]
    obtain ⟨hne, hhead⟩ := not_or.mp hform
    simp only [decide_eq_true_eq]
    constructor
    · rintro ⟨⟨hdigits, hval, hle⟩, -⟩
      refine ⟨⟨⟨hne, hdigits, fun hz => ?_⟩, hval⟩, hle⟩
      have := List.length_pos_iff.mpr hne
      have : ¬ value.length > 1 := fun hlen => hhead ⟨hlen, hz⟩
      omega
    · rintro ⟨⟨hdec, hval⟩, hle⟩
      exact ⟨⟨hdec.digits, hval, hle⟩, hle⟩

/-- An address as it is written. -/
def addressText (address : Address) : Bytes :=
  decimal (address.get 0).toNat ++ (46 : UInt8) :: (decimal (address.get 1).toNat ++ (46 : UInt8) ::
    (decimal (address.get 2).toNat ++ (46 : UInt8) :: decimal (address.get 3).toNat))

theorem addressText_mk (a b c d : UInt8) : addressText #v[a, b, c, d] =
    decimal a.toNat ++ 46 :: (decimal b.toNat ++ 46 :: (decimal c.toNat ++ 46 :: decimal d.toNat)) := rfl

/-- An endpoint as it is written. -/
def endpointText (endpoint : Endpoint) : Bytes :=
  addressText endpoint.address ++ (58 : UInt8) :: decimal endpoint.port.toNat

/-- A value that says an endpoint, of a listener or of a backend. -/
structure EndpointText (backend : Bool) (value : Bytes) (endpoint : Endpoint) : Prop where
  /-- It is written out. -/
  text : value = endpointText endpoint
  /-- It has a port. -/
  port : endpoint.port ≠ 0
  /-- The address may be used. -/
  address : isRefusedAddress endpoint.address backend = false

theorem notMem_decimal {c : UInt8} (hc : ¬ IsDigit c) (n : ℕ) : c ∉ decimal n := fun hm =>
  hc ((isDecimal_decimal n).digits c hm)

theorem not_isDigit_dot : ¬ IsDigit 46 := by
  rintro ⟨h, -⟩
  exact absurd h (by decide)

theorem not_isDigit_colon : ¬ IsDigit 58 := by
  rintro ⟨-, h⟩
  exact absurd h (by decide)

/-- A part of an address. -/
theorem parseOctet_eq_some_iff {value : Bytes} {n : ℕ} :
    parseUnsignedDecimal value 255 = some n ↔ value = decimal n ∧ n ≤ 255 :=
  parseUnsignedDecimal_eq_some_iff (by omega)

theorem toUInt8_toNat {n : ℕ} (h : n ≤ 255) : n.toUInt8.toNat = n := by
  rw [Nat.toUInt8, UInt8.toNat_ofNat_of_lt' (by simp only [UInt8.size]; omega)]

theorem toUInt16_toNat {n : ℕ} (h : n ≤ 65535) : n.toUInt16.toNat = n := by
  rw [Nat.toUInt16, UInt16.toNat_ofNat_of_lt' (by simp only [UInt16.size]; omega)]

theorem toNat_le (x : UInt8) : x.toNat ≤ 255 := Nat.le_of_lt_succ x.toNat_lt

theorem ofNat_toNat (x : UInt8) : x.toNat.toUInt8 = x := by simp

/-- **An address is read from its text, and from nothing else.** -/
theorem parseAddress_eq_some_iff {value : Bytes} {address : Address} :
    parseAddress value = some address ↔ value = addressText address := by
  constructor
  · intro h
    simp only [parseAddress, Option.bind_eq_bind, Option.bind_eq_some_iff, Prod.exists] at h
    obtain ⟨p0, r0, h0, a, ha, p1, r1, h1, b, hb, p2, p3, h2, c, hc, h⟩ := h
    split_ifs at h with hdot
    obtain ⟨d, hd, hvalue⟩ := Option.bind_eq_some_iff.mp h
    obtain ⟨rfl, ha'⟩ := parseOctet_eq_some_iff.mp ha
    obtain ⟨rfl, hb'⟩ := parseOctet_eq_some_iff.mp hb
    obtain ⟨rfl, hc'⟩ := parseOctet_eq_some_iff.mp hc
    obtain ⟨rfl, hd'⟩ := parseOctet_eq_some_iff.mp hd
    rw [← Option.some.inj hvalue, (eq_of_cut h0).1, (eq_of_cut h1).1, (eq_of_cut h2).1]
    rw [addressText_mk, toUInt8_toNat ha', toUInt8_toNat hb', toUInt8_toNat hc', toUInt8_toNat hd']
  · rintro rfl
    have hdot := fun n => notMem_decimal not_isDigit_dot n
    have hoctet : ∀ x : UInt8, parseUnsignedDecimal (decimal x.toNat) 255 = some x.toNat := fun x =>
      parseOctet_eq_some_iff.mpr ⟨rfl, toNat_le x⟩
    unfold parseAddress addressText
    simp only [cut_append (hdot _), hoctet, Option.bind_eq_bind, Option.bind_some, if_neg (hdot _), ofNat_toNat]
    refine congrArg some (Vector.ext fun i hi => ?_)
    match i, hi with
    | 0, _ => rfl
    | 1, _ => rfl
    | 2, _ => rfl
    | 3, _ => rfl

theorem notMem_addressText (address : Address) : 58 ∉ addressText address := by
  have hcolon := fun n => notMem_decimal not_isDigit_colon n
  simp [addressText, hcolon]

/-- **An endpoint is read from its text, and from nothing else.** -/
theorem parseIpv4Endpoint_eq_some_iff {value : Bytes} {backend : Bool} {endpoint : Endpoint} :
    parseIpv4Endpoint value backend = some endpoint ↔ EndpointText backend value endpoint := by
  constructor
  · intro h
    simp only [parseIpv4Endpoint, Option.bind_eq_bind, Option.bind_eq_some_iff, Prod.exists] at h
    obtain ⟨before, after, hcut, port, hport, h⟩ := h
    split_ifs at h with hzero
    obtain ⟨address, haddress, h⟩ := Option.bind_eq_some_iff.mp h
    split_ifs at h with hrefused
    cases h
    obtain ⟨rfl, hle⟩ := (parseUnsignedDecimal_eq_some_iff (by omega)).mp hport
    refine ⟨?_, fun hz => hzero ?_, by simpa using hrefused⟩
    · rw [(eq_of_cut hcut).1, parseAddress_eq_some_iff.mp haddress, endpointText, toUInt16_toNat hle]
    · rw [← toUInt16_toNat hle, show port.toUInt16 = 0 from hz]
      rfl
  · rintro ⟨rfl, hport, haddress⟩
    have hle : endpoint.port.toNat ≤ 65535 := Nat.le_of_lt_succ endpoint.port.toNat_lt
    have hnum : parseUnsignedDecimal (decimal endpoint.port.toNat) 65535 = some endpoint.port.toNat :=
      (parseUnsignedDecimal_eq_some_iff (by omega)).mpr ⟨rfl, hle⟩
    have hzero : endpoint.port.toNat ≠ 0 := fun hz => hport (UInt16.toNat_inj.mp hz)
    unfold parseIpv4Endpoint endpointText
    rw [cut_append (notMem_addressText _)]
    simp only [Option.bind_eq_bind, Option.bind_some, hnum, if_neg hzero,
      parseAddress_eq_some_iff.mpr rfl, haddress]
    simp

/-- An endpoint is written in one way. -/
theorem EndpointText.unique {backend : Bool} {value : Bytes} {e e' : Endpoint} (h : EndpointText backend value e)
    (h' : EndpointText backend value e') : e = e' :=
  Option.some.inj ((parseIpv4Endpoint_eq_some_iff.mpr h).symm.trans (parseIpv4Endpoint_eq_some_iff.mpr h'))

/-- So endpoints and their texts stand for each other. -/
theorem biUnique_endpointText (backend : Bool) : Relator.BiUnique (EndpointText backend) :=
  ⟨fun _ _ _ h h' => h.text.trans h'.text.symm, fun _ _ _ h h' => h.unique h'⟩

/-! ### Lines -/

/-- A line without a NUL, a stray CR or a BOM. -/
def CleanLine (line : Bytes) : Prop := 0 ∉ line ∧ 13 ∉ line ∧ ¬ [0xEF, 0xBB, 0xBF] <:+: line

/-- A blank line, or a comment. -/
def IsNote (line : Bytes) : Prop :=
  (∀ c ∈ line, isBlank c = true) ∨
    ∃ before rest, line = before ++ (35 : UInt8) :: rest ∧ ∀ c ∈ before, isBlank c = true

/-- A key or a value. -/
structure IsWord (word : Bytes) : Prop where
  /-- It neither begins nor ends with a blank. -/
  inner : Inner isBlank word
  /-- It has no equals sign. -/
  noEquals : 61 ∉ word

/-- A line that gives a key a value. -/
structure IsSetting (line key value : Bytes) : Prop where
  /-- The key is one. -/
  keyWord : IsWord key
  /-- It does not begin a comment. -/
  noComment : key.head? ≠ some 35
  /-- The value is one. -/
  valueWord : IsWord value
  /-- They are on either side of the equals sign. -/
  sides : ∃ before after, line = before ++ (61 : UInt8) :: after ∧ InMargins isBlank key before ∧
    InMargins isBlank value after

/-- The setting of a line, if it is one. -/
def lineSetting (line : Bytes) : Option (Bytes × Bytes) :=
  let line := trimConfigWhitespace line
  if line = [] ∨ line.head? = some 35 then none
  else
    match cut 61 line with
    | none => none
    | some (before, after) =>
      if 61 ∈ after ∨ trimConfigWhitespace before = [] ∨ trimConfigWhitespace after = [] then none
      else some (trimConfigWhitespace before, trimConfigWhitespace after)

/-- The settings of lines, in their order. -/
def settings (lines : List Bytes) : List (Bytes × Bytes) := lines.filterMap lineSetting

theorem not_isBlank_hash : isBlank 35 = false := rfl

theorem not_isBlank_equals : isBlank 61 = false := rfl

theorem notMem_of_blank {c : UInt8} {margin : Bytes} (hc : isBlank c = false) (h : ∀ c ∈ margin, isBlank c = true) :
    c ∉ margin := fun hm => by
  rw [h c hm] at hc
  cases hc

/-- A note is what is empty when trimmed, or begins with `#`. -/
theorem isNote_iff (line : Bytes) :
    IsNote line ↔ trimConfigWhitespace line = [] ∨ (trimConfigWhitespace line).head? = some 35 := by
  show _ ↔ trim isBlank line = [] ∨ (trim isBlank line).head? = some 35
  unfold IsNote
  rw [trim_eq_nil_iff]
  refine or_congr_right ⟨?_, fun h => ?_⟩
  · rintro ⟨before, rest, rfl, hbefore⟩
    have hdrop : (before ++ (35 : UInt8) :: rest).dropWhile isBlank = 35 :: rest := by
      rw [List.dropWhile_append_of_pos hbefore]
      exact dropWhile_eq_self fun c hc => Option.some.inj hc ▸ not_isBlank_hash
    have hne : ((35 : UInt8) :: rest).rdropWhile isBlank ≠ [] := by
      rw [Ne, List.rdropWhile_eq_nil_iff]
      exact fun hall => Bool.noConfusion (hall 35 List.mem_cons_self)
    obtain ⟨cut, hcut⟩ := List.rdropWhile_prefix (p := isBlank) (l := (35 : UInt8) :: rest)
    rw [trim, hdrop, ← List.head?_append_of_ne_nil _ hne, hcut]
    rfl
  · obtain ⟨before, after, hline, hbefore, -⟩ := inMargins_trim isBlank line
    cases htrim : trim isBlank line with
    | nil =>
      rw [htrim] at h
      cases h
    | cons c rest =>
      rw [htrim] at h hline
      rw [show c = 35 from Option.some.inj h] at hline
      exact ⟨before, rest ++ after, by simpa using hline, hbefore⟩

theorem InMargins.before {core text margin : Bytes} (h : InMargins isBlank core text)
    (hm : ∀ c ∈ margin, isBlank c = true) : InMargins isBlank core (margin ++ text) := by
  obtain ⟨before, after, rfl, hbefore, hafter⟩ := h
  refine ⟨margin ++ before, after, by simp, fun c hc => ?_, hafter⟩
  exact (List.mem_append.mp hc).elim (hm c) (hbefore c)

theorem InMargins.after {core text margin : Bytes} (h : InMargins isBlank core text)
    (hm : ∀ c ∈ margin, isBlank c = true) : InMargins isBlank core (text ++ margin) := by
  obtain ⟨before, after, rfl, hbefore, hafter⟩ := h
  refine ⟨before, after ++ margin, by simp, hbefore, fun c hc => ?_⟩
  exact (List.mem_append.mp hc).elim (hafter c) (hm c)

/-- What a setting looks like when it is trimmed. -/
theorem IsSetting.trimmed {line key value : Bytes} (h : IsSetting line key value) :
    ∃ before after, trimConfigWhitespace line = before ++ (61 : UInt8) :: after ∧ 61 ∉ before ∧ 61 ∉ after ∧
      trimConfigWhitespace before = key ∧ trimConfigWhitespace after = value ∧
      (trimConfigWhitespace line).head? = key.head? := by
  obtain ⟨hkey, -, hvalue, _, _, rfl, ⟨k₁, k₂, rfl, hk₁, hk₂⟩, v₁, v₂, rfl, hv₁, hv₂⟩ := h
  have hinner : Inner isBlank (key ++ k₂ ++ (61 : UInt8) :: (v₁ ++ value)) := by
    refine ⟨by simp, fun c hc => hkey.inner.head c ?_, fun c hc => hvalue.inner.last c ?_⟩
    · rwa [List.append_assoc, List.head?_append_of_ne_nil _ hkey.inner.ne_nil] at hc
    · rwa [← List.cons_append, ← List.append_assoc, List.getLast?_append_of_ne_nil _ hvalue.inner.ne_nil] at hc
  have htrim : trimConfigWhitespace (k₁ ++ key ++ k₂ ++ (61 : UInt8) :: (v₁ ++ value ++ v₂)) =
      key ++ k₂ ++ (61 : UInt8) :: (v₁ ++ value) :=
    (trim_eq_iff hinner).mpr ⟨k₁, v₂, by simp, hk₁, hv₂⟩
  refine ⟨key ++ k₂, v₁ ++ value, htrim, ?_, ?_, ?_, ?_, ?_⟩
  · simp [hkey.noEquals, notMem_of_blank not_isBlank_equals hk₂]
  · simp [hvalue.noEquals, notMem_of_blank not_isBlank_equals hv₁]
  · exact (trim_eq_iff hkey.inner).mpr ⟨[], k₂, by simp, by simp, hk₂⟩
  · exact (trim_eq_iff hvalue.inner).mpr ⟨v₁, [], by simp, hv₁, by simp⟩
  · rw [htrim, List.append_assoc, List.head?_append_of_ne_nil _ hkey.inner.ne_nil]

/-- **The setting of a line** is the one the grammar says. -/
theorem lineSetting_eq_some_iff {line key value : Bytes} :
    lineSetting line = some (key, value) ↔ IsSetting line key value := by
  unfold lineSetting
  dsimp only
  constructor
  · intro h
    split_ifs at h with hnote
    obtain ⟨-, hhead⟩ := not_or.mp hnote
    split at h
    · cases h
    · rename_i before after hcut
      split_ifs at h with hbad
      obtain ⟨rfl, rfl⟩ := Prod.mk.inj (Option.some.inj h)
      obtain ⟨hafter, hempty⟩ := not_or.mp hbad
      obtain ⟨hkey, hvalue⟩ : trim isBlank before ≠ [] ∧ trim isBlank after ≠ [] := not_or.mp hempty
      obtain ⟨htrim, hbefore⟩ : trim isBlank line = before ++ (61 : UInt8) :: after ∧ 61 ∉ before := eq_of_cut hcut
      obtain ⟨m₁, m₂, hline, hm₁, hm₂⟩ := inMargins_trim isBlank line
      obtain ⟨b₁, b₂, hb, hb₁, hb₂⟩ := inMargins_trim isBlank before
      obtain ⟨a₁, a₂, ha, ha₁, ha₂⟩ := inMargins_trim isBlank after
      refine ⟨⟨inner_trim hkey, fun hm => hbefore ?_⟩, fun hz => hhead ?_, ⟨inner_trim hvalue, fun hm => hafter ?_⟩,
        m₁ ++ before, after ++ m₂, by rw [hline, htrim]; simp, ?_, ?_⟩
      · rw [hb]
        exact List.mem_append_left _ (List.mem_append_right _ hm)
      · -- the margins of the whole line are trimmed already, so the key begins it
        have hb₁nil : b₁ = [] := by
          cases b₁ with
          | nil => rfl
          | cons c rest =>
            have hne : trim isBlank line ≠ [] := by rw [htrim]; simp
            have hc := (inner_trim hne).head c (by rw [htrim, hb]; simp)
            rw [hb₁ c List.mem_cons_self] at hc
            cases hc
        show (trim isBlank line).head? = _
        rw [htrim, hb, hb₁nil, List.nil_append, List.append_assoc, List.head?_append_of_ne_nil _ hkey]
        exact hz
      · rw [ha]
        exact List.mem_append_left _ (List.mem_append_right _ hm)
      · exact InMargins.before (inMargins_trim isBlank before) hm₁
      · exact InMargins.after (inMargins_trim isBlank after) hm₂
  · intro h
    obtain ⟨before, after, htrim, hbefore, hafter, hkey, hvalue, hhead⟩ := h.trimmed
    rw [if_neg, htrim, cut_append hbefore]
    · simp only [hkey, hvalue, hafter, h.keyWord.inner.ne_nil, h.valueWord.inner.ne_nil, or_false, if_false]
    · rintro (hnil | hz)
      · rw [htrim] at hnil
        simp at hnil
      · exact h.noComment (hhead.symm.trans hz)

/-- A note is no setting. -/
theorem lineSetting_of_isNote {line : Bytes} (h : IsNote line) : lineSetting line = none := by
  unfold lineSetting
  rw [if_pos ((isNote_iff line).mp h)]

/-! ### What a line does -/

namespace ConfigParse

/-- A note changes nothing. -/
theorem parseLine_note (s : ConfigParse) {line : Bytes} (hclean : CleanLine line) (h : IsNote line) :
    s.parseLine line = .ok s := by
  unfold parseLine
  rw [if_neg (by
    rintro (h0 | h13 | hbom)
    · exact hclean.1 h0
    · exact hclean.2.1 h13
    · exact hclean.2.2 hbom)]
  rw [if_pos ((isNote_iff line).mp h)]

/-- A setting sets its field. -/
theorem parseLine_setting (s : ConfigParse) {line key value : Bytes} (hclean : CleanLine line)
    (h : IsSetting line key value) : s.parseLine line = s.setField key value := by
  obtain ⟨before, after, htrim, hbefore, hafter, hkey, hvalue, hhead⟩ := h.trimmed
  unfold parseLine parseField
  rw [if_neg (by
    rintro (h0 | h13 | hbom)
    · exact hclean.1 h0
    · exact hclean.2.1 h13
    · exact hclean.2.2 hbom)]
  rw [if_neg, htrim, cut_append hbefore]
  · simp only [hkey, hvalue, hafter, h.keyWord.inner.ne_nil, h.valueWord.inner.ne_nil, or_false, if_false]
  · rintro (hnil | hz)
    · rw [htrim] at hnil
      simp at hnil
    · exact h.noComment (hhead.symm.trans hz)

/-- Any other line is an error. -/
theorem parseLine_other (s : ConfigParse) (line : Bytes)
    (h : ¬ (CleanLine line ∧ (IsNote line ∨ (lineSetting line).isSome))) : ∃ e, s.parseLine line = .error e := by
  unfold parseLine
  split
  · exact ⟨_, rfl⟩
  · rename_i hbad
    have hclean : CleanLine line := by
      obtain ⟨h0, hbad⟩ := not_or.mp hbad
      obtain ⟨h13, hbom⟩ := not_or.mp hbad
      exact ⟨h0, h13, hbom⟩
    have hnote := fun hn => h ⟨hclean, Or.inl ((isNote_iff line).mpr hn)⟩
    have hnone : lineSetting line = none := by
      by_contra hs
      exact h ⟨hclean, Or.inr (Option.isSome_iff_ne_none.mpr hs)⟩
    unfold lineSetting at hnone
    dsimp only at hnone ⊢
    rw [if_neg hnote] at hnone ⊢
    unfold parseField
    cases hcut : cut 61 (trimConfigWhitespace line) with
    | none => exact ⟨_, rfl⟩
    | some parts =>
      obtain ⟨before, after⟩ := parts
      rw [hcut] at hnone
      dsimp only at hnone ⊢
      split_ifs at hnone with hbad
      split
      · exact ⟨_, rfl⟩
      · rename_i hafter
        rw [if_pos (hbad.resolve_left hafter)]
        exact ⟨_, rfl⟩

end ConfigParse

/-! ### Settings -/

/-- The keys. -/
inductive ConfigKey where
  /-- `listen`. -/
  | listen
  /-- `backend`. -/
  | backend
  /-- `protocol`. -/
  | protocol
  /-- `scheduler`. -/
  | scheduler
  /-- `health_check`. -/
  | healthCheck
  /-- `metrics`. -/
  | metrics
  deriving DecidableEq

/-- A key as it is written. -/
def ConfigKey.name : ConfigKey → Bytes
  | .listen => literal "listen"
  | .backend => literal "backend"
  | .protocol => literal "protocol"
  | .scheduler => literal "scheduler"
  | .healthCheck => literal "health_check"
  | .metrics => literal "metrics"

theorem ConfigKey.name_injective : Function.Injective ConfigKey.name := by
  intro k k' h
  cases k <;> cases k' <;> first | rfl | exact absurd h (by decide +kernel)

/-- The values of a key, in their order. -/
def valuesOf (key : ConfigKey) (settings : List (Bytes × Bytes)) : List Bytes :=
  (settings.filter fun setting => setting.1 = key.name).map (·.2)

theorem valuesOf_concat (key key' : ConfigKey) (before : List (Bytes × Bytes)) (value : Bytes) :
    valuesOf key (before ++ [(key'.name, value)]) =
      if key' = key then valuesOf key before ++ [value] else valuesOf key before := by
  by_cases h : key' = key
  · subst h
    simp [valuesOf]
  · simp [valuesOf, h, ConfigKey.name_injective.ne h]

/-- `protocol=`. -/
def protocols : List (Bytes × Protocol) := [(literal "tcp", .tcp), (literal "udp", .udp)]

/-- `metrics=`. -/
def metricsKinds : List (Bytes × MetricsKind) := [(literal "off", .off), (literal "stderr", .stderr)]

/-- `health_check=`. -/
def healthChecks : List (Bytes × HealthCheck) := [(literal "off", .off), (literal "tcp_connect", .tcpConnect)]

/-- `scheduler=`. -/
def schedulers : List (Bytes × SchedulerKind) := [(literal "round_robin", .roundRobin)]

/-- A value that a key may have after the settings before it. -/
def AdmissibleValue (before : List (Bytes × Bytes)) (value : Bytes) : ConfigKey → Prop
  | .listen => valuesOf .listen before = [] ∧ ∃ e, EndpointText false value e
  | .backend =>
    (valuesOf .backend before).length < 256 ∧ value ∉ valuesOf .backend before ∧ ∃ e, EndpointText true value e
  | .protocol => valuesOf .protocol before = [] ∧ ∃ x, (value, x) ∈ protocols
  | .scheduler => valuesOf .scheduler before = [] ∧ ∃ x, (value, x) ∈ schedulers
  | .healthCheck => valuesOf .healthCheck before = [] ∧ ∃ x, (value, x) ∈ healthChecks
  | .metrics => valuesOf .metrics before = [] ∧ ∃ x, (value, x) ∈ metricsKinds

/-- A setting that may follow others. -/
def Admissible (before : List (Bytes × Bytes)) (key value : Bytes) : Prop :=
  ∃ k : ConfigKey, key = k.name ∧ AdmissibleValue before value k

theorem admissible_name {before : List (Bytes × Bytes)} {k : ConfigKey} {value : Bytes} :
    Admissible before k.name value ↔ AdmissibleValue before value k := by
  constructor
  · rintro ⟨k', hk, h⟩
    rw [ConfigKey.name_injective hk]
    exact h
  · exact fun h => ⟨k, rfl, h⟩

/-- What a key that is given at most once says. -/
inductive Chosen {α : Type} (R : Bytes → α → Prop) (default : α) : List Bytes → α → Prop where
  /-- It is not given. -/
  | absent : Chosen R default [] default
  /-- It is given. -/
  | given {value : Bytes} {x : α} (h : R value x) : Chosen R default [value] x

/-- **The configuration that settings say.** -/
structure Means (settings : List (Bytes × Bytes)) (config : Config) : Prop where
  /-- The listener. -/
  listen : Chosen (EndpointText false) {} (valuesOf .listen settings) config.listen
  /-- The backends, in their order. -/
  backends : List.Forall₂ (EndpointText true) (valuesOf .backend settings) config.backends
  /-- No two are the same. -/
  distinct : (valuesOf .backend settings).Nodup
  /-- They are not too many. -/
  few : (valuesOf .backend settings).length ≤ 256
  /-- The protocol. -/
  protocol : Chosen (fun v x => (v, x) ∈ protocols) .tcp (valuesOf .protocol settings) config.protocol
  /-- The scheduler. -/
  scheduler : Chosen (fun v x => (v, x) ∈ schedulers) .roundRobin (valuesOf .scheduler settings) config.scheduler
  /-- The health check. -/
  healthCheck : Chosen (fun v x => (v, x) ∈ healthChecks) .off (valuesOf .healthCheck settings) config.healthCheck
  /-- The metrics. -/
  metrics : Chosen (fun v x => (v, x) ∈ metricsKinds) .off (valuesOf .metrics settings) config.metrics

namespace ConfigParse

/-- The parser is where the values of a key so far have led it. -/
def AgreesAt (s : ConfigParse) (values : List Bytes) : ConfigKey → Prop
  | .listen => Chosen (EndpointText false) {} values s.config.listen ∧ (s.hasListen = true ↔ values ≠ [])
  | .backend => List.Forall₂ (EndpointText true) values s.config.backends ∧ values.Nodup ∧ values.length ≤ 256
  | .protocol =>
    Chosen (fun v x => (v, x) ∈ protocols) .tcp values s.config.protocol ∧ (s.hasProtocol = true ↔ values ≠ [])
  | .scheduler =>
    Chosen (fun v x => (v, x) ∈ schedulers) .roundRobin values s.config.scheduler ∧
      (s.hasScheduler = true ↔ values ≠ [])
  | .healthCheck =>
    Chosen (fun v x => (v, x) ∈ healthChecks) .off values s.config.healthCheck ∧ (s.hasHealth = true ↔ values ≠ [])
  | .metrics =>
    Chosen (fun v x => (v, x) ∈ metricsKinds) .off values s.config.metrics ∧ (s.hasMetrics = true ↔ values ≠ [])

/-- The parser is where the settings so far have led it. -/
def Agrees (s : ConfigParse) (before : List (Bytes × Bytes)) : Prop := ∀ k, s.AgreesAt (valuesOf k before) k

variable {s s' : ConfigParse} {before : List (Bytes × Bytes)}

theorem agrees_init : Agrees {} [] := by
  intro k
  cases k with
  | backend => exact ⟨.nil, List.nodup_nil, Nat.zero_le _⟩
  | _ => exact ⟨.absent, by decide⟩

theorem Agrees.means (h : s.Agrees before) : Means before s.config :=
  ⟨(h .listen).1, (h .backend).1, (h .backend).2.1, (h .backend).2.2, (h .protocol).1, (h .scheduler).1,
    (h .healthCheck).1, (h .metrics).1⟩

/-- A setting changes what its own key has led to. -/
theorem Agrees.extend {k : ConfigKey} {value : Bytes} (h : s.Agrees before)
    (hnew : s'.AgreesAt (valuesOf k before ++ [value]) k)
    (hsame : ∀ k' values, k' ≠ k → s.AgreesAt values k' → s'.AgreesAt values k') :
    s'.Agrees (before ++ [(k.name, value)]) := by
  intro k'
  rw [valuesOf_concat]
  by_cases hk : k = k'
  · subst hk
    rw [if_pos rfl]
    exact hnew
  · rw [if_neg hk]
    exact hsame k' _ (Ne.symm hk) (h k')

theorem setField_name (s : ConfigParse) (k : ConfigKey) (value : Bytes) :
    s.setField k.name value = match k with
      | .listen => s.setListen value
      | .backend => s.addBackend value
      | .protocol => s.setProtocol value
      | .scheduler => s.setScheduler value
      | .healthCheck => s.setHealthCheck value
      | .metrics => s.setMetrics value := by
  show (if k.name = ConfigKey.protocol.name then s.setProtocol value
    else if k.name = ConfigKey.metrics.name then s.setMetrics value
    else if k.name = ConfigKey.healthCheck.name then s.setHealthCheck value
    else if k.name = ConfigKey.scheduler.name then s.setScheduler value
    else if k.name = ConfigKey.listen.name then s.setListen value
    else if k.name = ConfigKey.backend.name then s.addBackend value
    else .error (.field, "未知配置键")) = _
  simp only [ConfigKey.name_injective.eq_iff]
  cases k <;> rfl

theorem setField_other (s : ConfigParse) {key : Bytes} (h : ∀ k : ConfigKey, key ≠ k.name) (value : Bytes) :
    s.setField key value = .error (.field, "未知配置键") := by
  have h₁ : key ≠ literal "protocol" := h .protocol
  have h₂ : key ≠ literal "metrics" := h .metrics
  have h₃ : key ≠ literal "health_check" := h .healthCheck
  have h₄ : key ≠ literal "scheduler" := h .scheduler
  have h₅ : key ≠ literal "listen" := h .listen
  have h₆ : key ≠ literal "backend" := h .backend
  rw [setField, if_neg h₁, if_neg h₂, if_neg h₃, if_neg h₄, if_neg h₅, if_neg h₆]

/-- What is asked of a field that is set: it is accepted just when it is admissible, and
then the parser is where its settings say. -/
def FieldSpec (before : List (Bytes × Bytes)) (k : ConfigKey) (value : Bytes) :
    Except LineError ConfigParse → Prop
  | .ok s => AdmissibleValue before value k ∧ s.Agrees (before ++ [(k.name, value)])
  | .error _ => ¬ AdmissibleValue before value k

theorem setListen_spec (h : s.Agrees before) (value : Bytes) :
    FieldSpec before .listen value (s.setListen value) := by
  obtain ⟨-, hhas⟩ := h .listen
  unfold setListen
  split
  · rename_i hgiven
    exact fun ha => hhas.mp hgiven ha.1
  rename_i hgiven
  have hnil : valuesOf .listen before = [] := not_not.mp fun hne => hgiven (hhas.mpr hne)
  split
  · rename_i hnone
    rintro ⟨-, e, he⟩
    rw [parseIpv4Endpoint_eq_some_iff.mpr he] at hnone
    cases hnone
  · rename_i parsed hsome
    have he := parseIpv4Endpoint_eq_some_iff.mp hsome
    refine ⟨⟨hnil, parsed, he⟩, h.extend ?_ fun k' values hk hv => ?_⟩
    · rw [hnil]
      exact ⟨.given he, by simp⟩
    · cases k' <;> first | exact hv | exact absurd rfl hk

theorem addBackend_spec (h : s.Agrees before) (value : Bytes) :
    FieldSpec before .backend value (s.addBackend value) := by
  obtain ⟨hall, hdistinct, hfew⟩ := h .backend
  have hlength := hall.length_eq
  unfold addBackend
  split
  · rename_i hnone
    rintro ⟨-, -, e, he⟩
    rw [parseIpv4Endpoint_eq_some_iff.mpr he] at hnone
    cases hnone
  rename_i parsed hsome
  have he := parseIpv4Endpoint_eq_some_iff.mp hsome
  split
  · rename_i hfull
    rintro ⟨hroom, -⟩
    omega
  rename_i hroom
  -- an endpoint is written in one way, so endpoints differ just when their values do
  have hmem : value ∈ valuesOf .backend before ↔ parsed ∈ s.config.backends :=
    List.rel_mem (biUnique_endpointText true) he hall
  split
  · rename_i hdup
    rintro ⟨-, hnew, -⟩
    exact hnew (hmem.mpr hdup)
  · rename_i hnew
    have hnew' := fun hm => hnew (hmem.mp hm)
    refine ⟨⟨by omega, hnew', parsed, he⟩, h.extend ⟨?_, ?_, ?_⟩ fun k' values hk hv => ?_⟩
    · exact List.rel_append hall (.cons he .nil)
    · exact List.nodup_append.mpr ⟨hdistinct, List.nodup_singleton _, by
        rintro v hv w hw rfl
        exact hnew' (List.mem_singleton.mp hw ▸ hv)⟩
    · rw [List.length_append, List.length_singleton]
      omega
    · cases k' <;> first | exact hv | exact absurd rfl hk

theorem setProtocol_spec (h : s.Agrees before) (value : Bytes) :
    FieldSpec before .protocol value (s.setProtocol value) := by
  obtain ⟨-, hhas⟩ := h .protocol
  unfold setProtocol
  split
  · rename_i hgiven
    exact fun ha => hhas.mp hgiven ha.1
  rename_i hgiven
  have hnil : valuesOf .protocol before = [] := not_not.mp fun hne => hgiven (hhas.mpr hne)
  have hset : ∀ x, (value, x) ∈ protocols → FieldSpec before .protocol value
      (.ok { s with config := { s.config with protocol := x }, hasProtocol := true }) := by
    intro x hx
    refine ⟨⟨hnil, x, hx⟩, h.extend ?_ fun k' values hk hv => ?_⟩
    · rw [hnil]
      exact ⟨.given hx, by simp⟩
    · cases k' <;> first | exact hv | exact absurd rfl hk
  split
  · rename_i hv
    exact hset .tcp (by simp [protocols, hv])
  split
  · rename_i hv
    exact hset .udp (by simp [protocols, hv])
  · rename_i hv₁ hv₂
    rintro ⟨-, x, hx⟩
    simp [protocols, hv₁, hv₂] at hx

theorem setMetrics_spec (h : s.Agrees before) (value : Bytes) :
    FieldSpec before .metrics value (s.setMetrics value) := by
  obtain ⟨-, hhas⟩ := h .metrics
  unfold setMetrics
  split
  · rename_i hgiven
    exact fun ha => hhas.mp hgiven ha.1
  rename_i hgiven
  have hnil : valuesOf .metrics before = [] := not_not.mp fun hne => hgiven (hhas.mpr hne)
  have hset : ∀ x, (value, x) ∈ metricsKinds → FieldSpec before .metrics value
      (.ok { s with config := { s.config with metrics := x }, hasMetrics := true }) := by
    intro x hx
    refine ⟨⟨hnil, x, hx⟩, h.extend ?_ fun k' values hk hv => ?_⟩
    · rw [hnil]
      exact ⟨.given hx, by simp⟩
    · cases k' <;> first | exact hv | exact absurd rfl hk
  split
  · rename_i hv
    exact hset .off (by simp [metricsKinds, hv])
  split
  · rename_i hv
    exact hset .stderr (by simp [metricsKinds, hv])
  · rename_i hv₁ hv₂
    rintro ⟨-, x, hx⟩
    simp [metricsKinds, hv₁, hv₂] at hx

theorem setHealthCheck_spec (h : s.Agrees before) (value : Bytes) :
    FieldSpec before .healthCheck value (s.setHealthCheck value) := by
  obtain ⟨-, hhas⟩ := h .healthCheck
  unfold setHealthCheck
  split
  · rename_i hgiven
    exact fun ha => hhas.mp hgiven ha.1
  rename_i hgiven
  have hnil : valuesOf .healthCheck before = [] := not_not.mp fun hne => hgiven (hhas.mpr hne)
  have hset : ∀ x, (value, x) ∈ healthChecks → FieldSpec before .healthCheck value
      (.ok { s with config := { s.config with healthCheck := x }, hasHealth := true }) := by
    intro x hx
    refine ⟨⟨hnil, x, hx⟩, h.extend ?_ fun k' values hk hv => ?_⟩
    · rw [hnil]
      exact ⟨.given hx, by simp⟩
    · cases k' <;> first | exact hv | exact absurd rfl hk
  split
  · rename_i hv
    exact hset .off (by simp [healthChecks, hv])
  split
  · rename_i hv
    exact hset .tcpConnect (by simp [healthChecks, hv])
  · rename_i hv₁ hv₂
    rintro ⟨-, x, hx⟩
    simp [healthChecks, hv₁, hv₂] at hx

theorem setScheduler_spec (h : s.Agrees before) (value : Bytes) :
    FieldSpec before .scheduler value (s.setScheduler value) := by
  obtain ⟨-, hhas⟩ := h .scheduler
  unfold setScheduler
  split
  · rename_i hgiven
    exact fun ha => hhas.mp hgiven ha.1
  rename_i hgiven
  have hnil : valuesOf .scheduler before = [] := not_not.mp fun hne => hgiven (hhas.mpr hne)
  split
  · rename_i hv
    rintro ⟨-, x, hx⟩
    simp [schedulers, hv] at hx
  · rename_i hv
    have hx : (value, SchedulerKind.roundRobin) ∈ schedulers := by simp [schedulers, not_not.mp hv]
    refine ⟨⟨hnil, _, hx⟩, h.extend ?_ fun k' values hk hv => ?_⟩
    · rw [hnil]
      exact ⟨.given hx, by simp⟩
    · cases k' <;> first | exact hv | exact absurd rfl hk

/-- **A field is set just when it is admissible.** -/
theorem setField_spec (h : s.Agrees before) (key value : Bytes) :
    match s.setField key value with
    | .ok s' => Admissible before key value ∧ s'.Agrees (before ++ [(key, value)])
    | .error _ => ¬ Admissible before key value := by
  by_cases hk : ∃ k : ConfigKey, key = k.name
  · obtain ⟨k, rfl⟩ := hk
    have hspec : FieldSpec before k value (s.setField k.name value) := by
      rw [setField_name]
      cases k with
      | listen => exact setListen_spec h value
      | backend => exact addBackend_spec h value
      | protocol => exact setProtocol_spec h value
      | scheduler => exact setScheduler_spec h value
      | healthCheck => exact setHealthCheck_spec h value
      | metrics => exact setMetrics_spec h value
    cases hset : s.setField k.name value with
    | ok s' =>
      rw [hset] at hspec
      exact ⟨admissible_name.mpr hspec.1, hspec.2⟩
    | error e =>
      rw [hset] at hspec
      exact fun ha => hspec (admissible_name.mp ha)
  · rw [setField_other s (fun k hkey => hk ⟨k, hkey⟩)]
    rintro ⟨k, hkey, -⟩
    exact hk ⟨k, hkey⟩

end ConfigParse

/-- A line that may follow others. -/
def ValidLine (before : List Bytes) (line : Bytes) : Prop :=
  CleanLine line ∧ (IsNote line ∨ ∃ key value, IsSetting line key value ∧ Admissible (settings before) key value)

/-- **A line is read just when it may follow those before it**, and then the parser is
where its settings lead. -/
theorem ConfigParse.parseLine_spec {s : ConfigParse} {before : List Bytes} (h : s.Agrees (settings before))
    (line : Bytes) :
    match s.parseLine line with
    | .ok s' => ValidLine before line ∧ s'.Agrees (settings (before ++ [line]))
    | .error _ => ¬ ValidLine before line := by
  have hsettings : settings (before ++ [line]) = settings before ++ (lineSetting line).toList := by
    simp [settings, List.filterMap_append, List.filterMap_cons]
    cases lineSetting line <;> rfl
  by_cases hclean : CleanLine line
  · by_cases hnote : IsNote line
    · rw [parseLine_note s hclean hnote, hsettings, lineSetting_of_isNote hnote]
      exact ⟨⟨hclean, Or.inl hnote⟩, by simpa using h⟩
    · cases hset : lineSetting line with
      | some setting =>
        obtain ⟨key, value⟩ := setting
        have hline := lineSetting_eq_some_iff.mp hset
        have hspec := setField_spec h key value
        rw [parseLine_setting s hclean hline, hsettings, hset]
        cases hfield : s.setField key value with
        | ok s' =>
          rw [hfield] at hspec
          exact ⟨⟨hclean, Or.inr ⟨key, value, hline, hspec.1⟩⟩, hspec.2⟩
        | error e =>
          rw [hfield] at hspec
          rintro ⟨-, hn | ⟨key', value', hline', hadm⟩⟩
          · exact hnote hn
          · have := hset.symm.trans (lineSetting_eq_some_iff.mpr hline')
            obtain ⟨rfl, rfl⟩ := Prod.mk.inj (Option.some.inj this)
            exact hspec hadm
      | none =>
        obtain ⟨e, he⟩ := parseLine_other s line fun hv => hv.2.elim hnote fun hs => by simp [hset] at hs
        rw [he]
        rintro ⟨-, hn | ⟨key, value, hline, -⟩⟩
        · exact hnote hn
        · rw [lineSetting_eq_some_iff.mpr hline] at hset
          cases hset
  · obtain ⟨e, he⟩ := parseLine_other s line fun hv => hclean hv.1
    rw [he]
    exact fun hv => hclean hv.1

end L4lb
