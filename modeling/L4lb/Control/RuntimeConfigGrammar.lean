import L4lb.Control.RuntimeDsrConfig
import L4lb.Text.Fields

/-!
# The grammar of the configuration of the runtime profile

What a text of `parseRuntimeConfigText` may be, said of the text: its bytes, its lines and
their fields.

## The model

* `MacText`, `RuntimeTargetText.Valid` — an address as text, and the fields of a target.
* `IsIgnored`, `IsSchema`, `IsTarget` — the three kinds of lines; `Entries` — what lines say.
* `RuntimeConfigFormat` — a text in the format, and its targets.

## What is proved

The parser accepts just the texts in the format, with the targets they say, except that it
takes a CR at the end of a text for the ending of its last line (`runtime_config_grammar`).
-/

namespace L4lb.Control

open Text

theorem bind_eq_ok_iff {ε α β : Type} {x : Except ε α} {f : α → Except ε β} {b : β} :
    (x >>= f) = .ok b ↔ ∃ a, x = .ok a ∧ f a = .ok b := by
  cases x with
  | error e => simp [bind, Except.bind]
  | ok a => simp [bind, Except.bind]

/-! ### Addresses -/

/-- Two hex digits. -/
def IsHexPair (text : Bytes) (n : ℕ) : Prop :=
  ∃ a b x y, text = [a, b] ∧ digit 16 a = some x ∧ digit 16 b = some y ∧ n = x * 16 + y

/-- Six pairs of hex digits, of a unicast address that is not zero. -/
def MacText (mac : Bytes) : Prop :=
  ∃ pairs values, mac = List.intercalate [58] pairs ∧ values.length = 6 ∧ List.Forall₂ IsHexPair pairs values ∧
    (∀ n, values.head? = some n → n % 2 = 0) ∧ ∃ n ∈ values, n ≠ 0

theorem number_pair {a b : UInt8} {n : ℕ} : number 16 [a, b] = some n ↔ IsHexPair [a, b] n := by
  have hform : IsHexPair [a, b] n ↔ ∃ x y, digit 16 a = some x ∧ digit 16 b = some y ∧ n = x * 16 + y := by
    simp [IsHexPair]
  rw [hform]
  unfold number fromChars
  rcases ha : digit 16 a with _ | x
  · simp [ha, digitsValue]
  rcases hb : digit 16 b with _ | y
  · simp [ha, hb, digitsValue]
  have hx := digit_lt ha
  have hy := digit_lt hb
  have htake : [a, b].takeWhile (fun c => (digit 16 c).isSome) = [a, b] := by simp [ha, hb]
  have hvalue : digitsValue 16 [a, b] = x * 16 + y := by simp [digitsValue, ha, hb]
  rw [htake]
  dsimp only
  rw [hvalue, if_neg (by simp only [reduceCtorEq, false_or]; omega)]
  simp [eq_comm]

/-- A pass over the bytes of an address. -/
theorem combineMacByte_eq_ok_iff {text : Bytes} {combined index value : ℕ} :
    combineMacByte text combined index = .ok value ↔
      ∃ byte, number 16 ((text.drop (3 * index)).take 2) = some byte ∧
        (index < 5 → text[3 * index + 2]? = some 58) ∧ (index = 0 → byte % 2 = 0) ∧ value = combined ||| byte := by
  unfold combineMacByte
  cases number 16 ((text.drop (3 * index)).take 2) with
  | none => simp
  | some byte =>
    have hodd : byte &&& 1 ≠ 0 ↔ ¬ byte % 2 = 0 := by rw [Nat.and_one_is_mod]
    simp only [hodd, Option.some.injEq, exists_eq_left']
    split
    · rename_i h
      simp only [reduceCtorEq, false_iff]
      rintro ⟨hcolon, heven, -⟩
      rcases h with ⟨hindex, hne⟩ | ⟨hindex, hne⟩
      · exact hne (hcolon hindex)
      · exact hne (heven hindex)
    · rename_i h
      obtain ⟨hcolon, heven⟩ := not_or.mp h
      constructor
      · intro heq
        exact ⟨fun hindex => not_not.mp fun hne => hcolon ⟨hindex, hne⟩,
          fun hindex => not_not.mp fun hne => heven ⟨hindex, hne⟩, (Except.ok.inj heq).symm⟩
      · rintro ⟨-, -, rfl⟩
        rfl

/-- Of six numbers, one is not zero if their bits together are not. -/
theorem or_ne_zero_iff {a b c d e f : ℕ} :
    0 ||| a ||| b ||| c ||| d ||| e ||| f ≠ 0 ↔ ∃ n ∈ [a, b, c, d, e, f], n ≠ 0 := by
  simp only [ne_eq, Nat.or_eq_zero_iff, List.mem_cons, List.not_mem_nil, or_false, exists_eq_or_imp, exists_eq_left]
  tauto

/-- The check of an address, pass by pass. -/
theorem validateTargetMac_passes {mac : Bytes} :
    validateTargetMac mac = .ok () ↔ mac.length = 17 ∧
      ∃ combined, (List.range 6).foldlM (combineMacByte mac) 0 = .ok combined ∧ combined ≠ 0 := by
  unfold validateTargetMac
  by_cases hlength : mac.length = 17
  · rw [if_neg (not_not.mpr hlength), bind_eq_ok_iff]
    simp only [hlength, true_and]
    refine exists_congr fun combined => and_congr_right fun _ => ?_
    split <;> simp [*]
  · simp [hlength]

theorem validateTargetMac_ok_iff {mac : Bytes} : validateTargetMac mac = .ok () ↔ MacText mac := by
  rw [validateTargetMac_passes]
  simp only [show List.range 6 = [0, 1, 2, 3, 4, 5] from rfl, List.foldlM_cons, List.foldlM_nil, bind_eq_ok_iff,
    combineMacByte_eq_ok_iff]
  constructor
  · rintro ⟨hlength, _, ⟨_, ⟨a, ha, ca, heven, rfl⟩, _, ⟨b, hb, cb, -, rfl⟩, _, ⟨c, hc, cc, -, rfl⟩, _,
      ⟨d, hd, cd, -, rfl⟩, _, ⟨e, he, ce, -, rfl⟩, _, ⟨f, hf, -, -, rfl⟩, hcombined⟩, hzero⟩
    rw [← Except.ok.inj hcombined] at hzero
    match mac, hlength with
    | [c0, c1, c2, c3, c4, c5, c6, c7, c8, c9, c10, c11, c12, c13, c14, c15, c16], _ =>
      replace ca : c2 = 58 := by simpa using ca
      replace cb : c5 = 58 := by simpa using cb
      replace cc : c8 = 58 := by simpa using cc
      replace cd : c11 = 58 := by simpa using cd
      replace ce : c14 = 58 := by simpa using ce
      subst ca cb cc cd ce
      refine ⟨[[c0, c1], [c3, c4], [c6, c7], [c9, c10], [c12, c13], [c15, c16]], [a, b, c, d, e, f], rfl, rfl, ?_,
        fun n hn => ?_, or_ne_zero_iff.mp hzero⟩
      · exact .cons (number_pair.mp ha) (.cons (number_pair.mp hb) (.cons (number_pair.mp hc) (.cons (number_pair.mp hd)
          (.cons (number_pair.mp he) (.cons (number_pair.mp hf) .nil)))))
      · rw [← Option.some.inj hn]
        exact heven trivial
  · rintro ⟨pairs, values, rfl, hlength, hpairs, heven, hzero⟩
    match values, hlength with
    | [a, b, c, d, e, f], _ =>
      obtain _ | ⟨ha, _ | ⟨hb, _ | ⟨hc, _ | ⟨hd, _ | ⟨he, _ | ⟨hf, _ | _⟩⟩⟩⟩⟩⟩ := hpairs
      obtain ⟨a0, a1, -, -, rfl, -⟩ := id ha
      obtain ⟨b0, b1, -, -, rfl, -⟩ := id hb
      obtain ⟨c0, c1, -, -, rfl, -⟩ := id hc
      obtain ⟨d0, d1, -, -, rfl, -⟩ := id hd
      obtain ⟨e0, e1, -, -, rfl, -⟩ := id he
      obtain ⟨f0, f1, -, -, rfl, -⟩ := id hf
      refine ⟨rfl, _, ⟨_, ⟨a, number_pair.mpr ha, fun _ => rfl, fun _ => heven a rfl, rfl⟩,
        _, ⟨b, number_pair.mpr hb, fun _ => rfl, fun h => (by cases h), rfl⟩,
        _, ⟨c, number_pair.mpr hc, fun _ => rfl, fun h => (by cases h), rfl⟩,
        _, ⟨d, number_pair.mpr hd, fun _ => rfl, fun h => (by cases h), rfl⟩,
        _, ⟨e, number_pair.mpr he, fun _ => rfl, fun h => (by cases h), rfl⟩,
        _, ⟨f, number_pair.mpr hf, fun h => absurd h (by decide), fun h => (by cases h), rfl⟩, rfl⟩,
        or_ne_zero_iff.mpr hzero⟩

/-! ### Targets -/

/-- A letter, a digit, `_` or `-`. -/
def IsIdCharacter (c : UInt8) : Prop :=
  65 ≤ c ∧ c ≤ 90 ∨ 97 ≤ c ∧ c ≤ 122 ∨ 48 ≤ c ∧ c ≤ 57 ∨ c = 95 ∨ c = 45

/-- What may not be in the name of an interface: `/`, space, tab, CR, LF, `:` and `@`. -/
def separators : Bytes := [47, 32, 9, 13, 10, 58, 64]

/-- The fields of a target are what they have to be. -/
structure RuntimeTargetText.Valid (target : RuntimeTargetText) : Prop where
  /-- The name has a length of 1 to 32. -/
  id_length : 1 ≤ target.id.length ∧ target.id.length ≤ 32
  /-- It is made of its characters. -/
  id_characters : ∀ c ∈ target.id, IsIdCharacter c
  /-- The interface has a length of 1 to 15. -/
  egress_length : 1 ≤ target.egress.length ∧ target.egress.length ≤ 15
  /-- No separator is in it. -/
  egress_characters : ∀ c ∈ target.egress, c ∉ separators
  /-- The address is one. -/
  mac : MacText target.destinationMac
  /-- The endpoint is one. -/
  probe : ∃ backends, parseXdpBackends [target.probeEndpoint] = .ok backends

theorem isRuntimeTargetIdCharacter_iff {c : UInt8} : isRuntimeTargetIdCharacter c = true ↔ IsIdCharacter c := by
  simp only [isRuntimeTargetIdCharacter, IsIdCharacter, Bool.or_eq_true, Bool.and_eq_true, decide_eq_true_eq, or_assoc]
  exact Iff.rfl

theorem isValidRuntimeTargetId_iff {id : Bytes} :
    isValidRuntimeTargetId id = true ↔ (1 ≤ id.length ∧ id.length ≤ 32) ∧ ∀ c ∈ id, IsIdCharacter c := by
  simp only [isValidRuntimeTargetId, Bool.and_eq_true, decide_eq_true_eq, List.all_eq_true,
    isRuntimeTargetIdCharacter_iff, ne_eq, ← List.length_eq_zero_iff, Nat.one_le_iff_ne_zero]

theorem isSeparator_iff {c : UInt8} : isSeparator c = true ↔ c ∈ separators := by
  simp only [isSeparator, separators, Bool.or_eq_true, decide_eq_true_eq, List.mem_cons, List.not_mem_nil, or_false,
    or_assoc]
  exact Iff.rfl

/-- **The check of literals accepts the targets whose fields are valid.** -/
theorem validateRuntimeTargetLiteral_ok_iff {target : RuntimeTargetText} :
    validateRuntimeTargetLiteral target = .ok () ↔ target.Valid := by
  unfold validateRuntimeTargetLiteral
  by_cases hid : isValidRuntimeTargetId target.id = false
  · rw [if_pos hid]
    refine ⟨fun h => (by cases h), fun h => ?_⟩
    rw [isValidRuntimeTargetId_iff.mpr ⟨h.id_length, h.id_characters⟩] at hid
    cases hid
  obtain ⟨hlength, hcharacters⟩ := isValidRuntimeTargetId_iff.mp (Bool.not_eq_false _ ▸ hid)
  rw [if_neg hid]
  by_cases hegress : target.egress = [] ∨ target.egress.length ≥ 16 ∨ target.egress.any isSeparator = true
  · rw [if_pos hegress]
    refine ⟨fun h => (by cases h), fun h => ?_⟩
    have hlow := h.egress_length.1
    have hhigh := h.egress_length.2
    rcases hegress with hnil | hlong | hany
    · simp [hnil] at hlow
    · omega
    · obtain ⟨c, hc, hsep⟩ := List.any_eq_true.mp hany
      exact absurd (isSeparator_iff.mp hsep) (h.egress_characters c hc)
  obtain ⟨hne, hshort, hnone⟩ : target.egress ≠ [] ∧ ¬ target.egress.length ≥ 16 ∧
      ¬ target.egress.any isSeparator = true := by
    simpa [not_or] using hegress
  rw [if_neg hegress]
  constructor
  · intro h
    obtain ⟨⟨⟩, hmac, h⟩ := bind_eq_ok_iff.mp h
    obtain ⟨backends, hprobe, -⟩ := bind_eq_ok_iff.mp h
    refine ⟨hlength, hcharacters, ⟨List.length_pos_iff.mpr hne, by omega⟩, fun c hc hsep => hnone ?_,
      validateTargetMac_ok_iff.mp hmac, backends, hprobe⟩
    exact List.any_eq_true.mpr ⟨c, hc, isSeparator_iff.mpr hsep⟩
  · intro h
    obtain ⟨backends, hprobe⟩ := h.probe
    rw [validateTargetMac_ok_iff.mpr h.mac, hprobe]
    rfl

/-! ### Lines -/

/-- A space or a tab. -/
def isFieldBlank (c : UInt8) : Bool := c = 32 || c = 9

/-- A blank line, or a comment. -/
def IsIgnored (line : Bytes) : Prop :=
  (∀ c ∈ line, isFieldBlank c = true) ∨
    ∃ before rest, line = before ++ 35 :: rest ∧ ∀ c ∈ before, isFieldBlank c = true

/-- The line of the schema. -/
def IsSchema (line : Bytes) : Prop := FieldsOf isFieldBlank line [literal "schema=1"]

/-- The line of a target. -/
def IsTarget (line : Bytes) (target : RuntimeTargetText) : Prop :=
  FieldsOf isFieldBlank line
    [literal "target=" ++ target.id, target.egress ++ 64 :: target.destinationMac, target.probeEndpoint] ∧ target.Valid

/-- What lines say: how often the schema, and which targets. -/
inductive Entries : List Bytes → ℕ → List RuntimeTargetText → Prop where
  /-- There are no more. -/
  | nil : Entries [] 0 []
  /-- A line that is not read. -/
  | ignored {line : Bytes} {lines : List Bytes} {schemas : ℕ} {targets : List RuntimeTargetText}
      (hline : IsIgnored line) (h : Entries lines schemas targets) : Entries (line :: lines) schemas targets
  /-- The schema. -/
  | schema {line : Bytes} {lines : List Bytes} {schemas : ℕ} {targets : List RuntimeTargetText}
      (hline : IsSchema line) (h : Entries lines schemas targets) : Entries (line :: lines) (schemas + 1) targets
  /-- A target. -/
  | target {line : Bytes} {lines : List Bytes} {schemas : ℕ} {targets : List RuntimeTargetText}
      {target : RuntimeTargetText} (hline : IsTarget line target) (h : Entries lines schemas targets) :
      Entries (line :: lines) schemas (target :: targets)

/-- A text in the format, with its targets in its order. -/
structure RuntimeConfigFormat (text : Bytes) (targets : List RuntimeTargetText) : Prop where
  /-- Of these bytes. -/
  bytes : ∀ c ∈ text, c = 9 ∨ c = 10 ∨ c = 13 ∨ 32 ≤ c ∧ c ≤ 127
  /-- A CR is followed by LF. -/
  returns : ∀ before after, text = before ++ 13 :: after → after.head? = some 10
  /-- Lines, not too many nor too long, that say the schema once and the targets. -/
  lines : ∃ contents, TextOf text contents ∧ contents.length ≤ 256 ∧ (∀ line ∈ contents, line.length ≤ 1024) ∧
    Entries contents 1 targets
  /-- There are no more than fit. -/
  length_le : targets.length ≤ 64
  /-- No two have one name. -/
  distinct : (targets.map (·.id)).Nodup

/-! ### A line is read -/

/-- A byte that may be in a line. -/
def IsLineByte (c : UInt8) : Prop := isInvalidCharacter c = false ∧ c ≠ 10 ∧ c ≠ 13

theorem isSpace_eq_isFieldBlank {c : UInt8} (h : IsLineByte c) : isSpace c = isFieldBlank c := by
  obtain ⟨hvalid, hlf, hcr⟩ := h
  revert hvalid hlf hcr
  simp only [isInvalidCharacter, isSpace, isFieldBlank]
  grind

variable {state state' : ConfigText} {content : Bytes}

/-- What a line that says a target does. -/
def ConfigText.Adds (state state' : ConfigText) (target : RuntimeTargetText) : Prop :=
  target.id ∉ state.ids ∧ state.targets.length + 1 ≤ 64 ∧
    state' = { state with targets := state.targets ++ [target], ids := state.ids ++ [target.id] }

theorem ConfigText.addTarget_eq_ok_iff {first link probe : Bytes} :
    state.addTarget first link probe = .ok state' ↔
      ∃ target : RuntimeTargetText, target.id = first.drop 7 ∧ link = target.egress ++ 64 :: target.destinationMac ∧
        target.probeEndpoint = probe ∧ target.Valid ∧ state.Adds state' target := by
  unfold ConfigText.addTarget
  cases hcut : cut 64 link with
  | none =>
    simp only [reduceCtorEq, false_iff, not_exists]
    rintro target ⟨-, rfl, -, hvalid, -⟩
    have hat : 64 ∉ target.egress := fun hm => hvalid.egress_characters 64 hm (by decide)
    rw [cut_append hat] at hcut
    cases hcut
  | some parts =>
    obtain ⟨egress, mac⟩ := parts
    obtain ⟨hlink, hat⟩ := eq_of_cut hcut
    dsimp only
    rw [bind_eq_ok_iff]
    constructor
    · rintro ⟨⟨⟩, hliteral, h⟩
      refine ⟨⟨first.drop 7, egress, mac, probe⟩, rfl, hlink, rfl, validateRuntimeTargetLiteral_ok_iff.mp hliteral, ?_⟩
      split_ifs at h with hid hfull
      cases h
      exact ⟨hid, by omega, rfl⟩
    · rintro ⟨target, hid, htext, rfl, hvalid, hnew, hroom, rfl⟩
      have hat' : 64 ∉ target.egress := fun hm => hvalid.egress_characters 64 hm (by decide)
      rw [htext, cut_append hat'] at hcut
      obtain ⟨rfl, rfl⟩ := Prod.mk.inj (Option.some.inj hcut)
      refine ⟨(), ?_, ?_⟩
      · rw [← hid]
        exact validateRuntimeTargetLiteral_ok_iff.mpr hvalid
      · rw [← hid, if_neg hnew, if_neg (by omega)]

theorem isPrefixOf_eq {first : Bytes} (h : (literal "target=").isPrefixOf first = true) :
    first = literal "target=" ++ first.drop 7 := by
  have hlength : (literal "target=").length = 7 := by simp only [literal_eq]; decide
  rw [← hlength]
  exact (List.prefix_iff_eq_append.mp (List.isPrefixOf_iff_prefix.mp h)).symm

/-- What a line that is read does to the state. -/
def ConfigText.Reads (state state' : ConfigText) (fields : List Bytes) : Prop :=
  (fields = [literal "schema=1"] ∧ state.schemaSeen = false ∧ state' = { state with schemaSeen := true }) ∨
    ∃ target : RuntimeTargetText, fields =
        [literal "target=" ++ target.id, target.egress ++ 64 :: target.destinationMac, target.probeEndpoint] ∧
      target.Valid ∧ state.Adds state' target

theorem ConfigText.addFields_eq_ok_iff {fields : List Bytes} :
    state.addFields fields = .ok state' ↔ state.Reads state' fields := by
  unfold ConfigText.addFields ConfigText.Reads
  cases fields with
  | nil => simp
  | cons first rest =>
    dsimp only
    by_cases hschema : first = literal "schema=1"
    · subst hschema
      rw [if_pos rfl]
      have hnot : ∀ id : Bytes, literal "schema=1" ≠ literal "target=" ++ id := fun id heq => by
        have hhead := congrArg List.head? heq
        rw [List.head?_append_of_ne_nil _ (by simp only [literal_eq]; decide)] at hhead
        exact absurd hhead (by simp only [literal_eq]; decide)
      constructor
      · intro h
        split_ifs at h with hbad
        obtain ⟨hseen, hrest⟩ := not_or.mp hbad
        exact Or.inl ⟨by rw [not_not.mp hrest], Bool.eq_false_iff.mpr hseen, (Except.ok.inj h).symm⟩
      · rintro (⟨hfields, hseen, rfl⟩ | ⟨target, hfields, -⟩)
        · rw [if_neg (by simp [hseen, (List.cons.inj hfields).2])]
        · exact absurd (List.cons.inj hfields).1 (hnot _)
    · rw [if_neg hschema]
      by_cases hprefix : (literal "target=").isPrefixOf first = false
      · rw [if_pos hprefix]
        refine ⟨fun h => (by cases h), ?_⟩
        rintro (⟨hfields, -⟩ | ⟨target, hfields, -⟩)
        · exact absurd (List.cons.inj hfields).1 hschema
        · rw [(List.cons.inj hfields).1, List.isPrefixOf_iff_prefix.mpr (List.prefix_append _ _)] at hprefix
          cases hprefix
      · rw [if_neg hprefix]
        have hfirst := isPrefixOf_eq (Bool.not_eq_false _ ▸ hprefix)
        constructor
        · intro h
          split at h
          · rename_i link probe
            obtain ⟨target, hid, hlink, hprobe, hvalid, hadds⟩ := ConfigText.addTarget_eq_ok_iff.mp h
            exact Or.inr ⟨target, by rw [hid, ← hfirst, hlink, hprobe], hvalid, hadds⟩
          · cases h
        · rintro (⟨hfields, -⟩ | ⟨target, hfields, hvalid, hadds⟩)
          · exact absurd (List.cons.inj hfields).1 hschema
          · obtain ⟨hid, rfl⟩ := List.cons.inj hfields
            refine ConfigText.addTarget_eq_ok_iff.mpr ⟨target, ?_, rfl, rfl, hvalid, hadds⟩
            rw [hfirst] at hid
            exact (List.append_cancel_left hid).symm

/-- A line that is read does not begin with `#`. -/
theorem ConfigText.Reads.head {fields : List Bytes} (h : state.Reads state' fields) :
    ∃ c word rest, fields = (c :: word) :: rest ∧ c ≠ 35 := by
  rcases h with ⟨hfields, -⟩ | ⟨target, hfields, -⟩
  · have hword : literal "schema=1" = 115 :: (literal "schema=1").tail := by simp only [literal_eq]; decide
    exact ⟨115, _, _, by rw [hfields, hword], by decide⟩
  · have hword : literal "target=" = 116 :: (literal "target=").tail := by simp only [literal_eq]; decide
    exact ⟨116, _, _, by rw [hfields, hword, List.cons_append], by decide⟩

theorem fieldsOf_isSpace_iff (h : ∀ c ∈ content, IsLineByte c) {fields : List Bytes} :
    FieldsOf isSpace content fields ↔ FieldsOf isFieldBlank content fields :=
  ⟨fun hf => hf.congr fun c hc => isSpace_eq_isFieldBlank (h c hc),
    fun hf => hf.congr fun c hc => (isSpace_eq_isFieldBlank (h c hc)).symm⟩

/-- **A line is ignored or its fields are read.** -/
theorem ConfigText.content_eq_ok_iff (h : ∀ c ∈ content, IsLineByte c) :
    (match content.dropWhile fun c => c = 32 || c = 9 with
      | [] => .ok state
      | c :: rest => if c = 35 then .ok state else state.addFields (words (c :: rest))) = (.ok state' : Except _ _) ↔
      IsIgnored content ∧ state' = state ∨ ∃ fields, FieldsOf isFieldBlank content fields ∧ state.Reads state' fields := by
  change (match content.dropWhile isFieldBlank with
      | [] => Except.ok state
      | c :: rest => if c = 35 then Except.ok state else state.addFields (words (c :: rest))) = _ ↔ _
  have hreads : ∀ {fields}, FieldsOf isFieldBlank content fields → state.Reads state' fields →
      ∃ c rest, content.dropWhile isFieldBlank = c :: rest ∧ c ≠ 35 := fun hf hr => by
    obtain ⟨c, word, more, rfl, hc⟩ := hr.head
    obtain ⟨rest, hdrop⟩ := hf.dropWhile_eq
    exact ⟨c, word ++ rest, hdrop, hc⟩
  cases hdrop : content.dropWhile isFieldBlank with
  | nil =>
    have hblank : IsIgnored content := Or.inl (List.dropWhile_eq_nil_iff.mp hdrop)
    constructor
    · exact fun heq => Or.inl ⟨hblank, (Except.ok.inj heq).symm⟩
    · rintro (⟨-, rfl⟩ | ⟨fields, hf, hr⟩)
      · rfl
      · obtain ⟨c, rest, hdrop', -⟩ := hreads hf hr
        rw [hdrop] at hdrop'
        cases hdrop'
  | cons c rest =>
    have hcontent : content = content.takeWhile isFieldBlank ++ c :: rest := by
      rw [← hdrop, List.takeWhile_append_dropWhile]
    have hblanks : ∀ b ∈ content.takeWhile isFieldBlank, isFieldBlank b = true := fun b hb => List.mem_takeWhile_imp hb
    dsimp only
    by_cases hc : c = 35
    · subst hc
      rw [if_pos rfl]
      have hcomment : IsIgnored content := Or.inr ⟨_, _, hcontent, hblanks⟩
      constructor
      · exact fun heq => Or.inl ⟨hcomment, (Except.ok.inj heq).symm⟩
      · rintro (⟨-, rfl⟩ | ⟨fields, hf, hr⟩)
        · rfl
        · obtain ⟨c', rest', hdrop', hne⟩ := hreads hf hr
          rw [hdrop] at hdrop'
          exact absurd (List.cons.inj hdrop').1.symm hne
    · have hnot : ¬ IsIgnored content := by
        rintro (hall | ⟨before, after, heq, hbefore⟩)
        · rw [List.dropWhile_eq_nil_iff.mpr hall] at hdrop
          cases hdrop
        · rw [heq, List.dropWhile_append_of_pos hbefore, List.dropWhile_cons_of_neg (by decide)] at hdrop
          exact hc (List.cons.inj hdrop).1.symm
      have hwords : words content = words (c :: rest) := by
        conv_lhs => rw [hcontent]
        refine words_blanks (fun b hb => ?_) _
        have hb' : b ∈ content := hcontent ▸ List.mem_append_left _ hb
        rw [isSpace_eq_isFieldBlank (h b hb'), hblanks b hb]
      rw [if_neg hc, ← hwords, ConfigText.addFields_eq_ok_iff]
      constructor
      · exact fun hr => Or.inr ⟨_, (fieldsOf_isSpace_iff h).mp (fieldsOf_words content), hr⟩
      · rintro (⟨hignored, -⟩ | ⟨fields, hf, hr⟩)
        · exact absurd hignored hnot
        · rwa [words_eq_iff.mpr ((fieldsOf_isSpace_iff h).mpr hf)]

/-- The state after a line was counted. -/
def ConfigText.counted (state : ConfigText) : ConfigText := { state with lines := state.lines + 1 }

theorem ConfigText.addLine_eq_ok_iff {line : Bytes} (h : ∀ c ∈ line, isInvalidCharacter c = false) (hlf : 10 ∉ line) :
    state.addLine line = .ok state' ↔ state.lines + 1 ≤ 256 ∧ (stripReturn line).length ≤ 1024 ∧ 13 ∉ stripReturn line ∧
      (IsIgnored (stripReturn line) ∧ state' = state.counted ∨
        ∃ fields, FieldsOf isFieldBlank (stripReturn line) fields ∧ state.counted.Reads state' fields) := by
  unfold ConfigText.addLine
  dsimp only
  by_cases hlines : state.lines + 1 > 256
  · rw [if_pos hlines]
    simp only [reduceCtorEq, false_iff]
    rintro ⟨hle, -⟩
    omega
  rw [if_neg hlines]
  change (if (stripReturn line).length > 1024 ∨ 13 ∈ stripReturn line then _ else _) = _ ↔ _
  by_cases hbad : (stripReturn line).length > 1024 ∨ 13 ∈ stripReturn line
  · rw [if_pos hbad]
    simp only [reduceCtorEq, false_iff]
    rintro ⟨-, hshort, hclean, -⟩
    rcases hbad with hlong | hreturn
    · omega
    · exact hclean hreturn
  rw [if_neg hbad]
  obtain ⟨hshort, hclean⟩ := not_or.mp hbad
  have hsub : ∀ c ∈ stripReturn line, c ∈ line := fun c hc => by
    unfold stripReturn at hc
    split at hc
    · exact List.dropLast_subset line hc
    · exact hc
  have hbytes : ∀ c ∈ stripReturn line, IsLineByte c := fun c hc =>
    ⟨h c (hsub c hc), fun heq => hlf (heq ▸ hsub c hc), fun heq => hclean (heq ▸ hc)⟩
  refine (ConfigText.content_eq_ok_iff hbytes).trans ?_
  exact ⟨fun hr => ⟨by omega, by omega, hclean, hr⟩, fun hr => hr.2.2.2⟩

/-! ### The text is read -/

/-- What lines that say `schemas` schemas and `targets` leave. -/
def ConfigText.after (state : ConfigText) (lines schemas : ℕ) (targets : List RuntimeTargetText) : ConfigText where
  targets := state.targets ++ targets
  ids := state.ids ++ targets.map (·.id)
  schemaSeen := state.schemaSeen || decide (0 < schemas)
  lines := state.lines + lines

/-- There is room for what lines say. -/
structure ConfigText.Room (state : ConfigText) (lines schemas : ℕ) (targets : List RuntimeTargetText) : Prop where
  /-- For the lines. -/
  lines_le : state.lines + lines ≤ 256
  /-- For the schemas. -/
  schemas_le : (if state.schemaSeen then 1 else 0) + schemas ≤ 1
  /-- For the targets. -/
  targets_le : state.targets.length + targets.length ≤ 64
  /-- For their names. -/
  nodup : (state.ids ++ targets.map (·.id)).Nodup

section Room

variable {lines schemas : ℕ} {targets : List RuntimeTargetText}

theorem ConfigText.Room.start (h : state.Room lines schemas targets) : state.Room 0 0 [] :=
  ⟨by have := h.lines_le; omega, by have := h.schemas_le; omega, by have := h.targets_le; simp; omega,
    by simpa using (List.nodup_append.mp h.nodup).1⟩

theorem ConfigText.room_counted : state.counted.Room lines schemas targets ↔ state.Room (lines + 1) schemas targets := by
  constructor
  · intro h
    exact ⟨by have := h.lines_le; simp only [ConfigText.counted] at this; omega, h.schemas_le, h.targets_le, h.nodup⟩
  · intro h
    exact ⟨by have := h.lines_le; simp only [ConfigText.counted]; omega, h.schemas_le, h.targets_le, h.nodup⟩

theorem ConfigText.after_counted : state.counted.after lines schemas targets = state.after (lines + 1) schemas targets := by
  simp [ConfigText.after, ConfigText.counted, Nat.add_comm, Nat.add_left_comm]

theorem ConfigText.room_schema (hseen : state.schemaSeen = false) :
    ConfigText.Room { state with schemaSeen := true } lines schemas targets ↔ state.Room lines (schemas + 1) targets := by
  constructor
  · intro h
    exact ⟨h.lines_le, by have := h.schemas_le; simp_all, h.targets_le, h.nodup⟩
  · intro h
    exact ⟨h.lines_le, by have := h.schemas_le; simp_all, h.targets_le, h.nodup⟩

theorem ConfigText.after_schema :
    ConfigText.after { state with schemaSeen := true } lines schemas targets = state.after lines (schemas + 1) targets := by
  simp [ConfigText.after]

theorem ConfigText.room_target {target : RuntimeTargetText} (h : state.Adds state' target) :
    state'.Room lines schemas targets ↔ state.Room lines schemas (target :: targets) := by
  obtain ⟨-, -, rfl⟩ := h
  have hids : state.ids ++ [target.id] ++ targets.map (·.id) = state.ids ++ (target :: targets).map (·.id) := by simp
  constructor
  · intro h
    exact ⟨h.lines_le, h.schemas_le, by have := h.targets_le; simp at this ⊢; omega, hids ▸ h.nodup⟩
  · intro h
    exact ⟨h.lines_le, h.schemas_le, by have := h.targets_le; simp at this ⊢; omega, hids ▸ h.nodup⟩

theorem ConfigText.after_target {target : RuntimeTargetText} (h : state.Adds state' target) :
    state'.after lines schemas targets = state.after lines schemas (target :: targets) := by
  obtain ⟨-, -, rfl⟩ := h
  simp [ConfigText.after]

theorem ConfigText.Room.adds {target : RuntimeTargetText} (h : state.Room lines schemas (target :: targets)) :
    state.Adds { state with targets := state.targets ++ [target], ids := state.ids ++ [target.id] } target := by
  refine ⟨fun hm => ?_, by have := h.targets_le; simp at this; omega, rfl⟩
  exact (List.nodup_append.mp h.nodup).2.2 _ hm _ (by simp) rfl

theorem ConfigText.Adds.room {target : RuntimeTargetText} (h : state.Adds state' target) (hroom : state.Room 0 0 []) :
    state'.Room 0 0 [] := by
  have hnew := h.1
  have hfits := h.2.1
  rw [ConfigText.room_target h]
  refine ⟨hroom.lines_le, hroom.schemas_le, by simpa using hfits, ?_⟩
  have hids : state.ids.Nodup := by simpa using hroom.nodup
  rw [List.map_singleton, ← List.concat_eq_append, List.nodup_concat]
  exact ⟨hnew, hids⟩

end Room

/-- **What reading lines does**: each is short enough, and together they say something
there is room for. -/
theorem ConfigText.foldlM_eq_ok_iff {lines : List Bytes} (hbytes : ∀ line ∈ lines, ∀ c ∈ line, isInvalidCharacter c = false)
    (hlf : ∀ line ∈ lines, 10 ∉ line) (hroom : state.Room 0 0 []) :
    lines.foldlM ConfigText.addLine state = .ok state' ↔
      (∀ line ∈ lines.map stripReturn, line.length ≤ 1024 ∧ 13 ∉ line) ∧
      ∃ schemas targets, Entries (lines.map stripReturn) schemas targets ∧ state.Room lines.length schemas targets ∧
        state' = state.after lines.length schemas targets := by
  induction lines generalizing state with
  | nil =>
    simp only [List.foldlM_nil, List.map_nil, List.not_mem_nil, false_implies, implies_true, true_and]
    have hafter : state.after 0 0 [] = state := by simp [ConfigText.after]
    constructor
    · intro h
      exact ⟨0, [], .nil, hroom, by rw [← Except.ok.inj h]; exact hafter.symm⟩
    · rintro ⟨schemas, targets, hentries, -, rfl⟩
      cases hentries
      exact congrArg Except.ok hafter.symm
  | cons line lines ih =>
    obtain ⟨hfirst, hrest⟩ := List.forall_mem_cons.mp hbytes
    obtain ⟨hlf', hlfs⟩ := List.forall_mem_cons.mp hlf
    simp only [List.foldlM_cons, bind_eq_ok_iff, ConfigText.addLine_eq_ok_iff hfirst hlf', List.map_cons,
      List.forall_mem_cons, List.length_cons]
    constructor
    · rintro ⟨next, ⟨hlines, hshort, hclean, hline⟩, hfold⟩
      have hcounted : state.counted.Room 0 0 [] :=
        ConfigText.room_counted.mpr ⟨by omega, hroom.schemas_le, hroom.targets_le, hroom.nodup⟩
      rcases hline with ⟨hignored, rfl⟩ | ⟨fields, hf, ⟨rfl, hseen, rfl⟩ | ⟨target, rfl, hvalid, hadds⟩⟩
      · obtain ⟨hall, schemas, targets, hentries, hfits, rfl⟩ := (ih hrest hlfs hcounted).mp hfold
        exact ⟨⟨⟨hshort, hclean⟩, hall⟩, schemas, targets, .ignored hignored hentries,
          ConfigText.room_counted.mp hfits, ConfigText.after_counted⟩
      · have hnext : ConfigText.Room { state.counted with schemaSeen := true } 0 0 [] :=
          ⟨hcounted.lines_le, by simp, hcounted.targets_le, hcounted.nodup⟩
        obtain ⟨hall, schemas, targets, hentries, hfits, rfl⟩ := (ih hrest hlfs hnext).mp hfold
        exact ⟨⟨⟨hshort, hclean⟩, hall⟩, schemas + 1, targets, .schema hf hentries,
          ConfigText.room_counted.mp ((ConfigText.room_schema hseen).mp hfits),
          ConfigText.after_schema.trans ConfigText.after_counted⟩
      · obtain ⟨hall, schemas, targets, hentries, hfits, rfl⟩ := (ih hrest hlfs (hadds.room hcounted)).mp hfold
        exact ⟨⟨⟨hshort, hclean⟩, hall⟩, schemas, target :: targets, .target ⟨hf, hvalid⟩ hentries,
          ConfigText.room_counted.mp ((ConfigText.room_target hadds).mp hfits),
          (ConfigText.after_target hadds).trans ConfigText.after_counted⟩
    · rintro ⟨⟨⟨hshort, hclean⟩, hall⟩, schemas, targets, hentries, hfits, rfl⟩
      have hlines : state.lines + 1 ≤ 256 := by
        have := hfits.lines_le
        omega
      have hcounted := ConfigText.room_counted.mpr hfits
      cases hentries with
      | ignored hignored hentries =>
        refine ⟨state.counted, ⟨hlines, hshort, hclean, Or.inl ⟨hignored, rfl⟩⟩, ?_⟩
        exact (ih hrest hlfs hcounted.start).mpr ⟨hall, _, _, hentries, hcounted, ConfigText.after_counted.symm⟩
      | @schema _ _ schemas _ hline hentries =>
        have hseen : state.counted.schemaSeen = false := by
          have := hcounted.schemas_le
          split at this
          · omega
          · rename_i h
            exact Bool.eq_false_iff.mpr h
        have hnext := (ConfigText.room_schema hseen).mpr hcounted
        refine ⟨_, ⟨hlines, hshort, hclean, Or.inr ⟨_, hline, Or.inl ⟨rfl, hseen, rfl⟩⟩⟩, ?_⟩
        exact (ih hrest hlfs hnext.start).mpr
          ⟨hall, _, _, hentries, hnext, (ConfigText.after_schema.trans ConfigText.after_counted).symm⟩
      | @target _ _ _ targets target hline hentries =>
        have hadds := hcounted.adds
        have hnext := (ConfigText.room_target hadds).mpr hcounted
        refine ⟨_, ⟨hlines, hshort, hclean, Or.inr ⟨_, hline.1, Or.inr ⟨target, rfl, hline.2, hadds⟩⟩⟩, ?_⟩
        exact (ih hrest hlfs hnext.start).mpr
          ⟨hall, _, _, hentries, hnext, ((ConfigText.after_target hadds).trans ConfigText.after_counted).symm⟩

/-- What the parser accepts, but for the size of the text. -/
def Accepted (text : Bytes) (targets : List RuntimeTargetText) : Prop :=
  text.any isInvalidCharacter = false ∧ ∃ state : ConfigText, (lines text).foldlM ConfigText.addLine {} = .ok state ∧
    state.schemaSeen = true ∧ state.targets = targets

theorem parseRuntimeConfigText_eq_ok_iff {text : Bytes} {targets : List RuntimeTargetText} :
    parseRuntimeConfigText text = .ok targets ↔ text.length ≤ kMaxFileBytes ∧ Accepted text targets := by
  unfold parseRuntimeConfigText Accepted
  by_cases hsize : text.length > kMaxFileBytes
  · rw [if_pos hsize]
    simp only [reduceCtorEq, false_iff]
    rintro ⟨hle, -⟩
    omega
  rw [if_neg hsize]
  by_cases hascii : text.any isInvalidCharacter = true
  · rw [if_pos hascii]
    simp [hascii]
  rw [if_neg hascii, bind_eq_ok_iff]
  simp only [Nat.le_of_not_lt hsize, Bool.not_eq_true _ ▸ hascii, true_and]
  refine exists_congr fun state => and_congr_right fun _ => ?_
  cases state.schemaSeen <;> simp

/-- An ending after a CR adds nothing. -/
theorem accepted_concat {text : Bytes} {targets : List RuntimeTargetText} (hlast : text.getLast? = some 13) :
    Accepted (text ++ [10]) targets ↔ Accepted text targets := by
  unfold Accepted
  rw [lines_concat hlast (by decide), List.any_append]
  have hlf : [(10 : UInt8)].any isInvalidCharacter = false := by decide
  rw [hlf, Bool.or_false]

theorem isInvalidCharacter_eq_false_iff {c : UInt8} :
    isInvalidCharacter c = false ↔ c = 9 ∨ c = 10 ∨ c = 13 ∨ 32 ≤ c ∧ c ≤ 127 := by
  simp only [isInvalidCharacter]
  grind

/-- **A text whose last byte is no CR is accepted exactly if it is in the format.** -/
theorem accepted_iff {text : Bytes} {targets : List RuntimeTargetText} (hlast : text.getLast? ≠ some 13) :
    Accepted text targets ↔ RuntimeConfigFormat text targets := by
  have hbytes : text.any isInvalidCharacter = false ↔ ∀ c ∈ text, isInvalidCharacter c = false := by
    simp [List.any_eq_false]
  have hroom : ConfigText.Room {} 0 0 [] := ⟨by decide, by decide, by decide, List.nodup_nil⟩
  have hfold : (∀ c ∈ text, isInvalidCharacter c = false) → ∀ state, _ := fun hvalid state =>
    @ConfigText.foldlM_eq_ok_iff {} state (lines text) (fun line hline c hc => hvalid c ((mem_lines hline).2 c hc))
      (fun line hline => (mem_lines hline).1) hroom
  constructor
  · rintro ⟨hany, state, hstate, hseen, rfl⟩
    have hvalid := hbytes.mp hany
    obtain ⟨hall, schemas, targets, hentries, hfits, rfl⟩ := (hfold hvalid state).mp hstate
    have htext := textOf_lines (fun line hline => (hall line hline).2) hlast
    have hone : schemas = 1 := by
      have hpos : 0 < schemas := by simpa [ConfigText.after] using hseen
      have hle : schemas ≤ 1 := by simpa using hfits.schemas_le
      omega
    subst hone
    have htargets : targets.length ≤ 64 := by simpa using hfits.targets_le
    have hnodup : (targets.map (·.id)).Nodup := by simpa using hfits.nodup
    refine ⟨fun c hc => isInvalidCharacter_eq_false_iff.mp (hvalid c hc), fun before after => htext.followed,
      ⟨_, htext, ?_, fun line hline => (hall line hline).1, ?_⟩, ?_, ?_⟩
    · simpa using hfits.lines_le
    · simpa [ConfigText.after] using hentries
    · simpa [ConfigText.after] using htargets
    · simpa [ConfigText.after] using hnodup
  · rintro ⟨hvalid, -, ⟨contents, htext, hlines, hshort, hentries⟩, hlength, hdistinct⟩
    have hvalid' : ∀ c ∈ text, isInvalidCharacter c = false := fun c hc =>
      isInvalidCharacter_eq_false_iff.mpr (hvalid c hc)
    obtain ⟨rfl, hclean⟩ := htext.lines_eq
    rw [List.length_map] at hlines
    refine ⟨hbytes.mpr hvalid', ConfigText.after {} (lines text).length 1 targets, ?_, by simp [ConfigText.after],
      by simp [ConfigText.after]⟩
    exact (hfold hvalid' _).mpr ⟨fun line hline => ⟨hshort line hline, hclean line hline⟩, 1, targets, hentries,
      ⟨by simpa using hlines, by simp, by simpa using hlength, by simpa using hdistinct⟩, rfl⟩

theorem RuntimeConfigFormat.last {text : Bytes} {targets : List RuntimeTargetText} (h : RuntimeConfigFormat text targets) :
    text.getLast? ≠ some 13 := by
  intro hlast
  obtain ⟨before, rfl⟩ := List.getLast?_eq_some_iff.mp hlast
  have := h.returns before [] rfl
  cases this

/-- **The grammar, and the texts the parser takes beyond it.** A text is accepted exactly if
it is not too long and in the format, and then with the targets it says, and no text with a
bare CR is accepted: all but for the texts that end with a CR and would be in the format,
were it followed by LF. -/
theorem runtime_config_grammar (text : Bytes) :
    ((∀ targets, parseRuntimeConfigText text = .ok targets ↔ text.length ≤ 65536 ∧ RuntimeConfigFormat text targets) ∧
      ((∃ before after, text = before ++ 13 :: after ∧ after.head? ≠ some 10) →
        ∃ e, parseRuntimeConfigText text = .error e)) ↔
      ¬ (text.length ≤ 65536 ∧ text.getLast? = some 13 ∧ ∃ targets, RuntimeConfigFormat (text ++ [10]) targets) := by
  constructor
  · rintro ⟨hgrammar, -⟩ ⟨hsize, hlast, targets, hformat⟩
    have haccepted := (accepted_concat hlast).mp ((accepted_iff hformat.last).mpr hformat)
    exact ((hgrammar targets).mp (parseRuntimeConfigText_eq_ok_iff.mpr ⟨hsize, haccepted⟩)).2.last hlast
  · intro hnot
    have hgrammar : ∀ targets, parseRuntimeConfigText text = .ok targets ↔
        text.length ≤ 65536 ∧ RuntimeConfigFormat text targets := by
      intro targets
      rw [parseRuntimeConfigText_eq_ok_iff]
      refine and_congr_right fun hsize => ?_
      by_cases hlast : text.getLast? = some 13
      · have hconcat : (text ++ [10]).getLast? ≠ some 13 := by simp
        refine ⟨fun haccepted => ?_, fun hformat => absurd hlast hformat.last⟩
        exact absurd ⟨hsize, hlast, targets, (accepted_iff hconcat).mp ((accepted_concat hlast).mpr haccepted)⟩ hnot
      · exact accepted_iff hlast
    refine ⟨hgrammar, ?_⟩
    rintro ⟨before, after, htext, hafter⟩
    cases hparse : parseRuntimeConfigText text with
    | error e => exact ⟨e, rfl⟩
    | ok targets => exact absurd (((hgrammar targets).mp hparse).2.returns before after htext) hafter

/-- `schema=1` and a CR is accepted, though its CR is bare. -/
theorem runtime_config_bare_return :
    let text := literal "schema=1\r"
    parseRuntimeConfigText text = .ok [] ∧ (∃ before after, text = before ++ 13 :: after ∧ after.head? ≠ some 10) ∧
      ¬ RuntimeConfigFormat text [] := by
  intro text
  have htext : text = literal "schema=1" ++ 13 :: [] := by decide +kernel
  refine ⟨by decide +kernel, ⟨_, _, htext, by decide⟩, fun h => ?_⟩
  exact h.last (by decide +kernel)

end L4lb.Control
