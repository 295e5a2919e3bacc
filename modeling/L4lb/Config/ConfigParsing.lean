import L4lb.Config.ConfigGrammar
import Mathlib.Data.List.Perm.Basic

/-!
# Parsing a configuration

`parseConfig` against the grammar of its lines: it stops at the first line that may not
follow those before it, and what comes after that line has no part in the result; a text
of which every line may follow is what its settings say, if a listener and a backend
are among them.

## The model

* `ValidLines`, `FirstInvalid` — a text all of whose lines may follow, and the first that may not.
* `Row` — a line as it is laid out, with its ending; `Rearranges` — rows with the same settings as
  some lines, the backends in the same order.
-/

namespace L4lb

open Text ConfigParse

/-! ### The lines of a text -/

/-- The lines of a text, put together again. -/
theorem rawLines_join (text : Bytes) :
    (rawLines text).flatMap (fun line => line.1 ++ if line.2 = true then [10] else []) = text ∧
      (∀ line ∈ rawLines text, 10 ∉ line.1 ∧ (line.2 = false → line.1 ≠ [])) ∧
      ∀ line ∈ (rawLines text).dropLast, line.2 = true := by
  induction text with
  | nil => simp [rawLines]
  | cons x xs ih =>
    obtain ⟨hjoin, hall, hended⟩ := ih
    rw [rawLines]
    split
    · rename_i hx
      refine ⟨by simp [hx, hjoin], fun line hline => ?_, fun line hline => ?_⟩
      · rcases List.mem_cons.mp hline with rfl | hline
        · simp
        · exact hall line hline
      · cases hrest : rawLines xs with
        | nil =>
          rw [hrest] at hline
          simp at hline
        | cons l ls =>
          rw [hrest, List.dropLast_cons_of_ne_nil (by simp)] at hline
          rcases List.mem_cons.mp hline with rfl | hline
          · rfl
          · exact hended line (by rw [hrest]; exact hline)
    · rename_i hx
      cases hrest : rawLines xs with
      | nil =>
        rw [hrest] at hjoin
        have hxs : xs = [] := hjoin.symm
        subst hxs
        exact ⟨by simp, by simpa using Ne.symm hx, by simp⟩
      | cons l ls =>
        obtain ⟨line, ended⟩ := l
        rw [hrest] at hjoin hall hended
        refine ⟨by rw [← hjoin]; simp, fun line' hline => ?_, fun line' hline => ?_⟩
        · rcases List.mem_cons.mp hline with rfl | hline
          · have := hall (line, ended) List.mem_cons_self
            exact ⟨by simpa [Ne.symm hx] using this.1, by simp⟩
          · exact hall line' (List.mem_cons_of_mem _ hline)
        · cases ls with
          | nil => simp at hline
          | cons l' ls =>
            rw [List.dropLast_cons_of_ne_nil (by simp)] at hline hended
            rcases List.mem_cons.mp hline with rfl | hline
            · exact hended (line, ended) List.mem_cons_self
            · exact hended line' (List.mem_cons_of_mem _ hline)

/-- A line feed ends a line, whatever comes after it. -/
theorem rawLines_append (before rest : Bytes) :
    rawLines (before ++ (10 : UInt8) :: rest) = rawLines (before ++ [10]) ++ rawLines rest := by
  induction before with
  | nil => simp [rawLines]
  | cons x xs ih =>
    rw [List.cons_append, List.cons_append, rawLines, rawLines, ih]
    split
    · rfl
    · cases h : rawLines (xs ++ [10]) with
      | nil =>
        have := (rawLines_join (xs ++ [10])).1
        rw [h] at this
        simp at this
      | cons l ls => rfl

theorem length_rawLines (before : Bytes) : (rawLines (before ++ [10])).length = before.count 10 + 1 := by
  induction before with
  | nil => rfl
  | cons x xs ih =>
    rw [List.cons_append, rawLines]
    split
    · rename_i hx
      rw [List.length_cons, ih, hx, List.count_cons_self]
    · rename_i hx
      rw [List.count_cons_of_ne hx, ← ih]
      cases h : rawLines (xs ++ [10]) with
      | nil =>
        rw [h] at ih
        simp at ih
      | cons l ls => rfl

/-! ### Lines that may follow -/

/-- Each line may follow those before it. -/
def ValidLines (lines : List Bytes) : Prop :=
  ∀ before line after, lines = before ++ line :: after → ValidLine before line

/-- The line of this number is the first that may not follow those before it. -/
def FirstInvalid (lines : List Bytes) (n : ℕ) : Prop :=
  ∃ before line after, lines = before ++ line :: after ∧ n = before.length + 1 ∧ ValidLines before ∧
    ¬ ValidLine before line

theorem validLines_nil : ValidLines [] := fun before line after h => by
  cases before <;> cases h

theorem ValidLines.concat {lines : List Bytes} {line : Bytes} (h : ValidLines lines) (hline : ValidLine lines line) :
    ValidLines (lines ++ [line]) := by
  intro before line' after heq
  induction after using List.reverseRecOn with
  | nil =>
    obtain ⟨rfl, hl⟩ := List.append_inj' heq rfl
    rw [← (List.cons.inj hl).1]
    exact hline
  | append_singleton after x _ =>
    rw [← List.cons_append, ← List.append_assoc] at heq
    exact h before line' after (List.append_inj_left' heq rfl)

theorem FirstInvalid.not_validLines {lines : List Bytes} {n : ℕ} (h : FirstInvalid lines n) : ¬ ValidLines lines := by
  obtain ⟨before, line, after, rfl, -, -, hnot⟩ := h
  exact fun hall => hnot (hall before line after rfl)

/-- There is one first. -/
theorem FirstInvalid.unique {lines : List Bytes} {n m : ℕ} (h : FirstInvalid lines n) (h' : FirstInvalid lines m) :
    n = m := by
  obtain ⟨before, line, after, rfl, rfl, hvalid, hnot⟩ := h
  obtain ⟨before', line', after', heq, rfl, hvalid', hnot'⟩ := h'
  rcases List.append_eq_append_iff.mp heq with ⟨rest, rfl, hrest⟩ | ⟨rest, rfl, hrest⟩
  · cases rest with
    | nil => simp
    | cons x xs =>
      obtain ⟨rfl, -⟩ := List.cons.inj hrest
      exact absurd (hvalid' before line xs rfl) hnot
  · cases rest with
    | nil => simp
    | cons x xs =>
      obtain ⟨rfl, -⟩ := List.cons.inj hrest
      exact absurd (hvalid before' line' xs rfl) hnot'

/-! ### The loop -/

/-- **The loop stops at the first line that may not follow**, and otherwise is where the
settings of the lines lead. -/
theorem parseConfigLines_spec {s : ConfigParse} {done : List Bytes} (lines : List Bytes)
    (h : s.Agrees (settings done)) (hvalid : ValidLines done) :
    match parseConfigLines s done.length lines with
    | .ok s' => s'.Agrees (settings (done ++ lines)) ∧ ValidLines (done ++ lines)
    | .error e => e.eof = false ∧ FirstInvalid (done ++ lines) e.line := by
  induction lines generalizing s done with
  | nil =>
    rw [List.append_nil]
    exact ⟨h, hvalid⟩
  | cons line rest ih =>
    have hspec := parseLine_spec h line
    rw [parseConfigLines]
    cases hline : s.parseLine line with
    | error e =>
      rw [hline] at hspec
      exact ⟨rfl, done, line, rest, rfl, rfl, hvalid, hspec⟩
    | ok s' =>
      rw [hline] at hspec
      have := ih hspec.2 (hvalid.concat hspec.1)
      rw [List.append_assoc, List.length_append, List.length_singleton] at this
      exact this

/-- Lines are parsed one after the other. -/
theorem parseConfigLines_append (s : ConfigParse) (n : ℕ) (xs ys : List Bytes) :
    parseConfigLines s n (xs ++ ys) = match parseConfigLines s n xs with
      | .error e => .error e
      | .ok s' => parseConfigLines s' (n + xs.length) ys := by
  induction xs generalizing s n with
  | nil => rfl
  | cons x xs ih =>
    rw [List.cons_append, parseConfigLines, parseConfigLines]
    cases s.parseLine x with
    | error e => rfl
    | ok s' =>
      rw [List.length_cons, show n + (xs.length + 1) = n + 1 + xs.length by omega]
      exact ih s' (n + 1)

/-- An error is in one of the lines. -/
theorem line_of_parseConfigLines {s : ConfigParse} {n : ℕ} {lines : List Bytes} {e : ConfigError}
    (h : parseConfigLines s n lines = .error e) : n < e.line := by
  induction lines generalizing s n with
  | nil => cases h
  | cons line rest ih =>
    rw [parseConfigLines] at h
    split at h
    · cases h
      exact Nat.lt_succ_self n
    · exact Nat.lt_of_succ_lt (ih h)

/-! ### The parser -/

/-- A table of values has one entry for each. -/
theorem rightUnique_table {α : Type} {table : List (Bytes × α)} (h : (table.map Prod.fst).Nodup) :
    Relator.RightUnique fun v x => (v, x) ∈ table := fun _ _ _ hx hy =>
  (Prod.mk.inj (List.inj_on_of_nodup_map h hx hy rfl)).2

theorem Chosen.unique {α : Type} {R : Bytes → α → Prop} {default : α} {values : List Bytes} {x x' : α}
    (hR : Relator.RightUnique R) (h : Chosen R default values x) (h' : Chosen R default values x') : x = x' := by
  cases h with
  | absent =>
    cases h'
    rfl
  | given hx =>
    cases h' with
    | given hx' => exact hR hx hx'

/-- Settings say one configuration. -/
theorem Means.unique {given : List (Bytes × Bytes)} {config config' : Config} (h : Means given config)
    (h' : Means given config') : config = config' := by
  have hlisten := h.listen.unique (biUnique_endpointText false).2 h'.listen
  have hbackends := List.right_unique_forall₂' (biUnique_endpointText true).2 h.backends h'.backends
  have hprotocol := h.protocol.unique (rightUnique_table (by decide +kernel)) h'.protocol
  have hmetrics := h.metrics.unique (rightUnique_table (by decide +kernel)) h'.metrics
  have hhealth := h.healthCheck.unique (rightUnique_table (by decide +kernel)) h'.healthCheck
  have hscheduler := h.scheduler.unique (rightUnique_table (by decide)) h'.scheduler
  cases config
  cases config'
  simp_all

/-- What `parseConfig` does of a text that is not too long. -/
theorem parseConfig_spec {text : Bytes} (hsize : text.length ≤ kMaxConfigBytes) :
    (∃ e, parseConfig text = .error e ∧ e.eof = false ∧ FirstInvalid (configLines text) e.line) ∨
      ValidLines (configLines text) ∧ ∃ config, Means (settings (configLines text)) config ∧
        parseConfig text =
          if valuesOf .listen (settings (configLines text)) = [] ∨ valuesOf .backend (settings (configLines text)) = [] then
            .error ⟨.missing, (configLines text).length + 1, true, "必须包含一个 listen 和至少一个 backend"⟩
          else .ok config := by
  have hspec := parseConfigLines_spec (configLines text) agrees_init validLines_nil
  rw [List.nil_append, List.length_nil] at hspec
  have hparse : parseConfig text = match parseConfigLines {} 0 (configLines text) with
      | .error e => .error e
      | .ok s =>
        if s.hasListen = false ∨ s.config.backends = [] then
          .error ⟨.missing, (configLines text).length + 1, true, "必须包含一个 listen 和至少一个 backend"⟩
        else .ok s.config := by
    unfold parseConfig
    exact if_neg (Nat.not_lt.mpr hsize)
  cases hrun : parseConfigLines {} 0 (configLines text) with
  | error e =>
    rw [hrun] at hspec hparse
    exact Or.inl ⟨e, hparse, hspec⟩
  | ok s =>
    rw [hrun] at hspec hparse
    refine Or.inr ⟨hspec.2, s.config, hspec.1.means, ?_⟩
    have hlisten : s.hasListen = false ↔ valuesOf .listen (settings (configLines text)) = [] := by
      rw [← Bool.not_eq_true, (hspec.1 .listen).2, not_not]
    have hbackends : s.config.backends = [] ↔ valuesOf .backend (settings (configLines text)) = [] := by
      rw [← List.length_eq_zero_iff, ← (hspec.1 .backend).1.length_eq, List.length_eq_zero_iff]
    rw [hparse]
    simp only [hlisten, hbackends]

/-- Texts of which every line may follow, and what they are parsed to. -/
theorem parseConfig_ok_iff {text : Bytes} (hsize : text.length ≤ kMaxConfigBytes) {config : Config} :
    parseConfig text = .ok config ↔ ValidLines (configLines text) ∧ Means (settings (configLines text)) config ∧
      valuesOf .listen (settings (configLines text)) ≠ [] ∧ valuesOf .backend (settings (configLines text)) ≠ [] := by
  rcases parseConfig_spec hsize with ⟨e, he, -, hfirst⟩ | ⟨hvalid, c, hmeans, hparse⟩
  · rw [he]
    exact ⟨(fun h => nomatch h), fun h => absurd h.1 hfirst.not_validLines⟩
  · rw [hparse]
    split
    · rename_i hmissing
      exact ⟨(fun h => nomatch h), fun h => absurd hmissing (by simp [h.2.2.1, h.2.2.2])⟩
    · rename_i hgiven
      obtain ⟨hlisten, hbackend⟩ := not_or.mp hgiven
      constructor
      · intro h
        cases h
        exact ⟨hvalid, hmeans, hlisten, hbackend⟩
      · rintro ⟨-, hmeans', -, -⟩
        rw [hmeans.unique hmeans']

/-! ### Lines in another layout -/

/-- How a line ends. -/
inductive LineEnding where
  /-- With a line feed. -/
  | lf
  /-- With a carriage return and a line feed. -/
  | crlf
  /-- With the text. -/
  | none
  deriving DecidableEq

/-- The bytes of an ending. -/
def LineEnding.bytes : LineEnding → Bytes
  | .lf => [10]
  | .crlf => [13, 10]
  | .none => []

/-- A line as it is laid out. -/
structure Row where
  /-- What it says. -/
  content : Bytes
  /-- How it ends. -/
  ending : LineEnding

/-- The text of rows. -/
def rowsText (rows : List Row) : Bytes := rows.flatMap fun row => row.content ++ row.ending.bytes

/-- Rows of a text: each is a note or a setting, and only the last may end with the text. -/
structure RowsOk (rows : List Row) : Prop where
  /-- They are clean. -/
  clean : ∀ row ∈ rows, CleanLine row.content ∧ 10 ∉ row.content
  /-- They are notes or settings. -/
  sorts : ∀ row ∈ rows, IsNote row.content ∨ ∃ key value, IsSetting row.content key value
  /-- They are ended. -/
  ended : ∀ row ∈ rows.dropLast, row.ending ≠ .none
  /-- A row that ends with the text is not empty. -/
  last : ∀ row ∈ rows, row.ending = .none → row.content ≠ []

/-- Rows with the settings of some lines: those of one key stay in their order, whatever else
is moved, blank and comment lines come and go, and so do blanks and carriage returns. -/
structure Rearranges (rows : List Row) (lines : List Bytes) : Prop where
  /-- They are rows of a text. -/
  ok : RowsOk rows
  /-- They have the same settings. -/
  same : (settings (rows.map fun row => row.content)).Perm (settings lines)
  /-- The backends are in the same order. -/
  order : valuesOf .backend (settings (rows.map fun row => row.content)) = valuesOf .backend (settings lines)

theorem rawLines_content {content : Bytes} (h : 10 ∉ content) (rest : Bytes) :
    rawLines (content ++ (10 : UInt8) :: rest) = (content, true) :: rawLines rest := by
  induction content with
  | nil => simp [rawLines]
  | cons x xs ih =>
    obtain ⟨hx, hxs⟩ := not_or.mp (fun hm => h (List.mem_cons.mpr hm))
    rw [List.cons_append, rawLines, if_neg (Ne.symm hx), ih hxs]

theorem rawLines_unended {content : Bytes} (h : 10 ∉ content) (hne : content ≠ []) :
    rawLines content = [(content, false)] := by
  induction content with
  | nil => exact absurd rfl hne
  | cons x xs ih =>
    obtain ⟨hx, hxs⟩ := not_or.mp (fun hm => h (List.mem_cons.mpr hm))
    rw [rawLines, if_neg (Ne.symm hx)]
    cases xs with
    | nil => rfl
    | cons y ys => rw [ih hxs (by simp)]

/-- **The lines of a text of rows are what the rows say.** -/
theorem configLines_rowsText {rows : List Row} (h : RowsOk rows) :
    configLines (rowsText rows) = rows.map (·.content) := by
  induction rows with
  | nil => rfl
  | cons row rest ih =>
    obtain ⟨hclean, hsorts, hended, hlast⟩ := h
    obtain ⟨⟨-, hcr, -⟩, hlf⟩ := hclean row List.mem_cons_self
    have hstrip : stripLine (row.content, true) = row.content := by
      unfold stripLine
      rw [if_neg]
      rintro ⟨-, hcr'⟩
      exact hcr (List.mem_of_getLast? hcr')
    have hrest : row.ending ≠ .none → configLines (rowsText rest) = rest.map (·.content) := fun _ =>
      ih ⟨fun r hr => hclean r (List.mem_cons_of_mem _ hr), fun r hr => hsorts r (List.mem_cons_of_mem _ hr),
        fun r hr => hended r (by
          cases rest with
          | nil => simp at hr
          | cons r' rs =>
            rw [List.dropLast_cons_of_ne_nil (by simp)]
            exact List.mem_cons_of_mem _ hr),
        fun r hr => hlast r (List.mem_cons_of_mem _ hr)⟩
    cases hending : row.ending with
    | lf =>
      have htext : rowsText (row :: rest) = row.content ++ (10 : UInt8) :: rowsText rest := by
        simp [rowsText, hending, LineEnding.bytes]
      rw [htext, configLines, rawLines_content hlf, List.map_cons, hstrip, List.map_cons,
        ← hrest (by simp [hending])]
      rfl
    | crlf =>
      have htext : rowsText (row :: rest) = (row.content ++ [13]) ++ (10 : UInt8) :: rowsText rest := by
        simp [rowsText, hending, LineEnding.bytes]
      have hstrip' : stripLine (row.content ++ [13], true) = row.content := by
        simp [stripLine]
      rw [htext, configLines, rawLines_content (by simp [hlf]), List.map_cons, hstrip', List.map_cons,
        ← hrest (by simp [hending])]
      rfl
    | none =>
      have hnil : rest = [] := by
        cases rest with
        | nil => rfl
        | cons r rs => exact absurd hending (hended row (by rw [List.dropLast_cons_of_ne_nil (by simp)]; simp))
      subst hnil
      have htext : rowsText [row] = row.content := by simp [rowsText, hending, LineEnding.bytes]
      rw [htext, configLines, rawLines_unended hlf (hlast row List.mem_cons_self hending)]
      rfl

/-! ### Settings in another order -/

/-- The keys of lines that may follow are known. -/
theorem ValidLines.known {lines : List Bytes} (h : ValidLines lines) {key value : Bytes}
    (hm : (key, value) ∈ settings lines) : ∃ k : ConfigKey, key = k.name := by
  obtain ⟨line, hline, hset⟩ := List.mem_filterMap.mp hm
  obtain ⟨before, after, rfl⟩ := List.append_of_mem hline
  obtain ⟨-, hnote | ⟨key', value', hset', k, hk, -⟩⟩ := h before line after rfl
  · rw [lineSetting_of_isNote hnote] at hset
    cases hset
  · rw [lineSetting_eq_some_iff.mpr hset'] at hset
    obtain ⟨rfl, rfl⟩ := Prod.mk.inj (Option.some.inj hset)
    exact ⟨k, hk⟩

theorem valuesOf_append (k : ConfigKey) (xs ys : List (Bytes × Bytes)) :
    valuesOf k (xs ++ ys) = valuesOf k xs ++ valuesOf k ys := by
  simp [valuesOf]

theorem valuesOf_cons_self (k : ConfigKey) (value : Bytes) (given : List (Bytes × Bytes)) :
    valuesOf k ((k.name, value) :: given) = value :: valuesOf k given := by
  simp [valuesOf]

/-- A single value is not one of more. -/
theorem Chosen.of_append {α : Type} {R : Bytes → α → Prop} {default x : α} {xs ys : List Bytes} {value : Bytes}
    (h : Chosen R default (xs ++ value :: ys) x) : xs = [] ∧ ∃ x, R value x := by
  generalize hl : xs ++ value :: ys = values at h
  cases h with
  | absent => simp at hl
  | given hx =>
    cases xs with
    | nil =>
      obtain ⟨rfl, -⟩ := List.cons.inj hl
      exact ⟨rfl, _, hx⟩
    | cons y xs => simp at hl

/-- **Settings that say a configuration may follow one another.** -/
theorem Means.admissible {before after : List (Bytes × Bytes)} {config : Config} {k : ConfigKey} {value : Bytes}
    (h : Means (before ++ (k.name, value) :: after) config) : AdmissibleValue before value k := by
  have hvalues : valuesOf k (before ++ (k.name, value) :: after) =
      valuesOf k before ++ value :: valuesOf k after := by
    rw [valuesOf_append, valuesOf_cons_self]
  cases k with
  | backend =>
    have hall := h.backends
    have hdistinct := h.distinct
    have hfew := h.few
    rw [hvalues] at hall hdistinct hfew
    refine ⟨?_, ?_, ?_⟩
    · rw [List.length_append, List.length_cons] at hfew
      omega
    · intro hm
      exact (List.nodup_append.mp hdistinct).2.2 value hm value List.mem_cons_self rfl
    · have hfrom := List.forall₂_drop (valuesOf .backend before).length hall
      rw [List.drop_left] at hfrom
      obtain ⟨e, _, he, -, -⟩ := List.forall₂_cons_left_iff.mp hfrom
      exact ⟨e, he⟩
  | listen => exact (hvalues ▸ h.listen : Chosen _ _ _ _).of_append
  | protocol => exact (hvalues ▸ h.protocol : Chosen _ _ _ _).of_append
  | scheduler => exact (hvalues ▸ h.scheduler : Chosen _ _ _ _).of_append
  | healthCheck => exact (hvalues ▸ h.healthCheck : Chosen _ _ _ _).of_append
  | metrics => exact (hvalues ▸ h.metrics : Chosen _ _ _ _).of_append

/-- A key that is given at most once has one value, in whatever order. -/
theorem Chosen.perm {α : Type} {R : Bytes → α → Prop} {default x : α} {values values' : List Bytes}
    (h : Chosen R default values x) (hperm : values'.Perm values) : Chosen R default values' x := by
  cases h with
  | absent =>
    rw [List.Perm.eq_nil hperm]
    exact .absent
  | given hx =>
    rw [List.perm_singleton.mp hperm]
    exact .given hx

/-- **The order of settings does not matter**, but for that of the backends. -/
theorem Means.perm {given given' : List (Bytes × Bytes)} {config : Config} (h : Means given config)
    (hperm : given'.Perm given) (hbackends : valuesOf .backend given' = valuesOf .backend given) :
    Means given' config := by
  have hvalues : ∀ k, (valuesOf k given').Perm (valuesOf k given) := fun k => (hperm.filter _).map _
  exact ⟨h.listen.perm (hvalues _), hbackends ▸ h.backends, hbackends ▸ h.distinct, hbackends ▸ h.few,
    h.protocol.perm (hvalues _), h.scheduler.perm (hvalues _), h.healthCheck.perm (hvalues _),
    h.metrics.perm (hvalues _)⟩

/-- Rows with the settings of lines that may follow one another are such lines. -/
theorem Rearranges.validLines {rows : List Row} {lines : List Bytes} {config : Config} (h : Rearranges rows lines)
    (hvalid : ValidLines lines) (hmeans : Means (settings lines) config) :
    ValidLines (rows.map fun row => row.content) := by
  have hmeans' := hmeans.perm h.same h.order
  intro before line after heq
  obtain ⟨row, hrow, rfl⟩ : ∃ row ∈ rows, row.content = line := by
    have hm : line ∈ rows.map fun row => row.content := by rw [heq]; simp
    simpa using hm
  refine ⟨(h.ok.clean row hrow).1, ?_⟩
  rcases h.ok.sorts row hrow with hnote | ⟨key, value, hset⟩
  · exact Or.inl hnote
  · right
    have hsplit : settings (rows.map fun row => row.content) =
        settings before ++ (key, value) :: settings after := by
      rw [heq, settings, List.filterMap_append, List.filterMap_cons, lineSetting_eq_some_iff.mpr hset]
      rfl
    obtain ⟨k, rfl⟩ := hvalid.known
      (show (key, value) ∈ settings lines from h.same.mem_iff.mp (by rw [hsplit]; simp))
    rw [hsplit] at hmeans'
    exact ⟨_, _, hset, admissible_name.mpr hmeans'.admissible⟩

/-- **A configuration in another layout is the same configuration.** -/
theorem parseConfig_rearranged {text : Bytes} {config : Config} {rows : List Row} (hparse : parseConfig text = .ok config)
    (hrows : Rearranges rows (configLines text)) (hsize : (rowsText rows).length ≤ kMaxConfigBytes) :
    parseConfig (rowsText rows) = .ok config := by
  have htext : text.length ≤ kMaxConfigBytes := by
    by_contra hbig
    rw [parseConfig, if_pos (Nat.lt_of_not_le hbig)] at hparse
    cases hparse
  obtain ⟨hvalid, hmeans, hlisten, hbackend⟩ := (parseConfig_ok_iff htext).mp hparse
  rw [parseConfig_ok_iff hsize, configLines_rowsText hrows.ok]
  refine ⟨hrows.validLines hvalid hmeans, hmeans.perm hrows.same hrows.order, fun hnil => hlisten ?_, ?_⟩
  · have hperm : (valuesOf .listen (settings (rows.map fun row => row.content))).Perm
        (valuesOf .listen (settings (configLines text))) := (hrows.same.filter _).map _
    rw [hnil] at hperm
    exact (List.Perm.eq_nil hperm.symm)
  · rw [hrows.order]
    exact hbackend

/-- **What comes after the line of an error has no part in it.** -/
theorem parseConfig_prefix {before rest rest' : Bytes} {e : ConfigError}
    (hsize' : (before ++ (10 : UInt8) :: rest').length ≤ kMaxConfigBytes)
    (h : parseConfig (before ++ (10 : UInt8) :: rest) = .error e) (heof : e.eof = false)
    (hline : e.line = before.count 10 + 1) : parseConfig (before ++ (10 : UInt8) :: rest') = .error e := by
  have hsplit : ∀ rest : Bytes, configLines (before ++ (10 : UInt8) :: rest) =
      configLines (before ++ [10]) ++ configLines rest := by
    intro rest
    rw [configLines, rawLines_append, List.map_append]
    rfl
  have hlength : (configLines (before ++ [10])).length = before.count 10 + 1 := by
    rw [configLines, List.length_map, length_rawLines]
  -- the error is in the lines up to here, which are the same in both texts
  have hfirst : parseConfigLines {} 0 (configLines (before ++ [10])) = .error e := by
    unfold parseConfig at h
    split at h
    · cases h
      simp at hline
    · dsimp only at h
      rw [hsplit, parseConfigLines_append] at h
      cases hrun : parseConfigLines {} 0 (configLines (before ++ [10])) with
      | error e' =>
        rw [hrun] at h
        cases h
        rfl
      | ok s =>
        rw [hrun] at h
        dsimp only at h
        split at h
        · rename_i hlater
          cases h
          have := line_of_parseConfigLines hlater
          omega
        · split at h
          · cases h
            cases heof
          · cases h
  unfold parseConfig
  rw [if_neg (Nat.not_lt.mpr hsize')]
  dsimp only
  rw [hsplit, parseConfigLines_append, hfirst]

/-- **The grammar of a configuration and its first error.** A text that is not too long has an
error at a line just when that line is the first that may not follow those before it, and
what comes after that line has no part in the error. Otherwise the error is that something
is missing, just past the last line, if there is no listener or no backend, and else it
is parsed to the configuration that its settings say, with 1 to 256 backends of which no
two are the same; and so is every text of rows with the same settings and the backends in
the same order. -/
theorem config_grammar {text : Bytes} (hsize : text.length ≤ kMaxConfigBytes) :
    (∀ n, (∃ kind message, parseConfig text = .error ⟨kind, n, false, message⟩) ↔
        FirstInvalid (configLines text) n) ∧
      (∀ before rest rest' e, text = before ++ (10 : UInt8) :: rest → parseConfig text = .error e → e.eof = false →
        e.line = before.count 10 + 1 → (before ++ (10 : UInt8) :: rest').length ≤ kMaxConfigBytes →
          parseConfig (before ++ (10 : UInt8) :: rest') = .error e) ∧
      (ValidLines (configLines text) →
        (valuesOf .listen (settings (configLines text)) = [] ∨ valuesOf .backend (settings (configLines text)) = [] →
          ∃ message, parseConfig text = .error ⟨.missing, (configLines text).length + 1, true, message⟩) ∧
        (valuesOf .listen (settings (configLines text)) ≠ [] → valuesOf .backend (settings (configLines text)) ≠ [] →
          ∃ config, parseConfig text = .ok config)) ∧
      ∀ config, parseConfig text = .ok config →
        Means (settings (configLines text)) config ∧ valuesOf .listen (settings (configLines text)) ≠ [] ∧
          1 ≤ config.backends.length ∧ config.backends.length ≤ 256 ∧ config.backends.Nodup ∧
          ∀ rows, Rearranges rows (configLines text) → (rowsText rows).length ≤ kMaxConfigBytes →
            parseConfig (rowsText rows) = .ok config := by
  refine ⟨fun n => ⟨?_, fun hfirst => ?_⟩, ?_, fun hvalid => ?_, fun config hparse => ?_⟩
  · rintro ⟨kind, message, hparse⟩
    rcases parseConfig_spec hsize with ⟨e, he, -, hfirst⟩ | ⟨-, c, -, hspec⟩
    · rw [he] at hparse
      rwa [Except.error.inj hparse] at hfirst
    · rw [hspec] at hparse
      split at hparse
      · cases hparse
      · cases hparse
  · rcases parseConfig_spec hsize with ⟨⟨kind, line, eof, message⟩, he, heof, hfirst'⟩ | ⟨hvalid, -⟩
    · dsimp only at heof hfirst'
      refine ⟨kind, message, ?_⟩
      rw [he, heof, hfirst.unique hfirst']
    · exact absurd hvalid hfirst.not_validLines
  · rintro before rest rest' e rfl hparse heof hline hsize'
    exact parseConfig_prefix hsize' hparse heof hline
  · rcases parseConfig_spec hsize with ⟨e, -, -, hfirst⟩ | ⟨-, c, -, hspec⟩
    · exact absurd hvalid hfirst.not_validLines
    · refine ⟨fun hmissing => ⟨_, by rw [hspec, if_pos hmissing]⟩, fun hlisten hbackend => ⟨c, ?_⟩⟩
      rw [hspec, if_neg (by simp [hlisten, hbackend])]
  · obtain ⟨-, hmeans, hlisten, hbackend⟩ := (parseConfig_ok_iff hsize).mp hparse
    have hlength := hmeans.backends.length_eq
    have hpos := List.length_pos_iff.mpr hbackend
    refine ⟨hmeans, hlisten, by omega, hlength ▸ hmeans.few, ?_, fun rows hrows hrowsize =>
      parseConfig_rearranged hparse hrows hrowsize⟩
    exact (List.rel_nodup (biUnique_endpointText true) hmeans.backends).mp hmeans.distinct

/-- A listener and a backend, and a third line that is not read. -/
theorem config_grammar_small :
    let text := literal "listen=127.0.0.1:80\nbackend=10.0.0.1:8080\n#\r"
    (∃ kind message, parseConfig text = .error ⟨kind, 3, false, message⟩) ∧ FirstInvalid (configLines text) 3 := by
  intro text
  have h := @config_grammar text (by decide +kernel)
  have hparse : ∃ kind message, parseConfig text = .error ⟨kind, 3, false, message⟩ :=
    ⟨.syntaxError, "不允许 NUL、BOM 或孤立 CR", by decide +kernel⟩
  exact ⟨hparse, (h.1 3).mp hparse⟩

end L4lb
