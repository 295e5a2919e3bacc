import L4lb.Metrics.MetricsCollector
import L4lb.Text.Json
import Mathlib.Algebra.Order.BigOperators.Group.List

/-!
# The line of metrics

A snapshot is written as one line: a word, a JSON object, a newline. `formatMetricsSnapshot` puts
the line together by hand. Whatever the counters are, it is the object that is documented, it fits
its limit, and it says everything it is about (`metrics_line`).

## The model

* `formatMetricsSnapshot` — the line.
* `document` — the object it says, with the documented keys in their order.
* `decodeMetricsLine` — what a reader takes from a line.

## The argument

The line is the text of `document` between its word and the newline, part by part
(`formatLine_eq`); a reader of JSON undoes that text. A number has 20 digits at most.
-/

namespace L4lb.Metrics

open Text

/-- What formatting throws. -/
inductive FormatError where
  /-- `std::invalid_argument`. -/
  | invalidArgument (what : String)
  /-- `std::length_error`. -/
  | lengthError (what : String)
  deriving DecidableEq, Repr

/-- `backendHealthName`. -/
def backendHealthName : BackendHealth → Chars
  | .disabled => literal "disabled"
  | .unknown => literal "Unknown"
  | .healthy => literal "Healthy"
  | .unhealthy => literal "Unhealthy"

/-- What `appendCounterField` appends. -/
def counterField (key : String) (value : UInt64) : Chars :=
  literal ",\"" ++ literal key ++ literal "\":" ++ decimal value.toNat

/-- The name of a protocol. -/
def protocolName (protocol : Protocol) : Chars :=
  if protocol = .tcp then literal "tcp" else literal "udp"

/-- A pass of the loop over the backends. -/
def backendField (index : ℕ) (backend : BackendHealthSnapshot) : Chars :=
  (if index ≠ 0 then [char ','] else []) ++ literal "\x7b\"index\":" ++ decimal index ++ literal ",\"health\":\"" ++
    backendHealthName backend.health ++ literal "\",\"eligible\":" ++
    (if backend.eligible then literal "true" else literal "false") ++ literal "\x7d"

/-- The first `backendCount` backends. -/
def MetricsSnapshot.reported (s : MetricsSnapshot) : List BackendHealthSnapshot :=
  s.backends.toList.take s.backendCount.toNat

/-- The phases there are. -/
def phases : List Chars := [literal "ready", literal "periodic", literal "final", literal "error"]

/-- The line, whatever its length. -/
def formatLine (s : MetricsSnapshot) (phase : Chars) : Chars :=
  literal "metrics \x7b\"schema\":1,\"seq\":" ++ decimal s.seq.toNat ++ literal ",\"phase\":\"" ++ phase ++
    literal "\",\"protocol\":\"" ++ protocolName s.protocol ++ literal "\",\"uptime_ms\":" ++ decimal s.uptimeMs.toNat ++
    counterField "sessions_created_total" s.sessionsCreatedTotal ++
    counterField "sessions_closed_total" s.sessionsClosedTotal ++
    counterField "sessions_active" s.sessionsActive ++
    counterField "bytes_c2b_total" s.bytesC2bTotal ++
    counterField "bytes_b2c_total" s.bytesB2cTotal ++
    counterField "datagrams_c2b_total" s.datagramsC2bTotal ++
    counterField "datagrams_b2c_total" s.datagramsB2cTotal ++
    counterField "rejected_total" s.rejectedTotal ++
    counterField "dropped_datagrams_total" s.droppedDatagramsTotal ++
    counterField "errors_total" s.errorsTotal ++
    counterField "timeouts_total" s.timeoutsTotal ++
    (if s.counterSaturated then literal ",\"counter_saturated\":true" else literal ",\"counter_saturated\":false") ++
    literal ",\"backends\":[" ++
    (s.reported.mapIdx backendField).flatten ++
    literal "]\x7d\n"

/-- `formatMetricsSnapshot`. -/
def formatMetricsSnapshot (s : MetricsSnapshot) (phase : Chars) : Except FormatError Chars :=
  if s.backendCount > 256 ∨ phase ∉ phases then .error (.invalidArgument "invalid metrics snapshot")
  else if (formatLine s phase).length > 32768 then .error (.lengthError "metrics line too large")
  else .ok (formatLine s phase)

/-! ### The document -/

/-- A backend, as documented. -/
def backendDocument (index : ℕ) (backend : BackendHealthSnapshot) : Json :=
  .object [(literal "index", .number index), (literal "health", .string (backendHealthName backend.health)),
    (literal "eligible", .boolean backend.eligible)]

/-- The keys that are documented, in their order. -/
def documentedKeys : List Chars :=
  [literal "schema", literal "seq", literal "phase", literal "protocol", literal "uptime_ms",
    literal "sessions_created_total", literal "sessions_closed_total", literal "sessions_active",
    literal "bytes_c2b_total", literal "bytes_b2c_total", literal "datagrams_c2b_total", literal "datagrams_b2c_total",
    literal "rejected_total", literal "dropped_datagrams_total", literal "errors_total", literal "timeouts_total",
    literal "counter_saturated", literal "backends"]

/-- Their values. -/
def documentValues (s : MetricsSnapshot) (phase : Chars) : List Json :=
  [.number 1, .number s.seq.toNat, .string phase, .string (protocolName s.protocol), .number s.uptimeMs.toNat,
    .number s.sessionsCreatedTotal.toNat, .number s.sessionsClosedTotal.toNat, .number s.sessionsActive.toNat,
    .number s.bytesC2bTotal.toNat, .number s.bytesB2cTotal.toNat, .number s.datagramsC2bTotal.toNat,
    .number s.datagramsB2cTotal.toNat, .number s.rejectedTotal.toNat, .number s.droppedDatagramsTotal.toNat,
    .number s.errorsTotal.toNat, .number s.timeoutsTotal.toNat, .boolean s.counterSaturated,
    .array (s.reported.mapIdx backendDocument)]

/-- The object of a line. -/
def document (s : MetricsSnapshot) (phase : Chars) : Json := .object (documentedKeys.zip (documentValues s phase))

/-! ### The line is the text of the document -/

theorem backendField_eq (index : ℕ) (backend : BackendHealthSnapshot) :
    backendField index backend = (if index ≠ 0 then [44] else []) ++ (backendDocument index backend).render := by
  have hindex : literal "\x7b\"index\":" = 123 :: 34 :: literal "index" ++ [34, 58] := by simp only [literal_eq]; decide
  have hhealth : literal ",\"health\":\"" = 44 :: 34 :: literal "health" ++ [34, 58, 34] := by simp only [literal_eq]; decide
  have heligible : literal "\",\"eligible\":" = 34 :: 44 :: 34 :: literal "eligible" ++ [34, 58] := by
    simp only [literal_eq]; decide
  have hend : literal "\x7d" = [125] := by simp only [literal_eq]; decide
  have hcomma : char ',' = 44 := by decide
  simp [backendField, backendDocument, Json.render, Json.renderMembers, Json.renderMoreMembers, Json.quoted,
    hindex, hhealth, heligible, hend, hcomma]

theorem flatten_backendFields (backends : List BackendHealthSnapshot) (k : ℕ) (hk : k ≠ 0) :
    (backends.mapIdx fun index => backendField (index + k)).flatten =
      Json.renderMoreItems (backends.mapIdx fun index => backendDocument (index + k)) := by
  induction backends generalizing k with
  | nil => rfl
  | cons backend backends ih =>
    have hrest := ih (k + 1) (Nat.succ_ne_zero k)
    rw [List.mapIdx_cons, List.mapIdx_cons, List.flatten_cons, Json.renderMoreItems, Nat.zero_add, backendField_eq,
      if_pos hk]
    simp only [Nat.add_right_comm _ 1 k, Nat.add_assoc _ k 1, hrest, List.cons_append, List.nil_append]

/-- The loop over the backends writes them with commas between them. -/
theorem flatten_backendField (backends : List BackendHealthSnapshot) :
    (backends.mapIdx backendField).flatten = Json.renderItems (backends.mapIdx backendDocument) := by
  cases backends with
  | nil => rfl
  | cons backend backends =>
    rw [List.mapIdx_cons, List.mapIdx_cons, List.flatten_cons, Json.renderItems, backendField_eq,
      flatten_backendFields backends 1 Nat.one_ne_zero]
    rfl

theorem counterField_eq (key : String) (value : UInt64) :
    counterField key value = 44 :: (Json.quoted (literal key) ++ 58 :: Json.render (.number value.toNat)) := by
  have hcomma : literal ",\"" = [44, 34] := by simp only [literal_eq]; decide
  have hcolon : literal "\":" = [34, 58] := by simp only [literal_eq]; decide
  simp [counterField, Json.quoted, Json.render, hcomma, hcolon]

/-- **The line is a word, the text of the document and a newline.** -/
theorem formatLine_eq (s : MetricsSnapshot) (phase : Chars) :
    formatLine s phase = literal "metrics " ++ (document s phase).render ++ [char '\n'] := by
  have hone : decimal 1 = [49] := by
    rw [decimal]
    decide
  have hstart : literal "metrics \x7b\"schema\":1,\"seq\":" =
      literal "metrics " ++ 123 :: 34 :: literal "schema" ++ 34 :: 58 :: 49 :: 44 :: 34 :: literal "seq" ++ [34, 58] := by
    simp only [literal_eq]
    decide
  have hphase : literal ",\"phase\":\"" = 44 :: 34 :: literal "phase" ++ [34, 58, 34] := by simp only [literal_eq]; decide
  have hprotocol : literal "\",\"protocol\":\"" = 34 :: 44 :: 34 :: literal "protocol" ++ [34, 58, 34] := by
    simp only [literal_eq]
    decide
  have huptime : literal "\",\"uptime_ms\":" = 34 :: 44 :: 34 :: literal "uptime_ms" ++ [34, 58] := by
    simp only [literal_eq]; decide
  have hsaturated : (if s.counterSaturated then literal ",\"counter_saturated\":true"
      else literal ",\"counter_saturated\":false") =
      44 :: 34 :: literal "counter_saturated" ++ 34 :: 58 :: Json.render (.boolean s.counterSaturated) := by
    cases s.counterSaturated with
    | false =>
      simp only [Json.render, literal_eq]
      decide
    | true =>
      simp only [Json.render, literal_eq]
      decide
  have hbackends : literal ",\"backends\":[" = 44 :: 34 :: literal "backends" ++ [34, 58, 91] := by
    simp only [literal_eq]; decide
  have hend : literal "]\x7d\n" = [93, 125, char '\n'] := by simp only [literal_eq]; decide
  unfold formatLine
  simp only [hstart, hphase, hprotocol, huptime, hsaturated, hbackends, hend, flatten_backendField,
    counterField_eq, document, documentedKeys, documentValues, List.zip_cons_cons, List.zip_nil_left,
    Json.render, Json.renderMembers, Json.renderMoreMembers, Json.quoted, hone, List.append_assoc, List.cons_append,
    List.nil_append]

/-! ### What a reader takes from it -/

/-- What a line says. -/
structure MetricsReport where
  /-- The phase. -/
  phase : Chars
  /-- The protocol. -/
  protocol : Protocol
  /-- The number of the line. -/
  seq : UInt64
  /-- The time since the start, in milliseconds. -/
  uptimeMs : UInt64
  /-- The counters and the gauge, in the order of their keys. -/
  counters : List UInt64
  /-- The flag. -/
  counterSaturated : Bool
  /-- The backends. -/
  backends : List BackendHealthSnapshot
  deriving DecidableEq

/-- The counters and the gauge. -/
def MetricsSnapshot.counters (s : MetricsSnapshot) : List UInt64 :=
  [s.sessionsCreatedTotal, s.sessionsClosedTotal, s.sessionsActive, s.bytesC2bTotal, s.bytesB2cTotal,
    s.datagramsC2bTotal, s.datagramsB2cTotal, s.rejectedTotal, s.droppedDatagramsTotal, s.errorsTotal, s.timeoutsTotal]

/-- What is to be read from the line of a snapshot. -/
def MetricsSnapshot.report (s : MetricsSnapshot) (phase : Chars) : MetricsReport where
  phase
  protocol := s.protocol
  seq := s.seq
  uptimeMs := s.uptimeMs
  counters := s.counters
  counterSaturated := s.counterSaturated
  backends := s.reported

/-- The health of a name. -/
def decodeHealth (name : Chars) : Option BackendHealth :=
  [BackendHealth.disabled, .unknown, .healthy, .unhealthy].find? fun health => backendHealthName health = name

/-- The protocol of a name. -/
def decodeProtocol (name : Chars) : Option Protocol :=
  [Protocol.tcp, .udp].find? fun protocol => protocolName protocol = name

/-- A backend, at its place. -/
def decodeBackend (index : ℕ) : Json → Option BackendHealthSnapshot
  | .object [(key₁, .number place), (key₂, .string name), (key₃, .boolean eligible)] =>
    if [key₁, key₂, key₃] = [literal "index", literal "health", literal "eligible"] ∧ place = index then
      (decodeHealth name).map fun health => { health, eligible }
    else none
  | _ => none

/-- The backends, from `index` on. -/
def decodeBackends : ℕ → List Json → Option (List BackendHealthSnapshot)
  | _, [] => some []
  | index, item :: items =>
    (decodeBackend index item).bind fun backend => (decodeBackends (index + 1) items).map (backend :: ·)

/-- A 64-bit number. -/
def decodeNumber : Json → Option UInt64
  | .number n => some (UInt64.ofNat n)
  | _ => none

/-- The values of a line: those before the counters, the counters, and those after. -/
def decodeValues : List Json → Option MetricsReport
  | .number 1 :: .number seq :: .string phase :: .string name :: .number uptimeMs :: values =>
    match values.drop 11 with
    | [.boolean counterSaturated, .array items] => do
      let protocol ← decodeProtocol name
      let counters ← (values.take 11).mapM decodeNumber
      let backends ← decodeBackends 0 items
      some {
        phase, protocol, counters, counterSaturated, backends
        seq := UInt64.ofNat seq
        uptimeMs := UInt64.ofNat uptimeMs
      }
    | _ => none
  | _ => none

/-- What is read from a line: the word, an object with the documented keys, and a newline. -/
def decodeMetricsLine (line : Chars) : Option MetricsReport :=
  if (literal "metrics ").isPrefixOf line ∧ line.getLast? = some (char '\n') then
    match Json.read ((line.drop 8).dropLast) with
    | some (.object members) =>
      if members.map Prod.fst = documentedKeys then decodeValues (members.map Prod.snd) else none
    | _ => none
  else none

theorem decodeHealth_name (health : BackendHealth) : decodeHealth (backendHealthName health) = some health := by
  cases health <;> simp only [decodeHealth, backendHealthName, literal_eq] <;> decide

theorem decodeProtocol_name (protocol : Protocol) : decodeProtocol (protocolName protocol) = some protocol := by
  cases protocol <;> simp only [decodeProtocol, protocolName, literal_eq] <;> decide

theorem decodeBackend_document (index : ℕ) (backend : BackendHealthSnapshot) :
    decodeBackend index (backendDocument index backend) = some backend := by
  simp [decodeBackend, backendDocument, decodeHealth_name]

theorem decodeBackends_document (backends : List BackendHealthSnapshot) (k : ℕ) :
    decodeBackends k (backends.mapIdx fun index => backendDocument (index + k)) = some backends := by
  induction backends generalizing k with
  | nil => rfl
  | cons backend backends ih =>
    have hrest := ih (k + 1)
    rw [List.mapIdx_cons, decodeBackends, Nat.zero_add, decodeBackend_document]
    simp only [Nat.add_right_comm _ 1 k, Nat.add_assoc _ k 1, hrest, Option.bind_some, Option.map_some]

/-- The values of a document say what is to be read. -/
theorem decodeValues_document (s : MetricsSnapshot) (phase : Chars) :
    decodeValues (documentValues s phase) = some (s.report phase) := by
  have hbackends := decodeBackends_document s.reported 0
  simp only [Nat.add_zero] at hbackends
  simp [decodeValues, documentValues, decodeProtocol_name, decodeNumber, hbackends, MetricsSnapshot.report,
    MetricsSnapshot.counters]

/-! ### What the document is made of -/

theorem plain_healthName (health : BackendHealth) : Json.Plain (backendHealthName health) := by
  apply Json.plain_of_all
  cases health <;> simp only [backendHealthName, literal_eq] <;> decide

theorem plain_protocolName (protocol : Protocol) : Json.Plain (protocolName protocol) := by
  apply Json.plain_of_all
  cases protocol <;> simp only [protocolName, literal_eq] <;> decide

theorem plain_phase {phase : Chars} (h : phase ∈ phases) : Json.Plain phase :=
  (by decide +kernel : ∀ phase ∈ phases, Json.Plain phase) phase h

theorem plain_documentedKeys : ∀ key ∈ documentedKeys, Json.Plain key := by
  decide +kernel

theorem clean_backendDocument (index : ℕ) (backend : BackendHealthSnapshot) :
    (backendDocument index backend).Clean :=
  ⟨by decide +kernel, trivial, by decide +kernel, plain_healthName _, by decide +kernel, trivial, trivial⟩

theorem cleanItems_of_forall {items : List Json} (h : ∀ item ∈ items, item.Clean) : Json.CleanItems items := by
  induction items with
  | nil => trivial
  | cons item items ih => exact ⟨h item List.mem_cons_self, ih fun x hx => h x (List.mem_cons_of_mem item hx)⟩

theorem cleanMembers_zip {keys : List Chars} {values : List Json} (hkeys : ∀ key ∈ keys, Json.Plain key)
    (hvalues : ∀ value ∈ values, value.Clean) : Json.CleanMembers (keys.zip values) := by
  induction keys generalizing values with
  | nil => trivial
  | cons key keys ih =>
    cases values with
    | nil => trivial
    | cons value values =>
      exact ⟨hkeys key List.mem_cons_self, hvalues value List.mem_cons_self,
        ih (fun x hx => hkeys x (List.mem_cons_of_mem key hx)) fun x hx => hvalues x (List.mem_cons_of_mem value hx)⟩

/-- No string of a document needs escapes. -/
theorem clean_document (s : MetricsSnapshot) {phase : Chars} (h : phase ∈ phases) : (document s phase).Clean := by
  refine cleanMembers_zip plain_documentedKeys ?_
  have hbackends : (Json.array (s.reported.mapIdx backendDocument)).Clean := by
    refine cleanItems_of_forall fun item hitem => ?_
    obtain ⟨index, _, rfl⟩ := List.mem_mapIdx.mp hitem
    exact clean_backendDocument index _
  simp only [documentValues, List.mem_cons, List.not_mem_nil, or_false]
  rintro value
    (rfl | rfl | rfl | rfl | rfl | rfl | rfl | rfl | rfl | rfl | rfl | rfl | rfl | rfl | rfl | rfl | rfl | rfl) <;>
    first | trivial | exact plain_phase h | exact plain_protocolName _

/-! ### Its length -/

theorem length_decimal_le {n k : ℕ} (hk : 0 < k) (h : n < 10 ^ k) : (decimal n).length ≤ k := by
  induction k generalizing n with
  | zero => exact absurd hk (lt_irrefl 0)
  | succ k ih =>
    rw [decimal]
    split
    · simp
    · have hpos : 0 < k := by
        rcases Nat.eq_zero_or_pos k with rfl | hpos
        · simp at h
          omega
        · exact hpos
      have hdiv : n / 10 < 10 ^ k := by
        rw [pow_succ] at h
        omega
      have := ih hpos hdiv
      simp only [List.length_append, List.length_singleton]
      omega

theorem length_decimal_word (value : UInt64) : (decimal value.toNat).length ≤ 20 :=
  length_decimal_le (by decide) (value.toNat_lt.trans (by decide))

/-- The counters and the gauge, with their keys. -/
def MetricsSnapshot.fields (s : MetricsSnapshot) : List (String × UInt64) :=
  [("sessions_created_total", s.sessionsCreatedTotal), ("sessions_closed_total", s.sessionsClosedTotal),
    ("sessions_active", s.sessionsActive), ("bytes_c2b_total", s.bytesC2bTotal),
    ("bytes_b2c_total", s.bytesB2cTotal), ("datagrams_c2b_total", s.datagramsC2bTotal),
    ("datagrams_b2c_total", s.datagramsB2cTotal), ("rejected_total", s.rejectedTotal),
    ("dropped_datagrams_total", s.droppedDatagramsTotal), ("errors_total", s.errorsTotal),
    ("timeouts_total", s.timeoutsTotal)]

theorem length_fieldKey (s : MetricsSnapshot) : ∀ field ∈ s.fields, (literal field.1).length ≤ 24 := by
  have hkeys : ∀ key ∈ s.fields.map Prod.fst, (literal key).length ≤ 24 := by
    show ∀ key ∈ ["sessions_created_total", "sessions_closed_total", "sessions_active", "bytes_c2b_total",
      "bytes_b2c_total", "datagrams_c2b_total", "datagrams_b2c_total", "rejected_total",
      "dropped_datagrams_total", "errors_total", "timeouts_total"],
      (literal key).length ≤ 24
    simp only [literal_eq]
    decide
  exact fun field hfield => hkeys _ (List.mem_map_of_mem hfield)

theorem length_counterField {key : String} (hkey : (literal key).length ≤ 24) (value : UInt64) :
    (counterField key value).length ≤ 48 := by
  have hvalue := length_decimal_word value
  rw [counterField_eq]
  simp only [Json.quoted, Json.render, List.length_cons, List.length_append, List.length_nil]
  omega

theorem length_backendField {index : ℕ} (hindex : index < 256) (backend : BackendHealthSnapshot) :
    (backendField index backend).length ≤ 60 := by
  have hdecimal := length_decimal_le (n := index) (k := 3) (by decide) (by omega)
  have hname : ∀ health, (backendHealthName health).length ≤ 9 := by
    intro health
    cases health <;> simp only [backendHealthName, literal_eq] <;> decide
  have hhealth := hname backend.health
  have hindexKey : (literal "\x7b\"index\":").length = 9 := by simp only [literal_eq]; decide
  have hhealthKey : (literal ",\"health\":\"").length = 11 := by simp only [literal_eq]; decide
  have heligibleKey : (literal "\",\"eligible\":").length = 13 := by simp only [literal_eq]; decide
  have hend : (literal "\x7d").length = 1 := by simp only [literal_eq]; decide
  have hcomma : (if index ≠ 0 then [char ','] else []).length ≤ 1 := by
    split <;> simp
  have heligible : (if backend.eligible then literal "true" else literal "false").length ≤ 5 := by
    cases backend.eligible <;> simp only [literal_eq] <;> decide
  simp only [backendField, List.length_append, hindexKey, hhealthKey, heligibleKey, hend]
  omega

theorem length_reported (s : MetricsSnapshot) : s.reported.length ≤ 256 := by
  simp [MetricsSnapshot.reported]

/-- The backends take 60 bytes each at most. -/
theorem length_backendFields {backends : List BackendHealthSnapshot} (h : backends.length ≤ 256) :
    (backends.mapIdx backendField).flatten.length ≤ 256 * 60 := by
  have hle : ∀ n ∈ (backends.mapIdx backendField).map List.length, n ≤ 60 := by
    intro n hn
    obtain ⟨field, hfield, rfl⟩ := List.mem_map.mp hn
    obtain ⟨index, hindex, rfl⟩ := List.mem_mapIdx.mp hfield
    exact length_backendField (hindex.trans_le h) _
  have hsum := List.sum_le_card_nsmul _ 60 hle
  rw [List.length_map, List.length_mapIdx] at hsum
  change _ ≤ backends.length * 60 at hsum
  rw [List.length_flatten]
  omega

/-- **A line fits**, whatever it says. -/
theorem length_formatLine (s : MetricsSnapshot) {phase : Chars} (h : phase ∈ phases) :
    (formatLine s phase).length ≤ 32768 := by
  have hbackends := length_backendFields (length_reported s)
  have hphase : phase.length ≤ 8 := (by decide +kernel : ∀ phase ∈ phases, phase.length ≤ 8) phase h
  have hprotocol : (protocolName s.protocol).length ≤ 3 := by
    cases s.protocol <;> simp only [protocolName, literal_eq] <;> decide
  have hseq := length_decimal_word s.seq
  have huptime := length_decimal_word s.uptimeMs
  have hsaturated : (if s.counterSaturated then literal ",\"counter_saturated\":true"
      else literal ",\"counter_saturated\":false").length ≤ 26 := by
    cases s.counterSaturated <;> simp only [literal_eq] <;> decide
  have hconstants : (literal "metrics \x7b\"schema\":1,\"seq\":").length = 26 ∧ (literal ",\"phase\":\"").length = 10 ∧
      (literal "\",\"protocol\":\"").length = 14 ∧ (literal "\",\"uptime_ms\":").length = 14 ∧
      (literal ",\"backends\":[").length = 13 ∧ (literal "]\x7d\n").length = 3 := by
    simp only [literal_eq]
    decide
  have hfields : ∀ field ∈ s.fields, (counterField field.1 field.2).length ≤ 48 := by
    intro field hfield
    exact length_counterField (length_fieldKey s field hfield) field.2
  simp only [MetricsSnapshot.fields, List.forall_mem_cons] at hfields
  obtain ⟨hcreated, hclosed, hactive, hc2b, hb2c, hdatagramsC2b, hdatagramsB2c, hrejected, hdropped, herrors,
    htimeouts, _⟩ := hfields
  unfold formatLine
  simp only [List.length_append, hconstants]
  omega

/-! ### The line -/

/-- What is read from a line is what it was made of. -/
theorem decode_formatLine (s : MetricsSnapshot) {phase : Chars} (h : phase ∈ phases) :
    decodeMetricsLine (formatLine s phase) = some (s.report phase) := by
  have hread := Json.read_render (clean_document s h)
  have hword : literal "metrics " = [109, 101, 116, 114, 105, 99, 115, 32] := by simp only [literal_eq]; decide
  have hline : formatLine s phase =
      [109, 101, 116, 114, 105, 99, 115, 32] ++ (document s phase).render ++ [char '\n'] := by
    rw [formatLine_eq, hword]
  have hstarts : (literal "metrics ").isPrefixOf (formatLine s phase) = true := by
    rw [hline, hword, List.append_assoc]
    exact List.isPrefixOf_iff_prefix.mpr (List.prefix_append _ _)
  have hends : (formatLine s phase).getLast? = some (char '\n') := by
    rw [hline, List.getLast?_concat]
  have hinner : ((formatLine s phase).drop 8).dropLast = (document s phase).render := by
    rw [hline, List.append_assoc]
    exact List.dropLast_concat
  have hkeys : (documentedKeys.zip (documentValues s phase)).map Prod.fst = documentedKeys := rfl
  have hvalues : (documentedKeys.zip (documentValues s phase)).map Prod.snd = documentValues s phase := rfl
  rw [decodeMetricsLine, if_pos ⟨hstarts, hends⟩, hinner, hread, document]
  show (if _ then _ else _) = _
  rw [if_pos hkeys, hvalues, decodeValues_document]

/-- **The line of metrics.** For any snapshot of at most 256 backends and any phase there is, formatting returns a line
of at most 32768 bytes: a word, an object, and a newline, which is the only one. The object is JSON with exactly the
documented keys in their order. What is read from the line is the report of the snapshot, so lines that are equal are
of equal reports. -/
theorem metrics_line {s : MetricsSnapshot} {phase : Chars} (hcount : s.backendCount ≤ 256) (hphase : phase ∈ phases) :
    ∃ line, formatMetricsSnapshot s phase = .ok line ∧ line.length ≤ 32768 ∧
      line = literal "metrics " ++ (document s phase).render ++ [char '\n'] ∧
      char '\n' ∉ literal "metrics " ++ (document s phase).render ∧
      Json.read (document s phase).render = some (document s phase) ∧
      (∃ members, document s phase = .object members ∧ members.map Prod.fst = documentedKeys) ∧
      decodeMetricsLine line = some (s.report phase) ∧
      ∀ s' phase', formatMetricsSnapshot s' phase' = .ok line → s'.report phase' = s.report phase := by
  have hlength := length_formatLine s hphase
  have hclean := clean_document s hphase
  refine ⟨formatLine s phase, ?_, hlength, formatLine_eq s phase, ?_, Json.read_render hclean, ⟨_, rfl, rfl⟩,
    decode_formatLine s hphase, fun s' phase' h => ?_⟩
  · rw [formatMetricsSnapshot, if_neg (not_or.mpr ⟨UInt64.not_lt.mpr hcount, not_not.mpr hphase⟩),
      if_neg (not_lt.mpr hlength)]
  · rw [List.mem_append, not_or]
    exact ⟨by simp only [literal_eq]; decide, fun hnewline => absurd (Json.printable_render _ hclean _ hnewline) (by decide)⟩
  · rw [formatMetricsSnapshot] at h
    split at h
    · cases h
    · rename_i hvalid
      split at h
      · cases h
      · have hdecode := decode_formatLine s' (not_not.mp (not_or.mp hvalid).2)
        rw [Except.ok.inj h, decode_formatLine s hphase] at hdecode
        exact (Option.some.inj hdecode).symm

/-- The longest line there can be. -/
theorem metrics_line_longest :
    let s : MetricsSnapshot := {
      seq := counterMax
      uptimeMs := counterMax
      counterSaturated := true
      backendCount := 256
      backends := .replicate 256 ⟨.unhealthy, false⟩
    }
    ∃ line, formatMetricsSnapshot s (literal "periodic") = .ok line ∧ line.length ≤ 32768 ∧
      line = literal "metrics " ++ (document s (literal "periodic")).render ++ [char '\n'] ∧
      char '\n' ∉ literal "metrics " ++ (document s (literal "periodic")).render ∧
      Json.read (document s (literal "periodic")).render = some (document s (literal "periodic")) ∧
      (∃ members, document s (literal "periodic") = .object members ∧ members.map Prod.fst = documentedKeys) ∧
      decodeMetricsLine line = some (s.report (literal "periodic")) ∧
      ∀ s' phase', formatMetricsSnapshot s' phase' = .ok line → s'.report phase' = s.report (literal "periodic") :=
  metrics_line (by decide) (List.mem_cons_of_mem _ List.mem_cons_self)

end L4lb.Metrics
