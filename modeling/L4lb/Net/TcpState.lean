import L4lb.Data.Circular
import L4lb.Net.Shared

/-!
# Buffers, deadlines and tokens of the TCP reactor

`TcpState.h`. A `TcpPendingBuffer` is a queue kept in a circular array; what it throws is
`none` here. Its `content` says what it is for: writing appends to the content
(`content_commit`), consuming takes from its front (`content_consume`), and the bytes at
`data` are its front (`data_eq_take`).
-/

namespace L4lb.Net

open Circular

/-- `kBufferLimit`. -/
def kBufferLimit : ℕ := 64 * 1024

/-- `kLowWater`. -/
def kLowWater : ℕ := 32 * 1024

theorem kBufferLimit_pos : 0 < kBufferLimit := by decide

theorem kBufferLimit_nonneg : 0 ≤ kBufferLimit := by decide

/-- One of the two ends of a session. -/
inductive Side where
  /-- `0`. -/
  | client
  /-- `1`. -/
  | backend
  deriving DecidableEq, Repr

namespace Side

/-- `1 - side`. -/
def other : Side → Side
  | client => backend
  | backend => client

@[simp] theorem other_other (side : Side) : side.other.other = side := by cases side <;> rfl

theorem other_ne (side : Side) : side.other ≠ side := by cases side <;> decide

theorem eq_or_eq_other (side source : Side) : side = source ∨ side = source.other := by
  cases side <;> cases source <;> decide

end Side

/-! ### Buffers -/

/-- `TcpPendingBuffer`. -/
structure TcpPendingBuffer where
  /-- `bytes_`, of which `kBufferLimit` are used. -/
  bytes : ℕ → UInt8 := fun _ => 0
  /-- `readOffset_`. -/
  readOffset : ℕ := 0
  /-- `size_`. -/
  size : ℕ := 0
  /-- It starts in the array. -/
  readOffset_lt : readOffset < kBufferLimit := by decide
  /-- It fits the array. -/
  size_le : size ≤ kBufferLimit := by decide

namespace TcpPendingBuffer

/-- A buffer that is new. -/
def empty : TcpPendingBuffer where
  readOffset_lt := kBufferLimit_pos
  size_le := kBufferLimit_nonneg

variable (buffer : TcpPendingBuffer)

/-- `room`. -/
def room : ℕ := kBufferLimit - buffer.size

/-- `writeOffset`. -/
def writeOffset : ℕ := (buffer.readOffset + buffer.size) % kBufferLimit

/-- `readableBytes`. -/
def readableBytes : ℕ := min buffer.size (kBufferLimit - buffer.readOffset)

/-- `writableBytes`. -/
def writableBytes : ℕ := min buffer.room (kBufferLimit - buffer.writeOffset)

/-- So many bytes at `data`. -/
def data (size : ℕ) : Bytes := stretch buffer.bytes buffer.readOffset size

/-- What is put at `writable`. -/
def write (bytes : Bytes) : TcpPendingBuffer :=
  { buffer with bytes := store buffer.bytes buffer.writeOffset bytes }

/-- `commitWrittenBytes`. -/
def commitWrittenBytes (writtenBytes : ℕ) : Option TcpPendingBuffer :=
  if h : writtenBytes > buffer.writableBytes then none
  else some { buffer with
    size := buffer.size + writtenBytes
    size_le := by
      have := buffer.size_le
      simp only [writableBytes, room] at h
      omega }

/-- `consumeReadableBytes`. -/
def consumeReadableBytes (consumedBytes : ℕ) : Option TcpPendingBuffer :=
  if consumedBytes > buffer.size then none
  else some { buffer with
    readOffset :=
      if buffer.size - consumedBytes = 0 then 0 else (buffer.readOffset + consumedBytes) % kBufferLimit
    size := buffer.size - consumedBytes
    readOffset_lt := by
      split
      · exact kBufferLimit_pos
      · exact Nat.mod_lt _ kBufferLimit_pos
    size_le := (Nat.sub_le _ _).trans buffer.size_le }

/-- What is queued, first byte first. -/
def content : Bytes := window kBufferLimit buffer.bytes buffer.readOffset buffer.size

variable {buffer}

@[simp] theorem length_content : buffer.content.length = buffer.size := length_window

@[simp] theorem content_empty : ({} : TcpPendingBuffer).content = [] := rfl

theorem content_eq_nil : buffer.content = [] ↔ buffer.size = 0 := by
  rw [← List.length_eq_zero_iff, length_content]

/-- **What is at `data` is the front of the queue.** -/
theorem data_eq_take {n : ℕ} (h : n ≤ buffer.readableBytes) : buffer.data n = buffer.content.take n := by
  have hoffset := buffer.readOffset_lt
  simp only [readableBytes, le_min_iff] at h
  rw [content, take_window h.1, window_eq_stretch (by omega), data]

/-- **What is written and committed joins the queue.** -/
theorem content_commit {bytes : Bytes} (h : bytes.length ≤ buffer.writableBytes) :
    ∃ buffer', (buffer.write bytes).commitWrittenBytes bytes.length = some buffer' ∧
      buffer'.content = buffer.content ++ bytes := by
  have hlimit : ¬ bytes.length > (buffer.write bytes).writableBytes := not_lt.mpr h
  have hwrite := Nat.mod_lt (buffer.readOffset + buffer.size) kBufferLimit_pos
  have hsize := buffer.size_le
  simp only [writableBytes, room, writeOffset, le_min_iff] at h
  refine ⟨_, dif_neg hlimit, ?_⟩
  exact window_store_append buffer.readOffset_lt (by omega) (by omega)

/-- **What is consumed leaves the front of the queue.** -/
theorem content_consume {n : ℕ} (h : n ≤ buffer.size) :
    ∃ buffer', buffer.consumeReadableBytes n = some buffer' ∧
      buffer'.content = buffer.content.drop n := by
  refine ⟨_, if_neg (not_lt.mpr h), ?_⟩
  rw [content, content, drop_window h]
  by_cases hempty : buffer.size - n = 0
  · simp only [hempty, window_zero]
  · simp only [if_neg hempty]

end TcpPendingBuffer

/-! ### Deadlines -/

/-- `TcpIdleDeadline`. -/
structure TcpIdleDeadline where
  /-- When bytes last went in or out. -/
  lastIoTime : Time
  deriving DecidableEq, Repr

/-- `TcpIdleDeadline::recordIoProgress`. -/
def TcpIdleDeadline.recordIoProgress (deadline : TcpIdleDeadline) (now : Time) (bytes : ℕ) :
    TcpIdleDeadline :=
  if bytes ≠ 0 then ⟨now⟩ else deadline

/-- `TcpIdleDeadline::expired`. -/
def TcpIdleDeadline.expired (deadline : TcpIdleDeadline) (now duration : Time) : Bool :=
  now - deadline.lastIoTime ≥ duration

/-! ### Tokens -/

/-- `EndpointTokens::Target`. -/
structure TokenTarget where
  /-- Whose end it is. -/
  sessionId : ℕ
  /-- Which end. -/
  side : Side
  deriving DecidableEq, Repr

/-- `EndpointTokens`. -/
structure EndpointTokens where
  /-- `nextToken_`. -/
  nextToken : ℕ := 3
  /-- `entries_`. -/
  entries : Table ℕ TokenTarget := ∅

namespace EndpointTokens

variable (tokens : EndpointTokens)

/-- `registerEndpoint`: the token, and what is registered then. -/
def registerEndpoint (sessionId : ℕ) (side : Side) : Option (ℕ × EndpointTokens) :=
  if tokens.nextToken = 2 ^ 64 - 1 then none
  else some (tokens.nextToken, {
    nextToken := tokens.nextToken + 1
    entries := Table.emplace tokens.entries tokens.nextToken ⟨sessionId, side⟩ })

/-- `findEndpoint`. -/
def findEndpoint (token : ℕ) : Option TokenTarget := tokens.entries.lookup token

/-- `unregisterEndpoint`. -/
def unregisterEndpoint (token : ℕ) : EndpointTokens :=
  { tokens with entries := tokens.entries.erase token }

/-- `size`. -/
def size : ℕ := Table.size tokens.entries

end EndpointTokens

end L4lb.Net
