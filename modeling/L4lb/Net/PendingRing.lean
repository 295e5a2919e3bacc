import L4lb.Data.BoundedFifo
import L4lb.Net.TcpState

/-!
# The pending buffer as a queue

Whatever is written, committed and consumed, a `TcpPendingBuffer` does what a queue of
65536 bytes does, byte for byte and throw for throw (`pending_ring_refines_fifo`).

## The argument

The buffer is seen as the `Fifo` of its content and of what stands at `writable`. One
operation of the buffer is one step of that queue (`step_perform`): a window grows by the
stretch behind it, which is outside of it.
-/

namespace L4lb.Net

open Circular Fifo

namespace TcpPendingBuffer

variable {buffer buffer' : TcpPendingBuffer}

/-- What stands at `writable`. -/
def writable (buffer : TcpPendingBuffer) : Bytes := stretch buffer.bytes buffer.writeOffset buffer.writableBytes

/-- Bytes are put at `writable`, from `offset` on. -/
def writeAt (buffer : TcpPendingBuffer) (offset : ℕ) (bytes : Bytes) : TcpPendingBuffer :=
  { buffer with bytes := store buffer.bytes (buffer.writeOffset + offset) bytes }

@[simp] theorem length_writable : buffer.writable.length = buffer.writableBytes := length_stretch

/-- Where the two spans are. -/
structure Spans (buffer : TcpPendingBuffer) : Prop where
  /-- What is not queued is room. -/
  total : buffer.size + buffer.room = 65536
  /-- What can be read is in the array. -/
  readable_le : buffer.readOffset + buffer.readableBytes ≤ 65536
  /-- And what can be written. -/
  writable_le : buffer.writeOffset + buffer.writableBytes ≤ 65536
  /-- No byte queued stands where bytes can be written, -/
  apart : ∀ i < buffer.size, ∀ j < buffer.writableBytes, (buffer.readOffset + i) % 65536 ≠ buffer.writeOffset + j
  /-- and so none that can be read. -/
  disjoint : ∀ i < buffer.readableBytes, ∀ j < buffer.writableBytes, buffer.readOffset + i ≠ buffer.writeOffset + j
  /-- Something can be read while something is queued. -/
  readable_pos : 0 < buffer.readableBytes ↔ 0 < buffer.size
  /-- Something can be written while there is room. -/
  writable_pos : 0 < buffer.writableBytes ↔ 0 < buffer.room
  /-- What can be read is the front of the queue. -/
  front : buffer.data buffer.readableBytes = buffer.content.take buffer.readableBytes

theorem writeOffset_lt : buffer.writeOffset < kBufferLimit := Nat.mod_lt _ kBufferLimit_pos

/-- What is queued is not where bytes can be written. -/
theorem outside_writable {i : ℕ} (hi : i < buffer.size) :
    (buffer.readOffset + i) % kBufferLimit < buffer.writeOffset ∨
      buffer.writeOffset + buffer.writableBytes ≤ (buffer.readOffset + i) % kBufferLimit := by
  have hsize := buffer.size_le
  refine outside_window buffer.readOffset_lt ?_ hi
  simp only [writableBytes, room]
  omega

theorem spans (buffer : TcpPendingBuffer) : buffer.Spans := by
  have hsize := buffer.size_le
  have hread := buffer.readOffset_lt
  have hwrite : buffer.writeOffset < kBufferLimit := writeOffset_lt
  have hlimit : kBufferLimit = 65536 := rfl
  have hapart : ∀ i < buffer.size, ∀ j < buffer.writableBytes,
      (buffer.readOffset + i) % 65536 ≠ buffer.writeOffset + j := by
    intro i hi j hj
    have hout := outside_writable hi
    rw [hlimit] at hout
    omega
  refine ⟨?_, ?_, ?_, hapart, fun i hi j hj => ?_, ?_, ?_, data_eq_take le_rfl⟩
  · simp only [room]
    omega
  · simp only [readableBytes]
    omega
  · simp only [writableBytes]
    omega
  · simp only [readableBytes, lt_min_iff] at hi
    have := hapart i hi.1 j hj
    rwa [Nat.mod_eq_of_lt (by omega)] at this
  · simp only [readableBytes]
    omega
  · simp only [writableBytes]
    omega

/-- A buffer as a queue. -/
def fifo (buffer : TcpPendingBuffer) : Fifo UInt8 kBufferLimit where
  queue := buffer.content
  span := buffer.writable
  fits := by
    have hsize := buffer.size_le
    simp only [length_content, length_writable, writableBytes, room]
    omega
  opened := by
    intro h
    have hwrite : buffer.writeOffset < kBufferLimit := writeOffset_lt
    simp only [length_content] at h
    simp only [length_writable, writableBytes, room]
    omega

/-- Bytes may be put where there is room for them. -/
def Admits (buffer : TcpPendingBuffer) : Operation UInt8 → Prop
  | .place offset bytes => offset + bytes.length ≤ buffer.writableBytes
  | .commit _ => True
  | .consume _ => True

/-- What an operation does to a buffer; `none` is thrown. -/
def perform (buffer : TcpPendingBuffer) : Operation UInt8 → Option TcpPendingBuffer
  | .place offset bytes => some (buffer.writeAt offset bytes)
  | .commit writtenBytes => buffer.commitWrittenBytes writtenBytes
  | .consume consumedBytes => buffer.consumeReadableBytes consumedBytes

/-- Operations on a buffer one after the other, and what each came to. -/
inductive Uses : TcpPendingBuffer → List (Operation UInt8 × Result) → TcpPendingBuffer → Prop
  /-- There is none. -/
  | nil {buffer : TcpPendingBuffer} : Uses buffer [] buffer
  /-- One returned. -/
  | returned {buffer buffer₁ buffer' : TcpPendingBuffer} {operation : Operation UInt8}
      {operations : List (Operation UInt8 × Result)} (hadmits : buffer.Admits operation)
      (h : buffer.perform operation = some buffer₁) (rest : Uses buffer₁ operations buffer') :
      Uses buffer ((operation, .returned) :: operations) buffer'
  /-- One threw. -/
  | threw {buffer buffer' : TcpPendingBuffer} {operation : Operation UInt8}
      {operations : List (Operation UInt8 × Result)} (h : buffer.perform operation = none)
      (rest : Uses buffer operations buffer') : Uses buffer ((operation, .threw) :: operations) buffer'

theorem content_writeAt {offset : ℕ} {bytes : Bytes} (h : offset + bytes.length ≤ buffer.writableBytes) :
    (buffer.writeAt offset bytes).content = buffer.content := by
  refine window_store_of_disjoint fun k hk => ?_
  have hout : (buffer.readOffset + k) % kBufferLimit < buffer.writeOffset ∨
      buffer.writeOffset + buffer.writableBytes ≤ (buffer.readOffset + k) % kBufferLimit := outside_writable hk
  show (buffer.readOffset + k) % kBufferLimit < _ ∨ _ ≤ (buffer.readOffset + k) % kBufferLimit
  omega

theorem writable_writeAt {offset : ℕ} {bytes : Bytes} (h : offset + bytes.length ≤ buffer.writableBytes) :
    (buffer.writeAt offset bytes).writable = overwrite buffer.writable offset bytes := by
  have htake : buffer.writable.take offset = stretch buffer.bytes buffer.writeOffset offset := take_stretch (by omega)
  have hdrop : buffer.writable.drop (offset + bytes.length) =
      stretch buffer.bytes (buffer.writeOffset + (offset + bytes.length))
        (buffer.writableBytes - (offset + bytes.length)) := drop_stretch h
  rw [overwrite, htake, hdrop]
  exact stretch_store_inside h

theorem step_commit {n : ℕ} (h : n ≤ buffer.writableBytes) :
    ∃ buffer', buffer.commitWrittenBytes n = some buffer' ∧
      Step buffer.fifo (.commit n) .returned (buffer.writable.take n) [] buffer'.fifo := by
  have hsize := buffer.size_le
  have hwrite : buffer.writeOffset < kBufferLimit := writeOffset_lt
  refine ⟨_, dif_neg (not_lt.mpr h), .commit (length_writable ▸ h) ?_ fun hlt => ?_⟩
  · have hstretch : window kBufferLimit buffer.bytes buffer.writeOffset n = buffer.writable.take n := by
      rw [writable, take_stretch h]
      simp only [writableBytes] at h
      exact window_eq_stretch (by omega)
    show _ = buffer.content ++ buffer.writable.take n
    rw [← hstretch]
    exact window_add _ _
  · -- what is left of the span is behind what was committed
    have hlt : n < buffer.writableBytes := lt_of_lt_of_eq hlt length_writable
    have hoffset : (buffer.readOffset + (buffer.size + n)) % kBufferLimit = buffer.writeOffset + n := by
      simp only [writableBytes, lt_min_iff] at hlt
      rw [← Nat.add_assoc, ← Nat.mod_add_mod]
      exact Nat.mod_eq_of_lt (by simp only [writeOffset] at hlt; omega)
    show stretch buffer.bytes ((buffer.readOffset + (buffer.size + n)) % kBufferLimit)
      (min (kBufferLimit - (buffer.size + n)) (kBufferLimit - (buffer.readOffset + (buffer.size + n)) % kBufferLimit)) =
        buffer.writable.drop n
    have hlength : min (kBufferLimit - (buffer.size + n)) (kBufferLimit - (buffer.writeOffset + n)) =
        buffer.writableBytes - n := by
      simp only [writableBytes, room]
      omega
    rw [hoffset, hlength, writable, drop_stretch h]

/-- **One operation of the buffer is one of the queue.** -/
theorem step_perform {operation : Operation UInt8} (hadmits : buffer.Admits operation)
    (h : buffer.perform operation = some buffer') :
    ∃ taken given, Step buffer.fifo operation .returned taken given buffer'.fifo := by
  cases operation with
  | place offset bytes =>
    obtain rfl := Option.some.inj h
    exact ⟨[], [], .place (length_writable.symm ▸ hadmits) (content_writeAt hadmits) (writable_writeAt hadmits)⟩
  | commit n =>
    by_cases hn : n ≤ buffer.writableBytes
    · obtain ⟨buffer₁, hcommit, hstep⟩ := step_commit hn
      obtain rfl := Option.some.inj (hcommit.symm.trans h)
      exact ⟨_, _, hstep⟩
    · rw [perform, commitWrittenBytes, dif_pos (not_le.mp hn)] at h
      cases h
  | consume n =>
    by_cases hn : n ≤ buffer.size
    · obtain ⟨buffer₁, hconsume, hcontent⟩ := content_consume hn
      obtain rfl := Option.some.inj (hconsume.symm.trans h)
      exact ⟨_, _, .consume (length_content.symm ▸ hn) hcontent⟩
    · rw [perform, consumeReadableBytes, if_pos (not_le.mp hn)] at h
      cases h

/-- What the buffer throws at, the queue throws at. -/
theorem step_threw {operation : Operation UInt8} (h : buffer.perform operation = none) :
    Step buffer.fifo operation .threw [] [] buffer.fifo := by
  cases operation with
  | place offset bytes => cases h
  | commit n =>
    refine .overflow (lt_of_eq_of_lt length_writable (not_le.mp fun hn => ?_))
    obtain ⟨buffer₁, hcommit, _⟩ := step_commit hn
    rw [perform, hcommit] at h
    cases h
  | consume n =>
    refine .underflow (lt_of_eq_of_lt length_content (not_le.mp fun hn => ?_))
    obtain ⟨buffer₁, hconsume, _⟩ := content_consume hn
    rw [perform, hconsume] at h
    cases h

end TcpPendingBuffer

open TcpPendingBuffer

/-- **The pending buffer is a queue of 65536 bytes.** Whatever operations it is put through, from any state and from
an empty one, it is a run of the queue, with the same operations throwing; so from an empty one what was committed is
what was consumed and what is queued, in that order. And at every point of it the spans are where they should be. -/
theorem pending_ring_refines_fifo {buffer buffer' : TcpPendingBuffer} {operations : List (Operation UInt8 × Result)}
    (h : Uses buffer operations buffer') :
    ∃ taken given, Fifo.Run buffer.fifo operations taken given buffer'.fifo ∧
      buffer.content ++ taken = given ++ buffer'.content ∧ buffer'.Spans := by
  suffices hrun : ∃ taken given, Fifo.Run buffer.fifo operations taken given buffer'.fifo by
    obtain ⟨taken, given, hrun⟩ := hrun
    exact ⟨taken, given, hrun, hrun.conserved, buffer'.spans⟩
  induction h with
  | nil => exact ⟨[], [], .nil⟩
  | returned hadmits h _ ih =>
    obtain ⟨taken, given, hstep⟩ := step_perform hadmits h
    obtain ⟨taken', given', hrest⟩ := ih
    exact ⟨_, _, .cons hstep hrest⟩
  | threw h _ ih =>
    obtain ⟨taken', given', hrest⟩ := ih
    exact ⟨_, _, .cons (step_threw h) hrest⟩

/-- Three bytes written and two of them committed; five cannot be consumed, one can. -/
theorem pending_ring_refines_fifo_three : ∃ (buffer' : TcpPendingBuffer) (taken given : Bytes),
    Fifo.Run ({} : TcpPendingBuffer).fifo
      [(.place 0 [1, 2, 3], .returned), (.commit 2, .returned), (.consume 5, .threw), (.consume 1, .returned)]
      taken given buffer'.fifo ∧
    ({} : TcpPendingBuffer).content ++ taken = given ++ buffer'.content ∧ buffer'.Spans := by
  have hplace : ({} : TcpPendingBuffer).Admits (.place 0 [1, 2, 3]) := by
    show 0 + 3 ≤ min (kBufferLimit - 0) (kBufferLimit - (0 + 0) % kBufferLimit)
    decide
  exact ⟨_, pending_ring_refines_fifo
    (.returned hplace rfl (.returned (by trivial) rfl (.threw rfl (.returned (by trivial) rfl .nil))))⟩

end L4lb.Net
