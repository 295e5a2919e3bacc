import Mathlib.Data.List.Basic
import Mathlib.Tactic.Common

/-!
# Bounded queues

A queue that holds so many items at most, written in two moves: items are put in the place
that stands open behind the queue, the *span*, and so many of them are committed to it. How
much of its room the queue opens at a time is its own affair, as long as it opens some while
there is room.

## The model

* `Fifo` — the queue, and what stands in its span.
* `Fifo.Step` — what each operation does; one that asks for too much throws, and does nothing.
* `Fifo.Run` — operations one after the other, with what went in and what came out.

## What is proved

What comes out is what went in, in that order (`Fifo.Run.conserved`).
-/

/-- A bounded queue. -/
structure Fifo (α : Type) (capacity : ℕ) where
  /-- What is queued, first in first. -/
  queue : List α
  /-- What stands in the place open to write at. -/
  span : List α
  /-- There is room for it. -/
  fits : queue.length + span.length ≤ capacity
  /-- While there is room, some of it is open. -/
  opened : queue.length < capacity → 0 < span.length

namespace Fifo

variable {α : Type} {capacity : ℕ}

/-- What is asked of a queue. -/
inductive Operation (α : Type) where
  /-- Put items in the span, from `offset` on. -/
  | place (offset : ℕ) (items : List α)
  /-- Add what stands first in the span to the queue. -/
  | commit (n : ℕ)
  /-- Take items off the queue. -/
  | consume (n : ℕ)

/-- `items` written over `span`. -/
def overwrite (span : List α) (offset : ℕ) (items : List α) : List α :=
  span.take offset ++ items ++ span.drop (offset + items.length)

/-- Whether an operation returned or threw. -/
inductive Result where
  /-- It returned. -/
  | returned
  /-- It threw. -/
  | threw
  deriving DecidableEq, Repr

/-- What an operation does; `taken` goes in, and `given` comes out. -/
inductive Step : Fifo α capacity → Operation α → Result → List α → List α → Fifo α capacity → Prop
  /-- What is put in the span is not queued. -/
  | place {fifo fifo' : Fifo α capacity} {offset : ℕ} {items : List α} (h : offset + items.length ≤ fifo.span.length)
      (hqueue : fifo'.queue = fifo.queue) (hspan : fifo'.span = overwrite fifo.span offset items) :
      Step fifo (.place offset items) .returned [] [] fifo'
  /-- What is committed joins the queue, and the span opens behind it. -/
  | commit {fifo fifo' : Fifo α capacity} {n : ℕ} (h : n ≤ fifo.span.length)
      (hqueue : fifo'.queue = fifo.queue ++ fifo.span.take n)
      (hspan : n < fifo.span.length → fifo'.span = fifo.span.drop n) :
      Step fifo (.commit n) .returned (fifo.span.take n) [] fifo'
  /-- No more can be committed than is open. -/
  | overflow {fifo : Fifo α capacity} {n : ℕ} (h : fifo.span.length < n) : Step fifo (.commit n) .threw [] [] fifo
  /-- What is consumed leaves the queue. -/
  | consume {fifo fifo' : Fifo α capacity} {n : ℕ} (h : n ≤ fifo.queue.length)
      (hqueue : fifo'.queue = fifo.queue.drop n) :
      Step fifo (.consume n) .returned [] (fifo.queue.take n) fifo'
  /-- No more can be consumed than is queued. -/
  | underflow {fifo : Fifo α capacity} {n : ℕ} (h : fifo.queue.length < n) : Step fifo (.consume n) .threw [] [] fifo

/-- Operations one after the other, what each came to, and all that went in and came out. -/
inductive Run : Fifo α capacity → List (Operation α × Result) → List α → List α → Fifo α capacity → Prop
  /-- There is none. -/
  | nil {fifo : Fifo α capacity} : Run fifo [] [] [] fifo
  /-- One, and the others after it. -/
  | cons {fifo fifo₁ fifo' : Fifo α capacity} {operation : Operation α} {result : Result}
      {operations : List (Operation α × Result)} {taken given taken' given' : List α}
      (h : Step fifo operation result taken given fifo₁) (rest : Run fifo₁ operations taken' given' fifo') :
      Run fifo ((operation, result) :: operations) (taken ++ taken') (given ++ given') fifo'

variable {fifo fifo' : Fifo α capacity} {taken given : List α}

/-- Items go in at the end and come out at the front. -/
theorem Step.conserved {operation : Operation α} {result : Result} (h : Step fifo operation result taken given fifo') :
    fifo.queue ++ taken = given ++ fifo'.queue := by
  cases h with
  | place h hqueue hspan => simp [hqueue]
  | commit h hqueue hspan => simp [hqueue]
  | overflow h => simp
  | consume h hqueue => simp [hqueue]
  | underflow h => simp

/-- **What comes out is what went in**, in that order; the rest is queued. -/
theorem Run.conserved {operations : List (Operation α × Result)} (h : Run fifo operations taken given fifo') :
    fifo.queue ++ taken = given ++ fifo'.queue := by
  induction h with
  | nil => simp
  | cons hstep _ ih => rw [← List.append_assoc, hstep.conserved, List.append_assoc, ih, List.append_assoc]

end Fifo
