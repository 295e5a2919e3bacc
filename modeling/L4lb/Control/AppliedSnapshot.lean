import L4lb.Control.ControlLoop

/-!
# What was applied is what is published

What holds of the history of any run of the control loop, of its snapshots: at the head of
the loop, after a failure, and in what is printed.
-/

namespace L4lb.Control

open Effect Effect.Prog Health Text Xdp

/-- Nothing is recorded after what was thrown again. -/
theorem Legal.rethrown {log before : List ServiceEvent} {view : ServiceView} (h : Legal log)
    (hs : .rethrown view :: before <:+ log) : log = .rethrown view :: before := by
  obtain ⟨after, rfl⟩ := hs
  cases after with
  | nil => rfl
  | cons event after =>
    have ha := h event (after ++ .rethrown view :: before) List.suffix_rfl
    exact absurd (List.mem_append_right _ List.mem_cons_self) (ha.1 view)

end L4lb.Control
