import L4lb.Xdp.PacketProgram

/-!
# What the packet programs ask for

The parts of the packet programs that ask for their frame alone, and so for nothing that is
counted, redirected or configured.
-/

namespace L4lb.Xdp

open Effect

/-- A call that only looks at the frame. -/
def XdpCall.OfFrame : XdpCall → Prop
  | .frameLength | .load _ => True
  | _ => False

variable {P : XdpCall → Prop}

section OfFrame

variable (hP : ∀ c : XdpCall, c.OfFrame → P c)
include hP

theorem uses_ofFrame {c : XdpCall} (h : c.OfFrame) : (ask c).Uses P := Tree.uses_ask (hP c h)

theorem uses_loadWord (offset : ℕ) : (loadWord offset).Uses P :=
  (uses_ofFrame hP (c := .load offset) trivial).bind fun _ =>
    (uses_ofFrame hP (c := .load (offset + 1)) trivial).bind fun _ => trivial

theorem uses_loadBytes (offset n : ℕ) : (loadBytes offset n).Uses P := by
  refine Tree.uses_foldlM (fun value i => ?_) _ _
  exact (uses_ofFrame hP (c := .load (offset + i)) trivial).bind fun _ => trivial

theorem uses_sumHeader : sumHeader.Uses P := by
  refine Tree.uses_foldlM (fun checksum i => ?_) _ _
  exact (uses_loadWord hP _).bind fun _ => trivial

theorem uses_unsupportedFrame : unsupportedFrame.Uses P := by
  unfold unsupportedFrame
  refine (uses_ofFrame hP (c := .frameLength) trivial).bind fun length => Tree.Uses.ite trivial ?_
  refine Tree.Uses.bind (Tree.uses_anyOf fun test htest => ?_) fun b => Tree.Uses.ite trivial ?_
  · simp only [List.mem_cons, List.not_mem_nil, or_false] at htest
    rcases htest with rfl | rfl | rfl | rfl | rfl | rfl <;>
      exact Tree.Uses.map _ (uses_ofFrame hP trivial)
  · refine (uses_loadWord hP _).bind fun _ => (uses_loadWord hP _).bind fun _ => ?_
    exact Tree.Uses.ite trivial ((uses_sumHeader hP).bind fun _ => trivial)

theorem uses_hashFlow : hashFlow.Uses P := by
  unfold hashFlow
  refine Tree.Uses.bind (Tree.uses_foldlM (fun hash i => ?_) _ _) fun _ => trivial
  exact (uses_ofFrame hP (c := .load (26 + i)) trivial).bind fun _ => trivial

theorem uses_otherDestination {address : XdpProgram UInt32} {port : XdpProgram UInt16} (ha : address.Uses P)
    (hp : port.Uses P) : (otherDestination address port).Uses P := by
  unfold otherDestination
  refine (uses_loadBytes hP _ _).bind fun _ => (uses_loadBytes hP _ _).bind fun _ => ?_
  refine Tree.uses_anyOf fun test htest => ?_
  simp only [List.mem_cons, List.not_mem_nil, or_false] at htest
  rcases htest with rfl | rfl
  · exact ha.map _
  · exact hp.map _

end OfFrame

theorem uses_invalidMac {bytes : Fin 6 → XdpProgram UInt8} (h : ∀ i, (bytes i).Uses P) :
    (invalidMac bytes).Uses P := by
  unfold invalidMac
  refine (h 0).bind fun _ => Tree.Uses.ite trivial ?_
  refine Tree.Uses.bind (Tree.uses_foldlM (fun bits i => ?_) _ _) fun _ => trivial
  exact (h i).bind fun _ => trivial

end L4lb.Xdp
