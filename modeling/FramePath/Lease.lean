import FramePath.Envelope

/-!
# Leases on frames

A frame stays in memory as long as somebody has a lease on it. Whoever passes a frame on passes the
lease along; whoever drops it gives the lease back. `Leases` lists the marks of the frames on lease,
one entry for each lease, so `count` is the number of references that are out. A lease that is given
back without being out is counted too: that would be a frame let go of twice.
-/

namespace FramePath

/-- The leases that are out, by the marks of their frames, and how many were given back that were
not out. -/
structure Leases where
  marks : List Nat
  overdrawn : Nat
  deriving DecidableEq, Repr

namespace Leases

/-- No lease is out. -/
def none : Leases := ⟨[], 0⟩

/-- One more lease on a frame. -/
def take (frame : SharedFrame) (leases : Leases) : Leases :=
  { leases with marks := frame.mark :: leases.marks }

/-- One lease on a frame given back. -/
def release (leases : Leases) (frame : SharedFrame) : Leases :=
  if frame.mark ∈ leases.marks then { leases with marks := leases.marks.erase frame.mark }
  else { leases with overdrawn := leases.overdrawn + 1 }

/-- A lease on each of several frames given back. -/
def releaseAll (frames : List SharedFrame) (leases : Leases) : Leases :=
  frames.foldl release leases

/-- Number of leases on the frame with this mark. -/
def count (mark : Nat) (leases : Leases) : Nat := leases.marks.count mark

/-- A lease taken and given back leaves the leases as they were. -/
theorem release_take (frame : SharedFrame) (leases : Leases) :
    (leases.take frame).release frame = leases := by
  simp [take, release]

end Leases

end FramePath
