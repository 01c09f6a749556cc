import FramePath.Lease

/-!
# Leases that account for frames

`Leases.Backs frames` says that the leases that are out are exactly one for each entry of a list of frames, and
that none was ever given back twice. Taking a lease and giving one back keep it, with the list changed
accordingly, so a list of all places where frames are kept is carried through every step.
-/

namespace FramePath

namespace Leases

variable {leases : Leases} {frame : SharedFrame} {frames others : List SharedFrame}

/-- There is one lease out for each entry of the list, and none was given back that was not out. -/
structure Backs (leases : Leases) (frames : List SharedFrame) : Prop where
  marks_perm : leases.marks.Perm (frames.map SharedFrame.mark)
  overdrawn_eq : leases.overdrawn = 0

/-- No leases account for no frames. -/
theorem backs_none : none.Backs [] := ⟨.nil, rfl⟩

/-- The order of the list does not matter. -/
theorem Backs.perm (hbacks : leases.Backs frames) (hperm : frames.Perm others) :
    leases.Backs others :=
  ⟨hbacks.marks_perm.trans (hperm.map _), hbacks.overdrawn_eq⟩

/-- A lease taken adds its frame. -/
theorem Backs.take (hbacks : leases.Backs frames) (frame : SharedFrame) :
    (leases.take frame).Backs (frame :: frames) :=
  ⟨hbacks.marks_perm.cons _, hbacks.overdrawn_eq⟩

/-- A lease given back takes its frame away. -/
theorem Backs.release (hbacks : leases.Backs (frame :: frames)) :
    (leases.release frame).Backs frames := by
  have hout : frame.mark ∈ leases.marks := hbacks.marks_perm.mem_iff.2 (List.mem_cons_self ..)
  unfold Leases.release
  rw [if_pos hout]
  refine ⟨?_, hbacks.overdrawn_eq⟩
  have hperm := hbacks.marks_perm.erase frame.mark
  rwa [List.map_cons, List.erase_cons_head] at hperm

/-- Leases given back take their frames away. -/
theorem Backs.releaseAll (hbacks : leases.Backs (others ++ frames)) :
    (leases.releaseAll others).Backs frames := by
  induction others generalizing leases with
  | nil => exact hbacks
  | cons other others ih => exact ih hbacks.release

/-- The number of references to a frame is the number of its entries. -/
theorem Backs.count_eq (hbacks : leases.Backs frames) (mark : Nat) :
    leases.count mark = frames.countP fun frame => frame.mark == mark := by
  unfold Leases.count
  rw [hbacks.marks_perm.count_eq, List.count, List.countP_map]
  rfl

end Leases

end FramePath
