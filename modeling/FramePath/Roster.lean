/-!
# The roster of sinks

Sinks that share surfaces take one lock before they touch them. The roster counts its members: the
first one to join makes the lock, and the last one to leave takes it away, so a later first member
makes a new one. `Attendance` is a roster together with the memberships handed out.
-/

namespace FramePath

/-- A lock, told apart from every other lock of its roster by its number. -/
structure SharedLock where
  number : Nat
  deriving DecidableEq, Repr

/-- How many members there are, the lock they share, and how many locks were ever made. -/
structure Roster where
  members : Nat
  lock : Option SharedLock
  locksMade : Nat
  deriving DecidableEq, Repr

namespace Roster

/-- Nobody has joined yet. -/
def empty : Roster := ⟨0, none, 0⟩

/-- Join, and get the lock that all members share. -/
def join (roster : Roster) : SharedLock × Roster :=
  match roster.lock with
  | some lock => (lock, { roster with members := roster.members + 1 })
  | none =>
      let lock : SharedLock := ⟨roster.locksMade⟩
      (lock, ⟨roster.members + 1, some lock, roster.locksMade + 1⟩)

/-- Leave. The count does not go below zero, and at zero the lock is gone. -/
def leave (roster : Roster) : Roster :=
  let members := roster.members - 1
  { roster with members, lock := if members = 0 then none else roster.lock }

end Roster

/-- A roster, the memberships handed out in order with the lock of each one still live, and the
locks that somebody keeps for themselves. -/
structure Attendance where
  roster : Roster
  memberships : List (Option SharedLock)
  kept : List SharedLock
  deriving DecidableEq, Repr

namespace Attendance

/-- Nobody has joined yet. -/
def empty : Attendance := ⟨.empty, [], []⟩

/-- The lock of a membership, if it is live. -/
def lockOf (attendance : Attendance) (member : Nat) : Option SharedLock :=
  attendance.memberships[member]?.join

/-- Number of live memberships. -/
def liveCount (attendance : Attendance) : Nat :=
  attendance.memberships.countP Option.isSome

/-- Hand out a membership and give its place in the list. -/
def join (attendance : Attendance) : Nat × Attendance :=
  let (lock, roster) := attendance.roster.join
  (attendance.memberships.length,
    { attendance with roster, memberships := attendance.memberships ++ [some lock] })

/-- End a membership, and say whether it was live. -/
def leave (member : Nat) (attendance : Attendance) : Bool × Attendance :=
  match attendance.lockOf member with
  | none => (false, attendance)
  | some _ =>
      (true,
        { attendance with
          roster := attendance.roster.leave
          memberships := attendance.memberships.set member none })

/-- Keep the lock of a membership, and say whether it was live. -/
def keepLock (member : Nat) (attendance : Attendance) : Bool × Attendance :=
  match attendance.lockOf member with
  | none => (false, attendance)
  | some lock => (true, { attendance with kept := attendance.kept ++ [lock] })

/-- Whether two live memberships share their lock, so that holding it through one shuts the other
out. -/
def shareLock (attendance : Attendance) (a b : Nat) : Option Bool :=
  match attendance.lockOf a, attendance.lockOf b with
  | some left, some right => some (left == right)
  | _, _ => none

/-- Whether a live membership has a lock that was kept. -/
def hasKeptLock (attendance : Attendance) (member kept : Nat) : Option Bool :=
  match attendance.lockOf member, attendance.kept[kept]? with
  | some lock, some keptLock => some (lock == keptLock)
  | _, _ => none

end Attendance

end FramePath
