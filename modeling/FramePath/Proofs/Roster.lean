import FramePath.Roster

/-!
# The life of a roster's lock

Members join and leave in any order, and locks are kept, held and given back by anybody meanwhile. An `Assembly` is an
attendance with the locks that are held and a record of all locks that members were ever handed. `Assembly.Ordered`
says what every act keeps: the count is that of the live memberships, which all have the lock of the roster, and no
lock is younger than the record (`Ordered.act`). After the last member has left, a lock that is handed out is younger
than all before (`Since.act`); `lock_lifecycle` puts this together.
-/

namespace FramePath

namespace Attendance

variable {attendance : Attendance} {member : Nat} {lock : SharedLock}

/-- A live membership is one of the list. -/
theorem mem_of_lockOf (hlive : attendance.lockOf member = some lock) :
    some lock ∈ attendance.memberships :=
  List.mem_of_getElem? (Option.join_eq_some_iff.1 hlive)

/-- Where a membership is live, some are. -/
theorem liveCount_pos_of_mem (hmem : some lock ∈ attendance.memberships) : 0 < attendance.liveCount :=
  List.countP_pos_iff.2 ⟨some lock, hmem, rfl⟩

/-- One more membership is live after one has joined. -/
theorem liveCount_join (attendance : Attendance) :
    attendance.join.2.liveCount = attendance.liveCount + 1 := by
  simp [join, liveCount]

/-- A live membership that ends leaves its place and the roster. -/
theorem leave_of_live (hlive : attendance.lockOf member = some lock) :
    attendance.leave member =
      (true, ⟨attendance.roster.leave, attendance.memberships.set member none, attendance.kept⟩) := by
  simp [leave, hlive]

/-- Nothing happens when a membership ends that is over. -/
theorem leave_of_over (hover : attendance.lockOf member = none) :
    attendance.leave member = (false, attendance) := by
  simp [leave, hover]

/-- One less is live after one has left. -/
theorem liveCount_leave (hlive : attendance.lockOf member = some lock) :
    (attendance.leave member).2.liveCount + 1 = attendance.liveCount := by
  have hpositive := liveCount_pos_of_mem (mem_of_lockOf hlive)
  obtain ⟨hin, hfound⟩ := List.getElem?_eq_some_iff.1 (Option.join_eq_some_iff.1 hlive)
  have hset : (attendance.memberships.set member none).countP Option.isSome =
      attendance.liveCount - 1 := by
    rw [List.countP_set hin]
    simp [hfound, liveCount]
  rw [leave_of_live hlive]
  show (attendance.memberships.set member none).countP Option.isSome + 1 = _
  omega

end Attendance

/-- An attendance, the locks that somebody holds, and the locks that members were handed, the latest first. -/
structure Assembly where
  attendance : Attendance
  held : List SharedLock
  handedOut : List SharedLock
  deriving DecidableEq, Repr

namespace Assembly

/-- Nobody has joined yet. -/
def empty : Assembly := ⟨.empty, [], []⟩

/-- A member joins and is handed the lock. -/
def join (assembly : Assembly) : Assembly :=
  { assembly with
    attendance := assembly.attendance.join.2
    handedOut := assembly.attendance.roster.join.1 :: assembly.handedOut }

/-- Hold a lock, unless somebody does already, and say whether that was possible. -/
def hold (lock : SharedLock) (assembly : Assembly) : Bool × Assembly :=
  if lock ∈ assembly.held then (false, assembly)
  else (true, { assembly with held := lock :: assembly.held })

/-- Hold the lock of a membership. One that is not live has none. -/
def holdThrough (member : Nat) (assembly : Assembly) : Bool × Assembly :=
  match assembly.attendance.lockOf member with
  | none => (false, assembly)
  | some lock => assembly.hold lock

/-- What can happen to an assembly. -/
inductive Act where
  | join
  | leave (member : Nat)
  | keepLock (member : Nat)
  /-- Somebody who has a lock, as a member or from before, holds it if nobody does. -/
  | hold (lock : SharedLock)
  | giveBack (lock : SharedLock)
  deriving DecidableEq, Repr

/-- Do one act. -/
def act (assembly : Assembly) : Act → Assembly
  | .join => assembly.join
  | .leave member => { assembly with attendance := (assembly.attendance.leave member).2 }
  | .keepLock member => { assembly with attendance := (assembly.attendance.keepLock member).2 }
  | .hold lock => (assembly.hold lock).2
  | .giveBack lock => { assembly with held := assembly.held.erase lock }

/-- Do several acts in order. -/
def run (acts : List Act) (assembly : Assembly) : Assembly := acts.foldl act assembly

/-- Whoever asks for a lock that is held gets it through no membership. -/
theorem holdThrough_of_held {assembly : Assembly} {member : Nat} {lock : SharedLock}
    (hlive : assembly.attendance.lockOf member = some lock) (hheld : lock ∈ assembly.held) :
    assembly.holdThrough member = (false, assembly) := by
  simp [holdThrough, hlive, hold, hheld]

/-- The roster counts the live memberships and has a lock for them, which is the lock of each. All locks that anybody
has were handed out, and the roster has made them. -/
structure Ordered (assembly : Assembly) : Prop where
  members : assembly.attendance.roster.members = assembly.attendance.liveCount
  lock : assembly.attendance.roster.lock.isSome = true ↔ 0 < assembly.attendance.liveCount
  shared : ∀ lock, some lock ∈ assembly.attendance.memberships →
    assembly.attendance.roster.lock = some lock
  known : ∀ lock, assembly.attendance.roster.lock = some lock → lock ∈ assembly.handedOut
  kept : ∀ lock ∈ assembly.attendance.kept, lock ∈ assembly.handedOut
  made : ∀ lock ∈ assembly.handedOut, lock.number < assembly.attendance.roster.locksMade
  single : assembly.held.Nodup

variable {assembly : Assembly}

/-- Without members there is no lock. -/
theorem Ordered.unlocked (hordered : assembly.Ordered) (hempty : assembly.attendance.liveCount = 0) :
    assembly.attendance.roster.lock = none := by
  rw [← Option.not_isSome_iff_eq_none, hordered.lock]
  omega

/-- Who joins gets the lock of the others, or a new one if there are no others. -/
theorem Ordered.join (hordered : assembly.Ordered) : assembly.join.Ordered := by
  have hlive : assembly.join.attendance.liveCount = assembly.attendance.liveCount + 1 :=
    assembly.attendance.liveCount_join
  have hmembers := hordered.members
  obtain ⟨⟨⟨members, lock, locksMade⟩, memberships, kept⟩, held, handedOut⟩ := assembly
  cases lock with
  | some lock =>
    refine ⟨?_, iff_of_true rfl (by omega), ?_, ?_, ?_, ?_, hordered.single⟩
    · exact (congrArg (· + 1) hmembers).trans hlive.symm
    · intro other hmem
      rcases List.mem_append.1 hmem with hbefore | hnew
      · exact hordered.shared other hbefore
      · cases List.mem_singleton.1 hnew
        rfl
    · rintro _ ⟨⟩
      exact List.mem_cons_self ..
    · exact fun other hmem => List.mem_cons_of_mem _ (hordered.kept other hmem)
    · intro other hmem
      rcases List.mem_cons.1 hmem with rfl | hbefore
      · exact hordered.made _ (hordered.known _ rfl)
      · exact hordered.made other hbefore
  | none =>
    refine ⟨?_, iff_of_true rfl (by omega), ?_, ?_, ?_, ?_, hordered.single⟩
    · exact (congrArg (· + 1) hmembers).trans hlive.symm
    · intro other hmem
      rcases List.mem_append.1 hmem with hbefore | hnew
      · -- A membership that was live before shows that there was a lock.
        exact nomatch hordered.shared other hbefore
      · cases List.mem_singleton.1 hnew
        rfl
    · rintro _ ⟨⟩
      exact List.mem_cons_self ..
    · exact fun other hmem => List.mem_cons_of_mem _ (hordered.kept other hmem)
    · intro other hmem
      rcases List.mem_cons.1 hmem with rfl | hbefore
      · exact Nat.lt_succ_self _
      · exact Nat.lt_succ_of_lt (hordered.made other hbefore)

/-- The last one to leave takes the lock away; anybody else leaves it to the others. -/
theorem Ordered.leave (hordered : assembly.Ordered) (member : Nat) :
    (assembly.act (.leave member)).Ordered := by
  cases hlive : assembly.attendance.lockOf member with
  | none =>
    have hsame : assembly.act (.leave member) = assembly := by
      simp only [act, Attendance.leave_of_over hlive]
    rwa [hsame]
  | some lock =>
    have hcount := Attendance.liveCount_leave hlive
    have hmembers := hordered.members
    have hlock := hordered.shared lock (Attendance.mem_of_lockOf hlive)
    simp only [act, Attendance.leave_of_live hlive] at hcount ⊢
    obtain ⟨⟨⟨members, _, locksMade⟩, memberships, kept⟩, held, handedOut⟩ := assembly
    obtain rfl : _ = some lock := hlock
    generalize hremaining : (Attendance.mk (Roster.leave ⟨members, some lock, locksMade⟩)
      (memberships.set member none) kept).liveCount = remaining at hcount
    have hleft : members - 1 = remaining := by
      dsimp only at hmembers hcount
      omega
    have hroster : Roster.leave ⟨members, some lock, locksMade⟩ =
        ⟨remaining, if remaining = 0 then none else some lock, locksMade⟩ := by
      rw [← hleft]
      rfl
    refine ⟨?_, ?_, ?_, ?_, hordered.kept, hordered.made, hordered.single⟩
    · exact hleft.trans hremaining.symm
    · show (Roster.leave _).lock.isSome = true ↔ 0 < Attendance.liveCount _
      rw [hremaining, hroster, Nat.pos_iff_ne_zero]
      by_cases hzero : remaining = 0 <;> simp [hzero]
    · intro other hmem
      have hpositive := Attendance.liveCount_pos_of_mem hmem
      rw [hremaining] at hpositive
      show (Roster.leave _).lock = _
      rw [hroster]
      dsimp only
      rw [if_neg (Nat.ne_of_gt hpositive)]
      rcases List.mem_or_eq_of_mem_set hmem with hbefore | hnone
      · exact hordered.shared other hbefore
      · cases hnone
    · intro other hother
      replace hother : (Roster.leave _).lock = some other := hother
      rw [hroster] at hother
      obtain ⟨-, hsame⟩ := Option.ite_none_left_eq_some.1 hother
      exact hordered.known other hsame

/-- Who keeps the lock of a live membership keeps one that was handed out. -/
theorem Ordered.keepLock (hordered : assembly.Ordered) (member : Nat) :
    (assembly.act (.keepLock member)).Ordered := by
  cases hlive : assembly.attendance.lockOf member with
  | none =>
    have hsame : assembly.act (.keepLock member) = assembly := by
      simp only [act, Attendance.keepLock, hlive]
    rwa [hsame]
  | some lock =>
    have hshared := hordered.shared lock (Attendance.mem_of_lockOf hlive)
    simp only [act, Attendance.keepLock, hlive]
    refine ⟨hordered.members, hordered.lock, hordered.shared, hordered.known, ?_, hordered.made,
      hordered.single⟩
    intro other hmem
    rcases List.mem_append.1 hmem with hbefore | hnew
    · exact hordered.kept other hbefore
    · cases List.mem_singleton.1 hnew
      exact hordered.known lock hshared

/-- Nobody gets a lock while somebody holds it. -/
theorem nodup_hold (hsingle : assembly.held.Nodup) (lock : SharedLock) :
    (assembly.hold lock).2.held.Nodup := by
  unfold hold
  split
  · exact hsingle
  · rename_i hfree
    exact List.nodup_cons.2 ⟨hfree, hsingle⟩

/-- Every act keeps the order of an assembly. -/
theorem Ordered.act (hordered : assembly.Ordered) (act : Act) : (assembly.act act).Ordered := by
  cases act with
  | join => exact hordered.join
  | leave member => exact hordered.leave member
  | keepLock member => exact hordered.keepLock member
  | hold lock =>
    have hattendance : (assembly.hold lock).2.attendance = assembly.attendance ∧
        (assembly.hold lock).2.handedOut = assembly.handedOut := by
      unfold hold
      split <;> exact ⟨rfl, rfl⟩
    obtain ⟨members, hasLock, shared, known, kept, made, single⟩ := hordered
    refine ⟨?_, ?_, ?_, ?_, ?_, ?_, nodup_hold single lock⟩ <;>
      (simp only [Assembly.act, hattendance]; assumption)
  | giveBack lock =>
    obtain ⟨members, hasLock, shared, known, kept, made, single⟩ := hordered
    exact ⟨members, hasLock, shared, known, kept, made, single.erase lock⟩

/-- An assembly is in order in every reachable state. -/
theorem ordered_run (acts : List Act) : (empty.run acts).Ordered := by
  have hempty : Ordered empty :=
    ⟨rfl, by decide, nofun, nofun, nofun, nofun, List.nodup_nil⟩
  suffices hgeneral : ∀ assembly : Assembly, assembly.Ordered → (assembly.run acts).Ordered from
    hgeneral empty hempty
  induction acts with
  | nil => exact fun _ hordered => hordered
  | cons act acts ih => exact fun assembly hordered => ih _ (hordered.act act)

/-- After a moment at which `before` had been handed out and nobody was a member, the locks that were handed out since
are not among the `made` ones that there were at that moment, and neither is the lock of the roster. -/
structure Since (before : List SharedLock) (made : Nat) (assembly : Assembly) : Prop where
  handedOut : ∃ fresh, assembly.handedOut = fresh ++ before ∧ ∀ lock ∈ fresh, made ≤ lock.number
  lock : ∀ lock, assembly.attendance.roster.lock = some lock → made ≤ lock.number
  later : made ≤ assembly.attendance.roster.locksMade

/-- At the moment itself nothing has been handed out since. -/
theorem Ordered.since (hordered : assembly.Ordered) (hempty : assembly.attendance.liveCount = 0) :
    assembly.Since assembly.handedOut assembly.attendance.roster.locksMade where
  handedOut := ⟨[], rfl, nofun⟩
  lock lock hlock := by
    rw [hordered.unlocked hempty] at hlock
    cases hlock
  later := Nat.le_refl _

/-- What changes neither the roster nor what was handed out is nothing new. -/
theorem Since.of_same {before : List SharedLock} {made : Nat} (hsince : assembly.Since before made)
    {after : Assembly} (hroster : after.attendance.roster = assembly.attendance.roster)
    (hhandedOut : after.handedOut = assembly.handedOut) : after.Since before made where
  handedOut := by
    rw [hhandedOut]
    exact hsince.handedOut
  lock := by
    rw [hroster]
    exact hsince.lock
  later := by
    rw [hroster]
    exact hsince.later

/-- A lock that is handed out after that moment is of after that moment. -/
theorem Since.act {before : List SharedLock} {made : Nat} (hsince : assembly.Since before made)
    (act : Act) : (assembly.act act).Since before made := by
  cases act with
  | join =>
    obtain ⟨⟨fresh, hhandedOut, hfresh⟩, hlock, hlater⟩ := hsince
    obtain ⟨⟨⟨members, lock, locksMade⟩, memberships, kept⟩, held, handedOut⟩ := assembly
    obtain rfl : handedOut = fresh ++ before := hhandedOut
    cases lock with
    | some lock =>
      have hnumber : made ≤ lock.number := hlock lock rfl
      refine ⟨⟨lock :: fresh, rfl, ?_⟩, hlock, hlater⟩
      intro other hmem
      rcases List.mem_cons.1 hmem with rfl | hmem
      · exact hnumber
      · exact hfresh other hmem
    | none =>
      refine ⟨⟨⟨locksMade⟩ :: fresh, rfl, ?_⟩, ?_, Nat.le_succ_of_le hlater⟩
      · intro other hmem
        rcases List.mem_cons.1 hmem with rfl | hmem
        · exact hlater
        · exact hfresh other hmem
      · rintro _ ⟨⟩
        exact hlater
  | leave member =>
    cases hlive : assembly.attendance.lockOf member with
    | none => exact hsince.of_same (by simp only [Assembly.act, Attendance.leave_of_over hlive]) rfl
    | some lock =>
      obtain ⟨hhandedOut, hlock, hlater⟩ := hsince
      simp only [Assembly.act, Attendance.leave_of_live hlive]
      refine ⟨hhandedOut, ?_, hlater⟩
      intro other hother
      obtain ⟨-, hsame⟩ := Option.ite_none_left_eq_some.1 hother
      exact hlock other hsame
  | keepLock member =>
    refine hsince.of_same ?_ rfl
    simp only [Assembly.act, Attendance.keepLock]
    split <;> rfl
  | hold lock =>
    simp only [Assembly.act, hold]
    split
    · exact hsince
    · exact hsince.of_same rfl rfl
  | giveBack lock => exact hsince.of_same rfl rfl

/-- So it is after any further acts. -/
theorem Since.run {before : List SharedLock} {made : Nat} (hsince : assembly.Since before made)
    (acts : List Act) : (assembly.run acts).Since before made := by
  induction acts generalizing assembly with
  | nil => exact hsince
  | cons act acts ih => exact ih (hsince.act act)

/-- After any acts in any order, the roster counts the live memberships, and whenever one of them ends the count goes
down by one. A lock is there if and only if a membership is live, and every live membership has that lock: any two
share it, and while somebody holds it nobody gets it through any of them. No lock is held twice. Once no membership is
live, every lock that is ever handed out afterwards is another than all that were handed out before, among which are
those that are still kept. -/
theorem lock_lifecycle (acts : List Act) :
    let assembly := empty.run acts
    let attendance := assembly.attendance
    attendance.roster.members = attendance.liveCount ∧
    (∀ member, (attendance.leave member).1 = true →
      (attendance.leave member).2.roster.members + 1 = attendance.roster.members) ∧
    (attendance.roster.lock.isSome = true ↔ 0 < attendance.liveCount) ∧
    (∀ member lock, attendance.lockOf member = some lock → attendance.roster.lock = some lock) ∧
    (∀ a b, (attendance.lockOf a).isSome = true → (attendance.lockOf b).isSome = true →
      attendance.shareLock a b = some true ∧
        (∀ lock, attendance.lockOf a = some lock → lock ∈ assembly.held →
          assembly.holdThrough b = (false, assembly))) ∧
    assembly.held.Nodup ∧
    (∀ lock ∈ attendance.kept, lock ∈ assembly.handedOut) ∧
    (attendance.liveCount = 0 → ∀ more, ∃ fresh,
      (assembly.run more).handedOut = fresh ++ assembly.handedOut ∧
        ∀ lock ∈ fresh, lock ∉ assembly.handedOut) := by
  have hordered := ordered_run acts
  dsimp only
  generalize empty.run acts = assembly at hordered ⊢
  have hlock : ∀ member lock, assembly.attendance.lockOf member = some lock →
      assembly.attendance.roster.lock = some lock := fun member lock hlive =>
    hordered.shared lock (Attendance.mem_of_lockOf hlive)
  refine ⟨hordered.members, ?_, hordered.lock, hlock, ?_, hordered.single, hordered.kept, ?_⟩
  · intro member hleft
    cases hlive : assembly.attendance.lockOf member with
    | none =>
      rw [Attendance.leave_of_over hlive] at hleft
      cases hleft
    | some lock =>
      have hcount := Attendance.liveCount_leave hlive
      have hmembers := (hordered.leave member).members
      rw [hordered.members, ← hcount]
      exact congrArg (· + 1) hmembers
  · intro a b hlivea hliveb
    obtain ⟨lock, hlivea⟩ := Option.isSome_iff_exists.1 hlivea
    obtain ⟨other, hliveb⟩ := Option.isSome_iff_exists.1 hliveb
    obtain rfl : lock = other := Option.some.inj ((hlock a lock hlivea).symm.trans (hlock b other hliveb))
    refine ⟨by simp [Attendance.shareLock, hlivea, hliveb], ?_⟩
    intro other hsame hheld
    obtain rfl : lock = other := Option.some.inj (hlivea.symm.trans hsame)
    exact holdThrough_of_held hliveb hheld
  · intro hempty more
    obtain ⟨fresh, hhandedOut, hfresh⟩ := ((hordered.since hempty).run more).handedOut
    refine ⟨fresh, hhandedOut, fun lock hmem hbefore => ?_⟩
    exact absurd (hordered.made lock hbefore) (Nat.not_lt.2 (hfresh lock hmem))

/-- Two members share a lock that one of them holds; when both have left and somebody joins, the lock is another. -/
theorem lock_lifecycle_two :
    let shared := empty.run [.join, .join, .keepLock 0, .hold ⟨0⟩]
    let left := shared.run [.leave 0, .leave 1]
    shared.holdThrough 1 = (false, shared) ∧ left.attendance.kept = [⟨0⟩] ∧
      (left.run [.join]).attendance.lockOf 2 = some ⟨1⟩ ∧
      ∃ fresh, (left.run [.join]).handedOut = fresh ++ left.handedOut ∧
        ∀ lock ∈ fresh, lock ∉ left.handedOut := by
  obtain ⟨-, -, -, -, hshared, -⟩ := lock_lifecycle [.join, .join, .keepLock 0, .hold ⟨0⟩]
  obtain ⟨-, -, -, -, -, -, -, hfresh⟩ :=
    lock_lifecycle [.join, .join, .keepLock 0, .hold ⟨0⟩, .leave 0, .leave 1]
  exact ⟨(hshared 0 1 rfl rfl).2 ⟨0⟩ rfl (by decide), by decide, by decide, hfresh (by decide) [.join]⟩

end Assembly

end FramePath
