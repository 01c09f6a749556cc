import FramePath.Proofs.Scene

/-!
# Who listens to which surface

The roll of a surface lists its listeners. A presenter is `Attended` if it listens to the surface bound and for the
epoch in force, as the binding remembers, and to no other surface, but for those that keep listeners from
earlier epochs against its will. The ways in which a binding ends and begins each keep this so: the listener is
dismissed, the surface is destroyed, a surface is bound before anybody listens, and a listener joins.
-/

namespace FramePath

/-- The listeners of a surface, and whether it keeps them when they ought to go. -/
structure Roll where
  listeners : List Listener
  isSticky : Bool
  deriving DecidableEq, Repr

namespace Roll

/-- One more listener. -/
def join (listener : Listener) (roll : Roll) : Roll :=
  { roll with listeners := roll.listeners ++ [listener] }

/-- A listener ought to go. -/
def dismiss (id : Nat) (roll : Roll) : Roll :=
  if roll.isSticky then roll else { roll with listeners := roll.listeners.filter (·.id != id) }

/-- All listeners ought to go. -/
def clear (roll : Roll) : Roll := if roll.isSticky then roll else { roll with listeners := [] }

/-- The listeners for one epoch of a presenter. -/
def current (owner epoch : Nat) (roll : Roll) : List Listener :=
  roll.listeners.filter fun listener => listener.owner == owner && listener.epoch == epoch

/-- A listener that is there for an epoch is one of those for it. -/
theorem mem_current {owner epoch : Nat} {roll : Roll} {listener : Listener} :
    listener ∈ roll.current owner epoch ↔
      listener ∈ roll.listeners ∧ listener.owner = owner ∧ listener.epoch = epoch := by
  simp [current]

/-- What is dismissed or cleared is no more than what was there, of a surface as sticky as before. -/
structure Thinner (after before : Roll) : Prop where
  mem : ∀ {listener}, listener ∈ after.listeners → listener ∈ before.listeners
  sticky : after.isSticky = before.isSticky

theorem thinner_dismiss (id : Nat) (roll : Roll) : (roll.dismiss id).Thinner roll := by
  unfold dismiss
  split
  · exact ⟨fun hmem => hmem, rfl⟩
  · exact ⟨fun hmem => (List.mem_filter.1 hmem).1, rfl⟩

theorem thinner_clear (roll : Roll) : roll.clear.Thinner roll := by
  unfold clear
  split
  · exact ⟨fun hmem => hmem, rfl⟩
  · exact ⟨nofun, rfl⟩

end Roll

/-- The roll of a surface. -/
def Surface.roll (surface : Surface) : Roll := ⟨surface.listeners, surface.profile.isSticky⟩

namespace Surface

theorem roll_connect (owner epoch : Nat) (surface : Surface) :
    (surface.connect owner epoch).2.roll = surface.roll.join ⟨surface.nextListener, owner, epoch⟩ := rfl

theorem roll_disconnect (id : Nat) (surface : Surface) :
    (surface.disconnect id).roll = surface.roll.dismiss id := by
  cases hsticky : surface.profile.isSticky <;>
    simp [disconnect, roll, record, Roll.dismiss, hsticky]

theorem roll_forget (surface : Surface) : surface.forget.roll = surface.roll.clear := by
  cases hsticky : surface.profile.isSticky <;> simp [forget, roll, Roll.clear, hsticky]

end Surface

namespace Scene

/-- The rolls of all surfaces. -/
def rolls (scene : Scene) : List Roll := scene.view Surface.roll

/-- The listeners of a surface are those on its roll. -/
theorem listeners_rolls (surface : Nat) (scene : Scene) :
    scene.listeners surface = (scene.rolls[surface]?.map Roll.listeners).getD [] := by
  simp only [listeners, rolls, view, List.getElem?_map]
  cases scene.surfaces[surface]? <;> rfl

@[simp] theorem rolls_record (surface : Nat) (call : SurfaceCall) (scene : Scene) :
    (scene.record surface call).rolls = scene.rolls := by
  have hrecord : ∀ surface : Surface, (surface.record call).roll = surface.roll := fun _ => rfl
  exact view_changeSurface_same hrecord surface scene

@[simp] theorem rolls_resize (surface : Nat) (size : Size) (scene : Scene) :
    (scene.resize surface size).rolls = scene.rolls :=
  view_resize (fun _ _ => rfl) surface size scene

theorem rolls_disconnect (surface id : Nat) (scene : Scene) :
    (scene.disconnect surface id).rolls = scene.rolls.modify surface (.dismiss id) :=
  view_changeSurface (Surface.roll_disconnect id) surface scene

theorem rolls_destroy (surface : Nat) (scene : Scene) :
    (scene.destroy surface).rolls = scene.rolls.modify surface .clear :=
  (view_destroy_forget Surface.roll surface scene).trans
    (view_changeSurface Surface.roll_forget surface scene)

variable {owner : Nat} {binding : Binding}

/-- Those who listen for other epochs do not end a binding. -/
theorem binding_told_others {told : List Listener} {scene : Scene}
    (hbinding : scene.binding? owner = some binding)
    (hother : ∀ listener ∈ told, listener.owner = owner → listener.epoch ≠ binding.epoch) :
    (told.foldl tellDestroyed scene).binding? owner = some binding := by
  induction told generalizing scene with
  | nil => exact hbinding
  | cons listener told ih =>
    refine ih ?_ fun later hlater => hother later (List.mem_cons_of_mem _ hlater)
    unfold tellDestroyed
    by_cases howner : listener.owner = owner
    · have hepoch := hother listener (List.mem_cons_self ..) howner
      subst howner
      rw [binding_changeBinding, hbinding]
      simp [Ne.symm hepoch]
    · rwa [binding_changeBinding_ne howner]

/-- A listener for the epoch in force ends it, and those who are told later are all for earlier epochs. -/
theorem binding_told {told : List Listener} {scene : Scene}
    (hbinding : scene.binding? owner = some binding)
    (hknown : ∀ listener ∈ told, listener.owner = owner → listener.epoch ≤ binding.epoch) :
    (told.foldl tellDestroyed scene).binding? owner = some
      (if ∃ listener ∈ told, listener.owner = owner ∧ listener.epoch = binding.epoch
        then binding.cleared else binding) := by
  induction told generalizing scene with
  | nil => simpa using hbinding
  | cons listener told ih =>
    have hlater : ∀ later ∈ told, later.owner = owner → later.epoch ≤ binding.epoch :=
      fun later hmem => hknown later (List.mem_cons_of_mem _ hmem)
    by_cases hheard : listener.owner = owner ∧ listener.epoch = binding.epoch
    · obtain ⟨rfl, hepoch⟩ := hheard
      have hcleared : (scene.tellDestroyed listener).binding? listener.owner = some binding.cleared := by
        unfold tellDestroyed
        rw [binding_changeBinding, hbinding]
        simp [hepoch]
      rw [if_pos ⟨listener, List.mem_cons_self .., rfl, hepoch⟩, List.foldl_cons]
      refine binding_told_others hcleared fun later hmem howner hsame => ?_
      have hle := hlater later hmem howner
      rw [hsame] at hle
      exact absurd hle (Nat.not_succ_le_self _)
    · have hkept : (scene.tellDestroyed listener).binding? owner = some binding := by
        have hother : ∀ other ∈ [listener], other.owner = owner → other.epoch ≠ binding.epoch := by
          intro other hmem howner hepoch
          cases List.mem_singleton.1 hmem
          exact hheard ⟨howner, hepoch⟩
        exact binding_told_others hbinding hother
      rw [List.foldl_cons, ih hkept hlater]
      simp only [List.mem_cons, exists_eq_or_imp, hheard, false_or]

/-- A destruction ends the binding for whose epoch somebody listens to the surface. No one listens for an epoch
that has not begun. -/
theorem binding_destroy {surface : Nat} {scene : Scene} (hbinding : scene.binding? owner = some binding)
    (hknown : ∀ listener ∈ scene.listeners surface, listener.owner = owner →
      listener.epoch ≤ binding.epoch) :
    (scene.destroy surface).binding? owner = some
      (if ∃ listener ∈ scene.listeners surface, listener.owner = owner ∧ listener.epoch = binding.epoch
        then binding.cleared else binding) :=
  have hforgotten : (scene.changeSurface surface Surface.forget).binding? owner = some binding := hbinding
  binding_told hforgotten hknown

end Scene

/-- A presenter's listeners are where its binding says. -/
structure Attended (owner : Nat) (rolls : List Roll) (binding : Binding) : Prop where
  known : ∀ {place : Nat} {roll : Roll} {listener : Listener}, rolls[place]? = some roll → listener ∈ roll.listeners →
    listener.owner = owner → listener.epoch ≤ binding.epoch
  past : ∀ {place : Nat} {roll : Roll} {listener : Listener}, rolls[place]? = some roll → listener ∈ roll.listeners →
    listener.owner = owner → listener.epoch < binding.epoch → roll.isSticky = true
  current : ∀ {place : Nat} {roll : Roll}, rolls[place]? = some roll → roll.current owner binding.epoch =
    if binding.surface = some place then
      (binding.listener.map (Listener.mk · owner binding.epoch)).toList
    else []

namespace Attended

variable {owner : Nat} {rolls after : List Roll} {binding other : Binding}

/-- What matters of a binding is its epoch, its surface and the id of its listener. -/
theorem congr (hattended : Attended owner rolls binding) (hepoch : other.epoch = binding.epoch)
    (hsurface : other.surface = binding.surface)
    (hlistener : binding.surface.isSome = true → other.listener = binding.listener) :
    Attended owner rolls other where
  known hroll hmem howner := by
    rw [hepoch]
    exact hattended.known hroll hmem howner
  past hroll hmem howner hless := by
    rw [hepoch] at hless
    exact hattended.past hroll hmem howner hless
  current {place roll} hroll := by
    rw [hepoch, hattended.current hroll, hsurface]
    by_cases hplace : binding.surface = some place
    · rw [hlistener (by simp [hplace])]
    · simp [hplace]

/-- A binding that ends leaves no listener, but on surfaces that keep them. -/
theorem ended (hattended : Attended owner rolls binding)
    (hthinner : ∀ {place : Nat} {roll : Roll}, after[place]? = some roll →
      ∃ before, rolls[place]? = some before ∧ roll.Thinner before)
    (hgone : ∀ {place : Nat} {roll : Roll}, after[place]? = some roll → binding.surface = some place →
      roll.isSticky = false → roll.current owner binding.epoch = [])
    (hepoch : other.epoch = binding.epoch + 1) (hnone : other.surface = none ∨ other.listener = none) :
    Attended owner after other where
  known hroll hmem howner := by
    obtain ⟨before, hbefore, hthin⟩ := hthinner hroll
    have hle := hattended.known hbefore (hthin.mem hmem) howner
    omega
  past {place roll listener} hroll hmem howner hless := by
    obtain ⟨before, hbefore, hthin⟩ := hthinner hroll
    have hle := hattended.known hbefore (hthin.mem hmem) howner
    rcases Nat.lt_or_eq_of_le hle with hearlier | hsame
    · exact hthin.sticky.trans (hattended.past hbefore (hthin.mem hmem) howner hearlier)
    · -- The listener was that of the binding, so the surface was bound.
      have hlast : listener ∈ before.current owner binding.epoch :=
        Roll.mem_current.2 ⟨hthin.mem hmem, howner, hsame⟩
      have hstill : listener ∈ roll.current owner binding.epoch :=
        Roll.mem_current.2 ⟨hmem, howner, hsame⟩
      rw [hattended.current hbefore] at hlast
      split at hlast
      · next hbound =>
        cases hsticky : roll.isSticky with
        | true => rfl
        | false =>
          rw [hgone hroll hbound hsticky] at hstill
          cases hstill
      · cases hlast
  current {place roll} hroll := by
    have hempty : roll.current owner other.epoch = [] := by
      refine List.filter_eq_nil_iff.2 fun listener hmem => ?_
      obtain ⟨before, hbefore, hthin⟩ := hthinner hroll
      have hle := hattended.known hbefore (hthin.mem hmem)
      simp only [Bool.and_eq_true, beq_iff_eq, not_and]
      intro howner
      have := hle howner
      omega
    rw [hempty]
    rcases hnone with hsurface | hlistener
    · simp [hsurface]
    · simp [hlistener]

/-- A roll that may have been changed in one place. -/
theorem getElem_modify {change : Roll → Roll} {surface place : Nat} {roll : Roll}
    (hroll : (rolls.modify surface change)[place]? = some roll) :
    ∃ before, rolls[place]? = some before ∧ roll = if surface = place then change before else before := by
  rw [List.getElem?_modify] at hroll
  obtain ⟨before, hbefore, hsame⟩ := Option.map_eq_some_iff.1 hroll
  refine ⟨before, hbefore, ?_⟩
  rw [← hsame]

/-- A roll that has grown thinner in one place is thinner there, and the same elsewhere. -/
theorem thinner_modify {change : Roll → Roll} (hchange : ∀ roll, (change roll).Thinner roll)
    {surface place : Nat} {roll : Roll} (hroll : (rolls.modify surface change)[place]? = some roll) :
    ∃ before, rolls[place]? = some before ∧ roll.Thinner before := by
  obtain ⟨before, hbefore, rfl⟩ := getElem_modify hroll
  refine ⟨before, hbefore, ?_⟩
  split
  · exact hchange before
  · exact ⟨fun hmem => hmem, rfl⟩

/-- The end of a binding to which nobody listens leaves the rolls as they are. -/
theorem cleared (hattended : Attended owner rolls binding)
    (hnone : binding.surface = none ∨ binding.listener = none) :
    Attended owner rolls binding.cleared := by
  refine hattended.ended (fun hroll => ⟨_, hroll, fun hmem => hmem, rfl⟩) ?_ rfl (.inl rfl)
  intro place roll hroll hbound _
  rw [hattended.current hroll]
  rcases hnone with hsurface | hlistener
  · simp [hsurface]
  · simp [hlistener]

/-- At the end of a binding its listener is dismissed. -/
theorem dismissed (hattended : Attended owner rolls binding) {surface id : Nat}
    (hsurface : binding.surface = some surface) (hid : binding.listener = some id) :
    Attended owner (rolls.modify surface (.dismiss id)) binding.cleared := by
  refine hattended.ended (thinner_modify (Roll.thinner_dismiss id)) ?_ rfl (.inl rfl)
  intro place roll hroll hbound hsticky
  obtain ⟨before, hbefore, rfl⟩ := getElem_modify hroll
  cases hsurface.symm.trans hbound
  rw [if_pos rfl] at hsticky ⊢
  have hleaves : before.isSticky = false := (Roll.thinner_dismiss id before).sticky.symm.trans hsticky
  refine List.eq_nil_iff_forall_not_mem.2 fun listener hmem => ?_
  obtain ⟨hstill, howner, hepoch⟩ := Roll.mem_current.1 hmem
  simp only [Roll.dismiss, hleaves, Bool.false_eq_true, if_false, List.mem_filter, bne_iff_ne] at hstill
  -- The only listener for the epoch is the one that was dismissed.
  have hlast : listener ∈ before.current owner binding.epoch :=
    Roll.mem_current.2 ⟨hstill.1, howner, hepoch⟩
  rw [hattended.current hbefore, if_pos hsurface, hid] at hlast
  cases List.mem_singleton.1 hlast
  exact hstill.2 rfl

/-- The bound surface is destroyed and the binding ends. -/
theorem destroyed (hattended : Attended owner rolls binding) {surface : Nat}
    (hsurface : binding.surface = some surface) :
    Attended owner (rolls.modify surface .clear) binding.cleared := by
  refine hattended.ended (thinner_modify Roll.thinner_clear) ?_ rfl (.inl rfl)
  intro place roll hroll hbound hsticky
  obtain ⟨before, hbefore, rfl⟩ := getElem_modify hroll
  cases hsurface.symm.trans hbound
  rw [if_pos rfl] at hsticky ⊢
  have hleaves : before.isSticky = false := (Roll.thinner_clear before).sticky.symm.trans hsticky
  simp [Roll.clear, Roll.current, hleaves]

/-- A surface to which the presenter does not listen for the epoch in force is destroyed. -/
theorem spared (hattended : Attended owner rolls binding) {surface : Nat}
    (hnone : ∀ {roll : Roll}, rolls[surface]? = some roll → roll.current owner binding.epoch = []) :
    Attended owner (rolls.modify surface .clear) binding where
  known hroll hmem howner := by
    obtain ⟨before, hbefore, hthin⟩ := thinner_modify Roll.thinner_clear hroll
    exact hattended.known hbefore (hthin.mem hmem) howner
  past hroll hmem howner hless := by
    obtain ⟨before, hbefore, hthin⟩ := thinner_modify Roll.thinner_clear hroll
    exact hthin.sticky.trans (hattended.past hbefore (hthin.mem hmem) howner hless)
  current {place roll} hroll := by
    obtain ⟨before, hbefore, rfl⟩ := getElem_modify hroll
    have hcurrent := hattended.current hbefore
    by_cases hplace : surface = place
    · subst hplace
      rw [if_pos rfl, ← hcurrent, hnone hbefore]
      refine List.eq_nil_iff_forall_not_mem.2 fun listener hmem => ?_
      obtain ⟨hstill, howner, hepoch⟩ := Roll.mem_current.1 hmem
      have hlast : listener ∈ before.current owner binding.epoch :=
        Roll.mem_current.2 ⟨(Roll.thinner_clear before).mem hstill, howner, hepoch⟩
      rw [hnone hbefore] at hlast
      cases hlast
    · rw [if_neg hplace]
      exact hcurrent

/-- A surface is bound before anybody listens to it. -/
theorem bound (hattended : Attended owner rolls binding) (hsurface : binding.surface = none)
    (hlistener : binding.listener = none) (surface : Nat) (zeroCopy : Bool) :
    Attended owner rolls (binding.boundTo surface zeroCopy) := by
  refine hattended.ended (fun hroll => ⟨_, hroll, fun hmem => hmem, rfl⟩) ?_ rfl (.inr hlistener)
  intro place roll _ hbound
  cases hsurface.symm.trans hbound

/-- The presenter listens to the surface that it has bound. -/
theorem joined (hattended : Attended owner rolls binding) {surface : Nat}
    (hsurface : binding.surface = some surface) (hlistener : binding.listener = none) (id : Nat) :
    Attended owner (rolls.modify surface (.join ⟨id, owner, binding.epoch⟩))
      { binding with listener := some id } where
  known {place roll listener} hroll hmem howner := by
    obtain ⟨before, hbefore, rfl⟩ := getElem_modify hroll
    split at hmem
    · rcases List.mem_append.1 hmem with hold | hnew
      · exact hattended.known hbefore hold howner
      · cases List.mem_singleton.1 hnew
        exact Nat.le_refl _
    · exact hattended.known hbefore hmem howner
  past {place roll listener} hroll hmem howner hless := by
    obtain ⟨before, hbefore, rfl⟩ := getElem_modify hroll
    by_cases hplace : surface = place
    · rw [if_pos hplace] at hmem ⊢
      rcases List.mem_append.1 hmem with hold | hnew
      · have hkeeps := hattended.past hbefore hold howner hless
        exact hkeeps
      · cases List.mem_singleton.1 hnew
        exact absurd hless (Nat.lt_irrefl _)
    · rw [if_neg hplace] at hmem ⊢
      exact hattended.past hbefore hmem howner hless
  current {place roll} hroll := by
    obtain ⟨before, hbefore, rfl⟩ := getElem_modify hroll
    have hcurrent := hattended.current hbefore
    rw [hsurface, hlistener] at hcurrent
    by_cases hplace : surface = place
    · subst hplace
      rw [if_pos rfl] at hcurrent
      simp only [Roll.current, Roll.join, List.filter_append, hsurface, if_true] at hcurrent ⊢
      rw [hcurrent]
      simp
    · have hother : some surface ≠ some place := fun hsame => hplace (Option.some.inj hsame)
      rw [if_neg hplace, hsurface, if_neg hother]
      rwa [if_neg hother] at hcurrent

end Attended

namespace Scene

variable {owner surface : Nat} {binding : Binding} {scene : Scene}

/-- A listener on the roll of a surface is one of its listeners. -/
theorem mem_listeners {listener : Listener} : listener ∈ scene.listeners surface ↔
    ∃ roll, scene.rolls[surface]? = some roll ∧ listener ∈ roll.listeners := by
  rw [listeners_rolls]
  cases scene.rolls[surface]? with
  | none => simp
  | some roll => simp

/-- A destruction leaves the presenter attended. -/
theorem attended_destroy (hbinding : scene.binding? owner = some binding)
    (hattended : Attended owner scene.rolls binding) (surface : Nat) :
    ∃ after, (scene.destroy surface).binding? owner = some after ∧
      Attended owner (scene.destroy surface).rolls after ∧
      (after = binding ∨ after = binding.cleared) := by
  have hknown : ∀ listener ∈ scene.listeners surface, listener.owner = owner →
      listener.epoch ≤ binding.epoch := by
    intro listener hmem howner
    obtain ⟨roll, hroll, hlisted⟩ := mem_listeners.1 hmem
    exact hattended.known hroll hlisted howner
  refine ⟨_, binding_destroy hbinding hknown, ?_, ?_⟩
  · rw [rolls_destroy]
    split
    · next hheard =>
      obtain ⟨listener, hmem, howner, hepoch⟩ := hheard
      obtain ⟨roll, hroll, hlisted⟩ := mem_listeners.1 hmem
      have hcurrent := Roll.mem_current.2 ⟨hlisted, howner, hepoch⟩
      rw [hattended.current hroll] at hcurrent
      split at hcurrent
      · next hbound => exact hattended.destroyed hbound
      · cases hcurrent
    · next hunheard =>
      refine hattended.spared fun hroll => List.eq_nil_iff_forall_not_mem.2 fun listener hmem => ?_
      obtain ⟨hlisted, howner, hepoch⟩ := Roll.mem_current.1 hmem
      exact hunheard ⟨listener, mem_listeners.2 ⟨_, hroll, hlisted⟩, howner, hepoch⟩
  · split
    · exact .inr rfl
    · exact .inl rfl

/-- A presenter that listens to the surface it has bound is attended, even if the surface is destroyed at once. -/
theorem attended_connect (hbinding : scene.binding? owner = some binding)
    (hattended : Attended owner scene.rolls { binding with listener := none })
    (hsurface : binding.surface = some surface) (hfound : scene.surfaces[surface]?.isSome = true) :
    ∃ id after, (scene.connect surface owner binding.epoch).1 = some id ∧
      (scene.connect surface owner binding.epoch).2.binding? owner = some after ∧
      Attended owner (scene.connect surface owner binding.epoch).2.rolls
        { after with listener := some id } := by
  obtain ⟨target, htarget⟩ := Option.isSome_iff_exists.1 hfound
  have hjoined := hattended.joined hsurface rfl target.nextListener
  unfold connect
  rw [htarget]
  dsimp only
  generalize hafter : scene.changeSurface surface (fun _ => (target.connect owner binding.epoch).2) = joined
  have hrolls : joined.rolls =
      scene.rolls.modify surface (.join ⟨target.nextListener, owner, binding.epoch⟩) := by
    rw [← hafter]
    refine List.ext_getElem? fun place => ?_
    simp only [rolls, view, changeSurface, List.getElem?_map, List.getElem?_modify]
    by_cases hplace : surface = place
    · subst hplace
      simp [htarget, Surface.roll_connect]
    · simp [hplace]
  have hkept : joined.binding? owner = some binding := by rw [← hafter]; exact hbinding
  rw [← hrolls] at hjoined
  refine ⟨target.nextListener, ?_⟩
  split
  · -- The listener that has just joined hears of the destruction.
    refine ⟨binding.cleared, rfl, ?_, ?_⟩
    · have hknown : ∀ listener ∈ joined.listeners surface, listener.owner = owner →
          listener.epoch ≤ binding.epoch := by
        intro listener hmem howner
        obtain ⟨roll, hroll, hlisted⟩ := mem_listeners.1 hmem
        exact hjoined.known hroll hlisted howner
      have hroll : joined.rolls[surface]? =
          some (target.roll.join ⟨target.nextListener, owner, binding.epoch⟩) := by
        rw [hrolls, List.getElem?_modify_eq]
        simp [rolls, view, htarget]
      have hheard := mem_listeners.2 ⟨_, hroll, List.mem_append_right _ (List.mem_singleton_self _)⟩
      rw [binding_destroy hkept hknown, if_pos ⟨_, hheard, rfl, rfl⟩]
    · rw [rolls_destroy]
      exact (hjoined.destroyed hsurface).congr rfl rfl (by simp [Binding.cleared])
  · exact ⟨binding, rfl, hkept, hjoined⟩

end Scene

end FramePath
