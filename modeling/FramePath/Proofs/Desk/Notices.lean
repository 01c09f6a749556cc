import FramePath.Proofs.Desk.Attendance
import FramePath.Proofs.Desk.Isolation
import FramePath.Proofs.Desk.Stranded

/-!
# Notices follow the binding

A surface tells its listeners of a new size and of its destruction, and it may be late with it: it may have taken a
listener down before the binding ended, and give it the notice after others have come. The presenter connects each
listener for one epoch and for the surface of one binding (`Enrolled`), and no epoch comes twice, so that a late notice
is told from one for the binding in force by the epoch alone (`Enrolled.tell_late`).
-/

namespace FramePath

/-- What a surface tells a listener. -/
inductive Notice where
  | resized (size : Size)
  | destroyed

namespace Scene

variable {scene after : Scene} {owner epoch place surface : Nat} {listener : Listener}

/-- A surface gives a notice to a listener. -/
def tell (notice : Notice) (listener : Listener) (scene : Scene) : Scene :=
  match notice with
  | .resized size => scene.tellResized size listener
  | .destroyed => scene.tellDestroyed listener

/-- A change that leaves the binding of a presenter leaves the scene. -/
theorem changeBinding_same {change : Binding → Binding}
    (hsame : ∀ binding, scene.binding? owner = some binding → change binding = binding) :
    scene.changeBinding owner change = scene := by
  have hbindings : scene.bindings.modify owner (Option.map change) = scene.bindings := by
    refine List.ext_getElem? fun place => ?_
    by_cases hplace : owner = place
    · subst hplace
      rw [List.getElem?_modify_eq]
      unfold binding? at hsame
      cases hfound : scene.bindings[owner]? with
      | none => rfl
      | some found =>
        cases found with
        | none => rfl
        | some binding =>
          rw [hfound] at hsame
          exact congrArg (fun binding => some (some binding)) (hsame binding rfl)
    · rw [List.getElem?_modify_ne _ _ hplace]
  unfold changeBinding
  rw [hbindings]

/-- A notice for an epoch that is not in force changes nothing. -/
theorem tell_stale (notice : Notice)
    (hstale : ∀ binding, scene.binding? listener.owner = some binding → binding.epoch ≠ listener.epoch) :
    scene.tell notice listener = scene := by
  cases notice with
  | resized size =>
    unfold tell tellResized
    cases hbinding : scene.binding? listener.owner with
    | none => rfl
    | some binding => exact if_pos (hstale binding hbinding)
  | destroyed => exact changeBinding_same fun binding hbinding => if_neg (hstale binding hbinding)

/-- Who listens where rolls have grown thinner listened before. -/
theorem mem_listeners_thinner (hthinner : ∀ {place : Nat} {roll : Roll}, after.rolls[place]? = some roll →
      ∃ before, scene.rolls[place]? = some before ∧ roll.Thinner before)
    (hmem : listener ∈ after.listeners place) : listener ∈ scene.listeners place := by
  obtain ⟨roll, hroll, hlisted⟩ := mem_listeners.1 hmem
  obtain ⟨before, hbefore, hthin⟩ := hthinner hroll
  exact mem_listeners.2 ⟨before, hbefore, hthin.mem hlisted⟩

theorem mem_listeners_destroy (hmem : listener ∈ (scene.destroy surface).listeners place) :
    listener ∈ scene.listeners place := by
  refine mem_listeners_thinner (fun hroll => ?_) hmem
  rw [rolls_destroy] at hroll
  exact Attended.thinner_modify Roll.thinner_clear hroll

theorem mem_listeners_disconnect {id : Nat} (hmem : listener ∈ (scene.disconnect surface id).listeners place) :
    listener ∈ scene.listeners place := by
  refine mem_listeners_thinner (fun hroll => ?_) hmem
  rw [rolls_disconnect] at hroll
  exact Attended.thinner_modify (Roll.thinner_dismiss id) hroll

/-- Who listens after a new listener has joined is the new one, or listened before. -/
theorem mem_listeners_connect (hmem : listener ∈ (scene.connect surface owner epoch).2.listeners place) :
    listener ∈ scene.listeners place ∨ place = surface ∧ listener.owner = owner ∧ listener.epoch = epoch := by
  unfold connect at hmem
  split at hmem
  · exact .inl hmem
  · next target htarget =>
    dsimp only at hmem
    have hjoined : listener ∈
        (scene.changeSurface surface fun _ => (target.connect owner epoch).2).listeners place := by
      split at hmem
      · exact mem_listeners_destroy hmem
      · exact hmem
    by_cases hplace : surface = place
    · subst hplace
      unfold listeners changeSurface at hjoined
      rw [List.getElem?_modify_eq, htarget] at hjoined
      rcases List.mem_append.1 hjoined with hold | hnew
      · have hlisted : scene.listeners surface = target.listeners := by
          unfold listeners
          rw [htarget]
          rfl
        exact .inl (hlisted ▸ hold)
      · cases List.mem_singleton.1 hnew
        exact .inr ⟨rfl, rfl, rfl⟩
    · unfold listeners changeSurface at hjoined
      rw [List.getElem?_modify_ne _ _ hplace] at hjoined
      exact .inl hjoined

end Scene

namespace Desk

variable {desk after : Desk} {link : Link} {place surface : Nat} {listener : Listener}

/-- At the end of a binding nobody joins. -/
theorem mem_listeners_unbind (hmem : listener ∈ desk.unbind.scene.listeners place) :
    listener ∈ desk.scene.listeners place := by
  unfold unbind at hmem
  dsimp only at hmem
  split at hmem
  · exact Scene.mem_listeners_disconnect hmem
  · exact hmem

/-- When a surface is attached the presenter joins its listeners for the epoch that begins, and nobody else does. -/
theorem mem_listeners_attach {zeroCopy : Bool} (hlink : desk.link? = some link)
    (hmem : listener ∈ (desk.attach surface zeroCopy).scene.listeners place) :
    listener ∈ desk.scene.listeners place ∨ place = surface ∧ listener.epoch = link.epoch + 1 := by
  have hepoch := epoch_listened (link_boundTo surface zeroCopy hlink)
  have hhinted : (desk.hint surface zeroCopy).scene.listeners place = desk.scene.listeners place := by
    cases zeroCopy with
    | false => rfl
    | true =>
      rw [Scene.listeners_rolls, Scene.listeners_rolls]
      exact congrArg (fun rolls => ((rolls[place]?).map Roll.listeners).getD [])
        (Scene.rolls_record surface .hint desk.scene)
  unfold attach listen at hmem
  rw [hepoch] at hmem
  rcases Scene.mem_listeners_connect hmem with hold | ⟨hplace, _, hnew⟩
  · have hbefore : listener ∈ (desk.hint surface zeroCopy).scene.listeners place := hold
    rw [hhinted] at hbefore
    exact .inl hbefore
  · exact .inr ⟨hplace, hnew⟩

end Desk

namespace Watch

/-- Each binding of the record is the one in force or of an earlier epoch, and the presenter listens for bindings of the
record only, to the surface of each. -/
structure Enrolled (watch : Watch) : Prop where
  linked : ∃ link, watch.desk.link? = some link
  passed : ∀ bond ∈ watch.bonds, watch.desk.bond? = some bond ∨ bond.epoch < watch.desk.epoch
  listed : ∀ {place : Nat} {listener : Listener}, listener ∈ watch.desk.scene.listeners place →
    listener.owner = watch.desk.owner → ⟨listener.epoch, place⟩ ∈ watch.bonds

namespace Enrolled

variable {watch : Watch} {desk : Desk} {link after : Link}

/-- Where the link stays, or a later epoch has begun, the bindings of the record have not come back. -/
theorem passed_of_precedes (henrolled : watch.Enrolled) (hlink : watch.desk.link? = some link)
    (hafter : desk.link? = some after) (hprecedes : link.Precedes after) :
    ∀ bond ∈ watch.bonds, desk.bond? = some bond ∨ bond.epoch < desk.epoch := by
  intro bond hmem
  rw [Desk.epoch_of_link hafter]
  rcases henrolled.passed bond hmem with hbound | hearlier
  · cases hlink.symm.trans (Desk.link_of_bond hbound)
    rcases hprecedes with rfl | hlater
    · exact .inl (Desk.bond_of_link hafter)
    · exact .inr hlater
  · rw [Desk.epoch_of_link hlink] at hearlier
    exact .inr (Nat.lt_of_lt_of_le hearlier hprecedes.epoch_le)

/-- What adds no binding to the record and no listener, and brings no epoch back, leaves the presenter enrolled. -/
theorem of_precedes (henrolled : watch.Enrolled) {accepted : List Accepted} {showings : List Showing}
    (howner : desk.owner = watch.desk.owner) (hlink : watch.desk.link? = some link)
    (hafter : desk.link? = some after) (hprecedes : link.Precedes after)
    (hlisteners : ∀ {place : Nat} {listener : Listener}, listener ∈ desk.scene.listeners place →
      listener ∈ watch.desk.scene.listeners place) :
    Enrolled { watch with desk, accepted, showings } where
  linked := ⟨after, hafter⟩
  passed := henrolled.passed_of_precedes hlink hafter hprecedes
  listed hmem hown := henrolled.listed (hlisteners hmem) (hown.trans howner)

/-- So does what leaves the link and all listeners. -/
theorem same (henrolled : watch.Enrolled) {accepted : List Accepted} {showings : List Showing}
    (howner : desk.owner = watch.desk.owner) (hlink : desk.link? = watch.desk.link?)
    (hlisteners : desk.scene.view Surface.listeners = watch.desk.scene.view Surface.listeners) :
    Enrolled { watch with desk, accepted, showings } := by
  obtain ⟨link, hsome⟩ := henrolled.linked
  refine henrolled.of_precedes howner hsome (hlink.trans hsome) (.inl rfl) fun {place _} hmem => ?_
  rwa [Scene.listeners_congr hlisteners place] at hmem

/-- A surface that is attached enrols its binding at the end of the record. -/
theorem attach (henrolled : watch.Enrolled) {surface : Nat} (zeroCopy : Bool)
    (hfound : watch.desk.scene.surfaces[surface]?.isSome = true) :
    Enrolled { watch with
      desk := watch.desk.attach surface zeroCopy
      bonds := watch.bonds ++ [⟨watch.desk.epoch + 1, surface⟩] } := by
  obtain ⟨link, hlink⟩ := henrolled.linked
  obtain ⟨_, after, hafter, hloses, _⟩ := Desk.link_attach zeroCopy hlink hfound
  have hepoch := Desk.epoch_of_link hlink
  have hbegun : link.Precedes ⟨link.epoch + 1, some surface⟩ := .inr (Nat.lt_succ_self _)
  refine ⟨⟨after, hafter⟩, ?_, ?_⟩
  · intro bond hmem
    rcases List.mem_append.1 hmem with hold | hnew
    · exact henrolled.passed_of_precedes hlink hafter (hbegun.trans hloses.precedes) bond hold
    · cases List.mem_singleton.1 hnew
      -- The new binding is in force, unless its surface was destroyed at once.
      rw [Desk.epoch_of_link hafter, hepoch]
      rcases hloses with rfl | ⟨hless, _⟩
      · exact .inl (Desk.bond_of_link hafter)
      · exact .inr hless
  · intro place listener hmem hown
    have howner : (watch.desk.attach surface zeroCopy).owner = watch.desk.owner :=
      congrArg (·.renderer.owner) (Desk.presenter_attach surface zeroCopy watch.desk)
    rcases Desk.mem_listeners_attach hlink hmem with hold | ⟨rfl, hsame⟩
    · exact List.mem_append_left _ (henrolled.listed hold (hown.trans howner))
    · rw [hsame, hepoch]
      exact List.mem_append_right _ (List.mem_singleton_self _)

/-- Every move leaves the presenter enrolled. -/
theorem move {other : Watch} (hmoved : Moved watch other) (henrolled : watch.Enrolled) :
    other.Enrolled := by
  obtain ⟨link, hlink⟩ := henrolled.linked
  cases hmoved with
  | advanced =>
    have hstep := Desk.stepped watch.desk
    exact henrolled.same hstep.owner hstep.link hstep.listeners
  | mailed desk hmailed => exact henrolled.same hmailed.owner hmailed.link (by rw [hmailed.scene])
  | accepted desk accepted hmailed => exact henrolled.same hmailed.owner hmailed.link (by rw [hmailed.scene])
  | staged desk hpresenter hsame hlisteners =>
    exact henrolled.same (congrArg (·.renderer.owner) hpresenter) hsame hlisteners
  | unbound =>
    exact henrolled.of_precedes (congrArg (·.renderer.owner) (Desk.presenter_unbind watch.desk)) hlink
      (Desk.link_unbind hlink) (.inr (Nat.lt_succ_self _)) Desk.mem_listeners_unbind
  | destroyed surface =>
    obtain ⟨after, hafter, hloses, _⟩ := Scene.link_destroy surface hlink
    have hgone : (watch.desk.changeScene (.destroy surface)).link? = some after := hafter
    exact henrolled.of_precedes rfl hlink hgone hloses.precedes Scene.mem_listeners_destroy
  | attached surface zeroCopy hfound => exact henrolled.attach zeroCopy hfound

/-- A late notice changes nothing. -/
theorem tell_late (henrolled : watch.Enrolled) {bond : Bond} (hmem : bond ∈ watch.bonds)
    (hlate : watch.desk.bond? ≠ some bond) (id : Nat) (notice : Notice) :
    watch.desk.changeScene (.tell notice ⟨id, watch.desk.owner, bond.epoch⟩) = watch.desk := by
  have hearlier : bond.epoch < watch.desk.epoch :=
    (henrolled.passed bond hmem).resolve_left hlate
  have hsame : watch.desk.scene.tell notice ⟨id, watch.desk.owner, bond.epoch⟩ = watch.desk.scene := by
    refine Scene.tell_stale notice fun binding hbinding hepoch => ?_
    have hlink := Desk.link_of_binding hbinding
    rw [Desk.epoch_of_link hlink] at hearlier
    exact absurd hepoch (Nat.ne_of_gt hearlier)
  unfold Desk.changeScene
  rw [hsame]

end Enrolled

/-- After every run of a new presenter it is enrolled, if nobody has listened in its place before. -/
theorem enrolled_run {surfaces : List Surface} (id : Nat)
    (hunknown : ∀ surface ∈ surfaces, ∀ listener ∈ surface.listeners, listener.owner ≠ 0)
    (acts : List Desk.Act) : ((opened surfaces id).run acts).Enrolled := by
  refine run_keeps (fun _ _ hmoved hkept => Enrolled.move hmoved hkept) acts ⟨⟨_, rfl⟩, nofun, ?_⟩
  intro place listener hmem hown
  obtain ⟨roll, hroll, hlisted⟩ := Scene.mem_listeners.1 hmem
  obtain ⟨surface, hsurface, rfl⟩ := List.mem_map.1 (List.mem_of_getElem? hroll)
  exact absurd hown (hunknown surface hsurface listener hlisted)

end Watch

/-- A surface that lets its listeners go has those of a presenter for the epoch in force only. -/
theorem Attended.filter_owner {owner : Nat} {rolls : List Roll} {binding : Binding} {place : Nat}
    {roll : Roll} (hattended : Attended owner rolls binding) (hroll : rolls[place]? = some roll)
    (hleaves : roll.isSticky = false) :
    roll.listeners.filter (·.owner == owner) = roll.current owner binding.epoch := by
  refine List.filter_congr fun listener hmem => ?_
  by_cases hown : listener.owner = owner
  · have hle := hattended.known hroll hmem hown
    have hsame : listener.epoch = binding.epoch := by
      rcases Nat.lt_or_eq_of_le hle with hless | hsame
      · cases hleaves.symm.trans (hattended.past hroll hmem hown hless)
      · exact hsame
    simp [hown, hsame]
  · simp [hown]

namespace Desk

variable {desk gone : Desk} {binding : Binding} {bond : Bond}

/-- The presenter has one listener on the bound surface, as its binding says, and none elsewhere. -/
theorem Listening.listeners (hlistening : desk.Listening binding) {place : Nat} {surface : Surface}
    (hsurface : desk.scene.surfaces[place]? = some surface) (hleaves : surface.profile.isSticky = false) :
    if binding.surface = some place then
      ∃ id, binding.listener = some id ∧
        surface.listeners.filter (·.owner == desk.owner) = [⟨id, desk.owner, binding.epoch⟩]
    else surface.listeners.filter (·.owner == desk.owner) = [] := by
  have hroll : desk.scene.rolls[place]? = some surface.roll := by
    simp [Scene.rolls, Scene.view, hsurface]
  have hpresent := hlistening.attended.filter_owner hroll hleaves
  rw [hlistening.attended.current hroll] at hpresent
  split
  · next hbound =>
    rw [if_pos hbound] at hpresent
    obtain ⟨id, hid⟩ := Option.isSome_iff_exists.1 (hlistening.named (by simp [hbound]))
    rw [hid] at hpresent
    exact ⟨id, hid, hpresent⟩
  · next hunbound =>
    rw [if_neg hunbound] at hpresent
    exact hpresent

/-- A notice that its surface is gone ends the binding in force. -/
theorem binding_tell_destroyed (hbond : desk.bond? = some bond) (id : Nat) :
    (desk.changeScene (.tell .destroyed ⟨id, desk.owner, bond.epoch⟩)).binding? =
      desk.binding?.map Binding.cleared := by
  obtain ⟨binding, hbinding, hlink⟩ := Option.map_eq_some_iff.1 (link_of_bond hbond)
  have hepoch : binding.epoch = bond.epoch := congrArg Link.epoch hlink
  refine (Scene.binding_changeBinding _ _ _).trans ?_
  unfold binding?
  rw [hbinding]
  exact congrArg some (if_pos hepoch)

/-- So does the destruction of the bound surface. -/
theorem Listening.binding_destroy (hlistening : desk.Listening binding) (hbond : desk.bond? = some bond)
    (hhears : desk.scene.Hears desk.owner bond.epoch bond.surface) :
    (desk.changeScene (.destroy bond.surface)).binding? = desk.binding?.map Binding.cleared := by
  have hbinding := hlistening.found
  have hlink := (link_of_binding hbinding).symm.trans (link_of_bond hbond)
  have hepoch : binding.epoch = bond.epoch := congrArg Link.epoch (Option.some.inj hlink)
  have hknown : ∀ listener ∈ desk.scene.listeners bond.surface, listener.owner = desk.owner →
      listener.epoch ≤ binding.epoch := by
    intro listener hmem hown
    obtain ⟨roll, hroll, hlisted⟩ := Scene.mem_listeners.1 hmem
    exact hlistening.attended.known hroll hlisted hown
  refine (Scene.binding_destroy hbinding hknown).trans ?_
  rw [hbinding, hepoch]
  exact congrArg some (if_pos hhears)

/-- What comes after a binding that has ended is the next epoch, without a surface. -/
theorem link_cleared (hbond : desk.bond? = some bond)
    (hcleared : gone.binding? = desk.binding?.map Binding.cleared) :
    gone.link? = some ⟨bond.epoch + 1, none⟩ := by
  obtain ⟨binding, hbinding, hlink⟩ := Option.map_eq_some_iff.1 (link_of_bond hbond)
  have hepoch : binding.epoch = bond.epoch := congrArg Link.epoch hlink
  rw [show desk.binding? = some binding from hbinding] at hcleared
  rw [link_of_binding hcleared, ← hepoch]
  rfl

/-- With the end of the binding in force a frame to which all references are for waiting copies is stranded. -/
theorem stranded_cleared {mark : Nat} (hsited : desk.Sited) (haccounted : desk.Accounted)
    (hbond : desk.bond? = some bond) (hpresenter : gone.presenter = desk.presenter)
    (hcleared : gone.binding? = desk.binding?.map Binding.cleared)
    (hwaiting : gone.presenter.references mark = copies mark gone.waiting) :
    gone.Stranded mark gone.scene.given := by
  refine stranded_of_waiting (haccounted.of_presenter hpresenter) (fun {frame epoch} hmem => ?_) hwaiting
  have hsame : gone.mail = desk.mail := by
    unfold mail
    rw [hpresenter]
  have hdated := hsited.dated (hsame ▸ hmem)
  rw [epoch_of_link (link_of_bond hbond)] at hdated
  exact ⟨_, link_cleared hbond hcleared, .inl (Nat.lt_succ_of_le hdated)⟩

end Desk

namespace Watch

open Desk (Act Refusal)

/-- The listeners of a presenter follow its binding, in every state that a run comes to. A surface that lets its
listeners go when they ought to has exactly one of this presenter's if it is the one bound, for the epoch in force and
by the id that the binding remembers, and none otherwise. The presenter listens for bindings of the record only, to the
surface of each. A notice for a binding of the record that is not in force, be it of a new size or of a destruction,
changes nothing at all, whichever surface is bound by then. The notice that its surface is gone ends the binding in
force, as the destruction of the bound surface does: until the next bind every frame that is submitted is dropped; a
frame whose handling starts later, for a binding that had begun by then, touches no surface and counts as dropped
unbound; and a frame to which all references are for waiting copies is given to no surface in any run that does not
submit it anew, and is let go of when the consumer has nothing more to do, to which it comes. -/
theorem listeners_follow_binding {surfaces : List Surface} (id : Nat)
    (hunknown : ∀ surface ∈ surfaces, ∀ listener ∈ surface.listeners, listener.owner ≠ 0)
    (acts : List Act) :
    let watch := (opened surfaces id).run acts
    let desk := watch.desk
    desk = (Desk.opened surfaces id).run acts ∧
    (∃ binding, desk.binding? = some binding ∧
      ∀ place surface, desk.scene.surfaces[place]? = some surface → surface.profile.isSticky = false →
        if binding.surface = some place then
          ∃ id, binding.listener = some id ∧
            surface.listeners.filter (·.owner == desk.owner) = [⟨id, desk.owner, binding.epoch⟩]
        else surface.listeners.filter (·.owner == desk.owner) = []) ∧
    (∀ place, ∀ listener ∈ desk.scene.listeners place, listener.owner = desk.owner →
      ⟨listener.epoch, place⟩ ∈ watch.bonds) ∧
    (∀ bond ∈ watch.bonds, desk.bond? ≠ some bond → ∀ id notice,
      desk.changeScene (.tell notice ⟨id, desk.owner, bond.epoch⟩) = desk) ∧
    (∀ bond, desk.bond? = some bond → ∀ gone,
      (∃ id, gone = desk.changeScene (.tell .destroyed ⟨id, desk.owner, bond.epoch⟩)) ∨
        gone = desk.changeScene (.destroy bond.surface) →
      gone.binding? = desk.binding?.map Binding.cleared ∧ gone.isBound = false ∧
      gone.presenter = desk.presenter ∧
      ∀ more, let later := gone.run more
        ((∀ surface unbound bound, .bind surface unbound bound ∉ more) → ∀ frame, ∃ refusal : Refusal,
          later.submit frame = (.dropped, later.count (refusal.charge ·))) ∧
        (∀ frame epoch, epoch ≤ bond.epoch → later.call? = some (.taken (.frame frame epoch)) →
          later.advance.scene = later.scene ∧ later.advance.call? = none ∧
          later.advance.presenter.report.droppedUnbound = later.presenter.report.droppedUnbound + 1) ∧
        (∀ mark, gone.presenter.references mark = copies mark gone.waiting →
          (∀ frame, .submit frame ∈ more → frame.mark ≠ mark) →
          (∀ place : Nat, ∃ fresh, later.scene.given[place]? = gone.scene.given[place]?.map (· ++ fresh) ∧
            ∀ frame ∈ fresh, frame.mark ≠ mark) ∧
          (later.presenter.mailbox.isIdle = true → later.presenter.references mark = 0) ∧
          ∃ steps, (later.run (List.replicate steps .advance)).presenter.references mark = 0)) := by
  have hdesk := desk_run acts (opened surfaces id)
  have hisolated := isolated_run surfaces id acts
  have henrolled := enrolled_run id hunknown acts
  obtain ⟨binding, hlistening⟩ := Desk.listening_run id hunknown acts
  have hsited := Desk.sited_run surfaces id acts
  have haccounted := Desk.accounted_run surfaces id acts
  dsimp only
  rw [show (opened surfaces id).desk = Desk.opened surfaces id from rfl] at hdesk
  rw [← hdesk] at hlistening hsited haccounted
  generalize (opened surfaces id).run acts = watch at *
  refine ⟨hdesk, ⟨binding, hlistening.found, fun _ _ => hlistening.listeners⟩,
    fun _ _ => henrolled.listed, fun _ => henrolled.tell_late, ?_⟩
  intro bond hbond gone hgone
  obtain ⟨hpresenter, hcleared⟩ : gone.presenter = watch.desk.presenter ∧
      gone.binding? = watch.desk.binding?.map Binding.cleared := by
    rcases hgone with ⟨id, rfl⟩ | rfl
    · exact ⟨rfl, Desk.binding_tell_destroyed hbond id⟩
    · exact ⟨rfl, hlistening.binding_destroy hbond (hisolated.rooted.getLast hbond).2⟩
  have hlink := Desk.link_cleared hbond hcleared
  have hunbound : gone.bond? = none := Desk.bond_of_link_none hlink
  refine ⟨hcleared, by rw [Desk.isBound_eq, hunbound]; rfl, hpresenter, fun more => ⟨?_, ?_, ?_⟩⟩
  · exact fun hbind => Desk.submit_unbound (Desk.unbound_run hunbound hbind)
  · intro frame epoch hbegun hcall
    have hended : gone.HasEnded epoch := ⟨_, hlink, .inl (Nat.lt_succ_of_le hbegun)⟩
    exact Desk.advance_stale hcall (hended.run more)
  · intro mark hwaiting hnew
    have hstranded :=
      (Desk.stranded_cleared hsited haccounted hbond hpresenter hcleared hwaiting).run hnew
    obtain ⟨steps, hidle⟩ := Desk.exists_idle (gone.run more)
    refine ⟨hstranded.unshown, hstranded.released, steps, ?_⟩
    refine (hstranded.run fun frame hmem => ?_).released hidle
    cases List.eq_of_mem_replicate hmem

/-- A frame waits for each of two bindings of the same surface, one of which has ended. -/
def reboundWaiting : List Act :=
  [.setState .paused, .bind 0, .submit ⟨7, ⟨#[1, 2, 3, 4], ⟨1, 1⟩, .rgba, 7⟩⟩, .bind 0,
    .submit ⟨8, ⟨#[5, 6, 7, 8], ⟨1, 1⟩, .rgba, 8⟩⟩]

theorem listeners_follow_binding_rebound :
    let watch := (opened [bareSurface] 1).run reboundWaiting
    let desk := watch.desk
    let gone := desk.changeScene (.tell .destroyed ⟨2, desk.owner, 4⟩)
    let later := gone.run [.bind 0, .advance, .advance, .advance, .advance]
    watch.bonds = [⟨2, 0⟩, ⟨4, 0⟩] ∧ desk.bond? = some ⟨4, 0⟩ ∧
      desk.changeScene (.tell (.resized ⟨3, 2⟩) ⟨1, desk.owner, 2⟩) = desk ∧
      desk.changeScene (.tell .destroyed ⟨1, desk.owner, 2⟩) = desk ∧
      gone.isBound = false ∧ gone.presenter.references 8 = 1 ∧
      later.isBound = true ∧ later.presenter.references 8 = 0 := by
  have hunknown : ∀ surface ∈ [bareSurface], ∀ listener ∈ surface.listeners, listener.owner ≠ 0 := by
    intro surface hsurface listener hlistener
    cases List.mem_singleton.1 hsurface
    cases hlistener
  have hbonds : ((opened [bareSurface] 1).run reboundWaiting).bonds = [⟨2, 0⟩, ⟨4, 0⟩] := by decide +kernel
  have hbond : ((opened [bareSurface] 1).run reboundWaiting).desk.bond? = some ⟨4, 0⟩ := by decide +kernel
  obtain ⟨_, _, _, hlate, hcurrent⟩ := listeners_follow_binding 1 hunknown reboundWaiting
  have hearlier : (⟨2, 0⟩ : Bond) ∈ ((opened [bareSurface] 1).run reboundWaiting).bonds := by
    rw [hbonds]
    exact List.mem_cons_self ..
  have hpast : ((opened [bareSurface] 1).run reboundWaiting).desk.bond? ≠ some ⟨2, 0⟩ := by
    rw [hbond]
    decide
  obtain ⟨_, hunbound, _, hreleased⟩ := hcurrent _ hbond _ (.inl ⟨2, rfl⟩)
  obtain ⟨_, hidle, _⟩ := (hreleased [.bind 0, .advance, .advance, .advance, .advance]).2.2 8
    (by decide +kernel) nofun
  exact ⟨hbonds, hbond, hlate _ hearlier hpast 1 _, hlate _ hearlier hpast 1 _, hunbound,
    by decide +kernel, by decide +kernel, hidle (by decide +kernel)⟩

end Watch

end FramePath
