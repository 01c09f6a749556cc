import FramePath.Proofs.Desk.Terms
import FramePath.Proofs.Scene.Panels

/-!
# What only the consumer does

A deed that is not a step of the consumer is calm: the call in progress stays where it is, no panel changes, no
surface hears of pixels or of visibility, and no frame is counted by the renderer (`calm`). The binding in force is
the one before, or its surface has just been attached (`bound_perform`).
-/

namespace FramePath

open Renderer (Call Job)
open Surface (Aloof)

namespace Desk

variable {desk before after : Desk}

/-- What a deed that is not a step of the consumer leaves alone. -/
structure Calm (before after : Desk) : Prop where
  owner : after.owner = before.owner
  call : after.call? = before.call?
  panels : after.scene.panels = before.scene.panels
  tally : ∃ released, after.presenter.renderer.tally =
    { before.presenter.renderer.tally with releasedOnDrain := released }
  view : ∀ {α : Type} {look : Surface → α}, Aloof look →
    after.scene.view look = before.scene.view look

namespace Calm

/-- One calm deed after another. -/
theorem trans {between : Desk} (hfirst : Calm before between) (hsecond : Calm between after) :
    Calm before after where
  owner := hsecond.owner.trans hfirst.owner
  call := hsecond.call.trans hfirst.call
  panels := hsecond.panels.trans hfirst.panels
  tally := by
    obtain ⟨released, hbetween⟩ := hfirst.tally
    obtain ⟨more, hafter⟩ := hsecond.tally
    exact ⟨more, by rw [hafter, hbetween]⟩
  view haloof := (hsecond.view haloof).trans (hfirst.view haloof)

/-- What is done aside from the mail is calm if it leaves the panels. -/
theorem of_aside (haside : Aside before after)
    (hpanels : after.scene.panels = before.scene.panels) : Calm before after where
  owner := by
    unfold Desk.owner
    rw [haside.renderer]
  call := haside.call
  panels := hpanels
  tally := ⟨_, by rw [haside.renderer]⟩
  view := haside.view

/-- Leases, counts and what is asked for are changed calmly. -/
theorem papers {leases : Leases} {visible : Bool} {tally : AdmissionTally} :
    Calm desk { desk with presenter := { desk.presenter with leases, visible, tally } } :=
  ⟨rfl, rfl, rfl, ⟨_, rfl⟩, fun _ => rfl⟩

/-- So is an envelope sent. -/
theorem posting (envelope : Envelope) : Calm desk (desk.posting envelope) :=
  ⟨rfl, call_posting envelope desk, rfl, ⟨_, rfl⟩, fun _ => rfl⟩

/-- A mailbox is closed calmly when no call is in progress. -/
theorem drained (hquiet : desk.call? = none) (leases : Leases) (tally : MailTally) :
    Calm desk (desk.drained leases tally) where
  owner := owner_drained leases tally desk
  call := hquiet.symm
  panels := rfl
  tally := ⟨_, (letGo_spec desk.presenter.renderer).2.2⟩
  view _ := rfl

/-- An envelope comes back calmly. -/
theorem bouncing (envelope : Envelope) : Calm desk (desk.bouncing envelope) := by
  cases hdead : desk.isDead with
  | false =>
    rw [bouncing_of_alive envelope hdead]
    exact ⟨rfl, rfl, rfl, ⟨_, rfl⟩, fun _ => rfl⟩
  | true =>
    have hquiet := (quiet_of_idle (idle_of_dead hdead)).1
    rw [bouncing_of_dead envelope hdead]
    exact (drained hquiet _ _).trans papers

end Calm

/-- Every deed is calm that is not a step of the consumer. -/
theorem calm {deed : Deed} (hallows : desk.Allows deed) (hother : deed ≠ .advance) :
    Calm desk (desk.perform deed) := by
  cases deed with
  | attach surface zeroCopy =>
    exact .of_aside (aside_attach surface zeroCopy desk)
      (view_attach Surface.inward_panel surface zeroCopy desk)
  | announce =>
    have hannounced := desk.announced
    show Calm desk desk.announce
    generalize desk.announce = after at hannounced ⊢
    cases hannounced with
    | shown => exact .papers
    | told => exact .posting _
    | bounced => exact .bouncing _
  | unbind => exact .of_aside (aside_unbind desk) (view_unbind Surface.inward_panel desk)
  | setVisible visible =>
    have hasked := desk.asked visible
    have hasking : Calm desk (desk.asking visible) := .papers
    show Calm desk (desk.setVisible visible)
    generalize desk.setVisible visible = after at hasked ⊢
    cases hasked with
    | kept => exact hasking
    | told => exact hasking.trans (.posting _)
    | bounced => exact hasking.trans (.bouncing _)
  | submit frame =>
    have hsubmitted := desk.submitted frame
    have hleased : Calm desk (desk.lease frame) := .papers
    show Calm desk (desk.submit frame).2
    generalize desk.submit frame = result at hsubmitted ⊢
    cases hsubmitted with
    | dropped => exact .papers
    | queued => exact (hleased.trans (.posting _)).trans .papers
    | bounced => exact hleased.trans (.bouncing _)
  | advance => exact absurd rfl hother
  | close =>
    show Calm desk desk.close
    rcases close_of_quiet hallows.1 with ⟨_, hsame⟩ | ⟨_, leases, hclosed⟩
    · rw [hsame]
      exact .papers
    · rw [hclosed]
      exact .drained hallows.1 _ _
  | destroy surface => exact .of_aside (aside_destroy surface desk) (Scene.view_destroy Surface.inward_panel.forget _ _)
  | arrange arrangement =>
    exact .of_aside (aside_arrange arrangement desk) (view_arrange Surface.inward_panel arrangement desk)

variable {binding : Binding}

/-- The binding after it has ended. -/
theorem binding_unbind (desk : Desk) :
    desk.unbind.binding? = desk.binding?.map Binding.cleared := by
  have hcleared : (desk.changeBinding Binding.cleared).binding? =
      desk.binding?.map Binding.cleared := Scene.binding_changeBinding _ _ _
  unfold unbind
  dsimp only
  split <;> exact hcleared

/-- A binding that is found after a surface has been attached is a new one, unless nothing is bound. -/
theorem binding_attach {surface : Nat} {zeroCopy : Bool}
    (hbinding : (desk.attach surface zeroCopy).binding? = some binding)
    (hbound : binding.surface.isSome = true) :
    ∃ before listener, desk.binding? = some before ∧
      binding = { before.boundTo surface zeroCopy with listener } := by
  have hready : (desk.hint surface zeroCopy).binding? = desk.binding? := by
    cases zeroCopy <;> rfl
  unfold attach listen at hbinding
  generalize desk.hint surface zeroCopy = ready at hready hbinding
  generalize hattached : ready.changeBinding (.boundTo surface zeroCopy) = attached at hbinding
  have hfound : attached.binding? = desk.binding?.map (.boundTo surface zeroCopy) := by
    rw [← hattached]
    refine (Scene.binding_changeBinding _ _ _).trans ?_
    rw [show ready.scene.binding? ready.owner = _ from hready]
  dsimp only at hbinding
  -- The new listener may have been told at once that its surface is gone; the binding is not in force then.
  replace hbinding := (Scene.binding_changeBinding _ _ _).symm.trans hbinding
  obtain ⟨joined, hjoined, rfl⟩ := Option.map_eq_some_iff.1 hbinding
  have hkept : attached.binding? = some joined := by
    unfold Scene.connect at hjoined
    split at hjoined
    · exact hjoined
    · dsimp only at hjoined
      split at hjoined
      · have hjoining : (attached.scene.changeSurface surface _).binding? attached.owner = some joined :=
          Scene.binding_of_destroy hjoined hbound
        exact hjoining
      · exact hjoined
  obtain ⟨before, hbefore, hsame⟩ := Option.map_eq_some_iff.1 (hfound.symm.trans hkept)
  exact ⟨before, _, hbefore, by rw [hsame]⟩

/-- What comes back leaves the scene as it is. -/
theorem scene_bouncing (envelope : Envelope) (desk : Desk) :
    (desk.bouncing envelope).scene = desk.scene := by
  unfold bouncing
  dsimp only
  split <;> rfl

/-- An announcement does so too. -/
theorem scene_announce (desk : Desk) : desk.announce.scene = desk.scene := by
  have hannounced := desk.announced
  generalize desk.announce = after at hannounced ⊢
  cases hannounced with
  | shown => rfl
  | told => rfl
  | bounced => exact scene_bouncing _ desk

/-- So does a request for a visibility. -/
theorem scene_setVisible (visible : Bool) (desk : Desk) :
    (desk.setVisible visible).scene = desk.scene := by
  have hasked := desk.asked visible
  generalize desk.setVisible visible = after at hasked ⊢
  cases hasked with
  | kept => rfl
  | told => rfl
  | bounced => exact scene_bouncing _ (desk.asking visible)

/-- So does a submit. -/
theorem scene_submit (frame : SharedFrame) (desk : Desk) :
    (desk.submit frame).2.scene = desk.scene := by
  have hsubmitted := desk.submitted frame
  generalize desk.submit frame = result at hsubmitted ⊢
  cases hsubmitted with
  | dropped => rfl
  | queued => rfl
  | bounced => exact scene_bouncing _ (desk.lease frame)

/-- What neither an attached surface nor the end of a binding changes of the scene, nor a destruction nor an
arrangement, no deed changes that is not a step of the consumer. -/
theorem scene_perform {α : Type} (look : Scene → α) {deed : Deed} (hallows : desk.Allows deed)
    (hother : deed ≠ .advance)
    (hattach : ∀ surface zeroCopy, look (desk.attach surface zeroCopy).scene = look desk.scene)
    (hunbind : look desk.unbind.scene = look desk.scene)
    (hdestroy : ∀ surface, look (desk.scene.destroy surface) = look desk.scene)
    (harrange : ∀ arrangement, deed = .arrange arrangement →
      look (desk.arrange arrangement).scene = look desk.scene) :
    look (desk.perform deed).scene = look desk.scene := by
  cases deed with
  | attach surface zeroCopy => exact hattach surface zeroCopy
  | announce => exact congrArg look (scene_announce desk)
  | unbind => exact hunbind
  | setVisible visible => exact congrArg look (scene_setVisible visible desk)
  | submit frame => exact congrArg look (scene_submit frame desk)
  | advance => exact absurd rfl hother
  | close => exact congrArg look (mailed_close hallows.1).scene
  | destroy surface => exact hdestroy surface
  | arrange arrangement => exact harrange arrangement rfl

/-- A deed that is not a step of the consumer is no matter to an inward view. -/
theorem view_perform {α : Type} {look : Surface → α} {deed : Deed} (hinward : Surface.Inward look)
    (hallows : desk.Allows deed) (hother : deed ≠ .advance) :
    (desk.perform deed).scene.view look = desk.scene.view look :=
  scene_perform (Scene.view look) hallows hother (fun surface zeroCopy => view_attach hinward surface zeroCopy desk)
    (view_unbind hinward desk) (fun surface => Scene.view_destroy hinward.forget surface desk.scene)
    fun arrangement _ => view_arrange hinward arrangement desk

/-- What calmly leaves the scene leaves the binding. -/
theorem binding_of_scene (hcalm : Calm before after) (hscene : after.scene = before.scene) :
    after.binding? = before.binding? := by
  unfold binding?
  rw [hcalm.owner, hscene]

/-- A surface that is bound after a deed that is not a step of the consumer was bound before on the same binding, or
has just been attached. -/
theorem bound_perform {deed : Deed} {surface : Nat} (hallows : desk.Allows deed)
    (hother : deed ≠ .advance) (hbinding : (desk.perform deed).binding? = some binding)
    (hsurface : binding.surface = some surface) :
    (∃ fit, desk.binding? = some { binding with fit }) ∨
      ∃ before zeroCopy listener, deed = .attach surface zeroCopy ∧ desk.binding? = some before ∧
        binding = { before.boundTo surface zeroCopy with listener } := by
  have hbound : binding.surface.isSome = true := by simp [hsurface]
  cases deed with
  | attach next zeroCopy =>
    obtain ⟨before, listener, hbefore, rfl⟩ := binding_attach hbinding hbound
    cases hsurface
    exact .inr ⟨before, zeroCopy, listener, rfl, hbefore, rfl⟩
  | announce =>
    have hsame := binding_of_scene (calm hallows hother) (scene_announce desk)
    exact .inl ⟨binding.fit, hsame.symm.trans hbinding⟩
  | unbind =>
    obtain ⟨before, _, rfl⟩ := Option.map_eq_some_iff.1 ((binding_unbind desk).symm.trans hbinding)
    cases hsurface
  | setVisible visible =>
    have hsame := binding_of_scene (calm hallows hother) (scene_setVisible visible desk)
    exact .inl ⟨binding.fit, hsame.symm.trans hbinding⟩
  | submit frame =>
    have hsame := binding_of_scene (calm hallows hother) (scene_submit frame desk)
    exact .inl ⟨binding.fit, hsame.symm.trans hbinding⟩
  | advance => exact absurd rfl hother
  | close =>
    have hsame := binding_of_scene (calm hallows hother) (mailed_close hallows.1).scene
    exact .inl ⟨binding.fit, hsame.symm.trans hbinding⟩
  | destroy gone =>
    exact .inl ⟨binding.fit, Scene.binding_of_destroy hbinding hbound⟩
  | arrange arrangement =>
    -- An arrangement may change how content is placed, and nothing else of the binding.
    have hsame : (desk.arrange arrangement).binding?.map (fun before => { before with fit := binding.fit }) =
        desk.binding?.map fun before => { before with fit := binding.fit } :=
      arrange_binding (fun _ _ => rfl) arrangement desk
    rw [show (desk.arrange arrangement).binding? = some binding from hbinding] at hsame
    obtain ⟨before, hbefore, hfit⟩ := Option.map_eq_some_iff.1 hsame.symm
    refine .inl ⟨before.fit, ?_⟩
    rw [hbefore, show binding = { before with fit := binding.fit } from hfit.symm]

end Desk

end FramePath
