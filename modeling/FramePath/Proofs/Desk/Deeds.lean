import FramePath.Proofs.Desk.Steps
import FramePath.Proofs.Mailbox.Shifts
import FramePath.Proofs.Scene.Panels

/-!
# Runs of a desk, deed by deed

A deed is done in one go. A bind ends the binding before, attaches the surface and announces that it is to be hidden,
with the consumer going on in between; a teardown ends the binding and closes the mailbox, after the call in progress
has taken its steps one by one. `course` lists the deeds that some acts come down to, and `performAll_course` says
that they lead to the same desk. An `Observer` keeps notes of the deeds: what a claim about a whole run counts or
remembers is the notes of some observer, and what every deed keeps, a desk and the notes keep (`Observer.run_keeps`).
-/

namespace FramePath

namespace Desk

/-- What concerns neither the mail nor the binding. -/
inductive Arrangement where
  | fit (fit : Fit)
  | state (state : RunState)
  | source (source : Option Nat)
  | resize (surface : Nat) (size : Size)
  | arm (fault : Option CallPoint)
  | bar (refusal : Option String)

/-- What is done in one go. -/
inductive Deed where
  | unbind
  /-- A surface is bound after the binding before has ended. -/
  | attach (surface : Nat) (zeroCopy : Bool)
  /-- A hidden presenter tells the surface it was just bound to. -/
  | announce
  | setVisible (visible : Bool)
  | submit (frame : SharedFrame)
  /-- The consumer goes one step on. -/
  | advance
  /-- The mailbox is closed at the end of a teardown. -/
  | close
  | destroy (surface : Nat)
  | arrange (arrangement : Arrangement)

/-- Make an arrangement. -/
def arrange (desk : Desk) : Arrangement → Desk
  | .fit fit => desk.setFit fit
  | .state state => desk.changePresenter (.withState state)
  | .source source => desk.changePresenter (.withActiveSource source)
  | .resize surface size => desk.changeScene (.resize surface size)
  | .arm fault => desk.changeScene fun scene => { scene with fault }
  | .bar refusal => desk.changePresenter (.withRefusal refusal)

/-- Do one deed. -/
def perform (desk : Desk) : Deed → Desk
  | .unbind => desk.unbind
  | .attach surface zeroCopy => desk.attach surface zeroCopy
  | .announce => desk.announce
  | .setVisible visible => desk.setVisible visible
  | .submit frame => (desk.submit frame).2
  | .advance => desk.advance
  | .close => desk.close
  | .destroy surface => desk.changeScene (.destroy surface)
  | .arrange arrangement => desk.arrange arrangement

/-- Do several deeds in order. -/
def performAll (deeds : List Deed) (desk : Desk) : Desk := deeds.foldl perform desk

/-- The deed that an incident is. -/
def Incident.deed : Incident → Deed
  | advance => .advance
  | resize surface size => .arrange (.resize surface size)
  | destroy surface => .destroy surface
  | arm fault => .arrange (.arm fault)
  | bar refusal => .arrange (.bar refusal)

/-- The steps that the consumer takes until no call is in progress, but no more than `fuel`. -/
def stepsToRest : Nat → Desk → Nat
  | 0, _ => 0
  | fuel + 1, desk => if desk.call?.isSome then stepsToRest fuel desk.advance + 1 else 0

/-- The deeds that let a call in progress come to its end. -/
def restDeeds (desk : Desk) : List Deed :=
  List.replicate (stepsToRest (desk.presenter.mailbox.work Backstage) desk) .advance

/-- The deeds of a bind. -/
def bindDeeds (surface : Nat) (zeroCopy : Bool) (unbound bound : List Incident) : List Deed :=
  .unbind :: (unbound.map Incident.deed ++
    .attach surface zeroCopy :: (bound.map Incident.deed ++ [.announce]))

/-- The deeds of a teardown. -/
def teardownDeeds (amid : List Incident) (desk : Desk) : List Deed :=
  .unbind :: (amid.map Incident.deed ++ ((desk.unbind.elapse amid).restDeeds ++ [.close]))

/-- The deeds of an act. -/
def deeds (desk : Desk) : Act → List Deed
  | .bind surface unbound bound =>
    match desk.scene.surfaces[surface]? with
    | none => []
    | some target =>
      if target.profile.isImage then
        bindDeeds surface (Backend.supportsZeroCopy target.profile.backend) unbound bound
      else []
  | .unbind => [.unbind]
  | .setVisible visible => [.setVisible visible]
  | .setFit fit => [.arrange (.fit fit)]
  | .setState state => [.arrange (.state state)]
  | .setActiveSource source => [.arrange (.source source)]
  | .submit frame => [.submit frame]
  | .teardown amid | .drop amid => desk.teardownDeeds amid
  | .advance => [.advance]
  | .resize surface size => [.arrange (.resize surface size)]
  | .destroy surface => [.destroy surface]
  | .arm fault => [.arrange (.arm fault)]
  | .bar refusal => [.arrange (.bar refusal)]

/-- The deeds that some acts come down to. -/
def course : List Act → Desk → List Deed
  | [], _ => []
  | act :: acts, desk => desk.deeds act ++ course acts (desk.act act)

/-- Whether the consumer has failed and nobody has taken note of it yet. -/
def isDead (desk : Desk) : Bool := desk.presenter.mailbox.transport.isCrashed

/-- A surface that is there is attached as its backend says when nothing is bound, and a mailbox is closed when no
call is in progress and nothing is bound; all else may be done at any time. -/
def Allows (desk : Desk) : Deed → Prop
  | .attach surface zeroCopy => desk.bond? = none ∧ desk.IsTarget surface zeroCopy
  | .close => desk.call? = none ∧ desk.bond? = none
  | _ => True

/-- Every deed finds the desk such that `holds` is true of both. -/
def Throughout (holds : Desk → Deed → Prop) : List Deed → Desk → Prop
  | [], _ => True
  | deed :: deeds, desk => holds desk deed ∧ Throughout holds deeds (desk.perform deed)

/-- What is decided deed by deed is decided for all of them. -/
instance decidableThroughout {holds : Desk → Deed → Prop}
    [hdecidable : ∀ desk deed, Decidable (holds desk deed)] :
    (deeds : List Deed) → (desk : Desk) → Decidable (Throughout holds deeds desk)
  | [], _ => inferInstanceAs (Decidable True)
  | deed :: deeds, desk =>
      have := @decidableThroughout holds hdecidable deeds (desk.perform deed)
      inferInstanceAs (Decidable (holds desk deed ∧ Throughout holds deeds (desk.perform deed)))

/-- In the course of some acts the consumer never fails. -/
def Unfailing (acts : List Act) (desk : Desk) : Prop :=
  Throughout (fun desk deed => (desk.perform deed).isDead = false) (desk.course acts) desk

/-- Whether the consumer fails in the course of some acts is decided by doing them. -/
instance (acts : List Act) (desk : Desk) : Decidable (desk.Unfailing acts) :=
  inferInstanceAs (Decidable (Throughout _ _ _))

variable {holds other : Desk → Deed → Prop} {desk : Desk}

/-- Deeds in two parts. -/
theorem throughout_append {first second : List Deed} :
    Throughout holds (first ++ second) desk ↔
      Throughout holds first desk ∧ Throughout holds second (desk.performAll first) := by
  induction first generalizing desk with
  | nil => exact ⟨fun hsecond => ⟨trivial, hsecond⟩, And.right⟩
  | cons deed first ih =>
    show (_ ∧ Throughout holds (first ++ second) _) ↔ (_ ∧ _) ∧ _
    rw [ih, and_assoc]
    exact Iff.rfl

/-- Two things that are true of every deed are true of it together. -/
theorem Throughout.and {deeds : List Deed} (hfirst : Throughout holds deeds desk)
    (hsecond : Throughout other deeds desk) :
    Throughout (fun desk deed => holds desk deed ∧ other desk deed) deeds desk := by
  induction deeds generalizing desk with
  | nil => exact trivial
  | cons deed deeds ih => exact ⟨⟨hfirst.1, hsecond.1⟩, ih hfirst.2 hsecond.2⟩

/-- What happens is done in one go. -/
theorem perform_incident (desk : Desk) (incident : Incident) :
    desk.perform incident.deed = desk.happen incident := by
  cases incident <;> rfl

/-- Several deeds and others after them. -/
theorem performAll_append (first second : List Deed) (desk : Desk) :
    desk.performAll (first ++ second) = (desk.performAll first).performAll second :=
  List.foldl_append

/-- Incidents are deeds. -/
theorem performAll_incidents (incidents : List Incident) (desk : Desk) :
    desk.performAll (incidents.map Incident.deed) = desk.elapse incidents := by
  induction incidents generalizing desk with
  | nil => rfl
  | cons incident incidents ih =>
    refine (ih (desk.perform incident.deed)).trans ?_
    rw [perform_incident]
    rfl

/-- A close comes to the same after the call in progress has gone on. -/
theorem close_steps (fuel : Nat) (desk : Desk) :
    (desk.performAll (List.replicate (stepsToRest fuel desk) .advance)).close = desk.close := by
  induction fuel generalizing desk with
  | zero => rfl
  | succ fuel ih =>
    rw [stepsToRest]
    split
    · next hcall => exact (ih desk.advance).trans (close_advance hcall)
    · rfl

/-- After all the work of the mailbox no call is in progress. -/
theorem call_steps {fuel : Nat} {desk : Desk} (henough : desk.presenter.mailbox.work Backstage ≤ fuel) :
    (desk.performAll (List.replicate (stepsToRest fuel desk) .advance)).call? = none := by
  induction fuel generalizing desk with
  | zero =>
    show desk.call? = none
    cases hcall : desk.call? with
    | none => rfl
    | some call =>
      have hcall : desk.presenter.mailbox.transport.call? = some call := hcall
      simp [Mailbox.work, hcall] at henough
  | succ fuel ih =>
    rw [stepsToRest]
    split
    · next hcall =>
      show (desk.advance.performAll (List.replicate _ .advance)).call? = none
      refine ih ?_
      obtain ⟨call, hcall⟩ := Option.isSome_iff_exists.1 hcall
      have hbusy : desk.presenter.mailbox.isIdle = false := by
        simp [Mailbox.isIdle, show desk.presenter.mailbox.transport.call? = _ from hcall]
      have hless := Mailbox.work_advance_lt desk.backstage hbusy
      exact Nat.le_of_lt_succ (Nat.lt_of_lt_of_le hless henough)
    · next hcall =>
      show desk.call? = none
      simpa using hcall

/-- A call in progress comes to its end by its deeds. -/
theorem call_rest (desk : Desk) : (desk.performAll desk.restDeeds).call? = none :=
  call_steps (Nat.le_refl _)

/-- A teardown comes down to its deeds. -/
theorem performAll_teardownDeeds (amid : List Incident) (desk : Desk) :
    desk.performAll (desk.teardownDeeds amid) = desk.teardownAmid amid := by
  show desk.unbind.performAll (_ ++ (_ ++ _)) = _
  rw [performAll_append, performAll_incidents, performAll_append]
  exact close_steps _ _

/-- A bind comes down to its deeds. -/
theorem performAll_bindDeeds (surface : Nat) (zeroCopy : Bool) (unbound bound : List Incident)
    (desk : Desk) :
    desk.performAll (bindDeeds surface zeroCopy unbound bound) =
      (((desk.unbind.elapse unbound).attach surface zeroCopy).elapse bound).announce := by
  show desk.unbind.performAll (_ ++ _ :: (_ ++ _)) = _
  rw [performAll_append, performAll_incidents]
  show ((desk.unbind.elapse unbound).attach surface zeroCopy).performAll (_ ++ _) = _
  rw [performAll_append, performAll_incidents]
  rfl

/-- An act comes down to its deeds. -/
theorem performAll_deeds (desk : Desk) (act : Act) :
    desk.performAll (desk.deeds act) = desk.act act := by
  cases act with
  | bind surface unbound bound =>
    simp only [deeds, Desk.act, bindAmid]
    cases desk.scene.surfaces[surface]? with
    | none => rfl
    | some target =>
      cases himage : target.profile.isImage with
      | false => simp [himage, performAll]
      | true => simp [himage, performAll_bindDeeds]
  | teardown amid => exact performAll_teardownDeeds amid desk
  | drop amid => exact performAll_teardownDeeds amid desk
  | _ => rfl

/-- A run comes down to its deeds. -/
theorem performAll_course (acts : List Act) (desk : Desk) :
    desk.performAll (desk.course acts) = desk.run acts := by
  induction acts generalizing desk with
  | nil => rfl
  | cons act acts ih =>
    unfold course
    rw [performAll_append, performAll_deeds, ih]
    rfl

/-- The deeds of acts in two parts. -/
theorem course_append (first second : List Act) (desk : Desk) :
    desk.course (first ++ second) = desk.course first ++ (desk.run first).course second := by
  induction first generalizing desk with
  | nil => rfl
  | cons act first ih =>
    show desk.deeds act ++ (desk.act act).course (first ++ second) = _
    rw [ih, ← List.append_assoc]
    rfl

/-- A run does not fail if neither of its parts does. -/
theorem unfailing_append {first second : List Act} :
    desk.Unfailing (first ++ second) ↔ desk.Unfailing first ∧ (desk.run first).Unfailing second := by
  unfold Unfailing
  rw [course_append, throughout_append, performAll_course]

/-- A consumer that lives and does not fail lives on. -/
theorem alive_of_unfailing {acts : List Act} (halive : desk.isDead = false)
    (hunfailing : desk.Unfailing acts) : (desk.run acts).isDead = false := by
  unfold Unfailing at hunfailing
  rw [← performAll_course]
  generalize desk.course acts = deeds at hunfailing
  induction deeds generalizing desk with
  | nil => exact halive
  | cons deed deeds ih => exact ih hunfailing.1 hunfailing.2

/-- After an unbind nothing is bound. -/
theorem bond_unbind (desk : Desk) : desk.unbind.bond? = none := by
  cases hlink : desk.link? with
  | some link => exact bond_of_link_none (link_unbind hlink)
  | none =>
    have hnone : desk.binding? = none := Option.map_eq_none_iff.1 hlink
    have hsame : desk.unbind = desk.changeBinding Binding.cleared := by
      unfold unbind
      rw [hnone]
    unfold bond? link? Scene.link?
    rw [hsame]
    show ((((desk.scene.changeBinding desk.owner _).binding? desk.owner).map _).bind _) = none
    rw [Scene.binding_changeBinding, show desk.scene.binding? desk.owner = none from hnone]
    rfl

/-- A destruction binds nothing. -/
theorem bond_destroy (hnone : desk.bond? = none) (surface : Nat) :
    (desk.changeScene (.destroy surface)).bond? = none := by
  cases hlink : desk.link? with
  | none =>
    have hafter : (desk.changeScene (.destroy surface)).link? = none :=
      Scene.link_destroy_none surface hlink
    unfold bond?
    rw [hafter]
    rfl
  | some link =>
    obtain ⟨after, hafter, hloses, _⟩ := Scene.link_destroy surface hlink
    have hafter : (desk.changeScene (.destroy surface)).link? = some after := hafter
    unfold bond? at hnone ⊢
    rw [hafter]
    rw [hlink] at hnone
    rcases hloses with rfl | ⟨_, hgone⟩
    · exact hnone
    · exact congrArg (Option.map _) hgone

/-- The consumer's steps leave the binding as it is. -/
theorem bond_steps (steps : Nat) (desk : Desk) :
    (desk.performAll (List.replicate steps .advance)).bond? = desk.bond? := by
  induction steps generalizing desk with
  | zero => rfl
  | succ steps ih =>
    exact (ih desk.advance).trans (bond_congr (stepped desk).link)

/-- Where nothing is bound, nothing is after incidents either. -/
theorem bond_elapse {incidents : List Incident} (hnone : desk.bond? = none) :
    (desk.elapse incidents).bond? = none := by
  induction incidents generalizing desk with
  | nil => exact hnone
  | cons incident incidents ih =>
    show ((desk.happen incident).elapse incidents).bond? = none
    refine ih ?_
    cases incident with
    | advance => exact (bond_steps 1 desk).trans hnone
    | resize surface size =>
      have hlink : (desk.changeScene (.resize surface size)).link? = desk.link? :=
        Scene.link_congr (Scene.bindings_resize _ _ _) _
      exact (bond_congr hlink).trans hnone
    | destroy surface => exact bond_destroy hnone surface
    | arm fault => exact hnone
    | bar refusal => exact hnone

/-- What happens leaves every surface where it is. -/
theorem isSome_elapse (place : Nat) (incidents : List Incident) (desk : Desk) :
    (desk.elapse incidents).scene.surfaces[place]?.isSome = desk.scene.surfaces[place]?.isSome := by
  induction incidents generalizing desk with
  | nil => rfl
  | cons incident incidents ih =>
    refine (ih (desk.happen incident)).trans ?_
    cases incident with
    | advance => exact Scene.isSome_congr (stepped desk).listeners place
    | resize surface size =>
      have hview : (desk.scene.resize surface size).view (fun _ => ()) = desk.scene.view fun _ => () :=
        Scene.view_resize (fun _ _ => rfl) _ _ _
      exact Scene.isSome_congr hview place
    | destroy surface =>
      have hview : (desk.scene.destroy surface).view (fun _ => ()) = desk.scene.view fun _ => () :=
        Scene.view_destroy (fun _ => rfl) _ _
      exact Scene.isSome_congr hview place
    | arm fault => rfl
    | bar refusal => rfl

/-- Incidents may come at any time. -/
theorem throughout_incidents (incidents : List Incident) (desk : Desk) :
    Throughout Allows (incidents.map Incident.deed) desk := by
  induction incidents generalizing desk with
  | nil => exact trivial
  | cons incident incidents ih =>
    refine ⟨?_, ih (desk.perform incident.deed)⟩
    cases incident <;> exact trivial

/-- The steps of the consumer may be taken at any time. -/
theorem throughout_steps (steps : Nat) (desk : Desk) :
    Throughout Allows (List.replicate steps .advance) desk := by
  induction steps generalizing desk with
  | zero => exact trivial
  | succ steps ih => exact ⟨trivial, ih desk.advance⟩

/-- The deeds of a teardown are allowed where they stand. -/
theorem allows_teardown (amid : List Incident) (desk : Desk) :
    Throughout Allows (desk.teardownDeeds amid) desk := by
  refine ⟨trivial, throughout_append.2 ⟨throughout_incidents _ _, ?_⟩⟩
  rw [performAll_incidents]
  refine throughout_append.2 ⟨throughout_steps _ _, ⟨call_rest _, ?_⟩, trivial⟩
  exact (bond_steps _ _).trans (bond_elapse (bond_unbind desk))

/-- What surfaces are is told by the view of it. -/
theorem IsTarget.congr {after : Desk} {surface : Nat} {zeroCopy : Bool}
    (hprofiles : after.scene.view Surface.profile = desk.scene.view Surface.profile)
    (htarget : desk.IsTarget surface zeroCopy) : after.IsTarget surface zeroCopy := by
  obtain ⟨target, hfound, himage, hcopies⟩ := htarget
  have hprofile := congrArg (·[surface]?) hprofiles
  simp only [Scene.view, List.getElem?_map, hfound, Option.map_some] at hprofile
  obtain ⟨found, hafter, hsame⟩ := Option.map_eq_some_iff.1 hprofile
  exact ⟨found, hafter, by rw [hsame, himage], by rw [hsame, hcopies]⟩

/-- The end of a binding leaves what surfaces are. -/
theorem profiles_unbind (desk : Desk) :
    desk.unbind.scene.view Surface.profile = desk.scene.view Surface.profile := by
  unfold unbind
  dsimp only
  split
  · exact Scene.view_changeSurface_same (Surface.inward_profile.disconnect _) _ _
  · rfl

/-- So does a step of the consumer. -/
theorem profiles_advance (desk : Desk) :
    desk.advance.scene.view Surface.profile = desk.scene.view Surface.profile := by
  refine scene_advance fun {call progress stage} hresumed => ?_
  rw [Scene.profiles_panels, Scene.profiles_panels, hresumed.panels]
  unfold Backstage.fitted
  split
  · refine List.ext_getElem? fun place => ?_
    rw [List.getElem?_map, List.getElem?_map, List.getElem?_modify]
    refine (Option.map_map ..).trans (congrArg (Option.map · _) (funext fun panel => ?_))
    show Panel.profile (if _ then _ else _) = _
    split <;> rfl
  · rfl

/-- So does all that happens. -/
theorem profiles_elapse (incidents : List Incident) (desk : Desk) :
    (desk.elapse incidents).scene.view Surface.profile = desk.scene.view Surface.profile := by
  induction incidents generalizing desk with
  | nil => rfl
  | cons incident incidents ih =>
    refine (ih (desk.happen incident)).trans ?_
    cases incident with
    | advance => exact profiles_advance desk
    | resize surface size => exact Scene.view_resize Surface.inward_profile.fill surface size desk.scene
    | destroy surface => exact Scene.view_destroy Surface.inward_profile.forget surface desk.scene
    | arm fault => rfl
    | bar refusal => rfl

/-- The deeds of a bind are allowed where they stand. -/
theorem allows_bind {surface : Nat} {zeroCopy : Bool} (unbound bound : List Incident)
    (htarget : desk.IsTarget surface zeroCopy) :
    Throughout Allows (bindDeeds surface zeroCopy unbound bound) desk := by
  refine ⟨trivial, throughout_append.2 ⟨throughout_incidents _ _, ?_⟩⟩
  rw [performAll_incidents]
  refine ⟨⟨bond_elapse (bond_unbind desk), ?_⟩,
    throughout_append.2 ⟨throughout_incidents _ _, trivial, trivial⟩⟩
  exact htarget.congr ((profiles_elapse unbound desk.unbind).trans (profiles_unbind desk))

/-- The deeds of an act are allowed where they stand. -/
theorem allows_deeds (act : Act) (desk : Desk) : Throughout Allows (desk.deeds act) desk := by
  cases act with
  | bind surface unbound bound =>
    simp only [deeds]
    cases htarget : desk.scene.surfaces[surface]? with
    | none => exact trivial
    | some target =>
      cases himage : target.profile.isImage with
      | false => simp [himage, Throughout]
      | true =>
        simpa [himage] using allows_bind unbound bound ⟨target, htarget, himage, rfl⟩
  | teardown amid => exact allows_teardown amid desk
  | drop amid => exact allows_teardown amid desk
  | _ => exact ⟨trivial, trivial⟩

/-- The deeds of a run are allowed where they stand. -/
theorem allows_course (acts : List Act) (desk : Desk) :
    Throughout Allows (desk.course acts) desk := by
  induction acts generalizing desk with
  | nil => exact trivial
  | cons act acts ih =>
    refine throughout_append.2 ⟨allows_deeds act desk, ?_⟩
    rw [performAll_deeds]
    exact ih (desk.act act)

/-- What every deed keeps, every run keeps. -/
theorem run_of_deeds {kept : Desk → Prop}
    (hdeed : ∀ desk deed, desk.Allows deed → kept desk → kept (desk.perform deed)) (acts : List Act)
    (hkept : kept desk) : kept (desk.run acts) := by
  have hallows := allows_course acts desk
  rw [← performAll_course]
  generalize desk.course acts = deeds at hallows
  induction deeds generalizing desk with
  | nil => exact hkept
  | cons deed deeds ih => exact ih (hdeed desk deed hallows.1 hkept) hallows.2

/-- A deed of some acts is a deed of one of them. -/
theorem mem_course {deed : Deed} {acts : List Act} (hmem : deed ∈ desk.course acts) :
    ∃ act ∈ acts, ∃ before : Desk, deed ∈ before.deeds act := by
  induction acts generalizing desk with
  | nil => cases hmem
  | cons act acts ih =>
    rcases List.mem_append.1 hmem with hfirst | hlater
    · exact ⟨act, List.mem_cons_self .., desk, hfirst⟩
    · obtain ⟨other, hother, before, hdeed⟩ := ih hlater
      exact ⟨other, List.mem_cons_of_mem _ hother, before, hdeed⟩

/-- An act can do a deed: a surface is attached and a frame is submitted by one kind of act alone. -/
def Act.CanDo : Act → Deed → Prop
  | act, .attach surface _ => ∃ unbound bound, act = .bind surface unbound bound
  | act, .submit frame => act = .submit frame
  | _, _ => True

/-- Every act can do what happens in the middle of it. -/
theorem canDo_incident {deed : Deed} {act : Act} {incidents : List Incident}
    (hmem : deed ∈ incidents.map Incident.deed) : act.CanDo deed := by
  obtain ⟨incident, _, rfl⟩ := List.mem_map.1 hmem
  cases incident <;> exact trivial

/-- Every act can do its deeds. -/
theorem canDo_deeds {deed : Deed} {act : Act} (hmem : deed ∈ desk.deeds act) : act.CanDo deed := by
  have hteardown : ∀ {amid}, deed ∈ desk.teardownDeeds amid → act.CanDo deed := by
    intro amid hmem
    rcases List.mem_cons.1 hmem with rfl | hlater
    · exact trivial
    · rcases List.mem_append.1 hlater with hincident | hrest
      · exact canDo_incident hincident
      · rcases List.mem_append.1 hrest with hstep | hlast
        · rw [List.eq_of_mem_replicate hstep]
          exact trivial
        · rw [List.mem_singleton.1 hlast]
          exact trivial
  cases act with
  | bind surface unbound bound =>
    have hbind : ∀ {zeroCopy}, deed ∈ bindDeeds surface zeroCopy unbound bound →
        (Act.bind surface unbound bound).CanDo deed := by
      intro zeroCopy hmem
      rcases List.mem_cons.1 hmem with rfl | hlater
      · exact trivial
      · rcases List.mem_append.1 hlater with hincident | hattached
        · exact canDo_incident hincident
        · rcases List.mem_cons.1 hattached with rfl | hmore
          · exact ⟨unbound, bound, rfl⟩
          · rcases List.mem_append.1 hmore with hincident | hlast
            · exact canDo_incident hincident
            · rw [List.mem_singleton.1 hlast]
              exact trivial
    simp only [deeds] at hmem
    split at hmem
    · cases hmem
    · split at hmem
      · exact hbind hmem
      · cases hmem
  | submit frame =>
    rw [List.mem_singleton.1 hmem]
    rfl
  | teardown amid => exact hteardown hmem
  | drop amid => exact hteardown hmem
  | _ =>
    rw [List.mem_singleton.1 hmem]
    exact trivial

/-- What the deeds that some acts can do keep, a run of the acts keeps. -/
theorem run_of_own_deeds {acts : List Act} {kept : Desk → Prop}
    (hdeed : ∀ desk deed, desk.Allows deed → (∃ act ∈ acts, act.CanDo deed) → kept desk →
      kept (desk.perform deed))
    (hkept : kept desk) : kept (desk.run acts) := by
  have hallows := allows_course acts desk
  have hown : ∀ deed ∈ desk.course acts, ∃ act ∈ acts, act.CanDo deed := by
    intro deed hmem
    obtain ⟨act, hact, before, hdeed⟩ := mem_course hmem
    exact ⟨act, hact, canDo_deeds hdeed⟩
  rw [← performAll_course]
  generalize desk.course acts = deeds at hallows hown
  induction deeds generalizing desk with
  | nil => exact hkept
  | cons deed deeds ih =>
    obtain ⟨hfirst, hlater⟩ := List.forall_mem_cons.1 hown
    exact ih (hdeed desk deed hallows.1 hfirst hkept) hallows.2 hlater

end Desk

open Desk (Deed Throughout Allows Unfailing)

/-- Somebody who takes notes of the deeds at a desk. -/
structure Observer (ν : Type) where
  /-- The notes before anything is done. -/
  blank : ν
  /-- The notes after a deed that finds the desk so. -/
  note : Desk → Deed → ν → ν

namespace Observer

variable {ν : Type}

/-- The notes after several deeds. -/
def notes (observer : Observer ν) : List Deed → Desk → ν → ν
  | [], _, notes => notes
  | deed :: deeds, desk, notes =>
      observer.notes deeds (desk.perform deed) (observer.note desk deed notes)

/-- The notes after a run of a new presenter. -/
def onRun (observer : Observer ν) (surfaces : List Surface) (id : Nat) (acts : List Desk.Act) : ν :=
  observer.notes ((Desk.opened surfaces id).course acts) (Desk.opened surfaces id) observer.blank

variable {observer : Observer ν} {kept : Desk → ν → Prop}

/-- The notes of deeds in two parts. -/
theorem notes_append (first second : List Deed) (desk : Desk) (notes : ν) :
    observer.notes (first ++ second) desk notes =
      observer.notes second (desk.performAll first) (observer.notes first desk notes) := by
  induction first generalizing desk notes with
  | nil => rfl
  | cons deed first ih => exact ih (desk.perform deed) (observer.note desk deed notes)

/-- Deeds of which the observer takes no note leave the notes. -/
theorem notes_unnoted {deeds : List Deed}
    (hunnoted : ∀ deed ∈ deeds, ∀ desk notes, observer.note desk deed notes = notes) (desk : Desk)
    (notes : ν) : observer.notes deeds desk notes = notes := by
  induction deeds generalizing desk with
  | nil => rfl
  | cons deed deeds ih =>
    obtain ⟨hfirst, hrest⟩ := List.forall_mem_cons.1 hunnoted
    show observer.notes deeds (desk.perform deed) (observer.note desk deed notes) = notes
    rw [hfirst]
    exact ih hrest (desk.perform deed)

/-- What every deed keeps, several deeds keep. -/
theorem keeps {holds : Desk → Deed → Prop} {deeds : List Deed} {desk : Desk} {notes : ν}
    (hdeed : ∀ desk deed notes, holds desk deed → kept desk notes →
      kept (desk.perform deed) (observer.note desk deed notes))
    (hholds : Throughout holds deeds desk) (hkept : kept desk notes) :
    kept (desk.performAll deeds) (observer.notes deeds desk notes) := by
  induction deeds generalizing desk notes with
  | nil => exact hkept
  | cons deed deeds ih => exact ih hholds.2 (hdeed desk deed notes hholds.1 hkept)

/-- What every deed keeps, every run of a new presenter keeps. -/
theorem run_keeps (hdeed : ∀ desk deed notes, desk.Allows deed → kept desk notes →
      kept (desk.perform deed) (observer.note desk deed notes))
    (surfaces : List Surface) (id : Nat) (acts : List Desk.Act)
    (hkept : kept (Desk.opened surfaces id) observer.blank) :
    kept ((Desk.opened surfaces id).run acts) (observer.onRun surfaces id acts) := by
  rw [← Desk.performAll_course]
  exact keeps hdeed (Desk.allows_course acts _) hkept

/-- What every deed with which the consumer does not fail keeps, every unfailing run of a new presenter keeps. -/
theorem unfailing_keeps (hdeed : ∀ desk deed notes, desk.Allows deed →
      (desk.perform deed).isDead = false → kept desk notes →
      kept (desk.perform deed) (observer.note desk deed notes))
    {surfaces : List Surface} {id : Nat} {acts : List Desk.Act}
    (hunfailing : (Desk.opened surfaces id).Unfailing acts)
    (hkept : kept (Desk.opened surfaces id) observer.blank) :
    kept ((Desk.opened surfaces id).run acts) (observer.onRun surfaces id acts) := by
  rw [← Desk.performAll_course]
  exact keeps (fun desk deed notes hholds => hdeed desk deed notes hholds.1 hholds.2)
    ((Desk.allows_course acts _).and hunfailing) hkept

end Observer

end FramePath
