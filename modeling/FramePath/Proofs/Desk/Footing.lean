import FramePath.Proofs.Desk.Standing
import FramePath.Proofs.Desk.Tenure

/-!
# What is sent under a binding

What a presenter puts into its queue while a binding lasts and the consumer does not fail is told by the deeds of others
alone. The presenter goes by its `Footing`: where it stands, whether a consumer was started, and whether the host is to
refuse the next start. `Footing.sends` says what a deed puts into the queue, `Footing.follow` what the footing is then,
and `Footing.plan` what several deeds come to (`notes_eq_plan`). The steps of the consumer have no part in it
(`Footing.plan_steps`), and where the host refuses nothing it is what the presenter's standing admits
(`notes_eq_standing`).
-/

namespace FramePath

open Desk (Act Deed Incident)

/-- Whether a deed is a step of the consumer. -/
def Desk.Deed.isStep : Deed → Bool
  | .advance => true
  | _ => false

/-- Where a presenter stands, and whether it would find a consumer. -/
structure Footing extends Standing where
  /-- Whether a consumer was started and not taken note of as failed. -/
  isOpen : Bool
  /-- Why the host is to refuse the next start of a consumer, if it is. -/
  refusal : Option String

namespace Footing

/-- Whether what is sent now comes back. -/
def isDeaf (footing : Footing) : Bool := !footing.isOpen && footing.refusal.isSome

/-- The footing after an envelope was sent: a consumer is there, or the host has refused to start one. -/
def post (footing : Footing) : Footing :=
  if footing.isDeaf then { footing with refusal := none } else { footing with isOpen := true }

/-- What a deed puts into the queue under the binding of an epoch. -/
def sends (epoch : Nat) (footing : Footing) : Deed → List Envelope
  | .announce => if footing.visible || footing.isDeaf then [] else [.visibility false]
  | .setVisible visible => if footing.isDeaf then [] else [.visibility visible]
  | .submit frame => if footing.admits && !footing.isDeaf then [.frame frame epoch] else []
  | _ => []

/-- The footing after a deed. -/
def follow (footing : Footing) : Deed → Footing
  | .announce => if footing.visible then footing else footing.post
  | .setVisible visible => { footing with visible }.post
  | .submit _ => if footing.admits then footing.post else footing
  | .arrange (.state state) => { footing with state }
  | .arrange (.source source) => { footing with source }
  | .arrange (.bar refusal) => { footing with refusal }
  | _ => footing

/-- What several deeds put into the queue under the binding of an epoch. -/
def plan (epoch : Nat) (footing : Footing) : List Deed → List Envelope
  | [] => []
  | deed :: deeds => footing.sends epoch deed ++ (footing.follow deed).plan epoch deeds

/-- The steps of the consumer have no part in it. -/
theorem plan_steps (epoch : Nat) (footing : Footing) (deeds : List Deed) :
    footing.plan epoch (deeds.filter (!·.isStep)) = footing.plan epoch deeds := by
  induction deeds generalizing footing with
  | nil => rfl
  | cons deed deeds ih =>
    cases hstep : deed.isStep with
    | true =>
      rw [List.filter_cons_of_neg (by simp [hstep]), ih]
      cases deed <;> cases hstep
      rfl
    | false =>
      rw [List.filter_cons_of_pos (by simp [hstep])]
      exact congrArg (footing.sends epoch deed ++ ·) (ih (footing.follow deed))

end Footing

namespace Desk

variable {desk : Desk} {deed : Deed} {epoch surface : Nat}

/-- The footing of the presenter. -/
def footing (desk : Desk) : Footing :=
  ⟨desk.presenter.standing, desk.presenter.mailbox.transport.isOpen, desk.presenter.mailbox.refusal⟩

/-- While the consumer lives, its footing tells whether what is sent comes back. -/
theorem isDeaf_footing (halive : desk.isDead = false) : desk.footing.isDeaf = desk.isDeaf := by
  unfold isDeaf Footing.isDeaf footing Mailbox.obstacle
  rw [halive]
  cases desk.presenter.mailbox.transport.isOpen <;> rfl

/-- Whether a frame that is submitted under a binding is sent is told by where the presenter stands. -/
theorem admits_of_link (hlink : desk.link? = some ⟨epoch, some surface⟩) :
    desk.admits = desk.presenter.standing.admits := by
  have hbound : desk.isBound = true := by
    unfold isBound
    rw [boundSurface_of_link hlink]
    rfl
  simp only [admits, hbound, Bool.and_true, Presenter.standing, Standing.admits, Presenter.isSilenced]
  cases desk.presenter.activeSource <;> rfl

/-- What a submit puts into the queue under a binding. -/
theorem cue_submit (frame : SharedFrame) (hlink : desk.link? = some ⟨epoch, some surface⟩) :
    desk.cues (.submit frame) =
      if desk.presenter.standing.admits && !desk.isDeaf then [.frame frame epoch] else [] := by
  have hepoch : desk.epoch = epoch := epoch_of_link hlink
  have hsubmitted := desk.submitted frame
  simp only [cues]
  rw [← admits_of_link hlink, hepoch]
  generalize desk.submit frame = result at hsubmitted ⊢
  cases hsubmitted with
  | dropped _ hrefused => simp [hrefused]
  | queued _ _ hadmitted _ hhears => simp [hadmitted, hhears]
  | bounced _ _ _ _ hdeaf => simp [hdeaf]

/-- The footing tells what a deed puts into the queue. -/
theorem cues_eq (hlink : desk.link? = some ⟨epoch, some surface⟩) (halive : desk.isDead = false) :
    desk.cues deed = desk.footing.sends epoch deed := by
  have hdeaf := isDeaf_footing halive
  cases deed with
  | announce =>
    simp only [cues, Footing.sends, hdeaf]
    rfl
  | setVisible visible =>
    simp only [cues, Footing.sends, hdeaf]
  | submit frame =>
    rw [cue_submit frame hlink]
    simp only [Footing.sends, hdeaf]
    rfl
  | _ => rfl

/-- What is accepted leaves a consumer to be there. -/
theorem footing_posting (envelope : Envelope) (halive : desk.isDead = false) (hhears : desk.isDeaf = false) :
    (desk.posting envelope).footing = desk.footing.post := by
  have hfooting := (isDeaf_footing halive).trans hhears
  unfold Footing.post
  rw [hfooting]
  obtain ⟨scene, ⟨id, ⟨transport, count, refusal⟩, renderer, leases, source, state, visible, tally⟩⟩ := desk
  cases transport with
  | crashed => cases halive
  | _ => rfl

/-- What comes back from a host leaves the next start to be granted. -/
theorem footing_bouncing (envelope : Envelope) (halive : desk.isDead = false) (hdeaf : desk.isDeaf = true) :
    (desk.bouncing envelope).footing = desk.footing.post := by
  have hfooting := (isDeaf_footing halive).trans hdeaf
  unfold Footing.post
  rw [hfooting, bouncing_of_alive envelope halive]
  rfl

/-- The footing tells what it is after a deed under a binding that lasts, if the consumer does not fail. -/
theorem footing_perform (hlasts : Lasts ⟨epoch, some surface⟩ desk deed) (hallows : desk.Allows deed)
    (halive : desk.isDead = false) (hstill : (desk.perform deed).isDead = false) :
    (desk.perform deed).footing = desk.footing.follow deed := by
  obtain ⟨hbefore, hafter⟩ := hlasts
  cases deed with
  | attach next zeroCopy => exact absurd hbefore (link_of_no_bond hallows.1)
  | unbind => exact absurd hafter (link_of_no_bond (bond_unbind desk))
  | close => exact absurd hbefore (link_of_no_bond hallows.2)
  | announce =>
    have hannounced := desk.announced
    show desk.announce.footing = if desk.presenter.visible then _ else _
    generalize desk.announce = after at hannounced ⊢
    cases hannounced with
    | shown hvisible => rw [if_pos hvisible]
    | told hvisible hhears =>
      rw [if_neg (by simp [hvisible])]
      exact footing_posting _ halive hhears
    | bounced hvisible hdeaf =>
      rw [if_neg (by simp [hvisible])]
      exact footing_bouncing _ halive hdeaf
  | setVisible visible =>
    have hasked := desk.asked visible
    have hasking : (desk.asking visible).isDead = false := halive
    show (desk.setVisible visible).footing = (desk.asking visible).footing.post
    generalize desk.setVisible visible = after at hasked ⊢
    cases hasked with
    | kept hunbound => exact absurd hbefore (link_of_unbound hunbound)
    | told _ hhears => exact footing_posting _ hasking hhears
    | bounced _ hdeaf => exact footing_bouncing _ hasking hdeaf
  | submit frame =>
    have hsubmitted := desk.submitted frame
    have hadmits := admits_of_link hbefore
    have hleased : (desk.lease frame).isDead = false := halive
    show (desk.submit frame).2.footing = if desk.presenter.standing.admits then _ else _
    rw [← hadmits]
    generalize desk.submit frame = result at hsubmitted ⊢
    cases hsubmitted with
    | dropped _ hrefused => rw [if_neg (by simp [hrefused])]; rfl
    | queued _ _ hadmitted _ hhears =>
      rw [if_pos hadmitted]
      exact footing_posting _ hleased hhears
    | bounced _ _ hadmitted _ hdeaf =>
      rw [if_pos hadmitted]
      exact footing_bouncing _ hleased hdeaf
  | advance =>
    have hkind := advanced desk
    show desk.advance.footing = desk.footing
    generalize hnext : desk.advance = after at hkind ⊢
    cases hkind with
    | resting => rfl
    | taken envelope queue htransport =>
      unfold footing
      rw [htransport]
      rfl
    | waiting call next queue stage htransport =>
      unfold footing
      rw [htransport]
      rfl
    | returned call queue stage htransport =>
      unfold footing
      rw [htransport]
      rfl
    | failed =>
      have hdead : desk.advance.isDead = true := by rw [hnext]; rfl
      cases hdead.symm.trans hstill
  | destroy gone => rfl
  | arrange arrangement => cases arrangement <;> rfl

/-- Somebody who writes down what is put into the queue while a surface is bound. -/
def prompter : Observer (List Envelope) where
  blank := []
  note desk deed script := script ++ desk.cues deed

/-- Under a binding that lasts and while the consumer does not fail, the footing at the beginning tells all that is put
into the queue. -/
theorem notes_eq_plan {deeds : List Deed} {script : List Envelope} (halive : desk.isDead = false)
    (hallows : Throughout Allows deeds desk)
    (hunfailing : Throughout (fun desk deed => (desk.perform deed).isDead = false) deeds desk)
    (hlasts : Throughout (Lasts ⟨epoch, some surface⟩) deeds desk) :
    prompter.notes deeds desk script = script ++ desk.footing.plan epoch deeds := by
  induction deeds generalizing desk script with
  | nil => exact (List.append_nil script).symm
  | cons deed deeds ih =>
    have hfollow := footing_perform hlasts.1 hallows.1 halive hunfailing.1
    show prompter.notes deeds (desk.perform deed) (script ++ desk.cues deed) =
      script ++ (desk.footing.sends epoch deed ++ (desk.footing.follow deed).plan epoch deeds)
    rw [ih hunfailing.1 hallows.2 hunfailing.2 hlasts.2, hfollow, cues_eq hlasts.1.1 halive, List.append_assoc]

/-- The deed that an act is where a binding lasts. A bind is refused then, and nothing is torn down. -/
def Act.deed? : Act → Option Deed
  | .bind .. | .unbind | .teardown _ | .drop _ => none
  | .setVisible visible => some (.setVisible visible)
  | .setFit fit => some (.arrange (.fit fit))
  | .setState state => some (.arrange (.state state))
  | .setActiveSource source => some (.arrange (.source source))
  | .submit frame => some (.submit frame)
  | .advance => some .advance
  | .resize surface size => some (.arrange (.resize surface size))
  | .destroy surface => some (.destroy surface)
  | .arm fault => some (.arrange (.arm fault))
  | .bar refusal => some (.arrange (.bar refusal))

/-- What happens by itself puts nothing into the queue. -/
theorem cues_incident (incident : Incident) (desk : Desk) : desk.cues incident.deed = [] := by
  cases incident <;> rfl

/-- Where a binding lasts, an act comes down to its one deed. -/
theorem deeds_eq {act : Act} (hlasts : Throughout (Lasts ⟨epoch, some surface⟩) (desk.deeds act) desk) :
    desk.deeds act = act.deed?.toList := by
  -- A bind that is accepted and a teardown would end the binding with their first deed.
  have hnever : ¬ Lasts ⟨epoch, some surface⟩ desk .unbind :=
    fun hlasts => absurd hlasts.2 (link_of_no_bond (bond_unbind desk))
  cases act with
  | bind next unbound bound =>
    simp only [deeds] at hlasts ⊢
    cases htarget : desk.scene.surfaces[next]? with
    | none => rfl
    | some target =>
      cases himage : target.profile.isImage with
      | false => simp [himage, Act.deed?]
      | true =>
        rw [htarget] at hlasts
        simp only [himage, if_true] at hlasts
        exact absurd hlasts.1 hnever
  | unbind => exact absurd hlasts.1 hnever
  | teardown => exact absurd hlasts.1 hnever
  | drop => exact absurd hlasts.1 hnever
  | _ => rfl

/-- So do several acts. -/
theorem course_eq {acts : List Act} (hlasts : Throughout (Lasts ⟨epoch, some surface⟩) (desk.course acts) desk) :
    desk.course acts = acts.filterMap Act.deed? := by
  induction acts generalizing desk with
  | nil => rfl
  | cons act acts ih =>
    obtain ⟨hfirst, hrest⟩ := throughout_append.1 hlasts
    rw [performAll_deeds] at hrest
    show desk.deeds act ++ (desk.act act).course acts = _
    rw [ih hrest, deeds_eq hfirst, List.filterMap_cons]
    cases act.deed? <;> rfl

/-- The steps among the deeds of incidents are the steps among them. -/
theorem steps_incidents (incidents : List Incident) :
    (incidents.map Incident.deed).filter (!·.isStep) =
      (incidents.filter (· ≠ .advance)).map Incident.deed := by
  rw [List.filter_map]
  refine congrArg (List.map Incident.deed) (List.filter_congr fun incident _ => ?_)
  cases incident <;> rfl

/-- So it is with acts. -/
theorem steps_acts (acts : List Act) :
    (acts.filterMap Act.deed?).filter (!·.isStep) = (acts.filter (· ≠ .advance)).filterMap Act.deed? := by
  induction acts with
  | nil => rfl
  | cons act acts ih =>
    cases act <;> simpa [List.filterMap_cons, Act.deed?, Deed.isStep] using ih

/-- What is put into the queue in an act under a binding that lasts is what the presenter's standing admits, if there is
a consumer to be had. -/
theorem notes_act {act : Act} {script : List Envelope}
    (hserved : Throughout (fun desk _ => desk.isDeaf = false) (desk.deeds act) desk)
    (hlasts : Throughout (Lasts ⟨epoch, some surface⟩) (desk.deeds act) desk) :
    prompter.notes (desk.deeds act) desk script =
      script ++ desk.presenter.standing.sends epoch act := by
  have hdeeds := deeds_eq hlasts
  cases act with
  | submit frame =>
    have hcue := cue_submit frame hlasts.1.1
    rw [hserved.1] at hcue
    exact congrArg (script ++ ·) (hcue.trans (by simp [Standing.sends]))
  | setVisible visible =>
    have hcue : desk.cues (.setVisible visible) = [.visibility visible] := by
      simp only [cues, hserved.1]
      rfl
    exact congrArg (script ++ ·) hcue
  | bind | unbind | teardown | drop =>
    rw [hdeeds]
    exact (List.append_nil script).symm
  | _ => rfl

/-- So it is in several acts. -/
theorem notes_eq_standing {acts : List Act} {script : List Envelope} (hserved : desk.Served acts)
    (hlasts : Throughout (Lasts ⟨epoch, some surface⟩) (desk.course acts) desk) :
    prompter.notes (desk.course acts) desk script =
      script ++ desk.presenter.standing.plan epoch acts := by
  induction acts generalizing desk script with
  | nil => exact (List.append_nil script).symm
  | cons act acts ih =>
    obtain ⟨hfirst, hrest⟩ := throughout_append.1 hlasts
    obtain ⟨hone, hmore⟩ := throughout_append.1 hserved
    rw [performAll_deeds] at hrest hmore
    show prompter.notes (desk.deeds act ++ (desk.act act).course acts) desk script = _
    rw [Observer.notes_append, performAll_deeds, notes_act hone hfirst, ih hmore hrest,
      standing_act, List.append_assoc]
    rfl

end Desk

end FramePath
