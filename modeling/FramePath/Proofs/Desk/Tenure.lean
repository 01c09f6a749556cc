import FramePath.Proofs.Desk.Calm

/-!
# While one binding lasts

Epochs do not fall, so a binding that is in force before some deeds and after them was in force all the time
(`tenure`). As long as it is, no deed but a step of the consumer does more than to send what it is to send, behind the
rest (`queue_perform`).
-/

namespace FramePath

namespace Desk

variable {desk : Desk} {link : Link} {deed : Deed}

/-- The link changes with the scene only, where what is done is calm. -/
theorem link_of_scene {before after : Desk} (hcalm : Calm before after)
    (hscene : after.scene = before.scene) : after.link? = before.link? :=
  congrArg (Option.map Binding.link) (binding_of_scene hcalm hscene)

/-- Whether a bind of a surface is accepted. -/
def binds (desk : Desk) (surface : Nat) : Bool := (desk.bind surface).1.isOk

/-- It is whatever happens in the middle of it. -/
theorem binds_eq (unbound bound : List Incident) (surface : Nat) (desk : Desk) :
    desk.binds surface = (desk.bindAmid unbound bound surface).1.isOk := by
  unfold binds bind bindAmid
  split
  · rfl
  · split <;> rfl

/-- A bind is refused and changes nothing, or it begins a later epoch, which lasts unless the surface is destroyed
meanwhile. -/
theorem link_bind (unbound bound : List Incident) (surface : Nat) (hlink : desk.link? = some link) :
    desk.bindAmid unbound bound surface = (.error .incompatibleSurface, desk) ∨
      ∃ first after, link.epoch < first ∧
        (desk.bindAmid unbound bound surface).2.link? = some after ∧ Link.Loses ⟨first, some surface⟩ after := by
  rcases desk.bind_cases unbound bound surface with hrefused | ⟨zeroCopy, ⟨target, htarget, _⟩, hbound⟩
  · exact .inl hrefused
  · have hfound : (desk.unbind.elapse unbound).scene.surfaces[surface]?.isSome = true := by
      rw [isSome_elapse, isSome_unbind, htarget]
      rfl
    obtain ⟨ended, hended, hloses⟩ := link_elapse unbound (link_unbind hlink)
    obtain ⟨_, first, hfirst, hattached, _⟩ := link_attach zeroCopy hended hfound
    obtain ⟨after, hafter, hlost⟩ := link_elapse bound hfirst
    have hlater : link.epoch + 1 ≤ ended.epoch := hloses.precedes.epoch_le
    rw [hbound]
    exact .inr ⟨ended.epoch + 1, after, by omega, (link_announce _).trans hafter, hattached.trans hlost⟩

/-- No deed leads back to an earlier epoch, or changes the binding of an epoch but by ending it. -/
theorem link_perform (hlink : desk.link? = some link) (hallows : desk.Allows deed) :
    ∃ after, (desk.perform deed).link? = some after ∧ link.Precedes after := by
  cases deed with
  | attach surface zeroCopy =>
    obtain ⟨_, after, hafter, hloses, _⟩ := link_attach zeroCopy hlink hallows.2.isSome
    exact ⟨after, hafter, .inr hloses.precedes.epoch_le⟩
  | announce => exact ⟨link, (link_announce desk).trans hlink, .inl rfl⟩
  | unbind => exact ⟨_, link_unbind hlink, .inr (Nat.lt_succ_self _)⟩
  | setVisible visible =>
    have hsame := link_of_scene (calm hallows (nofun)) (scene_setVisible visible desk)
    exact ⟨link, hsame.trans hlink, .inl rfl⟩
  | submit frame =>
    have hsame := link_of_scene (calm hallows (nofun)) (scene_submit frame desk)
    exact ⟨link, hsame.trans hlink, .inl rfl⟩
  | advance => exact ⟨link, (stepped desk).link.trans hlink, .inl rfl⟩
  | close => exact ⟨link, (mailed_close hallows.1).link.trans hlink, .inl rfl⟩
  | destroy surface =>
    obtain ⟨after, hafter, hloses, _⟩ := Scene.link_destroy surface hlink
    exact ⟨after, hafter, hloses.precedes⟩
  | arrange arrangement => exact ⟨link, (link_arrange arrangement desk).trans hlink, .inl rfl⟩

/-- So it is with several deeds. -/
theorem link_performAll {deeds : List Deed} (hlink : desk.link? = some link)
    (hallows : Throughout Allows deeds desk) :
    ∃ after, (desk.performAll deeds).link? = some after ∧ link.Precedes after := by
  induction deeds generalizing desk link with
  | nil => exact ⟨link, hlink, .inl rfl⟩
  | cons deed deeds ih =>
    obtain ⟨next, hnext, hfirst⟩ := link_perform hlink hallows.1
    obtain ⟨after, hafter, hrest⟩ := ih hnext hallows.2
    exact ⟨after, hafter, hfirst.trans hrest⟩

/-- The same binding is in force before a deed and after it. -/
def Lasts (link : Link) (desk : Desk) (deed : Deed) : Prop :=
  desk.link? = some link ∧ (desk.perform deed).link? = some link

/-- A binding that is in force before some deeds and after them is in force all the time. -/
theorem tenure {deeds : List Deed} (hallows : Throughout Allows deeds desk)
    (hlink : desk.link? = some link) (hlast : (desk.performAll deeds).link? = some link) :
    Throughout (Lasts link) deeds desk := by
  induction deeds generalizing desk with
  | nil => exact trivial
  | cons deed deeds ih =>
    obtain ⟨next, hnext, hfirst⟩ := link_perform hlink hallows.1
    obtain ⟨after, hafter, hrest⟩ := link_performAll hnext hallows.2
    cases hlast.symm.trans hafter
    have hsame : next = link := by
      rcases hfirst with hsame | hlater
      · exact hsame
      · exact absurd hrest.epoch_le (Nat.not_le_of_lt hlater)
    subst hsame
    exact ⟨⟨hlink, hnext⟩, ih hallows.2 hnext hlast⟩

/-- What a deed puts into the queue while a surface is bound. -/
def cues (desk : Desk) : Deed → List Envelope
  | .announce => if desk.presenter.visible || desk.isDeaf then [] else [.visibility false]
  | .setVisible visible => if desk.isDeaf then [] else [.visibility visible]
  | .submit frame =>
    match (desk.submit frame).1 with
    | .queued => [.frame frame desk.epoch]
    | .dropped => []
  | _ => []

variable {epoch surface : Nat}

/-- While a binding lasts, so do its terms. -/
theorem terms_lasts (hlasts : Lasts ⟨epoch, some surface⟩ desk deed) (hallows : desk.Allows deed) :
    (desk.perform deed).terms? = desk.terms? := by
  obtain ⟨hbefore, hafter⟩ := hlasts
  by_cases hother : deed = .advance
  · subst hother
    exact terms_advance desk
  · obtain ⟨zeroCopy, hterms⟩ := terms_of_link hafter
    obtain ⟨binding, hbinding, hlinked, _⟩ := binding_of_terms hterms
    have hsurface : binding.surface = some surface := congrArg Link.surface hlinked
    rcases bound_perform hallows hother hbinding hsurface with ⟨fit, hsame⟩ | ⟨before, _, _, _, hearlier, hnew⟩
    · unfold terms?
      rw [hbinding, hsame]
      rfl
    · -- A new binding would be of a later epoch.
      have hlink := link_of_binding hearlier
      have hsame : before.epoch = epoch := congrArg Link.epoch (Option.some.inj (hlink.symm.trans hbefore))
      have hlater : before.epoch + 1 = epoch := by
        have hepoch : binding.epoch = epoch := congrArg Link.epoch hlinked
        rw [hnew] at hepoch
        exact hepoch
      omega

/-- What comes back while the consumer lives leaves the queue. -/
theorem queue_bouncing (envelope : Envelope) (halive : desk.isDead = false) :
    (desk.bouncing envelope).presenter.mailbox.transport.queue = desk.presenter.mailbox.transport.queue := by
  rw [bouncing_of_alive envelope halive]
  rfl

/-- While a binding lasts and the consumer lives, a deed that is not a step of the consumer puts what it sends at the
end of the queue. -/
theorem queue_perform (hlasts : Lasts ⟨epoch, some surface⟩ desk deed) (hallows : desk.Allows deed)
    (hother : deed ≠ .advance) (halive : desk.isDead = false) :
    (desk.perform deed).presenter.mailbox.transport.queue =
      desk.presenter.mailbox.transport.queue ++ desk.cues deed := by
  obtain ⟨hbefore, hafter⟩ := hlasts
  cases deed with
  | attach next zeroCopy => exact absurd hbefore (link_of_no_bond hallows.1)
  | announce =>
    have hannounced := desk.announced
    show desk.announce.presenter.mailbox.transport.queue = _
    simp only [cues]
    generalize desk.announce = after at hannounced ⊢
    cases hannounced with
    | shown hvisible => simp [hvisible]
    | told hvisible hhears => simp [hvisible, hhears, queue_posting _ halive]
    | bounced hvisible hdeaf => simp [hdeaf, queue_bouncing _ halive]
  | unbind =>
    show desk.unbind.presenter.mailbox.transport.queue = _
    rw [presenter_unbind]
    exact (List.append_nil _).symm
  | setVisible visible =>
    have hasked := desk.asked visible
    have hstill : (desk.asking visible).isDead = false := halive
    show (desk.setVisible visible).presenter.mailbox.transport.queue = _
    simp only [cues]
    generalize desk.setVisible visible = after at hasked ⊢
    cases hasked with
    | kept hunbound => exact absurd hbefore (link_of_unbound hunbound)
    | told _ hhears =>
      rw [hhears]
      exact queue_posting _ hstill
    | bounced _ hdeaf =>
      rw [hdeaf]
      exact (queue_bouncing _ hstill).trans (List.append_nil _).symm
  | submit frame =>
    have hsubmitted := desk.submitted frame
    have hepoch := epoch_of_link hbefore
    have hstill : (desk.lease frame).isDead = false := halive
    show (desk.submit frame).2.presenter.mailbox.transport.queue = _
    simp only [cues]
    generalize desk.submit frame = result at hsubmitted ⊢
    cases hsubmitted with
    | dropped => exact (List.append_nil _).symm
    | queued sent target hadmits hlink =>
      have hsent : sent = desk.epoch := (epoch_of_link hlink).symm
      rw [hsent]
      exact queue_posting _ hstill
    | bounced => exact (queue_bouncing _ hstill).trans (List.append_nil _).symm
  | advance => exact absurd rfl hother
  | close => exact absurd hbefore (link_of_no_bond hallows.2)
  | destroy gone => exact (List.append_nil _).symm
  | arrange arrangement => cases arrangement <;> exact (List.append_nil _).symm

end Desk

end FramePath
