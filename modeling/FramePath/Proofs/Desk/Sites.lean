import FramePath.Proofs.Desk.Effects

/-!
# Surfaces that are there, and epochs that have begun

Two facts that every deed keeps: a surface that is bound, or to which a call is on its way, is one of the scene,
and no frame is on its way under an epoch that has not begun. `Sited` says so, and `Sited.perform` that it
is kept.
-/

namespace FramePath

open Renderer (Call Job)

namespace Renderer.Call

/-- The surface to which a call is on its way. -/
def surface? : Call → Option Nat
  | taken _ => none
  | approaching job _ | sizing job | writing job | marking job | lending job => some job.surface
  | revealing _ surface | showing _ surface => some surface

end Renderer.Call

namespace Backstage.Resumed

variable {call next : Call} {stage after : Backstage}

/-- A call goes on for the same envelope. -/
theorem envelope (hresumed : Resumed call stage (.waiting next) after) :
    next.envelope = call.envelope := by
  cases hresumed <;> rfl

/-- A call that goes on has left its beginning behind. -/
theorem ne_taken (hresumed : Resumed call stage (.waiting next) after) (envelope : Envelope) :
    next ≠ .taken envelope := by
  rintro rfl
  cases hresumed

/-- The surface to which a call goes on is the one it was on its way to, or the one bound. -/
theorem surface {surface : Nat} (hresumed : Resumed call stage (.waiting next) after)
    (hsurface : next.surface? = some surface) : call.surface? = some surface ∨
      ∃ epoch, stage.scene.link? stage.renderer.owner = some ⟨epoch, some surface⟩ := by
  cases hresumed with
  | accepted frame epoch stage binding bound hbinding hbound =>
    cases hsurface
    refine .inr ⟨binding.epoch, ?_⟩
    unfold Scene.link?
    rw [hbinding]
    exact congrArg some (congrArg (Link.mk binding.epoch) hbound)
  | revealing visible stage bound hbound =>
    cases hsurface
    obtain ⟨binding, hbinding, hsurface⟩ := Option.bind_eq_some_iff.1 hbound
    refine .inr ⟨binding.epoch, ?_⟩
    unfold Scene.link?
    rw [hbinding]
    exact congrArg some (congrArg (Link.mk binding.epoch) hsurface)
  | sizing | writing | lending | sized | written | showing => exact .inl hsurface

end Backstage.Resumed

namespace Desk

/-- The envelopes that are not dealt with: the one in hand, and those in the queue. -/
def mail (desk : Desk) : List Envelope :=
  (desk.presenter.mailbox.transport.hand Backstage).toList ++
    desk.presenter.mailbox.transport.queue

/-- The surface bound and those to which the call in progress is on its way are there, and no envelope is of a
later epoch than the binding. -/
structure Sited (desk : Desk) : Prop where
  link : ∃ link, desk.link? = some link
  bound : ∀ {epoch surface}, desk.link? = some ⟨epoch, some surface⟩ →
    surface < desk.scene.surfaces.length
  call : ∀ {call surface}, desk.call? = some call → call.surface? = some surface →
    surface < desk.scene.surfaces.length
  dated : ∀ {frame epoch}, .frame frame epoch ∈ desk.mail → epoch ≤ desk.epoch

variable {desk after : Desk} {epoch surface : Nat}

/-- The epoch of a desk is that of its link. -/
theorem epoch_of_link {link : Link} (hlink : desk.link? = some link) : desk.epoch = link.epoch := by
  unfold epoch
  rw [hlink]
  rfl

/-- The surface of a link is the one bound. -/
theorem boundSurface_of_link (hlink : desk.link? = some ⟨epoch, some surface⟩) :
    desk.scene.boundSurface? desk.owner = some surface := by
  obtain ⟨binding, hbinding, hsame⟩ := Option.map_eq_some_iff.1 hlink
  unfold Scene.boundSurface?
  rw [hbinding]
  exact congrArg Link.surface hsame

/-- The surface bound is that of a link. -/
theorem link_of_boundSurface (hbound : desk.scene.boundSurface? desk.owner = some surface) :
    ∃ epoch, desk.link? = some ⟨epoch, some surface⟩ := by
  obtain ⟨binding, hbinding, hsurface⟩ := Option.bind_eq_some_iff.1 hbound
  exact ⟨binding.epoch, link_of_bound hbinding hsurface⟩

/-- What waits in a mailbox whose transport is known. -/
theorem mail_running {call : Option Call} {queue : List Envelope}
    (htransport : desk.presenter.mailbox.transport = .running call queue) :
    desk.mail = (call.map Call.envelope).toList ++ queue := by
  unfold mail
  rw [htransport]
  rfl

/-- While no call is in progress only the queue waits. -/
theorem mail_of_quiet (hquiet : desk.call? = none) :
    desk.mail = desk.presenter.mailbox.transport.queue := by
  have hhand : desk.presenter.mailbox.transport.hand Backstage = none := by
    unfold Transport.hand
    rw [show desk.presenter.mailbox.transport.call? = none from hquiet]
    rfl
  unfold mail
  rw [hhand]
  rfl

/-- While the consumer has nothing to do nothing is on its way. -/
theorem mail_of_idle (hidle : desk.presenter.mailbox.isIdle = true) : desk.mail = [] := by
  obtain ⟨hcall, hqueue⟩ := quiet_of_idle hidle
  rw [mail_of_quiet hcall, hqueue]

/-- A step of the consumer deals with the envelope in hand or with none, unless it fails and loses all. -/
theorem mail_advance (desk : Desk) : desk.advance.mail.Sublist desk.mail := by
  have hstep := advanced desk
  generalize desk.advance = after at hstep ⊢
  cases hstep with
  | resting => exact List.Sublist.refl _
  | taken envelope queue htransport =>
    rw [mail_running htransport]
    exact List.Sublist.refl _
  | waiting call next queue stage htransport hresumed =>
    rw [mail_running htransport]
    show (next.envelope :: queue).Sublist (call.envelope :: queue)
    exact hresumed.envelope ▸ List.Sublist.refl _
  | returned call queue stage htransport =>
    rw [mail_running htransport]
    exact List.sublist_cons_self _ _
  | failed => exact List.nil_sublist _

/-- Putting an envelope into the mailbox leaves the call in progress alone. -/
theorem call_posting (envelope : Envelope) (desk : Desk) :
    (desk.posting envelope).call? = desk.call? := by
  obtain ⟨scene, ⟨id, ⟨transport, count, refusal⟩, renderer, leases, source, state, visible, tally⟩⟩ := desk
  cases transport <;> rfl

/-- What is sent waits behind the rest. -/
theorem queue_posting (envelope : Envelope) (halive : desk.isDead = false) :
    (desk.posting envelope).presenter.mailbox.transport.queue =
      desk.presenter.mailbox.transport.queue ++ [envelope] := by
  obtain ⟨scene, ⟨id, ⟨transport, count, refusal⟩, renderer, leases, source, state, visible, tally⟩⟩ := desk
  cases transport with
  | absent => rfl
  | running call queue => rfl
  | crashed => cases halive

/-- What is sent is the last to be dealt with. -/
theorem mail_posting (envelope : Envelope) (halive : desk.isDead = false) :
    (desk.posting envelope).mail = desk.mail ++ [envelope] := by
  have hcall : (desk.posting envelope).presenter.mailbox.transport.call? =
      desk.presenter.mailbox.transport.call? := call_posting envelope desk
  unfold mail Transport.hand
  rw [hcall, queue_posting envelope halive, List.append_assoc]

/-- Nothing comes to a dead consumer. -/
theorem mail_posting_of_dead (envelope : Envelope) (hdead : desk.isDead = true) :
    (desk.posting envelope).mail = [] := by
  obtain ⟨scene, ⟨id, ⟨transport, count, refusal⟩, renderer, leases, source, state, visible, tally⟩⟩ := desk
  cases transport <;> cases hdead
  rfl

/-- A consumer that hears has not failed. -/
theorem alive_of_hearing (hhearing : desk.isDeaf = false) : desk.isDead = false :=
  (Bool.or_eq_false_iff.1 hhearing).1

/-- After a close and after an envelope has come back whose binding the renderer goes by is as before. -/
theorem owner_drained (leases : Leases) (tally : MailTally) (desk : Desk) :
    (desk.drained leases tally).owner = desk.owner :=
  (letGo_spec desk.presenter.renderer).1

/-- A closed mailbox leaves the link as it is. -/
theorem link_drained (leases : Leases) (tally : MailTally) (desk : Desk) :
    (desk.drained leases tally).link? = desk.link? := by
  unfold link?
  rw [owner_drained]
  rfl

/-- So does an envelope that comes back. -/
theorem link_bouncing (envelope : Envelope) (desk : Desk) :
    (desk.bouncing envelope).link? = desk.link? := by
  unfold bouncing
  dsimp only
  split
  · exact link_drained (desk.backstage.release envelope.frames).drain.leases
      desk.presenter.mailbox.tally desk
  · rfl

/-- A surface that is bound after a loss was bound before it. -/
theorem link_of_loses {link lost : Link} {epoch surface : Nat} (hlink : desk.link? = some link)
    (hlost : after.link? = some lost) (hloses : link.Loses lost)
    (hbound : after.link? = some ⟨epoch, some surface⟩) :
    desk.link? = some ⟨epoch, some surface⟩ := by
  cases hlost.symm.trans hbound
  rcases hloses with hsame | ⟨_, hnone⟩
  · rw [hlink, hsame]
  · cases hnone

/-- Arrangements leave the link as it is. -/
theorem link_arrange (arrangement : Arrangement) (desk : Desk) :
    (desk.arrange arrangement).link? = desk.link? := by
  have hsame : (desk.arrange arrangement).binding?.map Binding.link = desk.binding?.map Binding.link :=
    arrange_binding (fun _ _ => rfl) arrangement desk
  exact hsame

/-- What is done aside from the mail leaves it. -/
theorem Aside.mail (haside : Aside desk after) : after.mail = desk.mail := by
  unfold Desk.mail
  rw [haside.transport]

namespace Sited

/-- Leases, counts and what is asked for are no matter to the sites. -/
theorem papers (hsited : desk.Sited) {leases : Leases} {visible : Bool} {tally : AdmissionTally} :
    Sited { desk with presenter := { desk.presenter with leases, visible, tally } } :=
  ⟨hsited.link, hsited.bound, hsited.call, hsited.dated⟩

/-- What is done aside from the mail keeps the sites if the link lies within them and no epoch comes back. -/
theorem aside {link : Link} (hsited : desk.Sited) (haside : Aside desk after)
    (hlink : after.link? = some link) (hlater : desk.epoch ≤ link.epoch)
    (hbound : ∀ surface, link.surface = some surface → surface < desk.scene.surfaces.length) :
    after.Sited where
  link := ⟨link, hlink⟩
  bound {epoch surface} hsome := by
    cases hlink.symm.trans hsome
    rw [haside.length]
    exact hbound surface rfl
  call hcall hsurface := by
    rw [haside.length]
    exact hsited.call (haside.call.symm.trans hcall) hsurface
  dated {frame epoch} hmem := by
    rw [haside.mail] at hmem
    rw [epoch_of_link hlink]
    exact Nat.le_trans (hsited.dated hmem) hlater

/-- A loss of the binding leaves the sites. -/
theorem loses {link : Link} (hsited : desk.Sited) (haside : Aside desk after)
    (hsome : desk.link? = some link) {lost : Link} (hlost : after.link? = some lost)
    (hloses : link.Loses lost) : after.Sited := by
  have hepoch := epoch_of_link hsome
  refine hsited.aside haside hlost ?_ ?_
  · rw [hepoch]
    exact hloses.precedes.epoch_le
  · intro surface hsurface
    rcases hloses with rfl | ⟨_, hnone⟩
    · obtain ⟨epoch, bound⟩ := lost
      cases hsurface
      exact hsited.bound hsome
    · rw [hnone] at hsurface
      cases hsurface

/-- A surface that is there may be attached. -/
theorem attach {surface : Nat} (hsited : desk.Sited) (zeroCopy : Bool)
    (hfound : desk.scene.surfaces[surface]?.isSome = true) :
    (desk.attach surface zeroCopy).Sited := by
  obtain ⟨link, hlink⟩ := hsited.link
  obtain ⟨_, after, hafter, hloses, _⟩ := link_attach zeroCopy hlink hfound
  have hepoch := epoch_of_link hlink
  refine hsited.aside (aside_attach surface zeroCopy desk) hafter ?_ ?_
  · rw [hepoch]
    exact Nat.le_trans (Nat.le_add_right _ 1) hloses.precedes.epoch_le
  · intro bound hbound
    rcases hloses with rfl | ⟨_, hnone⟩
    · cases hbound
      obtain ⟨target, htarget⟩ := Option.isSome_iff_exists.1 hfound
      exact (List.getElem?_eq_some_iff.1 htarget).1
    · rw [hnone] at hbound
      cases hbound

/-- If a surface is bound after another has been attached, it is that one, under a new epoch. -/
theorem attached {surface other epoch : Nat} {zeroCopy : Bool} (hsited : desk.Sited)
    (hfound : desk.scene.surfaces[surface]?.isSome = true)
    (hlink : (desk.attach surface zeroCopy).link? = some ⟨epoch, some other⟩) :
    epoch = desk.epoch + 1 ∧ other = surface := by
  obtain ⟨link, hbefore⟩ := hsited.link
  obtain ⟨_, after, hafter, hloses, _⟩ := link_attach zeroCopy hbefore hfound
  rw [epoch_of_link hbefore]
  cases hafter.symm.trans hlink
  rcases hloses with hsame | ⟨_, hnone⟩
  · cases hsame
    exact ⟨rfl, rfl⟩
  · cases hnone

/-- An envelope may be sent under the epoch in force. -/
theorem posting (hsited : desk.Sited) {envelope : Envelope}
    (hdate : ∀ frame epoch, envelope = .frame frame epoch → epoch ≤ desk.epoch) :
    (desk.posting envelope).Sited where
  link := hsited.link
  bound := hsited.bound
  call hcall hsurface := hsited.call ((call_posting envelope desk).symm.trans hcall) hsurface
  dated {frame epoch} hmem := by
    show epoch ≤ desk.epoch
    cases hdead : desk.isDead with
    | false =>
      rw [mail_posting envelope hdead] at hmem
      rcases List.mem_append.1 hmem with hold | hnew
      · exact hsited.dated hold
      · exact hdate frame epoch (List.mem_singleton.1 hnew).symm
    | true =>
      rw [mail_posting_of_dead envelope hdead] at hmem
      cases hmem

/-- Closing the mailbox leaves the sites. -/
theorem drained (hsited : desk.Sited) (leases : Leases) (tally : MailTally) :
    (desk.drained leases tally).Sited where
  link := by
    rw [link_drained]
    exact hsited.link
  bound {epoch surface} hlink := by
    rw [link_drained] at hlink
    exact hsited.bound hlink
  call hcall := by cases hcall
  dated hmem := by cases hmem

/-- So does a refusal of the host. -/
theorem turnedAway (hsited : desk.Sited) (leases : Leases) : (desk.turnedAway leases).Sited :=
  ⟨hsited.link, hsited.bound, hsited.call, hsited.dated⟩

/-- An envelope that comes back leaves the sites. -/
theorem bouncing (hsited : desk.Sited) (envelope : Envelope) : (desk.bouncing envelope).Sited := by
  unfold Desk.bouncing
  dsimp only
  split
  · exact (hsited.drained _ _).papers
  · exact (hsited.turnedAway _).papers

/-- A step of the consumer leaves the sites: a call that begins is on its way to the surface bound. -/
theorem advance (hsited : desk.Sited) : desk.advance.Sited := by
  have hstep := stepped desk
  have hlength : desk.advance.scene.surfaces.length = desk.scene.surfaces.length := by
    rw [← Scene.length_view Surface.listeners, hstep.listeners, Scene.length_view]
  refine ⟨?_, ?_, ?_, ?_⟩
  · rw [hstep.link]
    exact hsited.link
  · intro epoch surface hlink
    rw [hstep.link] at hlink
    rw [hlength]
    exact hsited.bound hlink
  · intro call surface hcall hsurface
    rw [hlength]
    have hkind := advanced desk
    generalize desk.advance = after at hkind hcall
    cases hkind with
    | resting => exact hsited.call hcall hsurface
    | taken envelope queue =>
      cases hcall
      cases hsurface
    | waiting before next queue stage htransport hresumed =>
      cases hcall
      have hbefore := call_running htransport
      rcases hresumed.surface hsurface with hsame | ⟨epoch, hbound⟩
      · exact hsited.call hbefore hsame
      · exact hsited.bound hbound
    | returned => cases hcall
    | failed => cases hcall
  · intro frame epoch hmem
    have hepoch : desk.advance.epoch = desk.epoch := by
      unfold Desk.epoch
      rw [hstep.link]
    rw [hepoch]
    exact hsited.dated ((mail_advance desk).subset hmem)

/-- Every deed leaves the sites. -/
theorem perform {deed : Deed} (hsited : desk.Sited) (hallows : desk.Allows deed) :
    (desk.perform deed).Sited := by
  obtain ⟨link, hlink⟩ := hsited.link
  cases deed with
  | attach surface zeroCopy => exact hsited.attach zeroCopy hallows.2.isSome
  | announce =>
    have hannounced := desk.announced
    show desk.announce.Sited
    generalize desk.announce = after at hannounced ⊢
    cases hannounced with
    | shown => exact hsited
    | told => exact hsited.posting nofun
    | bounced => exact hsited.bouncing _
  | unbind =>
    exact hsited.loses (aside_unbind desk) hlink (link_unbind hlink) (.inr ⟨Nat.lt_succ_self _, rfl⟩)
  | setVisible visible =>
    have hkept : (desk.asking visible).Sited := hsited.papers
    have hasked := desk.asked visible
    show (desk.setVisible visible).Sited
    generalize desk.setVisible visible = after at hasked ⊢
    cases hasked with
    | kept => exact hkept
    | told => exact hkept.posting nofun
    | bounced => exact hkept.bouncing _
  | submit frame =>
    have hleased : (desk.lease frame).Sited := hsited.papers
    have hsubmitted := desk.submitted frame
    show (desk.submit frame).2.Sited
    generalize desk.submit frame = result at hsubmitted ⊢
    cases hsubmitted with
    | dropped => exact hsited.papers
    | queued epoch surface hadmits hlink =>
      have hqueued : ((desk.lease frame).posting (.frame frame epoch)).Sited := by
        refine hleased.posting fun other later hsame => ?_
        cases hsame
        exact Nat.le_of_eq (epoch_of_link (show (desk.lease frame).link? = _ from hlink)).symm
      exact hqueued.papers
    | bounced => exact hleased.bouncing _
  | advance => exact hsited.advance
  | close =>
    show desk.close.Sited
    rcases close_of_quiet hallows.1 with ⟨_, hsame⟩ | ⟨_, leases, hclosed⟩
    · rw [hsame]
      exact hsited
    · rw [hclosed]
      exact hsited.drained _ _
  | destroy surface =>
    obtain ⟨after, hafter, hloses, _⟩ := Scene.link_destroy surface hlink
    exact hsited.loses (aside_destroy surface desk) hlink hafter hloses
  | arrange arrangement =>
    exact hsited.loses (aside_arrange arrangement desk) hlink
      ((link_arrange arrangement desk).trans hlink) (.inl rfl)

end Sited

/-- A new presenter is bound to nothing, and nothing is on its way. -/
theorem sited_opened (surfaces : List Surface) (id : Nat) : (opened surfaces id).Sited where
  link := ⟨⟨0, none⟩, rfl⟩
  bound hlink := by cases hlink
  call hcall := by cases hcall
  dated hmem := by cases hmem

/-- After every run of a new presenter the sites are there. -/
theorem sited_run (surfaces : List Surface) (id : Nat) (acts : List Act) :
    ((opened surfaces id).run acts).Sited :=
  run_of_deeds (fun _ _ hallows hkept => hkept.perform hallows) acts (sited_opened surfaces id)

end Desk

end FramePath
