import FramePath.Proofs.Desk.Loans
import FramePath.Proofs.Desk.Tenure

/-!
# Frames that are stranded by the end of their binding

A frame whose handling has not begun when its binding ends comes to no surface any more. `Stranded` says where such a
frame can be: on its way for bindings that have ended, and nowhere else. Every deed leaves it stranded but a new submit
of it (`Stranded.perform`). So in no run is it given to a surface, and once the consumer has nothing to do no
reference to it is left (`Stranded.released`).
-/

namespace FramePath

open Renderer (Call Job)

/-- The frame of a call that was only just taken. -/
def Renderer.Call.unbegun? : Call → Option SharedFrame
  | taken envelope => envelope.frame?
  | _ => none

namespace Desk

/-- The frames whose handling has not begun: one that was only just taken, and those in the queue. -/
def waiting (desk : Desk) : List SharedFrame :=
  (desk.call?.bind Call.unbegun?).toList ++
    desk.presenter.mailbox.transport.queue.flatMap Envelope.frames

/-- A frame is on its way once for each time that it waits, and once more while it is being handled. -/
theorem copies_mail (mark : Nat) (desk : Desk) :
    copies mark (desk.mail.flatMap Envelope.frames) =
      copies mark (desk.job?.map Job.frame).toList + copies mark desk.waiting := by
  have hhand : copies mark ((desk.call?.map Call.envelope).toList.flatMap Envelope.frames) =
      copies mark (desk.job?.map Job.frame).toList + copies mark (desk.call?.bind Call.unbegun?).toList := by
    unfold job?
    cases desk.call? with
    | none => rfl
    | some call =>
      rw [Option.map_some, Option.toList_some, List.flatMap_singleton]
      cases call with
      | taken => exact (Nat.zero_add _).symm
      | _ => rfl
  have hmail : copies mark (desk.mail.flatMap Envelope.frames) =
      copies mark ((desk.call?.map Call.envelope).toList.flatMap Envelope.frames) +
        copies mark (desk.presenter.mailbox.transport.queue.flatMap Envelope.frames) := by
    unfold mail copies
    rw [List.flatMap_append, List.countP_append]
    rfl
  have hwaiting : copies mark desk.waiting =
      copies mark (desk.call?.bind Call.unbegun?).toList +
        copies mark (desk.presenter.mailbox.transport.queue.flatMap Envelope.frames) :=
    List.countP_append
  rw [hmail, hhand, hwaiting, Nat.add_assoc]

variable {desk after : Desk} {deed : Deed} {acts : List Act}

/-- What a step of the consumer has given to a surface is the frame of its job. -/
theorem job_of_given {showing : Showing} (hgiven : showing ∈ desk.given) :
    ∃ job, desk.job? = some job ∧ showing.frame = job.frame := by
  obtain ⟨call, hcall, hshowing⟩ := Option.bind_eq_some_iff.1 (Option.mem_toList.1 hgiven)
  rw [job_of_call hcall]
  cases call <;> cases hshowing <;> exact ⟨_, rfl, rfl⟩

/-- What a deed that is not a step of the consumer does to the mail. -/
inductive Posted (deed : Deed) (desk after : Desk) : Prop where
  | left :
      after.presenter.renderer = desk.presenter.renderer → after.mail = desk.mail →
      Posted deed desk after
  | sent (envelope) :
      after.presenter.renderer = desk.presenter.renderer → after.mail = desk.mail ++ [envelope] →
      (∀ frame ∈ envelope.frames, deed = .submit frame) →
      Posted deed desk after
  | cleared :
      after.presenter.renderer.held = none → after.mail = [] →
      Posted deed desk after

/-- A closed mailbox is empty, and nothing is held. -/
theorem posted_drained (leases : Leases) (tally : MailTally) :
    Posted deed desk (after.drained leases tally) :=
  .cleared (letGo_spec after.presenter.renderer).2.1 rfl

/-- After an envelope has come back the mailbox is closed, or as it was. -/
theorem posted_bouncing (envelope : Envelope) (hrenderer : after.presenter.renderer = desk.presenter.renderer)
    (hmail : after.mail = desk.mail) : Posted deed desk (after.bouncing envelope) := by
  cases hdead : after.isDead with
  | true =>
    rw [bouncing_of_dead envelope hdead]
    exact .cleared (letGo_spec after.presenter.renderer).2.1 rfl
  | false =>
    rw [bouncing_of_alive envelope hdead]
    exact .left hrenderer hmail

/-- What is done aside from the mail leaves it. -/
theorem Aside.posted (haside : Aside desk after) : Posted deed desk after :=
  .left haside.renderer haside.mail

/-- Every deed that is not a step of the consumer does one of the three. -/
theorem posted (hallows : desk.Allows deed) (hother : deed ≠ .advance) :
    Posted deed desk (desk.perform deed) := by
  cases deed with
  | attach surface zeroCopy => exact (aside_attach surface zeroCopy desk).posted
  | announce =>
    have hannounced := desk.announced
    show Posted _ desk desk.announce
    generalize desk.announce = after at hannounced ⊢
    cases hannounced with
    | shown => exact .left rfl rfl
    | told _ hhears =>
      exact .sent (.visibility false) rfl (mail_posting _ (alive_of_hearing hhears)) fun _ hmem => (by cases hmem)
    | bounced => exact posted_bouncing _ rfl rfl
  | unbind => exact (aside_unbind desk).posted
  | setVisible visible =>
    have hasked := desk.asked visible
    show Posted _ desk (desk.setVisible visible)
    generalize desk.setVisible visible = after at hasked ⊢
    cases hasked with
    | kept => exact .left rfl rfl
    | told hbound hhears =>
      have hstill : (desk.asking visible).isDead = false := alive_of_hearing hhears
      exact .sent (.visibility visible) rfl (mail_posting _ hstill) fun _ hmem => (by cases hmem)
    | bounced => exact posted_bouncing _ rfl rfl
  | submit frame =>
    have hsubmitted := desk.submitted frame
    show Posted _ desk (desk.submit frame).2
    generalize desk.submit frame = result at hsubmitted ⊢
    cases hsubmitted with
    | dropped => exact .left rfl rfl
    | queued epoch surface hadmits hlink hhears =>
      have hstill : (desk.lease frame).isDead = false := alive_of_hearing hhears
      refine .sent _ rfl (mail_posting (.frame frame epoch) hstill) fun sent hmem => ?_
      rw [List.mem_singleton.1 hmem]
    | bounced => exact posted_bouncing _ rfl rfl
  | advance => exact absurd rfl hother
  | close =>
    show Posted _ desk desk.close
    rcases close_of_quiet hallows.1 with ⟨_, hsame⟩ | ⟨_, leases, hclosed⟩
    · rw [hsame]
      exact .left rfl rfl
    · rw [hclosed]
      exact posted_drained _ _
  | destroy surface => exact (aside_destroy surface desk).posted
  | arrange arrangement => exact (aside_arrange arrangement desk).posted

/-- An epoch that has ended stays over with every deed. -/
theorem HasEnded.perform {epoch : Nat} (hended : desk.HasEnded epoch) (hallows : desk.Allows deed) :
    (desk.perform deed).HasEnded epoch := by
  obtain ⟨link, hlink, hover⟩ := hended
  obtain ⟨after, hafter, hprecedes⟩ := link_perform hlink hallows
  exact ⟨after, hafter, hover.later hprecedes⟩

/-- The frames with this mark are on their way for bindings that have ended and nowhere else, and none was given to a
surface since these were. -/
structure Stranded (mark : Nat) (given : List (List SharedFrame)) (desk : Desk) : Prop where
  accounted : desk.Accounted
  late : ∀ {frame : SharedFrame} {epoch}, .frame frame epoch ∈ desk.mail → frame.mark = mark →
    desk.HasEnded epoch
  unbegun : ∀ {job : Job}, desk.job? = some job → job.frame.mark ≠ mark
  unkept : ∀ {frame : SharedFrame}, desk.reserve = some frame → frame.mark ≠ mark
  unshown : ∀ place : Nat, ∃ fresh, desk.scene.given[place]? = given[place]?.map (· ++ fresh) ∧
    ∀ frame ∈ fresh, frame.mark ≠ mark

namespace Stranded

variable {mark : Nat} {given : List (List SharedFrame)}

/-- A deed that is not a step of the consumer leaves a frame stranded unless it submits it anew. -/
theorem post (hstranded : desk.Stranded mark given) (hallows : desk.Allows deed)
    (hother : deed ≠ .advance) (hnew : ∀ frame, deed = .submit frame → frame.mark ≠ mark) :
    (desk.perform deed).Stranded mark given := by
  have hcalm := calm hallows hother
  have hposted := posted hallows hother
  have haccounted := hstranded.accounted.perform deed
  have hended : ∀ {epoch}, desk.HasEnded epoch → (desk.perform deed).HasEnded epoch :=
    fun hended => hended.perform hallows
  generalize desk.perform deed = after at hcalm hposted haccounted hended ⊢
  refine ⟨haccounted, ?_, ?_, ?_, ?_⟩
  · intro frame epoch hmem hmark
    cases hposted with
    | left _ hmail => exact hended (hstranded.late (hmail ▸ hmem) hmark)
    | sent envelope _ hmail hsubmit =>
      rw [hmail] at hmem
      rcases List.mem_append.1 hmem with hold | hlast
      · exact hended (hstranded.late hold hmark)
      · cases List.mem_singleton.1 hlast
        exact absurd hmark (hnew frame (hsubmit frame (List.mem_singleton_self _)))
    | cleared _ hmail =>
      rw [hmail] at hmem
      cases hmem
  · intro job hjob
    unfold job? at hjob
    rw [hcalm.call] at hjob
    exact hstranded.unbegun hjob
  · intro frame hreserve
    unfold reserve at hreserve
    rw [hcalm.call] at hreserve
    have hsame : after.presenter.renderer = desk.presenter.renderer → frame.mark ≠ mark := by
      intro hrenderer
      rw [hrenderer] at hreserve
      exact hstranded.unkept hreserve
    cases hposted with
    | left hrenderer => exact hsame hrenderer
    | sent _ hrenderer => exact hsame hrenderer
    | cleared hheld hmail =>
      -- Nothing is on its way any more, so no call has taken over what was held.
      rw [hheld] at hreserve
      cases hcall : desk.call? with
      | none =>
        rw [hcall] at hreserve
        cases hreserve
      | some call =>
        have hhand : call.envelope ∈ after.mail := by
          unfold mail Transport.hand
          rw [show after.presenter.mailbox.transport.call? = some call from hcalm.call.trans hcall]
          exact List.mem_cons_self ..
        rw [hmail] at hhand
        cases hhand
  · intro place
    have hgiven : after.scene.given = desk.scene.given := hcalm.view Surface.aloof_given
    rw [hgiven]
    exact hstranded.unshown place

/-- What is held is another frame. -/
theorem unheld (hstranded : desk.Stranded mark given) {frame : SharedFrame}
    (hheld : desk.presenter.renderer.held = some frame) : frame.mark ≠ mark := by
  refine hstranded.unkept ?_
  cases hcall : desk.call? with
  | none =>
    unfold reserve
    rw [hcall]
    exact hheld
  | some call =>
    cases hjob : call.job? with
    | none => rw [reserve_of_no_job hcall hjob, hheld]
    | some job => cases hheld.symm.trans (hstranded.accounted.taken_over call job hcall hjob)

/-- A frame that is taken up is taken up for the binding in force, and so is another one. -/
theorem unbegun_advance (hstranded : desk.Stranded mark given) {job : Job}
    (hjob : desk.advance.job? = some job) : job.frame.mark ≠ mark := by
  have hkind := advanced desk
  have hmem := (mail_advance desk).subset (job_mem_mail hjob)
  generalize desk.advance = after at hkind hjob
  cases hkind with
  | resting => exact hstranded.unbegun hjob
  | taken => cases hjob
  | waiting call next queue stage htransport hresumed =>
    rcases hresumed.job hjob with hsame | ⟨_, hterms⟩
    · exact hstranded.unbegun ((job_of_call (call_running htransport)).trans hsame)
    · intro hmark
      obtain ⟨link, hlink, hended⟩ := hstranded.late hmem hmark
      cases hlink.symm.trans (link_of_terms hterms)
      rcases hended with hless | ⟨_, hnone⟩
      · exact absurd hless (Nat.lt_irrefl _)
      · cases hnone
  | returned => cases hjob
  | failed => cases hjob

/-- What is kept after a step was kept before, or was being handled. -/
theorem unkept_advance (hstranded : desk.Stranded mark given) {frame : SharedFrame}
    (hreserve : desk.advance.reserve = some frame) : frame.mark ≠ mark := by
  have hkind := advanced desk
  generalize desk.advance = after at hkind hreserve
  cases hkind with
  | resting => exact hstranded.unkept hreserve
  | taken => exact hstranded.unheld hreserve
  | waiting call next queue stage htransport hresumed =>
    refine hstranded.unkept ?_
    unfold reserve
    rw [call_running htransport]
    exact hresumed.reserve.symm.trans hreserve
  | returned call queue stage htransport hresumed =>
    have hcall := call_running htransport
    have hput : stage.renderer.held =
        (call.handled?.map Handled.kept?).getD desk.presenter.renderer.held :=
      hresumed.held fun job hjob => hstranded.accounted.taken_over call job hcall hjob
    have hkept := hput.symm.trans hreserve
    cases call with
    | lending job =>
      cases hkept
      exact hstranded.unbegun (job_of_call hcall)
    | revealing => exact hstranded.unheld hkept
    | showing => exact hstranded.unheld hkept
    | taken envelope =>
      cases envelope with
      | frame => cases hkept
      | visibility => exact hstranded.unheld hkept
    | _ => cases hkept
  | failed call queue stage htransport hresumed =>
    refine hstranded.unheld ?_
    cases hresumed
    exact hreserve

/-- A step of the consumer leaves a frame stranded. -/
theorem advance (hstranded : desk.Stranded mark given) : desk.advance.Stranded mark given where
  accounted := hstranded.accounted.advance
  late hmem hmark := by
    obtain ⟨link, hlink, hended⟩ := hstranded.late ((mail_advance desk).subset hmem) hmark
    exact ⟨link, (stepped desk).link.trans hlink, hended⟩
  unbegun := hstranded.unbegun_advance
  unkept := hstranded.unkept_advance
  unshown place := by
    obtain ⟨fresh, hfresh, hothers⟩ := hstranded.unshown place
    refine ⟨fresh ++ Showing.at place desk.advance.given, ?_, ?_⟩
    · rw [(stepped desk).given, hfresh, Option.map_map]
      exact congrArg (Option.map · _) (funext fun frames => List.append_assoc ..)
    · intro frame hmem
      rcases List.mem_append.1 hmem with hold | hnew
      · exact hothers frame hold
      · -- What a step gives to a surface is the frame that is being handled.
        obtain ⟨showing, hgiven, rfl⟩ := List.mem_map.1 hnew
        obtain ⟨job, hjob, hsame⟩ := job_of_given (List.mem_filter.1 hgiven).1
        rw [hsame]
        exact hstranded.unbegun_advance hjob

/-- Every deed leaves a frame stranded unless it submits it anew. -/
theorem perform (hstranded : desk.Stranded mark given) (hallows : desk.Allows deed)
    (hnew : ∀ frame, deed = .submit frame → frame.mark ≠ mark) :
    (desk.perform deed).Stranded mark given := by
  by_cases hother : deed = .advance
  · rw [hother]
    exact hstranded.advance
  · exact hstranded.post hallows hother hnew

/-- Once the consumer has nothing to do no reference to a stranded frame is left. -/
theorem released (hstranded : desk.Stranded mark given)
    (hidle : desk.presenter.mailbox.isIdle = true) : desk.presenter.references mark = 0 := by
  rw [hstranded.accounted.references_mail, mail_of_idle hidle]
  refine (Nat.zero_add _).trans ?_
  unfold copies
  refine List.countP_eq_zero.2 fun frame hmem => ?_
  simpa using hstranded.unkept (Option.mem_toList.1 hmem)

end Stranded

/-- The consumer comes to the end of its work. -/
theorem exists_idle (desk : Desk) :
    ∃ steps, (desk.run (List.replicate steps .advance)).presenter.mailbox.isIdle = true := by
  -- The induction is on the work ahead, which every step makes less.
  generalize hwork : desk.presenter.mailbox.work Backstage = work
  induction work using Nat.strongRecOn generalizing desk with
  | _ work ih =>
    cases hidle : desk.presenter.mailbox.isIdle with
    | true => exact ⟨0, hidle⟩
    | false =>
      have hless := Mailbox.work_advance_lt desk.backstage hidle
      obtain ⟨steps, hrest⟩ := ih _ (hwork ▸ hless) desk.advance rfl
      exact ⟨steps + 1, hrest⟩

/-- A frame to which all references are for waiting copies is stranded when the epochs of all that is on its way have
ended. -/
theorem stranded_of_waiting {mark : Nat} (haccounted : desk.Accounted)
    (hended : ∀ {frame epoch}, .frame frame epoch ∈ desk.mail → desk.HasEnded epoch)
    (hwaiting : desk.presenter.references mark = copies mark desk.waiting) :
    desk.Stranded mark desk.scene.given := by
  rw [haccounted.references_mail, copies_mail] at hwaiting
  have hcopies : ∀ {found : Option SharedFrame}, copies mark found.toList = 0 →
      ∀ {frame}, found = some frame → frame.mark ≠ mark := by
    rintro _ hnone frame rfl hmark
    have hothers := List.countP_eq_zero.1 hnone frame (List.mem_singleton_self _)
    simp [hmark] at hothers
  refine ⟨haccounted, fun hmem _ => hended hmem, ?_, ?_, ?_⟩
  · intro job hjob
    have hnone : copies mark (desk.job?.map Job.frame).toList = 0 := by omega
    exact hcopies hnone (congrArg (Option.map Job.frame) hjob)
  · intro frame hreserve
    have hnone : copies mark desk.reserve.toList = 0 := by omega
    exact hcopies hnone hreserve
  · intro place
    refine ⟨[], ?_, nofun⟩
    cases desk.scene.given[place]? with
    | none => rfl
    | some frames => exact congrArg some (List.append_nil frames).symm

/-- A run that does not submit it anew leaves a frame stranded. -/
theorem Stranded.run {mark : Nat} {given : List (List SharedFrame)}
    (hstranded : desk.Stranded mark given)
    (hnew : ∀ frame, .submit frame ∈ acts → frame.mark ≠ mark) :
    (desk.run acts).Stranded mark given := by
  let kept (desk : Desk) : Prop := desk.Stranded mark given
  show kept (desk.run acts)
  refine run_of_own_deeds (fun desk deed hallows hown hkept => ?_) hstranded
  refine Stranded.perform hkept hallows ?_
  rintro frame rfl
  obtain ⟨_, hact, rfl⟩ := hown
  exact hnew frame hact

/-- An epoch that has ended stays over in every run. -/
theorem HasEnded.run {epoch : Nat} (hended : desk.HasEnded epoch) (acts : List Act) :
    (desk.run acts).HasEnded epoch :=
  run_of_deeds (fun _ _ hallows hkept => hkept.perform hallows) acts hended

/-- No deed binds a surface unless it attaches one. -/
theorem unbound_perform (hallows : desk.Allows deed) (hattach : ∀ surface zeroCopy, deed ≠ .attach surface zeroCopy)
    (hunbound : desk.bond? = none) : (desk.perform deed).bond? = none := by
  by_cases hother : deed = .advance
  · subst hother
    exact (bond_congr (stepped desk).link).trans hunbound
  · refine Option.eq_none_iff_forall_ne_some.2 fun bond hbond => ?_
    obtain ⟨binding, hbinding, hlink⟩ := Option.map_eq_some_iff.1 (link_of_bond hbond)
    have hsurface : binding.surface = some bond.surface := congrArg Link.surface hlink
    rcases bound_perform hallows hother hbinding hsurface with ⟨fit, hbefore⟩ | ⟨_, _, _, hsame, _⟩
    · have hbound : desk.link? = some ⟨bond.epoch, some bond.surface⟩ :=
        (link_of_binding hbefore).trans (congrArg some hlink)
      exact link_of_no_bond hunbound hbound
    · exact hattach _ _ hsame

/-- So it is in a run without a bind. -/
theorem unbound_run (hunbound : desk.bond? = none)
    (hbind : ∀ surface unbound bound, .bind surface unbound bound ∉ acts) : (desk.run acts).bond? = none := by
  let kept (desk : Desk) : Prop := desk.bond? = none
  show kept (desk.run acts)
  refine run_of_own_deeds (fun desk deed hallows hown hkept => ?_) hunbound
  refine unbound_perform hallows ?_ hkept
  rintro surface zeroCopy rfl
  obtain ⟨_, hact, unbound, bound, rfl⟩ := hown
  exact hbind surface unbound bound hact

/-- While nothing is bound every frame that is submitted is dropped, and only counted. -/
theorem submit_unbound (hunbound : desk.bond? = none) (frame : SharedFrame) :
    ∃ refusal : Refusal, desk.submit frame = (.dropped, desk.count (refusal.charge ·)) := by
  have hadmits : desk.admits = false := by
    unfold admits
    rw [isBound_eq, hunbound]
    exact Bool.and_false _
  have hsubmitted := desk.submitted frame
  generalize desk.submit frame = result at hsubmitted ⊢
  cases hsubmitted with
  | dropped refusal => exact ⟨refusal, rfl⟩
  | queued _ _ hadmitted => cases hadmits.symm.trans hadmitted
  | bounced _ _ hadmitted => cases hadmits.symm.trans hadmitted

end Desk

end FramePath
