import FramePath.Proofs.Desk.Sites

/-!
# Every frame is counted once

A frame that is submitted ends under one count, whichever way it goes: it is dropped by the presenter, comes back
from the mailbox, is dropped or rendered by the renderer, is discarded with a queue or is lost with a consumer
that fails. A `Ledger` keeps what no count says, `Balanced` that nothing is missing, and every deed keeps the
balance. `frames_accounted` is what it comes to for all runs.
-/

namespace FramePath

open Renderer (Call Job)
open Surface (Aloof)

namespace SurfaceCall

/-- Whether a surface says with this call that it has no backing buffer. -/
def isNoBacking : SurfaceCall → Bool
  | noBacking _ => true
  | _ => false

end SurfaceCall

/-- How often a surface had no backing buffer for a frame. -/
def Surface.withheld (surface : Surface) : Nat := surface.log.countP SurfaceCall.isNoBacking

/-- A call with which a surface does not say so is not counted. -/
theorem Surface.withheld_record (call : SurfaceCall) (hother : call.isNoBacking = false)
    (surface : Surface) : (surface.record call).withheld = surface.withheld :=
  List.countP_cons_of_neg (by simp [hother])

/-- How often a surface had none is read off its log. -/
theorem Surface.aloof_withheld : Aloof Surface.withheld where
  log hlog := by
    unfold withheld
    rw [hlog]
  routine {call} surface hroutine := by
    refine withheld_record call ?_ surface
    cases call with
    | noBacking frame => cases hroutine
    | _ => rfl

namespace Scene

/-- How often any surface had no backing buffer for a frame. -/
def withheld (scene : Scene) : Nat := (scene.view Surface.withheld).foldr (· + ·) 0

/-- One more in one place is one more in all. -/
theorem foldr_modify {place : Nat} {counts : List Nat} (hplace : place < counts.length) :
    (counts.modify place (· + 1)).foldr (· + ·) 0 = counts.foldr (· + ·) 0 + 1 := by
  induction counts generalizing place with
  | nil => cases hplace
  | cons count counts ih =>
    cases place with
    | zero =>
      show count + 1 + _ = count + _ + 1
      exact Nat.add_right_comm _ _ _
    | succ place =>
      rw [List.modify_succ_cons, List.foldr_cons, List.foldr_cons, ih (Nat.lt_of_succ_lt_succ hplace)]
      exact (Nat.add_assoc _ _ _).symm

/-- A surface that has no backing buffer for a frame says so once. -/
theorem withheld_noBacking {surface : Nat} {scene : Scene} (frame : SharedFrame)
    (hfound : surface < scene.surfaces.length) :
    (scene.record surface (.noBacking frame)).withheld = scene.withheld + 1 := by
  have hview : (scene.record surface (.noBacking frame)).view Surface.withheld =
      (scene.view Surface.withheld).modify surface (· + 1) :=
    view_changeSurface (fun target => List.countP_cons_of_pos rfl) surface scene
  unfold withheld
  rw [hview]
  exact foldr_modify (by rwa [length_view])

end Scene

namespace Backstage

/-- The envelope that is dealt with when a call has gone on. -/
def finished (call : Call) : Progress Call → List Envelope
  | .returned => [call.envelope]
  | .waiting _ | .failed => []

namespace Resumed

variable {call : Call} {stage after : Backstage} {progress : Progress Call}

/-- A frame that is dealt with was rendered or was stale. -/
theorem handled (hresumed : Resumed call stage progress after) :
    after.renderer.tally.rendered + after.renderer.tally.stale =
      stage.renderer.tally.rendered + stage.renderer.tally.stale +
        (finished call progress).countP Envelope.isFrame := by
  cases hresumed with
  | withheld | marked | lent => exact Nat.add_right_comm _ _ _
  | _ => rfl

/-- No step but the end of a write says that there was no backing buffer. -/
theorem withheld_same (hresumed : Resumed call stage progress after)
    (hother : ∀ job, call = .writing job → progress ≠ .returned) :
    after.scene.withheld = stage.scene.withheld := by
  have hview := hresumed.view Surface.aloof_withheld
  have hspoken : (spoken call progress stage.scene).view Surface.withheld =
      stage.scene.view Surface.withheld := by
    cases hresumed with
    | lending job =>
      exact Scene.view_changeSurface_same (Surface.withheld_record (.lend job.frame) rfl) _ _
    | written job =>
      refine Scene.view_changeSurface_same (fun surface => ?_) _ _
      exact Surface.withheld_record (.write job.frame _) rfl _
    | showing visible =>
      exact Scene.view_changeSurface_same (Surface.withheld_record (.visible visible) rfl) _ _
    | withheld job => exact absurd rfl (hother job rfl)
    | _ => rfl
  unfold Scene.withheld
  rw [hview, hspoken]

/-- A rendered frame was copied, was lent, or had no backing buffer to go to. -/
theorem rendered (hresumed : Resumed call stage progress after)
    (hfound : ∀ surface, call.surface? = some surface → surface < stage.scene.surfaces.length) :
    after.renderer.tally.rendered +
        (stage.renderer.tally.copied + stage.renderer.tally.borrowed + stage.scene.withheld) =
      stage.renderer.tally.rendered +
        (after.renderer.tally.copied + after.renderer.tally.borrowed + after.scene.withheld) := by
  by_cases hwithheld : ∃ job, call = .writing job ∧ progress = .returned
  · obtain ⟨job, rfl, rfl⟩ := hwithheld
    cases hresumed with
    | withheld =>
      have hmore := Scene.withheld_noBacking job.frame (hfound job.surface rfl)
      simp only [changeRenderer, release, record, Renderer.countRendered, hmore]
      omega
  · have hsame := hresumed.withheld_same fun job hcall hreturned =>
      hwithheld ⟨job, hcall, hreturned⟩
    rw [hsame]
    cases hresumed with
    | withheld job => exact absurd ⟨job, rfl, rfl⟩ hwithheld
    | marked | lent =>
      simp only [changeRenderer, release, Renderer.countCopied, Renderer.countRendered,
        Renderer.holdLent]
      omega
    | _ => rfl

end Resumed

end Backstage

/-- What no count of a presenter says. -/
structure Ledger where
  /-- Frames submitted. -/
  submitted : Nat
  /-- Frames that came back from the mailbox. -/
  refused : Nat
  /-- Frames that were in hand or in the queue when the consumer failed. -/
  lost : Nat
  /-- Changes of visibility that the mailbox took. -/
  announced : Nat
  deriving DecidableEq, Repr

namespace Desk

/-- The frames that are accepted and not dealt with. -/
def inFlight (desk : Desk) : Nat := desk.mail.countP Envelope.isFrame

end Desk

namespace Ledger

/-- Nothing happened yet. -/
def zero : Ledger := ⟨0, 0, 0, 0⟩

/-- A ledger is kept by what a deed finds. -/
def keeper : Observer Ledger where
  blank := zero
  note desk deed ledger :=
    match deed with
    | .submit _ =>
        { ledger with
          submitted := ledger.submitted + 1
          refused := ledger.refused + (desk.admits && desk.isDeaf).toNat }
    | .setVisible _ =>
        { ledger with announced := ledger.announced + (desk.isBound && !desk.isDeaf).toNat }
    | .announce =>
        { ledger with
          announced := ledger.announced + (!desk.presenter.visible && !desk.isDeaf).toNat }
    | .advance =>
        { ledger with
          lost := ledger.lost + if desk.advance.isDead then desk.inFlight else 0 }
    | _ => ledger

end Ledger

namespace Desk

/-- The counts of a desk and its ledger agree. `before` says how often a surface had no backing buffer before
the presenter was there. -/
structure Balanced (before : Nat) (desk : Desk) (ledger : Ledger) : Prop where
  sited : desk.Sited
  submitted : ledger.submitted =
    desk.presenter.tally.droppedByState + desk.presenter.tally.droppedBySource +
      desk.presenter.report.droppedUnbound + desk.presenter.renderer.tally.rendered +
      desk.presenter.mailbox.tally.discarded + ledger.refused + ledger.lost + desk.inFlight
  sent : desk.presenter.tally.sent =
    desk.presenter.mailbox.tally.delivered + desk.presenter.mailbox.tally.discarded +
      ledger.lost + desk.inFlight
  announced : desk.presenter.mailbox.tally.sent = desk.presenter.tally.sent + ledger.announced
  rendered : desk.presenter.renderer.tally.rendered + before =
    desk.presenter.renderer.tally.copied + desk.presenter.renderer.tally.borrowed +
      desk.scene.withheld

namespace Balanced

variable {before : Nat} {desk after : Desk} {ledger : Ledger}

/-- What is done aside from the mail concerns no count. -/
theorem aside (hbalanced : desk.Balanced before ledger) (haside : Aside desk after)
    (hsited : after.Sited) : after.Balanced before ledger := by
  have hmail : after.inFlight = desk.inFlight := by
    unfold inFlight
    rw [haside.mail]
  have hwithheld : after.scene.withheld = desk.scene.withheld :=
    congrArg (List.foldr (· + ·) 0) (haside.view Surface.aloof_withheld)
  obtain ⟨_, hsubmitted, hsent, hannounced, hrendered⟩ := hbalanced
  refine ⟨hsited, ?_, ?_, ?_, ?_⟩
  · unfold Presenter.report PresenterReport.droppedUnbound at hsubmitted ⊢
    rwa [hmail, haside.mailTally, haside.renderer, haside.tally]
  · rwa [hmail, haside.mailTally, haside.tally]
  · rwa [haside.mailTally, haside.tally]
  · rwa [hwithheld, haside.renderer]

/-- A change of visibility that the mailbox takes is announced. -/
theorem announces (hbalanced : desk.Balanced before ledger) (visible : Bool)
    (halive : desk.isDead = false) :
    (desk.posting (.visibility visible)).Balanced before
      { ledger with announced := ledger.announced + 1 } := by
  have hflight : (desk.posting (.visibility visible)).inFlight = desk.inFlight := by
    unfold inFlight
    rw [mail_posting _ halive, List.countP_append]
    rfl
  obtain ⟨hsited, hsubmitted, hsent, hannounced, hrendered⟩ := hbalanced
  refine ⟨hsited.posting nofun, ?_, ?_, ?_, hrendered⟩
  · rw [hflight]
    exact hsubmitted
  · rw [hflight]
    exact hsent
  · exact congrArg (· + 1) hannounced

/-- A frame that the mailbox takes is in flight. -/
theorem queues (hbalanced : desk.Balanced before ledger) {frame : SharedFrame} {epoch surface : Nat}
    (hlink : desk.link? = some ⟨epoch, some surface⟩) (halive : desk.isDead = false) :
    (((desk.lease frame).posting (.frame frame epoch)).count
      fun tally => { tally with sent := tally.sent + 1 }).Balanced before
      { ledger with submitted := ledger.submitted + 1 } := by
  have hflight : ((desk.lease frame).posting (.frame frame epoch)).inFlight = desk.inFlight + 1 := by
    unfold inFlight
    rw [mail_posting _ (show (desk.lease frame).isDead = false from halive), List.countP_append]
    rfl
  obtain ⟨hsited, hsubmitted, hsent, hannounced, hrendered⟩ := hbalanced
  have hposted : ((desk.lease frame).posting (.frame frame epoch)).Sited := by
    have hleased : (desk.lease frame).Sited := hsited.papers
    refine hleased.posting ?_
    intro other later hsame
    cases hsame
    exact Nat.le_of_eq (epoch_of_link (show (desk.lease frame).link? = _ from hlink)).symm
  refine ⟨hposted.papers, ?_, ?_, ?_, hrendered⟩
  · show ledger.submitted + 1 = _ + ((desk.lease frame).posting (.frame frame epoch)).inFlight
    rw [hflight, hsubmitted]
    rfl
  · show desk.presenter.tally.sent + 1 = _ + ((desk.lease frame).posting (.frame frame epoch)).inFlight
    rw [hflight, hsent]
    rfl
  · show desk.presenter.mailbox.tally.sent + 1 = desk.presenter.tally.sent + 1 + ledger.announced
    rw [hannounced]
    exact Nat.add_right_comm _ _ _

/-- A mailbox that is closed without a call in progress discards the frames in its queue. -/
theorem discards (hbalanced : desk.Balanced before ledger) (hquiet : desk.call? = none)
    (leases : Leases) :
    (desk.drained leases (desk.presenter.mailbox.tally.countDiscarded
      desk.presenter.mailbox.transport.queue)).Balanced before ledger := by
  obtain ⟨_, _, htally⟩ := letGo_spec desk.presenter.renderer
  have hnone : ∀ tally, (desk.drained leases tally).inFlight = 0 := fun _ => rfl
  obtain ⟨hsited, hsubmitted, hsent, hannounced, hrendered⟩ := hbalanced
  unfold inFlight at hsubmitted hsent
  rw [mail_of_quiet hquiet] at hsubmitted hsent
  refine ⟨hsited.drained _ _, ?_, ?_, hannounced, ?_⟩
  · rw [hnone]
    simp only [Presenter.report, PresenterReport.droppedUnbound, drained, Mailbox.closed, htally,
      MailTally.countDiscarded] at hsubmitted ⊢
    omega
  · rw [hnone]
    simp only [drained, Mailbox.closed, MailTally.countDiscarded]
    omega
  · simp only [drained, htally]
    exact hrendered

/-- An envelope that comes back leaves the counts in balance. -/
theorem bounces (hbalanced : desk.Balanced before ledger) (envelope : Envelope) :
    (desk.bouncing envelope).Balanced before ledger := by
  obtain ⟨hsited, hsubmitted, hsent, hannounced, hrendered⟩ := hbalanced
  cases hdead : desk.isDead with
  | false =>
    have hbounced := hsited.bouncing envelope
    rw [bouncing_of_alive envelope hdead] at hbounced ⊢
    exact ⟨hbounced, hsubmitted, hsent, hannounced, hrendered⟩
  | true =>
    obtain ⟨_, _, htally⟩ := letGo_spec desk.presenter.renderer
    have hbounced := hsited.bouncing envelope
    rw [bouncing_of_dead envelope hdead] at hbounced ⊢
    generalize (desk.backstage.release envelope.frames).drain.leases = leases at hbounced ⊢
    have hnone : (desk.drained leases desk.presenter.mailbox.tally).inFlight = desk.inFlight := by
      unfold inFlight
      rw [mail_of_idle (idle_of_dead hdead)]
      rfl
    refine ⟨hbounced, ?_, ?_, hannounced, ?_⟩
    · show _ = _ + (desk.drained leases desk.presenter.mailbox.tally).inFlight
      rw [hnone]
      simp only [Presenter.report, PresenterReport.droppedUnbound, count, drained, Mailbox.closed,
        htally] at hsubmitted ⊢
      exact hsubmitted
    · show _ = _ + (desk.drained leases desk.presenter.mailbox.tally).inFlight
      rw [hnone]
      exact hsent
    · simp only [count, drained, htally]
      exact hrendered

/-- A frame that comes back is refused. -/
theorem refuses (hbalanced : desk.Balanced before ledger) :
    desk.Balanced before
      { ledger with submitted := ledger.submitted + 1, refused := ledger.refused + 1 } := by
  obtain ⟨hsited, hsubmitted, hsent, hannounced, hrendered⟩ := hbalanced
  refine ⟨hsited, ?_, hsent, hannounced, hrendered⟩
  dsimp only
  omega

/-- A lease is no count. -/
theorem lease (hbalanced : desk.Balanced before ledger) (frame : SharedFrame) :
    (desk.lease frame).Balanced before ledger :=
  ⟨hbalanced.sited.papers, hbalanced.submitted, hbalanced.sent,
    hbalanced.announced, hbalanced.rendered⟩

/-- A frame that is dropped before it is sent is counted once. -/
theorem drops (hbalanced : desk.Balanced before ledger) (refusal : Refusal) :
    (desk.count (refusal.charge ·)).Balanced before
      { ledger with submitted := ledger.submitted + 1 } := by
  obtain ⟨hsited, hsubmitted, hsent, hannounced, hrendered⟩ := hbalanced
  have hflight : (desk.count (refusal.charge ·)).inFlight = desk.inFlight := rfl
  have hkept : (desk.count (refusal.charge ·)).presenter.tally.sent = desk.presenter.tally.sent := by
    cases refusal <;> rfl
  refine ⟨hsited.papers, ?_, ?_, ?_, hrendered⟩
  · rw [hflight]
    cases refusal <;>
      simp only [Presenter.report, PresenterReport.droppedUnbound, count, Refusal.charge]
        at hsubmitted ⊢ <;> omega
  · exact hkept.trans hsent
  · rw [hkept]
    exact hannounced

/-- A call that goes on is counted alike on both sides; what is lost with it is left to the ledger. -/
theorem resumes (hbalanced : desk.Balanced before ledger) {call : Call} {queue : List Envelope}
    {progress : Progress Call} {stage : Backstage} {mailbox : Mailbox Call} {lost : Nat}
    (htransport : desk.presenter.mailbox.transport = .running (some call) queue)
    (hresumed : Backstage.Resumed call desk.backstage progress stage)
    (hsited : (desk.afterMail mailbox stage).Sited)
    (htally : mailbox.tally =
      (Backstage.finished call progress).foldl MailTally.countHandled desk.presenter.mailbox.tally)
    (hflight : desk.inFlight = (Backstage.finished call progress).countP Envelope.isFrame +
      (desk.afterMail mailbox stage).inFlight + lost) :
    (desk.afterMail mailbox stage).Balanced before { ledger with lost := ledger.lost + lost } := by
  have hcall := call_running htransport
  have hcounts : mailbox.tally.sent = desk.presenter.mailbox.tally.sent ∧
      mailbox.tally.discarded = desk.presenter.mailbox.tally.discarded ∧
      mailbox.tally.delivered = desk.presenter.mailbox.tally.delivered +
        (Backstage.finished call progress).countP Envelope.isFrame := by
    rw [htally]
    cases progress with
    | returned =>
      unfold Backstage.finished
      cases call.envelope <;> exact ⟨rfl, rfl, rfl⟩
    | waiting => exact ⟨rfl, rfl, rfl⟩
    | failed => exact ⟨rfl, rfl, rfl⟩
  have hhandled := hresumed.handled
  have hrendering := hresumed.rendered fun surface hsurface =>
    hbalanced.sited.call hcall hsurface
  obtain ⟨_, hsubmitted, hsent, hannounced, hrendered⟩ := hbalanced
  refine ⟨hsited, ?_, ?_, ?_, ?_⟩
  · simp only [Presenter.report, PresenterReport.droppedUnbound, afterMail, backstage] at *
    omega
  · simp only [afterMail] at *
    omega
  · simp only [afterMail] at *
    omega
  · simp only [afterMail, backstage] at *
    omega

/-- A step of the consumer keeps the balance. -/
theorem advance (hbalanced : desk.Balanced before ledger) :
    desk.advance.Balanced before
      { ledger with lost := ledger.lost + if desk.advance.isDead then desk.inFlight else 0 } := by
  have hsited := hbalanced.sited.advance
  have hkind := advanced desk
  generalize desk.advance = after at hsited hkind ⊢
  cases hkind with
  | resting =>
    have hnone : (if desk.isDead then desk.inFlight else 0) = 0 := by
      split
      · next hdead =>
        unfold inFlight
        rw [mail_of_idle (idle_of_dead hdead)]
        rfl
      · rfl
    rw [hnone]
    exact hbalanced
  | taken envelope queue htransport =>
    obtain ⟨_, hsubmitted, hsent, hannounced, hrendered⟩ := hbalanced
    -- The envelope is on its way as before, in hand instead of at the head of the queue.
    unfold inFlight at hsubmitted hsent
    rw [mail_running htransport] at hsubmitted hsent
    exact ⟨hsited, hsubmitted, hsent, hannounced, hrendered⟩
  | waiting call next queue stage htransport hresumed =>
    refine hbalanced.resumes htransport hresumed hsited rfl ?_
    unfold inFlight
    rw [mail_running htransport]
    show (call.envelope :: queue).countP _ = 0 + (next.envelope :: queue).countP _ + 0
    rw [hresumed.envelope, Nat.zero_add]
    rfl
  | returned call queue stage htransport hresumed =>
    refine hbalanced.resumes htransport hresumed hsited rfl ?_
    unfold inFlight
    rw [mail_running htransport]
    show ([call.envelope] ++ queue).countP _ = _
    exact List.countP_append
  | failed call queue stage htransport hresumed =>
    have hfailed : (desk.afterMail { desk.presenter.mailbox with transport := .crashed } stage).Balanced before
        { ledger with lost := ledger.lost + desk.inFlight } :=
      hbalanced.resumes htransport hresumed hsited.papers rfl
        (Nat.zero_add _).symm
    exact ⟨hsited, hfailed.submitted, hfailed.sent, hfailed.announced, hfailed.rendered⟩

/-- Every deed keeps the balance. -/
theorem perform (hbalanced : desk.Balanced before ledger) {deed : Deed} (hallows : desk.Allows deed) :
    (desk.perform deed).Balanced before (Ledger.keeper.note desk deed ledger) := by
  have hsited := hbalanced.sited.perform hallows
  cases deed with
  | attach surface zeroCopy => exact hbalanced.aside (aside_attach surface zeroCopy desk) hsited
  | announce =>
    have hannounced := desk.announced
    show desk.announce.Balanced before { ledger with
      announced := ledger.announced + (!desk.presenter.visible && !desk.isDeaf).toNat }
    generalize desk.announce = after at hannounced ⊢
    cases hannounced with
    | shown hvisible =>
      rw [hvisible]
      exact hbalanced
    | told hvisible hhearing =>
      rw [hvisible, hhearing]
      exact hbalanced.announces false (alive_of_hearing hhearing)
    | bounced hvisible hdeaf =>
      rw [hvisible, hdeaf]
      exact hbalanced.bounces _
  | unbind => exact hbalanced.aside (aside_unbind desk) hsited
  | setVisible visible =>
    have hkept : (desk.asking visible).Balanced before ledger :=
      ⟨hbalanced.sited.papers, hbalanced.submitted,
        hbalanced.sent, hbalanced.announced, hbalanced.rendered⟩
    have hasked := desk.asked visible
    show (desk.setVisible visible).Balanced before { ledger with
      announced := ledger.announced + (desk.isBound && !desk.isDeaf).toNat }
    generalize desk.setVisible visible = after at hasked ⊢
    cases hasked with
    | kept hunbound =>
      rw [hunbound]
      exact hkept
    | told hbound hhearing =>
      rw [hbound, hhearing]
      exact hkept.announces visible (alive_of_hearing hhearing)
    | bounced hbound hdeaf =>
      rw [hbound, hdeaf]
      exact hkept.bounces _
  | submit frame =>
    have hsubmitted := desk.submitted frame
    show (desk.submit frame).2.Balanced before { ledger with
      submitted := ledger.submitted + 1
      refused := ledger.refused + (desk.admits && desk.isDeaf).toNat }
    generalize desk.submit frame = result at hsubmitted ⊢
    cases hsubmitted with
    | dropped refusal hdropped =>
      rw [hdropped]
      exact hbalanced.drops refusal
    | queued epoch surface hadmits hlink hhearing =>
      rw [hadmits, hhearing]
      exact hbalanced.queues hlink (alive_of_hearing hhearing)
    | bounced epoch surface hadmits hlink hdeaf =>
      rw [hadmits, hdeaf]
      exact ((hbalanced.lease frame).bounces _).refuses
  | advance => exact hbalanced.advance
  | close =>
    show desk.close.Balanced before ledger
    rcases close_of_quiet hallows.1 with ⟨_, hsame⟩ | ⟨_, leases, hclosed⟩
    · rw [hsame]
      exact hbalanced
    · rw [hclosed]
      exact hbalanced.discards hallows.1 leases
  | destroy surface => exact hbalanced.aside (aside_destroy surface desk) hsited
  | arrange arrangement => exact hbalanced.aside (aside_arrange arrangement desk) hsited

end Balanced

/-- A new presenter has counted nothing, and nothing happened to it. -/
theorem balanced_opened (surfaces : List Surface) (id : Nat) :
    (opened surfaces id).Balanced (Scene.ofSurfaces surfaces).withheld .zero where
  sited := sited_opened surfaces id
  submitted := rfl
  sent := rfl
  announced := rfl
  rendered := rfl

/-- After any run the counts and the ledger agree. -/
theorem balanced_run (surfaces : List Surface) (id : Nat) (acts : List Act) :
    ((opened surfaces id).run acts).Balanced (Scene.ofSurfaces surfaces).withheld
      (Ledger.keeper.onRun surfaces id acts) :=
  Observer.run_keeps (fun _ _ _ hallows hbalanced => hbalanced.perform hallows) surfaces id acts
    (balanced_opened surfaces id)

/-- Whether a deed submits a frame. -/
def Deed.isSubmit : Deed → Bool
  | .submit _ => true
  | _ => false

/-- Whether an act submits a frame. -/
def Act.isSubmit : Act → Bool
  | .submit _ => true
  | _ => false

/-- Nothing that happens by itself submits a frame. -/
theorem countP_incidents (incidents : List Incident) :
    (incidents.map Incident.deed).countP Deed.isSubmit = 0 := by
  refine List.countP_eq_zero.2 (List.forall_mem_map.2 fun incident _ => ?_)
  cases incident <;> exact Bool.false_ne_true

/-- Nor does a teardown. -/
theorem countP_teardownDeeds (amid : List Incident) (desk : Desk) :
    (desk.teardownDeeds amid).countP Deed.isSubmit = 0 := by
  unfold teardownDeeds restDeeds
  rw [List.countP_cons, List.countP_append, countP_incidents, List.countP_append, List.countP_replicate]
  rfl

/-- Nor does a bind. -/
theorem countP_bindDeeds (surface : Nat) (zeroCopy : Bool) (unbound bound : List Incident) :
    (bindDeeds surface zeroCopy unbound bound).countP Deed.isSubmit = 0 := by
  unfold bindDeeds
  rw [List.countP_cons, List.countP_append, countP_incidents, List.countP_cons, List.countP_append,
    countP_incidents]
  rfl

/-- The submits of a run are those among its deeds. -/
theorem countP_course (acts : List Act) (desk : Desk) :
    (desk.course acts).countP Deed.isSubmit = acts.countP Act.isSubmit := by
  induction acts generalizing desk with
  | nil => rfl
  | cons act acts ih =>
    have hact : (desk.deeds act).countP Deed.isSubmit = [act].countP Act.isSubmit := by
      cases act with
      | bind surface unbound bound =>
        simp only [deeds]
        cases desk.scene.surfaces[surface]? with
        | none => rfl
        | some target =>
          dsimp only
          split
          · exact countP_bindDeeds ..
          · rfl
      | teardown amid => exact countP_teardownDeeds amid desk
      | drop amid => exact countP_teardownDeeds amid desk
      | _ => rfl
    rw [course, List.countP_append, hact, ih, ← List.countP_append]
    rfl

/-- The ledger has all submits. -/
theorem submitted_notes (deeds : List Deed) (desk : Desk) (ledger : Ledger) :
    (Ledger.keeper.notes deeds desk ledger).submitted =
      ledger.submitted + deeds.countP Deed.isSubmit := by
  induction deeds generalizing desk ledger with
  | nil => rfl
  | cons deed deeds ih =>
    have hdeed : (Ledger.keeper.note desk deed ledger).submitted =
        ledger.submitted + [deed].countP Deed.isSubmit := by
      cases deed <;> rfl
    rw [Observer.notes, ih, hdeed, Nat.add_assoc, ← List.countP_append]
    rfl

end Desk

/-- The counts of which every submit raises one. -/
def PresenterReport.outcomes (report : PresenterReport) : List Nat :=
  [report.admission.droppedByState, report.admission.droppedBySource, report.droppedUnbound,
    report.admission.sendFailures, report.admission.sent]

namespace Desk

/-- A submit raises one of the five counts by one. The frame is queued if this is the last of them. -/
theorem submit_outcome (frame : SharedFrame) (desk : Desk) :
    ∃ place < 5, (desk.submit frame).2.presenter.report.outcomes =
        desk.presenter.report.outcomes.modify place (· + 1) ∧
      ((desk.submit frame).1 = .queued ↔ place = 4) := by
  have hsubmitted := desk.submitted frame
  generalize desk.submit frame = result at hsubmitted ⊢
  cases hsubmitted with
  | dropped refusal =>
    cases refusal with
    | state => exact ⟨0, by decide, rfl, nofun, nofun⟩
    | source => exact ⟨1, by decide, rfl, nofun, nofun⟩
    | unbound =>
      refine ⟨2, by decide, ?_, nofun, nofun⟩
      have hmore : (desk.count (Refusal.unbound.charge ·)).presenter.report.droppedUnbound =
          desk.presenter.report.droppedUnbound + 1 := Nat.add_right_comm _ _ _
      unfold PresenterReport.outcomes
      rw [hmore]
      rfl
  | queued => exact ⟨4, by decide, rfl, fun _ => rfl, fun _ => rfl⟩
  | bounced epoch =>
    refine ⟨3, by decide, ?_, nofun, nofun⟩
    cases hdead : (desk.lease frame).isDead with
    | false =>
      rw [bouncing_of_alive _ hdead]
      rfl
    | true =>
      obtain ⟨_, _, htally⟩ := letGo_spec desk.presenter.renderer
      rw [bouncing_of_dead _ hdead]
      unfold PresenterReport.outcomes PresenterReport.droppedUnbound Presenter.report
      simp only [count, drained, lease, htally]
      rfl

/-- Accounts of every run. The frames submitted are those dropped below the paused state, while another source was
active, or without a binding in force; those rendered, discarded, refused by a mailbox whose consumer had failed or
could not be started, or lost with a consumer; and those in flight, of which there are none while the consumer has
nothing to do. The frames sent are those delivered, discarded, lost and in flight. The mailbox took these and the
changes of visibility. A rendered frame was copied, was lent, or found no backing buffer. And a submit raises one
count, that of the frames sent if and only if the frame is queued. -/
theorem frames_accounted (surfaces : List Surface) (id : Nat) (acts : List Act) :
    let desk := (opened surfaces id).run acts
    let report := desk.presenter.report
    let ledger := Ledger.keeper.onRun surfaces id acts
    acts.countP Act.isSubmit =
        report.admission.droppedByState + report.admission.droppedBySource + report.droppedUnbound +
          report.rendering.rendered + report.mail.discarded + ledger.refused + ledger.lost +
          desk.inFlight ∧
    report.admission.sent =
        report.mail.delivered + report.mail.discarded + ledger.lost + desk.inFlight ∧
    report.mail.sent = report.admission.sent + ledger.announced ∧
    report.rendering.rendered + (Scene.ofSurfaces surfaces).withheld =
        report.rendering.copied + report.rendering.borrowed + desk.scene.withheld ∧
    (desk.presenter.mailbox.isIdle = true → desk.inFlight = 0) ∧
    ∀ frame, ∃ place < 5, (desk.submit frame).2.presenter.report.outcomes =
        report.outcomes.modify place (· + 1) ∧
      ((desk.submit frame).1 = .queued ↔ place = 4) := by
  have hbalanced := balanced_run surfaces id acts
  have hsubmits : (Ledger.keeper.onRun surfaces id acts).submitted = acts.countP Act.isSubmit := by
    unfold Observer.onRun
    rw [submitted_notes, countP_course]
    exact Nat.zero_add _
  dsimp only
  generalize (opened surfaces id).run acts = desk at hbalanced ⊢
  refine ⟨hsubmits.symm.trans hbalanced.submitted, hbalanced.sent, hbalanced.announced,
    hbalanced.rendered, ?_, fun frame => submit_outcome frame desk⟩
  intro hidle
  unfold inFlight
  rw [mail_of_idle hidle]
  rfl

/-- Nine frames: one is dropped in the null state, one while another source is active and one before a bind; one
is lent and rendered; of two more the first fails on its way to the surface, and the one behind it is lost too;
the next comes back, one is rendered after a change of visibility, and the last is discarded. -/
def nineFrames : List Act :=
  let frame (mark : Nat) : SharedFrame := ⟨mark, ⟨#[], ⟨1, 1⟩, .rgba, 0⟩⟩
  [.submit (frame 1), .setState .paused, .submit (frame 2), .bind 0, .setActiveSource (some 9),
    .submit (frame 3), .setActiveSource none, .submit (frame 4), .advance, .advance, .advance, .advance,
    .submit (frame 5), .submit (frame 6), .arm (some ⟨0, .lend⟩), .advance, .advance, .advance, .advance,
    .submit (frame 7), .setVisible false, .submit (frame 8), .advance, .advance, .advance, .advance,
    .advance, .advance, .advance, .advance, .submit (frame 9), .teardown]

theorem frames_accounted_nine :
    let surfaces : List Surface := [.new ⟨"legacy", true, false, false, false, none⟩ (some ⟨1, 1⟩)]
    let desk := (opened surfaces 0).run nineFrames
    desk.presenter.mailbox.isIdle = true ∧ desk.inFlight = 0 ∧
      Ledger.keeper.onRun surfaces 0 nineFrames = ⟨9, 1, 2, 1⟩ ∧
      desk.presenter.report.outcomes = [1, 1, 1, 1, 5] ∧
      desk.presenter.report.rendering.rendered = 2 ∧
      desk.presenter.report.mail = ⟨6, 2, 1, 1⟩ := by
  have hidle : ((opened [.new ⟨"legacy", true, false, false, false, none⟩ (some ⟨1, 1⟩)] 0).run
      nineFrames).presenter.mailbox.isIdle = true := by decide +kernel
  have haccounts := frames_accounted
    [.new ⟨"legacy", true, false, false, false, none⟩ (some ⟨1, 1⟩)] 0 nineFrames
  exact ⟨hidle, haccounts.2.2.2.2.1 hidle, by decide +kernel, by decide +kernel, by decide +kernel,
    by decide +kernel⟩

end Desk

end FramePath
