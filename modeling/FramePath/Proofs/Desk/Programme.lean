import FramePath.Proofs.Desk.Footing
import FramePath.Proofs.Desk.Sizing
import FramePath.Proofs.Scene.Exhibits

/-!
# What one binding shows

While a binding lasts and the consumer does not fail, what its surface has shown, and what it will show of the
envelopes that are still on their way, is together what a script comes to: the presenter's calls in the order in which
they were made. `Playing` says so at every moment. A step of the consumer takes the surface from what is ahead to what
is shown (`Backstage.Resumed.plays`), and every other deed puts what it sends at the end of both (`Playing.cue`). So a
surface shows its script in order, whatever the pace of the consumer, and the bytes of each copy are those of its frame
(`performs_programme`).
-/

namespace FramePath

open Renderer (Call Job)

namespace Renderer.Call

/-- What a call still has to show. -/
def ahead : Call → List Envelope
  | taken envelope => [envelope]
  | approaching job _ | sizing job | writing job => [.frame job.frame job.epoch]
  | revealing visible _ => [.visibility visible]
  | marking _ | lending _ | showing .. => []

/-- A call that has seen to a size is on its way to the surface of its job. -/
theorem surface_of_fitted {job : Job} (call : Call) (hjob : call.fitted? = some job) :
    call.surface? = some job.surface := by
  cases call with
  | approaching other first =>
    cases first <;> cases hjob
    rfl
  | writing => cases hjob; rfl
  | marking => cases hjob; rfl
  | lending => cases hjob; rfl
  | _ => cases hjob

/-- A call has to do with no other surface than this one, and goes by this way of bringing frames to it. -/
structure Serves (surface : Nat) (zeroCopy : Bool) (call : Call) : Prop where
  site : ∀ {place}, call.surface? = some place → place = surface
  manner : ∀ {job}, call.job? = some job → job.zeroCopy = zeroCopy
  copies : ∀ {job}, call = .writing job → zeroCopy = true

end Renderer.Call

namespace Backstage

/-- What a call still has to show when it has gone on. -/
def aheadBy : Progress Call → List Envelope
  | .waiting next => next.ahead
  | .returned | .failed => []

variable {call next : Call} {stage after : Backstage} {progress : Progress Call} {binding : Binding}
  {epoch surface : Nat} {exhibit : Exhibit}

/-- While a surface is bound, a call goes on to serve it. -/
theorem Resumed.serves (hresumed : Resumed call stage (.waiting next) after)
    (hbinding : stage.scene.binding? stage.renderer.owner = some binding)
    (hbound : binding.surface = some surface) (hserves : call.Serves surface binding.zeroCopy) :
    next.Serves surface binding.zeroCopy where
  site {place} hplace := by
    rcases hresumed.surface hplace with hsame | ⟨epoch, hlink⟩
    · exact hserves.site hsame
    · unfold Scene.link? at hlink
      rw [hbinding] at hlink
      have hsame : binding.surface = some place := congrArg Link.surface (Option.some.inj hlink)
      exact Option.some.inj (hsame.symm.trans hbound)
  manner {job} hjob := by
    cases hresumed with
    | accepted _ _ _ found _ hfound =>
      cases hjob
      cases hfound.symm.trans hbinding
      rfl
    | sizing | writing | lending | sized | written => exact hserves.manner hjob
    | revealing => cases hjob
    | showing => cases hjob
  copies {job} hwriting := by
    cases hresumed with
    | writing _ _ _ hcopies =>
      cases hwriting
      exact (hserves.manner rfl).symm.trans hcopies
    | _ => cases hwriting

/-- Going on with a call, a surface shows what the call had ahead, or still has to. -/
theorem Resumed.plays (hresumed : Resumed call stage progress after)
    (hgoing : progress ≠ .failed)
    (hcurrent : ∀ {frame sent}, call = .taken (.frame frame sent) → stage.IsCurrent sent)
    (hbound : stage.scene.boundSurface? stage.renderer.owner = some surface)
    (hserves : call.Serves surface exhibit.pane.isZeroCopy)
    (hunsized : ∀ {job}, call = .sizing job → exhibit.pane.panel.bufferSize = none)
    (hfitted : ∀ {job}, call.fitted? = some job → exhibit.pane.panel.bufferSize.isSome = true)
    (hexhibit : stage.scene.exhibit? surface = some exhibit) :
    ∃ shown, after.scene.exhibit? surface = some shown ∧ exhibit.signs <+: shown.signs ∧
      shown.play (aheadBy progress) = exhibit.play call.ahead := by
  cases hresumed with
  | stale frame sent _ hstale => exact absurd (hcurrent rfl) hstale
  | accepted => exact ⟨exhibit, hexhibit, List.prefix_rfl, rfl⟩
  | sizing job =>
    cases hserves.site rfl
    refine ⟨_, Scene.exhibit_recorded (.size job.frame.frame.size) hexhibit, List.prefix_append _ _, ?_⟩
    simp [Exhibit.extend, SurfaceCall.sign?, aheadBy, Call.ahead]
  | writing => exact ⟨exhibit, hexhibit, List.prefix_rfl, rfl⟩
  | lending job first _ hlent hasked =>
    cases hserves.site rfl
    have hsized : exhibit.pane.panel.bufferSize.isSome = true := by
      cases first with
      | false => exact hfitted rfl
      | true => exact Scene.bufferSize_of_exhibit hexhibit ▸ hasked rfl
    have hlends : exhibit.pane.isZeroCopy = false := (hserves.manner rfl).symm.trans hlent
    refine ⟨_, Scene.exhibit_recorded (.lend job.frame) hexhibit, List.prefix_append _ _, ?_⟩
    refine Eq.trans ?_ (Exhibit.play_frame hsized job.frame job.epoch).symm
    simp [Pane.answer, Pane.keep, hlends, SurfaceCall.sign?, aheadBy, Call.ahead, Exhibit.play, Exhibit.extend]
  | sized job =>
    cases hserves.site rfl
    refine ⟨_, Scene.exhibit_sized job.frame.frame.size hexhibit, List.prefix_rfl, ?_⟩
    exact Exhibit.play_sized (hunsized rfl) job.frame job.epoch
  | written job _ found hfound hwritable =>
    cases hserves.site rfl
    obtain ⟨other, hother, hsame⟩ := Scene.found_of_exhibit hexhibit
    cases hfound.symm.trans hother
    refine ⟨_, Scene.exhibit_recorded .dirty (Scene.exhibit_copied job.frame hexhibit), ?_, ?_⟩
    · exact (List.prefix_append _ _).trans (List.prefix_append _ _)
    refine Eq.trans ?_ (Exhibit.play_frame (hfitted rfl) job.frame job.epoch).symm
    simp [Pane.answer, Pane.keep, hserves.copies rfl, hsame.symm.trans hwritable, Exhibit.copied, Exhibit.extend,
      SurfaceCall.sign?, aheadBy, Call.ahead, Exhibit.play]
  | withheld job _ hwithheld =>
    cases hserves.site rfl
    obtain ⟨found, hfound, hsame⟩ := Scene.found_of_exhibit hexhibit
    refine ⟨_, Scene.exhibit_recorded (.noBacking job.frame) hexhibit, List.prefix_append _ _, ?_⟩
    refine Eq.trans ?_ (Exhibit.play_frame (hfitted rfl) job.frame job.epoch).symm
    simp [Pane.answer, Pane.keep, hserves.copies rfl, hsame.symm.trans (hwithheld found hfound), Exhibit.extend,
      SurfaceCall.sign?, aheadBy, Exhibit.play]
  | marked => exact ⟨exhibit, hexhibit, List.prefix_rfl, rfl⟩
  | lent => exact ⟨exhibit, hexhibit, List.prefix_rfl, rfl⟩
  | unseen visible _ hnone => cases hbound.symm.trans hnone
  | revealing => exact ⟨exhibit, hexhibit, List.prefix_rfl, rfl⟩
  | showing visible found =>
    cases hserves.site rfl
    exact ⟨_, Scene.exhibit_recorded (.visible visible) hexhibit, List.prefix_append _ _, rfl⟩
  | shown => exact ⟨exhibit, hexhibit, List.prefix_rfl, rfl⟩
  | failed => exact absurd rfl hgoing

end Backstage

namespace Desk

variable {desk : Desk} {deed : Deed} {bond : Bond} {opening : Exhibit} {script : List Envelope}

/-- What is still to be shown: by the call in progress, and then what waits in the queue. -/
def ahead (desk : Desk) : List Envelope :=
  (desk.call?.map Call.ahead).getD [] ++ desk.presenter.mailbox.transport.queue

/-- A frame is sent under the epoch in force. -/
theorem epoch_of_cue {frame : SharedFrame} {epoch : Nat} (hmem : .frame frame epoch ∈ desk.cues deed) :
    epoch = desk.epoch := by
  cases deed with
  | submit other =>
    simp only [cues] at hmem
    split at hmem
    · cases List.mem_singleton.1 hmem
      rfl
    · cases hmem
  | setVisible visible =>
    simp only [cues] at hmem
    split at hmem
    · cases hmem
    · cases List.mem_singleton.1 hmem
  | announce =>
    simp only [cues] at hmem
    split at hmem
    · cases hmem
    · cases List.mem_singleton.1 hmem
  | _ => cases hmem

/-- What was seen of pixel buffers is in order, and no size was missed. -/
def Measured (desk : Desk) : Prop :=
  ∃ before given measures, desk.Fitted before given measures ∧ measures.missed = []

/-- Every deed with which the consumer does not fail leaves it so. -/
theorem Measured.perform (hmeasured : desk.Measured) (hallows : desk.Allows deed)
    (halive : (desk.perform deed).isDead = false) : (desk.perform deed).Measured := by
  obtain ⟨before, given, measures, hfitted, hnone⟩ := hmeasured
  exact ⟨before, given, _, hfitted.perform hallows, missed_note halive hnone⟩

/-- A call that serves a surface asks for a size where there is none, and has seen to it when it brings its frame. -/
theorem Measured.prepared (hmeasured : desk.Measured) {call : Call} {surface : Nat} {zeroCopy : Bool}
    {exhibit : Exhibit} (hcall : desk.call? = some call) (hserves : call.Serves surface zeroCopy)
    (hexhibit : desk.scene.exhibit? surface = some exhibit) :
    (∀ {job}, call = .sizing job → exhibit.pane.panel.bufferSize = none) ∧
      ∀ {job}, call.fitted? = some job → exhibit.pane.panel.bufferSize.isSome = true := by
  obtain ⟨before, given, measures, hfitted, hnone⟩ := hmeasured
  have hprepared := hfitted.prepared hcall
  rw [← Scene.bufferSize_of_exhibit hexhibit]
  constructor
  · rintro job rfl
    rw [← hserves.site rfl]
    exact hprepared.unsized rfl
  · intro job hjob
    rw [← hserves.site (call.surface_of_fitted hjob)]
    rcases hprepared.seen hjob with hsized | hmissed
    · exact hsized
    · rw [hnone] at hmissed
      cases hmissed

/-- While a binding lasts, its surface has shown, and will show of what is ahead, what the script comes to. -/
structure Playing (bond : Bond) (opening : Exhibit) (desk : Desk) (script : List Envelope) : Prop where
  measured : desk.Measured
  alive : desk.isDead = false
  terms : desk.terms? = some ⟨⟨bond.epoch, some bond.surface⟩, opening.pane.isZeroCopy⟩
  dated : ∀ {frame epoch}, .frame frame epoch ∈ desk.mail → epoch = bond.epoch
  serves : ∀ {call}, desk.call? = some call → call.Serves bond.surface opening.pane.isZeroCopy
  playing : ∃ exhibit, desk.scene.exhibit? bond.surface = some exhibit ∧
    opening.signs <+: exhibit.signs ∧ exhibit.play desk.ahead = opening.play script

namespace Playing

/-- A call that goes on shows what it had ahead, or still has to. -/
theorem resumes (hplaying : desk.Playing bond opening script) {call : Call} {queue : List Envelope}
    {progress : Progress Call} {stage : Backstage}
    (htransport : desk.presenter.mailbox.transport = .running (some call) queue)
    (hresumed : Backstage.Resumed call desk.backstage progress stage) (hgoing : progress ≠ .failed) :
    ∃ exhibit, stage.scene.exhibit? bond.surface = some exhibit ∧ opening.signs <+: exhibit.signs ∧
      exhibit.play (Backstage.aheadBy progress ++ queue) = opening.play script := by
  have hcall := call_running htransport
  obtain ⟨exhibit, hexhibit, hearlier, hplay⟩ := hplaying.playing
  have hahead : desk.ahead = call.ahead ++ queue := by
    unfold ahead
    rw [hcall, htransport]
    rfl
  -- What the surface is does not change with what it shows.
  have hprofile : exhibit.pane.panel.profile = opening.pane.panel.profile := by
    rw [← exhibit.profile_play desk.ahead, hplay, opening.profile_play]
  have hmanner : exhibit.pane.isZeroCopy = opening.pane.isZeroCopy := by
    unfold Pane.isZeroCopy
    rw [hprofile]
  have hcurrent : ∀ {frame sent}, call = .taken (.frame frame sent) →
      desk.backstage.IsCurrent sent := by
    rintro frame sent rfl
    have hmem : .frame frame sent ∈ desk.mail := by
      rw [mail_running htransport]
      exact List.mem_cons_self
    rw [hplaying.dated hmem]
    exact isCurrent_of_terms hplaying.terms
  have hserves := hplaying.serves hcall
  obtain ⟨hunsized, hfitted⟩ := hplaying.measured.prepared hcall hserves hexhibit
  obtain ⟨shown, hshown, hmore, hsame⟩ := hresumed.plays hgoing hcurrent
    (boundSurface_of_link (link_of_terms hplaying.terms)) (hmanner ▸ hserves) hunsized hfitted hexhibit
  refine ⟨shown, hshown, hearlier.trans hmore, ?_⟩
  rw [Exhibit.play_append, hsame, ← Exhibit.play_append, ← hahead]
  exact hplay

/-- A step of the consumer takes the surface on in its script. -/
theorem advance (hplaying : desk.Playing bond opening script)
    (halive : desk.advance.isDead = false) : desk.advance.Playing bond opening script where
  measured := Measured.perform hplaying.measured (show desk.Allows .advance from trivial) halive
  alive := halive
  terms := (terms_advance desk).trans hplaying.terms
  dated hmem := hplaying.dated ((mail_advance desk).subset hmem)
  serves {next} hnext := by
    obtain ⟨binding, hbinding, hlink, hmanner⟩ := binding_of_terms hplaying.terms
    have hkind := advanced desk
    generalize desk.advance = after at hkind hnext
    cases hkind with
    | resting => exact hplaying.serves hnext
    | taken =>
      cases hnext
      exact ⟨nofun, nofun, nofun⟩
    | waiting call next queue stage htransport hresumed =>
      cases hnext
      have hserves := hplaying.serves (call_running htransport)
      rw [← hmanner] at hserves ⊢
      exact hresumed.serves hbinding (congrArg Link.surface hlink) hserves
    | returned => cases hnext
    | failed => cases hnext
  playing := by
    have hkind := advanced desk
    generalize desk.advance = after at hkind halive ⊢
    cases hkind with
    | resting => exact hplaying.playing
    | taken envelope queue htransport =>
      obtain ⟨exhibit, hexhibit, hearlier, hplay⟩ := hplaying.playing
      refine ⟨exhibit, hexhibit, hearlier, ?_⟩
      rw [← hplay]
      unfold ahead call?
      rw [htransport]
      rfl
    | waiting call next queue stage htransport hresumed =>
      exact hplaying.resumes htransport hresumed nofun
    | returned call queue stage htransport hresumed =>
      exact hplaying.resumes htransport hresumed nofun
    | failed => cases halive

/-- A deed that is not a step of the consumer puts what it sends at the end of the script. -/
theorem cue (hplaying : desk.Playing bond opening script)
    (hlasts : Lasts ⟨bond.epoch, some bond.surface⟩ desk deed) (hallows : desk.Allows deed)
    (hother : deed ≠ .advance) (halive : (desk.perform deed).isDead = false) :
    (desk.perform deed).Playing bond opening (script ++ desk.cues deed) := by
  have hcalm := calm hallows hother
  have hqueue := queue_perform hlasts hallows hother hplaying.alive
  have hepoch : desk.epoch = bond.epoch := epoch_of_link hlasts.1
  refine ⟨hplaying.measured.perform hallows halive, halive, ?_, ?_, ?_, ?_⟩
  · exact (terms_lasts hlasts hallows).trans hplaying.terms
  · intro frame epoch hmem
    have hmail : (desk.perform deed).mail = desk.mail ++ desk.cues deed := by
      unfold mail Transport.hand
      rw [show (desk.perform deed).presenter.mailbox.transport.call? = _ from hcalm.call, hqueue,
        List.append_assoc]
      rfl
    rw [hmail] at hmem
    rcases List.mem_append.1 hmem with hearlier | hnow
    · exact hplaying.dated hearlier
    · exact (epoch_of_cue hnow).trans hepoch
  · intro call hcall
    exact hplaying.serves (hcalm.call.symm.trans hcall)
  · obtain ⟨exhibit, hexhibit, hearlier, hplay⟩ := hplaying.playing
    have hahead : (desk.perform deed).ahead = desk.ahead ++ desk.cues deed := by
      unfold ahead
      rw [hcalm.call, hqueue, List.append_assoc]
    refine ⟨exhibit, ?_, hearlier, ?_⟩
    · exact (Scene.exhibit_congr (view_perform Surface.inward_exhibit hallows hother) _).trans hexhibit
    · rw [hahead, Exhibit.play_append, hplay, Exhibit.play_append]

/-- So every deed leaves the surface in its script. -/
theorem perform (hplaying : desk.Playing bond opening script) (hallows : desk.Allows deed)
    (halive : (desk.perform deed).isDead = false)
    (hlasts : Lasts ⟨bond.epoch, some bond.surface⟩ desk deed) :
    (desk.perform deed).Playing bond opening (script ++ desk.cues deed) := by
  by_cases hother : deed = .advance
  · subst hother
    rw [show desk.cues .advance = [] from rfl, List.append_nil]
    exact hplaying.advance halive
  · exact hplaying.cue hlasts hallows hother halive

/-- Several deeds, with which the consumer does not fail and the binding lasts, leave the surface in its script. -/
theorem performAll {deeds : List Deed} (hplaying : desk.Playing bond opening script)
    (hallows : Throughout Allows deeds desk)
    (hunfailing : Throughout (fun desk deed => (desk.perform deed).isDead = false) deeds desk)
    (hlasts : Throughout (Lasts ⟨bond.epoch, some bond.surface⟩) deeds desk) :
    (desk.performAll deeds).Playing bond opening (prompter.notes deeds desk script) := by
  refine Observer.keeps (fun desk deed script hholds hplaying => ?_)
    ((hallows.and hunfailing).and hlasts) hplaying
  exact hplaying.perform hholds.1.1 hholds.1.2 hholds.2

/-- What a surface has shown since its bind is the beginning of what its script comes to, and all of it when the
consumer has nothing to do. Then it is as the script leaves it. -/
theorem since (hplaying : desk.Playing bond opening script) :
    ∃ since, desk.scene.signs bond.surface = opening.signs ++ since ∧
      since <+: opening.pane.performance script ∧
      (desk.presenter.mailbox.isIdle = true → since = opening.pane.performance script ∧
        desk.scene.exhibit? bond.surface = some (opening.play script)) := by
  obtain ⟨exhibit, hexhibit, ⟨since, hsince⟩, hplay⟩ := hplaying.playing
  have hsigns := congrArg Exhibit.signs hplay
  rw [Exhibit.signs_play, Exhibit.signs_play, ← hsince, List.append_assoc] at hsigns
  have hwhole := List.append_cancel_left hsigns
  refine ⟨since, (Scene.signs_of_exhibit hexhibit).trans hsince.symm, ⟨_, hwhole⟩, fun hidle => ?_⟩
  obtain ⟨hcall, hqueue⟩ := quiet_of_idle hidle
  have hnone : desk.ahead = [] := by
    unfold ahead
    rw [hcall, hqueue]
    rfl
  rw [hnone] at hwhole hplay
  exact ⟨((List.append_nil _).symm.trans hwhole), hplay ▸ hexhibit⟩

end Playing

/-- What a hidden presenter tells the surface that it is bound to. -/
def greeting (desk : Desk) : List Envelope :=
  if desk.presenter.visible then [] else [.visibility false]

variable {unbound bound : List Incident}

/-- The deeds of a bind up to the moment when the surface is bound. -/
def openingDeeds (surface : Nat) (zeroCopy : Bool) (unbound : List Incident) : List Deed :=
  .unbind :: (unbound.map Incident.deed ++ [.attach surface zeroCopy])

/-- The deeds under the binding: of the bind itself, and of the acts after it. -/
def bindingDeeds (surface : Nat) (unbound bound : List Incident) (during : List Act) (desk : Desk) :
    List Deed :=
  bound.map Incident.deed ++
    .announce :: (desk.bindAmid unbound bound surface).2.course during

/-- The first deeds of a bind lead to where the surface is bound. -/
theorem performAll_opening (surface : Nat) (zeroCopy : Bool) (unbound : List Incident) (desk : Desk) :
    desk.performAll (openingDeeds surface zeroCopy unbound) =
      (desk.unbind.elapse unbound).attach surface zeroCopy := by
  show desk.unbind.performAll (_ ++ _) = _
  rw [performAll_append, performAll_incidents]
  rfl

/-- A bind that is accepted finds its surface when nothing is bound any more, and binds it as its backend says. -/
theorem course_bind {surface : Nat} (hbind : desk.binds surface = true) (unbound bound : List Incident)
    (during : List Act) :
    ∃ found, (desk.unbind.elapse unbound).scene.surfaces[surface]? = some found ∧
      (desk.bindAmid unbound bound surface).2 =
        (((desk.unbind.elapse unbound).attach surface found.pane.isZeroCopy).elapse bound).announce ∧
      desk.course (.bind surface unbound bound :: during) =
        openingDeeds surface found.pane.isZeroCopy unbound ++ desk.bindingDeeds surface unbound bound during := by
  rw [binds_eq unbound bound] at hbind
  rcases desk.bind_cases unbound bound surface with
    hrefused | ⟨zeroCopy, ⟨target, htarget, himage, hcopies⟩, hbound⟩
  · rw [hrefused] at hbind
    cases hbind
  · have hprofiles := (profiles_elapse unbound desk.unbind).trans (profiles_unbind desk)
    have hready : desk.IsTarget surface zeroCopy := ⟨target, htarget, himage, hcopies⟩
    obtain ⟨found, hfound, _, hmanner⟩ := hready.congr hprofiles
    replace hmanner : found.pane.isZeroCopy = zeroCopy := hmanner
    refine ⟨found, hfound, by rw [hbound, hmanner], ?_⟩
    have hdeeds : desk.deeds (.bind surface unbound bound) = bindDeeds surface zeroCopy unbound bound := by
      simp [deeds, htarget, himage, hcopies]
    show desk.deeds (.bind surface unbound bound) ++ (desk.bindAmid unbound bound surface).2.course during = _
    rw [hdeeds, hmanner]
    simp [bindDeeds, openingDeeds, bindingDeeds]

/-- A surface that is bound while the consumer has nothing to do begins its script. -/
theorem playing_attach {epoch surface : Nat} {found : Surface} (hmeasured : desk.Measured)
    (halive : desk.isDead = false) (hidle : desk.presenter.mailbox.isIdle = true)
    (hallows : desk.Allows (.attach surface found.pane.isZeroCopy))
    (hfound : desk.scene.surfaces[surface]? = some found)
    (hlink : (desk.attach surface found.pane.isZeroCopy).link? = some ⟨epoch, some surface⟩) :
    (desk.attach surface found.pane.isZeroCopy).Playing ⟨epoch, surface⟩ found.exhibit [] := by
  have hpresenter := presenter_attach surface found.pane.isZeroCopy desk
  obtain ⟨hquiet, hempty⟩ := quiet_of_idle hidle
  have hcall : (desk.attach surface found.pane.isZeroCopy).call? = none := by
    unfold call?
    rw [hpresenter]
    exact hquiet
  have hqueue : (desk.attach surface found.pane.isZeroCopy).presenter.mailbox.transport.queue = [] := by
    rw [hpresenter, hempty]
  have hstill : (desk.attach surface found.pane.isZeroCopy).isDead = false := by
    unfold isDead
    rw [hpresenter]
    exact halive
  refine ⟨hmeasured.perform hallows hstill, hstill, ?_, ?_, ?_, found.exhibit, ?_, List.prefix_rfl, ?_⟩
  · obtain ⟨zeroCopy, hterms⟩ := terms_of_link hlink
    obtain ⟨binding, hbinding, hlinked, rfl⟩ := binding_of_terms hterms
    have hsurface : binding.surface = some surface := congrArg Link.surface hlinked
    obtain ⟨_, _, _, rfl⟩ := binding_attach hbinding (by simp [hsurface])
    exact hterms
  · intro frame sent hmem
    rw [mail_of_quiet hcall, hqueue] at hmem
    cases hmem
  · intro call hsome
    cases hcall.symm.trans hsome
  · have hexhibit : desk.scene.exhibit? surface = some found.exhibit := by
      unfold Scene.exhibit?
      rw [hfound]
      rfl
    exact (Scene.exhibit_congr (view_attach Surface.inward_exhibit surface _ desk) surface).trans hexhibit
  · unfold ahead
    rw [hcall, hqueue]
    rfl

/-- The programme of some acts that begin with a bind: what is put into the queue in the course of them, in this order.
It is what a hidden presenter tells the new surface, and then a change of visibility for each request and a frame for
each submit that says it was queued; what comes back because the host starts no consumer is left out. -/
def programme (acts : List Act) (desk : Desk) : List Envelope :=
  prompter.notes (desk.course acts) desk []

/-- A binding in a run without a failure: a surface is bound while the consumer has nothing to do, and the binding is
still in force at the end. -/
structure Engagement (surfaces : List Surface) (id : Nat) (before : List Act) (surface : Nat)
    (unbound bound : List Incident) (during : List Act) : Prop where
  unfailing : (opened surfaces id).Unfailing (before ++ .bind surface unbound bound :: during)
  idle : (((opened surfaces id).run before).unbind.elapse unbound).presenter.mailbox.isIdle = true
  accepted : ((opened surfaces id).run before).binds surface = true
  lasts : ((opened surfaces id).run (before ++ .bind surface unbound bound :: during)).bond? =
    some ⟨(((opened surfaces id).run before).unbind.elapse unbound).epoch + 1, surface⟩

/-- A surface is there to be bound, and the deeds under its binding do not end it. -/
structure Engaged (surface : Nat) (found : Surface) (deeds : List Deed) (ready : Desk) : Prop where
  there : ready.scene.surfaces[surface]? = some found
  attachable : ready.Allows (.attach surface found.pane.isZeroCopy)
  measured : ready.Measured
  alive : ready.isDead = false
  idle : ready.presenter.mailbox.isIdle = true
  allowed : Throughout Allows deeds (ready.attach surface found.pane.isZeroCopy)
  unfailing : Throughout (fun desk deed => (desk.perform deed).isDead = false) deeds
    (ready.attach surface found.pane.isZeroCopy)
  link : (ready.attach surface found.pane.isZeroCopy).link? = some ⟨ready.epoch + 1, some surface⟩
  lasts : Throughout (Lasts ⟨ready.epoch + 1, some surface⟩) deeds
    (ready.attach surface found.pane.isZeroCopy)

/-- Deeds that are allowed and do not fail keep what was seen of pixel buffers in order. -/
theorem Measured.performAll {deeds : List Deed} (hmeasured : desk.Measured)
    (hallows : Throughout Allows deeds desk)
    (hunfailing : Throughout (fun desk deed => (desk.perform deed).isDead = false) deeds desk) :
    (desk.performAll deeds).Measured := by
  induction deeds generalizing desk with
  | nil => exact hmeasured
  | cons deed deeds ih => exact ih (hmeasured.perform hallows.1 hunfailing.1) hallows.2 hunfailing.2

/-- So it is with a consumer that lives. -/
theorem alive_performAll {deeds : List Deed} (halive : desk.isDead = false)
    (hunfailing : Throughout (fun desk deed => (desk.perform deed).isDead = false) deeds desk) :
    (desk.performAll deeds).isDead = false := by
  induction deeds generalizing desk with
  | nil => exact halive
  | cons deed deeds ih => exact ih hunfailing.1 hunfailing.2

namespace Engaged

variable {ready : Desk} {surface : Nat} {found : Surface} {deeds : List Deed}

/-- The surface plays what is put into the queue. -/
theorem playing (hengaged : Engaged surface found deeds ready) :
    ((ready.attach surface found.pane.isZeroCopy).performAll deeds).Playing ⟨ready.epoch + 1, surface⟩ found.exhibit
      (prompter.notes deeds (ready.attach surface found.pane.isZeroCopy) []) :=
  (playing_attach hengaged.measured hengaged.alive hengaged.idle hengaged.attachable hengaged.there
    hengaged.link).performAll hengaged.allowed hengaged.unfailing hengaged.lasts

/-- What is put into the queue is told by the footing when the surface is bound. -/
theorem notes_eq (hengaged : Engaged surface found deeds ready) :
    prompter.notes deeds (ready.attach surface found.pane.isZeroCopy) [] =
      ready.footing.plan (ready.epoch + 1) deeds := by
  have hpresenter := presenter_attach surface found.pane.isZeroCopy ready
  have halive : (ready.attach surface found.pane.isZeroCopy).isDead = false := by
    unfold isDead
    rw [hpresenter]
    exact hengaged.alive
  have hfooting : (ready.attach surface found.pane.isZeroCopy).footing = ready.footing := by
    unfold footing
    rw [hpresenter]
  rw [notes_eq_plan halive hengaged.allowed hengaged.unfailing hengaged.lasts, hfooting]
  rfl

end Engaged

variable {surfaces : List Surface} {id surface : Nat} {before during : List Act} {start : Desk}

/-- A bind is made of the deeds up to the moment when the surface is bound and of those under the binding. -/
theorem Engagement.engaged (hengaged : Engagement surfaces id before surface unbound bound during) :
    let start := (opened surfaces id).run before
    ∃ found, Engaged surface found (start.bindingDeeds surface unbound bound during) (start.unbind.elapse unbound) ∧
      (start.bindAmid unbound bound surface).2 =
        (((start.unbind.elapse unbound).attach surface found.pane.isZeroCopy).elapse bound).announce ∧
      start.course (.bind surface unbound bound :: during) =
        openingDeeds surface found.pane.isZeroCopy unbound ++ start.bindingDeeds surface unbound bound during := by
  intro start
  obtain ⟨hbefore, hrest⟩ := unfailing_append.1 hengaged.unfailing
  have hmeasured : start.Measured := ⟨_, _, _, fitted_run surfaces id before, missed_of_unfailing hbefore⟩
  have halive : start.isDead = false := alive_of_unfailing rfl hbefore
  obtain ⟨found, hfound, hbound, hcourse⟩ := course_bind hengaged.accepted unbound bound during
  have hallows := allows_course (.bind surface unbound bound :: during) start
  have hunfailing : Throughout (fun desk deed => (desk.perform deed).isDead = false)
      (start.course (.bind surface unbound bound :: during)) start := hrest
  rw [hcourse] at hallows hunfailing
  obtain ⟨hopens, hallowed⟩ := throughout_append.1 hallows
  obtain ⟨hopening, hduring⟩ := throughout_append.1 hunfailing
  rw [performAll_opening] at hallowed hduring
  -- Of the deeds up to the binding, the last one attaches the surface.
  obtain ⟨hends, hattaches⟩ := throughout_append.1 hopens.2
  obtain ⟨hending, _⟩ := throughout_append.1 hopening.2
  have hattachable := hattaches.1
  rw [performAll_incidents] at hattachable
  have hready : (start.performAll (.unbind :: unbound.map Incident.deed)) = start.unbind.elapse unbound :=
    performAll_incidents unbound start.unbind
  have hmeasuredToo : (start.unbind.elapse unbound).Measured := by
    rw [← hready]
    exact hmeasured.performAll ⟨trivial, hends⟩ ⟨hopening.1, hending⟩
  have haliveToo : (start.unbind.elapse unbound).isDead = false := by
    rw [← hready]
    exact alive_performAll halive ⟨hopening.1, hending⟩
  -- The binding that is in force at the end began with the attached surface.
  obtain ⟨link, hlink⟩ : ∃ link, (start.unbind.elapse unbound).link? = some link := by
    obtain ⟨_, _, _, hfitted, _⟩ := hmeasuredToo
    exact hfitted.sited.link
  have hepoch : (start.unbind.elapse unbound).epoch = link.epoch := epoch_of_link hlink
  obtain ⟨_, first, hfirst, hloses, _⟩ := link_attach found.pane.isZeroCopy hlink hattachable.2.isSome
  obtain ⟨last, hlast, hprecedes⟩ := link_performAll hfirst hallowed
  have hforce := link_of_bond hengaged.lasts
  rw [run_append, ← performAll_course, hcourse, performAll_append, performAll_opening] at hforce
  have hbegun : (((start.unbind.elapse unbound).attach surface found.pane.isZeroCopy)).link? =
      some ⟨(start.unbind.elapse unbound).epoch + 1, some surface⟩ := by
    cases hlast.symm.trans hforce
    rcases hloses with rfl | ⟨hlater, _⟩
    · rw [hfirst, hepoch]
    · have hle : first.epoch ≤ (start.unbind.elapse unbound).epoch + 1 := hprecedes.epoch_le
      have hless : link.epoch + 1 < first.epoch := hlater
      omega
  exact ⟨found, ⟨hfound, hattachable, hmeasuredToo, haliveToo, hengaged.idle, hallowed, hduring, hbegun,
    tenure hallowed hbegun hforce⟩, hbound, hcourse⟩

/-- The programme is what is put into the queue under the binding. -/
theorem programme_eq {found : Surface}
    (hcourse : start.course (.bind surface unbound bound :: during) =
      openingDeeds surface found.pane.isZeroCopy unbound ++ start.bindingDeeds surface unbound bound during) :
    start.programme (.bind surface unbound bound :: during) =
      prompter.notes (start.bindingDeeds surface unbound bound during)
        ((start.unbind.elapse unbound).attach surface found.pane.isZeroCopy) [] := by
  have hunnoted : ∀ deed ∈ openingDeeds surface found.pane.isZeroCopy unbound, ∀ desk script,
      prompter.note desk deed script = script := by
    intro deed hmem desk script
    have hnone : desk.cues deed = [] := by
      rcases List.mem_cons.1 hmem with rfl | hlater
      · rfl
      · rcases List.mem_append.1 hlater with hincident | hlast
        · obtain ⟨incident, _, rfl⟩ := List.mem_map.1 hincident
          exact cues_incident incident desk
        · rw [List.mem_singleton.1 hlast]
          rfl
    show script ++ desk.cues deed = script
    rw [hnone, List.append_nil]
  unfold programme
  rw [hcourse, Observer.notes_append, Observer.notes_unnoted hunnoted, performAll_opening]

/-- The acts under a binding that lasts are done while it lasts. -/
theorem Engaged.lasts_during {found : Surface}
    (hengaged : Engaged surface found (start.bindingDeeds surface unbound bound during) (start.unbind.elapse unbound))
    (hbound : (start.bindAmid unbound bound surface).2 =
      (((start.unbind.elapse unbound).attach surface found.pane.isZeroCopy).elapse bound).announce) :
    Throughout (Lasts ⟨(start.unbind.elapse unbound).epoch + 1, some surface⟩)
      ((start.bindAmid unbound bound surface).2.course during) (start.bindAmid unbound bound surface).2 := by
  have hlasts := (throughout_append.1 hengaged.lasts).2.2
  rwa [performAll_incidents, show Desk.perform _ .announce = _ from hbound.symm] at hlasts

/-- The steps of the consumer aside, what comes in and what is done under the binding makes the programme. -/
theorem plan_bindingDeeds {epoch : Nat} (footing : Footing) (hlasts : Throughout (Lasts ⟨epoch, some surface⟩)
      ((start.bindAmid unbound bound surface).2.course during) (start.bindAmid unbound bound surface).2) :
    footing.plan epoch (start.bindingDeeds surface unbound bound during) =
      footing.plan epoch ((bound.filter (· ≠ .advance)).map Incident.deed ++
        .announce :: (during.filter (· ≠ .advance)).filterMap Act.deed?) := by
  rw [← Footing.plan_steps]
  unfold bindingDeeds
  rw [course_eq hlasts, List.filter_append, List.filter_cons_of_pos (by rfl), steps_incidents, steps_acts]

/-- Where there always is a consumer to be had, the programme is the greeting and what the presenter's standing
admits. -/
theorem programme_served {epoch : Nat} {found : Surface}
    (hserved : start.Served (.bind surface unbound bound :: during))
    (hbound : (start.bindAmid unbound bound surface).2 =
      (((start.unbind.elapse unbound).attach surface found.pane.isZeroCopy).elapse bound).announce)
    (hcourse : start.course (.bind surface unbound bound :: during) =
      openingDeeds surface found.pane.isZeroCopy unbound ++ start.bindingDeeds surface unbound bound during)
    (hlasts : Throughout (Lasts ⟨epoch, some surface⟩)
      ((start.bindAmid unbound bound surface).2.course during) (start.bindAmid unbound bound surface).2) :
    start.programme (.bind surface unbound bound :: during) =
      start.greeting ++ start.presenter.standing.plan epoch during := by
  unfold Served at hserved
  rw [hcourse] at hserved
  obtain ⟨hannounced, hduring⟩ := (throughout_append.1 (throughout_append.1 hserved).2).2
  rw [performAll_opening, performAll_incidents] at hannounced hduring
  rw [show Desk.perform _ .announce = _ from hbound.symm] at hduring
  have hstanding : (start.bindAmid unbound bound surface).2.presenter.standing = start.presenter.standing :=
    standing_act start (.bind surface unbound bound)
  have hvisible :
      (((start.unbind.elapse unbound).attach surface found.pane.isZeroCopy).elapse bound).presenter.visible =
        start.presenter.visible := by
    have hsame :
        (((start.unbind.elapse unbound).attach surface found.pane.isZeroCopy).elapse bound).presenter.standing =
          start.presenter.standing := by
      rw [standing_elapse, presenter_attach, standing_elapse, presenter_unbind]
    exact congrArg Standing.visible hsame
  have hgreeting : Desk.cues (((start.unbind.elapse unbound).attach surface found.pane.isZeroCopy).elapse bound)
      .announce = start.greeting := by
    simp only [cues, greeting, hannounced, Bool.or_false, hvisible]
  have hunnoted : ∀ deed ∈ bound.map Incident.deed, ∀ desk script, prompter.note desk deed script = script := by
    intro deed hmem desk script
    obtain ⟨incident, _, rfl⟩ := List.mem_map.1 hmem
    show script ++ desk.cues incident.deed = script
    rw [cues_incident, List.append_nil]
  rw [programme_eq hcourse]
  unfold bindingDeeds
  rw [Observer.notes_append, Observer.notes_unnoted hunnoted, performAll_incidents]
  show prompter.notes ((start.bindAmid unbound bound surface).2.course during) (Desk.announce _)
    ([] ++ Desk.cues _ .announce) = _
  rw [hgreeting, ← hbound, notes_eq_standing hduring hlasts, hstanding, List.nil_append]

/-- Since it was bound, a surface has shown the beginning of what its programme comes to, and all of it once the
consumer has nothing to do: each frame lent, or copied over the start of its backing buffer. The programme holds in
order what was put into the queue, which is the greeting of a hidden presenter, a change of visibility for each
request and a frame for each submit that said it was queued, where there always is a consumer to be had. The pace of
the consumer decides neither the programme nor what the surface has shown in the end. -/
theorem performs_programme {surfaces : List Surface} {id surface : Nat} {before during : List Act}
    {unbound bound : List Incident} (hengaged : Engagement surfaces id before surface unbound bound during) :
    let start := (opened surfaces id).run before
    let ready := start.unbind.elapse unbound
    let desk := (opened surfaces id).run (before ++ .bind surface unbound bound :: during)
    let programme := start.programme (.bind surface unbound bound :: during)
    (∃ found since, ready.scene.surfaces[surface]? = some found ∧
      desk.scene.signs surface = found.signs ++ since ∧ since <+: found.pane.performance programme ∧
      (desk.presenter.mailbox.isIdle = true → since = found.pane.performance programme ∧
        desk.scene.exhibit? surface = some (found.exhibit.play programme))) ∧
    (start.Served (.bind surface unbound bound :: during) →
      programme = start.greeting ++ start.presenter.standing.plan (ready.epoch + 1) during) ∧
    ∀ otherBound other, Engagement surfaces id before surface unbound otherBound other →
      otherBound.filter (· ≠ .advance) = bound.filter (· ≠ .advance) →
      other.filter (· ≠ .advance) = during.filter (· ≠ .advance) →
      let later := (opened surfaces id).run (before ++ .bind surface unbound otherBound :: other)
      start.programme (.bind surface unbound otherBound :: other) = programme ∧
      (desk.presenter.mailbox.isIdle = true → later.presenter.mailbox.isIdle = true →
        later.scene.signs surface = desk.scene.signs surface) := by
  intro start ready desk programme
  have hshows : ∀ {bound during}, Engagement surfaces id before surface unbound bound during →
      let desk := (opened surfaces id).run (before ++ .bind surface unbound bound :: during)
      let programme := start.programme (.bind surface unbound bound :: during)
      ∃ found since, ready.scene.surfaces[surface]? = some found ∧
        desk.scene.signs surface = found.signs ++ since ∧ since <+: found.pane.performance programme ∧
        (desk.presenter.mailbox.isIdle = true → since = found.pane.performance programme ∧
          desk.scene.exhibit? surface = some (found.exhibit.play programme)) := by
    intro bound during hengaged
    obtain ⟨found, hfound, _, hcourse⟩ := hengaged.engaged
    obtain ⟨since, hsince⟩ := hfound.playing.since
    have hdesk : (opened surfaces id).run (before ++ .bind surface unbound bound :: during) =
        (ready.attach surface found.pane.isZeroCopy).performAll
          (start.bindingDeeds surface unbound bound during) := by
      rw [run_append, ← performAll_course, hcourse, performAll_append, performAll_opening]
    dsimp only
    rw [hdesk, programme_eq hcourse]
    exact ⟨found, since, hfound.there, hsince⟩
  obtain ⟨surfaceFound, hfound, hbound, hcourse⟩ := hengaged.engaged
  refine ⟨hshows hengaged, fun hserved => programme_served hserved hbound hcourse (hfound.lasts_during hbound), ?_⟩
  intro otherBound other hother hsameBound hsame later
  obtain ⟨otherFound, hotherFound, hotherBound, hotherCourse⟩ := hother.engaged
  have hprogramme : start.programme (.bind surface unbound otherBound :: other) = programme := by
    show _ = start.programme _
    rw [programme_eq hcourse, programme_eq hotherCourse, hfound.notes_eq, hotherFound.notes_eq,
      plan_bindingDeeds _ (hfound.lasts_during hbound),
      plan_bindingDeeds _ (hotherFound.lasts_during hotherBound), hsameBound, hsame]
  refine ⟨hprogramme, fun hidle hlater => ?_⟩
  obtain ⟨found, since, hthere, hsigns, _, hwhole⟩ := hshows hengaged
  obtain ⟨again, shown, hagain, hshown, _, hfull⟩ := hshows hother
  cases hthere.symm.trans hagain
  rw [show later.scene.signs surface = _ from hshown, show desk.scene.signs surface = _ from hsigns,
    (hfull hlater).1, (hwhole hidle).1, hprogramme]

/-- A hidden presenter. -/
def hiddenAtFirst : List Act := [.setState .paused, .setVisible false]

/-- A frame of one pixel. -/
def pixel (mark : Nat) (payload : Bytes) : SharedFrame := ⟨mark, ⟨payload, ⟨1, 1⟩, .rgba, 0⟩⟩

/-- A frame that has all its bytes. -/
def wholePixel : SharedFrame := pixel 1 #[1, 2, 3, 4]

/-- A frame that lacks one. -/
def shortPixel : SharedFrame := pixel 2 #[5, 6, 7]

/-- Two frames and a change of visibility, with a consumer that keeps pace. -/
def keepingPace : List Act :=
  .advance :: .submit wholePixel :: List.replicate 9 .advance ++
    .setVisible true :: .advance :: .submit shortPixel :: List.replicate 9 .advance

/-- The same with one that lags behind. -/
def laggingBehind : List Act :=
  [.submit wholePixel, .setVisible true, .submit shortPixel] ++ List.replicate 22 .advance

theorem performs_programme_copying :
    let surfaces : List Surface := [.new ⟨"software_generic", true, false, false, false, none⟩ none]
    let start := (opened surfaces 0).run hiddenAtFirst
    let desk := (opened surfaces 0).run (hiddenAtFirst ++ .bind 0 :: keepingPace)
    let later := (opened surfaces 0).run (hiddenAtFirst ++ .bind 0 [] [.advance] :: laggingBehind)
    desk.scene.signs 0 =
      [.visible false, .copied wholePixel #[1, 2, 3, 4], .visible true, .copied shortPixel #[5, 6, 7, 4]] ∧
      later.scene.signs 0 = desk.scene.signs 0 ∧
      start.programme (.bind 0 :: keepingPace) =
        [.visibility false, .frame wholePixel 2, .visibility true, .frame shortPixel 2] := by
  have hpace : Engagement [.new ⟨"software_generic", true, false, false, false, none⟩ none] 0 hiddenAtFirst 0 [] []
      keepingPace := ⟨by decide +kernel, by decide +kernel, by decide +kernel, by decide +kernel⟩
  have hlag : Engagement [.new ⟨"software_generic", true, false, false, false, none⟩ none] 0 hiddenAtFirst 0 []
      [.advance] laggingBehind := ⟨by decide +kernel, by decide +kernel, by decide +kernel, by decide +kernel⟩
  obtain ⟨_, hserved, htiming⟩ := performs_programme hpace
  have hsame := htiming [.advance] laggingBehind hlag (by decide) (by decide +kernel)
  refine ⟨by decide +kernel, hsame.2 (by decide +kernel) (by decide +kernel), ?_⟩
  rw [hserved (by decide +kernel)]
  decide +kernel

end Desk

end FramePath
