import FramePath.Proofs.Desk.Deeds
import FramePath.Proofs.Scene.Views

/-!
# What deeds do at a desk

One lemma for each kind of deed, so that a fact about runs is proved without looking into any of them. A send puts its
envelope last (`send_of_hearing`), or the envelope comes back because the consumer has failed or the host refuses to
start one (`send_of_deaf`); what an announcement, a request for a visibility and a submit can come to is listed in
`Announced`, `Asked` and `Submitted`; a close throws the queue away (`close_of_quiet`). What is done aside from the
mail leaves the mail and the renderer alone (`Aside`).
-/

namespace FramePath

open Renderer (Call Job)
open Surface (Aloof Inward)

namespace Desk

variable {desk : Desk}

/-- The call in progress of a consumer that runs. -/
theorem call_running {call : Option Call} {queue : List Envelope}
    (htransport : desk.presenter.mailbox.transport = .running call queue) : desk.call? = call := by
  unfold call?
  rw [htransport]
  rfl

/-- An idle consumer has no call in progress and an empty queue. -/
theorem quiet_of_idle (hidle : desk.presenter.mailbox.isIdle = true) :
    desk.call? = none ∧ desk.presenter.mailbox.transport.queue = [] := by
  obtain ⟨hcall, hqueue⟩ := Bool.and_eq_true_iff.1 hidle
  exact ⟨Option.isNone_iff_eq_none.1 hcall, List.isEmpty_iff.1 hqueue⟩

/-- A dead consumer has nothing to do. -/
theorem idle_of_dead (hdead : desk.isDead = true) : desk.presenter.mailbox.isIdle = true := by
  obtain ⟨scene, ⟨id, ⟨transport, count, refusal⟩, renderer, leases, source, state, visible, tally⟩⟩ := desk
  cases transport <;> cases hdead
  rfl

end Desk

/-- One more envelope at the end of the queue, before a new consumer if there was none. -/
def Transport.push {κ : Type} (envelope : Envelope) : Transport κ → Transport κ
  | absent => running none [envelope]
  | running call queue => running call (queue ++ [envelope])
  | crashed => crashed

namespace Desk

variable {desk : Desk}

/-- Whether what is sent now comes back: the consumer has failed, or there is none and the host is to refuse the
start of one. -/
def isDeaf (desk : Desk) : Bool := desk.isDead || desk.presenter.mailbox.obstacle.isSome

/-- In the course of some acts there is always a consumer to be had. -/
def Served (acts : List Act) (desk : Desk) : Prop :=
  Throughout (fun desk _ => desk.isDeaf = false) (desk.course acts) desk

/-- Whether there is one is decided by doing the acts. -/
instance (acts : List Act) (desk : Desk) : Decidable (desk.Served acts) :=
  inferInstanceAs (Decidable (Throughout _ _ _))

/-- An envelope is put into the mailbox. -/
def posting (envelope : Envelope) (desk : Desk) : Desk :=
  { desk with presenter := { desk.presenter with
      mailbox := { desk.presenter.mailbox with
        transport := desk.presenter.mailbox.transport.push envelope
        tally := desk.presenter.mailbox.tally.countSent } } }

/-- The mailbox is closed: no transport, nothing held, and these leases and counts left. -/
def drained (leases : Leases) (tally : MailTally) (desk : Desk) : Desk :=
  { desk with presenter := { desk.presenter with
      mailbox := desk.presenter.mailbox.closed tally
      renderer := desk.presenter.renderer.letGo
      leases } }

/-- The host has refused to start a consumer: these leases are left, and the next start is not refused. -/
def turnedAway (leases : Leases) (desk : Desk) : Desk :=
  { desk with presenter := { desk.presenter with
      mailbox := desk.presenter.mailbox.bar none
      leases } }

/-- An envelope comes back. If the consumer has failed, the mailbox is closed. -/
def bouncing (envelope : Envelope) (desk : Desk) : Desk :=
  let left := desk.backstage.release envelope.frames
  (if desk.isDead then desk.drained left.drain.leases desk.presenter.mailbox.tally
    else desk.turnedAway left.leases).count fun tally =>
      { tally with sendFailures := tally.sendFailures + 1 }

/-- A consumer that has failed leaves the mailbox to be closed. -/
theorem bouncing_of_dead (envelope : Envelope) (hdead : desk.isDead = true) :
    desk.bouncing envelope =
      (desk.drained (desk.backstage.release envelope.frames).drain.leases
        desk.presenter.mailbox.tally).count fun tally =>
          { tally with sendFailures := tally.sendFailures + 1 } := by
  unfold bouncing
  rw [hdead]
  rfl

/-- A host that starts no consumer leaves it as it is. -/
theorem bouncing_of_alive (envelope : Envelope) (halive : desk.isDead = false) :
    desk.bouncing envelope =
      (desk.turnedAway (desk.backstage.release envelope.frames).leases).count fun tally =>
        { tally with sendFailures := tally.sendFailures + 1 } := by
  unfold bouncing
  rw [halive]
  rfl

/-- What is sent is accepted, unless there is no consumer to be had. -/
theorem send_of_hearing (envelope : Envelope) (hhearing : desk.isDeaf = false) :
    desk.send envelope = (true, desk.posting envelope) := by
  obtain ⟨scene, ⟨id, ⟨transport, count, refusal⟩, renderer, leases, source, state, visible, tally⟩⟩ := desk
  cases transport with
  | absent =>
    cases refusal with
    | none => rfl
    | some cause => cases hhearing
  | running call queue => rfl
  | crashed => cases hhearing

/-- What is sent comes back if there is none. -/
theorem send_of_deaf (envelope : Envelope) (hdeaf : desk.isDeaf = true) :
    desk.send envelope = (false, desk.bouncing envelope) := by
  obtain ⟨scene, ⟨id, ⟨transport, count, refusal⟩, renderer, leases, source, state, visible, tally⟩⟩ := desk
  cases transport with
  | absent =>
    cases refusal with
    | none => cases hdeaf
    | some cause => rfl
  | running call queue => cases hdeaf
  | crashed => rfl

/-- A presenter may or may not tell its surface by mail; it does so when one is bound. -/
theorem isBound_eq (desk : Desk) : desk.isBound = desk.bond?.isSome := by
  unfold isBound bond? link? Scene.link? Scene.boundSurface?
  cases desk.scene.binding? desk.owner with
  | none => rfl
  | some binding => cases hsurface : binding.surface <;> simp [Binding.link, hsurface]

/-- Without a bond no link has a surface. -/
theorem link_of_no_bond (hnone : desk.bond? = none) {epoch surface : Nat} :
    desk.link? ≠ some ⟨epoch, some surface⟩ := by
  intro hlink
  unfold bond? at hnone
  rw [hlink] at hnone
  cases hnone

/-- Nor has it one while nothing is bound. -/
theorem link_of_unbound (hunbound : desk.isBound = false) {epoch surface : Nat} :
    desk.link? ≠ some ⟨epoch, some surface⟩ := by
  rw [isBound_eq] at hunbound
  exact link_of_no_bond (Option.isNone_iff_eq_none.1 (by simpa using hunbound))

/-- What an announcement can come to. -/
inductive Announced (desk : Desk) : Desk → Prop where
  | shown : desk.presenter.visible = true → Announced desk desk
  | told : desk.presenter.visible = false → desk.isDeaf = false →
      Announced desk (desk.posting (.visibility false))
  | bounced : desk.presenter.visible = false → desk.isDeaf = true →
      Announced desk (desk.bouncing (.visibility false))

/-- Every announcement is one of the three. -/
theorem announced (desk : Desk) : Announced desk desk.announce := by
  unfold announce
  cases hvisible : desk.presenter.visible with
  | true => exact .shown hvisible
  | false =>
    cases hdeaf : desk.isDeaf with
    | false =>
      rw [send_of_hearing _ hdeaf]
      exact .told hvisible hdeaf
    | true =>
      rw [send_of_deaf _ hdeaf]
      exact .bounced hvisible hdeaf

/-- The presenter takes note of the visibility asked for. -/
def asking (visible : Bool) (desk : Desk) : Desk :=
  { desk with presenter := { desk.presenter with visible } }

/-- While a surface is bound, it hears of a request by mail. -/
theorem setVisible_of_bound (visible : Bool) (hbound : desk.isBound = true) :
    desk.setVisible visible = ((desk.asking visible).send (.visibility visible)).2 :=
  if_pos hbound

/-- What a request for a visibility can come to. -/
inductive Asked (desk : Desk) (visible : Bool) : Desk → Prop where
  | kept : desk.isBound = false → Asked desk visible (desk.asking visible)
  | told : desk.isBound = true → desk.isDeaf = false →
      Asked desk visible ((desk.asking visible).posting (.visibility visible))
  | bounced : desk.isBound = true → desk.isDeaf = true →
      Asked desk visible ((desk.asking visible).bouncing (.visibility visible))

/-- Every request for a visibility is one of the three. -/
theorem asked (visible : Bool) (desk : Desk) : Asked desk visible (desk.setVisible visible) := by
  show Asked desk visible (if desk.isBound then ((desk.asking visible).send _).2 else _)
  cases hbound : desk.isBound with
  | false => exact .kept hbound
  | true =>
    cases hdeaf : desk.isDeaf with
    | false =>
      rw [send_of_hearing _ (show (desk.asking visible).isDeaf = false from hdeaf)]
      exact .told hbound hdeaf
    | true =>
      rw [send_of_deaf _ (show (desk.asking visible).isDeaf = true from hdeaf)]
      exact .bounced hbound hdeaf

/-- Whether a frame that is submitted now is sent. -/
def admits (desk : Desk) : Bool :=
  desk.presenter.state.canRender && !desk.presenter.isSilenced && desk.isBound

/-- Why a frame is dropped before it is sent. -/
inductive Refusal where
  | state
  | source
  | unbound

/-- Each reason has a count of its own. -/
def Refusal.charge (tally : AdmissionTally) : Refusal → AdmissionTally
  | state => { tally with droppedByState := tally.droppedByState + 1 }
  | source => { tally with droppedBySource := tally.droppedBySource + 1 }
  | unbound => { tally with droppedUnbound := tally.droppedUnbound + 1 }

/-- What a submit can come to. -/
inductive Submitted (desk : Desk) (frame : SharedFrame) : Admission × Desk → Prop where
  | dropped (refusal : Refusal) : desk.admits = false →
      Submitted desk frame (.dropped, desk.count (refusal.charge ·))
  | queued (epoch surface) :
      desk.admits = true → desk.link? = some ⟨epoch, some surface⟩ → desk.isDeaf = false →
      Submitted desk frame (.queued, ((desk.lease frame).posting (.frame frame epoch)).count
        fun tally => { tally with sent := tally.sent + 1 })
  | bounced (epoch surface) :
      desk.admits = true → desk.link? = some ⟨epoch, some surface⟩ → desk.isDeaf = true →
      Submitted desk frame (.dropped, (desk.lease frame).bouncing (.frame frame epoch))

/-- Every submit is one of the three. -/
theorem submitted (frame : SharedFrame) (desk : Desk) :
    Submitted desk frame (desk.submit frame) := by
  rcases desk.submit_cases frame with ⟨hstate, hdropped⟩ | ⟨_, hsource, hdropped⟩ |
    ⟨_, _, hunbound, hdropped⟩ | ⟨hstate, hsource, binding, surface, hbinding, hsurface, hsent⟩
  · rw [hdropped]
    exact .dropped .state (by simp [admits, hstate])
  · rw [hdropped]
    exact .dropped .source (by simp [admits, hsource])
  · rw [hdropped]
    exact .dropped .unbound (by simp [admits, hunbound])
  · have hlink := link_of_bound hbinding hsurface
    have hadmits : desk.admits = true := by
      have hbound : desk.isBound = true := by
        rw [isBound_eq, bond_of_link hlink]
        rfl
      simp [admits, hstate, hsource, hbound]
    rw [hsent]
    cases hdeaf : desk.isDeaf with
    | false =>
      rw [send_of_hearing _ (show (desk.lease frame).isDeaf = false from hdeaf)]
      exact .queued _ surface hadmits hlink hdeaf
    | true =>
      rw [send_of_deaf _ (show (desk.lease frame).isDeaf = true from hdeaf)]
      exact .bounced _ surface hadmits hlink hdeaf

/-- A close without a call in progress throws the queue away, unless there is no transport to close. -/
theorem close_of_quiet (hquiet : desk.call? = none) :
    desk.presenter.mailbox.transport = .absent ∧ desk.close = desk ∨
      desk.presenter.mailbox.transport.isOpen = true ∧ ∃ leases, desk.close = desk.drained leases
        (desk.presenter.mailbox.tally.countDiscarded desk.presenter.mailbox.transport.queue) := by
  obtain ⟨scene, ⟨id, ⟨transport, count, refusal⟩, renderer, leases, source, state, visible, tally⟩⟩ := desk
  cases transport with
  | absent => exact .inl ⟨rfl, rfl⟩
  | crashed => exact .inr ⟨rfl, _, rfl⟩
  | running call queue =>
    cases hquiet
    refine .inr ⟨rfl, ((Backstage.mk scene renderer leases).release
      (queue.flatMap Envelope.frames)).drain.leases, ?_⟩
    simp only [close, Mailbox.close, backstage, Backstage.disposeAll_eq]
    rfl

/-- Letting go of what is held changes no count but that of the frames let go of. -/
theorem letGo_spec (renderer : Renderer) :
    renderer.letGo.owner = renderer.owner ∧ renderer.letGo.held = none ∧
      renderer.letGo.tally = { renderer.tally with
        releasedOnDrain := renderer.tally.releasedOnDrain + renderer.held.isSome.toNat } := by
  unfold Renderer.letGo
  split
  · next hnone => exact ⟨rfl, hnone, by simp [hnone]⟩
  · next hsome => exact ⟨rfl, rfl, by simp [hsome]⟩

/-- What is done aside from the mail: the mail, the renderer and all that is told to surfaces stay. -/
structure Aside (before after : Desk) : Prop where
  transport : after.presenter.mailbox.transport = before.presenter.mailbox.transport
  mailTally : after.presenter.mailbox.tally = before.presenter.mailbox.tally
  renderer : after.presenter.renderer = before.presenter.renderer
  leases : after.presenter.leases = before.presenter.leases
  visible : after.presenter.visible = before.presenter.visible
  tally : after.presenter.tally = before.presenter.tally
  view : ∀ {α : Type} {look : Surface → α}, Aloof look →
    after.scene.view look = before.scene.view look

/-- What leaves the presenter and aloof views alone is done aside from the mail. -/
theorem Aside.of_presenter {before after : Desk} (hpresenter : after.presenter = before.presenter)
    (hview : ∀ {α : Type} {look : Surface → α}, Aloof look →
      after.scene.view look = before.scene.view look) : Aside before after where
  transport := by rw [hpresenter]
  mailTally := by rw [hpresenter]
  renderer := by rw [hpresenter]
  leases := by rw [hpresenter]
  visible := by rw [hpresenter]
  tally := by rw [hpresenter]
  view := hview

section Inward

variable {α : Type} {look : Surface → α}

/-- The end of a binding is no matter to an inward view. -/
theorem view_unbind (hinward : Inward look) (desk : Desk) :
    desk.unbind.scene.view look = desk.scene.view look := by
  unfold unbind
  dsimp only
  split
  · exact Scene.view_changeSurface_same (hinward.disconnect _) _ _
  · rfl

/-- Nor is a surface that is attached. -/
theorem view_attach (hinward : Inward look) (surface : Nat) (zeroCopy : Bool) (desk : Desk) :
    (desk.attach surface zeroCopy).scene.view look = desk.scene.view look := by
  have hhinted : (desk.hint surface zeroCopy).scene.view look = desk.scene.view look := by
    cases zeroCopy with
    | false => rfl
    | true => exact Scene.view_changeSurface_same hinward.hint surface _
  exact (Scene.view_connect hinward.forget hinward.connect surface _ _ _).trans hhinted

/-- Nor is an arrangement. -/
theorem view_arrange (hinward : Inward look) (arrangement : Arrangement) (desk : Desk) :
    (desk.arrange arrangement).scene.view look = desk.scene.view look := by
  cases arrangement with
  | resize surface size => exact Scene.view_resize hinward.fill surface size desk.scene
  | _ => rfl

end Inward

/-- Arrangements are made aside from the mail. -/
theorem aside_arrange (arrangement : Arrangement) (desk : Desk) :
    Aside desk (desk.arrange arrangement) := by
  have hview {α : Type} {look : Surface → α} (haloof : Aloof look) :=
    view_arrange haloof.inward arrangement desk
  cases arrangement with
  | fit => exact .of_presenter rfl hview
  | state => exact ⟨rfl, rfl, rfl, rfl, rfl, rfl, hview⟩
  | source => exact ⟨rfl, rfl, rfl, rfl, rfl, rfl, hview⟩
  | resize => exact .of_presenter rfl hview
  | arm => exact .of_presenter rfl hview
  | bar => exact ⟨rfl, rfl, rfl, rfl, rfl, rfl, hview⟩

/-- A destruction happens aside from the mail. -/
theorem aside_destroy (surface : Nat) (desk : Desk) :
    Aside desk (desk.changeScene (.destroy surface)) :=
  .of_presenter rfl fun haloof => Scene.view_destroy haloof.inward.forget surface desk.scene

/-- A binding ends aside from the mail. -/
theorem aside_unbind (desk : Desk) : Aside desk desk.unbind :=
  .of_presenter (presenter_unbind desk) fun haloof => view_unbind haloof.inward desk

/-- A surface is attached aside from the mail. -/
theorem aside_attach (surface : Nat) (zeroCopy : Bool) (desk : Desk) :
    Aside desk (desk.attach surface zeroCopy) :=
  .of_presenter (presenter_attach surface zeroCopy desk) fun haloof => view_attach haloof.inward surface zeroCopy desk

/-- Arrangements leave the terms of the binding as they are. -/
theorem arrange_binding {α : Type} {look : Binding → α}
    (hlook : ∀ (binding : Binding) fit, look { binding with fit } = look binding)
    (arrangement : Arrangement) (desk : Desk) :
    (desk.arrange arrangement).binding?.map look = desk.binding?.map look := by
  cases arrangement with
  | fit fit =>
    show ((desk.scene.changeBinding desk.owner _).binding? desk.owner).map look = _
    rw [Scene.binding_changeBinding, Option.map_map]
    exact congrArg (Option.map · desk.binding?) (funext fun binding => hlook binding fit)
  | state state => rfl
  | source source => rfl
  | resize surface size =>
    show ((desk.scene.resize surface size).binding? desk.owner).map look = _
    unfold Scene.binding?
    rw [Scene.bindings_resize]
    rfl
  | arm fault => rfl
  | bar refusal => rfl

namespace Aside

variable {before after : Desk}

/-- The call in progress stays. -/
theorem call (haside : Aside before after) : after.call? = before.call? := by
  unfold Desk.call?
  rw [haside.transport]

/-- What surfaces were told stays. -/
theorem told (haside : Aside before after) (surface : Nat) :
    after.scene.told surface = before.scene.told surface :=
  Scene.told_congr (haside.view Surface.aloof_told) surface

/-- The surfaces stay where they are. -/
theorem length (haside : Aside before after) :
    after.scene.surfaces.length = before.scene.surfaces.length := by
  rw [← Scene.length_view Surface.told, haside.view Surface.aloof_told, Scene.length_view]

end Aside

end Desk

end FramePath
