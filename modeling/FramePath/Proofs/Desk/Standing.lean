import FramePath.Proofs.Desk.Effects

/-!
# Where a presenter stands

A presenter decides what it sends by its own state, by the source that may show frames now and by the visibility that
was asked for. These are set by its callers, each by one act, and no other act changes them (`standing_act`): least of
all the steps of the consumer, so that what a presenter sends under a binding is told by its calls alone
(`Standing.plan`).
-/

namespace FramePath

/-- What a presenter goes by while a surface is bound. -/
structure Standing where
  id : Nat
  state : RunState
  source : Option Nat
  visible : Bool

/-- Where a presenter stands. -/
def Presenter.standing (presenter : Presenter) : Standing :=
  ⟨presenter.id, presenter.state, presenter.activeSource, presenter.visible⟩

namespace Standing

open Desk (Act)

/-- Whether frames are admitted: in every state that renders, unless another source is the active one. -/
def admits (standing : Standing) : Bool :=
  standing.state.canRender && !(standing.source.any (· != standing.id))

/-- The standing after an act. -/
def follow (standing : Standing) : Act → Standing
  | .setState state => { standing with state }
  | .setActiveSource source => { standing with source }
  | .setVisible visible => { standing with visible }
  | _ => standing

/-- What an act sends under the binding of an epoch. -/
def sends (epoch : Nat) (standing : Standing) : Act → List Envelope
  | .setVisible visible => [.visibility visible]
  | .submit frame => if standing.admits then [.frame frame epoch] else []
  | _ => []

/-- What some acts send under the binding of an epoch. -/
def plan (epoch : Nat) (standing : Standing) : List Act → List Envelope
  | [] => []
  | act :: acts => standing.sends epoch act ++ (standing.follow act).plan epoch acts

end Standing

namespace Desk

/-- What comes back to a presenter does not change where it stands. -/
theorem standing_bouncing (envelope : Envelope) (desk : Desk) :
    (desk.bouncing envelope).presenter.standing = desk.presenter.standing := by
  unfold bouncing
  dsimp only
  split <;> rfl

theorem standing_announce (desk : Desk) :
    desk.announce.presenter.standing = desk.presenter.standing := by
  have hannounced := desk.announced
  generalize desk.announce = after at hannounced ⊢
  cases hannounced with
  | shown => rfl
  | told => rfl
  | bounced => exact standing_bouncing _ _

/-- Nothing that happens by itself changes where a presenter stands. -/
theorem standing_elapse (incidents : List Incident) (desk : Desk) :
    (desk.elapse incidents).presenter.standing = desk.presenter.standing := by
  induction incidents generalizing desk with
  | nil => rfl
  | cons incident incidents ih =>
    refine (ih (desk.happen incident)).trans ?_
    cases incident <;> rfl

/-- Three acts change where a presenter stands, and the others do not. -/
theorem standing_act (desk : Desk) (act : Act) :
    (desk.act act).presenter.standing = desk.presenter.standing.follow act := by
  have hunbound : desk.unbind.presenter.standing = desk.presenter.standing := by
    rw [presenter_unbind]
  have hteardown : ∀ amid, (desk.teardownAmid amid).presenter.standing = desk.presenter.standing :=
    fun amid => (standing_elapse amid desk.unbind).trans hunbound
  cases act with
  | bind surface unbound bound =>
    show (desk.bindAmid unbound bound surface).2.presenter.standing = desk.presenter.standing
    rcases desk.bind_cases unbound bound surface with hrefused | ⟨zeroCopy, _, hbound⟩
    · rw [hrefused]
    · rw [hbound]
      dsimp only
      rw [standing_announce, standing_elapse, presenter_attach, standing_elapse, hunbound]
  | unbind => exact hunbound
  | setVisible visible =>
    have hasked := desk.asked visible
    show (desk.setVisible visible).presenter.standing = { desk.presenter.standing with visible }
    generalize desk.setVisible visible = after at hasked ⊢
    cases hasked with
    | kept => rfl
    | told => rfl
    | bounced => exact standing_bouncing _ _
  | submit frame =>
    have hsubmitted := desk.submitted frame
    show (desk.submit frame).2.presenter.standing = desk.presenter.standing
    generalize desk.submit frame = result at hsubmitted ⊢
    cases hsubmitted with
    | dropped => rfl
    | queued => rfl
    | bounced => exact standing_bouncing _ _
  | teardown amid => exact hteardown amid
  | drop amid => exact hteardown amid
  | _ => rfl

/-- After several acts it stands where they have put it one after another. -/
theorem standing_run (desk : Desk) (acts : List Act) :
    (desk.run acts).presenter.standing = acts.foldl Standing.follow desk.presenter.standing := by
  induction acts generalizing desk with
  | nil => rfl
  | cons act acts ih =>
    refine (ih (desk.act act)).trans ?_
    rw [standing_act]
    rfl

end Desk

end FramePath
