import FramePath.Proofs.Desk.Sites

/-!
# What a bound surface is going to be told

A surface that stays bound hears of every change of visibility that is on its way, in order. `prospect` is what it
will have been told in the end. A step of the consumer does not change the prospect (`prospect_advance`), and a
change of visibility that is sent decides it (`prospect_posting`).
-/

namespace FramePath

open Renderer (Call Job)

/-- The visibility inside an envelope, if there is one. -/
def Envelope.visible? : Envelope → Option Bool
  | .frame .. => none
  | .visibility visible => some visible

/-- What somebody who was told this visibility will have been told after these envelopes. -/
def foretell (told : Bool) (queue : List Envelope) : Bool :=
  queue.foldl (fun told envelope => envelope.visible?.getD told) told

/-- The last envelope counts most. -/
theorem foretell_concat (told : Bool) (queue : List Envelope) (envelope : Envelope) :
    foretell told (queue ++ [envelope]) = envelope.visible?.getD (foretell told queue) :=
  List.foldl_append

/-- Frames say nothing about visibility. -/
theorem foretell_frames (told : Bool) {queue : List Envelope}
    (hframes : ∀ envelope ∈ queue, envelope.visible? = none) : foretell told queue = told := by
  induction queue generalizing told with
  | nil => rfl
  | cons envelope queue ih =>
    obtain ⟨hfirst, hrest⟩ := List.forall_mem_cons.1 hframes
    show foretell (envelope.visible?.getD told) queue = told
    rw [hfirst]
    exact ih told hrest

namespace Renderer.Call

/-- What a bound surface that was told this visibility will have been told when a call is over. -/
def leaves (surface : Nat) (told : Bool) : Call → Bool
  | taken envelope => envelope.visible?.getD told
  | revealing visible bound => if bound = surface then visible else told
  | _ => told

end Renderer.Call

namespace Scene

/-- A call that says nothing about visibility changes nothing about what surfaces were told. -/
theorem told_record_silent {call : SurfaceCall} (hsilent : call.visible? = none)
    (surface other : Nat) (scene : Scene) :
    (scene.record surface call).told other = scene.told other := by
  refine told_congr (view_changeSurface_same (fun target => ?_) surface scene) other
  show (target.record call).told = target.told
  rw [Surface.told_record, hsilent]
  rfl

/-- Nor does a frame that is copied. -/
theorem told_copyIn (frame : SharedFrame) (surface other : Nat) (scene : Scene) :
    (scene.changeSurface surface (.copyIn frame)).told other = scene.told other := by
  refine told_congr (view_changeSurface_same (fun target => ?_) surface scene) other
  exact Surface.told_record (.write frame _) _

end Scene

namespace Backstage

/-- The same when the call has gone on. -/
def leavesBy (surface : Nat) (told : Bool) : Progress Call → Bool
  | .waiting next => next.leaves surface told
  | .returned | .failed => told

variable {call : Call} {stage after : Backstage} {progress : Progress Call} {surface : Nat}

/-- A call that goes on leaves the bound surface with what it was going to leave it with. -/
theorem Resumed.leaves (hresumed : Resumed call stage progress after)
    (hbound : stage.scene.boundSurface? stage.renderer.owner = some surface)
    (hfound : surface < stage.scene.surfaces.length) :
    leavesBy surface (after.scene.told surface) progress =
      call.leaves surface (stage.scene.told surface) := by
  rw [Scene.told_congr (hresumed.view Surface.aloof_told)]
  cases hresumed with
  | lending job => exact Scene.told_record_silent rfl _ _ _
  | written job => exact Scene.told_copyIn job.frame _ _ _
  | withheld job => exact Scene.told_record_silent rfl _ _ _
  | unseen visible stage hnone =>
    rw [hbound] at hnone
    cases hnone
  | revealing visible stage bound hsame =>
    cases hbound.symm.trans hsame
    exact if_pos rfl
  | showing visible bound =>
    -- The surface hears of it now, if it is the one that the call was for.
    show (stage.scene.record bound (.visible visible)).told surface =
      if bound = surface then visible else stage.scene.told surface
    split
    · next hsame =>
      cases hsame
      exact Scene.told_record_same visible hfound
    · next hother => exact Scene.told_record_other hother _ _
  | failed call stage point hpoint =>
    cases call with
    | taken => cases hpoint
    | revealing => cases hpoint
    | _ => rfl
  | _ => rfl

end Backstage

namespace Desk

/-- What a bound surface will have been told when the call in progress is over. -/
def outlook (surface : Nat) (desk : Desk) : Bool :=
  (desk.call?.map (Call.leaves surface (desk.scene.told surface))).getD (desk.scene.told surface)

/-- What a bound surface will have been told when all that is on its way has been dealt with. -/
def prospect (surface : Nat) (desk : Desk) : Bool :=
  foretell (desk.outlook surface) desk.presenter.mailbox.transport.queue

variable {desk after : Desk} {epoch surface : Nat}

/-- The outlook of a surface that stays bound does not change while a call goes on. -/
theorem outlook_resumed {call : Call} {queue : List Envelope} {progress : Progress Call}
    {stage : Backstage} (hsited : desk.Sited) (hlink : desk.link? = some ⟨epoch, some surface⟩)
    (htransport : desk.presenter.mailbox.transport = .running (some call) queue)
    (hresumed : Backstage.Resumed call desk.backstage progress stage) :
    Backstage.leavesBy surface (stage.scene.told surface) progress = desk.outlook surface := by
  have hcall := call_running htransport
  unfold outlook
  rw [hcall]
  exact hresumed.leaves (boundSurface_of_link hlink) (hsited.bound hlink)

/-- Nor does the prospect, unless the consumer fails. -/
theorem prospect_advance (hsited : desk.Sited) (hlink : desk.link? = some ⟨epoch, some surface⟩)
    (halive : desk.advance.isDead = false) :
    desk.advance.prospect surface = desk.prospect surface := by
  have hkind := advanced desk
  generalize desk.advance = after at halive hkind ⊢
  cases hkind with
  | resting => rfl
  | taken envelope queue htransport =>
    unfold prospect outlook call?
    rw [htransport]
    rfl
  | waiting call next queue stage htransport hresumed =>
    have hsame := outlook_resumed hsited hlink htransport hresumed
    unfold prospect
    rw [← hsame, htransport]
    rfl
  | returned call queue stage htransport hresumed =>
    have hsame := outlook_resumed hsited hlink htransport hresumed
    unfold prospect
    rw [← hsame, htransport]
    rfl
  | failed => cases halive

/-- What is done aside from the mail leaves every outlook. -/
theorem Aside.outlook (haside : Aside desk after) (surface : Nat) :
    after.outlook surface = desk.outlook surface := by
  unfold Desk.outlook
  rw [haside.call, haside.told]

/-- It leaves every prospect too. -/
theorem Aside.prospect (haside : Aside desk after) (surface : Nat) :
    after.prospect surface = desk.prospect surface := by
  unfold Desk.prospect
  rw [haside.outlook, haside.transport]

/-- Sending changes no outlook. -/
theorem outlook_posting (envelope : Envelope) (surface : Nat) (desk : Desk) :
    (desk.posting envelope).outlook surface = desk.outlook surface := by
  unfold outlook
  rw [call_posting]
  rfl

/-- An envelope that is sent is the last that counts. -/
theorem prospect_posting (envelope : Envelope) (surface : Nat) (halive : desk.isDead = false) :
    (desk.posting envelope).prospect surface = envelope.visible?.getD (desk.prospect surface) := by
  unfold prospect
  rw [outlook_posting, queue_posting envelope halive]
  exact foretell_concat _ _ _

/-- An envelope that comes back from a host that starts no consumer does not count. -/
theorem prospect_bouncing (envelope : Envelope) (surface : Nat) (halive : desk.isDead = false) :
    (desk.bouncing envelope).prospect surface = desk.prospect surface := by
  unfold bouncing
  rw [halive]
  rfl

/-- While the consumer has nothing to do, the prospect of a surface is what it was told. -/
theorem prospect_of_idle (hidle : desk.presenter.mailbox.isIdle = true) (surface : Nat) :
    desk.prospect surface = desk.scene.told surface := by
  obtain ⟨hcall, hqueue⟩ := quiet_of_idle hidle
  unfold prospect outlook
  rw [hcall, hqueue]
  rfl

end Desk

end FramePath
