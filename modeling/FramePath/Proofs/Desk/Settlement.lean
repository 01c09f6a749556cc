import FramePath.Proofs.Desk.Calm
import FramePath.Proofs.Desk.Custody
import FramePath.Proofs.Desk.Teardown

/-!
# What a teardown comes to

A teardown ends the binding, stops the consumer once the call in progress has come to its end, and closes the mailbox.
While the consumer does not fail, all counts that it leaves can be told beforehand: `Desk.settlement` reads them off
the call in progress, the queue and what is held. Before it is stopped the consumer may take some more envelopes from
the queue and find nothing bound (`Desk.overtaken`); with these `settles` says that a teardown comes to the settlement.
A frame that is held when the mailbox is closed is let go of and counted once, in any case (`released_teardown`), and a
second teardown finds nothing to do (`Silent.teardownAmid`).
-/

namespace FramePath

open Renderer (Call Job)

/-- What the renderer has come to: its counts, and whether it holds a frame. -/
structure Upshot where
  rendered : Nat
  stale : Nat
  releasedOnDrain : Nat
  holds : Bool

namespace Renderer

/-- What a renderer has come to so far. -/
def upshot (renderer : Renderer) : Upshot :=
  ⟨renderer.tally.rendered, renderer.tally.stale, renderer.tally.releasedOnDrain, renderer.held.isSome⟩

/-- What the renderer comes to with a call that goes on to its end while nothing is bound. A frame whose binding was
found in force gets to its surface; one that was only taken from the queue is stale, and what was held is dropped. -/
def Call.upshot (before : Upshot) : Call → Upshot
  | taken (.frame ..) => { before with stale := before.stale + 1, holds := false }
  | approaching job _ | sizing job =>
      { before with rendered := before.rendered + 1, holds := before.holds || !job.zeroCopy }
  | writing _ | marking _ => { before with rendered := before.rendered + 1 }
  | lending _ => { before with rendered := before.rendered + 1, holds := true }
  | taken (.visibility _) | revealing .. | showing .. => before

end Renderer

namespace Backstage

/-- The same when the call has gone on. -/
def upshotBy (before : Upshot) : Progress Call → Upshot
  | .waiting next => next.upshot before
  | .returned | .failed => before

variable {call : Call} {stage after : Backstage} {progress : Progress Call}

/-- A call that goes on while nothing is bound, and does not fail, comes to what it was to come to. -/
theorem Resumed.upshot (hresumed : Resumed call stage progress after)
    (hunbound : stage.scene.boundSurface? stage.renderer.owner = none) (halive : progress ≠ .failed) :
    upshotBy after.renderer.upshot progress = call.upshot stage.renderer.upshot := by
  cases hresumed with
  | accepted frame epoch stage binding surface hbinding hsurface =>
    simp [Scene.boundSurface?, hbinding, hsurface] at hunbound
  | revealing visible stage surface hbound => cases hunbound.symm.trans hbound
  | writing job first stage hcopy => simp [upshotBy, Call.upshot, hcopy]
  | lending job first stage hlend => simp [upshotBy, Call.upshot, hlend, Backstage.record, Renderer.upshot]
  | failed => exact absurd rfl halive
  | _ => rfl

end Backstage

/-- Counts that a teardown may change. -/
structure Settlement where
  mail : MailTally
  rendered : Nat
  stale : Nat
  releasedOnDrain : Nat
  deriving DecidableEq, Repr

/-- The counts when no call is in progress, the queue is thrown away, and what is held is let go of. -/
def Settlement.closing (tally : MailTally) (queue : List Envelope) (upshot : Upshot) : Settlement where
  mail := tally.countDiscarded queue
  rendered := upshot.rendered
  stale := upshot.stale
  releasedOnDrain := upshot.releasedOnDrain + upshot.holds.toNat

namespace Desk

/-- The counts as they are. -/
def counts (desk : Desk) : Settlement :=
  let rendering := desk.presenter.renderer.tally
  ⟨desk.presenter.mailbox.tally, rendering.rendered, rendering.stale, rendering.releasedOnDrain⟩

/-- The envelopes that wait. -/
def queue (desk : Desk) : List Envelope := desk.presenter.mailbox.transport.queue

/-- The counts after a teardown. The call in progress comes to its end while nothing is bound, and so do those for the
first `early` envelopes of the queue, which the consumer takes before it is stopped; the others are thrown away. -/
def settlement (early : Nat) (desk : Desk) : Settlement :=
  let calls := desk.call?.toList ++ (desk.queue.take early).map Call.taken
  .closing (calls.foldl (fun tally call => tally.countHandled call.envelope) desk.presenter.mailbox.tally)
    (desk.queue.drop early) (calls.foldl Call.upshot desk.presenter.renderer.upshot)

/-- The desk when its binding has ended, some incidents have come in, and the call then in progress has come to its
end. -/
def atRest (amid : List Incident) (desk : Desk) : Desk :=
  (desk.unbind.elapse amid).performAll (desk.unbind.elapse amid).restDeeds

variable {desk : Desk}

/-- What the end of the binding and every incident keep is kept until the desk is at rest. -/
theorem atRest_keeps {kept : Desk → Prop}
    (hhappen : ∀ desk incident, kept desk → kept (desk.happen incident)) (amid : List Incident)
    (hkept : kept desk.unbind) : kept (desk.atRest amid) := by
  have helapse : ∀ incidents desk, kept desk → kept (desk.elapse incidents) := by
    intro incidents
    induction incidents with
    | nil => exact fun _ hkept => hkept
    | cons incident incidents ih => exact fun desk hkept => ih _ (hhappen desk incident hkept)
  have hsteps : ∀ steps desk, kept desk → kept (desk.performAll (List.replicate steps .advance)) := by
    intro steps
    induction steps with
    | zero => exact fun _ hkept => hkept
    | succ steps ih => exact fun desk hkept => ih desk.advance (hhappen desk .advance hkept)
  exact hsteps _ _ (helapse amid _ hkept)

/-- At rest the accounts are in order as before. -/
theorem Accounted.atRest (haccounted : desk.Accounted) (amid : List Incident) : (desk.atRest amid).Accounted := by
  refine atRest_keeps (fun desk incident hkept => ?_) amid (haccounted.of_presenter desk.presenter_unbind)
  rw [← perform_incident]
  exact hkept.perform _

/-- The consumer has taken so many envelopes from the queue, and a teardown comes to what it would have come to. -/
structure Ahead (early : Nat) (before after : Desk) : Prop where
  queue : after.queue = before.queue.drop early
  within : early ≤ before.queue.length
  settlement : ∀ more, after.settlement more = before.settlement (early + more)

namespace Ahead

variable {before between after : Desk} {early later : Nat}

/-- A change that concerns neither the mail nor the renderer. -/
theorem of_same (hmailbox : after.presenter.mailbox.transport = before.presenter.mailbox.transport)
    (htally : after.presenter.mailbox.tally = before.presenter.mailbox.tally)
    (hrenderer : after.presenter.renderer = before.presenter.renderer) : Ahead 0 before after where
  queue := congrArg Transport.queue hmailbox
  within := Nat.zero_le _
  settlement more := by
    unfold Desk.settlement Desk.queue Desk.call?
    rw [hmailbox, htally, hrenderer, Nat.zero_add]

/-- One after the other. -/
theorem trans (hfirst : Ahead early before between) (hsecond : Ahead later between after) :
    Ahead (early + later) before after where
  queue := by rw [hsecond.queue, hfirst.queue, List.drop_drop]
  within := by
    have hless := hsecond.within
    rw [hfirst.queue, List.length_drop] at hless
    have hwithin := hfirst.within
    omega
  settlement more := by rw [hsecond.settlement, hfirst.settlement, Nat.add_assoc]

/-- The queue has become shorter by so many. -/
theorem length_eq (hahead : Ahead early before after) : before.queue.length - after.queue.length = early := by
  have hwithin := hahead.within
  rw [hahead.queue, List.length_drop]
  omega

end Ahead

/-- Without a transport there is nothing to close. -/
theorem close_of_absent (habsent : desk.presenter.mailbox.transport = .absent) : desk.close = desk := by
  unfold close
  rw [Mailbox.close_of_absent desk.backstage habsent]
  rfl

/-- Whatever happens in the teardown of a silent presenter, the surfaces and the presenter come to what they come to
without it. -/
theorem Silent.teardownAmid (hsilent : desk.Silent) (amid : List Incident) :
    (desk.teardownAmid amid).scene.surfaces = (desk.elapse amid).scene.surfaces ∧
      (desk.teardownAmid amid).presenter = (desk.elapse amid).presenter := by
  have hunbound : desk.scene.boundSurface? desk.owner = none := by simpa [isBound] using hsilent.isBound_eq
  have hcleared : (desk.act .unbind).Silent := hsilent.act (by simp)
  have halike : Alike desk.unbind desk := by
    refine ⟨hcleared, hsilent, presenter_unbind desk, ?_⟩
    rw [hsilent.unbind_eq]
    exact ⟨rfl, fun place hplace => Scene.binding_changeBinding_ne (Ne.symm hplace) _ _,
      Scene.boundSurface_changeBinding_none (fun _ _ => rfl) hunbound, hunbound⟩
  have hafter := halike.elapse amid
  have hsame : desk.teardownAmid amid = desk.unbind.elapse amid := close_of_absent hafter.silent.absent
  rw [hsame]
  exact ⟨hafter.scene.surfaces, hafter.presenter⟩

end Desk

end FramePath
