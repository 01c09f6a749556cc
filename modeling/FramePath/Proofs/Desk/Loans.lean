import FramePath.Proofs.Desk.Custody
import FramePath.Proofs.Desk.Terms

/-!
# Frames on loan

A surface reads the memory of a frame that it was lent until it is lent another one. `Loans.keeper` keeps the loans of
a run and what came of the frame dealt with last. The renderer takes the frame it holds out of its place before it knows
what becomes of the next one, so what it keeps for the surface is found in one of two places: `Desk.reserve` is that
frame, wherever it is, and `references_mail` counts the references with it.
-/

namespace FramePath

open Renderer (Call Job)
open Surface (Aloof)

/-- The frame that a surface is lent by a call. -/
def SurfaceCall.lent? : SurfaceCall → Option SharedFrame
  | .lend frame => some frame
  | _ => none

namespace Surface

/-- The frames that a surface was lent, the oldest first. -/
def loans (surface : Surface) : List SharedFrame := surface.log.reverse.filterMap SurfaceCall.lent?

/-- A call that is written down lends its frame, if it lends one. -/
theorem loans_record (call : SurfaceCall) (surface : Surface) :
    (surface.record call).loans = surface.loans ++ call.lent?.toList :=
  surface.read_record SurfaceCall.lent? call

/-- A call that lends nothing leaves the frames that were lent. -/
theorem loans_record_quiet (call : SurfaceCall) (hquiet : call.lent? = none) (surface : Surface) :
    (surface.record call).loans = surface.loans := by
  rw [loans_record, hquiet]
  exact List.append_nil _

/-- The frames that a surface was lent are read off its log. -/
theorem aloof_loans : Aloof loans := by
  refine aloof_read fun {call} hroutine => ?_
  cases call with
  | lend frame => cases hroutine
  | _ => rfl

end Surface

/-- The frames that each surface was lent. -/
def Scene.loans (scene : Scene) : List (List SharedFrame) := scene.view Surface.loans

/-- The epoch inside an envelope, if it has a frame. -/
def Envelope.epoch? : Envelope → Option Nat
  | .frame _ epoch => some epoch
  | .visibility _ => none

/-- A frame that was dealt with, and whether it was lent. -/
structure Handled where
  frame : SharedFrame
  lent : Bool
  deriving DecidableEq, Repr

/-- The frame that is kept after it was dealt with. -/
def Handled.kept? (handled : Handled) : Option SharedFrame :=
  if handled.lent then some handled.frame else none

/-- What is kept was dealt with and lent. -/
theorem Handled.bind_kept {last : Option Handled} {frame : SharedFrame} :
    last.bind Handled.kept? = some frame ↔ last = some ⟨frame, true⟩ := by
  cases last with
  | none => exact ⟨nofun, nofun⟩
  | some handled =>
    obtain ⟨dealt, lent⟩ := handled
    cases lent <;> simp [Handled.kept?]

namespace Renderer.Call

/-- The loan for which a call is at its surface. -/
def lent? : Call → Option Showing
  | lending job => some ⟨job.frame, job.bond⟩
  | _ => none

/-- The frame that is dealt with when a call returns. -/
def handled? (call : Call) : Option Handled :=
  call.envelope.frame?.map fun frame => ⟨frame, call.lent?.isSome⟩

/-- The frame that was lent last, which a job has taken over. -/
def reserve (held : Option SharedFrame) (call : Call) : Option SharedFrame :=
  match call.job? with
  | some job => job.previous
  | none => held

/-- A frame is lent or copied as its job says. -/
def Mannerly : Call → Prop
  | lending job => job.zeroCopy = false
  | writing job | marking job => job.zeroCopy = true
  | _ => True

end Renderer.Call

namespace Backstage

/-- What a call has lent when it has gone on. -/
def lentBy : Progress Call → List Showing
  | .waiting next => next.lent?.toList
  | .returned | .failed => []

namespace Resumed

variable {call next : Call} {stage after : Backstage} {progress : Progress Call}

/-- A surface is lent a frame when a call comes to lend it, and then only. -/
theorem loans (hresumed : Resumed call stage progress after) (surface : Nat) :
    after.scene.loans[surface]? =
      stage.scene.loans[surface]?.map (· ++ Showing.at surface (lentBy progress)) := by
  have hview : after.scene.loans = (spoken call progress stage.scene).loans :=
    hresumed.view Surface.aloof_loans
  have hquiet : ∀ {other : Scene}, other.loans = stage.scene.loans →
      other.loans[surface]? = stage.scene.loans[surface]?.map (· ++ Showing.at surface []) := by
    intro other hsame
    rw [hsame]
    cases stage.scene.loans[surface]? with
    | none => rfl
    | some frames => exact congrArg some (List.append_nil frames).symm
  rw [hview]
  cases hresumed with
  | lending job first stage =>
    have hrecord : (stage.scene.record job.surface (.lend job.frame)).loans =
        stage.scene.loans.modify job.surface (· ++ [job.frame]) :=
      Scene.view_changeSurface (Surface.loans_record (.lend job.frame)) job.surface stage.scene
    show (stage.scene.record job.surface (.lend job.frame)).loans[surface]? = _
    rw [hrecord]
    exact Showing.at_modify ⟨job.frame, job.bond⟩ surface stage.scene.loans
  | written job =>
    refine hquiet (Scene.view_changeSurface_same (fun target => ?_) job.surface _)
    exact Surface.loans_record_quiet (.write job.frame _) rfl _
  | showing visible bound =>
    exact hquiet (Scene.view_changeSurface_same
      (Surface.loans_record_quiet (.visible visible) rfl) bound _)
  | withheld job =>
    exact hquiet (Scene.view_changeSurface_same
      (Surface.loans_record_quiet (.noBacking job.frame) rfl) job.surface _)
  | _ => exact hquiet rfl

/-- A call that goes on keeps the frame that was lent last, or takes it over. -/
theorem reserve (hresumed : Resumed call stage (.waiting next) after) :
    next.reserve after.renderer.held = call.reserve stage.renderer.held := by
  cases hresumed <;> rfl

/-- A call that goes on has the job that it had, or takes one up on the terms of the binding in force. -/
theorem job {job : Job} (hresumed : Resumed call stage (.waiting next) after)
    (hjob : next.job? = some job) :
    call.job? = some job ∨ call.job? = none ∧
      (stage.scene.binding? stage.renderer.owner).map Binding.terms =
        some ⟨⟨job.epoch, some job.surface⟩, job.zeroCopy⟩ := by
  cases hresumed with
  | accepted frame epoch stage binding surface hbinding hsurface hepoch =>
    cases hjob
    refine .inr ⟨rfl, ?_⟩
    rw [hbinding]
    show some (Terms.mk ⟨binding.epoch, binding.surface⟩ binding.zeroCopy) = _
    rw [hsurface, hepoch]
  | revealing => cases hjob
  | showing => cases hjob
  | _ => exact .inl hjob

/-- A call that goes on was not at its surface with a loan. -/
theorem lent_before (hresumed : Resumed call stage (.waiting next) after) : call.lent? = none := by
  cases hresumed <;> rfl

/-- A call that goes on does as its job says. -/
theorem mannerly (hresumed : Resumed call stage (.waiting next) after) (hmannerly : call.Mannerly) :
    next.Mannerly := by
  cases hresumed with
  | writing job first stage hcopy => exact hcopy
  | lending job first stage hlend => exact hlend
  | written job => exact hmannerly
  | _ => exact trivial

/-- A call that returns leaves the frame that it lent in its place, or none if it had another one. -/
theorem held (hresumed : Resumed call stage .returned after)
    (htaken : ∀ job, call.job? = some job → stage.renderer.held = none) :
    after.renderer.held = (call.handled?.map Handled.kept?).getD stage.renderer.held := by
  cases hresumed with
  | withheld job => exact htaken job rfl
  | marked job => exact htaken job rfl
  | _ => rfl

/-- A frame that is dealt with and was not lent was stale, or was to be copied. -/
theorem unlent {frame : SharedFrame} {epoch : Nat} (hresumed : Resumed call stage .returned after)
    (hmannerly : call.Mannerly) (henvelope : call.envelope = .frame frame epoch)
    (hnone : call.lent? = none) :
    ¬ stage.IsCurrent epoch ∨
      ∃ job, call.job? = some job ∧ job.epoch = epoch ∧ job.zeroCopy = true := by
  cases hresumed with
  | stale _ _ _ hstale =>
    cases henvelope
    exact .inl hstale
  | withheld job =>
    cases henvelope
    exact .inr ⟨job, rfl, rfl, hmannerly⟩
  | marked job =>
    cases henvelope
    exact .inr ⟨job, rfl, rfl, hmannerly⟩
  | lent => cases hnone
  | unseen => cases henvelope
  | shown => cases henvelope

end Resumed

end Backstage

/-- The frames that were lent, and what came of the last one. -/
structure Loans where
  /-- The loans whose calls have returned, the oldest first. -/
  settled : List Showing
  /-- The frame last dealt with since the renderer was drained. -/
  last : Option Handled
  deriving DecidableEq, Repr

namespace Loans

/-- Nothing was lent. -/
def blank : Loans := ⟨[], none⟩

/-- A call returns. -/
def settle (call : Call) (loans : Loans) : Loans :=
  { settled := loans.settled ++ call.lent?.toList
    last := call.handled?.or loans.last }

/-- The loans of a run are kept by the calls that return and by what closes the mailbox. -/
def keeper : Observer Loans where
  blank := blank
  note desk deed loans :=
    match deed with
    | .advance =>
      match desk.call?, desk.advance.call? with
      | some call, none => loans.settle call
      | _, _ => loans
    | .close =>
      if desk.presenter.mailbox.transport.isOpen then { loans with last := none } else loans
    | _ => loans

end Loans

/-- The last loan under a binding is the frame in reserve, and no other binding has its epoch. -/
structure Guards (reserve : Option SharedFrame) (settled : List Showing) (bond : Bond) : Prop where
  unique : ∀ showing ∈ settled, showing.bond.epoch = bond.epoch → showing.bond = bond
  last : ∀ {old}, (settled.filter (·.bond == bond)).getLast? = some old → reserve = some old.frame

/-- Without a loan in its epoch a binding has none to guard. -/
theorem guards_of_fresh {settled : List Showing} {bond : Bond} (reserve : Option SharedFrame)
    (hfresh : ∀ showing ∈ settled, showing.bond.epoch ≠ bond.epoch) : Guards reserve settled bond where
  unique showing hmem hepoch := absurd hepoch (hfresh showing hmem)
  last {old} hlast := by
    obtain ⟨hmem, hbond⟩ := List.mem_filter.1 (List.mem_of_getLast? hlast)
    exact absurd (congrArg Bond.epoch (eq_of_beq hbond)) (hfresh old hmem)

namespace Desk

/-- The job of the call in progress. -/
def job? (desk : Desk) : Option Job := desk.call?.bind Call.job?

/-- The frame that was lent last: the one held, or the one that the job in progress has taken over. -/
def reserve (desk : Desk) : Option SharedFrame :=
  (desk.call?.map (Call.reserve desk.presenter.renderer.held)).getD desk.presenter.renderer.held

/-- The job in progress is that of the call. -/
theorem job_of_call {desk : Desk} {call : Call} (hcall : desk.call? = some call) :
    desk.job? = call.job? := by
  unfold job?
  rw [hcall]
  rfl

/-- A job has the reserve among its own frames. -/
theorem reserve_of_job {desk : Desk} {call : Call} {job : Job} (hcall : desk.call? = some call)
    (hjob : call.job? = some job) : desk.reserve = job.previous := by
  unfold reserve Call.reserve
  rw [hcall, Option.map_some, Option.getD_some, hjob]

/-- A call without a job leaves the reserve in its place. -/
theorem reserve_of_no_job {desk : Desk} {call : Call} (hcall : desk.call? = some call)
    (hjob : call.job? = none) : desk.reserve = desk.presenter.renderer.held := by
  unfold reserve Call.reserve
  rw [hcall, Option.map_some, Option.getD_some, hjob]

/-- A call for a change of visibility has taken nothing over. -/
theorem reserve_of_visibility {desk : Desk} {call : Call} {visible : Bool}
    (hcall : desk.call? = some call) (henvelope : call.envelope = .visibility visible) :
    desk.reserve = desk.presenter.renderer.held := by
  refine reserve_of_no_job hcall ?_
  cases call <;> first | rfl | cases henvelope

/-- The frames that the renderer keeps for its surfaces: the one in reserve, and the one that is being lent. -/
def kept (desk : Desk) : List SharedFrame :=
  desk.reserve.toList ++ ((desk.call?.bind Call.lent?).map Showing.frame).toList

/-- All loans, with the one for which a call is at its surface. -/
def lent (desk : Desk) (loans : Loans) : List Showing :=
  loans.settled ++ (desk.call?.bind Call.lent?).toList

/-- The frame of the job in progress is the first on its way. -/
theorem job_mem_mail {desk : Desk} {job : Job} (hjob : desk.job? = some job) :
    .frame job.frame job.epoch ∈ desk.mail := by
  obtain ⟨call, hcall, hsome⟩ := Option.bind_eq_some_iff.1 hjob
  have henvelope : call.envelope = .frame job.frame job.epoch := by
    cases call <;> cases hsome <;> rfl
  refine List.mem_append_left _ (Option.mem_toList.2 ?_)
  unfold Transport.hand
  rw [show desk.presenter.mailbox.transport.call? = some call from hcall]
  exact congrArg some henvelope

/-- A frame is referenced once for each time that it is on its way, and once more while it is in reserve. -/
theorem Accounted.references_mail {desk : Desk} (haccounted : desk.Accounted) (mark : Nat) :
    desk.presenter.references mark =
      copies mark (desk.mail.flatMap Envelope.frames) + copies mark desk.reserve.toList := by
  have hreserve : copies mark desk.presenter.renderer.held.toList +
      copies mark (desk.call?.bind Call.previous?).toList = copies mark desk.reserve.toList := by
    cases hcall : desk.call? with
    | none =>
      unfold reserve
      rw [hcall]
      rfl
    | some call =>
      cases hjob : call.job? with
      | none =>
        have hnone : call.previous? = none := by
          cases call <;> first | rfl | cases hjob
        rw [reserve_of_no_job hcall hjob, Option.bind_some, hnone]
        rfl
      | some job =>
        have hprevious : call.previous? = job.previous := by
          cases call <;> cases hjob <;> rfl
        have htaken : desk.presenter.renderer.held = none := haccounted.taken_over call job hcall hjob
        rw [reserve_of_job hcall hjob, Option.bind_some, hprevious, htaken]
        exact Nat.zero_add _
  have hmail : copies mark (desk.mail.flatMap Envelope.frames) =
      copies mark ((desk.call?.map Call.envelope).toList.flatMap Envelope.frames) +
        copies mark (desk.presenter.mailbox.transport.queue.flatMap Envelope.frames) := by
    unfold mail copies
    rw [List.flatMap_append, List.countP_append]
    rfl
  rw [haccounted.references_eq, copies_places, hmail, ← hreserve]
  show _ + copies mark ((desk.call?.map Call.envelope).toList.flatMap Envelope.frames) + _ +
    copies mark (desk.call?.bind Call.previous?).toList = _
  omega

/-- A frame that the renderer keeps is referenced. -/
theorem Accounted.references_kept {desk : Desk} (haccounted : desk.Accounted) {frame : SharedFrame}
    (hkept : frame ∈ desk.kept) : 0 < desk.presenter.references frame.mark := by
  rw [haccounted.references_mail]
  have hcounted : ∀ {frames : List SharedFrame}, frame ∈ frames → 0 < copies frame.mark frames :=
    fun hmem => List.countP_pos_iff.2 ⟨frame, hmem, beq_self_eq_true _⟩
  rcases List.mem_append.1 hkept with hreserve | hlent
  · exact Nat.lt_of_lt_of_le (hcounted hreserve) (Nat.le_add_left _ _)
  · obtain ⟨showing, hsome, rfl⟩ := Option.map_eq_some_iff.1 (Option.mem_toList.1 hlent)
    obtain ⟨call, hcall, hlending⟩ := Option.bind_eq_some_iff.1 hsome
    have hjob : ∃ job, desk.job? = some job ∧ job.frame = showing.frame := by
      cases call with
      | lending job =>
        cases hlending
        exact ⟨job, job_of_call hcall, rfl⟩
      | _ => cases hlending
    obtain ⟨job, hsome, hsame⟩ := hjob
    have hmail : showing.frame ∈ desk.mail.flatMap Envelope.frames :=
      List.mem_flatMap.2 ⟨_, job_mem_mail hsome, List.mem_singleton.2 hsame.symm⟩
    exact Nat.lt_of_lt_of_le (hcounted hmail) (Nat.le_add_right _ _)

end Desk

end FramePath
