import FramePath.Mailbox
import FramePath.Renderer

/-!
# What a step of the renderer can do

`Resumed` lists what can happen to a call of the renderer where it stands, with the state before and
after and with the condition under which it happens; `resumed` says that nothing else does. Facts that the
renderer keeps are proved by these cases, so that they need not look into its functions.
-/

namespace FramePath

namespace Renderer

namespace Call

/-- The job of a call on its way to a surface with a frame. -/
def job? : Call → Option Job
  | approaching job _ | sizing job | writing job | marking job | lending job => some job
  | taken _ | revealing .. | showing .. => none

end Call

end Renderer

namespace Backstage

open Renderer (Job Call)

/-- Take the held frame out of the renderer. -/
def handOver (stage : Backstage) : Backstage :=
  stage.changeRenderer fun renderer => { renderer with held := none }

/-- The binding takes note that a frame of this size came to it. -/
def noteFrame (size : Size) (stage : Backstage) : Backstage :=
  { stage with
    scene := stage.scene.changeBinding stage.renderer.owner fun binding =>
      { binding with sizeApplied := true, content := some size } }

/-- Whether a surface is bound under an epoch. -/
def IsCurrent (stage : Backstage) (epoch : Nat) : Prop :=
  ∃ binding surface, stage.scene.binding? stage.renderer.owner = some binding ∧
    binding.surface = some surface ∧ binding.epoch = epoch

/-- `Resumed call stage progress after` says that the call, going on in `stage`, comes to `progress` and
leaves `after`. -/
inductive Resumed : Call → Backstage → Progress Call → Backstage → Prop where
  | stale (frame epoch stage) :
      ¬ stage.IsCurrent epoch →
      Resumed (.taken (.frame frame epoch)) stage .returned
        ((stage.handOver.changeRenderer Renderer.countStale).release
          (frame :: stage.renderer.held.toList))
  | accepted (frame epoch stage binding surface) :
      stage.scene.binding? stage.renderer.owner = some binding →
      binding.surface = some surface → binding.epoch = epoch →
      Resumed (.taken (.frame frame epoch)) stage
        (.waiting (.approaching ⟨frame, epoch, surface, binding.zeroCopy, stage.renderer.held⟩
          (!binding.sizeApplied)))
        (stage.handOver.noteFrame frame.frame.size)
  | sizing (job stage) :
      stage.scene.bufferSize? job.surface = none →
      Resumed (.approaching job true) stage (.waiting (.sizing job))
        (stage.record job.surface (.size job.frame.frame.size))
  | writing (job first stage) :
      job.zeroCopy = true →
      (first = true → (stage.scene.bufferSize? job.surface).isSome = true) →
      Resumed (.approaching job first) stage (.waiting (.writing job)) stage
  | lending (job first stage) :
      job.zeroCopy = false →
      (first = true → (stage.scene.bufferSize? job.surface).isSome = true) →
      Resumed (.approaching job first) stage (.waiting (.lending job))
        (stage.record job.surface (.lend job.frame))
  | sized (job stage) :
      Resumed (.sizing job) stage (.waiting (.approaching job false))
        { stage with scene := stage.scene.allocate job.surface job.frame.frame.size }
  | written (job stage surface) :
      stage.scene.surfaces[job.surface]? = some surface → surface.isWritable = true →
      Resumed (.writing job) stage (.waiting (.marking job))
        ({ stage with
          scene := stage.scene.changeSurface job.surface (.copyIn job.frame) }.record
            job.surface .dirty)
  | withheld (job stage) :
      (∀ surface, stage.scene.surfaces[job.surface]? = some surface →
        surface.isWritable = false) →
      Resumed (.writing job) stage .returned
        (((stage.record job.surface (.noBacking job.frame)).changeRenderer
          Renderer.countRendered).release job.frames)
  | marked (job stage) :
      Resumed (.marking job) stage .returned
        (((stage.changeRenderer Renderer.countCopied).changeRenderer
          Renderer.countRendered).release job.frames)
  | lent (job stage) :
      Resumed (.lending job) stage .returned
        (((stage.changeRenderer (.holdLent job.frame)).changeRenderer
          Renderer.countRendered).release job.previous.toList)
  | unseen (visible stage) :
      stage.scene.boundSurface? stage.renderer.owner = none →
      Resumed (.taken (.visibility visible)) stage .returned stage
  | revealing (visible stage surface) :
      stage.scene.boundSurface? stage.renderer.owner = some surface →
      Resumed (.taken (.visibility visible)) stage (.waiting (.revealing visible surface)) stage
  | showing (visible surface stage) :
      Resumed (.revealing visible surface) stage (.waiting (.showing visible surface))
        (stage.record surface (.visible visible))
  | shown (visible surface stage) :
      Resumed (.showing visible surface) stage .returned stage
  | failed (call stage point) :
      call.point? = some point → stage.scene.fault = some point →
      Resumed call stage .failed
        ({ stage with scene := { stage.scene with fault := none } }.release call.frames)

/-- Going past a call point, a call fails there or goes on as the rest does. -/
theorem resumed_passing {call : Call} {rest : Backstage → Progress Call × Backstage}
    {stage : Backstage} (hrest : Resumed call stage (rest stage).1 (rest stage).2) :
    Resumed call stage (stage.passing call rest).1 (stage.passing call rest).2 := by
  unfold passing
  split
  · exact hrest
  · next point hpoint =>
    split
    · next hfault => exact .failed call stage point hpoint hfault
    · exact hrest

/-- A frame is taken up if a surface is bound under its epoch, and dropped if not. -/
theorem resumed_accept (frame : SharedFrame) (epoch : Nat) (stage : Backstage) :
    Resumed (.taken (.frame frame epoch)) stage (stage.accept frame epoch).1
      (stage.accept frame epoch).2 := by
  unfold accept
  dsimp only
  split
  · next hbinding =>
    split
    · -- A surface is bound: whether the frame is for its binding is told by the epoch alone.
      next hepoch => exact .accepted frame epoch stage _ _ hbinding rfl hepoch
    · next hepoch =>
      refine .stale frame epoch stage ?_
      rintro ⟨binding, surface, hcurrent, hsurface, rfl⟩
      have hsame := hbinding.symm.trans hcurrent
      simp only [Option.some.injEq] at hsame
      exact hepoch (by rw [← hsame])
  · next hunbound =>
    refine .stale frame epoch stage ?_
    rintro ⟨⟨_, _, _, _, _, _, _⟩, surface, hcurrent, rfl, rfl⟩
    exact hunbound _ _ _ _ _ _ _ hcurrent

/-- Every step of a call is one of those listed. -/
theorem resumed (call : Call) (stage : Backstage) :
    Resumed call stage (resume call stage).1 (resume call stage).2 := by
  cases call with
  | taken envelope =>
    cases envelope with
    | frame frame epoch => exact resumed_accept frame epoch stage
    | visibility visible =>
      simp only [resume, reveal]
      split
      · next hbound => exact .unseen visible stage hbound
      · next surface hbound => exact .revealing visible stage surface hbound
  | approaching job first =>
    refine resumed_passing ?_
    unfold approach bring
    split
    · next hasked =>
      obtain ⟨rfl, hnone⟩ := Bool.and_eq_true_iff.1 hasked
      exact .sizing job stage (Option.isNone_iff_eq_none.1 hnone)
    · next hasked =>
      have hsized : first = true → (stage.scene.bufferSize? job.surface).isSome = true := by
        rintro rfl
        simpa [Option.isSome_iff_ne_none] using hasked
      split
      · next hcopy => exact .writing job first stage hcopy hsized
      · next hcopy => exact .lending job first stage (Bool.not_eq_true _ ▸ hcopy) hsized
  | sizing job => exact resumed_passing (.sized job stage)
  | writing job =>
    refine resumed_passing ?_
    unfold write
    cases hsurface : stage.scene.surfaces[job.surface]? with
    | none => exact .withheld job stage (by simp [hsurface])
    | some surface =>
      simp only [Option.map_some, Option.getD_some]
      split
      · next hwritable => exact .written job stage surface hsurface hwritable
      · next hwithheld =>
        refine .withheld job stage ?_
        intro other hother
        cases hsurface.symm.trans hother
        exact Bool.not_eq_true _ ▸ hwithheld
  | marking job => exact resumed_passing (.marked job stage)
  | lending job => exact resumed_passing (.lent job stage)
  | revealing visible surface => exact .showing visible surface stage
  | showing visible surface => exact resumed_passing (.shown visible surface stage)

/-- So is the step that a mailbox asks of the renderer. -/
theorem resumed_of_going {call : Call} {stage after : Backstage} {progress : Progress Call}
    (hgoing : Recipient.resume call stage = (progress, after)) :
    Resumed call stage progress after := by
  have hresumed := resumed call stage
  rwa [show resume call stage = _ from hgoing] at hresumed

/-- A frame under an epoch that is not current is dropped, and the held frame with it. -/
theorem resume_stale {epoch : Nat} {stage : Backstage} (hstale : ¬ stage.IsCurrent epoch)
    (frame : SharedFrame) :
    resume (.taken (.frame frame epoch)) stage =
      (.returned, (stage.handOver.changeRenderer Renderer.countStale).release
        (frame :: stage.renderer.held.toList)) := by
  have hresumed := resumed (.taken (.frame frame epoch)) stage
  generalize resume (.taken (.frame frame epoch)) stage = going at hresumed ⊢
  obtain ⟨progress, after⟩ := going
  cases hresumed with
  | stale => rfl
  | accepted frame epoch stage binding surface hbinding hsurface hepoch =>
    exact absurd ⟨binding, surface, hbinding, hsurface, hepoch⟩ hstale
  | failed call stage point hpoint => cases hpoint

/-- Letting go of a queue gives the leases on its frames back and does nothing else. -/
theorem disposeAll_eq (queue : List Envelope) (stage : Backstage) :
    Mailbox.disposeAll queue stage = stage.release (queue.flatMap Envelope.frames) := by
  induction queue generalizing stage with
  | nil => rfl
  | cons envelope queue ih =>
    rw [List.flatMap_cons]
    show Mailbox.disposeAll queue (stage.release envelope.frames) = _
    rw [ih]
    simp only [Backstage.release, Leases.releaseAll, List.foldl_append]

end Backstage

end FramePath
