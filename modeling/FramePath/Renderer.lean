import FramePath.Lease
import FramePath.Recipient
import FramePath.Scene

/-!
# The renderer

The consumer's half of a presenter. It puts a frame on the bound surface in one of two ways: it copies
the payload into the surface's backing buffer, or it lends the frame itself, and then holds it
until the next frame takes its place. A frame from an earlier epoch touches no surface. A `Renderer.Call`
can stand at the call points of a surface, and also between the look at the binding and the surface call
that follows from it: meanwhile the binding may end, and the call goes on with what it saw.
-/

namespace FramePath

/-- Counts of frames on the consumer's side. -/
structure RenderTally where
  rendered : Nat
  stale : Nat
  copied : Nat
  borrowed : Nat
  releasedOnDrain : Nat
  deriving DecidableEq, Repr

/-- Nothing counted yet. -/
def RenderTally.zero : RenderTally := ⟨0, 0, 0, 0, 0⟩

/-- The renderer of one presenter: whose binding it goes by, the frame lent to a surface, and its
counts. -/
structure Renderer where
  owner : Nat
  held : Option SharedFrame
  tally : RenderTally
  deriving DecidableEq, Repr

namespace Renderer

/-- A frame on its way to a surface, and the frame held before it, which is let go of at the end. -/
structure Job where
  frame : SharedFrame
  epoch : Nat
  surface : Nat
  zeroCopy : Bool
  previous : Option SharedFrame
  deriving DecidableEq, Repr

/-- The frames of a job: the one on its way, and the one held before it. -/
def Job.frames (job : Job) : List SharedFrame := job.frame :: job.previous.toList

/-- Where a call of the renderer stands: just taken, done with the binding but not yet at the surface, or
at one of the call points of a surface. -/
inductive Call where
  | taken (envelope : Envelope)
  /-- The binding was current; `first` says that its surface may still need a size. -/
  | approaching (job : Job) (first : Bool)
  | sizing (job : Job)
  | writing (job : Job)
  | marking (job : Job)
  | lending (job : Job)
  | revealing (visible : Bool) (surface : Nat)
  | showing (visible : Bool) (surface : Nat)
  deriving DecidableEq, Repr

namespace Call

/-- The envelope that a call is for. -/
def envelope : Call → Envelope
  | taken envelope => envelope
  | approaching job _ | sizing job | writing job | marking job | lending job =>
      .frame job.frame job.epoch
  | revealing visible _ | showing visible _ => .visibility visible

/-- A bound on the places ahead where a call can stand. -/
def rank : Call → Nat
  | taken _ => 6
  | approaching _ first => if first then 5 else 3
  | sizing _ => 4
  | writing _ | revealing .. => 2
  | marking _ | lending _ | showing .. => 1

/-- The surface and its call point at which a call stands. -/
def point? : Call → Option CallPoint
  | taken _ | approaching _ false | revealing .. => none
  | approaching job true => some ⟨job.surface, .query⟩
  | sizing job => some ⟨job.surface, .size⟩
  | writing job => some ⟨job.surface, .write⟩
  | marking job => some ⟨job.surface, .dirty⟩
  | lending job => some ⟨job.surface, .lend⟩
  | showing _ surface => some ⟨surface, .visible⟩

/-- The frame held before the one in hand. -/
def previous? : Call → Option SharedFrame
  | approaching job _ | sizing job | writing job | marking job | lending job => job.previous
  | taken _ | revealing .. | showing .. => none

/-- The frames that a call has: the one in hand, and the one held before it. -/
def frames (call : Call) : List SharedFrame := call.envelope.frames ++ call.previous?.toList

end Call

/-- A renderer without anything in its hands. -/
def initial (owner : Nat) : Renderer := ⟨owner, none, .zero⟩

/-- One more frame dropped because nothing was bound or the binding is another one. -/
def countStale (renderer : Renderer) : Renderer :=
  { renderer with tally := { renderer.tally with stale := renderer.tally.stale + 1 } }

/-- One more frame gone through to the end. -/
def countRendered (renderer : Renderer) : Renderer :=
  { renderer with tally := { renderer.tally with rendered := renderer.tally.rendered + 1 } }

/-- One more frame copied. -/
def countCopied (renderer : Renderer) : Renderer :=
  { renderer with tally := { renderer.tally with copied := renderer.tally.copied + 1 } }

/-- Hold a frame that was lent. -/
def holdLent (frame : SharedFrame) (renderer : Renderer) : Renderer :=
  { renderer with
    held := some frame
    tally := { renderer.tally with borrowed := renderer.tally.borrowed + 1 } }

/-- Let go of the frame held, if there is one. -/
def letGo (renderer : Renderer) : Renderer :=
  match renderer.held with
  | none => renderer
  | some _ =>
      { renderer with
        held := none
        tally := { renderer.tally with releasedOnDrain := renderer.tally.releasedOnDrain + 1 } }

end Renderer

/-- What a renderer works on: its own state, the leases of its presenter, and the scene with the
surfaces. -/
structure Backstage where
  scene : Scene
  renderer : Renderer
  leases : Leases
  deriving DecidableEq, Repr

namespace Backstage

open Renderer (Job Call)

/-- Change the renderer. -/
def changeRenderer (change : Renderer → Renderer) (stage : Backstage) : Backstage :=
  { stage with renderer := change stage.renderer }

/-- Let go of some frames. -/
def release (frames : List SharedFrame) (stage : Backstage) : Backstage :=
  { stage with leases := stage.leases.releaseAll frames }

/-- Let a surface write a call down. -/
def record (surface : Nat) (call : SurfaceCall) (stage : Backstage) : Backstage :=
  { stage with scene := stage.scene.record surface call }

/-- Go past the call point of a surface where a call stands, unless it is to fail there. A call that
fails lets go of its frames. -/
def passing (call : Call) (next : Backstage → Progress Call × Backstage) (stage : Backstage) :
    Progress Call × Backstage :=
  match call.point? with
  | none => next stage
  | some point =>
    if stage.scene.fault = some point then
      (.failed, { stage with scene := { stage.scene with fault := none } }.release call.frames)
    else next stage

/-- The end of a frame that came to a surface; some frames are let go of. -/
def conclude (released : List SharedFrame) (stage : Backstage) : Progress Call × Backstage :=
  (.returned, (stage.changeRenderer Renderer.countRendered).release released)

/-- The end of a frame that has no surface to come to; some frames are let go of. -/
def drop (released : List SharedFrame) (stage : Backstage) : Progress Call × Backstage :=
  (.returned, (stage.changeRenderer Renderer.countStale).release released)

/-- Bring a frame's pixels to its surface: write them where the backend allows it, else lend the
frame. -/
def bring (job : Job) (stage : Backstage) : Progress Call × Backstage :=
  if job.zeroCopy then (.waiting (.writing job), stage)
  else (.waiting (.lending job), stage.record job.surface (.lend job.frame))

/-- Take a frame up. It is stale unless a surface is bound under the very epoch it was sent in. -/
def accept (frame : SharedFrame) (epoch : Nat) (stage : Backstage) :
    Progress Call × Backstage :=
  let owner := stage.renderer.owner
  let previous := stage.renderer.held
  let stage := stage.changeRenderer fun renderer => { renderer with held := none }
  match stage.scene.binding? owner with
  | some { surface := some surface, zeroCopy, sizeApplied, epoch := current, .. } =>
    if current = epoch then
      let job : Job := ⟨frame, epoch, surface, zeroCopy, previous⟩
      let size := frame.frame.size
      let stage := { stage with
        scene := stage.scene.changeBinding owner fun binding =>
          { binding with sizeApplied := true, content := some size } }
      (.waiting (.approaching job (!sizeApplied)), stage)
    else stage.drop (frame :: previous.toList)
  | _ => stage.drop (frame :: previous.toList)

/-- Come to the surface with a frame. The first frame of an epoch gives the surface's pixel buffer a size
if it has none. -/
def approach (job : Job) (first : Bool) (stage : Backstage) : Progress Call × Backstage :=
  if first && (stage.scene.bufferSize? job.surface).isNone then
    (.waiting (.sizing job), stage.record job.surface (.size job.frame.frame.size))
  else stage.bring job

/-- Give the surface's pixel buffer the size of a frame, and go on with the frame. -/
def allocate (job : Job) (stage : Backstage) : Progress Call × Backstage :=
  (.waiting (.approaching job false),
    { stage with scene := stage.scene.allocate job.surface job.frame.frame.size })

/-- Write a frame's pixels into the backing buffer, if the surface gives one out. -/
def write (job : Job) (stage : Backstage) : Progress Call × Backstage :=
  if (stage.scene.surfaces[job.surface]?.map Surface.isWritable).getD false then
    let scene := stage.scene.changeSurface job.surface (.copyIn job.frame)
    (.waiting (.marking job), { stage with scene }.record job.surface .dirty)
  else (stage.record job.surface (.noBacking job.frame)).conclude job.frames

/-- Take a change of visibility up, which concerns the bound surface. -/
def reveal (visible : Bool) (stage : Backstage) : Progress Call × Backstage :=
  match stage.scene.boundSurface? stage.renderer.owner with
  | none => (.returned, stage)
  | some surface => (.waiting (.revealing visible surface), stage)

/-- Count a frame as copied once its surface was told to show it. -/
def mark (job : Job) (stage : Backstage) : Progress Call × Backstage :=
  (stage.changeRenderer Renderer.countCopied).conclude job.frames

/-- Hold a lent frame in place of the one before. -/
def lend (job : Job) (stage : Backstage) : Progress Call × Backstage :=
  (stage.changeRenderer (.holdLent job.frame)).conclude job.previous.toList

/-- Go on with a call. -/
def resume (call : Call) (stage : Backstage) : Progress Call × Backstage :=
  match call with
  | .taken (.frame frame epoch) => stage.accept frame epoch
  | .taken (.visibility visible) => stage.reveal visible
  | .approaching job first => stage.passing call (approach job first)
  | .sizing job => stage.passing call (allocate job)
  | .writing job => stage.passing call (write job)
  | .marking job => stage.passing call (mark job)
  | .lending job => stage.passing call (lend job)
  | .revealing visible surface =>
      (.waiting (.showing visible surface), stage.record surface (.visible visible))
  | .showing _ _ => stage.passing call fun stage => (.returned, stage)

/-- Let go of the frame held, if there is one. -/
def drain (stage : Backstage) : Backstage :=
  (stage.changeRenderer Renderer.letGo).release stage.renderer.held.toList

/-- Going past a call point goes on as the rest does. -/
theorem passing_waiting {call next : Call} {rest : Backstage → Progress Call × Backstage}
    {stage : Backstage} (going : (stage.passing call rest).1 = .waiting next) :
    (rest stage).1 = .waiting next := by
  unfold passing at going
  split at going
  · exact going
  · split at going
    · cases going
    · exact going

/-- Bringing a frame to its surface leaves writing or lending ahead. -/
theorem bring_waiting {job : Job} {stage : Backstage} {next : Call}
    (going : (stage.bring job).1 = .waiting next) :
    next.envelope = .frame job.frame job.epoch ∧ next.rank ≤ 2 := by
  unfold bring at going
  split at going <;> cases going <;> exact ⟨rfl, by simp [Call.rank]⟩

/-- Writing leaves marking ahead. -/
theorem write_waiting {job : Job} {stage : Backstage} {next : Call}
    (going : (stage.write job).1 = .waiting next) : next = .marking job := by
  unfold write at going
  split at going
  · cases going; rfl
  · cases going

/-- A call that comes to a surface has three to five places ahead. -/
theorem rank_approaching (job : Job) (first : Bool) :
    3 ≤ (Call.approaching job first).rank ∧ (Call.approaching job first).rank ≤ 5 := by
  cases first <;> simp [Call.rank]

/-- Coming to a surface leaves sizing ahead, for the first frame only, or what bringing leaves. -/
theorem approach_waiting {job : Job} {first : Bool} {stage : Backstage} {next : Call}
    (going : (stage.approach job first).1 = .waiting next) :
    next.envelope = .frame job.frame job.epoch ∧ next.rank < (Call.approaching job first).rank := by
  unfold approach at going
  split at going
  · next asked =>
    cases first with
    | false => simp at asked
    | true => cases going; exact ⟨rfl, by simp [Call.rank]⟩
  · have ahead := bring_waiting going
    exact ⟨ahead.1, Nat.lt_of_le_of_lt ahead.2 (rank_approaching job first).1⟩

/-- Accepting a frame leaves the way to the surface ahead. -/
theorem accept_waiting {frame : SharedFrame} {epoch : Nat} {stage : Backstage} {next : Call}
    (going : (stage.accept frame epoch).1 = .waiting next) :
    next.envelope = .frame frame epoch ∧ next.rank ≤ 5 := by
  unfold accept at going
  dsimp only at going
  split at going
  · split at going
    · cases going
      exact ⟨rfl, (rank_approaching _ _).2⟩
    · cases going
  · cases going

/-- Taking a change of visibility up leaves the way to the surface ahead. -/
theorem reveal_waiting {visible : Bool} {stage : Backstage} {next : Call}
    (going : (stage.reveal visible).1 = .waiting next) :
    next.envelope = .visibility visible ∧ next.rank = 2 := by
  unfold reveal at going
  split at going
  · cases going
  · cases going; exact ⟨rfl, rfl⟩

/-- A call goes on for the same envelope with fewer places ahead. -/
theorem resume_waiting {call next : Call} {stage : Backstage}
    (going : (resume call stage).1 = .waiting next) :
    next.envelope = call.envelope ∧ next.rank < call.rank := by
  cases call with
  | taken envelope =>
    cases envelope with
    | frame frame epoch =>
      have ahead := accept_waiting going
      exact ⟨ahead.1, Nat.lt_succ_of_le ahead.2⟩
    | visibility visible =>
      have ahead := reveal_waiting going
      exact ⟨ahead.1, by rw [ahead.2]; simp [Call.rank]⟩
  | approaching job first =>
    exact approach_waiting (passing_waiting going)
  | sizing job =>
    cases passing_waiting going
    exact ⟨rfl, by simp [Call.rank]⟩
  | writing job =>
    have ahead := write_waiting (passing_waiting going)
    subst ahead
    exact ⟨rfl, by simp [Call.rank]⟩
  | marking job => cases passing_waiting going
  | lending job => cases passing_waiting going
  | revealing visible surface => cases going; exact ⟨rfl, by simp [Call.rank]⟩
  | showing visible surface => cases passing_waiting going

/-- The renderer handles envelopes by its calls. -/
instance : Recipient Backstage Call where
  start := .taken
  envelope := Call.envelope
  resume := resume
  dispose stage envelope := stage.release envelope.frames
  drained := drain
  rank := Call.rank
  envelope_start _ := rfl
  envelope_resume going := (resume_waiting (congrArg Prod.fst going)).1
  rank_resume going := (resume_waiting (congrArg Prod.fst going)).2

end Backstage

end FramePath
