import FramePath.Proofs.Embedding

/-!
# What a consumer answers has no effect on the flow

Two runs are compared that differ at most in what the consumers answer, or in that one of them has no consumer where
the other has one. Alike are two pipelines of which only the number of acknowledgements and the consumers' minds
differ (`Pipeline.Alike`), and so are two memory sinks and two handles. Each act keeps them alike and gives replies
alike but for the acknowledgement (`Machine.Parallel`), so all runs do. That number is, in each run for itself, how
many pictures its own consumer acknowledged (`Machine.Counted`).
-/

namespace FramePath

namespace Consumer

/-- Two listeners that were handed the same pictures, or nobody and anybody. -/
def Alike : Consumer → Consumer → Prop
  | listener _ received, listener _ others => received = others
  | _, _ => True

/-- Whether a picture was handed over and acknowledged between two moments. -/
def acknowledged (before after : Consumer) : Bool :=
  before.received.length < after.received.length && after.lastAnswer

variable {one other : Consumer}

/-- Every consumer is like itself. -/
theorem Alike.refl : (consumer : Consumer) → consumer.Alike consumer
  | absent => trivial
  | listener .. => rfl

/-- Consumers stay alike when they are handed the same picture. -/
theorem Alike.take (halike : one.Alike other) (picture : Picture) :
    (one.take picture).2.Alike (other.take picture).2 := by
  cases one with
  | absent => trivial
  | listener answer received =>
    cases other with
    | absent => trivial
    | listener otherAnswer others => exact congrArg (picture :: ·) halike

/-- They stay alike when they change their minds. -/
theorem Alike.withAnswer (halike : one.Alike other) (mind otherMind : List Picture → Bool) :
    (one.withAnswer mind).Alike (other.withAnswer otherMind) := by
  cases one with
  | absent => trivial
  | listener answer received =>
    cases other with
    | absent => trivial
    | listener otherAnswer others => exact halike

/-- What a consumer answers is whether it acknowledged the picture that it was handed. -/
theorem acknowledged_take (consumer : Consumer) (picture : Picture) :
    consumer.acknowledged (consumer.take picture).2 = (consumer.take picture).1 := by
  cases consumer with
  | absent => rfl
  | listener answer received =>
    simp [acknowledged, take, Consumer.received, lastAnswer]

/-- Where nothing was handed over, nothing was acknowledged. -/
theorem acknowledged_self (consumer : Consumer) : consumer.acknowledged consumer = false := by
  simp [acknowledged]

end Consumer

/-- An outcome but for the acknowledgement. -/
def Outcome.blind : Outcome → Outcome
  | rendered _ => rendered false
  | skipped => skipped

namespace Pipeline

/-- A reply but for the acknowledgement. -/
def Reply.blind : Reply → Reply
  | fed result => fed (result.map Outcome.blind)
  | reply => reply

/-- Whether a step was a frame whose picture the consumer in place acknowledged. -/
def isAcknowledged (step : Machine.Step Pipeline Act Reply) : Bool :=
  match step.act with
  | .feed .. => step.before.consumer.acknowledged step.after.consumer
  | _ => false

/-- The same act, or two consumers alike that are put in place. -/
inductive Act.Alike : Act → Act → Prop where
  | attach {one other : Consumer} : one.Alike other → Alike (.attach one) (.attach other)
  | same (act : Act) : Alike act act

/-- Two pipelines of which only the acknowledgements and the consumers' minds differ. -/
structure Alike (one other : Pipeline) : Prop where
  format : one.format = other.format
  geometry : one.geometry = other.geometry
  scratch : one.scratch = other.scratch
  halted : one.halted = other.halted
  processed : one.tally.processed = other.tally.processed
  skipped : one.tally.skipped = other.tally.skipped
  consumer : one.consumer.Alike other.consumer

namespace Alike

variable {one other : Pipeline}

/-- New pipelines are alike if their consumers are. -/
theorem initial {one other : Consumer} (halike : one.Alike other) (limit : Nat) :
    (Pipeline.initial limit one).Alike (.initial limit other) :=
  ⟨rfl, rfl, rfl, rfl, rfl, rfl, halike⟩

/-- Another consumer is put in place of each. -/
theorem attach (halike : one.Alike other) {consumer counterpart : Consumer}
    (hconsumer : consumer.Alike counterpart) : (one.attach consumer).Alike (other.attach counterpart) :=
  { halike with consumer := hconsumer }

/-- Both make the same change. -/
theorem change (halike : one.Alike other) (change : Geometry.Change) :
    (one.change change).Alike (other.change change) :=
  { halike with geometry := congrArg (·.apply change) halike.geometry }

/-- Both make the same changes. -/
theorem changeAll (halike : one.Alike other) (changes : List Geometry.Change) :
    (one.changeAll changes).Alike (other.changeAll changes) := by
  induction changes generalizing one other with
  | nil => exact halike
  | cons change changes ih => exact ih (halike.change change)

/-- Both are restarted. -/
theorem restart (halike : one.Alike other) : one.restart.Alike other.restart :=
  { halike with
    scratch := congrArg Scratch.release halike.scratch
    halted := rfl
    geometry := congrArg Geometry.markDirty halike.geometry }

/-- A description that one refuses is refused by the other for the same reason. -/
theorem negotiate (halike : one.Alike other) (description : StreamDescription) :
    (∃ cause, one.negotiate description = .error cause ∧ other.negotiate description = .error cause) ∨
      ∃ oneAfter otherAfter, one.negotiate description = .ok oneAfter ∧
        other.negotiate description = .ok otherAfter ∧ oneAfter.Alike otherAfter := by
  unfold Pipeline.negotiate
  cases description.format? with
  | none => exact .inl ⟨_, rfl, rfl⟩
  | some format =>
    cases description.size.isEmpty with
    | true => exact .inl ⟨_, rfl, rfl⟩
    | false =>
      refine .inr ⟨_, _, rfl, rfl, { halike with format := rfl, geometry := ?_ }⟩
      exact congrArg (Geometry.setSource description.size) halike.geometry

/-- Both perform a frame on the same canvases, and come to the same but for the acknowledgement. -/
theorem perform (halike : one.Alike other) (job : Job) :
    (one.perform job).1.map Outcome.blind = (other.perform job).1.map Outcome.blind ∧
      (one.perform job).2.Alike (other.perform job).2 := by
  unfold Pipeline.perform
  rw [halike.scratch]
  rcases other.scratch.obtain job.geometry with ⟨cause | canvases, scratch⟩
  · exact ⟨rfl, { halike with scratch := rfl, halted := rfl }⟩
  dsimp only
  rcases job.develop canvases with ⟨cause | picture, kept⟩
  · -- Whether a refusal is fatal is up to its cause alone.
    dsimp only
    cases cause.isFatal with
    | true => exact ⟨rfl, { halike with scratch := rfl, halted := rfl }⟩
    | false =>
      exact ⟨rfl, { halike with scratch := rfl, skipped := congrArg (· + 1) halike.skipped }⟩
  · exact ⟨rfl, { halike with
      scratch := rfl
      processed := congrArg (· + 1) halike.processed
      consumer := halike.consumer.take picture }⟩

/-- A frame that one does not admit is refused by the other for the same reason; otherwise both admit it as the same
job. -/
theorem accept (halike : one.Alike other) (frame : Frame) :
    (∃ cause, one.accept frame = .error cause ∧ other.accept frame = .error cause) ∨
      ∃ job oneAfter otherAfter, one.accept frame = .ok (job, oneAfter) ∧
        other.accept frame = .ok (job, otherAfter) ∧ oneAfter.Alike otherAfter := by
  unfold Pipeline.accept
  rw [halike.halted, halike.format, halike.geometry]
  cases hhalted : other.halted with
  | true => exact .inl ⟨_, rfl, rfl⟩
  | false =>
    cases hformat : other.format with
    | none => exact .inl ⟨_, rfl, rfl⟩
    | some format => exact .inr ⟨_, _, _, rfl, rfl, { halike with format := rfl, halted := rfl, geometry := rfl }⟩

/-- Both take the same frame, and come to the same but for the acknowledgement. -/
theorem feedAmid (halike : one.Alike other) (meanwhile : List Geometry.Change) (frame : Frame) :
    (one.feedAmid meanwhile frame).1.map Outcome.blind =
        (other.feedAmid meanwhile frame).1.map Outcome.blind ∧
      (one.feedAmid meanwhile frame).2.Alike (other.feedAmid meanwhile frame).2 := by
  unfold Pipeline.feedAmid
  rcases halike.accept frame with ⟨cause, hone, hother⟩ | ⟨job, _, _, hone, hother, hadmitted⟩
  · rw [hone, hother]
    exact ⟨rfl, halike.changeAll meanwhile⟩
  · rw [hone, hother]
    exact (hadmitted.changeAll meanwhile).perform job

end Alike

/-- No act of a pipeline tells acknowledgements apart. -/
theorem parallel : machine.Parallel Act.Alike (fun one other => one.blind = other.blind) Alike := by
  intro one other act counterpart halike hact
  cases hact with
  | attach hconsumer => exact ⟨rfl, halike.attach hconsumer⟩
  | same =>
    cases act with
    | negotiate description =>
      simp only [machine, reply, act]
      rcases halike.negotiate description with ⟨cause, hone, hother⟩ | ⟨_, _, hone, hother, hafter⟩
      · rw [hone, hother]
        exact ⟨rfl, halike⟩
      · rw [hone, hother]
        exact ⟨rfl, hafter⟩
    | change change => exact ⟨rfl, halike.change change⟩
    | attach consumer => exact ⟨rfl, halike.attach (.refl consumer)⟩
    | restart => exact ⟨rfl, halike.restart⟩
    | tighten limit =>
      exact ⟨rfl, { halike with
        scratch := congrArg (fun scratch : Scratch => { scratch with limit }) halike.scratch }⟩
    | feed frame meanwhile =>
      obtain ⟨hreply, hafter⟩ := halike.feedAmid meanwhile frame
      exact ⟨congrArg Reply.fed hreply, hafter⟩

/-- Performing a frame counts one acknowledgement or none, as the consumer in place answers. -/
theorem acknowledged_perform (job : Job) (pipeline : Pipeline) :
    (pipeline.perform job).2.tally.acknowledged = pipeline.tally.acknowledged +
      (pipeline.consumer.acknowledged (pipeline.perform job).2.consumer).toNat := by
  have hnone : pipeline.tally.acknowledged = pipeline.tally.acknowledged +
      (pipeline.consumer.acknowledged pipeline.consumer).toNat := by
    rw [Consumer.acknowledged_self]
    rfl
  unfold Pipeline.perform
  rcases pipeline.scratch.obtain job.geometry with ⟨cause | canvases, scratch⟩
  · exact hnone
  dsimp only
  rcases job.develop canvases with ⟨cause | picture, kept⟩
  · dsimp only
    cases cause.isFatal with
    | true => exact hnone
    | false => exact hnone
  · show pipeline.tally.acknowledged + (pipeline.consumer.take picture).1.toNat =
      pipeline.tally.acknowledged + (pipeline.consumer.acknowledged (pipeline.consumer.take picture).2).toNat
    rw [Consumer.acknowledged_take]

/-- A frame that is admitted leaves all but the geometry. -/
theorem accept_same {pipeline admitted : Pipeline} {frame : Frame} {job : Job}
    (haccept : pipeline.accept frame = .ok (job, admitted)) :
    admitted = { pipeline with geometry := pipeline.geometry.settled } := by
  unfold accept at haccept
  cases hhalted : pipeline.halted with
  | true =>
    rw [hhalted] at haccept
    cases haccept
  | false =>
    rw [hhalted] at haccept
    cases hformat : pipeline.format with
    | none =>
      rw [hformat] at haccept
      cases haccept
    | some format =>
      rw [hformat] at haccept
      cases haccept
      rw [← hformat, ← hhalted]

/-- A frame counts one acknowledgement or none, as the consumer in place answers. -/
theorem acknowledged_feedAmid (meanwhile : List Geometry.Change) (frame : Frame) (pipeline : Pipeline) :
    (pipeline.feedAmid meanwhile frame).2.tally.acknowledged = pipeline.tally.acknowledged +
      (pipeline.consumer.acknowledged (pipeline.feedAmid meanwhile frame).2.consumer).toNat := by
  unfold feedAmid
  cases haccept : pipeline.accept frame with
  | error cause =>
    dsimp only
    rw [changeAll_eq, Consumer.acknowledged_self]
    rfl
  | ok admission =>
    obtain ⟨job, admitted⟩ := admission
    have hsame : (admitted.changeAll meanwhile).consumer = pipeline.consumer ∧
        (admitted.changeAll meanwhile).tally = pipeline.tally := by
      rw [changeAll_eq, accept_same haccept]
      exact ⟨rfl, rfl⟩
    have hperformed := acknowledged_perform job (admitted.changeAll meanwhile)
    rw [hsame.1, hsame.2] at hperformed
    exact hperformed

/-- Acknowledgements are counted where they are given. -/
theorem counted : machine.Counted (·.tally.acknowledged) isAcknowledged := by
  intro pipeline act
  cases act with
  | negotiate description =>
    have hrest := act_negotiate_rest description pipeline
    obtain ⟨format, geometry, hafter⟩ := hrest
    show (pipeline.act (.negotiate description)).tally.acknowledged = _
    rw [hafter]
    rfl
  | feed frame meanwhile => exact pipeline.acknowledged_feedAmid meanwhile frame
  | _ => rfl

end Pipeline

namespace Sink.Memory

/-- Whether a step was a frame whose picture the consumer in place acknowledged. -/
def isAcknowledged (step : Machine.Step Memory Act Pipeline.Reply) : Bool :=
  match step.act with
  | .render .. => step.before.pipeline.consumer.acknowledged step.after.pipeline.consumer
  | _ => false

/-- The same act, or two consumers alike that are put in place. -/
inductive Act.Alike : Act → Act → Prop where
  | attach {one other : Consumer} : one.Alike other → Alike (.attach one) (.attach other)
  | same (act : Act) : Alike act act

/-- Two sinks in the same run state whose pipelines are alike. -/
structure Alike (one other : Memory) : Prop where
  state : one.state = other.state
  pipeline : one.pipeline.Alike other.pipeline

namespace Alike

variable {one other : Memory}

/-- New sinks are alike if their consumers are. -/
theorem new {one other : Consumer} (halike : one.Alike other) (limit : Nat) (request : Request) :
    (Memory.new limit request one).Alike (.new limit request other) where
  state := rfl
  pipeline := (((Pipeline.Alike.initial halike limit).change _).change _).change _

/-- Another consumer is put in place of each. -/
theorem attach (halike : one.Alike other) {consumer counterpart : Consumer}
    (hconsumer : consumer.Alike counterpart) : (one.attach consumer).Alike (other.attach counterpart) :=
  { halike with pipeline := halike.pipeline.attach hconsumer }

/-- Both make the same change. -/
theorem change (halike : one.Alike other) (change : Geometry.Change) :
    (one.change change).Alike (other.change change) :=
  { halike with pipeline := halike.pipeline.change change }

/-- Both move alike along the lifecycle. -/
theorem move (halike : one.Alike other) (transition : Transition) :
    (one.move transition).Alike (other.move transition) where
  state := rfl
  pipeline := by
    unfold Memory.move
    cases transition.isTeardown with
    | true => exact halike.pipeline.restart
    | false => exact halike.pipeline

/-- From now on the host refuses the same requests of both. -/
theorem tighten (halike : one.Alike other) (limit : Nat) :
    (one.act (.tighten limit)).Alike (other.act (.tighten limit)) :=
  { halike with pipeline := (Pipeline.parallel halike.pipeline (.same (.tighten limit))).2 }

/-- A description that one refuses is refused by the other for the same reason. -/
theorem negotiate (halike : one.Alike other) (description : StreamDescription) :
    (∃ cause, one.negotiate description = .error cause ∧ other.negotiate description = .error cause) ∨
      ∃ oneAfter otherAfter, one.negotiate description = .ok oneAfter ∧
        other.negotiate description = .ok otherAfter ∧ oneAfter.Alike otherAfter := by
  unfold Memory.negotiate
  rcases halike.pipeline.negotiate description with ⟨cause, hone, hother⟩ | ⟨_, _, hone, hother, hafter⟩
  · rw [hone, hother]
    exact .inl ⟨cause, rfl, rfl⟩
  · rw [hone, hother]
    exact .inr ⟨_, _, rfl, rfl, { halike with pipeline := hafter }⟩

/-- Both take the same frame, and come to the same but for the acknowledgement. -/
theorem renderAmid (halike : one.Alike other) (meanwhile : List Geometry.Change) (frame : Frame) :
    (one.renderAmid meanwhile frame).1.map Outcome.blind =
        (other.renderAmid meanwhile frame).1.map Outcome.blind ∧
      (one.renderAmid meanwhile frame).2.Alike (other.renderAmid meanwhile frame).2 :=
  have hfed := halike.pipeline.feedAmid meanwhile frame
  ⟨hfed.1, { halike with pipeline := hfed.2 }⟩

end Alike

/-- No act of a sink tells acknowledgements apart. -/
theorem parallel : machine.Parallel Act.Alike (fun one other => one.blind = other.blind) Alike := by
  intro one other act counterpart halike hact
  cases hact with
  | attach hconsumer => exact ⟨rfl, halike.attach hconsumer⟩
  | same =>
    cases act with
    | negotiate description =>
      simp only [machine, reply, act]
      rcases halike.negotiate description with ⟨cause, hone, hother⟩ | ⟨_, _, hone, hother, hafter⟩
      · rw [hone, hother]
        exact ⟨rfl, halike⟩
      · rw [hone, hother]
        exact ⟨rfl, hafter⟩
    | change change => exact ⟨rfl, halike.change change⟩
    | attach consumer => exact ⟨rfl, halike.attach (.refl consumer)⟩
    | move transition => exact ⟨rfl, halike.move transition⟩
    | tighten limit => exact ⟨rfl, halike.tighten limit⟩
    | render frame meanwhile =>
      obtain ⟨hreply, hafter⟩ := halike.renderAmid meanwhile frame
      exact ⟨congrArg Pipeline.Reply.fed hreply, hafter⟩

/-- Acknowledgements are counted where they are given. -/
theorem counted : machine.Counted (·.pipeline.tally.acknowledged) isAcknowledged := by
  intro sink act
  cases act with
  | negotiate description =>
    show ((sink.negotiate description).toOption.getD sink).pipeline.tally.acknowledged = _
    rcases sink.negotiate_cases description with ⟨cause, hrefused⟩ | ⟨format, _, hagreed⟩
    · rw [hrefused]
      rfl
    · rw [hagreed]
      rfl
  | move transition =>
    show (sink.move transition).pipeline.tally.acknowledged = _
    unfold move
    cases transition.isTeardown <;> rfl
  | render frame meanwhile => exact sink.pipeline.acknowledged_feedAmid meanwhile frame
  | _ => rfl

end Sink.Memory

namespace Embedding

/-- The numbers but for the acknowledgements. -/
def Report.blind (report : Report) : Report := { report with acknowledged := 0 }

/-- A reply but for the acknowledgements. -/
def Reply.blind : Reply → Reply
  | numbers number report => numbers number (report.map Report.blind)
  | reply => reply

/-- The same order, or two consumers alike that are put in place. -/
inductive Order.Alike : Order → Order → Prop where
  | attach {one other : Consumer} : one.Alike other → Alike (.attach one) (.attach other)
  | same (order : Order) : Alike order order

/-- The same event, but for a consumer that is put in place and for the answers that the one in place is to give. -/
inductive Event.Alike : Event → Event → Prop where
  | call {one other : Order} (hasHandle : Bool) : one.Alike other →
      Alike (.call one hasHandle) (.call other hasHandle)
  | tighten (limit : Nat) : Alike (.tighten limit) (.tighten limit)
  | answer (one other : List Picture → Bool) : Alike (.answer one) (.answer other)

/-- The number of an outcome tells nothing of the acknowledgement. -/
theorem outcomeStatus_blind (result : Except FrameError Outcome) :
    outcomeStatus (result.map Outcome.blind) = outcomeStatus result := by
  rcases result with cause | acknowledged | _ <;> rfl

namespace Handle

/-- Whether a step was a payload whose picture the consumer in place acknowledged. -/
def isAcknowledged (step : Machine.Step Handle Event Reply) : Bool :=
  match step.act with
  | .call (.push ..) _ => step.before.sink.pipeline.consumer.acknowledged step.after.sink.pipeline.consumer
  | _ => false

/-- Two handles that remember the same and whose sinks are alike. -/
structure Alike (one other : Handle) : Prop where
  remembered : one.remembered = other.remembered
  sink : one.sink.Alike other.sink

namespace Alike

variable {one other : Handle}

/-- New handles are alike if their consumers are. -/
theorem create {one other : Consumer} (halike : one.Alike other) (limit : Nat)
    (request : Option Sink.Request) :
    (Handle.create limit request one).Alike (.create limit request other) :=
  ⟨rfl, .new halike limit _⟩

/-- A payload that is pushed to both has the same status. -/
theorem push (halike : one.Alike other) (payload : Option Bytes) (timestamp : Nat) :
    ∃ status oneAfter otherAfter, Embedding.push payload timestamp (some one) = (status, some oneAfter) ∧
      Embedding.push payload timestamp (some other) = (status, some otherAfter) ∧
      oneAfter.Alike otherAfter := by
  cases payload with
  | none => exact ⟨_, _, _, rfl, rfl, halike⟩
  | some payload =>
    simp only [Embedding.push]
    rw [halike.remembered]
    split
    · exact ⟨_, _, _, rfl, rfl, halike⟩
    · rename_i frame _
      obtain ⟨hresult, hafter⟩ := halike.sink.renderAmid [] frame
      rw [Sink.Memory.renderAmid_nil, Sink.Memory.renderAmid_nil] at hresult hafter
      have hstatus := congrArg outcomeStatus hresult
      rw [outcomeStatus_blind, outcomeStatus_blind] at hstatus
      refine ⟨_, ⟨(one.sink.render frame).2, _⟩, ⟨(other.sink.render frame).2, _⟩, rfl, ?_, ⟨rfl, hafter⟩⟩
      rw [hstatus]

/-- The numbers are the same but for the acknowledgements. -/
theorem report (halike : one.Alike other) : one.report.blind = other.report.blind := by
  have hpipeline := halike.sink.pipeline
  simp only [Handle.report, Report.blind]
  rw [hpipeline.processed, hpipeline.skipped, hpipeline.scratch, hpipeline.halted]

/-- An order that is given to both has the same reply but for the acknowledgements. -/
theorem call (halike : one.Alike other) {order counterpart : Order} (horder : order.Alike counterpart) :
    ∃ reply counterreply oneAfter otherAfter, order.call (some one) = (reply, some oneAfter) ∧
      counterpart.call (some other) = (counterreply, some otherAfter) ∧
      reply.blind = counterreply.blind ∧ oneAfter.Alike otherAfter := by
  cases horder with
  | attach hconsumer => exact ⟨_, _, _, _, rfl, rfl, rfl, { halike with sink := halike.sink.attach hconsumer }⟩
  | same =>
    cases order with
    | attach consumer =>
      exact ⟨_, _, _, _, rfl, rfl, rfl, { halike with sink := halike.sink.attach (.refl consumer) }⟩
    | setOutputSize size =>
      exact ⟨_, _, _, _, rfl, rfl, rfl, { halike with sink := (halike.sink.change _).change _ }⟩
    | setAngle degrees =>
      exact ⟨_, _, _, _, rfl, rfl, rfl, { halike with sink := halike.sink.change _ }⟩
    | negotiate description =>
      simp only [Order.call, Embedding.negotiate]
      rcases halike.sink.negotiate description with ⟨cause, hone, hother⟩ | ⟨_, _, hone, hother, hafter⟩
      · rw [hone, hother]
        exact ⟨_, _, _, _, rfl, rfl, rfl, halike⟩
      · rw [hone, hother]
        exact ⟨_, _, _, _, rfl, rfl, rfl, ⟨rfl, hafter⟩⟩
    | move number =>
      simp only [Order.call, Embedding.move]
      cases Transition.ofNumber? number with
      | none => exact ⟨_, _, _, _, rfl, rfl, rfl, halike⟩
      | some transition =>
        exact ⟨_, _, _, _, rfl, rfl, rfl, { halike with sink := halike.sink.move transition }⟩
    | push payload timestamp =>
      obtain ⟨status, _, _, hone, hother, hafter⟩ := halike.push payload timestamp
      simp only [Order.call]
      rw [hone, hother]
      exact ⟨_, _, _, _, rfl, rfl, rfl, hafter⟩
    | report hasPlace =>
      cases hasPlace with
      | true =>
        refine ⟨_, _, _, _, rfl, rfl, ?_, halike⟩
        exact congrArg (fun report => Reply.numbers 1 (some report)) halike.report
      | false => exact ⟨_, _, _, _, rfl, rfl, rfl, halike⟩

end Alike

/-- No event of a handle tells acknowledgements apart. -/
theorem parallel : machine.Parallel Event.Alike (fun one other => one.blind = other.blind) Alike := by
  intro one other event counterpart halike hevent
  cases hevent with
  | @call order other hasHandle horder =>
    cases hasHandle with
    | true =>
      obtain ⟨_, _, _, _, hone, hother, hreply, hafter⟩ := halike.call horder
      simp only [machine, act]
      rw [hone, hother]
      exact ⟨hreply, hafter⟩
    | false =>
      refine ⟨?_, halike⟩
      cases horder with
      | attach => rfl
      | same => rfl
  | tighten limit => exact ⟨rfl, { halike with sink := halike.sink.tighten limit }⟩
  | answer mind otherMind =>
    have hconsumer := halike.sink.pipeline.consumer.withAnswer mind otherMind
    exact ⟨rfl, { halike with sink := halike.sink.attach hconsumer }⟩

/-- A payload counts one acknowledgement or none, as the consumer in place answers. -/
theorem acknowledged_push (payload : Option Bytes) (timestamp : Nat) (handle : Handle) :
    ∃ status after, Embedding.push payload timestamp (some handle) = (status, some after) ∧
      after.sink.pipeline.tally.acknowledged = handle.sink.pipeline.tally.acknowledged +
        (handle.sink.pipeline.consumer.acknowledged after.sink.pipeline.consumer).toNat := by
  have hnone : handle.sink.pipeline.tally.acknowledged = handle.sink.pipeline.tally.acknowledged +
      (handle.sink.pipeline.consumer.acknowledged handle.sink.pipeline.consumer).toNat := by
    rw [Consumer.acknowledged_self]
    rfl
  cases payload with
  | none => exact ⟨_, _, rfl, hnone⟩
  | some payload =>
    simp only [Embedding.push]
    split
    · exact ⟨_, _, rfl, hnone⟩
    · rename_i frame _
      have hfed := handle.sink.pipeline.acknowledged_feedAmid [] frame
      rw [Pipeline.feedAmid_nil] at hfed
      exact ⟨_, _, rfl, hfed⟩

/-- Acknowledgements are counted where they are given. -/
theorem counted : machine.Counted (·.sink.pipeline.tally.acknowledged) isAcknowledged := by
  intro handle event
  cases event with
  | call order hasHandle =>
    cases hasHandle with
    | false =>
      cases order with
      | push payload timestamp =>
        show handle.sink.pipeline.tally.acknowledged = handle.sink.pipeline.tally.acknowledged +
          (handle.sink.pipeline.consumer.acknowledged handle.sink.pipeline.consumer).toNat
        rw [Consumer.acknowledged_self]
        rfl
      | _ => rfl
    | true =>
      cases order with
      | negotiate description =>
        simp only [machine, act, Order.call, Embedding.negotiate]
        rcases handle.sink.negotiate_cases description with ⟨cause, hrefused⟩ | ⟨format, _, hagreed⟩
        · rw [hrefused]
          rfl
        · rw [hagreed]
          rfl
      | move number =>
        simp only [machine, act, Order.call, Embedding.move]
        cases Transition.ofNumber? number with
        | none => rfl
        | some transition =>
          simp only [Sink.Memory.move]
          cases transition.isTeardown <;> rfl
      | push payload timestamp =>
        obtain ⟨status, after, hpush, hcount⟩ := handle.acknowledged_push payload timestamp
        simp only [machine, act, Order.call, Machine.step, isAcknowledged]
        rw [hpush]
        exact hcount
      | _ => rfl
  | _ => rfl

end Handle

end Embedding

/-- Let two pipelines, two memory sinks or two handles be made with consumers that differ at most in their answers, or
of which one is absent, and be asked for the same, but for such consumers and answers. Step by step they reply the same
but for the acknowledgements, hand the same pictures to their consumers, and are in the same states but for the number
of acknowledgements. That number is, in each run for itself, how many of the pictures handed over its consumer
acknowledged. -/
theorem acknowledgement_has_no_effect :
    (∀ limit one other acts counterparts, Consumer.Alike one other →
      List.Forall₂ Pipeline.Act.Alike acts counterparts →
      List.Forall₂ (Machine.Step.Alike (fun reply other => reply.blind = other.blind) Pipeline.Alike)
        (Pipeline.machine.steps acts (.initial limit one))
        (Pipeline.machine.steps counterparts (.initial limit other))) ∧
    (∀ limit request one other acts counterparts, Consumer.Alike one other →
      List.Forall₂ Sink.Memory.Act.Alike acts counterparts →
      List.Forall₂ (Machine.Step.Alike (fun reply other => reply.blind = other.blind) Sink.Memory.Alike)
        (Sink.Memory.machine.steps acts (.new limit request one))
        (Sink.Memory.machine.steps counterparts (.new limit request other))) ∧
    (∀ limit request one other events counterparts, Consumer.Alike one other →
      List.Forall₂ Embedding.Event.Alike events counterparts →
      List.Forall₂ (Machine.Step.Alike (fun reply other => reply.blind = other.blind) Embedding.Handle.Alike)
        (Embedding.Handle.machine.steps events (.create limit request one))
        (Embedding.Handle.machine.steps counterparts (.create limit request other))) ∧
    (∀ limit consumer acts, (Pipeline.machine.run acts (.initial limit consumer)).tally.acknowledged =
      (Pipeline.machine.steps acts (.initial limit consumer)).countP Pipeline.isAcknowledged) ∧
    (∀ limit request consumer acts,
      (Sink.Memory.machine.run acts (.new limit request consumer)).pipeline.tally.acknowledged =
        (Sink.Memory.machine.steps acts (.new limit request consumer)).countP Sink.Memory.isAcknowledged) ∧
    (∀ limit request consumer events,
      (Embedding.Handle.machine.run events (.create limit request consumer)).sink.pipeline.tally.acknowledged =
        (Embedding.Handle.machine.steps events (.create limit request consumer)).countP
          Embedding.Handle.isAcknowledged) := by
  refine ⟨?_, ?_, ?_, ?_, ?_, ?_⟩
  · intro limit one other acts counterparts halike hacts
    exact Pipeline.parallel.steps hacts (.initial halike limit)
  · intro limit request one other acts counterparts halike hacts
    exact Sink.Memory.parallel.steps hacts (.new halike limit request)
  · intro limit request one other events counterparts halike hevents
    exact Embedding.Handle.parallel.steps hevents (.create halike limit request)
  · intro limit consumer acts
    exact (Pipeline.counted.run acts _).trans (Nat.zero_add _)
  · intro limit request consumer acts
    exact (Sink.Memory.counted.run acts _).trans (Nat.zero_add _)
  · intro limit request consumer events
    exact (Embedding.Handle.counted.run events _).trans (Nat.zero_add _)

/-- One picture is acknowledged by a listener; without a listener the states are the same but for the count of that. -/
theorem acknowledgement_has_no_effect_picture :
    let acts : List Pipeline.Act := [.negotiate ⟨6, ⟨1, 1⟩⟩, .feed ⟨#[1, 2, 3, 4], ⟨1, 1⟩, .rgba, 0⟩ []]
    let willing := Pipeline.initial 64 (.listener (fun _ => true) [])
    let alone := Pipeline.initial 64 .absent
    List.Forall₂ (Machine.Step.Alike (fun reply other => reply.blind = other.blind) Pipeline.Alike)
        (Pipeline.machine.steps acts willing) (Pipeline.machine.steps acts alone) ∧
      (Pipeline.machine.run acts willing).tally = ⟨1, 0, 1⟩ ∧
      (Pipeline.machine.run acts alone).tally = ⟨1, 0, 0⟩ ∧
      (Pipeline.machine.steps acts willing).countP Pipeline.isAcknowledged = 1 := by
  obtain ⟨halike, -, -, hcount, -⟩ := acknowledgement_has_no_effect
  refine ⟨halike 64 _ _ _ _ trivial (.cons (.same _) (.cons (.same _) .nil)), ?_, ?_, ?_⟩
  · decide +kernel
  · decide +kernel
  · rw [← hcount]
    decide +kernel

end FramePath
