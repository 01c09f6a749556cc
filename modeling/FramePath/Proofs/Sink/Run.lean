import FramePath.Proofs.Pipeline.Run
import FramePath.Sink.Memory

/-!
# Runs of a memory sink

`Sink.Memory.Act` is what can happen to a memory sink: what can happen to its pipeline, with moves along the lifecycle
in place of restarts; `Sink.Memory.reply` is what each act is answered. Every run of a sink is one of its pipeline
(`Sink.Memory.pipeline_run`), so what holds of a pipeline in every reachable state holds of a sink's.
-/

namespace FramePath

namespace Sink

namespace Memory

/-- What can happen to a memory sink. -/
inductive Act where
  | negotiate (description : StreamDescription)
  | change (change : Geometry.Change)
  | attach (consumer : Consumer)
  | move (transition : Transition)
  /-- From now on the host refuses requests of this many bytes or more. -/
  | tighten (limit : Nat)
  /-- A frame, and the changes that come in after it was admitted and before it is done. -/
  | render (frame : Frame) (meanwhile : List Geometry.Change)

/-- Take one frame through the pipeline while changes come in. -/
def renderAmid (meanwhile : List Geometry.Change) (frame : Frame) (sink : Memory) :
    Except FrameError Outcome × Memory :=
  let (outcome, pipeline) := sink.pipeline.feedAmid meanwhile frame
  (outcome, { sink with pipeline })

/-- A frame that no change meets is rendered alone. -/
theorem renderAmid_nil (frame : Frame) (sink : Memory) :
    sink.renderAmid [] frame = sink.render frame := by
  unfold renderAmid render
  rw [Pipeline.feedAmid_nil]

/-- Do one act; a negotiation that is refused leaves the sink as it is. -/
def act (sink : Memory) : Act → Memory
  | .negotiate description => (sink.negotiate description).toOption.getD sink
  | .change change => sink.change change
  | .attach consumer => sink.attach consumer
  | .move transition => sink.move transition
  | .tighten limit => { sink with pipeline := sink.pipeline.act (.tighten limit) }
  | .render frame meanwhile => (sink.renderAmid meanwhile frame).2

/-- Do several acts in order. -/
def run (acts : List Act) (sink : Memory) : Memory := acts.foldl act sink

/-- The reply of a sink to an act. -/
def reply (sink : Memory) : Act → Pipeline.Reply
  | .negotiate description => .agreed ((sink.negotiate description).map fun _ => ())
  | .render frame meanwhile => .fed (sink.renderAmid meanwhile frame).1
  | _ => .silent

/-- A memory sink acts and replies. -/
def machine : Machine Memory Act Pipeline.Reply := ⟨act, reply⟩

/-- What an act is to the pipeline. -/
def Act.inner : Act → List Pipeline.Act
  | .negotiate description => [.negotiate description]
  | .change asked => [.change asked]
  | .attach consumer => [.attach consumer]
  | .move transition => if transition.isTeardown then [.restart] else []
  | .tighten limit => [.tighten limit]
  | .render frame meanwhile => [.feed frame meanwhile]

/-- A new sink has a pipeline for which the request was made. -/
theorem pipeline_new (limit : Nat) (request : Request) (consumer : Consumer) :
    (new limit request consumer).pipeline = (Pipeline.initial limit consumer).run
      [.change (.width request.size.width), .change (.height request.size.height),
        .change (.angle request.angle)] := rfl

/-- An act of a sink is one of its pipeline, or none. -/
theorem pipeline_act (sink : Memory) (act : Act) :
    (sink.act act).pipeline = sink.pipeline.run act.inner := by
  cases act with
  | negotiate description =>
    show ((sink.negotiate description).toOption.getD sink).pipeline =
      (sink.pipeline.negotiate description).toOption.getD sink.pipeline
    unfold negotiate
    cases sink.pipeline.negotiate description <;> rfl
  | move transition =>
    show (if transition.isTeardown then sink.pipeline.restart else sink.pipeline) =
      sink.pipeline.run (if transition.isTeardown then [.restart] else [])
    cases transition.isTeardown <;> rfl
  | _ => rfl

/-- A run of a sink is one of its pipeline. -/
theorem pipeline_run (sink : Memory) (acts : List Act) :
    (sink.run acts).pipeline = sink.pipeline.run (acts.flatMap Act.inner) := by
  induction acts generalizing sink with
  | nil => rfl
  | cons act acts ih =>
    refine (ih (sink.act act)).trans ?_
    rw [pipeline_act, List.flatMap_cons]
    exact List.foldl_append.symm

/-- Every act keeps the canvases ready. -/
theorem ready_act {sink : Memory} (hready : sink.pipeline.Ready) (act : Act) : (sink.act act).pipeline.Ready := by
  rw [pipeline_act]
  exact hready.run _

/-- The canvases of a sink are ready in every reachable state. -/
theorem ready_run (limit : Nat) (request : Request) (consumer : Consumer) (acts : List Act) :
    ((new limit request consumer).run acts).pipeline.Ready := by
  rw [pipeline_run, pipeline_new]
  exact ((Pipeline.ready_initial limit consumer).run _).run _

/-- The limits of a run of a sink are those that it was given. -/
theorem tighten_mem {acts : List Act} {limit : Nat}
    (hmem : Pipeline.Act.tighten limit ∈ acts.flatMap Act.inner) : Act.tighten limit ∈ acts := by
  obtain ⟨act, hact, hinner⟩ := List.mem_flatMap.1 hmem
  cases act with
  | tighten other =>
    cases List.mem_singleton.1 hinner
    exact hact
  | move transition =>
    have hrestart : Pipeline.Act.tighten limit ∈ if transition.isTeardown then [.restart] else [] := hinner
    split at hrestart
    · cases List.mem_singleton.1 hrestart
    · exact absurd hrestart List.not_mem_nil
  | _ => cases List.mem_singleton.1 hinner

end Memory

end Sink

end FramePath
