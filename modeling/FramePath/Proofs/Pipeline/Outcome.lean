import FramePath.Proofs.Pipeline.Run

/-!
# What a pipeline answers

`Pipeline.verdict` judges a frame before any stage has run: by whether the pipeline is halted, the format last agreed
on, the canvases that are due and what the host grants, and by what makes a frame unfit. `Verdict.Carried` says what
becomes of a frame so judged, and of the pipeline. `frames_judged` says that every frame is answered so, in every
reachable state, and what halts a pipeline and what ends the halt.
-/

namespace FramePath

namespace Pipeline

variable {pipeline after : Pipeline} {frame : Frame} {meanwhile : List Geometry.Change}

/-- The format that was agreed on last. -/
def agreement? (acts : List Act) : Option PixelFormat := (acts.filterMap Act.agreed?).getLast?

/-- Whether canvases are due: the geometry changed since the last snapshot of it, or there are none. -/
def isDue (pipeline : Pipeline) : Bool := pipeline.geometry.dirty || !pipeline.scratch.isAllocated

/-- How a frame is judged. -/
inductive Verdict where
  | halted
  | notNegotiated
  /-- Canvases are due, and the host does not grant this one. -/
  | refused (canvas : CanvasName) (bytes : Nat)
  | skipped
  | rendered
  deriving DecidableEq

/-- Judge a frame by the state that it finds and the format agreed on. -/
def verdict (agreed : Option PixelFormat) (frame : Frame) (pipeline : Pipeline) : Verdict :=
  if pipeline.halted then .halted
  else
    match agreed with
    | none => .notNegotiated
    | some format =>
      let refusal :=
        if pipeline.isDue then Scratch.refusal? pipeline.scratch.limit pipeline.geometry else none
      match refusal with
      | some (canvas, bytes) => .refused canvas bytes
      | none =>
        if Job.Unfit ⟨format, pipeline.geometry, frame.payload⟩ then .skipped else .rendered

/-- Whether a frame is judged to be refused for want of canvases. -/
def Verdict.isRefused : Verdict → Bool
  | refused .. => true
  | _ => false

/-- What a frame so judged leads to. The consumer is called once for a frame that is rendered and never for another; one
count goes up by one, and the acknowledgement is counted if there is one; a refusal halts the pipeline and leaves no
canvases. Nothing else changes but the geometry and what is on the canvases. -/
def Verdict.Carried (pipeline : Pipeline) (result : Except FrameError Outcome) (after : Pipeline) :
    Verdict → Prop
  | halted => result = .error .halted ∧ after = { pipeline with geometry := after.geometry }
  | notNegotiated =>
      result = .error .notNegotiated ∧ after = { pipeline with geometry := after.geometry }
  | refused canvas bytes =>
      result = .error (.allocationFailed canvas bytes) ∧
        after = { pipeline with
          geometry := after.geometry, scratch := pipeline.scratch.release, halted := true }
  | skipped =>
      result = .ok .skipped ∧
        after = { pipeline with
          geometry := after.geometry, scratch := after.scratch
          tally := pipeline.tally.countSkipped }
  | rendered =>
      ∃ picture acknowledged consumer, picture.size = pipeline.geometry.output ∧
        pipeline.consumer.take picture = (acknowledged, consumer) ∧
        result = .ok (.rendered acknowledged) ∧
        after = { pipeline with
          geometry := after.geometry, scratch := after.scratch, consumer
          tally := pipeline.tally.countRendered acknowledged }

/-- A frame leaves the format agreed on and the limit of the host. -/
theorem Fed.same {result : Except FrameError Outcome} (hfed : Fed pipeline meanwhile frame result after) :
    after.format = pipeline.format ∧ after.scratch.limit = pipeline.scratch.limit := by
  cases hfed with
  | halted => rw [changeAll_eq]; exact ⟨rfl, rfl⟩
  | notNegotiated => rw [changeAll_eq]; exact ⟨rfl, rfl⟩
  | admitted format _ _ _ _ hperformed =>
    cases hperformed with
    | refused => exact ⟨rfl, rfl⟩
    | skipped _ _ _ _ hobtained => exact ⟨rfl, hobtained.limit_eq⟩
    | rendered _ _ _ _ hobtained => exact ⟨rfl, hobtained.limit_eq⟩

/-- An act leaves the format agreed on or puts another in its place. -/
theorem Ready.format_act (hready : pipeline.Ready) (act : Act) :
    (pipeline.act act).format = act.agreed?.or pipeline.format := by
  cases act with
  | negotiate description =>
    rw [act_negotiate]
    rcases (Act.negotiate description).agreed? with _ | format
    · rfl
    · rfl
  | feed frame meanwhile => exact (hready.fed meanwhile frame).same.1
  | _ => rfl

/-- The format of a pipeline is the one agreed on last. -/
theorem Ready.format_run (hready : pipeline.Ready) (acts : List Act) :
    (pipeline.run acts).format = (agreement? acts).or pipeline.format := by
  induction acts generalizing pipeline with
  | nil => rfl
  | cons act acts ih =>
    have hlater : (pipeline.run (act :: acts)).format =
        (agreement? acts).or (act.agreed?.or pipeline.format) := by
      rw [← hready.format_act act]
      exact ih (hready.act act)
    rw [hlater]
    unfold agreement?
    rcases hact : act.agreed? with _ | format
    · rw [List.filterMap_cons_none hact]
      rfl
    · rw [List.filterMap_cons_some hact, List.getLast?_cons]
      cases (acts.filterMap Act.agreed?).getLast? <;> rfl

/-- What becomes of a frame is what it is judged to. -/
theorem Fed.carried {result : Except FrameError Outcome}
    (hfed : Fed pipeline meanwhile frame result after) (hready : pipeline.Ready) :
    (pipeline.verdict pipeline.format frame).Carried pipeline result after := by
  unfold verdict
  cases hfed with
  | halted hhalted =>
    rw [if_pos hhalted, changeAll_eq]
    exact ⟨rfl, rfl⟩
  | notNegotiated hgoing hformat =>
    rw [hgoing, if_neg (by decide), hformat, changeAll_eq]
    exact ⟨rfl, rfl⟩
  | admitted format _ _ hgoing hformat hperformed =>
    rw [hgoing, if_neg (by decide), hformat]
    dsimp only
    cases hperformed with
    | refused canvas bytes hdue hrefusal =>
      replace hdue : pipeline.isDue = true := hdue
      rw [if_pos hdue, show Scratch.refusal? pipeline.scratch.limit pipeline.geometry = _ from hrefusal]
      exact ⟨rfl, rfl⟩
    | skipped canvases kept scratch cause hobtained hunfit =>
      rw [show (if pipeline.isDue then _ else _) = _ from hobtained.granted]
      dsimp only
      rw [if_pos hunfit]
      exact ⟨rfl, rfl⟩
    | rendered canvases kept scratch picture hobtained hfit hdevelop =>
      rw [show (if pipeline.isDue then _ else _) = _ from hobtained.granted]
      dsimp only
      rw [if_neg hfit]
      have hpicture := (Job.develop_spec (hobtained.fits hready)).2
      rw [hdevelop] at hpicture
      obtain ⟨_, _, _, rfl⟩ := hpicture picture rfl
      exact ⟨_, _, _, rfl, rfl, rfl, rfl⟩

/-- A frame halts the pipeline if it is judged to be refused for want of canvases. -/
theorem Verdict.Carried.halted_eq {verdict : Verdict} {result : Except FrameError Outcome}
    (hcarried : verdict.Carried pipeline result after) :
    after.halted = (pipeline.halted || verdict.isRefused) := by
  cases verdict with
  | refused canvas bytes =>
    rw [hcarried.2]
    exact (Bool.or_true _).symm
  | rendered =>
    obtain ⟨_, _, _, _, _, _, hafter⟩ := hcarried
    rw [hafter]
    exact (Bool.or_false _).symm
  | _ =>
    rw [hcarried.2]
    exact (Bool.or_false _).symm

/-- A frame halts the pipeline if it is refused for want of canvases, a restart ends the halt, and no other act changes
it. -/
theorem Ready.halted_act (hready : pipeline.Ready) (act : Act) :
    (pipeline.act act).halted =
      match act with
      | .restart => false
      | .feed frame _ => pipeline.halted || (pipeline.verdict pipeline.format frame).isRefused
      | _ => pipeline.halted := by
  cases act with
  | negotiate description =>
    obtain ⟨format, geometry, hnegotiated⟩ := act_negotiate_rest description pipeline
    rw [hnegotiated]
  | feed frame meanwhile => exact ((hready.fed meanwhile frame).carried hready).halted_eq
  | _ => rfl

/-- A halted pipeline has no canvases. -/
def Released (pipeline : Pipeline) : Prop :=
  pipeline.halted = true → pipeline.scratch.canvases = none

/-- A frame leaves no canvases where it halts the pipeline, and makes none while it is halted. -/
theorem Fed.released {result : Except FrameError Outcome}
    (hfed : Fed pipeline meanwhile frame result after) (hreleased : pipeline.Released) :
    after.Released := by
  cases hfed with
  | halted => rw [changeAll_eq]; exact hreleased
  | notNegotiated => rw [changeAll_eq]; exact hreleased
  | admitted _ _ _ hgoing _ hperformed =>
    cases hperformed with
    | refused => exact fun _ => rfl
    | skipped => exact fun hhalted => absurd (hgoing.symm.trans hhalted) (by decide)
    | rendered => exact fun hhalted => absurd (hgoing.symm.trans hhalted) (by decide)

/-- An act leaves no canvases where it halts the pipeline, and makes none while it is halted. -/
theorem Ready.released_act (hready : pipeline.Ready) (hreleased : pipeline.Released) (act : Act) :
    (pipeline.act act).Released := by
  cases act with
  | negotiate description =>
    obtain ⟨format, geometry, hnegotiated⟩ := act_negotiate_rest description pipeline
    rw [hnegotiated]
    exact hreleased
  | restart => exact fun _ => rfl
  | feed frame meanwhile => exact (hready.fed meanwhile frame).released hreleased
  | _ => exact hreleased

/-- A halted pipeline has no canvases in any reachable state. -/
theorem released_run (limit : Nat) (consumer : Consumer) (acts : List Act) :
    ((initial limit consumer).run acts).Released :=
  (ready_initial limit consumer).run_keeps nofun fun act _ _ hready hreleased =>
    hready.released_act hreleased act

/-- The limit of the host stays as it is, unless an act changes it. -/
theorem Ready.limit_act (hready : pipeline.Ready) {act : Act}
    (hsteady : ∀ limit, act ≠ .tighten limit) :
    (pipeline.act act).scratch.limit = pipeline.scratch.limit := by
  cases act with
  | negotiate description =>
    obtain ⟨format, geometry, hnegotiated⟩ := act_negotiate_rest description pipeline
    rw [hnegotiated]
  | tighten limit => exact absurd rfl (hsteady limit)
  | feed frame meanwhile => exact (hready.fed meanwhile frame).same.2
  | _ => rfl

/-- The limit of the host stays as it is over a run that does not change it. -/
theorem Ready.limit_run (hready : pipeline.Ready) {acts : List Act}
    (hsteady : ∀ limit, Act.tighten limit ∉ acts) :
    (pipeline.run acts).scratch.limit = pipeline.scratch.limit := by
  refine hready.run_keeps (motive := fun later => later.scratch.limit = pipeline.scratch.limit) rfl
    fun act hmem later hlater hsame => ?_
  exact (hlater.limit_act fun limit htighten => hsteady limit (htighten ▸ hmem)).trans hsame

/-- In every reachable state and for every frame, whatever changes come in meanwhile: the frame is answered as it is
judged, and the judgement goes by the format of the last negotiation that was accepted. The pipeline is halted by a
frame for which canvases are due that the host does not grant, is without canvases as long as it is halted, and goes
on after a restart and not before. The host refuses requests of `limit` bytes or more, unless it changes its mind. -/
theorem frames_judged (limit : Nat) (consumer : Consumer) (acts : List Act)
    (meanwhile : List Geometry.Change) (frame : Frame) :
    let pipeline := (initial limit consumer).run acts
    let fed := pipeline.feedAmid meanwhile frame
    (pipeline.verdict (agreement? acts) frame).Carried pipeline fed.1 fed.2 ∧
      (pipeline.halted = true → pipeline.scratch.canvases = none) ∧
      (∀ act, (pipeline.act act).halted =
        match act with
        | .restart => false
        | .feed frame _ => pipeline.halted || (pipeline.verdict (agreement? acts) frame).isRefused
        | _ => pipeline.halted) ∧
      ((∀ other, Act.tighten other ∉ acts) → pipeline.scratch.limit = limit) := by
  have hready := ready_run limit consumer acts
  have hformat : ((initial limit consumer).run acts).format = agreement? acts :=
    ((ready_initial limit consumer).format_run acts).trans (Option.or_none)
  dsimp only
  rw [← hformat]
  exact ⟨(hready.fed meanwhile frame).carried hready, released_run limit consumer acts, hready.halted_act,
    (ready_initial limit consumer).limit_run⟩

/-- A frame is rendered, one that is too short is skipped, and then the source grows beyond all words. -/
def overreach : List Act :=
  [.negotiate ⟨PixelFormat.rgba.code, ⟨1, 1⟩⟩, .feed ⟨#[1, 2, 3, 4], ⟨1, 1⟩, .rgba, 0⟩ [],
    .feed ⟨#[1, 2, 3], ⟨1, 1⟩, .rgba, 1⟩ [], .change (.source ⟨0xFFFFFFFF, 0xFFFFFFFF⟩)]

theorem frames_judged_overreach :
    let pipeline := (initial 0x800000000000 (.listener (fun _ => true) [])).run overreach
    let fed := pipeline.feedAmid [.mark] ⟨#[1, 2, 3, 4], ⟨1, 1⟩, .rgba, 2⟩
    pipeline.tally = ⟨1, 1, 1⟩ ∧ pipeline.scratch.limit = 0x800000000000 ∧
      fed.1 = .error (.allocationFailed .converted 0xFFFFFFFFFFFFFFFF) ∧
      fed.2.halted = true ∧ fed.2.scratch.canvases = none ∧ fed.2.tally = pipeline.tally := by
  obtain ⟨hcarried, _, _, hlimit⟩ := frames_judged 0x800000000000 (.listener (fun _ => true) [])
    overreach [.mark] ⟨#[1, 2, 3, 4], ⟨1, 1⟩, .rgba, 2⟩
  have hverdict : ((initial 0x800000000000 (.listener (fun _ => true) [])).run overreach).verdict
      (agreement? overreach) ⟨#[1, 2, 3, 4], ⟨1, 1⟩, .rgba, 2⟩ =
        .refused .converted 0xFFFFFFFFFFFFFFFF := by decide +kernel
  rw [hverdict] at hcarried
  obtain ⟨hresult, hafter⟩ := hcarried
  refine ⟨by decide +kernel, hlimit (by simp [overreach]), hresult, ?_, ?_, ?_⟩
  · rw [hafter]
  · rw [hafter]
    rfl
  · rw [hafter]

end Pipeline

end FramePath
