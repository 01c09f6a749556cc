import FramePath.Scratch

/-!
# What a renewal of the canvases grants

A request for canvases is refused as a whole, for the first canvas of which the bytes reach the limit of the host or do
not fit in a word. `Scratch.refusal?` says which canvas that is and `Canvases.fresh` what is made otherwise;
`renew_of_refused` and `renew_of_granted` are all that a renewal can come to.
-/

namespace FramePath

/-- The canvases that are made for a geometry. -/
def Canvases.fresh (geometry : Geometry) : Canvases :=
  let source := geometry.source.area * packedPixelBytes
  ⟨.blank source, if geometry.angle = 0 then none else some (.blank source),
    .blank (geometry.output.area * packedPixelBytes)⟩

namespace Scratch

variable {scratch : Scratch} {geometry : Geometry}

/-- The first canvas of a geometry that a host refuses, and the bytes it is refused for: those of the canvas, or the
largest word. The turned canvas is as large as the converted one, which is asked for before it. -/
def refusal? (limit : Nat) (geometry : Geometry) : Option (CanvasName × Nat) :=
  let converted := geometry.source.area * packedPixelBytes
  let resized := geometry.output.area * packedPixelBytes
  if min limit wordLimit ≤ converted then some (.converted, min converted (wordLimit - 1))
  else if min limit wordLimit ≤ resized then some (.resized, min resized (wordLimit - 1))
  else none

/-- What is not refused stays below the limit. -/
theorem lt_of_granted {limit : Nat} (hgranted : refusal? limit geometry = none) :
    geometry.source.area * packedPixelBytes < limit ∧
      geometry.output.area * packedPixelBytes < limit := by
  unfold refusal? at hgranted
  dsimp only at hgranted
  split at hgranted
  · cases hgranted
  · split at hgranted
    · cases hgranted
    · omega

/-- A request is refused exactly if its bytes reach the limit or do not fit in a word. -/
theorem request_eq (limit : Nat) (name : CanvasName) (size : Size) :
    request limit name size =
      if min limit wordLimit ≤ size.area * packedPixelBytes then
        .error (.allocationFailed name (min (size.area * packedPixelBytes) (wordLimit - 1)))
      else .ok (size.area * packedPixelBytes) := by
  unfold request
  dsimp only
  generalize size.area * packedPixelBytes = bytes
  by_cases hword : wordLimit ≤ bytes
  · rw [if_pos hword, if_pos (Nat.le_trans (Nat.min_le_right ..) hword), Nat.min_eq_right (by omega)]
  · rw [if_neg hword]
    by_cases hlimit : limit ≤ bytes
    · rw [if_pos hlimit, if_pos (Nat.le_trans (Nat.min_le_left ..) hlimit),
        Nat.min_eq_left (by omega)]
    · rw [if_neg hlimit, if_neg (by omega)]

/-- The requests for a geometry are refused together or granted together. -/
theorem requests_eq (limit : Nat) (geometry : Geometry) :
    requests limit geometry =
      match refusal? limit geometry with
      | some (canvas, bytes) => .error (.allocationFailed canvas bytes)
      | none =>
          let source := geometry.source.area * packedPixelBytes
          .ok (source, if geometry.angle = 0 then none else some source,
            geometry.output.area * packedPixelBytes) := by
  unfold requests refusal?
  simp only [request_eq]
  by_cases hsource : min limit wordLimit ≤ geometry.source.area * packedPixelBytes
  · simp only [if_pos hsource]
    rfl
  · simp only [if_neg hsource]
    -- The turned canvas is granted where the converted one was, so only the resized one is left.
    by_cases hresized : min limit wordLimit ≤ geometry.output.area * packedPixelBytes
    · simp only [if_pos hresized]
      by_cases hangle : geometry.angle = 0
      · simp only [if_pos hangle]
        rfl
      · simp only [if_neg hangle]
        rfl
    · simp only [if_neg hresized]
      by_cases hangle : geometry.angle = 0
      · simp only [if_pos hangle]
        rfl
      · simp only [if_neg hangle]
        rfl

/-- After a refusal there are no canvases, and no renewal is counted. -/
theorem renew_of_refused {canvas : CanvasName} {bytes : Nat}
    (hrefused : refusal? scratch.limit geometry = some (canvas, bytes)) :
    scratch.renew geometry = (.error (.allocationFailed canvas bytes), scratch.release) := by
  unfold renew
  rw [requests_eq, hrefused]

/-- A renewal that is granted makes fresh canvases and is counted. -/
theorem renew_of_granted (hgranted : refusal? scratch.limit geometry = none) :
    scratch.renew geometry =
      (.ok (.fresh geometry),
        ⟨scratch.limit, some (.fresh geometry), scratch.reallocations + 1⟩) := by
  unfold renew
  rw [requests_eq, hgranted]
  dsimp only
  unfold Canvases.fresh
  by_cases hangle : geometry.angle = 0
  · simp only [if_pos hangle]
    rfl
  · simp only [if_neg hangle]
    rfl

/-- What obtaining canvases can come to: those at hand are used if nothing changed; otherwise they are renewed, or the
renewal is refused. -/
inductive Obtained (scratch : Scratch) (geometry : Geometry) :
    Except FrameError Canvases → Scratch → Prop where
  | atHand (canvases) :
      scratch.canvases = some canvases → geometry.dirty = false →
      Obtained scratch geometry (.ok canvases) scratch
  | renewed :
      (geometry.dirty || !scratch.isAllocated) = true → refusal? scratch.limit geometry = none →
      Obtained scratch geometry (.ok (.fresh geometry))
        ⟨scratch.limit, some (.fresh geometry), scratch.reallocations + 1⟩
  | refused (canvas : CanvasName) (bytes : Nat) :
      (geometry.dirty || !scratch.isAllocated) = true →
      refusal? scratch.limit geometry = some (canvas, bytes) →
      Obtained scratch geometry (.error (.allocationFailed canvas bytes)) scratch.release

/-- Obtaining canvases is one of the three. -/
theorem obtained (scratch : Scratch) (geometry : Geometry) :
    Obtained scratch geometry (scratch.obtain geometry).1 (scratch.obtain geometry).2 := by
  unfold Scratch.obtain
  split
  · next canvases hcanvases hclean => exact .atHand canvases hcanvases hclean
  · next hchanged =>
    have hdue : (geometry.dirty || !scratch.isAllocated) = true := by
      unfold isAllocated
      cases hdirty : geometry.dirty with
      | true => rfl
      | false =>
        rcases hcanvases : scratch.canvases with _ | canvases
        · rfl
        · exact absurd hdirty (hchanged canvases hcanvases)
    rcases hrefusal : refusal? scratch.limit geometry with _ | ⟨canvas, bytes⟩
    · rw [renew_of_granted hrefusal]
      exact .renewed hdue hrefusal
    · rw [renew_of_refused hrefusal]
      exact .refused canvas bytes hdue hrefusal

variable {canvases : Canvases} {after : Scratch}

/-- Obtaining canvases leaves the limit of the host. -/
theorem Obtained.limit_eq (hobtained : scratch.Obtained geometry (.ok canvases) after) :
    after.limit = scratch.limit := by
  cases hobtained with
  | atHand => rfl
  | renewed => rfl

/-- Where canvases were obtained, none that was due was refused. -/
theorem Obtained.granted (hobtained : scratch.Obtained geometry (.ok canvases) after) :
    (if (geometry.dirty || !scratch.isAllocated) = true then refusal? scratch.limit geometry
      else none) = none := by
  cases hobtained with
  | atHand _ hcanvases hclean =>
    unfold isAllocated
    rw [hcanvases, hclean]
    rfl
  | renewed hdue hrefusal =>
    rw [if_pos hdue]
    exact hrefusal

end Scratch

end FramePath
