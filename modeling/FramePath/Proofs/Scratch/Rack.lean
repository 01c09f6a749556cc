import FramePath.Proofs.Scratch
import Mathlib.Tactic.SplitIfs

/-!
# A rack of three canvases

A scratch holds all canvases or none, as it could hold nothing else. A `Rack` has a place for each canvas, and any of
the places may be empty: canvases are requested one after another, a later one may be refused when earlier ones are
granted, and each is written by itself. `run_rack` says that a rack goes through what a scratch does, whatever is done
to both.

No rack is ever partly filled. Writing changes no length (`sizes_write`), a renewal that is refused empties every place
and one that is granted fills all that the geometry needs (`renew_eq`), so in every run the lengths are those of nothing
or of the last geometry for which there was a renewal (`Stocked.run`). `all_or_nothing` puts this together.
-/

namespace FramePath

/-- The same canvases with every byte of one of them written anew, by its place and by what it was. -/
def Canvases.write (name : CanvasName) (colour : Nat → UInt8 → UInt8) (canvases : Canvases) : Canvases :=
  match name with
  | .converted => { canvases with converted := canvases.converted.mapIdx colour }
  | .rotated => { canvases with rotated := canvases.rotated.map (·.mapIdx colour) }
  | .resized => { canvases with resized := canvases.resized.mapIdx colour }

/-- Three places for canvases, each of which may be empty, and how often they were filled. -/
structure Rack where
  /-- Requests of this many bytes or more are refused. -/
  limit : Nat
  converted : Option Bytes
  rotated : Option Bytes
  resized : Option Bytes
  reallocations : Nat
  deriving DecidableEq

namespace Scratch

/-- What can be done to canvases. -/
inductive Act where
  | renew (geometry : Geometry)
  | release
  /-- Every byte of one canvas is written anew, by its place and by what it was. -/
  | write (name : CanvasName) (colour : Nat → UInt8 → UInt8)

/-- Do one act; without canvases there is nothing to write to. -/
def act (scratch : Scratch) : Act → Scratch
  | .renew geometry => (scratch.renew geometry).2
  | .release => scratch.release
  | .write name colour =>
    match scratch.canvases with
    | none => scratch
    | some canvases => scratch.keep (canvases.write name colour)

/-- Do several acts in order. -/
def run (acts : List Act) (scratch : Scratch) : Scratch := acts.foldl act scratch

/-- The canvases of a scratch in their places. -/
def rack (scratch : Scratch) : Rack where
  limit := scratch.limit
  converted := scratch.canvases.map Canvases.converted
  rotated := scratch.canvases.bind Canvases.rotated
  resized := scratch.canvases.map Canvases.resized
  reallocations := scratch.reallocations

end Scratch

namespace Rack

open Scratch (Act wordLimit)

variable {rack : Rack} {scratch : Scratch} {geometry : Geometry} {history : List Geometry}

/-- Nothing in any place yet. -/
def initial (limit : Nat) : Rack := ⟨limit, none, none, none, 0⟩

/-- Take away what is there. -/
def clear (rack : Rack) : Rack := { rack with converted := none, rotated := none, resized := none }

/-- A canvas of a size, all zero, if the host grants it. -/
def grant (limit : Nat) (name : CanvasName) (size : Size) : Except FrameError Bytes :=
  .blank <$> Scratch.request limit name size

/-- The canvases of a geometry, requested one after another until one is refused. -/
def order (limit : Nat) (geometry : Geometry) : Except FrameError (Bytes × Option Bytes × Bytes) := do
  let converted ← grant limit .converted geometry.source
  let rotated ← if geometry.angle = 0 then pure none else some <$> grant limit .rotated geometry.source
  let resized ← grant limit .resized geometry.output
  pure (converted, rotated, resized)

/-- Take away what is there and put fresh canvases in their places, if all are granted. -/
def renew (geometry : Geometry) (rack : Rack) : Except FrameError Unit × Rack :=
  match order rack.limit geometry with
  | .error cause => (.error cause, rack.clear)
  | .ok (converted, rotated, resized) =>
    (.ok (), ⟨rack.limit, some converted, rotated, some resized, rack.reallocations + 1⟩)

/-- The canvases to work on. The turned one may be missing, neither of the others may. -/
def canvases (rack : Rack) : Option Canvases :=
  match rack.converted, rack.resized with
  | some converted, some resized => some ⟨converted, rack.rotated, resized⟩
  | _, _ => none

/-- Whether there are canvases to work on. -/
def isAllocated (rack : Rack) : Bool := rack.converted.isSome && rack.resized.isSome

/-- Write to one of the canvases. -/
def write (name : CanvasName) (colour : Nat → UInt8 → UInt8) (rack : Rack) : Rack :=
  match rack.canvases with
  | none => rack
  | some canvases =>
    let written := canvases.write name colour
    { rack with converted := some written.converted, rotated := written.rotated, resized := some written.resized }

/-- Do one act. -/
def act (rack : Rack) : Act → Rack
  | .renew geometry => (rack.renew geometry).2
  | .release => rack.clear
  | .write name colour => rack.write name colour

/-- Do several acts in order. -/
def run (acts : List Act) (rack : Rack) : Rack := acts.foldl act rack

/-- The lengths of the canvases that are there. -/
def sizes (rack : Rack) : Option Nat × Option Nat × Option Nat :=
  (rack.converted.map Array.size, rack.rotated.map Array.size, rack.resized.map Array.size)

/-- The lengths that are reported, zero for an empty place. -/
def lengths (rack : Rack) : Nat × Nat × Nat :=
  (rack.sizes.1.getD 0, rack.sizes.2.1.getD 0, rack.sizes.2.2.getD 0)

/-- Bytes of the converted canvas of a geometry, and of the turned one. -/
def sourceBytes (geometry : Geometry) : Nat := 4 * geometry.source.columns * geometry.source.rows

/-- Bytes of the resized canvas of a geometry: a side that is not requested is the source's. -/
def outputBytes (geometry : Geometry) : Nat :=
  let side := fun requested source => if requested = 0 then source else requested
  4 * side geometry.requested.columns geometry.source.columns * side geometry.requested.rows geometry.source.rows

/-- The lengths of the canvases of a geometry. There is a turned one only if there is an angle. -/
def needs (geometry : Geometry) : Option Nat × Option Nat × Option Nat :=
  (some (sourceBytes geometry), if geometry.angle = 0 then none else some (sourceBytes geometry),
    some (outputBytes geometry))

/-- Whether a host refuses so many bytes: they reach its limit or do not fit in a word. -/
def Refuses (limit bytes : Nat) : Prop := limit ≤ bytes ∨ wordLimit ≤ bytes

instance (limit bytes : Nat) : Decidable (Refuses limit bytes) := inferInstanceAs (Decidable (_ ∨ _))

/-- The bytes that a refusal names: what was requested, or the largest word. -/
def reported (bytes : Nat) : Nat := if bytes < wordLimit then bytes else wordLimit - 1

/-- The geometry for which an act fills a rack, if it is a renewal that is granted. -/
def filledFor? (limit : Nat) : Act → Option Geometry
  | .renew geometry =>
    if Refuses limit (sourceBytes geometry) ∨ Refuses limit (outputBytes geometry) then none else some geometry
  | _ => none

/-- Nothing is there, and nothing is shown. -/
structure IsEmpty (rack : Rack) : Prop where
  converted : rack.converted = none
  rotated : rack.rotated = none
  resized : rack.resized = none
  lengths : rack.lengths = (0, 0, 0)
  canvases : rack.canvases = none
  unallocated : rack.isAllocated = false

/-- All is there that a geometry needs, and is shown. -/
structure IsFilledFor (geometry : Geometry) (rack : Rack) : Prop where
  converted : ∃ canvas, rack.converted = some canvas ∧ canvas.size = sourceBytes geometry
  rotated : if geometry.angle = 0 then rack.rotated = none
    else ∃ canvas, rack.rotated = some canvas ∧ canvas.size = sourceBytes geometry
  resized : ∃ canvas, rack.resized = some canvas ∧ canvas.size = outputBytes geometry
  lengths : rack.lengths =
    (sourceBytes geometry, if geometry.angle = 0 then 0 else sourceBytes geometry, outputBytes geometry)
  canvases : rack.canvases.isSome = true
  allocated : rack.isAllocated = true

/-- A scratch answers and shows what a rack does. -/
structure IsShownBy (scratch : Scratch) (rack : Rack) : Prop where
  places : scratch.rack = rack
  canvases : scratch.canvases = rack.canvases
  allocated : scratch.isAllocated = rack.isAllocated
  lengths : (scratch.convertedBytes, scratch.rotatedBytes, scratch.resizedBytes) = rack.lengths
  counted : scratch.reallocations = rack.reallocations
  answers : ∀ geometry, (scratch.renew geometry).1.map (fun _ => ()) = (rack.renew geometry).1

/-- Every byte of every canvas is zero. -/
def IsBlank (rack : Rack) : Prop :=
  ∀ canvas, (rack.converted = some canvas ∨ rack.rotated = some canvas ∨ rack.resized = some canvas) →
    ∀ place, canvas.byteAt place = 0

/-- After these geometries, for which a rack was filled, the lengths of its canvases are those of nothing or those for
the last of them. -/
structure Stocked (history : List Geometry) (rack : Rack) : Prop where
  counted : rack.reallocations = history.length
  sizes : rack.sizes = (none, none, none) ∨
    ∃ geometry, history.getLast? = some geometry ∧ rack.sizes = needs geometry

section Requests

/-- Four bytes for each pixel of the source. -/
theorem sourceBytes_eq (geometry : Geometry) :
    sourceBytes geometry = geometry.source.area * packedPixelBytes := by
  unfold sourceBytes Size.area packedPixelBytes
  rw [Nat.mul_assoc, Nat.mul_comm]

/-- A side of the output in pixels. -/
theorem toNat_side (requested source : UInt32) :
    (Geometry.side requested source).toNat = if requested.toNat = 0 then source.toNat else requested.toNat := by
  unfold Geometry.side
  by_cases hasked : requested = 0
  · rw [if_pos hasked, hasked]
    rfl
  · have hsome : requested.toNat ≠ 0 := fun hzero => hasked (UInt32.toNat_inj.1 hzero)
    rw [if_neg hasked, if_neg hsome]

/-- Four bytes for each pixel of the output. -/
theorem outputBytes_eq (geometry : Geometry) :
    outputBytes geometry = geometry.output.area * packedPixelBytes := by
  have hcolumns : geometry.output.columns = if geometry.requested.columns = 0 then geometry.source.columns
    else geometry.requested.columns := toNat_side _ _
  have hrows : geometry.output.rows = if geometry.requested.rows = 0 then geometry.source.rows
    else geometry.requested.rows := toNat_side _ _
  unfold outputBytes Size.area packedPixelBytes
  rw [hcolumns, hrows, Nat.mul_assoc, Nat.mul_comm]

/-- The first canvas that a host refuses, and the bytes that the refusal names. -/
theorem refusal_eq (limit : Nat) (geometry : Geometry) :
    Scratch.refusal? limit geometry =
      if Refuses limit (sourceBytes geometry) then some (.converted, reported (sourceBytes geometry))
      else if Refuses limit (outputBytes geometry) then some (.resized, reported (outputBytes geometry))
      else none := by
  have hrefuses (bytes : Nat) : min limit wordLimit ≤ bytes ↔ Refuses limit bytes := by
    unfold Refuses
    omega
  have hreported (bytes : Nat) : min bytes (wordLimit - 1) = reported bytes := by
    unfold reported
    split <;> omega
  unfold Scratch.refusal?
  simp only [← sourceBytes_eq, ← outputBytes_eq, hrefuses, hreported]

/-- The canvases of an order are those of the requests for the geometry, all zero. -/
theorem order_eq (limit : Nat) (geometry : Geometry) :
    order limit geometry = (Scratch.requests limit geometry).map fun (converted, rotated, resized) =>
      (.blank converted, rotated.map Bytes.blank, .blank resized) := by
  unfold order grant Scratch.requests
  cases Scratch.request limit .converted geometry.source with
  | error cause => rfl
  | ok converted =>
    by_cases hangle : geometry.angle = 0
    · simp only [if_pos hangle]
      cases Scratch.request limit .resized geometry.output with
      | error cause => rfl
      | ok resized => rfl
    · simp only [if_neg hangle]
      cases Scratch.request limit .rotated geometry.source with
      | error cause => rfl
      | ok rotated =>
        cases Scratch.request limit .resized geometry.output with
        | error cause => rfl
        | ok resized => rfl

/-- A renewal that is refused leaves every place empty, and one that is granted puts fresh canvases in all that the
geometry needs. -/
theorem renew_eq (geometry : Geometry) (rack : Rack) :
    rack.renew geometry =
      match Scratch.refusal? rack.limit geometry with
      | some (canvas, bytes) => (.error (.allocationFailed canvas bytes), rack.clear)
      | none => (.ok (), Scratch.rack ⟨rack.limit, some (.fresh geometry), rack.reallocations + 1⟩) := by
  unfold renew
  rw [order_eq, Scratch.requests_eq]
  rcases Scratch.refusal? rack.limit geometry with _ | ⟨canvas, bytes⟩
  · dsimp only [Except.map]
    unfold Scratch.rack Canvases.fresh
    by_cases hangle : geometry.angle = 0
    · simp only [if_pos hangle]
      rfl
    · simp only [if_neg hangle]
      rfl
  · rfl

end Requests

section Views

/-- The canvases to work on are found in their places. -/
theorem canvases_rack (scratch : Scratch) : scratch.rack.canvases = scratch.canvases := by
  unfold canvases Scratch.rack
  cases scratch.canvases with
  | none => rfl
  | some canvases => rfl

/-- There are canvases in a rack if there are in the scratch. -/
theorem isAllocated_rack (scratch : Scratch) : scratch.rack.isAllocated = scratch.isAllocated := by
  unfold isAllocated Scratch.isAllocated Scratch.rack
  cases scratch.canvases with
  | none => rfl
  | some canvases => rfl

/-- A rack reports the lengths that the scratch does. -/
theorem lengths_rack (scratch : Scratch) :
    scratch.rack.lengths = (scratch.convertedBytes, scratch.rotatedBytes, scratch.resizedBytes) := by
  unfold lengths sizes Scratch.rack Scratch.convertedBytes Scratch.rotatedBytes Scratch.resizedBytes
  cases scratch.canvases with
  | none => rfl
  | some canvases => rfl

/-- A renewal is answered alike, and leaves the same canvases in their places. -/
theorem renew_rack (geometry : Geometry) (scratch : Scratch) :
    scratch.rack.renew geometry =
      ((scratch.renew geometry).1.map fun _ => (), (scratch.renew geometry).2.rack) := by
  rw [renew_eq, show scratch.rack.limit = scratch.limit from rfl]
  rcases hrefusal : Scratch.refusal? scratch.limit geometry with _ | ⟨canvas, bytes⟩
  · rw [Scratch.renew_of_granted hrefusal]
    rfl
  · rw [Scratch.renew_of_refused hrefusal]
    rfl

/-- One act leaves the same canvases in their places. -/
theorem act_rack (scratch : Scratch) (act : Act) : scratch.rack.act act = (scratch.act act).rack := by
  cases act with
  | renew geometry => exact congrArg Prod.snd (renew_rack geometry scratch)
  | release => rfl
  | write name colour =>
    unfold Rack.act Scratch.act write
    dsimp only
    rw [canvases_rack]
    cases hcanvases : scratch.canvases with
    | none => rfl
    | some canvases => rfl

/-- So do several acts. -/
theorem run_rack (scratch : Scratch) (acts : List Act) : scratch.rack.run acts = (scratch.run acts).rack := by
  induction acts generalizing scratch with
  | nil => rfl
  | cons act acts ih =>
    show (scratch.rack.act act).run acts = _
    rw [act_rack]
    exact ih (scratch.act act)

/-- What a rack holds that has the canvases of a scratch, the scratch shows. -/
theorem isShownBy_rack (scratch : Scratch) : scratch.rack.IsShownBy scratch where
  places := rfl
  canvases := (canvases_rack scratch).symm
  allocated := (isAllocated_rack scratch).symm
  lengths := (lengths_rack scratch).symm
  counted := rfl
  answers geometry := (congrArg Prod.fst (renew_rack geometry scratch)).symm

end Views

section Lengths

/-- Writing to a canvas changes no length. -/
theorem sizes_write (rack : Rack) (name : CanvasName) (colour : Nat → UInt8 → UInt8) :
    (rack.write name colour).sizes = rack.sizes := by
  obtain ⟨limit, converted, rotated, resized, reallocations⟩ := rack
  unfold write canvases
  cases converted with
  | none => rfl
  | some converted =>
    cases resized with
    | none => rfl
    | some resized =>
      unfold sizes Canvases.write
      cases name with
      | converted => simp
      | rotated => cases rotated <;> simp
      | resized => simp

/-- Fresh canvases have the lengths that the geometry needs. -/
theorem sizes_fresh (limit reallocations : Nat) (geometry : Geometry) :
    (Scratch.rack ⟨limit, some (.fresh geometry), reallocations⟩).sizes = needs geometry := by
  unfold sizes needs Scratch.rack Canvases.fresh
  rw [sourceBytes_eq, outputBytes_eq]
  by_cases hangle : geometry.angle = 0
  · simp [hangle]
  · simp [hangle]

/-- Fresh canvases are blank. -/
theorem isBlank_fresh (limit reallocations : Nat) (geometry : Geometry) :
    (Scratch.rack ⟨limit, some (.fresh geometry), reallocations⟩).IsBlank := by
  rintro canvas (hcanvas | hcanvas | hcanvas) place
  · obtain rfl := Option.some.inj hcanvas
    exact Bytes.byteAt_blank _ place
  · change (if geometry.angle = 0 then none else some (Bytes.blank _)) = some canvas at hcanvas
    split_ifs at hcanvas with hangle
    obtain rfl := Option.some.inj hcanvas
    exact Bytes.byteAt_blank _ place
  · obtain rfl := Option.some.inj hcanvas
    exact Bytes.byteAt_blank _ place

/-- Where no place has a length, nothing is there. -/
theorem isEmpty_of_sizes (hsizes : rack.sizes = (none, none, none)) : rack.IsEmpty := by
  have hplaces := hsizes
  unfold sizes at hplaces
  simp only [Prod.mk.injEq, Option.map_eq_none_iff] at hplaces
  obtain ⟨hconverted, hrotated, hresized⟩ := hplaces
  refine ⟨hconverted, hrotated, hresized, ?_, ?_, ?_⟩
  · unfold lengths
    rw [hsizes]
    rfl
  · unfold canvases
    rw [hconverted]
  · unfold isAllocated
    rw [hconverted]
    rfl

/-- Where the lengths are those that a geometry needs, all is there. -/
theorem isFilledFor_of_sizes (hsizes : rack.sizes = needs geometry) : rack.IsFilledFor geometry := by
  have hplaces := hsizes
  unfold sizes needs at hplaces
  simp only [Prod.mk.injEq, Option.map_eq_some_iff] at hplaces
  obtain ⟨⟨converted, hconverted, hlong⟩, hrotated, ⟨resized, hresized, hlong'⟩⟩ := hplaces
  refine ⟨⟨converted, hconverted, hlong⟩, ?_, ⟨resized, hresized, hlong'⟩, ?_, ?_, ?_⟩
  · split_ifs with hangle
    · rw [if_pos hangle] at hrotated
      exact Option.map_eq_none_iff.1 hrotated
    · rw [if_neg hangle] at hrotated
      exact Option.map_eq_some_iff.1 hrotated
  · unfold lengths
    rw [hsizes]
    unfold needs
    by_cases hangle : geometry.angle = 0
    · simp [hangle]
    · simp [hangle]
  · unfold canvases
    rw [hconverted, hresized]
    rfl
  · unfold isAllocated
    rw [hconverted, hresized]
    rfl

end Lengths

section Runs

/-- A renewal and what it leaves: refused for the first canvas that the host does not grant, or granted. -/
theorem renewed (rack : Rack) (geometry : Geometry) :
    if Refuses rack.limit (sourceBytes geometry) then
      rack.renew geometry = (.error (.allocationFailed .converted (reported (sourceBytes geometry))), rack.clear)
    else if Refuses rack.limit (outputBytes geometry) then
      rack.renew geometry = (.error (.allocationFailed .resized (reported (outputBytes geometry))), rack.clear)
    else
      rack.renew geometry =
        (.ok (), Scratch.rack ⟨rack.limit, some (.fresh geometry), rack.reallocations + 1⟩) := by
  rw [renew_eq, refusal_eq]
  split_ifs
  · rfl
  · rfl
  · rfl

/-- Writing changes neither the limit of the host nor how often the places were filled. -/
theorem write_rest (rack : Rack) (name : CanvasName) (colour : Nat → UInt8 → UInt8) :
    (rack.write name colour).limit = rack.limit ∧
      (rack.write name colour).reallocations = rack.reallocations := by
  unfold write
  cases rack.canvases with
  | none => exact ⟨rfl, rfl⟩
  | some canvases => exact ⟨rfl, rfl⟩

/-- No act changes the limit of the host. -/
theorem limit_act (rack : Rack) (act : Act) : (rack.act act).limit = rack.limit := by
  cases act with
  | renew geometry =>
    unfold Rack.act
    dsimp only
    rw [renew_eq]
    cases Scratch.refusal? rack.limit geometry with
    | none => rfl
    | some refusal => rfl
  | release => rfl
  | write name colour => exact (write_rest rack name colour).1

/-- A rack without canvases is stocked. -/
theorem Stocked.cleared (hstocked : Stocked history rack) : Stocked history rack.clear :=
  ⟨hstocked.counted, .inl rfl⟩

/-- A renewal leaves a rack stocked, for its own geometry if it is granted. -/
theorem Stocked.renewed (hstocked : Stocked history rack) (geometry : Geometry) :
    Stocked (history ++ (filledFor? rack.limit (.renew geometry)).toList) (rack.renew geometry).2 := by
  have hrenewed := Rack.renewed rack geometry
  unfold filledFor?
  by_cases hrefused : Refuses rack.limit (sourceBytes geometry) ∨ Refuses rack.limit (outputBytes geometry)
  · have hcleared : (rack.renew geometry).2 = rack.clear := by
      split_ifs at hrenewed with hsource houtput
      · exact congrArg Prod.snd hrenewed
      · exact congrArg Prod.snd hrenewed
      · exact absurd hrefused (not_or.2 ⟨hsource, houtput⟩)
    dsimp only
    rw [if_pos hrefused, hcleared, Option.toList_none, List.append_nil]
    exact hstocked.cleared
  · obtain ⟨hsource, houtput⟩ := not_or.1 hrefused
    rw [if_neg hsource, if_neg houtput] at hrenewed
    dsimp only
    rw [if_neg hrefused, hrenewed, Option.toList_some]
    refine ⟨?_, .inr ⟨geometry, List.getLast?_concat, sizes_fresh _ _ _⟩⟩
    rw [List.length_append]
    exact congrArg (· + 1) hstocked.counted

/-- One act leaves a rack stocked. -/
theorem Stocked.act (hstocked : Stocked history rack) (act : Act) :
    Stocked (history ++ (filledFor? rack.limit act).toList) (rack.act act) := by
  cases act with
  | renew geometry => exact hstocked.renewed geometry
  | release =>
    rw [show filledFor? rack.limit .release = none from rfl, Option.toList_none, List.append_nil]
    exact hstocked.cleared
  | write name colour =>
    rw [show filledFor? rack.limit (.write name colour) = none from rfl, Option.toList_none, List.append_nil]
    refine ⟨(write_rest rack name colour).2.trans hstocked.counted, ?_⟩
    show (rack.write name colour).sizes = _ ∨ ∃ geometry, _ ∧ (rack.write name colour).sizes = _
    rw [sizes_write]
    exact hstocked.sizes

/-- Several acts leave a rack stocked. -/
theorem Stocked.run (hstocked : Stocked history rack) (acts : List Act) :
    Stocked (history ++ acts.filterMap (filledFor? rack.limit)) (rack.run acts) := by
  induction acts generalizing history rack with
  | nil =>
    rw [List.filterMap_nil, List.append_nil]
    exact hstocked
  | cons act acts ih =>
    have hlater := ih (hstocked.act act)
    have hfirst : (act :: acts).filterMap (filledFor? rack.limit) =
        (filledFor? rack.limit act).toList ++ acts.filterMap (filledFor? rack.limit) := by
      rw [List.filterMap_cons]
      cases filledFor? rack.limit act with
      | none => rfl
      | some geometry => rfl
    rw [limit_act, List.append_assoc, ← hfirst] at hlater
    exact hlater

/-- No run changes the limit of the host. -/
theorem limit_run (rack : Rack) (acts : List Act) : (rack.run acts).limit = rack.limit := by
  induction acts generalizing rack with
  | nil => rfl
  | cons act acts ih => exact (ih (rack.act act)).trans (limit_act rack act)

/-- A rack is stocked in every reachable state. -/
theorem stocked_run (limit : Nat) (acts : List Act) :
    Stocked (acts.filterMap (filledFor? limit)) ((initial limit).run acts) :=
  have hinitial : Stocked [] (initial limit) := ⟨rfl, .inl rfl⟩
  hinitial.run acts

end Runs

section Fills

/-- Setting every byte of a buffer is writing it anew by a rule that says the same of every place. -/
theorem filledWith_eq_mapIdx (bytes : Bytes) (value : UInt8) :
    bytes.filledWith value = bytes.mapIdx fun _ _ => value := by
  refine Array.ext (by rw [Bytes.size_filledWith, Array.size_mapIdx]) fun place _ _ => ?_
  rw [Array.getElem_mapIdx]
  exact Array.getElem_replicate _

/-- Setting every byte of each canvas is writing to one after another. -/
theorem fill_eq_run (scratch : Scratch) (converted rotated resized : UInt8) :
    scratch.fill converted rotated resized =
      scratch.run [.write .converted fun _ _ => converted, .write .rotated fun _ _ => rotated,
        .write .resized fun _ _ => resized] := by
  obtain ⟨limit, canvases, reallocations⟩ := scratch
  cases canvases with
  | none => rfl
  | some canvases =>
    unfold Scratch.fill Canvases.filledWith
    simp only [filledWith_eq_mapIdx, Option.map_some]
    rfl

/-- Setting every byte of each canvas changes no length. -/
theorem sizes_fill (scratch : Scratch) (converted rotated resized : UInt8) :
    (scratch.fill converted rotated resized).rack.sizes = scratch.rack.sizes := by
  rw [fill_eq_run, ← run_rack]
  exact (sizes_write _ _ _).trans ((sizes_write _ _ _).trans (sizes_write _ _ _))

end Fills

/-- A rack is all or nothing, whatever is done to it and whatever the limit of the host, and a scratch shows just what
a rack does. Nothing is there, and nothing is shown; or all is there that was needed by the last geometry for which
the rack was filled, with the turned canvas only if there is an angle. Writing changes no length. A renewal is refused
exactly if the host does not grant the converted or the resized canvas, and for the first of these, with its bytes or
the largest word; then nothing is there. Otherwise all is there that the geometry needs, every byte is zero, and the
renewal is counted. -/
theorem all_or_nothing (limit : Nat) (acts : List Act) :
    let scratch := (Scratch.initial limit).run acts
    let rack := (initial limit).run acts
    let filled := acts.filterMap (filledFor? limit)
    rack.IsShownBy scratch ∧
    rack.reallocations = filled.length ∧
    (rack.IsEmpty ∨ ∃ geometry, filled.getLast? = some geometry ∧ rack.IsFilledFor geometry) ∧
    (∀ name colour, (rack.write name colour).sizes = rack.sizes) ∧
    (∀ converted rotated resized, (scratch.fill converted rotated resized).rack.sizes = rack.sizes) ∧
    ∀ geometry,
      let after := (rack.renew geometry).2
      if Refuses limit (sourceBytes geometry) then
        (rack.renew geometry).1 = .error (.allocationFailed .converted (reported (sourceBytes geometry))) ∧
          after.IsEmpty ∧ after.reallocations = rack.reallocations
      else if Refuses limit (outputBytes geometry) then
        (rack.renew geometry).1 = .error (.allocationFailed .resized (reported (outputBytes geometry))) ∧
          after.IsEmpty ∧ after.reallocations = rack.reallocations
      else
        (rack.renew geometry).1 = .ok () ∧ after.IsFilledFor geometry ∧ after.IsBlank ∧
          after.reallocations = rack.reallocations + 1 := by
  have hshown : (initial limit).run acts = ((Scratch.initial limit).run acts).rack :=
    run_rack (.initial limit) acts
  have hlimit : ((initial limit).run acts).limit = limit := limit_run (initial limit) acts
  have hstocked := stocked_run limit acts
  refine ⟨hshown ▸ isShownBy_rack _, hstocked.counted, ?_, sizes_write _, ?_, fun geometry => ?_⟩
  · rcases hstocked.sizes with hempty | ⟨geometry, hlast, hfilled⟩
    · exact .inl (isEmpty_of_sizes hempty)
    · exact .inr ⟨geometry, hlast, isFilledFor_of_sizes hfilled⟩
  · rw [hshown]
    exact sizes_fill _
  · have hrenewed := renewed ((initial limit).run acts) geometry
    rw [hlimit] at hrenewed
    dsimp only
    split_ifs at hrenewed ⊢ with hsource houtput
    · rw [hrenewed]
      exact ⟨rfl, isEmpty_of_sizes rfl, rfl⟩
    · rw [hrenewed]
      exact ⟨rfl, isEmpty_of_sizes rfl, rfl⟩
    · rw [hrenewed]
      exact ⟨rfl, isFilledFor_of_sizes (sizes_fresh _ _ _), isBlank_fresh _ _ _, rfl⟩

/-- On a host that refuses 2^47 bytes, an output of just as many is refused when the converted canvas is granted
already, and of a source that has more bytes than a word can count the largest word is reported. Nothing is left. -/
example :
    let rack := (initial 0x800000000000).run [.renew ⟨⟨2, 2⟩, ⟨3, 0⟩, 90, true⟩]
    rack.sizes = (some 16, some 16, some 24) ∧
      rack.renew ⟨⟨2, 2⟩, ⟨0x1000000, 0x200000⟩, 0, true⟩ =
        (.error (.allocationFailed .resized 0x800000000000), rack.clear) ∧
      rack.renew ⟨⟨0xffffffff, 0xffffffff⟩, ⟨1, 1⟩, 0, true⟩ =
        (.error (.allocationFailed .converted 0xffffffffffffffff), rack.clear) :=
  ⟨rfl, rfl, rfl⟩

end Rack

end FramePath
