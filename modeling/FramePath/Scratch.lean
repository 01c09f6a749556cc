import FramePath.Bytes
import FramePath.FrameError
import FramePath.Geometry
import FramePath.PixelFormat

/-!
# Scratch canvases

The pipeline works on three canvases of packed pixels: the converted picture, the turned one, which
exists only if there is an angle, and the resized one. They are requested together for a geometry
and given back together, so a scratch is either empty or holds all that its geometry needs. How large
a request may be is a matter of the host, and a scratch knows that limit from the start.
-/

namespace FramePath

/-- Canvases for one geometry. -/
structure Canvases where
  converted : Bytes
  rotated : Option Bytes
  resized : Bytes
  deriving DecidableEq

namespace Canvases

/-- The same canvases with every byte of each set to one value. -/
def filledWith (canvases : Canvases) (converted rotated resized : UInt8) : Canvases :=
  ⟨canvases.converted.filledWith converted, canvases.rotated.map (·.filledWith rotated),
    canvases.resized.filledWith resized⟩

/-- Length of the turned canvas, zero if there is none. -/
def rotatedBytes (canvases : Canvases) : Nat := (canvases.rotated.map Array.size).getD 0

end Canvases

/-- The canvases, if there are any, and how often new ones were made. -/
structure Scratch where
  /-- Requests of this many bytes or more are refused. -/
  limit : Nat
  canvases : Option Canvases
  reallocations : Nat
  deriving DecidableEq

namespace Scratch

/-- No canvases yet. -/
def initial (limit : Nat) : Scratch := ⟨limit, none, 0⟩

/-- The limit of a host that sets no other. -/
def defaultLimit : Nat := 0x80000000

/-- Byte counts are 64-bit words. -/
def wordLimit : Nat := 0x10000000000000000

/-- The byte count of a canvas, if the request for it is granted. A count that does not fit in a word
is reported as the largest word. -/
def request (limit : Nat) (name : CanvasName) (size : Size) : Except FrameError Nat :=
  let bytes := size.area * packedPixelBytes
  if wordLimit ≤ bytes then .error (.allocationFailed name (wordLimit - 1))
  else if limit ≤ bytes then .error (.allocationFailed name bytes)
  else .ok bytes

/-- Byte counts of all canvases for a geometry, or the first refusal. The turned canvas is as large
as the converted one. -/
def requests (limit : Nat) (geometry : Geometry) :
    Except FrameError (Nat × Option Nat × Nat) := do
  let converted ← request limit .converted geometry.source
  let rotated ← if geometry.angle = 0 then pure none
    else some <$> request limit .rotated geometry.source
  let resized ← request limit .resized geometry.output
  pure (converted, rotated, resized)

/-- Give all canvases back. -/
def release (scratch : Scratch) : Scratch := { scratch with canvases := none }

/-- Whether there are canvases. -/
def isAllocated (scratch : Scratch) : Bool := scratch.canvases.isSome

/-- Give the canvases back and request fresh ones, all zero, for a geometry. After a refusal there
are none. -/
def renew (scratch : Scratch) (geometry : Geometry) : Except FrameError Canvases × Scratch :=
  match requests scratch.limit geometry with
  | .error cause => (.error cause, scratch.release)
  | .ok (converted, rotated, resized) =>
      let canvases : Canvases := ⟨.blank converted, rotated.map Bytes.blank, .blank resized⟩
      (.ok canvases, ⟨scratch.limit, some canvases, scratch.reallocations + 1⟩)

/-- The canvases for a frame that goes by this geometry: those at hand, unless the geometry changed
since they were made or there are none. -/
def obtain (scratch : Scratch) (geometry : Geometry) : Except FrameError Canvases × Scratch :=
  match scratch.canvases, geometry.dirty with
  | some canvases, false => (.ok canvases, scratch)
  | _, _ => scratch.renew geometry

/-- Put canvases back after work on them. -/
def keep (scratch : Scratch) (canvases : Canvases) : Scratch :=
  { scratch with canvases := some canvases }

/-- Set every byte of each canvas; without canvases there is nothing to set. -/
def fill (scratch : Scratch) (converted rotated resized : UInt8) : Scratch :=
  { scratch with canvases := scratch.canvases.map (·.filledWith converted rotated resized) }

/-- Length of the converted canvas, zero if there is none. -/
def convertedBytes (scratch : Scratch) : Nat :=
  (scratch.canvases.map fun canvases => canvases.converted.size).getD 0

/-- Length of the turned canvas, zero if there is none. -/
def rotatedBytes (scratch : Scratch) : Nat :=
  (scratch.canvases.map Canvases.rotatedBytes).getD 0

/-- Length of the resized canvas, zero if there is none. -/
def resizedBytes (scratch : Scratch) : Nat :=
  (scratch.canvases.map fun canvases => canvases.resized.size).getD 0

end Scratch

end FramePath
