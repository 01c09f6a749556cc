import FramePath.Backend
import FramePath.Envelope
import FramePath.Placement

/-!
# Surfaces

A surface belongs to somebody else; a presenter calls it, and it tells its listeners when its size
changes or when it is destroyed. This surface writes down every call it gets, with the latest first.
Six of the calls have a call point, where the caller may stand for a time or fail.
-/

namespace FramePath

/-- The kinds of call points of a surface. -/
inductive SurfacePoint where
  /-- The surface is asked for the size of its pixel buffer. -/
  | query
  | size
  | lend
  | write
  | dirty
  | visible
  deriving DecidableEq, Repr

/-- A call point of one of several surfaces, which is told by its place. -/
structure CallPoint where
  surface : Nat
  kind : SurfacePoint
  deriving DecidableEq, Repr

/-- A call that a surface got. -/
inductive SurfaceCall where
  /-- Many updates are to be expected. -/
  | hint
  /-- The pixel buffer gets a size. -/
  | size (size : Size)
  /-- The picture is placed on the surface. -/
  | fill (rect : FillRect)
  /-- The surface reads this frame's memory until another one replaces it. -/
  | lend (frame : SharedFrame)
  /-- There was no backing buffer to write this frame to. -/
  | noBacking (frame : SharedFrame)
  /-- This frame was copied into the backing buffer, which then held these bytes. -/
  | write (frame : SharedFrame) (backing : Bytes)
  /-- The backing buffer is to be shown anew. -/
  | dirty
  | visible (visible : Bool)
  | connect (listener : Nat)
  | disconnect (listener : Nat)
  deriving DecidableEq, Repr

/-- What a surface is, apart from its state. -/
structure SurfaceProfile where
  backend : String
  /-- Whether it can show pictures at all. -/
  isImage : Bool
  /-- It never gives its backing buffer out. -/
  withholdsBacking : Bool
  /-- It keeps its listeners when they ought to go. -/
  isSticky : Bool
  /-- It is destroyed as soon as somebody listens. -/
  destroyedOnConnect : Bool
  /-- It changes its size to this one when its pixel buffer gets a size. -/
  resizedOnSize : Option Size
  deriving DecidableEq, Repr

/-- Somebody who wants to hear from a surface: the place of a binding, and the epoch of the binding
for which it listens. -/
structure Listener where
  id : Nat
  owner : Nat
  epoch : Nat
  deriving DecidableEq, Repr

/-- A surface and the calls it got, the latest first. -/
structure Surface where
  profile : SurfaceProfile
  bufferSize : Option Size
  backing : Bytes
  listeners : List Listener
  nextListener : Nat
  log : List SurfaceCall
  deriving DecidableEq, Repr

namespace Surface

/-- Bytes of a backing buffer of this size. -/
def backingFor (size : Size) : Bytes := .blank (size.area * packedPixelBytes)

/-- A surface that was never called. Its pixel buffer may have a size already. -/
def new (profile : SurfaceProfile) (bufferSize : Option Size) : Surface :=
  { profile
    bufferSize
    backing := (bufferSize.map backingFor).getD #[]
    listeners := []
    nextListener := 1
    log := [] }

/-- Write a call down. -/
def record (call : SurfaceCall) (surface : Surface) : Surface :=
  { surface with log := call :: surface.log }

/-- Give the pixel buffer a size and a zeroed backing. -/
def allocate (size : Size) (surface : Surface) : Surface :=
  { surface with bufferSize := some size, backing := backingFor size }

/-- Whether there is a backing buffer to write to. -/
def isWritable (surface : Surface) : Bool :=
  !surface.profile.withholdsBacking && !surface.backing.isEmpty

/-- Copy as much of a frame's payload into the backing buffer as both have, and write it down. -/
def copyIn (frame : SharedFrame) (surface : Surface) : Surface :=
  let payload := frame.frame.payload
  let backing := surface.backing.overlay payload (min surface.backing.size payload.size)
  { surface with backing }.record (.write frame backing)

/-- Take a listener in, under an id that was never used on this surface. -/
def connect (owner epoch : Nat) (surface : Surface) : Nat × Surface :=
  let id := surface.nextListener
  let listener : Listener := ⟨id, owner, epoch⟩
  let connected := { surface with
    listeners := surface.listeners ++ [listener]
    nextListener := id + 1 }
  (id, connected.record (.connect id))

/-- Send a listener away, unless the surface keeps it. -/
def disconnect (id : Nat) (surface : Surface) : Surface :=
  let listeners :=
    if surface.profile.isSticky then surface.listeners
    else surface.listeners.filter (·.id != id)
  { surface with listeners }.record (.disconnect id)

/-- Take the listeners away from a destroyed surface, unless it keeps them. -/
def forget (surface : Surface) : Surface :=
  if surface.profile.isSticky then surface else { surface with listeners := [] }

end Surface

end FramePath
