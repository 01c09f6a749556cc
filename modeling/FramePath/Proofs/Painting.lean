import FramePath.Bytes
import FramePath.FrameError

/-!
# Painting step by step

The transforms are functions that give a painted canvas or an error. A caller sees something else: a canvas of its own,
which is written to in place and stays with it whatever the answer is. A `Painting` is such a call, step by step, and
`Painting.on` is what it answers and leaves; that a transform refuses before it writes is then a fact about its steps.
-/

namespace FramePath

/-- What paints a canvas in place, and may be refused on the way. -/
abbrev Painting (α : Type) : Type := ExceptT FrameError (StateM Bytes) α

namespace Painting

variable {α : Type}

/-- The answer, and the canvas as it is left. -/
def on (painting : Painting α) (canvas : Bytes) : Except FrameError α × Bytes := painting.run.run canvas

/-- Refuse a canvas without room for so many bytes. -/
def demand (bytes : Nat) : Painting Unit := do
  let canvas ← get
  if canvas.size < bytes then throw (.bufferTooSmall bytes canvas.size)

/-- A canvas without room stays, and any other is painted by what follows. -/
theorem on_demand (bytes : Nat) (next : Unit → Painting α) (canvas : Bytes) :
    (demand bytes >>= next).on canvas =
      if canvas.size < bytes then (.error (.bufferTooSmall bytes canvas.size), canvas)
      else (next ()).on canvas := by
  show on (ite _ _ _ >>= next) canvas = _
  split <;> rfl

end Painting

end FramePath
