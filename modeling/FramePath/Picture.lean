import FramePath.Bytes
import FramePath.Size

/-!
# Pictures

A size with the bytes of its pixels. Finished pictures are what consumers get; pictures are also what
is turned step by step.
-/

namespace FramePath

/-- Pixels and their size. -/
structure Picture where
  size : Size
  pixels : Bytes
  deriving DecidableEq

end FramePath
