import FramePath.FrameError
import FramePath.PixelFormat

/-!
# What can go wrong on the way to a surface

The causes that concern a surface or its consumer, and those of the frame itself.
-/

namespace FramePath

/-- Why a surface, a stream description or a frame was refused on the way to a surface. -/
inductive DisplayError where
  /-- The object offered as a surface cannot show pictures. -/
  | incompatibleSurface
  /-- The host does not start the consumer that should take the frame, and says why. -/
  | consumerUnavailable (cause : String)
  /-- The consumer that should take the frame has failed. -/
  | consumerGone
  /-- A surface takes packed frames of the agreed format only. -/
  | unsupportedFormat (format : PixelFormat)
  /-- The frame or the description is at fault. -/
  | frame (cause : FrameError)
  deriving DecidableEq, Repr

/-- The error in words. -/
def DisplayError.message : DisplayError → String
  | incompatibleSurface => "object is not an image-bearing surface"
  | consumerUnavailable cause => "failed to start delivery consumer: " ++ cause
  | consumerGone => "delivery consumer has exited"
  | unsupportedFormat format => "unsupported surface format " ++ format.name
  | frame cause => cause.message

end FramePath
