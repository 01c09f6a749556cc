/-!
# Rendering backends

Some backends give a surface a backing buffer that can be written in place; on the others a surface
reads a frame's own memory. Backends are told by name, whatever the case of its ASCII letters.
-/

namespace FramePath

namespace Backend

/-- The backends whose surfaces have a backing buffer to write to. -/
def writable : List String := ["software_x11", "software_gdi", "software_generic", "buffer"]

/-- The characters of a name with ASCII capitals made small. -/
def folded (name : String) : List Char := name.toList.map Char.toLower

/-- Whether two names agree apart from the case of ASCII letters. -/
def sameName (a b : String) : Bool := folded a == folded b

/-- Whether the backend of this name lets a frame be copied straight into a surface's pixels. -/
def supportsZeroCopy (name : String) : Bool := writable.any (sameName name)

end Backend

end FramePath
