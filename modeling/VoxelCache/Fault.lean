/-!
# Faults

Everything that can stop an operation of the cache, by cause.  A capability
that is merely degraded is no fault; it is part of a texture plan.

`Fault.message` is the only place where faults are put into words.
-/

namespace VoxelCache

section Fault

/-- Why a texture cannot be laid out. -/
inductive LayoutFault where
  /-- Only one, two or four voxels fit into a texel. -/
  | packing (degree : Nat)
  /-- Texture rows must divide a packed bucket. -/
  | ragged (packedBucket width : Nat)
  /-- A bucket must not be taller than its texture. -/
  | tooTall (rows width : Nat)
  | outOfMemory
deriving DecidableEq

/-- Why a texture rejects a write. -/
inductive UpdateFault where
  | length (expected given : Nat)
  | outOfBounds (x y width height textureWidth : Nat)
  | deviceLost
deriving DecidableEq

/-- Settings that can be out of range. -/
inductive SettingFault where
  | lookUpWidthZero
  | addressSpaceZero
  | addressSpaceTooLarge
  | commitTimeZero
  | capRadiusNotPositive
deriving DecidableEq

/-- Why a file cannot be read as text. -/
inductive FileFault where
  | notFound
  | notADirectory
  | isADirectory
  | denied
  | nameTooLong
  | nulInName
  | notUtf8
deriving DecidableEq

/-- A cause that stops an operation. -/
inductive Fault where
  | noAdapter
  | belowMinimum (size units leastSize leastUnits : Nat)
  | capacityExhausted (capacity requested : Nat)
  | zoomStep (zoomStep available : Nat)
  | layout (cause : LayoutFault)
  | texel (channels : Nat)
  | update (cause : UpdateFault)
  | setting (cause : SettingFault)
  | settingsText
  | file (path : String) (cause : FileFault)
deriving DecidableEq

namespace LayoutFault

def message : LayoutFault → String
  | packing degree => s!"packing degree {degree} is not 1, 2 or 4"
  | ragged packedBucket width =>
      s!"packed bucket size {packedBucket} is not a multiple of texture width {width}"
  | tooTall rows width =>
      s!"a bucket needs {rows} rows but the texture only has {width}"
  | outOfMemory => "out of memory"

end LayoutFault

namespace UpdateFault

def message : UpdateFault → String
  | length expected given => s!"expected {expected} bytes, got {given}"
  | outOfBounds x y width height textureWidth =>
      s!"rectangle {width}x{height} at ({x}, {y}) exceeds texture of width {textureWidth}"
  | deviceLost => "device lost"

end UpdateFault

namespace SettingFault

/-- The setting that is out of range. -/
def field : SettingFault → String
  | lookUpWidthZero => "look_up_texture_width"
  | addressSpaceZero => "address_space_dimensions"
  | addressSpaceTooLarge => "address_space_dimensions"
  | commitTimeZero => "max_commit_time_ms"
  | capRadiusNotPositive => "sphere_cap_radius"

def reason : SettingFault → String
  | addressSpaceTooLarge => "address space does not fit into the look-up texture"
  | _ => "must be positive"

end SettingFault

namespace FileFault

def message : FileFault → String
  | notFound => "No such file or directory (os error 2)"
  | notADirectory => "Not a directory (os error 20)"
  | isADirectory => "Is a directory (os error 21)"
  | denied => "Permission denied (os error 13)"
  | nameTooLong => "File name too long (os error 36)"
  | nulInName => "file name contained an unexpected NUL byte"
  | notUtf8 => "stream did not contain valid UTF-8"

end FileFault

namespace Fault

/-- The wording of a fault. -/
def message : Fault → String
  | noAdapter => "GPU capabilities could not be queried: no GPU adapter available"
  | belowMinimum size units leastSize leastUnits =>
      s!"Minimum spec is not met: GPU supports texture size {size} and {units} textures " ++
        s!"(need {leastSize} and {leastUnits})"
  | capacityExhausted capacity requested =>
      "A new bucket should be stored but there is no space for it " ++
        s!"(capacity {capacity}, requested {requested})"
  | zoomStep step available =>
      s!"Zoom step {step} is not available ({available} resolutions)"
  | layout cause => "Invalid texture layout: " ++ cause.message
  | texel channels => s!"Unsupported texel layout: {channels} channels"
  | update cause => "Texture update failed: " ++ cause.message
  | setting cause => "Invalid config: " ++ cause.field ++ " (" ++ cause.reason ++ ")"
  | settingsText => "Config parse error"
  | file path cause => "IO error for " ++ path ++ ": " ++ cause.message

/-- The fault behind a fault, where there is one. -/
def cause? : Fault → Option String
  | file _ cause => some cause.message
  | _ => none

end Fault

end Fault

end VoxelCache
