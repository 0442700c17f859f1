import VoxelCache.Bucket
import VoxelCache.Settings.Reader
import VoxelCache.TexturePlan

/-!
# The demonstration flight

A flight through a synthetic volume, as a program: it reads its settings, asks
for a graphics adapter, and flies.  A program without an adapter ends where it
asks for one.

The synthetic volume has stripes that change with the position of a bucket.
-/

namespace VoxelCache

section Demonstration

namespace Demonstration

/-- The low byte of an integer. -/
def lowByte (n : Int) : UInt8 :=
  (n % 256).toNat.toUInt8

/-- The payload of a bucket of the synthetic volume. -/
def stripes (a : Address) : Payload :=
  let seed := lowByte a.x ^^^ lowByte a.y ^^^ lowByte a.z
  ⟨Array.ofFn fun voxel : Fin bucketVoxels => seed + (voxel.val / bucketEdge).toUInt8⟩

/-- What a program leaves behind when it ends. -/
structure Ending where
  exitCode : Nat
  output : String
  errors : String
deriving DecidableEq

/-- A text whose lines after the first begin with a margin. -/
def hangingLines (margin : Nat) (text : String) : String :=
  String.ofList (text.toList.flatMap fun c =>
    if c = '\n' then c :: List.replicate margin ' ' else [c])

/-- The causes behind a fault, each under its own margin, numbered if there are several. -/
def describeCauses : List String → String
  | [] => ""
  | [cause] => "\n\nCaused by:\n    " ++ hangingLines 4 cause
  | causes =>
      "\n\nCaused by:" ++
        String.join (causes.mapIdx fun n cause => s!"\n    {n}: " ++ hangingLines 7 cause)

/-- End because of a failure with some causes behind it. -/
def failed (failure : String) (causes : List String) : Ending :=
  ⟨1, "", "Error: " ++ failure ++ describeCauses causes ++ "\n"⟩

/-- End because the settings cannot be loaded. -/
def failedToLoad (path : String) (fault : Fault) : Ending :=
  failed ("loading " ++ path) (fault.message :: fault.cause?.toList)

/-- The settings of a flight: those of a file, if there is one. -/
def settings (file : Option (String × Except FileFault ByteArray)) :
    Except Ending Settings :=
  match file with
  | none => .ok .standard
  | some (path, content) =>
      match (Settings.ofFile path content).1 with
      | .ok settings => .ok settings
      | .error fault => .error (failedToLoad path fault)

/-- The program, on a system without a graphics adapter. -/
def withoutAdapter (file : Option (String × Except FileFault ByteArray)) : Ending :=
  match settings file with
  | .error ending => ending
  | .ok _ =>
      match DeviceLimits.ofAdapter none with
      | .error fault => failed fault.message []
      | .ok _ => ⟨0, "", ""⟩

end Demonstration

end Demonstration

end VoxelCache
