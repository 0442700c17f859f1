import VoxelCache.Demonstration

/-!
# The command line

`main` flies through the synthetic volume with the settings of the file that the
first argument names, or with standard settings.
-/

namespace VoxelCache

section Main

/-- The number of a system error, whichever sign it is reported with. -/
def errorNumber (code : UInt32) : Nat :=
  min code.toNat (-code).toNat

/-- What kept the system from reading a file. -/
def fileFaultOf : IO.Error → FileFault
  | .inappropriateType _ code _ =>
      if errorNumber code = 20 then .notADirectory else .isADirectory
  | .invalidArgument _ code _ =>
      if errorNumber code = 36 then .nameTooLong else .nulInName
  | .permissionDenied _ _ _ => .denied
  | _ => .notFound

/-- Read a file. -/
def readSettingsFile (path : String) : IO (Except FileFault ByteArray) := do
  try
    return .ok (← IO.FS.readBinFile path)
  catch e =>
    return .error (fileFaultOf e)

end Main

end VoxelCache

def main (arguments : List String) : IO UInt32 := do
  let file ←
    match arguments with
    | [] => pure none
    | path :: _ => pure (some (path, ← VoxelCache.readSettingsFile path))
  let ending := VoxelCache.Demonstration.withoutAdapter file
  IO.print ending.output
  IO.eprint ending.errors
  return ending.exitCode.toUInt32
