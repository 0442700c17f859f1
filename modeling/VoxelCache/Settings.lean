import VoxelCache.Fault
import VoxelCache.Space
import VoxelCache.Word

/-!
# Settings of a viewer

Settings are fixed when a viewer starts.  `Settings.check` refuses settings that
no viewer can run with; the first setting out of range is reported.
-/

namespace VoxelCache

section Settings

/-- How readily coarser data stands in for missing data. -/
inductive LoadingStrategy where
  /-- Only data one zoom step coarser stands in. -/
  | bestQualityFirst
  /-- Data up to three zoom steps coarser stands in. -/
  | progressiveQuality
deriving DecidableEq

namespace LoadingStrategy

def maxZoomStepDiff : LoadingStrategy → Nat
  | bestQualityFirst => 1
  | progressiveQuality => 3

/-- The name in a settings file. -/
def key : LoadingStrategy → String
  | bestQualityFirst => "best_quality_first"
  | progressiveQuality => "progressive_quality"

/-- The name in the journal. -/
def title : LoadingStrategy → String
  | bestQualityFirst => "BestQualityFirst"
  | progressiveQuality => "ProgressiveQuality"

def ofKey? (s : String) : Option LoadingStrategy :=
  if s = "best_quality_first" then some bestQualityFirst
  else if s = "progressive_quality" then some progressiveQuality
  else none

end LoadingStrategy

/-- Settings that help to find faults. -/
structure Debugging where
  /-- Mark buckets as shown while they are resident. -/
  visualize : Bool
  /-- Show only coarser data, at most this many zoom steps coarser. -/
  enforcedZoomDiff : Option Nat
deriving DecidableEq

namespace Debugging

def standard : Debugging :=
  ⟨false, none⟩

end Debugging

/-- Settings of a viewer. -/
structure Settings where
  /-- Edge of the square look-up texture. -/
  lookUpWidth : Nat
  /-- Extent of the addresses that the look-up texture covers. -/
  addressSpace : Vec3 Nat
  /-- Time for committing buckets in one frame, in milliseconds. -/
  commitMillis : Nat
  strategy : LoadingStrategy
  /-- Buckets that the textures of a layer must hold. -/
  requiredCapacity : Nat
  /-- Radius of the cap on which the screen is projected. -/
  capRadius : Float
  debugging : Debugging

namespace Settings

def standard : Settings where
  lookUpWidth := 64
  addressSpace := ⟨16, 16, 16⟩
  commitMillis := 16
  strategy := .bestQualityFirst
  requiredCapacity := 4096
  capRadius := 140
  debugging := .standard

/-- Entries of the look-up texture. -/
def lookUpEntries (c : Settings) : Nat :=
  c.lookUpWidth * c.lookUpWidth

/-- Addresses of the address space. -/
def addressSpaceSize (c : Settings) : Nat :=
  c.addressSpace.x * c.addressSpace.y * c.addressSpace.z

/-- Entries that the address space takes up, counted in a 64-bit word. -/
def addressSpaceEntries (c : Settings) : Nat :=
  c.addressSpaceSize % longModulus

/-- How many zoom steps coarser data may be that stands in. -/
def maxZoomStepDiff (c : Settings) : Nat :=
  c.debugging.enforcedZoomDiff.getD c.strategy.maxZoomStepDiff

/-- Time for committing buckets in one frame, in nanoseconds. -/
def commitNanos (c : Settings) : Nat :=
  c.commitMillis * 1000000

/-- The first setting that is out of range. -/
def fault? (c : Settings) : Option SettingFault :=
  if c.lookUpWidth = 0 then
    some .lookUpWidthZero
  else if c.addressSpace.x = 0 ∨ c.addressSpace.y = 0 ∨ c.addressSpace.z = 0 then
    some .addressSpaceZero
  else if c.lookUpEntries < c.addressSpaceEntries then
    some .addressSpaceTooLarge
  else if c.commitMillis = 0 then
    some .commitTimeZero
  else if c.capRadius > 0 then
    none
  else
    some .capRadiusNotPositive

/-- Accept settings that a viewer can run with. -/
def check (c : Settings) : Except Fault Settings :=
  match c.fault? with
  | some cause => .error (.setting cause)
  | none => .ok c

theorem check_eq_ok_iff {c : Settings} :
    c.check = .ok c ↔ c.fault? = none := by
  unfold check
  split
  · rename_i cause hcause
    rw [hcause]
    constructor <;> intro h <;> cases h
  · rename_i hnone
    exact iff_of_true rfl hnone

end Settings

end Settings

end VoxelCache
