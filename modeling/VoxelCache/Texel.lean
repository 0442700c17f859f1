import VoxelCache.Fault

/-!
# Texels

A texel has one to sixteen byte channels or one to four single-precision
channels.  Texels are stored in the narrowest format that holds their channels,
and what the channels leave over is zero.
-/

namespace VoxelCache

section Texel

/-- Type of one channel of a texel. -/
inductive Component where
  | byte
  | single
deriving DecidableEq

namespace Component

/-- Bytes of one channel. -/
def bytes : Component → Nat
  | byte => 1
  | single => 4

end Component

/-- Formats in which texels are stored. -/
inductive TexelFormat where
  | r8Unorm
  | rg8Unorm
  | rgba8Unorm
  | rgba16Uint
  | rgba32Uint
  | r32Float
  | rg32Float
  | rgba32Float
deriving DecidableEq

namespace TexelFormat

def name : TexelFormat → String
  | r8Unorm => "R8Unorm"
  | rg8Unorm => "Rg8Unorm"
  | rgba8Unorm => "Rgba8Unorm"
  | rgba16Uint => "Rgba16Uint"
  | rgba32Uint => "Rgba32Uint"
  | r32Float => "R32Float"
  | rg32Float => "Rg32Float"
  | rgba32Float => "Rgba32Float"

/-- Bytes of a stored texel. -/
def bytes : TexelFormat → Nat
  | r8Unorm => 1
  | rg8Unorm => 2
  | rgba8Unorm => 4
  | rgba16Uint => 8
  | rgba32Uint => 16
  | r32Float => 4
  | rg32Float => 8
  | rgba32Float => 16

/-- Texels have at most sixteen bytes. -/
theorem bytes_le (format : TexelFormat) : format.bytes ≤ 16 := by
  cases format <;> decide

/-- The narrowest format for a number of channels. -/
def of? (component : Component) (channels : Nat) : Option TexelFormat :=
  match component with
  | .byte =>
      if channels = 0 then none
      else if channels ≤ 1 then some r8Unorm
      else if channels ≤ 2 then some rg8Unorm
      else if channels ≤ 4 then some rgba8Unorm
      else if channels ≤ 8 then some rgba16Uint
      else if channels ≤ 16 then some rgba32Uint
      else none
  | .single =>
      if channels = 0 then none
      else if channels ≤ 1 then some r32Float
      else if channels ≤ 2 then some rg32Float
      else if channels ≤ 4 then some rgba32Float
      else none

/-- The narrowest format, or the fault that there is none. -/
def choose (component : Component) (channels : Nat) : Except Fault TexelFormat :=
  match of? component channels with
  | some format => .ok format
  | none => .error (.texel channels)

/-- There are channels, and the format holds them. -/
theorem bytes_of_choose
    {component : Component} {channels : Nat} {format : TexelFormat}
    (h : choose component channels = .ok format) :
    0 < channels * component.bytes ∧ channels * component.bytes ≤ format.bytes := by
  unfold choose at h
  cases hformat : of? component channels with
  | none =>
      rw [hformat] at h
      cases h
  | some chosen =>
      rw [hformat] at h
      cases h
      cases component with
      | byte =>
          simp only [of?] at hformat
          simp only [Component.bytes]
          repeat' split at hformat
          all_goals (cases hformat <;> simp only [bytes] <;> omega)
      | single =>
          simp only [of?] at hformat
          simp only [Component.bytes]
          repeat' split at hformat
          all_goals (cases hformat <;> simp only [bytes] <;> omega)

end TexelFormat

/-- A byte string of zeros. -/
def zeroBytes (count : Nat) : ByteArray :=
  ⟨Array.replicate count 0⟩

/-- The texel at an index followed by its padding. -/
def paddedTexel (bytes stored : Nat) (data : ByteArray) (index : Nat) : ByteArray :=
  data.extract (index * bytes) (index * bytes + bytes) ++ zeroBytes (stored - bytes)

/-- Widen each texel of a byte string to its stored size. -/
def padTexels (bytes stored : Nat) (data : ByteArray) : ByteArray :=
  if bytes = stored then
    data
  else
    (List.range (data.size / bytes)).foldl
      (fun padded index => padded ++ paddedTexel bytes stored data index)
      ByteArray.empty

end Texel

end VoxelCache
