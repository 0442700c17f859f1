/-!
# Machine words

Counts and sizes are computed in unsigned words.  A result that does not fit its
word wraps around.
-/

namespace VoxelCache

section Word

/-- Values of a 32-bit word. -/
def wordModulus : Nat := 4294967296

/-- Values of a 64-bit word. -/
def longModulus : Nat := 18446744073709551616

end Word

end VoxelCache
