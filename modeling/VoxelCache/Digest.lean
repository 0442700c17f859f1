/-!
# Digests of byte strings

Short descriptions of long byte strings: a 64-bit hash that takes in one byte at
a time, and the runs of equal bytes.
-/

namespace VoxelCache

section Digest

namespace Digest

/-- The hash of the empty string. -/
def hashBasis : UInt64 := 0xcbf29ce484222325

/-- The factor by which the hash is spread after each byte. -/
def hashPrime : UInt64 := 0x100000001b3

/-- Take one byte into a hash. -/
def absorb (h : UInt64) (b : UInt8) : UInt64 :=
  (h ^^^ b.toUInt64) * hashPrime

/-- The hash of a byte string. -/
def hash (bytes : ByteArray) : UInt64 :=
  bytes.foldl absorb hashBasis

/-- A number as hexadecimal digits, padded to a width. -/
def hex (width n : Nat) : String :=
  let digits := String.ofList (Nat.toDigits 16 n)
  "".pushn '0' (width - digits.length) ++ digits

/-- A 64-bit word as sixteen hexadecimal digits. -/
def hex64 (w : UInt64) : String :=
  hex 16 w.toNat

/-- Take one more element into runs that are kept last first. -/
def extendRuns {α : Type} [BEq α] (runs : List (α × Nat)) (a : α) : List (α × Nat) :=
  match runs with
  | (b, n) :: rest => if a == b then (b, n + 1) :: rest else (a, 1) :: runs
  | [] => [(a, 1)]

/-- The runs of equal bytes of a byte string, with their lengths. -/
def byteRuns (bytes : ByteArray) : List (UInt8 × Nat) :=
  (bytes.foldl extendRuns []).reverse

/-- The runs of equal elements of an array, with their lengths. -/
def runs {α : Type} [BEq α] (elements : Array α) : List (α × Nat) :=
  (elements.foldl extendRuns []).reverse

/-- Four bytes of a number modulo the range of a word, the lowest byte first. -/
def word32 (n : Int) : ByteArray :=
  let w := (n % 4294967296).toNat
  ⟨#[w.toUInt8, (w / 256).toUInt8, (w / 65536).toUInt8, (w / 16777216).toUInt8]⟩

end Digest

end Digest

end VoxelCache
