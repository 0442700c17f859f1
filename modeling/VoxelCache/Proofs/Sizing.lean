import VoxelCache.Proofs.Planning

/-!
# Sizes and capacities of plans

A plan takes the least texture size, among the largest one and what halving it leads to, that
needs no more textures.  The search only compares neighbors.  That suffices, as smaller textures
are never fewer, and the textures counted at the largest size are so few that counts nine times
as large still fit their words.

**Checked search.**  `checkedShrink` is the search with 64-bit products and 32-bit counts that
gives up as soon as one of them does not hold its number, or after a number of passes.

**Results.**
* `shrink_chain`: where the search ends.
* `checkedShrink_eq`: the checked search never gives up and ends at the same size.
* `forLayer_optimal`: size and number of textures are least, and grow with the buckets required.
* `compute_capacities`: a plan holds the buckets required, and reports so exactly if the number
  of buckets that it holds fits its word.
-/

namespace VoxelCache

section Sizing

/-- A device that is not refused meets the minimum. -/
theorem DeviceLimits.meetsMinimum_of_check
    {limits : DeviceLimits}
    (h : limits.check.1 = .ok ()) :
    leastTextureSize ≤ limits.textureSize ∧ leastTextureUnits ≤ limits.textureUnits := by
  by_cases hminimum : limits.meetsMinimum = true
  · simpa [meetsMinimum] using hminimum
  · rw [check, if_neg hminimum] at h
    cases h

namespace TexturePlan

variable {size packing required : Nat}

section Checked

/-- A product of 64-bit words, unless it overflows. -/
def product? (m n : Nat) : Option Nat :=
  if m * n < longModulus then some (m * n) else none

/-- A 64-bit word as a 32-bit one, unless that cuts something off. -/
def word? (n : Nat) : Option Nat :=
  if n < wordModulus then some n else none

/-- A quotient rounded up, unless the divisor is zero. -/
def quotient? (m n : Nat) : Option Nat :=
  if n = 0 then none else some ((m + (n - 1)) / n)

/-- Textures needed for a number of buckets, unless the computation leaves its words. -/
def checkedTextureCount (size packing required : Nat) : Option Nat := do
  let needed ← product? required bucketVoxels
  let row ← product? packing size
  let available ← product? row size
  let count ← quotient? needed available
  word? count

/-- One pass of the search: the size to go on with, or none if the search is over. -/
def checkedPass (packing required size : Nat) : Option (Option Nat) :=
  if 1 < size then do
    let halved ← checkedTextureCount (size / 2) packing required
    let whole ← checkedTextureCount size packing required
    return if halved ≤ whole then some (size / 2) else none
  else
    return none

/-- The search in at most a number of passes, unless the computation leaves its words. -/
def checkedShrink (packing required : Nat) : Nat → Nat → Option Nat
  | 0, _ => none
  | passes + 1, size => do
      match ← checkedPass packing required size with
      | some half => checkedShrink packing required passes half
      | none => return size

/-- Whether no product overflows when the textures of a size are counted. -/
structure FitsLong (size packing required : Nat) : Prop where
  needed : voxelsOf required < longModulus
  row : packing * size < longModulus
  available : voxelsPerTexture size packing < longModulus

theorem FitsLong.of_le
    {size' : Nat}
    (h : FitsLong size' packing required)
    (hle : size ≤ size') :
    FitsLong size packing required where
  needed := h.needed
  row := Nat.lt_of_le_of_lt (Nat.mul_le_mul_left packing hle) h.row
  available :=
    Nat.lt_of_le_of_lt (Nat.mul_le_mul (Nat.mul_le_mul_left packing hle) hle) h.available

theorem checkedTextureCount_eq
    (hsize : 0 < size)
    (hpacking : 0 < packing)
    (hlong : FitsLong size packing required)
    (hcount : exactTextureCount size packing required < wordModulus) :
    checkedTextureCount size packing required = some (exactTextureCount size packing required) := by
  have hneeded : product? required bucketVoxels = some (voxelsOf required) := if_pos hlong.needed
  have hrow : product? packing size = some (packing * size) := if_pos hlong.row
  have havailable : product? (packing * size) size = some (voxelsPerTexture size packing) :=
    if_pos hlong.available
  have hquotient : quotient? (voxelsOf required) (voxelsPerTexture size packing) =
      some (exactTextureCount size packing required) :=
    if_neg (Nat.ne_of_gt (voxelsPerTexture_pos hsize hpacking))
  have hword : word? (exactTextureCount size packing required) =
      some (exactTextureCount size packing required) := if_pos hcount
  simp only [checkedTextureCount, hneeded, hrow, havailable, hquotient, hword, Option.bind_eq_bind,
    Option.bind_some]

end Checked

section Search

theorem textureCount_eq
    (h : exactTextureCount size packing required < wordModulus) :
    textureCount size packing required = exactTextureCount size packing required :=
  Nat.mod_eq_of_lt h

/-- Halving a size that is not one leaves at least a third of it. -/
theorem exactTextureCount_half_le
    (hsize : 1 < size)
    (hpacking : 0 < packing) :
    exactTextureCount (size / 2) packing required ≤
      9 * exactTextureCount size packing required := by
  have hhalf : 0 < size / 2 := by omega
  have hthird : size ≤ 3 * (size / 2) := by omega
  rw [exactTextureCount_le_iff (voxelsPerTexture_pos hhalf hpacking)]
  calc voxelsOf required
      ≤ exactTextureCount size packing required * voxelsPerTexture size packing :=
        voxelsOf_le required (voxelsPerTexture_pos (by omega) hpacking)
    _ ≤ exactTextureCount size packing required *
          (packing * (3 * (size / 2)) * (3 * (size / 2))) :=
        Nat.mul_le_mul_left _ (Nat.mul_le_mul (Nat.mul_le_mul_left packing hthird) hthird)
    _ = 9 * exactTextureCount size packing required * voxelsPerTexture (size / 2) packing := by
        unfold voxelsPerTexture
        ring

/-- What the search compares fits its words as long as the count has not grown. -/
theorem counts_lt
    (hsize : 1 < size)
    (hpacking : 0 < packing)
    (hsmall : 9 * exactTextureCount size packing required < wordModulus) :
    exactTextureCount (size / 2) packing required < wordModulus ∧
      exactTextureCount size packing required < wordModulus := by
  have hhalf : exactTextureCount (size / 2) packing required ≤
      9 * exactTextureCount size packing required := exactTextureCount_half_le hsize hpacking
  omega

/-- The search ends at the least size among the halvings that needs no more textures. -/
theorem shrink_chain
    (hsize : 0 < size)
    (hpacking : 0 < packing)
    (hsmall : 9 * exactTextureCount size packing required < wordModulus) :
    (∃ i, shrink packing required size = size / 2 ^ i) ∧
      exactTextureCount (shrink packing required size) packing required =
        exactTextureCount size packing required ∧
      ∀ i, 0 < size / 2 ^ i →
        exactTextureCount (size / 2 ^ i) packing required ≤
          exactTextureCount size packing required →
        shrink packing required size ≤ size / 2 ^ i := by
  have hhalves : ∀ (size i : Nat), size / 2 ^ (i + 1) = size / 2 / 2 ^ i := fun size i => by
    rw [Nat.div_div_eq_div_mul, Nat.pow_succ']
  fun_induction shrink packing required size with
  | case1 size hlt hle ih =>
      obtain ⟨hhalf, hwhole⟩ := counts_lt hlt hpacking hsmall
      rw [textureCount_eq hhalf, textureCount_eq hwhole] at hle
      have hsame : exactTextureCount (size / 2) packing required =
          exactTextureCount size packing required :=
        Nat.le_antisymm hle (exactTextureCount_anti (by omega) hpacking (Nat.div_le_self size 2))
      obtain ⟨⟨i, hend⟩, hcount, hleast⟩ := ih (by omega) (hsame ▸ hsmall)
      refine ⟨⟨i + 1, by rw [hhalves, hend]⟩, hcount.trans hsame, ?_⟩
      intro j hpos hno
      cases j with
      | zero =>
          rw [Nat.pow_zero, Nat.div_one]
          exact Nat.le_trans (shrink_le packing required _) (Nat.div_le_self size 2)
      | succ j =>
          rw [hhalves] at hpos hno ⊢
          exact hleast j hpos (hsame ▸ hno)
  | case2 size hlt hmore =>
      obtain ⟨hhalf, hwhole⟩ := counts_lt hlt hpacking hsmall
      rw [textureCount_eq hhalf, textureCount_eq hwhole] at hmore
      refine ⟨⟨0, by rw [Nat.pow_zero, Nat.div_one]⟩, rfl, ?_⟩
      intro j hpos hno
      cases j with
      | zero => rw [Nat.pow_zero, Nat.div_one]
      | succ j =>
          -- a smaller size needs as many textures as the half at least, which are too many
          rw [hhalves] at hpos hno
          have hanti : exactTextureCount (size / 2) packing required ≤
              exactTextureCount (size / 2 / 2 ^ j) packing required :=
            exactTextureCount_anti hpos hpacking (Nat.div_le_self _ _)
          exact absurd (Nat.le_trans hanti hno) hmore
  | case3 size hone =>
      refine ⟨⟨0, by rw [Nat.pow_zero, Nat.div_one]⟩, rfl, fun i hpos _ => ?_⟩
      omega

/-- A checked pass compares the counts that the search compares. -/
theorem checkedPass_eq
    (hsize : 0 < size)
    (hpacking : 0 < packing)
    (hlong : FitsLong size packing required)
    (hsmall : 9 * exactTextureCount size packing required < wordModulus) :
    checkedPass packing required size =
      some (if 1 < size ∧
          textureCount (size / 2) packing required ≤ textureCount size packing required then
        some (size / 2)
      else
        none) := by
  rw [checkedPass]
  by_cases hlt : 1 < size
  · obtain ⟨hhalf, hwhole⟩ := counts_lt hlt hpacking hsmall
    have hless : FitsLong (size / 2) packing required := hlong.of_le (Nat.div_le_self size 2)
    simp only [hlt, if_true, true_and, checkedTextureCount_eq hsize hpacking hlong hwhole,
      checkedTextureCount_eq (Nat.div_pos hlt Nat.two_pos) hpacking hless hhalf,
      textureCount_eq hhalf, textureCount_eq hwhole, Option.bind_eq_bind, Option.bind_some,
      Option.pure_def]
  · simp only [hlt, if_false, false_and, Option.pure_def]

/-- The search takes one pass more than it halves, and it never leaves its words. -/
theorem checkedShrink_eq
    {passes : Nat}
    (hpasses : size < 2 ^ passes)
    (hsize : 0 < size)
    (hpacking : 0 < packing)
    (hlong : FitsLong size packing required)
    (hsmall : 9 * exactTextureCount size packing required < wordModulus) :
    checkedShrink packing required passes size = some (shrink packing required size) := by
  induction passes generalizing size with
  | zero => omega
  | succ passes ih =>
      rw [checkedShrink, checkedPass_eq hsize hpacking hlong hsmall, shrink]
      by_cases hlt : 1 < size
      · rw [dif_pos hlt]
        by_cases hle : textureCount (size / 2) packing required ≤
            textureCount size packing required
        · rw [if_pos ⟨hlt, hle⟩, if_pos hle]
          obtain ⟨hhalf, hwhole⟩ := counts_lt hlt hpacking hsmall
          rw [textureCount_eq hhalf, textureCount_eq hwhole] at hle
          rw [Nat.pow_succ] at hpasses
          exact ih (by omega) (by omega) (hlong.of_le (Nat.div_le_self size 2)) (by omega)
        · rw [if_neg fun h => hle h.2, if_neg hle]
          rfl
      · rw [if_neg fun h => hlt h.1, dif_neg hlt]
        rfl

end Search

section Growth

/-- More buckets need no fewer textures. -/
theorem exactTextureCount_mono
    {more : Nat}
    (hsize : 0 < size)
    (hpacking : 0 < packing)
    (h : required ≤ more) :
    exactTextureCount size packing required ≤ exactTextureCount size packing more := by
  have hpos := voxelsPerTexture_pos hsize hpacking
  rw [exactTextureCount_le_iff hpos]
  exact Nat.le_trans (Nat.mul_le_mul_right bucketVoxels h) (voxelsOf_le more hpos)

/-- If one texture is not enough, smaller ones are more. -/
theorem shrink_eq_self
    (hsize : 0 < size)
    (hpacking : 0 < packing)
    (hsmall : 9 * exactTextureCount size packing required < wordModulus)
    (hseveral : 1 < exactTextureCount size packing required) :
    shrink packing required size = size := by
  obtain ⟨⟨i, hend⟩, hcount, -⟩ := shrink_chain hsize hpacking hsmall
  have hpos : 0 < shrink packing required size := shrink_pos hsize
  cases i with
  | zero => rw [hend, Nat.pow_zero, Nat.div_one]
  | succ i =>
      exfalso
      generalize shrink packing required size = half at hend hcount hpos
      have hless : 2 * half ≤ size := by
        rw [hend, Nat.pow_succ', ← Nat.div_div_eq_div_mul]
        have := Nat.div_le_self (size / 2) (2 ^ i)
        omega
      have hbetween : exactTextureCount size packing required ≤
          exactTextureCount (2 * half) packing required :=
        exactTextureCount_anti (by omega) hpacking hless
      have hdouble : voxelsPerTexture (2 * half) packing = 4 * voxelsPerTexture half packing := by
        unfold voxelsPerTexture
        ring
      have hfull : voxelsPerTexture (2 * half) packing < voxelsOf required := by
        by_contra hone
        have hone : exactTextureCount (2 * half) packing required ≤ 1 := by
          rw [exactTextureCount_le_iff (voxelsPerTexture_pos (by omega) hpacking)]
          omega
        omega
      have hfewer : exactTextureCount (2 * half) packing required <
          exactTextureCount half packing required :=
        exactTextureCount_double_lt hpos hpacking (by omega)
      omega

/-- Textures for more buckets have no fewer texels in all. -/
theorem texels_mono
    {more : Nat}
    (hsize : 0 < size)
    (hpacking : 0 < packing)
    (hmore : required ≤ more)
    (hsmall : 9 * exactTextureCount size packing more < wordModulus) :
    exactTextureCount size packing required * shrink packing required size ^ 2 ≤
      exactTextureCount size packing more * shrink packing more size ^ 2 := by
  have hcounts := exactTextureCount_mono hsize hpacking hmore
  have hsmall' : 9 * exactTextureCount size packing required < wordModulus := by omega
  rcases Nat.lt_or_eq_of_le hcounts with hless | hsame
  · rcases Nat.eq_zero_or_pos (exactTextureCount size packing required) with hnone | hsome
    · rw [hnone, Nat.zero_mul]
      exact Nat.zero_le _
    · rw [shrink_eq_self hsize hpacking hsmall (by omega)]
      exact Nat.mul_le_mul hcounts (Nat.pow_le_pow_left (shrink_le packing required size) 2)
  · -- a size that does for more buckets does for fewer
    obtain ⟨-, -, hleast⟩ := shrink_chain hsize hpacking hsmall'
    obtain ⟨⟨i, hend⟩, hcount, -⟩ := shrink_chain hsize hpacking hsmall
    have hpos : 0 < shrink packing more size := shrink_pos hsize
    have hdoes := exactTextureCount_mono hpos hpacking hmore
    rw [hcount, ← hsame, hend] at hdoes
    rw [hsame]
    refine Nat.mul_le_mul_left _ (Nat.pow_le_pow_left ?_ 2)
    rw [hend] at hpos ⊢
    exact hleast i hpos hdoes

end Growth

section Plans

variable {limits : DeviceLimits} {bytes : Nat}

/-- Of textures that are large enough, a word of buckets needs few. -/
theorem exactTextureCount_le_of_large
    (hleast : 4096 ≤ size)
    (hpacking : 0 < packing)
    (hrequired : required < wordModulus) :
    exactTextureCount size packing required ≤ 8388608 := by
  rw [exactTextureCount_le_iff (voxelsPerTexture_pos (by omega) hpacking)]
  have hlarge : 1 * 4096 * 4096 ≤ voxelsPerTexture size packing :=
    Nat.mul_le_mul (Nat.mul_le_mul hpacking hleast) hleast
  calc voxelsOf required
      ≤ wordModulus * bucketVoxels := Nat.mul_le_mul_right _ (Nat.le_of_lt hrequired)
    _ = 8388608 * (1 * 4096 * 4096) := by decide
    _ ≤ 8388608 * voxelsPerTexture size packing := Nat.mul_le_mul_left _ hlarge

theorem exactTextureCount_small
    (hleast : 4096 ≤ size)
    (hpacking : 0 < packing)
    (hrequired : required < wordModulus) :
    9 * exactTextureCount size packing required < wordModulus := by
  have hfew := exactTextureCount_le_of_large hleast hpacking hrequired
  unfold wordModulus
  omega

theorem fitsLong_of_le
    (hmost : size ≤ 2 ^ 30)
    (hpacking : packing ≤ 4)
    (hrequired : required < wordModulus) :
    FitsLong size packing required := by
  have hrow : packing * size ≤ 4 * 2 ^ 30 := Nat.mul_le_mul hpacking hmost
  have havailable : voxelsPerTexture size packing ≤ 4 * 2 ^ 30 * 2 ^ 30 := Nat.mul_le_mul hrow hmost
  have hbucket : bucketVoxels = 32768 := rfl
  constructor
  · rw [voxelsOf, hbucket]
    unfold wordModulus at hrequired
    unfold longModulus
    omega
  · exact Nat.lt_of_le_of_lt hrow (by decide)
  · exact Nat.lt_of_le_of_lt havailable (by decide)

theorem packingOf_le (bytes : Nat) : packingOf bytes ≤ 4 := by
  have := packingOf_cases bytes
  omega

/-- The plan of a layer, with its count not cut to a word. -/
theorem forLayer_eq
    (hleast : 4096 ≤ limits.textureSize)
    (hrequired : required < wordModulus) :
    let size := shrink (packingOf bytes) required limits.textureSize
    forLayer limits bytes required =
      ⟨size, exactTextureCount size (packingOf bytes) required, packingOf bytes⟩ := by
  intro size
  have hpacking := packingOf_pos bytes
  have hsmall := exactTextureCount_small hleast hpacking hrequired
  obtain ⟨-, hcount, -⟩ := shrink_chain (by omega) hpacking hsmall
  have hmax : max limits.textureSize 1 = limits.textureSize := Nat.max_eq_left (by omega)
  have hword : exactTextureCount size (packingOf bytes) required < wordModulus := by
    rw [hcount]
    omega
  simp only [forLayer, hmax]
  rw [textureCount_eq hword]

/--
The plan of a layer is the least one, on a device whose largest texture size is from 4096 to
`2 ^ 30`, for any voxel width and any word of buckets.  The search ends, after 31 passes at most,
without a product that overflows 64 bits or a count that is cut to 32 bits.  The size is the
least one among the largest one and its halvings that needs no more textures than the largest
one does, and no size among these needs fewer.  The textures hold all voxels of the buckets, and
those for more buckets have no fewer texels in all.
-/
theorem forLayer_optimal
    (hleast : 4096 ≤ limits.textureSize)
    (hmost : limits.textureSize ≤ 2 ^ 30)
    (hrequired : required < wordModulus)
    (bytes : Nat) :
    let plan := forLayer limits bytes required
    let count := fun size => exactTextureCount size plan.packing required
    plan.packing = packingOf bytes ∧
      checkedShrink plan.packing required 31 limits.textureSize = some plan.size ∧
      checkedTextureCount plan.size plan.packing required = some plan.count ∧
      (∃ i, plan.size = limits.textureSize / 2 ^ i) ∧ 0 < plan.size ∧
      plan.count = count plan.size ∧ count plan.size ≤ count limits.textureSize ∧
      (∀ i, 0 < limits.textureSize / 2 ^ i →
        count (limits.textureSize / 2 ^ i) ≤ count limits.textureSize →
        plan.size ≤ limits.textureSize / 2 ^ i) ∧
      (∀ i, 0 < limits.textureSize / 2 ^ i →
        plan.count ≤ count (limits.textureSize / 2 ^ i)) ∧
      voxelsOf required ≤ plan.packing * plan.count * plan.size ^ 2 ∧
      ∀ more, required ≤ more → more < wordModulus →
        let larger := forLayer limits bytes more
        plan.count * plan.size ^ 2 ≤ larger.count * larger.size ^ 2 := by
  have hpacking := packingOf_pos bytes
  have hsize : 0 < limits.textureSize := by omega
  have hsmall := exactTextureCount_small hleast hpacking hrequired
  have hlong := fitsLong_of_le hmost (packingOf_le bytes) hrequired
  have hpos : 0 < shrink (packingOf bytes) required limits.textureSize := shrink_pos hsize
  have hless := shrink_le (packingOf bytes) required limits.textureSize
  obtain ⟨hchain, hcount, hsmallest⟩ := shrink_chain hsize hpacking hsmall
  have hsearch : checkedShrink (packingOf bytes) required 31 limits.textureSize =
      some (shrink (packingOf bytes) required limits.textureSize) :=
    checkedShrink_eq (Nat.lt_of_le_of_lt hmost (by decide)) hsize hpacking hlong hsmall
  rw [forLayer_eq hleast hrequired]
  refine ⟨rfl, hsearch, ?_, hchain, hpos, rfl, Nat.le_of_eq hcount, hsmallest, ?_, ?_, ?_⟩
  · refine checkedTextureCount_eq hpos hpacking (hlong.of_le hless) ?_
    dsimp only
    omega
  · intro i hhalved
    dsimp only
    rw [hcount]
    exact exactTextureCount_anti hhalved hpacking (Nat.div_le_self _ _)
  · calc voxelsOf required
        ≤ exactTextureCount (shrink (packingOf bytes) required limits.textureSize)
            (packingOf bytes) required *
          voxelsPerTexture (shrink (packingOf bytes) required limits.textureSize)
            (packingOf bytes) := voxelsOf_le required (voxelsPerTexture_pos hpos hpacking)
      _ = _ := by
          unfold voxelsPerTexture
          ring
  · intro more hmore hword
    have hsmall' := exactTextureCount_small hleast hpacking hword
    obtain ⟨-, hcount', -⟩ := shrink_chain hsize hpacking hsmall'
    rw [forLayer_eq hleast hword]
    dsimp only
    rw [hcount, hcount']
    exact texels_mono hsize hpacking hmore hsmall'

/-- On a device whose largest texture size is no power of two, its half does for 512 buckets. -/
theorem forLayer_optimal_of_6000 :
    4096 ≤ 6000 ∧ 6000 ≤ 2 ^ 30 ∧ 512 < wordModulus ∧
      forLayer ⟨6000, 8⟩ 2 512 = ⟨3000, 1, 2⟩ ∧
      checkedShrink 2 512 31 6000 = some 3000 ∧
      ∀ more, 512 ≤ more → more < wordModulus →
        9000000 ≤ (forLayer ⟨6000, 8⟩ 2 more).count * (forLayer ⟨6000, 8⟩ 2 more).size ^ 2 := by
  have hplan : forLayer ⟨6000, 8⟩ 2 512 = ⟨3000, 1, 2⟩ := by
    simp [forLayer, shrink, textureCount, exactTextureCount, packingOf, voxelsOf,
      voxelsPerTexture, bucketVoxels, bucketEdge, wordModulus]
  have hleast : 4096 ≤ (⟨6000, 8⟩ : DeviceLimits).textureSize := by decide
  have hmost : (⟨6000, 8⟩ : DeviceLimits).textureSize ≤ 2 ^ 30 := by decide
  have hrequired : 512 < wordModulus := by decide
  obtain ⟨-, hsearch, -, -, -, -, -, -, -, -, hgrows⟩ :=
    forLayer_optimal hleast hmost hrequired 2
  rw [hplan] at hsearch hgrows
  exact ⟨hleast, hmost, hrequired, hplan, hsearch, hgrows⟩

end Plans

section Capacities

variable {limits : DeviceLimits}

/-- Buckets that the textures of a plan hold, not yet held in a word. -/
def bucketsHeld (plan : TexturePlan) : Nat :=
  plan.packing * plan.count * plan.size * plan.size / bucketVoxels

theorem capacity_eq_mod (plan : TexturePlan) :
    plan.capacity = plan.bucketsHeld % wordModulus :=
  rfl

/-- Textures that are counted have less than one texture to spare. -/
theorem exactTextureCount_mul_lt
    (required : Nat)
    (h : 0 < voxelsPerTexture size packing) :
    exactTextureCount size packing required * voxelsPerTexture size packing <
      voxelsOf required + voxelsPerTexture size packing := by
  have hle := Nat.div_mul_le_self (voxelsOf required + (voxelsPerTexture size packing - 1))
    (voxelsPerTexture size packing)
  unfold exactTextureCount
  omega

/-- The textures of a plan hold the buckets required, and few more. -/
theorem bucketsHeld_bounds
    (hleast : 4096 ≤ limits.textureSize)
    (hmost : limits.textureSize ≤ 32768)
    (hrequired : required < wordModulus)
    (bytes : Nat) :
    required ≤ (forLayer limits bytes required).bucketsHeld ∧
      (forLayer limits bytes required).bucketsHeld < required + 131072 := by
  have hpacking := packingOf_pos bytes
  have hpos : 0 < shrink (packingOf bytes) required limits.textureSize := shrink_pos (by omega)
  have hless := shrink_le (packingOf bytes) required limits.textureSize
  rw [forLayer_eq hleast hrequired, bucketsHeld]
  dsimp only
  generalize shrink (packingOf bytes) required limits.textureSize = size at hpos hless
  have hvoxels := voxelsPerTexture_pos hpos hpacking
  have henough := voxelsOf_le required hvoxels
  have hspare := exactTextureCount_mul_lt required hvoxels
  have hsize : size ≤ 32768 := by omega
  have hlargest : voxelsPerTexture size (packingOf bytes) ≤ 4 * 32768 * 32768 :=
    Nat.mul_le_mul (Nat.mul_le_mul (packingOf_le bytes) hsize) hsize
  have hproduct : packingOf bytes * exactTextureCount size (packingOf bytes) required *
      size * size = exactTextureCount size (packingOf bytes) required *
        voxelsPerTexture size (packingOf bytes) := by
    unfold voxelsPerTexture
    ring
  have hbucket : bucketVoxels = 32768 := rfl
  rw [hproduct, hbucket]
  rw [voxelsOf, hbucket] at henough hspare
  omega

/-- The voxels of little more than a word of buckets fit 64 bits. -/
theorem voxels_lt_longModulus
    {plan : TexturePlan}
    (hrequired : required < wordModulus)
    (hmost : plan.bucketsHeld < required + 131072) :
    plan.packing * plan.count * plan.size * plan.size < longModulus := by
  have hvoxels : plan.packing * plan.count * plan.size * plan.size <
      (required + 131072) * bucketVoxels := Nat.lt_mul_of_div_lt hmost (by decide)
  calc plan.packing * plan.count * plan.size * plan.size
      < (required + 131072) * bucketVoxels := hvoxels
    _ ≤ (wordModulus + 131072) * bucketVoxels := Nat.mul_le_mul_right _ (by omega)
    _ < longModulus := by decide

/-- The number of buckets is reported right exactly if it fits its word. -/
theorem le_capacity_iff
    {plan : TexturePlan}
    (hrequired : required < wordModulus)
    (hleast : required ≤ plan.bucketsHeld)
    (hmost : plan.bucketsHeld < required + 131072) :
    plan.capacity =
        (if plan.bucketsHeld < wordModulus then plan.bucketsHeld
        else plan.bucketsHeld - wordModulus) ∧
      (required ≤ plan.capacity ↔ plan.bucketsHeld < wordModulus) := by
  rw [capacity_eq_mod]
  unfold wordModulus at hrequired ⊢
  by_cases hfits : plan.bucketsHeld < 4294967296
  · rw [if_pos hfits, Nat.mod_eq_of_lt hfits]
    exact ⟨rfl, fun _ => hfits, fun _ => hleast⟩
  · rw [if_neg hfits, Nat.mod_eq_sub_mod (by omega), Nat.mod_eq_of_lt (by omega)]
    exact ⟨rfl, by omega, by omega⟩

end Capacities

end TexturePlan

namespace TextureSetup

open TexturePlan

variable {limits : DeviceLimits} {required : Nat}

/--
What a setup reports about capacities, on a device that is good enough and whose largest texture
size is at most 32768, for any layers and any word of buckets.  The textures of each layer hold
the buckets required, and less than 131072 more, and the number of their voxels fits 64 bits.
The number of buckets is cut to a word, so that the capacity of a layer is at least the number
required exactly if it fits.  There is a common
capacity exactly if there are layers.  Every layer holds that many, and they are as many as
required exactly if the numbers of all layers fit.
-/
theorem compute_capacities
    (hcheck : limits.check.1 = .ok ())
    (hmost : limits.textureSize ≤ 32768)
    (hrequired : required < wordModulus)
    (layers : List Layer) (hasSegmentation : Bool) :
    let setup := (compute limits layers hasSegmentation required).1
    setup.layers.map (·.1) = layers ∧
      (∀ entry ∈ setup.layers,
        entry.2 = forLayer limits entry.1.bytes required ∧
          required ≤ entry.2.bucketsHeld ∧
          entry.2.bucketsHeld < required + 131072 ∧
          entry.2.packing * entry.2.count * entry.2.size * entry.2.size < longModulus ∧
          entry.2.capacity =
            (if entry.2.bucketsHeld < wordModulus then entry.2.bucketsHeld
            else entry.2.bucketsHeld - wordModulus) ∧
          (required ≤ entry.2.capacity ↔ entry.2.bucketsHeld < wordModulus)) ∧
      (setup.commonCapacity = none ↔ layers = []) ∧
      ∀ common, setup.commonCapacity = some common →
        (∀ entry ∈ setup.layers, common ≤ entry.2.bucketsHeld) ∧
          (required ≤ common ↔ ∀ entry ∈ setup.layers, entry.2.bucketsHeld < wordModulus) := by
  intro setup
  have hleast : 4096 ≤ limits.textureSize :=
    (DeviceLimits.meetsMinimum_of_check hcheck).1
  have hplanned : ∀ entry ∈ setup.layers, entry.2 = forLayer limits entry.1.bytes required := by
    intro entry hentry
    obtain ⟨layer, -, rfl⟩ := List.mem_map.mp hentry
    rfl
  have hbounds : ∀ entry ∈ setup.layers, required ≤ entry.2.bucketsHeld ∧
      entry.2.bucketsHeld < required + 131072 := by
    intro entry hentry
    rw [hplanned entry hentry]
    exact bucketsHeld_bounds hleast hmost hrequired entry.1.bytes
  have hreports := fun entry hentry =>
    le_capacity_iff hrequired (hbounds entry hentry).1 (hbounds entry hentry).2
  have hcommon : setup.commonCapacity = (setup.layers.map (·.2.capacity)).min? := by
    simp [setup, compute, Function.comp_def]
  refine ⟨?_, ?_, ?_, ?_⟩
  · simp [setup, compute, Function.comp_def]
  · intro entry hentry
    exact ⟨hplanned entry hentry, (hbounds entry hentry).1, (hbounds entry hentry).2,
      voxels_lt_longModulus hrequired (hbounds entry hentry).2, hreports entry hentry⟩
  · rw [hcommon, List.min?_eq_none_iff, List.map_eq_nil_iff]
    simp [setup, compute]
  · intro common hsome
    rw [hcommon, List.min?_eq_some_iff] at hsome
    obtain ⟨hmem, hmin⟩ := hsome
    obtain ⟨least, hlayer, rfl⟩ := List.mem_map.mp hmem
    have hall : ∀ entry ∈ setup.layers, least.2.capacity ≤ entry.2.capacity := fun entry hentry =>
      hmin _ (List.mem_map_of_mem hentry)
    refine ⟨fun entry hentry => ?_, fun henough entry hentry => ?_, fun hfit => ?_⟩
    · exact Nat.le_trans (hall entry hentry) (Nat.mod_le _ _)
    · exact (hreports entry hentry).2.mp (Nat.le_trans henough (hall entry hentry))
    · exact (hreports least hlayer).2.mpr (hfit least hlayer)

/-- On a device of the least texture size, the largest word of buckets is reported as none. -/
theorem compute_capacities_of_largest_word :
    let limits : DeviceLimits := ⟨4096, 8⟩
    let color : Layer := ⟨"color", 1⟩
    limits.check.1 = .ok () ∧
      4294967295 ≤ (forLayer limits color.bytes 4294967295).bucketsHeld ∧
      ¬ 4294967295 ≤ (forLayer limits color.bytes 4294967295).capacity ∧
      (compute limits [color] false 4294967295).1.commonCapacity = some 0 := by
  intro limits color
  have hcheck : limits.check.1 = .ok () := rfl
  have hplan : forLayer limits color.bytes 4294967295 = ⟨4096, 2097152, 4⟩ := by
    simp [limits, color, forLayer, shrink, textureCount, exactTextureCount, packingOf, voxelsOf,
      voxelsPerTexture, bucketVoxels, bucketEdge, wordModulus]
  obtain ⟨-, hlayers, -, -⟩ :=
    compute_capacities hcheck (by decide) (by decide : 4294967295 < wordModulus) [color] false
  obtain ⟨-, hholds, -, -, -, hreported⟩ := hlayers (color, forLayer limits color.bytes 4294967295)
    (List.mem_singleton.mpr rfl)
  refine ⟨hcheck, hholds, fun hle => ?_, ?_⟩
  · have hfits := hreported.mp hle
    rw [hplan] at hfits
    exact absurd hfits (by decide)
  · simp only [compute, List.map_cons, List.map_nil, hplan]
    rfl

end TextureSetup

end Sizing

end VoxelCache
