import VoxelCache.Proofs.Places
import VoxelCache.Texture
import Mathlib.Data.Nat.Basic

/-!
# Bytes of a raster

A write copies the padded texels of its data row by row.  Rows of different texels
never share a byte, so a write sets exactly the texels of its rectangle.

**Results.**
* `getElem?_padTexels`: texels keep their bytes and are filled up with zeros.
* `objection?_eq_none_iff`: data are accepted that fit their rectangle, if the rectangle fits.
* `byte?_write`: a write sets the texels of its rectangle and leaves all others alone.
-/

namespace VoxelCache

section Copying

variable {source target : ByteArray} {offset start length : Nat}

theorem size_copySlice
    (hsource : offset + length ≤ source.size)
    (htarget : start + length ≤ target.size) :
    (source.copySlice offset target start length).size = target.size := by
  rw [ByteArray.copySlice_eq_append]
  simp only [ByteArray.size_append, ByteArray.size_extract, ByteArray.size_data]
  omega

theorem getElem?_copySlice
    (hsource : offset + length ≤ source.size)
    (htarget : start + length ≤ target.size)
    (i : Nat) :
    (source.copySlice offset target start length).data[i]? =
      if start ≤ i ∧ i < start + length then source.data[offset + (i - start)]?
      else target.data[i]? := by
  have hsource' : offset + length ≤ source.data.size := hsource
  have htarget' : start + length ≤ target.data.size := htarget
  have hprefix : (target.data.extract 0 start).size = start := by
    rw [Array.size_extract]
    omega
  have hmiddle : (source.data.extract offset (offset + length)).size = length := by
    rw [Array.size_extract]
    omega
  have hlength : min length (source.data.size - offset) = length := by omega
  rw [ByteArray.copySlice, hlength]
  by_cases hbefore : i < start
  · rw [if_neg (by omega), Array.getElem?_append_left (by rw [Array.size_append]; omega),
      Array.getElem?_append_left (by omega), Array.getElem?_extract, if_pos (by omega),
      Nat.zero_add]
  · by_cases hwithin : i < start + length
    · rw [if_pos ⟨by omega, hwithin⟩,
        Array.getElem?_append_left (by rw [Array.size_append]; omega),
        Array.getElem?_append_right (by omega), Array.getElem?_extract, hprefix,
        if_pos (by omega)]
    · rw [if_neg (by omega), Array.getElem?_append_right (by rw [Array.size_append]; omega),
        Array.size_append, hprefix, hmiddle, Array.getElem?_extract]
      split
      · congr 1
        omega
      · rw [Array.getElem?_eq_none (by omega)]

end Copying

section Padding

variable {bytes stored texel byte : Nat} {data : ByteArray}

theorem size_zeroBytes (count : Nat) : (zeroBytes count).size = count :=
  Array.size_replicate

theorem size_paddedTexel
    (hstored : bytes ≤ stored)
    (htexel : texel * bytes + bytes ≤ data.size) :
    (paddedTexel bytes stored data texel).size = stored := by
  rw [paddedTexel, ByteArray.size_append, ByteArray.size_extract, size_zeroBytes]
  omega

theorem getElem?_paddedTexel
    (htexel : texel * bytes + bytes ≤ data.size)
    (hbyte : byte < stored) :
    (paddedTexel bytes stored data texel).data[byte]? =
      if byte < bytes then data.data[texel * bytes + byte]? else some 0 := by
  have hsize : (data.data.extract (texel * bytes) (texel * bytes + bytes)).size = bytes := by
    have htexel' : texel * bytes + bytes ≤ data.data.size := htexel
    rw [Array.size_extract]
    omega
  rw [paddedTexel, ByteArray.data_append, ByteArray.data_extract]
  split
  · rw [Array.getElem?_append_left (by omega), Array.getElem?_extract, if_pos]
    have htexel' : texel * bytes + bytes ≤ data.data.size := htexel
    omega
  · rw [Array.getElem?_append_right (by omega), hsize, zeroBytes, Array.getElem?_replicate,
      if_pos (by omega)]

/-- The texels that were padded so far have their places. -/
theorem getElem?_foldl_paddedTexel
    {count : Nat}
    (hstored : bytes ≤ stored)
    (hcount : count * bytes ≤ data.size) :
    let padded := (List.range count).foldl
      (fun padded texel => padded ++ paddedTexel bytes stored data texel) ByteArray.empty
    padded.size = count * stored ∧
      ∀ texel byte, texel < count → byte < stored →
        padded.data[texel * stored + byte]? =
          if byte < bytes then data.data[texel * bytes + byte]? else some 0 := by
  induction count with
  | zero => exact ⟨by simp, fun _ _ h => absurd h (Nat.not_lt_zero _)⟩
  | succ count ih =>
      rw [Nat.succ_mul] at hcount
      obtain ⟨hsize, hbytes⟩ := ih (by omega)
      intro padded
      simp only [padded, List.range_succ, List.foldl_append, List.foldl_cons, List.foldl_nil]
      constructor
      · rw [ByteArray.size_append, hsize, size_paddedTexel hstored hcount, Nat.succ_mul]
      · intro texel byte htexel hbyte
        rw [ByteArray.data_append]
        rcases Nat.lt_succ_iff_lt_or_eq.mp htexel with hbefore | rfl
        · have hplace := rowMajor_lt hbyte hbefore
          rw [Array.getElem?_append_left (Nat.lt_of_lt_of_eq hplace hsize.symm)]
          exact hbytes texel byte hbefore hbyte
        · have hplace := Nat.le_of_eq hsize
          rw [Array.getElem?_append_right (Nat.le_trans hplace (Nat.le_add_right _ _))]
          have hrest : texel * stored + byte - ((List.range texel).foldl (fun padded texel =>
              padded ++ paddedTexel bytes stored data texel) ByteArray.empty).data.size = byte := by
            rw [ByteArray.size_data, hsize, Nat.add_sub_cancel_left]
          rw [hrest]
          exact getElem?_paddedTexel hcount hbyte

theorem size_padTexels
    {count : Nat}
    (hpos : 0 < bytes)
    (hstored : bytes ≤ stored)
    (hsize : data.size = count * bytes) :
    (padTexels bytes stored data).size = count * stored := by
  unfold padTexels
  split
  · rename_i hsame
    rw [hsize, hsame]
  · rw [hsize, Nat.mul_div_cancel _ hpos]
    exact (getElem?_foldl_paddedTexel hstored (Nat.le_of_eq hsize.symm)).1

/-- Texels keep their bytes and are filled up with zeros. -/
theorem getElem?_padTexels
    {count : Nat}
    (hpos : 0 < bytes)
    (hstored : bytes ≤ stored)
    (hsize : data.size = count * bytes)
    (htexel : texel < count)
    (hbyte : byte < stored) :
    (padTexels bytes stored data).data[texel * stored + byte]? =
      if byte < bytes then data.data[texel * bytes + byte]? else some 0 := by
  unfold padTexels
  split
  · rename_i hsame
    rw [hsame, if_pos hbyte]
  · rw [hsize, Nat.mul_div_cancel _ hpos]
    exact (getElem?_foldl_paddedTexel hstored (Nat.le_of_eq hsize.symm)).2 texel byte htexel hbyte

end Padding

section Rows

variable {width stored x y byte row : Nat} {r : Rect} {padded texels : ByteArray}

/-- The bytes of one row of a rectangle are those of its texels. -/
theorem mem_row_iff
    (hwidth : r.x + r.width ≤ width)
    (hx : x < width)
    (hbyte : byte < stored) :
    ((r.y + row) * width + r.x) * stored ≤ (y * width + x) * stored + byte ∧
        (y * width + x) * stored + byte <
          ((r.y + row) * width + r.x) * stored + r.width * stored ↔
      y = r.y + row ∧ r.x ≤ x ∧ x < r.x + r.width := by
  rw [← Nat.add_mul, le_rowMajor_iff hbyte, rowMajor_lt_iff hbyte]
  constructor
  · rintro ⟨hfrom, hto⟩
    have hrow : y = r.y + row := by
      rcases Nat.lt_trichotomy y (r.y + row) with hlt | heq | hgt
      · have := rowMajor_lt hx hlt
        omega
      · exact heq
      · have := Nat.mul_le_mul_right width (Nat.succ_le_of_lt hgt)
        rw [Nat.succ_mul] at this
        omega
    subst hrow
    omega
  · rintro ⟨rfl, hfrom, hto⟩
    omega

/-- A row of a rectangle inside the square ends inside the square. -/
theorem row_le_size
    (stored : Nat)
    (hwidth : r.x + r.width ≤ width)
    (hrow : r.y + row < width) :
    ((r.y + row) * width + r.x) * stored + r.width * stored ≤ width * width * stored := by
  have hplace : (r.y + row) * width + r.x + r.width ≤ width * width := by
    calc (r.y + row) * width + r.x + r.width
        ≤ (r.y + row) * width + width := by omega
      _ = (r.y + row + 1) * width := (Nat.succ_mul _ _).symm
      _ ≤ width * width := Nat.mul_le_mul_right width hrow
  calc ((r.y + row) * width + r.x) * stored + r.width * stored
      = ((r.y + row) * width + r.x + r.width) * stored := (Nat.add_mul _ _ _).symm
    _ ≤ width * width * stored := Nat.mul_le_mul_right stored hplace

/-- Copying a row sets the bytes of its texels and leaves all others alone. -/
theorem getElem?_writeRow
    (hwidth : r.x + r.width ≤ width)
    (hrow : r.y + row < width)
    (htexels : texels.size = width * width * stored)
    (hpadded : row * (r.width * stored) + r.width * stored ≤ padded.size)
    (hx : x < width)
    (hbyte : byte < stored) :
    (Raster.writeRow width stored r padded texels row).data[(y * width + x) * stored + byte]? =
      if y = r.y + row ∧ r.x ≤ x ∧ x < r.x + r.width then
        padded.data[(row * r.width + (x - r.x)) * stored + byte]?
      else
        texels.data[(y * width + x) * stored + byte]? := by
  have hinside := row_le_size stored hwidth hrow
  rw [Raster.writeRow, getElem?_copySlice hpadded (htexels ▸ hinside)]
  simp only [mem_row_iff hwidth hx hbyte]
  split
  · rename_i hcovered
    obtain ⟨rfl, hfrom, _⟩ := hcovered
    obtain ⟨column, rfl⟩ := Nat.exists_eq_add_of_le hfrom
    have hplace : ((r.y + row) * width + (r.x + column)) * stored + byte =
        ((r.y + row) * width + r.x) * stored + (column * stored + byte) := by
      rw [← Nat.add_assoc _ r.x, Nat.add_mul _ column, Nat.add_assoc]
    rw [hplace, Nat.add_sub_cancel_left, Nat.add_sub_cancel_left, Nat.add_mul (row * r.width),
      Nat.mul_assoc, Nat.add_assoc]
  · rfl

/-- After some rows were copied, exactly their texels have new bytes. -/
theorem getElem?_foldl_writeRow
    {count : Nat}
    (hwidth : r.x + r.width ≤ width)
    (hheight : r.y + count ≤ width)
    (htexels : texels.size = width * width * stored)
    (hpadded : count * r.width * stored ≤ padded.size) :
    let written := (List.range count).foldl (Raster.writeRow width stored r padded) texels
    written.size = texels.size ∧
      ∀ x y byte, x < width → byte < stored →
        written.data[(y * width + x) * stored + byte]? =
          if r.x ≤ x ∧ x < r.x + r.width ∧ r.y ≤ y ∧ y < r.y + count then
            padded.data[((y - r.y) * r.width + (x - r.x)) * stored + byte]?
          else
            texels.data[(y * width + x) * stored + byte]? := by
  induction count with
  | zero =>
      refine ⟨rfl, ?_⟩
      intro x y byte _ _
      rw [if_neg (by omega)]
      rfl
  | succ count ih =>
      rw [Nat.succ_mul, Nat.add_mul, Nat.mul_assoc] at hpadded
      obtain ⟨hsize, hbytes⟩ := ih (by omega) (by rw [Nat.mul_assoc]; omega)
      intro written
      simp only [written, List.range_succ, List.foldl_append, List.foldl_cons, List.foldl_nil]
      constructor
      · have hinside := row_le_size stored hwidth (by omega : r.y + count < width)
        rw [Raster.writeRow, size_copySlice hpadded (by rw [hsize, htexels]; exact hinside), hsize]
      · intro x y byte hx hbyte
        rw [getElem?_writeRow hwidth (by omega) (hsize.trans htexels) hpadded hx hbyte,
          hbytes x y byte hx hbyte]
        by_cases hlast : y = r.y + count ∧ r.x ≤ x ∧ x < r.x + r.width
        · have hrow : y - r.y = count := by omega
          rw [if_pos hlast, if_pos (by omega), hrow]
        · rw [if_neg hlast]
          by_cases hbefore : r.x ≤ x ∧ x < r.x + r.width ∧ r.y ≤ y ∧ y < r.y + count
          · rw [if_pos hbefore, if_pos (by omega)]
          · rw [if_neg hbefore, if_neg (by omega)]

end Rows

section Writing

namespace Raster

variable {m : Raster} {data : ByteArray} {r : Rect} {x y byte : Nat}

/-- Whether the bytes of a raster are those of its square of texels, and a word counts them. -/
structure IsProper (m : Raster) : Prop where
  pos : 0 < m.texelBytes
  stored : m.texelBytes ≤ m.storedBytes
  counted : m.width * m.width * m.storedBytes < longModulus
  size : m.texels.size = m.width * m.width * m.storedBytes

/-- Whether a raster shows nothing yet. -/
structure IsBlank (m : Raster) : Prop extends IsProper m where
  texels : m.texels = zeroBytes (m.width * m.width * m.storedBytes)

/-- One stored byte of a texel. -/
def byte? (m : Raster) (x y byte : Nat) : Option UInt8 :=
  m.texels.data[(y * m.width + x) * m.storedBytes + byte]?

/-- A new raster has texels of some format. -/
theorem exists_format_of_create
    {width channels : Nat} {component : Component}
    (h : create width channels component = .ok m) :
    ∃ format, TexelFormat.choose component channels = .ok format ∧
      m = ⟨width, channels * component.bytes, format.bytes,
        zeroBytes (width * width * format.bytes % longModulus), 0⟩ := by
  unfold create at h
  cases hformat : TexelFormat.choose component channels with
  | error fault =>
      rw [hformat] at h
      cases h
  | ok format =>
      rw [hformat] at h
      cases h
      exact ⟨format, rfl, rfl⟩

/-- A new raster has the shape that was asked for. -/
theorem shape_create
    {width channels : Nat} {component : Component}
    (h : create width channels component = .ok m) :
    m.width = width ∧ m.texelBytes = channels * component.bytes := by
  obtain ⟨format, _, rfl⟩ := exists_format_of_create h
  exact ⟨rfl, rfl⟩

theorem storedBytes_le_of_create
    {width channels : Nat} {component : Component}
    (h : create width channels component = .ok m) :
    m.storedBytes ≤ 16 := by
  obtain ⟨format, _, rfl⟩ := exists_format_of_create h
  exact format.bytes_le

/-- A new raster is blank if a word counts its bytes. -/
theorem isBlank_create
    {width channels : Nat} {component : Component}
    (h : create width channels component = .ok m)
    (hcounted : width * width * m.storedBytes < longModulus) :
    IsBlank m := by
  obtain ⟨format, hformat, rfl⟩ := exists_format_of_create h
  obtain ⟨hpos, hstored⟩ := TexelFormat.bytes_of_choose hformat
  have htexels : zeroBytes (width * width * format.bytes % longModulus) =
      zeroBytes (width * width * format.bytes) :=
    congrArg zeroBytes (Nat.mod_eq_of_lt hcounted)
  exact ⟨⟨hpos, hstored, hcounted, (congrArg ByteArray.size htexels).trans (size_zeroBytes _)⟩,
    htexels⟩

theorem IsBlank.byte?_eq
    (h : IsBlank m)
    (hx : x < m.width)
    (hy : y < m.width)
    (hbyte : byte < m.storedBytes) :
    m.byte? x y byte = some 0 := by
  rw [byte?, h.texels, zeroBytes, Array.getElem?_replicate,
    if_pos (rowMajor_lt hbyte (rowMajor_lt hx hy))]

/-- A word counts the bytes of a rectangle inside the square. -/
theorem length_lt_of_inside
    (hm : IsProper m)
    (hwidth : r.x + r.width ≤ m.width)
    (hheight : r.y + r.height ≤ m.width) :
    r.width * r.height * m.texelBytes < longModulus :=
  Nat.lt_of_le_of_lt
    (Nat.mul_le_mul (Nat.mul_le_mul (by omega) (by omega)) hm.stored) hm.counted

/-- Data of the length that is expected are accepted inside the square. -/
theorem objection?_eq_none_iff_mod
    {length : Nat} :
    m.objection? length r = none ↔
      length = r.width * r.height * m.texelBytes % longModulus ∧
        r.x + r.width ≤ m.width ∧ r.y + r.height ≤ m.width := by
  simp only [objection?]
  split
  · rename_i hlength
    simp [hlength]
  · rename_i hlength
    split
    · rename_i hout
      constructor
      · intro h
        cases h
      · rintro ⟨_, hx, hy⟩
        omega
    · rename_i hin
      refine ⟨fun _ => ⟨by omega, by omega, by omega⟩, fun _ => rfl⟩

/--
A number of bytes that no word counts belongs to a rectangle that leaves the square, so exactly
those data are accepted that fit.
-/
theorem objection?_eq_none_iff
    (hm : IsProper m)
    {length : Nat} :
    m.objection? length r = none ↔
      length = r.width * r.height * m.texelBytes ∧
        r.x + r.width ≤ m.width ∧ r.y + r.height ≤ m.width := by
  rw [objection?_eq_none_iff_mod]
  refine and_congr_left ?_
  rintro ⟨hwidth, hheight⟩
  rw [Nat.mod_eq_of_lt (length_lt_of_inside hm hwidth hheight)]

/-- Data that fit a rectangle are as many texels as the rectangle has. -/
theorem size_of_fits
    (hm : IsProper m)
    (hfits : m.objection? data.size r = none) :
    data.size = r.height * r.width * m.texelBytes := by
  rw [((objection?_eq_none_iff hm).mp hfits).1, Nat.mul_comm r.width]

theorem size_padTexels_of_fits
    (hm : IsProper m)
    (hfits : m.objection? data.size r = none) :
    (padTexels m.texelBytes m.storedBytes data).size = r.height * r.width * m.storedBytes :=
  size_padTexels hm.pos hm.stored (size_of_fits hm hfits)

/-- A write sets the texels of its rectangle and leaves all others alone. -/
theorem byte?_write
    (hm : IsProper m)
    (hfits : m.objection? data.size r = none)
    (hx : x < m.width)
    (hbyte : byte < m.storedBytes) :
    (m.write data r).byte? x y byte =
      if r.x ≤ x ∧ x < r.x + r.width ∧ r.y ≤ y ∧ y < r.y + r.height then
        if byte < m.texelBytes then
          data.data[((y - r.y) * r.width + (x - r.x)) * m.texelBytes + byte]?
        else
          some 0
      else
        m.byte? x y byte := by
  obtain ⟨_, hwidth, hheight⟩ := (objection?_eq_none_iff hm).mp hfits
  have hpadded := Nat.le_of_eq (size_padTexels_of_fits hm hfits).symm
  have hrows := (getElem?_foldl_writeRow hwidth hheight hm.size hpadded).2 x y byte hx hbyte
  refine hrows.trans ?_
  split
  · rename_i hcovered
    obtain ⟨_, _, _, _⟩ := hcovered
    exact getElem?_padTexels hm.pos hm.stored (size_of_fits hm hfits)
      (rowMajor_lt (by omega) (by omega)) hbyte
  · rfl

theorem isProper_write
    (hm : IsProper m)
    (hfits : m.objection? data.size r = none) :
    IsProper (m.write data r) := by
  obtain ⟨_, hwidth, hheight⟩ := (objection?_eq_none_iff hm).mp hfits
  have hpadded := Nat.le_of_eq (size_padTexels_of_fits hm hfits).symm
  exact ⟨hm.pos, hm.stored, hm.counted,
    (getElem?_foldl_writeRow hwidth hheight hm.size hpadded).1.trans hm.size⟩

end Raster

end Writing

end VoxelCache
