import VoxelCache.Proofs.RasterBytes
import VoxelCache.Residency.Commit
import Mathlib.Data.List.Nodup

/-!
# Slots on the textures

Slots are rectangles of the data textures that never overlap, so a payload that is
written into its slot disturbs no other slot.

**Results.**
* `SlotLayout.isProper_create`: a bucket fills its slot exactly, and slots fit.
* `writeSlot_of_isEquipped`: a write of a payload of the right size succeeds, and only
  its own slot changes.
* `writeSlot_of_size_ne`: a write of a payload of another size changes nothing.
* `isFresh_setUp`: rasters that are created for the slots have the right shape and are blank.
-/

namespace VoxelCache

section Rectangles

/-- Whether two rectangles have no texel in common. -/
def Rect.Apart (r q : Rect) : Prop :=
  r.x + r.width ≤ q.x ∨ q.x + q.width ≤ r.x ∨ r.y + r.height ≤ q.y ∨ q.y + q.height ≤ r.y

/-- Whether a rectangle covers a texel. -/
def Rect.Covers (r : Rect) (x y : Nat) : Prop :=
  r.x ≤ x ∧ x < r.x + r.width ∧ r.y ≤ y ∧ y < r.y + r.height

/-- Rectangles that cover a common texel are not apart. -/
theorem Rect.Apart.not_covers
    {r q : Rect} {x y : Nat}
    (h : r.Apart q)
    (hcovers : r.Covers x y) :
    ¬ q.Covers x y := by
  unfold Apart Covers at *
  omega

namespace Raster

variable {m : Raster} {data other : ByteArray} {r q : Rect}

/-- Whether a rectangle shows some data, each texel filled up with zeros. -/
def Shows (m : Raster) (r : Rect) (data : ByteArray) : Prop :=
  ∀ row column byte, row < r.height → column < r.width → byte < m.storedBytes →
    m.byte? (r.x + column) (r.y + row) byte =
      if byte < m.texelBytes then
        data.data[(row * r.width + column) * m.texelBytes + byte]?
      else
        some 0

theorem shows_write
    (hm : IsProper m)
    (hfits : m.objection? data.size r = none) :
    (m.write data r).Shows r data := by
  obtain ⟨_, hwidth, _⟩ := (objection?_eq_none_iff hm).mp hfits
  intro row column byte hrow hcolumn hbyte
  rw [byte?_write hm hfits (by omega) hbyte, if_pos (by omega), Nat.add_sub_cancel_left,
    Nat.add_sub_cancel_left]
  rfl

/-- Whether a rectangle has the same texels on a later raster of the same shape. -/
structure SameIn (m m' : Raster) (r : Rect) : Prop where
  texelBytes : m'.texelBytes = m.texelBytes
  storedBytes : m'.storedBytes = m.storedBytes
  texels : ∀ row column byte, row < r.height → column < r.width → byte < m.storedBytes →
    m'.byte? (r.x + column) (r.y + row) byte = m.byte? (r.x + column) (r.y + row) byte

theorem SameIn.refl (m : Raster) (r : Rect) : SameIn m m r :=
  ⟨rfl, rfl, fun _ _ _ _ _ _ => rfl⟩

theorem SameIn.trans
    {m' m'' : Raster}
    (h : SameIn m m' r)
    (h' : SameIn m' m'' r) :
    SameIn m m'' r where
  texelBytes := h'.texelBytes.trans h.texelBytes
  storedBytes := h'.storedBytes.trans h.storedBytes
  texels row column byte hrow hcolumn hbyte :=
    (h'.texels row column byte hrow hcolumn (h.storedBytes.symm ▸ hbyte)).trans
      (h.texels row column byte hrow hcolumn hbyte)

theorem SameIn.shows
    {m' : Raster}
    (h : SameIn m m' r)
    (hshows : m.Shows r data) :
    m'.Shows r data := by
  intro row column byte hrow hcolumn hbyte
  rw [h.storedBytes] at hbyte
  rw [h.texels row column byte hrow hcolumn hbyte, h.texelBytes]
  exact hshows row column byte hrow hcolumn hbyte

/-- A write leaves the texels alone that lie apart from it. -/
theorem sameIn_write_of_apart
    (hm : IsProper m)
    (hfits : m.objection? data.size r = none)
    (hinside : q.x + q.width ≤ m.width)
    (hapart : r.Apart q) :
    SameIn m (m.write data r) q := by
  refine ⟨rfl, rfl, ?_⟩
  intro row column byte hrow hcolumn hbyte
  unfold Rect.Apart at hapart
  rw [byte?_write hm hfits (by omega) hbyte, if_neg (by omega)]

/-- A blank raster shows zeros everywhere. -/
theorem IsBlank.shows
    (hm : IsBlank m)
    (hwidth : r.x + r.width ≤ m.width)
    (hheight : r.y + r.height ≤ m.width) :
    m.Shows r (zeroBytes (r.width * r.height * m.texelBytes)) := by
  intro row column byte hrow hcolumn hbyte
  rw [hm.byte?_eq (by omega) (by omega) hbyte]
  split
  · rename_i hdata
    have hplace := rowMajor_lt hdata (rowMajor_lt hcolumn hrow)
    rw [zeroBytes, Array.getElem?_replicate, if_pos (by rwa [Nat.mul_comm r.width])]
  · rfl

/-- A rectangle shows no two different pieces of data that fill it. -/
theorem shows_inj
    (hm : IsProper m)
    (hdata : data.size = r.width * r.height * m.texelBytes)
    (hother : other.size = r.width * r.height * m.texelBytes)
    (h : m.Shows r data)
    (h' : m.Shows r other) :
    data = other := by
  have hbytes : ∀ i < r.width * r.height * m.texelBytes, data.data[i]? = other.data[i]? := by
    intro i hi
    rw [Nat.mul_comm r.width] at hi
    obtain ⟨row, column, byte, hrow, hcolumn, hbyte, rfl⟩ := exists_texelMajor hi
    have hstored : byte < m.storedBytes := Nat.lt_of_lt_of_le hbyte hm.stored
    have hsame := (h _ _ _ hrow hcolumn hstored).symm.trans (h' _ _ _ hrow hcolumn hstored)
    rwa [if_pos hbyte, if_pos hbyte] at hsame
  refine ByteArray.ext (Array.ext_getElem? fun i => ?_)
  by_cases hi : i < r.width * r.height * m.texelBytes
  · exact hbytes i hi
  · rw [Array.getElem?_eq_none (by rw [ByteArray.size_data]; omega),
      Array.getElem?_eq_none (by rw [ByteArray.size_data]; omega)]

end Raster

namespace SlotLayout

variable {layout : SlotLayout} {slot other : Nat}

/-- Whether a bucket fills its slot exactly, and the slots of a texture fit into it. -/
structure IsProper (layout : SlotLayout) : Prop where
  texels : layout.width * layout.slotRows * layout.packing = bucketVoxels
  rows : layout.slotRows * layout.slotsPerTexture ≤ layout.width

/-- What is known of the textures of an accepted layout. -/
theorem create_eq_ok
    {width textures packing : Nat}
    (h : create width textures packing = .ok layout) :
    (packing = 1 ∨ packing = 2 ∨ packing = 4) ∧ 0 < width ∧ width ∣ packedBucket packing ∧
      packedBucket packing / width ≤ width ∧
      layout = ⟨width, textures, packing, packedBucket packing / width,
        width / (packedBucket packing / width)⟩ := by
  unfold create at h
  dsimp only at h
  split at h
  · cases h
  · split at h
    · cases h
    · split at h
      · cases h
      · cases h
        exact ⟨by omega, by omega, Nat.dvd_of_mod_eq_zero (by omega), by omega, rfl⟩

theorem isProper_create
    {width textures packing : Nat}
    (h : create width textures packing = .ok layout) :
    IsProper layout := by
  obtain ⟨hpacking, _, hdvd, _, rfl⟩ := create_eq_ok h
  have hpacked : packedBucket packing * packing = bucketVoxels := by
    rcases hpacking with rfl | rfl | rfl <;> rfl
  constructor
  · dsimp only
    rw [Nat.mul_div_cancel' hdvd, hpacked]
  · exact Nat.mul_div_le _ _

/-- A texture is at most as wide as a bucket has voxels. -/
theorem IsProper.width_le
    (h : IsProper layout) :
    layout.width ≤ bucketVoxels := by
  have hpos : 0 < layout.slotRows * layout.packing := by
    rw [Nat.pos_iff_ne_zero]
    intro hzero
    have htexels := h.texels
    rw [Nat.mul_assoc, hzero] at htexels
    cases htexels
  rw [← h.texels, Nat.mul_assoc]
  exact Nat.le_mul_of_pos_right _ hpos

theorem slotsPerTexture_pos
    (h : slot < layout.capacity) :
    0 < layout.slotsPerTexture :=
  Nat.pos_of_lt_mul_right h

theorem textureOf_lt
    (h : slot < layout.capacity) :
    layout.textureOf slot < layout.textures :=
  Nat.div_lt_of_lt_mul h

/-- A slot lies inside its texture. -/
theorem rectOf_le
    (hlayout : IsProper layout)
    (h : slot < layout.capacity) :
    (layout.rectOf slot).y + (layout.rectOf slot).height ≤ layout.width := by
  have hrow : slot % layout.slotsPerTexture < layout.slotsPerTexture :=
    Nat.mod_lt _ (slotsPerTexture_pos h)
  calc layout.slotRows * (slot % layout.slotsPerTexture) + layout.slotRows
      = layout.slotRows * (slot % layout.slotsPerTexture + 1) := (Nat.mul_succ _ _).symm
    _ ≤ layout.slotRows * layout.slotsPerTexture := Nat.mul_le_mul_left _ hrow
    _ ≤ layout.width := hlayout.rows

/-- Different slots of one texture do not overlap. -/
theorem rectOf_apart
    (htexture : layout.textureOf slot = layout.textureOf other)
    (hne : slot ≠ other) :
    (layout.rectOf slot).Apart (layout.rectOf other) := by
  have hplace : slot % layout.slotsPerTexture ≠ other % layout.slotsPerTexture := by
    intro hsame
    refine hne ?_
    rw [textureOf, textureOf] at htexture
    rw [← Nat.div_add_mod slot layout.slotsPerTexture, htexture, hsame, Nat.div_add_mod]
  refine .inr (.inr ?_)
  dsimp only [rectOf]
  rw [← Nat.mul_succ, ← Nat.mul_succ]
  rcases Nat.lt_or_gt_of_ne hplace with hlt | hgt
  · exact .inl (Nat.mul_le_mul_left _ hlt)
  · exact .inr (Nat.mul_le_mul_left _ hgt)

end SlotLayout

end Rectangles

section Devices

namespace Device

variable {d : Device} {ref other : TextureRef} {raster : Raster} {switch : Nat}

theorem texture_update_of_ne
    (data : ByteArray) (r : Rect)
    (h : other ≠ ref) :
    (d.update ref data r).2.texture other = d.texture other := by
  unfold update
  split
  · split
    · rfl
    · simp [texture, Array.getElem?_setIfInBounds_ne (Ne.symm h)]
  · dsimp only
    split <;> rfl

theorem lt_of_texture_eq_kept
    (h : d.texture ref = .kept raster switch) :
    ref < d.textures.size := by
  by_cases hin : ref < d.textures.size
  · exact hin
  · have hdefault : d.texture ref = default := by
      simp [texture, Array.getD, hin]
    rw [hdefault] at h
    cases h

/-- A write makes no texture ready, and none cease to be. -/
theorem isReady_update
    (d : Device) (ref : TextureRef) (data : ByteArray) (r : Rect) (other : TextureRef) :
    (d.update ref data r).2.isReady other = d.isReady other := by
  by_cases hsame : other = ref
  · subst hsame
    unfold update
    split
    · rename_i raster switch hraster
      split
      · rfl
      · have hin := lt_of_texture_eq_kept hraster
        simp only [isReady, hraster]
        simp [texture, hin]
    · dsimp only
      split <;> rfl
  · have hswitches : (d.update ref data r).2.switches = d.switches := by
      unfold update
      split
      · split <;> rfl
      · dsimp only
        split <;> rfl
    simp only [isReady, texture_update_of_ne data r hsame, hswitches]

/-- A write to which a raster objects changes nothing. -/
theorem update_of_objection
    {data : ByteArray} {r : Rect}
    (h : d.texture ref = .kept raster switch)
    (hobjection : raster.objection? data.size r ≠ none) :
    ∃ cause, d.update ref data r = (.error (.update cause), d) := by
  obtain ⟨cause, hcause⟩ := Option.ne_none_iff_exists'.mp hobjection
  refine ⟨cause, ?_⟩
  rw [update, h]
  simp only [Raster.update, hcause]

/-- A write that a raster accepts succeeds. -/
theorem update_of_kept
    {data : ByteArray} {r : Rect}
    (h : d.texture ref = .kept raster switch)
    (hfits : raster.objection? data.size r = none) :
    ∃ d', d.update ref data r = (.ok (), d') ∧
      d'.texture ref = .kept (raster.write data r) switch := by
  have hupdate : raster.update data r = .ok (raster.write data r) := by
    rw [Raster.update, hfits]
  let written : Texture := .kept (raster.write data r) switch
  refine ⟨{ d with textures := d.textures.setIfInBounds ref written }, ?_, ?_⟩
  · rw [update, h]
    simp only [hupdate, written]
  · simp [texture, lt_of_texture_eq_kept h, written]

end Device

namespace Residency

variable {m m' : Residency} {s : Scene} {d d' : Device} {bytes slot other : Nat}
  {payload : Payload}

/-- Whether the textures of a residency are rasters for voxels of `bytes` bytes. -/
structure IsEquipped (m : Residency) (d : Device) (bytes : Nat) : Prop where
  length : m.dataTextures.length = m.layout.textures
  nodup : m.dataTextures.Nodup
  apart : ∀ ref, m.lookUpTexture = some ref → ref ∉ m.dataTextures
  rasters : ∀ ref ∈ m.dataTextures, ∃ raster switch, d.texture ref = .kept raster switch ∧
    raster.IsProper ∧ raster.width = m.layout.width ∧
    raster.texelBytes = bytes * m.layout.packing

theorem IsEquipped.of_same
    (h : m.IsEquipped d bytes)
    (hlayout : m'.layout = m.layout)
    (hdata : m'.dataTextures = m.dataTextures)
    (hlookUp : m'.lookUpTexture = m.lookUpTexture)
    (hsame : ∀ ref ∈ m.dataTextures, d'.texture ref = d.texture ref) :
    m'.IsEquipped d' bytes where
  length := by
    rw [hdata, hlayout]
    exact h.length
  nodup := by
    rw [hdata]
    exact h.nodup
  apart := by
    rw [hlookUp, hdata]
    exact h.apart
  rasters := by
    rw [hdata, hlayout]
    intro ref href
    rw [hsame ref href]
    exact h.rasters ref href

/-- The data texture in which a slot lies. -/
def slotTexture (m : Residency) (slot : Nat) : TextureRef :=
  m.dataTextures.getD (m.layout.textureOf slot) 0

/-- Whether a slot shows a payload, each texel filled up with zeros. -/
def ShowsIn (m : Residency) (d : Device) (slot : Nat) (payload : Payload) : Prop :=
  ∃ raster switch, d.texture (m.slotTexture slot) = .kept raster switch ∧
    raster.Shows (m.layout.rectOf slot) payload

theorem IsEquipped.slotTexture_mem
    (h : m.IsEquipped d bytes)
    (hslot : slot < m.capacity) :
    m.slotTexture slot ∈ m.dataTextures := by
  have hlt : m.layout.textureOf slot < m.dataTextures.length := by
    rw [h.length]
    exact SlotLayout.textureOf_lt hslot
  rw [slotTexture, List.getD_eq_getElem?_getD, List.getElem?_eq_getElem hlt]
  exact List.getElem_mem hlt

/-- Slots on one texture lie on the same texture of the layout. -/
theorem IsEquipped.textureOf_eq
    (h : m.IsEquipped d bytes)
    (hslot : slot < m.capacity)
    (hother : other < m.capacity)
    (hsame : m.slotTexture slot = m.slotTexture other) :
    m.layout.textureOf slot = m.layout.textureOf other := by
  have hlt : m.layout.textureOf slot < m.dataTextures.length := by
    rw [h.length]
    exact SlotLayout.textureOf_lt hslot
  have hlt' : m.layout.textureOf other < m.dataTextures.length := by
    rw [h.length]
    exact SlotLayout.textureOf_lt hother
  rw [slotTexture, slotTexture, List.getD_eq_getElem?_getD, List.getD_eq_getElem?_getD,
    List.getElem?_eq_getElem hlt, List.getElem?_eq_getElem hlt'] at hsame
  exact (List.Nodup.getElem_inj_iff h.nodup).mp hsame

/-- Whether a slot has kept all its texels. -/
structure KeepsSlot (m m' : Residency) (d d' : Device) (slot : Nat) : Prop where
  rect : m'.layout.rectOf slot = m.layout.rectOf slot
  texels : ∀ raster switch, d.texture (m.slotTexture slot) = .kept raster switch →
    ∃ raster', d'.texture (m'.slotTexture slot) = .kept raster' switch ∧
      raster.SameIn raster' (m.layout.rectOf slot)

theorem KeepsSlot.trans
    {m'' : Residency} {d'' : Device}
    (h : KeepsSlot m m' d d' slot)
    (h' : KeepsSlot m' m'' d' d'' slot) :
    KeepsSlot m m'' d d'' slot where
  rect := h'.rect.trans h.rect
  texels raster switch hraster := by
    obtain ⟨raster', hraster', hsame⟩ := h.texels raster switch hraster
    obtain ⟨raster'', hraster'', hsame'⟩ := h'.texels raster' switch hraster'
    rw [h.rect] at hsame'
    exact ⟨raster'', hraster'', hsame.trans hsame'⟩

theorem keepsSlot_of_same
    (hlayout : m'.layout = m.layout)
    (hdata : m'.dataTextures = m.dataTextures)
    (hsame : d'.texture (m.slotTexture slot) = d.texture (m.slotTexture slot)) :
    KeepsSlot m m' d d' slot where
  rect := by rw [hlayout]
  texels raster switch hraster := by
    have htexture : m'.slotTexture slot = m.slotTexture slot := by
      rw [slotTexture, hdata, hlayout, slotTexture]
    exact ⟨raster, by rw [htexture, hsame, hraster], .refl raster _⟩

/-- A slot that has kept its texels shows what it showed. -/
theorem KeepsSlot.shows
    (h : KeepsSlot m m' d d' slot)
    (hshows : m.ShowsIn d slot payload) :
    m'.ShowsIn d' slot payload := by
  obtain ⟨raster, switch, hraster, hshown⟩ := hshows
  obtain ⟨raster', hraster', hsame⟩ := h.texels raster switch hraster
  exact ⟨raster', switch, hraster', h.rect ▸ hsame.shows hshown⟩

theorem ShowsIn.of_same
    (h : m.ShowsIn d slot payload)
    (hlayout : m'.layout = m.layout)
    (hdata : m'.dataTextures = m.dataTextures)
    (hsame : d'.texture (m.slotTexture slot) = d.texture (m.slotTexture slot)) :
    m'.ShowsIn d' slot payload :=
  (keepsSlot_of_same hlayout hdata hsame).shows h

/-- The raster in which a slot lies accepts payloads of the right size there, and no others. -/
theorem IsEquipped.exists_raster
    (h : m.IsEquipped d bytes)
    (hlayout : m.layout.IsProper)
    (hslot : slot < m.capacity) :
    ∃ raster switch, d.texture (m.slotTexture slot) = .kept raster switch ∧
      raster.IsProper ∧ raster.width = m.layout.width ∧
      raster.texelBytes = bytes * m.layout.packing ∧
      ∀ length, raster.objection? length (m.layout.rectOf slot) = none ↔
        length = bucketVoxels * bytes := by
  obtain ⟨raster, switch, hraster, hproper, hwidth, htexelBytes⟩ :=
    h.rasters _ (h.slotTexture_mem hslot)
  refine ⟨raster, switch, hraster, hproper, hwidth, htexelBytes, ?_⟩
  intro length
  have hvoxels : (m.layout.rectOf slot).width * (m.layout.rectOf slot).height * raster.texelBytes =
      bucketVoxels * bytes := by
    rw [htexelBytes, ← hlayout.texels]
    dsimp only [SlotLayout.rectOf]
    rw [Nat.mul_comm bytes, Nat.mul_assoc, Nat.mul_assoc, Nat.mul_assoc]
  rw [Raster.objection?_eq_none_iff hproper, hvoxels]
  refine ⟨fun hfits => hfits.1, fun hlength => ⟨hlength, ?_, ?_⟩⟩
  · rw [hwidth]
    exact Nat.le_of_eq (Nat.zero_add _)
  · rw [hwidth]
    exact SlotLayout.rectOf_le hlayout hslot

/-- A payload of the right size is written, and no other slot is disturbed. -/
theorem writeSlot_of_isEquipped
    (hlayout : m.layout.IsProper)
    (h : m.IsEquipped s.device bytes)
    (hslot : slot < m.capacity)
    (hsize : payload.size = bucketVoxels * bytes) :
    ∃ s', m.writeSlot s slot payload = (.ok (), s') ∧
      m.IsEquipped s'.device bytes ∧
      m.ShowsIn s'.device slot payload ∧
      ∀ other < m.capacity, other ≠ slot → m.KeepsSlot m s.device s'.device other := by
  obtain ⟨raster, switch, hraster, hproper, hwidth, htexelBytes, haccepts⟩ :=
    h.exists_raster hlayout hslot
  have hfits : raster.objection? payload.size (m.layout.rectOf slot) = none :=
    (haccepts payload.size).mpr hsize
  obtain ⟨d', hupdate, hafter⟩ := Device.update_of_kept hraster hfits
  have hothers : ∀ ref, ref ≠ m.slotTexture slot → d'.texture ref = s.device.texture ref := by
    intro ref hne
    have hkept := Device.texture_update_of_ne (d := s.device) payload (m.layout.rectOf slot) hne
    rwa [hupdate] at hkept
  have hwrite : m.writeSlot s slot payload = (.ok (), { s with device := d' }) := by
    rw [writeSlot, Scene.updateTexture, ← slotTexture, hupdate]
  refine ⟨_, hwrite, ?_, ⟨_, switch, hafter, Raster.shows_write hproper hfits⟩, ?_⟩
  · refine ⟨h.length, h.nodup, h.apart, ?_⟩
    intro ref href
    by_cases hsame : ref = m.slotTexture slot
    · subst hsame
      exact ⟨_, switch, hafter, Raster.isProper_write hproper hfits, hwidth, htexelBytes⟩
    · rw [hothers ref hsame]
      exact h.rasters ref href
  · intro other hother hne
    by_cases hsame : m.slotTexture other = m.slotTexture slot
    · refine ⟨rfl, fun raster' switch' hraster' => ?_⟩
      rw [hsame, hraster] at hraster'
      cases hraster'
      refine ⟨_, by rw [hsame]; exact hafter, ?_⟩
      refine Raster.sameIn_write_of_apart hproper hfits ?_ ?_
      · rw [hwidth]
        exact Nat.le_of_eq (Nat.zero_add _)
      · exact SlotLayout.rectOf_apart (h.textureOf_eq hslot hother hsame.symm) (Ne.symm hne)
    · exact keepsSlot_of_same rfl rfl (hothers _ hsame)

/-- A slot shows no two different payloads of the right size. -/
theorem ShowsIn.inj
    {other : Payload}
    (hlayout : m.layout.IsProper)
    (hequipped : m.IsEquipped d bytes)
    (hslot : slot < m.capacity)
    (hpayload : payload.size = bucketVoxels * bytes)
    (hother : other.size = bucketVoxels * bytes)
    (h : m.ShowsIn d slot payload)
    (h' : m.ShowsIn d slot other) :
    payload = other := by
  obtain ⟨raster, switch, hraster, hproper, _, _, haccepts⟩ :=
    hequipped.exists_raster hlayout hslot
  have hfills : ∀ length, length = bucketVoxels * bytes →
      length = (m.layout.rectOf slot).width * (m.layout.rectOf slot).height * raster.texelBytes :=
    fun length hlength =>
      ((Raster.objection?_eq_none_iff hproper).mp ((haccepts length).mpr hlength)).1
  obtain ⟨_, _, hshown, hshows⟩ := h
  obtain ⟨_, _, hshown', hshows'⟩ := h'
  rw [hraster] at hshown hshown'
  cases hshown
  cases hshown'
  exact Raster.shows_inj hproper (hfills _ hpayload) (hfills _ hother) hshows hshows'

/-- A payload of another size is rejected, and nothing is changed. -/
theorem writeSlot_of_size_ne
    (hlayout : m.layout.IsProper)
    (h : m.IsEquipped s.device bytes)
    (hslot : slot < m.capacity)
    (hsize : payload.size ≠ bucketVoxels * bytes) :
    ∃ fault, m.writeSlot s slot payload = (.error fault, s) := by
  obtain ⟨raster, switch, hraster, _, _, _, haccepts⟩ := h.exists_raster hlayout hslot
  obtain ⟨cause, hupdate⟩ :=
    Device.update_of_objection hraster fun hnone => hsize ((haccepts _).mp hnone)
  refine ⟨.update cause, ?_⟩
  rw [writeSlot, Scene.updateTexture, ← slotTexture, hupdate]

/-- An upload leaves the device alone, or it writes all entries to the look-up texture. -/
theorem device_upload_cases (m : Residency) (s : Scene) :
    (m.upload s).2.2.device = s.device ∨
      ∃ ref, m.lookUpTexture = some ref ∧
        (m.upload s).2.2.device =
          (s.device.update ref m.lookUp.bytes
            ⟨0, 0, m.settings.lookUpWidth, m.settings.lookUpWidth⟩).2 := by
  unfold upload
  split
  · exact .inl rfl
  · rename_i ref href
    split
    · refine .inr ⟨ref, href, ?_⟩
      dsimp only [Scene.updateTexture]
      split <;> rename_i hupdate <;> rw [← congrArg Prod.snd hupdate]
    · exact .inl rfl

/-- An upload changes no texture but the look-up texture. -/
theorem texture_upload_of_ne
    (s : Scene) {ref : TextureRef}
    (hne : m.lookUpTexture ≠ some ref) :
    (m.upload s).2.2.device.texture ref = s.device.texture ref := by
  rcases m.device_upload_cases s with hdevice | ⟨lookUp, hlookUp, hdevice⟩
  · rw [hdevice]
  · rw [hdevice]
    exact Device.texture_update_of_ne _ _ fun hsame => hne (hsame ▸ hlookUp)

end Residency

end Devices

section Creation

namespace Device

variable {d d' : Device} {switch width channels : Nat} {component : Component} {ref : TextureRef}

theorem texture_add_of_lt
    (texture : Texture) {other : TextureRef}
    (h : other < d.textures.size) :
    (d.add texture).2.texture other = d.texture other := by
  simp [add, Device.texture, Array.getElem?_push, Nat.ne_of_lt h]

theorem texture_add_self (d : Device) (texture : Texture) :
    (d.add texture).2.texture d.textures.size = texture := by
  simp [add, Device.texture]

/-- A new raster takes the next place. -/
theorem create_rasters_eq_ok
    (h : d.create (.rasters switch) width channels component = (.ok ref, d')) :
    ref = d.textures.size ∧ d'.textures.size = d.textures.size + 1 ∧
      (∀ other, other < d.textures.size → d'.texture other = d.texture other) ∧
      ∃ raster, d'.texture ref = .kept raster switch ∧
        Raster.create width channels component = .ok raster := by
  unfold create at h
  dsimp only at h
  split at h
  · cases h
  · rename_i raster hraster
    cases h
    exact ⟨rfl, Array.size_push _, fun other hlt => texture_add_of_lt _ hlt, raster,
      texture_add_self d _, hraster⟩

end Device

/-- Rasters that are no wider than a bucket has voxels are created blank. -/
theorem Raster.isBlank_create_of_le
    {raster : Raster} {width channels : Nat} {component : Component}
    (h : create width channels component = .ok raster)
    (hwidth : width ≤ bucketVoxels) :
    raster.IsBlank := by
  have hsquare : width * width ≤ 32768 * 32768 := Nat.mul_le_mul hwidth hwidth
  have hbytes : width * width * raster.storedBytes ≤ 32768 * 32768 * 16 :=
    Nat.mul_le_mul hsquare (storedBytes_le_of_create h)
  exact isBlank_create h (Nat.lt_of_le_of_lt hbytes (by decide))

namespace Residency

variable {m : Residency} {s s' : Scene} {d : Device} {switch width channels bytes slot : Nat}

/-- New data textures take places of their own, have the right shape and are blank. -/
theorem createTextures_rasters_eq_ok
    {count : Nat} {refs : List TextureRef}
    (hwidth : width ≤ bucketVoxels)
    (h : createTextures s (.rasters switch) width channels count = (.ok refs, s')) :
    refs.length = count ∧ refs.Nodup ∧
      s.device.textures.size ≤ s'.device.textures.size ∧
      (∀ other, other < s.device.textures.size →
        s'.device.texture other = s.device.texture other) ∧
      ∀ ref ∈ refs, s.device.textures.size ≤ ref ∧ ref < s'.device.textures.size ∧
        ∃ raster, s'.device.texture ref = .kept raster switch ∧ raster.IsBlank ∧
          raster.width = width ∧ raster.texelBytes = channels := by
  induction count generalizing s refs with
  | zero =>
      cases h
      exact ⟨rfl, List.nodup_nil, Nat.le_refl _, fun _ _ => rfl, by simp⟩
  | succ count ih =>
      unfold createTextures at h
      rcases hcreate : s.device.create (.rasters switch) width channels .byte with ⟨created, d⟩
      rw [Scene.createTexture, hcreate] at h
      cases created with
      | error fault => cases h
      | ok first =>
          obtain ⟨rfl, hsize, hkept, raster, hraster, hcreated⟩ :=
            Device.create_rasters_eq_ok hcreate
          have hblank := Raster.isBlank_create_of_le hcreated hwidth
          obtain ⟨hsquare, hbytes⟩ := Raster.shape_create hcreated
          rcases hrest : createTextures { s with device := d } (.rasters switch) width channels
            count with ⟨outcome, s''⟩
          dsimp only at h
          rw [hrest] at h
          cases outcome with
          | error fault => cases h
          | ok later =>
              cases h
              obtain ⟨hlength, hnodup, hle, hold, hnew⟩ := ih hrest
              dsimp only at hle hold hnew
              have hlt : s.device.textures.size < d.textures.size := by omega
              refine ⟨by rw [List.length_cons, hlength], ?_, by omega, ?_, ?_⟩
              · refine List.nodup_cons.mpr ⟨?_, hnodup⟩
                intro hmem
                exact Nat.not_le_of_lt hlt (hnew _ hmem).1
              · intro other hlt
                rw [hold other (by omega), hkept other hlt]
              · intro ref href
                rcases List.mem_cons.mp href with rfl | href
                · refine ⟨Nat.le_refl _, Nat.lt_of_lt_of_le hlt hle, raster, ?_, hblank,
                    hsquare, ?_⟩
                  · rw [hold _ hlt, hraster]
                  · rw [hbytes]
                    exact Nat.mul_one _
                · obtain ⟨hfrom, hto, hrest⟩ := hnew ref href
                  exact ⟨Nat.le_trans (Nat.le_of_lt hlt) hfrom, hto, hrest⟩

/-- Whether the textures of a residency are rasters to which nothing was written yet. -/
structure IsFresh (m : Residency) (d : Device) (bytes : Nat) : Prop where
  equipped : m.IsEquipped d bytes
  blank : ∀ ref ∈ m.dataTextures, ∃ raster switch, d.texture ref = .kept raster switch ∧
    raster.IsBlank
  lookUp : ∃ ref, m.lookUpTexture = some ref ∧ (d.texture ref).isRaster = true

/-- New rasters have the right shape for the slots and are blank, or nothing is set up. -/
theorem isFresh_setUp
    (hlayout : m.layout.IsProper)
    (s : Scene) (switch bytes : Nat) :
    let after := m.setUp s (.rasters switch) bytes
    (∃ fault, after.1 = .error fault ∧ after.2.1 = m) ∨
      after.1 = .ok () ∧ after.2.1.IsFresh after.2.2.device bytes := by
  intro after
  rcases m.setUp_inversion s (.rasters switch) bytes with
    ⟨fault, s', hfails⟩ | ⟨refs, s', lookUp, d, journal, _, hdata, hcreate, hok⟩
  · exact .inl ⟨fault, congrArg (·.1) hfails, congrArg (·.2.1) hfails⟩
  · obtain ⟨hlength, hnodup, _, _, hrasters⟩ :=
      createTextures_rasters_eq_ok hlayout.width_le hdata
    obtain ⟨rfl, _, hkept, raster, hlookUp, _⟩ := Device.create_rasters_eq_ok hcreate
    rw [show after = _ from hok]
    refine .inr ⟨rfl, ⟨hlength, hnodup, ?_, ?_⟩, ?_, ⟨_, rfl, ?_⟩⟩
    · rintro ref hsame hmem
      cases hsame
      exact Nat.lt_irrefl _ (hrasters _ hmem).2.1
    · intro ref href
      obtain ⟨_, hlt, raster, hraster, hblank, hwidth, hbytes⟩ := hrasters ref href
      exact ⟨raster, switch, (hkept ref hlt).trans hraster, hblank.toIsProper, hwidth, hbytes⟩
    · intro ref href
      obtain ⟨_, hlt, raster, hraster, hblank, _⟩ := hrasters ref href
      exact ⟨raster, switch, (hkept ref hlt).trans hraster, hblank⟩
    · exact congrArg Texture.isRaster hlookUp

/-- A slot of new rasters shows zeros. -/
theorem IsFresh.showsIn
    (h : m.IsFresh d bytes)
    (hlayout : m.layout.IsProper)
    (hslot : slot < m.capacity) :
    m.ShowsIn d slot (zeroBytes (bucketVoxels * bytes)) := by
  obtain ⟨raster, switch, hraster, hproper, _, _, haccepts⟩ :=
    h.equipped.exists_raster hlayout hslot
  obtain ⟨_, _, hsame, hblank⟩ := h.blank _ (h.equipped.slotTexture_mem hslot)
  rw [hraster] at hsame
  cases hsame
  obtain ⟨hsize, hwidth, hheight⟩ :=
    (Raster.objection?_eq_none_iff hproper).mp ((haccepts _).mpr rfl)
  refine ⟨raster, switch, hraster, ?_⟩
  rw [hsize]
  exact hblank.shows hwidth hheight

end Residency

end Creation

end VoxelCache
