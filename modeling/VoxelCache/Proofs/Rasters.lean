import VoxelCache.Proofs.UpdateFailures

/-!
# Runs on rasters

Textures may be set up any number of times, for voxels of any size, with rasters that become
ready and cease to be.  As long as none of them are taped, they have the shapes that the
residency needs, and nobody but the residency writes to them.

**Invariant.**
* `Residency.IsRastered`: the slots are laid out, the data textures are rasters for them, and the
  look-up texture is a raster that stores the look-up entries byte by byte.

**Results.**
* `Raster.texels_eq_of_shows`: a raster that shows some data everywhere consists of these data.
* `Move.device_cases`: a move writes to one slot, or it uploads the look-up entries, or it
  leaves the device alone.
* `Reachable.isRastered`: the invariant holds in every run on rasters.
-/

namespace VoxelCache

section Overwriting

namespace Raster

variable {m m' m'' : Raster} {data : ByteArray} {r : Rect}

/-- Whether a raster has the shape of an earlier one, and is as proper. -/
structure SameShape (m m' : Raster) : Prop where
  width : m'.width = m.width
  texelBytes : m'.texelBytes = m.texelBytes
  storedBytes : m'.storedBytes = m.storedBytes
  proper : m.IsProper → m'.IsProper

theorem SameShape.refl (m : Raster) : SameShape m m :=
  ⟨rfl, rfl, rfl, id⟩

theorem SameShape.trans
    (h : SameShape m m')
    (h' : SameShape m' m'') :
    SameShape m m'' where
  width := h'.width.trans h.width
  texelBytes := h'.texelBytes.trans h.texelBytes
  storedBytes := h'.storedBytes.trans h.storedBytes
  proper hm := h'.proper (h.proper hm)

theorem sameShape_write
    (hfits : m.objection? data.size r = none) :
    SameShape m (m.write data r) :=
  ⟨rfl, rfl, rfl, fun hm => isProper_write hm hfits⟩

/-- A raster that shows some data everywhere, without padding, consists of these data. -/
theorem texels_eq_of_shows
    (hm : IsProper m)
    (hstored : m.storedBytes = m.texelBytes)
    (hdata : data.size = m.width * m.width * m.texelBytes)
    (h : m.Shows ⟨0, 0, m.width, m.width⟩ data) :
    m.texels = data := by
  have hsize : m.texels.size = m.width * m.width * m.texelBytes := hstored ▸ hm.size
  refine ByteArray.ext (Array.ext_getElem? fun i => ?_)
  by_cases hi : i < m.width * m.width * m.texelBytes
  · obtain ⟨row, column, byte, hrow, hcolumn, hbyte, rfl⟩ := exists_texelMajor hi
    have hshown := h row column byte hrow hcolumn (Nat.lt_of_lt_of_eq hbyte hstored.symm)
    dsimp only at hshown
    rwa [if_pos hbyte, byte?, Nat.zero_add, Nat.zero_add, hstored] at hshown
  · rw [Array.getElem?_eq_none (by rw [ByteArray.size_data]; omega),
      Array.getElem?_eq_none (by rw [ByteArray.size_data]; omega)]

/-- The look-up entries need no padding. -/
theorem storedBytes_create
    {width : Nat}
    (h : create width LookUp.channels .single = .ok m) :
    m.storedBytes = m.texelBytes := by
  cases h
  rfl

end Raster

namespace Device

variable {d d' d'' : Device} {ref : TextureRef} {raster : Raster} {switch : Nat}

/-- Whether the rasters of a device are still there, with texels that may be others. -/
def Overwrites (d d' : Device) : Prop :=
  ∀ ref raster switch, d.texture ref = .kept raster switch →
    ∃ raster', d'.texture ref = .kept raster' switch ∧ raster.SameShape raster'

theorem Overwrites.trans
    (h : Overwrites d d')
    (h' : Overwrites d' d'') :
    Overwrites d d'' := by
  intro ref raster switch hraster
  obtain ⟨raster', hraster', hshape⟩ := h ref raster switch hraster
  obtain ⟨raster'', hraster'', hshape'⟩ := h' ref raster' switch hraster'
  exact ⟨raster'', hraster'', hshape.trans hshape'⟩

/-- Rasters stay when further textures are created. -/
theorem Extends.overwrites (h : Extends d d') : Overwrites d d' := fun ref raster _ hraster =>
  ⟨raster, (h.texture ref (lt_of_texture_eq_kept hraster)).trans hraster, .refl raster⟩

theorem overwrites_of_textures (h : d'.textures = d.textures) : Overwrites d d' :=
  Extends.overwrites ⟨by rw [h], fun ref _ => by rw [texture, texture, h]⟩

theorem overwrites_update (d : Device) (ref : TextureRef) (data : ByteArray) (r : Rect) :
    Overwrites d (d.update ref data r).2 := by
  intro other raster switch hraster
  by_cases hsame : other = ref
  · subst hsame
    by_cases hfits : raster.objection? data.size r = none
    · obtain ⟨d', hupdate, hafter⟩ := update_of_kept hraster hfits
      rw [hupdate]
      exact ⟨_, hafter, Raster.sameShape_write hfits⟩
    · obtain ⟨_, hupdate⟩ := update_of_objection hraster hfits
      rw [hupdate]
      exact ⟨raster, hraster, .refl raster⟩
  · exact ⟨raster, (texture_update_of_ne data r hsame).trans hraster, .refl raster⟩

end Device

end Overwriting

section Writing

open Residency

variable {opening : Bool} {w w' : World}

/--
A move writes the payload of an active bucket to its slot, or it uploads the look-up entries, or
it leaves the device alone.
-/
theorem Move.device_cases
    (h : Move opening w w') :
    (w'.scene.device = w.scene.device ∧
      w'.residency.isUploadPending = w.residency.isUploadPending) ∨
    (∃ a ∈ w.residency.active, ∃ payload,
      w'.scene.device = (w.residency.writeSlot w.scene a.slot payload).2.device ∧
      w'.residency.isUploadPending = w.residency.isUploadPending) ∨
    w' = w.upload := by
  cases h with
  | journal => exact .inl ⟨rfl, rfl⟩
  | @hear _ _ notice rest _ =>
      refine .inl ⟨device_react _ _ notice, ?_⟩
      rcases w.hear_cases notice rest with ⟨_, h⟩ | ⟨_, ⟨_, h⟩ | ⟨a, _, _, h⟩⟩ <;> rw [h] <;> rfl
  | @forgo _ _ a _ => exact .inl ⟨device_dismiss _ _ a, rfl⟩
  | aim => exact .inl ⟨rfl, rfl⟩
  | reserve _ _ _ _ => exact .inl ⟨rfl, rfl⟩
  | thin => exact .inl ⟨rfl, rfl⟩
  | skip _ _ => exact .inl ⟨rfl, rfl⟩
  | @fail _ _ r rest a payload _ _ _ _ ha hslot _ hfail =>
      refine .inr (.inl ⟨a, (find?_eq_some ha).1, payload, ?_, rfl⟩)
      rw [hslot, hfail]
  | @write _ _ r rest a payload s _ _ ha hslot _ hwrite =>
      refine .inr (.inl ⟨a, (find?_eq_some ha).1, payload, ?_, rfl⟩)
      rw [hslot, hwrite]
      exact device_markCommitted { w.residency with queue := rest } s a
  | upload => exact .inr (.inr rfl)

/-- Moves change nothing of rasters but their texels. -/
theorem Move.overwrites
    (h : Move opening w w') :
    Device.Overwrites w.scene.device w'.scene.device := by
  rcases h.device_cases with ⟨hdevice, _⟩ | ⟨a, _, payload, hdevice, _⟩ | rfl
  · exact Device.overwrites_of_textures (congrArg Device.textures hdevice)
  · rw [hdevice]
    exact Device.overwrites_update w.scene.device _ payload _
  · show Device.Overwrites w.scene.device (w.residency.upload w.scene).2.2.device
    rcases w.residency.device_upload_cases w.scene with hdevice | ⟨ref, _, hdevice⟩
    · exact Device.overwrites_of_textures (congrArg Device.textures hdevice)
    · rw [hdevice]
      exact Device.overwrites_update _ _ _ _

end Writing

section Rastered

namespace Residency

variable {m m' : Residency} {s s' : Scene} {d d' : Device}

/--
Whether the slots are laid out and the textures are rasters for them, and one that stores the
look-up entries byte by byte.
-/
structure IsRastered (m : Residency) (d : Device) : Prop where
  layout : m.layout.IsProper
  equipped : m.lookUpTexture.isSome = true → ∃ bytes, m.IsEquipped d bytes
  lookUp : ∀ ref, m.lookUpTexture = some ref →
    ∃ raster switch, d.texture ref = .kept raster switch ∧ raster.IsProper ∧
      raster.width = m.settings.lookUpWidth ∧
      raster.texelBytes = LookUp.channels * Component.single.bytes ∧
      raster.storedBytes = raster.texelBytes

/-- Rasters for the slots stay such rasters when they are written to. -/
theorem IsEquipped.of_overwrites
    {bytes : Nat}
    (h : m.IsEquipped d bytes)
    (hlayout : m'.layout = m.layout)
    (hdata : m'.dataTextures = m.dataTextures)
    (hlookUp : m'.lookUpTexture = m.lookUpTexture)
    (hdevice : Device.Overwrites d d') :
    m'.IsEquipped d' bytes where
  length := by
    rw [hdata, hlayout]
    exact h.length
  nodup := hdata ▸ h.nodup
  apart := by
    rw [hlookUp, hdata]
    exact h.apart
  rasters := by
    rw [hdata, hlayout]
    intro ref href
    obtain ⟨raster, switch, hraster, hproper, hwidth, htexelBytes⟩ := h.rasters ref href
    obtain ⟨raster', hraster', hshape⟩ := hdevice ref raster switch hraster
    exact ⟨raster', switch, hraster', hshape.proper hproper, hshape.width.trans hwidth,
      hshape.texelBytes.trans htexelBytes⟩

theorem IsRastered.of_overwrites
    (h : m.IsRastered d)
    (hlayout : m'.layout = m.layout)
    (hsettings : m'.settings = m.settings)
    (hdata : m'.dataTextures = m.dataTextures)
    (hlookUp : m'.lookUpTexture = m.lookUpTexture)
    (hdevice : Device.Overwrites d d') :
    m'.IsRastered d' where
  layout := hlayout ▸ h.layout
  equipped hsome := by
    obtain ⟨bytes, hequipped⟩ := h.equipped (hlookUp ▸ hsome)
    exact ⟨bytes, hequipped.of_overwrites hlayout hdata hlookUp hdevice⟩
  lookUp ref href := by
    obtain ⟨raster, switch, hraster, hproper, hwidth, htexelBytes, hstored⟩ :=
      h.lookUp ref (hlookUp ▸ href)
    obtain ⟨raster', hraster', hshape⟩ := hdevice ref raster switch hraster
    refine ⟨raster', switch, hraster', hshape.proper hproper, ?_, ?_, ?_⟩
    · rw [hshape.width, hwidth, hsettings]
    · rw [hshape.texelBytes, htexelBytes]
    · rw [hshape.storedBytes, hstored, hshape.texelBytes]

/-- A new raster for the look-up entries stores them byte by byte. -/
theorem lookUpRaster_setUp
    (m : Residency) (s : Scene) {switch bytes : Nat}
    (hok : (m.setUp s (.rasters switch) bytes).1 = .ok ()) :
    let after := m.setUp s (.rasters switch) bytes
    ∀ ref, after.2.1.lookUpTexture = some ref →
      ∃ raster switch, after.2.2.device.texture ref = .kept raster switch ∧ raster.IsProper ∧
        raster.width = after.2.1.settings.lookUpWidth ∧
        raster.texelBytes = LookUp.channels * Component.single.bytes ∧
        raster.storedBytes = raster.texelBytes := by
  intro after ref href
  rcases m.setUp_inversion s (.rasters switch) bytes with
    ⟨_, _, hfails⟩ | ⟨_, s', lookUp, d, journal, hcounted, _, hcreate, hdone⟩
  · rw [hfails] at hok
    cases hok
  · rw [show after = _ from hdone] at href ⊢
    cases href
    obtain ⟨_, _, _, raster, hkept, hraster⟩ := Device.create_rasters_eq_ok hcreate
    obtain ⟨hwidth, htexelBytes⟩ := Raster.shape_create hraster
    have hstored := Raster.storedBytes_create hraster
    have hblank : raster.IsBlank := by
      refine Raster.isBlank_create hraster ?_
      rw [hstored, htexelBytes]
      exact hcounted
    exact ⟨raster, switch, hkept, hblank.toIsProper, hwidth, htexelBytes, hstored⟩

/-- New rasters either have the right shapes, or the old textures stay. -/
theorem IsRastered.of_setUp
    (h : m.IsRastered s.device)
    (switch bytes : Nat) :
    let after := m.setUp s (.rasters switch) bytes
    after.2.1.IsRastered after.2.2.device := by
  intro after
  have hextends := m.extends_setUp s (.rasters switch) bytes
  rcases isFresh_setUp h.layout s switch bytes with ⟨fault, _, hsame⟩ | ⟨hok, hfresh⟩
  · refine h.of_overwrites ?_ ?_ ?_ ?_ hextends.overwrites <;> rw [hsame]
  · exact ⟨(m.layout_setUp s (.rasters switch) bytes).symm ▸ h.layout,
      fun _ => ⟨bytes, hfresh.equipped⟩, m.lookUpRaster_setUp s hok⟩

end Residency

open Residency

/-- Whether an operation creates no taped textures. -/
def UsesRasters (_ : World) : Operation → Prop
  | .setUp (.tapes _) _ => False
  | _ => True

variable {opening : Bool} {s₀ : Scene} {w w' : World}

theorem Residency.IsRastered.of_move
    (h : w.residency.IsRastered w.scene.device)
    (hmove : Move opening w w') :
    w'.residency.IsRastered w'.scene.device :=
  h.of_overwrites hmove.retains.layout hmove.retains.settings hmove.retains.dataTextures
    hmove.retains.lookUpTexture hmove.overwrites

theorem Residency.IsRastered.of_other
    {op : Operation}
    (h : w.residency.IsRastered w.scene.device)
    (hop : op.isWork = false)
    (hrasters : UsesRasters w op) :
    (w.step op).residency.IsRastered (w.step op).scene.device := by
  cases op with
  | occurrence o =>
      rw [w.step_occurrence]
      exact h.of_overwrites rfl rfl rfl rfl
        (Device.overwrites_of_textures (w.scene.textures_occur o))
  | setUp factory bytes =>
      cases factory with
      | rasters switch => exact h.of_setUp switch bytes
      | tapes tape => exact hrasters.elim
  | _ => cases hop

theorem isRastered_create
    {width textures packing : Nat} {settings : Settings} {m : Residency} {s : Scene}
    (h : Residency.create s₀ width textures packing settings = (.ok m, s)) :
    m.IsRastered s.device := by
  obtain ⟨_, _, hlayout, _, _, rfl⟩ := Residency.create_eq_ok h
  exact ⟨SlotLayout.isProper_create hlayout, nofun, nofun⟩

/-- In every run on rasters the textures have the shapes that the residency needs. -/
theorem Reachable.isRastered
    (h : Reachable UsesRasters s₀ w) :
    w.residency.IsRastered w.scene.device := by
  refine (h.of_moves (P := fun w => w.residency.IsRastered w.scene.device) (Q := fun _ => True)
    ?_ ?_ ?_ ?_ ?_).1
  · exact fun hcreate => ⟨isRastered_create hcreate, trivial⟩
  · exact fun _ hother _ hrasters hw _ => ⟨hw.of_other hother hrasters, trivial⟩
  · exact fun _ hmove hw => hw.of_move hmove
  · exact fun _ _ _ _ => trivial
  · exact fun _ _ _ _ hw =>
      ⟨hw.of_overwrites rfl rfl rfl rfl (Device.overwrites_of_textures rfl), trivial⟩

end Rastered

end VoxelCache
