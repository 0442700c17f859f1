import VoxelCache.Proofs.Delivery
import VoxelCache.Proofs.SessionMoves

/-!
# Failures of an update

An update asks for no more buckets than there are slots, of zoom steps that the pyramid has,
and aims the window at a cell of such a zoom step.  So it fails before anything is changed,
or at its very end, where the look-up entries are uploaded; and rasters take that upload.

**Results.**
* `IsUploadable`, `isKept_isUploadable`: the look-up texture has the shape of the entries.
* `fst_activate`: what an activation of buckets that fit answers.
* `update_failsOnlyCleanly`: how an update can fail, and what it has done otherwise.
-/

namespace VoxelCache

section Shapes

namespace Device

variable {d d' d'' : Device}

/-- Whether devices differ in nothing but the contents of their textures. -/
structure Rewrites (d d' : Device) : Prop where
  size : d'.textures.size = d.textures.size
  width : ∀ ref, (d'.texture ref).width = (d.texture ref).width
  texelBytes : ∀ ref, (d'.texture ref).texelBytes = (d.texture ref).texelBytes
  isRaster : ∀ ref, (d'.texture ref).isRaster = (d.texture ref).isRaster

theorem Rewrites.trans
    (h : Rewrites d d')
    (h' : Rewrites d' d'') :
    Rewrites d d'' where
  size := h'.size.trans h.size
  width ref := (h'.width ref).trans (h.width ref)
  texelBytes ref := (h'.texelBytes ref).trans (h.texelBytes ref)
  isRaster ref := (h'.isRaster ref).trans (h.isRaster ref)

theorem rewrites_of_textures
    (h : d'.textures = d.textures) :
    Rewrites d d' := by
  have htexture : ∀ ref, d'.texture ref = d.texture ref := by
    intro ref
    rw [texture, texture, h]
  exact ⟨by rw [h], fun ref => by rw [htexture], fun ref => by rw [htexture],
    fun ref => by rw [htexture]⟩

/-- A write keeps the shape of its texture. -/
theorem rewrites_update (d : Device) (ref : TextureRef) (data : ByteArray) (r : Rect) :
    Rewrites d (d.update ref data r).2 := by
  unfold update
  split
  · rename_i raster switch hraster
    split
    · exact rewrites_of_textures rfl
    · rename_i written hwritten
      have hin := lt_of_texture_eq_kept hraster
      have hshape : written.width = raster.width ∧ written.texelBytes = raster.texelBytes := by
        unfold Raster.update at hwritten
        split at hwritten
        · cases hwritten
        · cases hwritten
          exact ⟨rfl, rfl⟩
      have hself : ∀ other, other = ref →
          texture { d with textures := d.textures.setIfInBounds ref (.kept written switch) } other =
            .kept written switch := by
        rintro other rfl
        simp [texture, hin]
      have hothers : ∀ other, other ≠ ref →
          texture { d with textures := d.textures.setIfInBounds ref (.kept written switch) } other =
            d.texture other := by
        intro other hne
        simp [texture, Array.getElem?_setIfInBounds_ne (Ne.symm hne)]
      refine ⟨Array.size_setIfInBounds, ?_, ?_, ?_⟩
      · intro other
        by_cases hsame : other = ref
        · rw [hself other hsame, hsame, hraster]
          exact hshape.1
        · rw [hothers other hsame]
      · intro other
        by_cases hsame : other = ref
        · rw [hself other hsame, hsame, hraster]
          exact hshape.2
        · rw [hothers other hsame]
      · intro other
        by_cases hsame : other = ref
        · rw [hself other hsame, hsame, hraster]
          rfl
        · rw [hothers other hsame]
  · dsimp only
    split <;> exact rewrites_of_textures rfl

/-- Whether a device has all textures of an earlier one. -/
structure Extends (d d' : Device) : Prop where
  size : d.textures.size ≤ d'.textures.size
  texture : ∀ ref, ref < d.textures.size → d'.texture ref = d.texture ref

theorem Extends.trans
    (h : Extends d d')
    (h' : Extends d' d'') :
    Extends d d'' where
  size := Nat.le_trans h.size h'.size
  texture ref hlt :=
    (h'.texture ref (Nat.lt_of_lt_of_le hlt h.size)).trans (h.texture ref hlt)

theorem extends_create
    (d : Device) (factory : Factory) (width channels : Nat) (component : Component) :
    Extends d (d.create factory width channels component).2 := by
  have hadd : ∀ (d : Device) (texture : Texture), Extends d (d.add texture).2 := by
    intro d texture
    refine ⟨?_, fun ref hlt => texture_add_of_lt texture hlt⟩
    exact Nat.le_of_lt (Nat.lt_of_lt_of_eq (Nat.lt_succ_self _) (Array.size_push _).symm)
  unfold create
  split
  · split
    · exact ⟨Nat.le_refl _, fun _ _ => rfl⟩
    · exact hadd d _
  · dsimp only
    split
    · exact ⟨Nat.le_refl _, fun _ _ => rfl⟩
    · rename_i index _
      have hadded := hadd (d.setTape index
        { d.tape index with createFuse := (d.tape index).createFuse.burn.2 })
        (.taped width (channels * component.bytes) index)
      exact ⟨hadded.size, hadded.texture⟩

/-- A new texture takes the next place and has the shape that was asked for. -/
theorem create_eq_ok
    {factory : Factory} {width channels : Nat} {component : Component} {ref : TextureRef}
    (h : d.create factory width channels component = (.ok ref, d')) :
    d'.textures.size = d.textures.size + 1 ∧ ref = d.textures.size ∧
      (d'.texture ref).width = width ∧
      (d'.texture ref).texelBytes = channels * component.bytes := by
  unfold create at h
  split at h
  · split at h
    · cases h
    · rename_i raster hraster
      obtain ⟨hwidth, htexelBytes⟩ := Raster.shape_create hraster
      cases h
      rename_i switch _
      have hadded := texture_add_self d (.kept raster switch)
      exact ⟨Array.size_push _, rfl, (congrArg Texture.width hadded).trans hwidth,
        (congrArg Texture.texelBytes hadded).trans htexelBytes⟩
  · dsimp only at h
    split at h
    · cases h
    · cases h
      rename_i index _
      let burnt := d.setTape index
        { d.tape index with createFuse := (d.tape index).createFuse.burn.2 }
      have hadded := texture_add_self burnt (.taped width (channels * component.bytes) index)
      exact ⟨Array.size_push _, rfl, congrArg Texture.width hadded,
        congrArg Texture.texelBytes hadded⟩

/-- A write to a taped texture fails if its tape is about to. -/
theorem update_of_taped
    {ref : TextureRef} {width texelBytes tape : Nat}
    (h : d.texture ref = .taped width texelBytes tape)
    (hfuse : (d.tape tape).updateFuse = some 0)
    (data : ByteArray) (r : Rect) :
    (d.update ref data r).1 = .error (.update .deviceLost) := by
  unfold update
  rw [h]
  simp [hfuse, Fuse.burn]

end Device

end Shapes

section Uploads

namespace LookUp

/-- An entry takes up the two numbers that are uploaded for it. -/
theorem size_bytes (buffer : Buffer) :
    buffer.bytes.size = channels * Component.single.bytes * buffer.size := by
  have hentry : ∀ entry : Entry, entry.bytes.size = 8 := by
    intro entry
    rw [Entry.bytes, ByteArray.size_append]
    rfl
  have hfold : ∀ (entries : List Entry) (bytes : ByteArray),
      (entries.foldl (fun bytes entry => bytes ++ entry.bytes) bytes).size =
        bytes.size + 8 * entries.length := by
    intro entries
    induction entries with
    | nil => exact fun bytes => rfl
    | cons entry rest ih =>
        intro bytes
        rw [List.foldl_cons, ih, ByteArray.size_append, hentry, List.length_cons]
        omega
  rw [Buffer.bytes, ← Array.foldl_toList, hfold, Array.length_toList]
  exact Nat.zero_add _

end LookUp

namespace Residency

variable {m m' : Residency} {s s' : Scene}

/-- The rectangle that all look-up entries take up. -/
def lookUpRect (m : Residency) : Rect :=
  ⟨0, 0, m.settings.lookUpWidth, m.settings.lookUpWidth⟩

/-- What a device answers to the upload of the look-up entries. -/
def uploadAnswer (m : Residency) (d : Device) : Except Fault Unit :=
  match m.lookUpTexture with
  | none => .ok ()
  | some ref => if d.isReady ref then (d.update ref m.lookUp.bytes m.lookUpRect).1 else .ok ()

theorem fst_upload (m : Residency) (s : Scene) :
    (m.upload s).1 = m.uploadAnswer s.device := by
  unfold upload uploadAnswer
  cases m.lookUpTexture with
  | none => rfl
  | some ref =>
      dsimp only [Scene.updateTexture, lookUpRect]
      split
      · rcases s.device.update ref m.lookUp.bytes
          ⟨0, 0, m.settings.lookUpWidth, m.settings.lookUpWidth⟩ with ⟨outcome, d⟩
        cases outcome <;> rfl
      · rfl

theorem extends_createTextures
    (s : Scene) (factory : Factory) (width channels count : Nat) :
    Device.Extends s.device (createTextures s factory width channels count).2.device := by
  induction count generalizing s with
  | zero => exact ⟨Nat.le_refl _, fun _ _ => rfl⟩
  | succ count ih =>
      have hfirst :
          Device.Extends s.device (s.createTexture factory width channels .byte).2.device :=
        s.device.extends_create factory width channels .byte
      unfold createTextures
      rcases hcreate : s.createTexture factory width channels .byte with ⟨created, s'⟩
      rw [hcreate] at hfirst
      cases created with
      | error fault => exact hfirst
      | ok ref =>
          have hrest := hfirst.trans (ih s')
          dsimp only
          split <;> rename_i hlater <;> rw [hlater] at hrest <;> exact hrest

/-- Textures stay when new ones are created, whether or not these are given up. -/
theorem extends_setUp
    (m : Residency) (s : Scene) (factory : Factory) (bytes : Nat) :
    Device.Extends s.device (m.setUp s factory bytes).2.2.device := by
  have hdata := extends_createTextures s factory m.layout.width (bytes * m.layout.packing)
    m.layout.textures
  unfold setUp
  split
  · exact ⟨Nat.le_refl _, fun _ _ => rfl⟩
  · dsimp only
    split <;> rename_i hcreated <;> rw [hcreated] at hdata
    · exact hdata
    · rename_i s'
      have hlast : Device.Extends s'.device
          (s'.createTexture factory m.settings.lookUpWidth LookUp.channels .single).2.device :=
        s'.device.extends_create factory m.settings.lookUpWidth LookUp.channels .single
      split <;> rename_i hlookUp <;> rw [hlookUp] at hlast <;> exact hdata.trans hlast

/-- New textures are given up, or the look-up texture gets the shape of the entries. -/
theorem lookUpTexture_setUp
    (m : Residency) (s : Scene) (factory : Factory) (bytes : Nat) :
    let after := (m.setUp s factory bytes).2
    after.1 = m ∨ ∃ ref, after.1.lookUpTexture = some ref ∧
      after.1.settings = m.settings ∧ after.1.lookUp = m.lookUp ∧
      m.lookUpBytes < longModulus ∧ ref < after.2.device.textures.size ∧
      (after.2.device.texture ref).width = m.settings.lookUpWidth ∧
      (after.2.device.texture ref).texelBytes = LookUp.channels * Component.single.bytes := by
  intro after
  rcases m.setUp_inversion s factory bytes with
    ⟨_, _, hfails⟩ | ⟨_, s', ref, device, journal, hcounted, _, hcreate, hok⟩
  · exact .inl (congrArg (·.2.1) hfails)
  · obtain ⟨hsize, rfl, hwidth, htexelBytes⟩ := Device.create_eq_ok hcreate
    rw [show after = _ from congrArg Prod.snd hok]
    refine .inr ⟨_, rfl, rfl, rfl, hcounted, ?_, hwidth, htexelBytes⟩
    exact Nat.lt_of_lt_of_eq (Nat.lt_succ_self _) hsize.symm

/-- Whether the look-up texture has the shape of the look-up entries, and a word counts them. -/
structure IsUploadable (m : Residency) (s : Scene) : Prop where
  size : m.lookUp.size = m.settings.lookUpEntries
  counted : m.lookUpTexture.isSome = true → m.lookUpBytes < longModulus
  fits : ∀ ref, m.lookUpTexture = some ref → ref < s.device.textures.size ∧
    (s.device.texture ref).width = m.settings.lookUpWidth ∧
    (s.device.texture ref).texelBytes = LookUp.channels * Component.single.bytes

theorem IsUploadable.of_rewrites
    (h : m.IsUploadable s)
    (hlookUp : m'.lookUp.size = m.lookUp.size)
    (hsettings : m'.settings = m.settings)
    (htexture : m'.lookUpTexture = m.lookUpTexture)
    (hdevice : Device.Rewrites s.device s'.device) :
    m'.IsUploadable s' where
  size := by
    rw [hlookUp, hsettings]
    exact h.size
  counted := by
    rw [htexture, lookUpBytes, hsettings]
    exact h.counted
  fits := by
    rw [hsettings, htexture]
    intro ref href
    rw [hdevice.size, hdevice.width, hdevice.texelBytes]
    exact h.fits ref href

/-- Entries of the right number have the shape of a look-up texture that is still there. -/
theorem IsUploadable.of_size
    (h : m.IsUploadable s)
    (hsize : m'.lookUp.size = m'.settings.lookUpEntries)
    (hsettings : m'.settings = m.settings)
    (htexture : m'.lookUpTexture = m.lookUpTexture) :
    m'.IsUploadable s := by
  refine h.of_rewrites ?_ hsettings htexture (Device.rewrites_of_textures rfl)
  rw [hsize, hsettings, h.size]

/-- A raster takes the upload of entries of its shape. -/
theorem IsUploadable.uploadAnswer_cases
    (h : m.IsUploadable s) :
    m.uploadAnswer s.device = .ok () ∨
      ∃ ref cause, m.lookUpTexture = some ref ∧ (s.device.texture ref).isRaster = false ∧
        (s.device.update ref m.lookUp.bytes m.lookUpRect).1 = .error (.update cause) ∧
        m.uploadAnswer s.device = .error (.update cause) := by
  unfold uploadAnswer
  split
  · exact .inl rfl
  · rename_i ref hsome
    split
    · rcases s.device.update_fst ref m.lookUp.bytes m.lookUpRect with hok | ⟨cause, hcause⟩
      · exact .inl hok
      · refine .inr ⟨ref, cause, hsome, ?_, hcause, hcause⟩
        cases htexture : s.device.texture ref with
        | taped width texelBytes tape => rfl
        | kept raster switch =>
            obtain ⟨_, hwidth, htexelBytes⟩ := h.fits ref hsome
            rw [htexture] at hwidth htexelBytes
            have hfits : raster.objection? m.lookUp.bytes.size m.lookUpRect = none := by
              have hcounted := h.counted (Option.isSome_iff_exists.mpr ⟨ref, hsome⟩)
              rw [Raster.objection?_eq_none_iff_mod, LookUp.size_bytes, h.size,
                show raster.width = _ from hwidth, show raster.texelBytes = _ from htexelBytes]
              refine ⟨?_, Nat.le_of_eq (Nat.zero_add _), Nat.le_of_eq (Nat.zero_add _)⟩
              rw [Nat.mul_comm (_ * _)]
              exact (Nat.mod_eq_of_lt hcounted).symm
            obtain ⟨d', hupdate, _⟩ := Device.update_of_kept htexture hfits
            rw [hupdate] at hcause
            cases hcause
    · exact .inl rfl

theorem rewrites_writeSlot
    {slot : Nat} {payload : Payload} {outcome : Except Fault Unit}
    (h : m.writeSlot s slot payload = (outcome, s')) :
    Device.Rewrites s.device s'.device := by
  rw [show s' = (m.writeSlot s slot payload).2 from (congrArg Prod.snd h).symm]
  exact Device.rewrites_update s.device _ payload _

theorem rewrites_upload (m : Residency) (s : Scene) :
    Device.Rewrites s.device (m.upload s).2.2.device := by
  rcases m.device_upload_cases s with hdevice | ⟨ref, _, hdevice⟩
  · exact Device.rewrites_of_textures (congrArg Device.textures hdevice)
  · rw [hdevice]
    exact Device.rewrites_update _ _ _ _

theorem device_react (m : Residency) (s : Scene) (notice : Notice) :
    (m.react s notice).2.device = s.device := by
  rcases m.react_cases s notice with ⟨_, h⟩ | ⟨_, ⟨_, h⟩ | ⟨a, _, h⟩⟩
  · rw [h]
  · rw [h]
  · rw [h]
    exact device_dismiss m s a

end Residency

/-- A move changes nothing of textures but their contents. -/
theorem Move.rewrites
    {opening : Bool} {w w' : World}
    (h : Move opening w w') :
    Device.Rewrites w.scene.device w'.scene.device := by
  have hsame : ∀ {d : Device}, d = w.scene.device → Device.Rewrites w.scene.device d := by
    rintro d rfl
    exact Device.rewrites_of_textures rfl
  cases h with
  | journal => exact hsame rfl
  | @hear _ _ notice rest _ => exact hsame (Residency.device_react _ _ notice)
  | @forgo _ _ a _ => exact hsame (device_dismiss _ _ a)
  | aim => exact hsame rfl
  | reserve _ _ _ _ => exact hsame rfl
  | thin => exact hsame rfl
  | skip _ _ => exact hsame rfl
  | fail _ _ _ _ _ hfail => exact Residency.rewrites_writeSlot hfail
  | @write _ _ _ rest a _ s _ _ _ _ _ hwrite =>
      have hdevice : (w.commit a rest s).scene.device = s.device :=
        device_markCommitted { w.residency with queue := rest } s a
      rw [hdevice]
      exact Residency.rewrites_writeSlot hwrite
  | upload => exact Residency.rewrites_upload w.residency w.scene

section Shaping

open Residency

variable {m : Residency} {s : Scene} {w w' : World}

theorem isUploadable_create
    {s₀ : Scene} {width textures packing : Nat} {settings : Settings}
    (h : Residency.create s₀ width textures packing settings = (.ok m, s)) :
    m.IsUploadable s := by
  obtain ⟨_, _, _, _, _, rfl⟩ := Residency.create_eq_ok h
  exact ⟨Array.size_replicate, nofun, nofun⟩

/-- What happens outside writes to no texture. -/
theorem Scene.textures_occur (s : Scene) (o : Occurrence) :
    (s.occur o).device.textures = s.device.textures := by
  cases o with
  | deed ref d => exact congrArg Device.textures (s.device_deed ref d)
  | _ => rfl

theorem Residency.IsUploadable.of_occur
    (h : m.IsUploadable s)
    (o : Occurrence) :
    m.IsUploadable (s.occur o) :=
  h.of_rewrites rfl rfl rfl (Device.rewrites_of_textures (s.textures_occur o))

theorem Residency.IsUploadable.of_setUp
    (h : m.IsUploadable s)
    (factory : Factory) (bytes : Nat) :
    (m.setUp s factory bytes).2.1.IsUploadable (m.setUp s factory bytes).2.2 := by
  have hextends := m.extends_setUp s factory bytes
  rcases m.lookUpTexture_setUp s factory bytes with
    hsame | ⟨ref, hlookUp, hsettings, hentries, hcounted, hlt, hwidth, htexelBytes⟩
  · rw [hsame]
    refine ⟨h.size, h.counted, fun ref href => ?_⟩
    obtain ⟨hlt, hshape⟩ := h.fits ref href
    rw [hextends.texture ref hlt]
    exact ⟨Nat.lt_of_lt_of_le hlt hextends.size, hshape⟩
  · refine ⟨by rw [hentries, hsettings]; exact h.size, fun _ => ?_, ?_⟩
    · rwa [lookUpBytes, hsettings]
    rw [hlookUp, hsettings]
    rintro other hother
    cases hother
    exact ⟨hlt, hwidth, htexelBytes⟩

theorem Residency.IsUploadable.of_move
    {opening : Bool}
    (h : w.residency.IsUploadable w.scene)
    (hmove : Move opening w w') :
    w'.residency.IsUploadable w'.scene := by
  have hretains := hmove.retains
  exact h.of_rewrites (congrArg Array.size hretains.lookUp) hretains.settings
    hretains.lookUpTexture hmove.rewrites

theorem Residency.IsUploadable.of_rebuild
    (h : w.residency.IsUploadable w.scene)
    (outside : BucketRef → Bool) :
    (w.rebuild outside).residency.IsUploadable w.scene := by
  refine h.of_rewrites ?_ rfl rfl (Device.rewrites_of_textures rfl)
  rw [h.size]
  exact size_foldl_enter.trans Array.size_replicate

/-- The look-up texture always has the shape of the look-up entries. -/
theorem Reachable.isUploadable
    {allowed : World → Operation → Prop} {s₀ : Scene}
    (h : Reachable allowed s₀ w) :
    w.residency.IsUploadable w.scene := by
  refine (h.of_moves (P := fun w => w.residency.IsUploadable w.scene) (Q := fun _ => True)
    ?_ ?_ ?_ ?_ ?_).1
  · exact fun hcreate => ⟨isUploadable_create hcreate, trivial⟩
  · intro w op _ hother _ _ hw _
    refine ⟨?_, trivial⟩
    cases op with
    | occurrence o => exact hw.of_occur o
    | setUp factory bytes => exact hw.of_setUp factory bytes
    | _ => cases hother
  · exact fun _ hmove hw => hw.of_move hmove
  · exact fun _ _ _ _ => trivial
  · exact fun _ _ _ _ hw => ⟨hw.of_rebuild _, trivial⟩

theorem isAccepted_create
    {s₀ : Scene} {width textures packing : Nat} {settings : Settings}
    (h : Residency.create s₀ width textures packing settings = (.ok m, s)) :
    m.settings.fault? = none := by
  obtain ⟨_, _, _, hsettings, _, rfl⟩ := Residency.create_eq_ok h
  exact hsettings

/-- The settings stay those that were accepted. -/
theorem Reachable.isAccepted
    {allowed : World → Operation → Prop} {s₀ : Scene}
    (h : Reachable allowed s₀ w) :
    w.residency.settings.fault? = none := by
  refine (h.of_moves (P := fun w => w.residency.settings.fault? = none) (Q := fun _ => True)
    ?_ ?_ ?_ ?_ ?_).1
  · exact fun hcreate => ⟨isAccepted_create hcreate, trivial⟩
  · intro w op _ hother _ _ hw _
    refine ⟨?_, trivial⟩
    cases op with
    | occurrence o => exact hw
    | setUp factory bytes => exact (settings_setUp _ _ factory bytes).symm ▸ hw
    | _ => cases hother
  · exact fun _ hmove hw => hmove.retains.settings.symm ▸ hw
  · exact fun _ _ _ _ => trivial
  · exact fun _ _ _ _ hw => ⟨hw, trivial⟩

end Shaping

section Answers

namespace Residency

variable {m : Residency} {s : Scene}

theorem device_reactAll (m : Residency) (s : Scene) (notices : List Notice) :
    (m.reactAll s notices).2.device = s.device := by
  induction notices generalizing m s with
  | nil => rfl
  | cons notice rest ih => exact (ih _ _).trans (device_react m s notice)

theorem device_releaseAll (m : Residency) (s : Scene) (ids : List BucketId) :
    (m.releaseAll s ids).2.device = s.device := by
  induction ids generalizing m s with
  | nil => rfl
  | cons id rest ih =>
      have hfirst : (m.release s id).2.device = s.device := by
        unfold release
        split
        · rfl
        · exact device_dismiss m s _
      exact (ih _ _).trans hfirst

theorem reserveAll_cases (m : Residency) (s : Scene) (fault : Fault) (refs : List BucketRef) :
    ((m.reserveAll s fault refs).1 = .ok () ∨ (m.reserveAll s fault refs).1 = .error fault) ∧
      (m.reserveAll s fault refs).2.2.device = s.device := by
  induction refs generalizing m s with
  | nil => exact ⟨.inl rfl, rfl⟩
  | cons ref rest ih =>
      unfold reserveAll
      split
      · exact ⟨.inr rfl, rfl⟩
      · exact ih _ _

/-- Replacing the active buckets fails only for want of slots, and needs no device. -/
theorem occupy_cases (m : Residency) (s : Scene) (requested : List BucketRef) (anchor : Address) :
    ((m.occupy s requested anchor).1 = .ok () ∨ ∃ capacity count,
      (m.occupy s requested anchor).1 = .error (.capacityExhausted capacity count)) ∧
      (m.occupy s requested anchor).2.2.device = s.device := by
  unfold occupy
  split
  · dsimp only
    have hreleased := device_releaseAll { m with anchor := anchor } s (m.leaving s requested)
    rcases hrelease : releaseAll { m with anchor := anchor } s (m.leaving s requested) with
      ⟨m', s'⟩
    rw [hrelease] at hreleased
    obtain ⟨hanswer, hdevice⟩ :=
      reserveAll_cases m' s' (m'.exhausted requested) (m.arriving s requested)
    exact ⟨hanswer.imp_right fun hrefused => ⟨_, _, hrefused⟩, hdevice.trans hreleased⟩
  · exact ⟨.inr ⟨_, _, rfl⟩, rfl⟩

theorem fst_refresh (m : Residency) (s : Scene) (outside : BucketRef → Bool) :
    (m.refresh s outside).1 = (m.refresh s outside).2.1.uploadAnswer s.device := by
  obtain ⟨isPending, hresidency⟩ := m.refresh_residency s outside
  rw [hresidency]
  unfold refresh
  dsimp only
  rw [fst_upload]
  split <;> rfl

/-- A request that is not refused is answered by the upload of the new look-up entries. -/
theorem fst_activate
    (m : Residency) (s : Scene) (outside : BucketRef → Bool) (refs : List BucketRef)
    (anchor : Address) :
    let after := m.activate s outside refs anchor
    (∃ capacity count, after.1 = .error (.capacityExhausted capacity count)) ∨
      after.1 = after.2.1.uploadAnswer s.device := by
  intro after
  have hread : (m.readNotices s).2.device = s.device := device_reactAll m _ _
  simp only [after, activate]
  rcases hnotices : m.readNotices s with ⟨m', s'⟩
  rw [hnotices] at hread
  dsimp only at hread ⊢
  let requested := distinct s' [] refs
  obtain ⟨journal, hreport⟩ := journal_reportCollected s' requested
  obtain ⟨hanswer, hdevice⟩ :=
    m'.occupy_cases (requested.foldl reportCollected s') requested anchor
  rw [show (requested.foldl reportCollected s').device = s'.device from by rw [hreport]] at hdevice
  rcases hoccupy : m'.occupy (requested.foldl reportCollected s') requested anchor with
    ⟨outcome, m'', s''⟩
  rw [hoccupy] at hanswer hdevice
  cases outcome with
  | error fault =>
      obtain ⟨capacity, count, hrefused⟩ := hanswer.resolve_left (by simp)
      exact .inl ⟨capacity, count, hrefused⟩
  | ok _ =>
      refine .inr ?_
      rw [← hread, ← hdevice]
      exact m''.fst_refresh s'' outside

end Residency

end Answers

namespace Session

open Residency

/-- In a session the look-up texture always has the shape of the look-up entries. -/
theorem isKept_isUploadable : IsKept IsUploadable where
  occur _ h := h.of_occur _
  setUp factory bytes h := h.of_setUp factory bytes
  move _ hmove h := h.of_move hmove
  rebuild outside _ h := h.of_rebuild outside

/-- In a session the settings stay those that were accepted. -/
theorem isKept_isAccepted : IsKept fun m _ => m.settings.fault? = none where
  occur _ h := h
  setUp factory bytes h := (settings_setUp _ _ factory bytes).symm ▸ h
  move _ hmove h := hmove.retains.settings.symm ▸ h
  rebuild _ _ h := h

end Session

end Uploads

section Updates

namespace Viewer

/-- A camera is accepted exactly if the pyramid has its zoom step. -/
theorem inView_cases (v : Viewer) (camera : Camera) :
    let zoomStep := camera.requestZoomStep v.pool.pyramid.length
    (v.pool.pyramid.length ≤ zoomStep ∧
      v.inView camera = .error (.zoomStep zoomStep v.pool.pyramid.length)) ∨
    (zoomStep < v.pool.pyramid.length ∧ ∃ addresses, v.inView camera = .ok addresses) := by
  intro zoomStep
  unfold inView FlightView.addresses FlightView.unlimited
  cases hresolution : v.pool.pyramid.resolution zoomStep with
  | error fault =>
      obtain ⟨hle, rfl⟩ := Pyramid.resolution_eq_error_iff.mp hresolution
      exact .inl ⟨hle, rfl⟩
  | ok resolution =>
      have hlt := (List.getElem?_eq_some_iff.mp (Pyramid.resolution_eq_ok_iff.mp hresolution)).1
      exact .inr ⟨hlt, _, rfl⟩

end Viewer

namespace Session

open Residency

variable {x : Session}

/--
An accepted update makes exactly the buckets in view active, and is answered by the upload of
the new look-up entries.
-/
theorem Orderly.update_of_inView
    {addresses : List Address}
    (h : x.Orderly)
    (outside : BucketRef → Bool) {camera : Camera}
    (hview : x.viewer.inView camera = .ok addresses) :
    let after := x.viewer.update x.scene outside camera
    (∀ ref, after.2.1.residency.holds ref = true ↔
      ∃ a ∈ addresses, after.2.1.pool.find? a = some ref) ∧
    (∀ a ∈ addresses, ∃ ref, after.2.1.pool.find? a = some ref) ∧
    after.1 = after.2.1.residency.uploadAnswer x.scene.device ∧
    Retains { x.viewer.residency with lookUp := after.2.1.residency.lookUp }
      after.2.1.residency ∧
    (after.1 = .ok () →
      ∀ ref, after.2.1.residency.holds ref = true → ref ∈ after.2.1.active) := by
  intro after
  obtain ⟨journal, refs, v', s', anchor, hobtains, _, hupdate⟩ :=
    Viewer.update_of_inView h.stocked hview outside
  obtain ⟨held, active, later, hactive, hafter⟩ := v'.exists_activate_eq s' outside refs anchor
  have hkept : v'.residency = x.viewer.residency := by rw [hobtains.others]
  have hdevice : s'.device = x.scene.device := hobtains.adds.device
  rw [hkept] at hactive hafter
  have hafter : after = _ := hupdate.trans hafter
  have hpool : after.2.1.pool = v'.pool := by rw [hafter]
  have hresidency : after.2.1.residency =
      (x.viewer.residency.activate s' held refs anchor).2.1 := by
    rw [hafter]
  have hheedful : Heedful ⟨x.viewer.residency, s', .blank⟩ :=
    (h.heedful.of_journal journal).of_adds hobtains.adds
  have hfits : refs.length ≤ x.viewer.residency.capacity := by
    rw [← hobtains.lives.length_eq]
    exact FlightView.length_addresses_le hview
  obtain ⟨_, _, _, ⟨m', s'', hactivate, _, hperm⟩, _⟩ := activate_of_fitting hheedful h.tidy
    hobtains.stocked.hasUniqueIds hobtains.lt_size hfits held anchor
  have hholds : ∀ ref, after.2.1.residency.holds ref = true ↔ ref ∈ refs := by
    intro ref
    rw [hresidency, hactivate, holds_iff, active_refresh, ← List.mem_map, hperm.mem_iff,
      mem_wanted, and_iff_left_iff_imp]
    intro href
    obtain ⟨_, _, hlives⟩ := hobtains.exists_lives href
    exact hlives.uncollected
  refine ⟨?_, ?_, ?_, ?_, ?_⟩
  · intro ref
    rw [hholds, hpool, hobtains.mem_iff]
  · intro a ha
    obtain ⟨ref, _, hlives⟩ := hobtains.exists_ref ha
    rw [hpool]
    exact ⟨ref, hobtains.stocked.find?_iff.mpr hlives⟩
  · -- The request is not refused, so the look-up texture has the last word.
    rcases x.viewer.residency.fst_activate s' held refs anchor with ⟨_, _, hrefused⟩ | huploaded
    · rcases m'.refresh_fst s'' held with hok | ⟨cause, hcause⟩
      · rw [hactivate, hok] at hrefused
        cases hrefused
      · rw [hactivate, hcause] at hrefused
        cases hrefused
    · rw [hresidency, ← hdevice, ← huploaded, hafter]
  · have hperforms : Performs (.activate held refs anchor) ⟨x.viewer.residency, s', .blank⟩ _ :=
      performs_activate anchor rfl h.tidy hobtains.lt_size
    rw [hresidency]
    exact hperforms.retains
  · intro hok ref href
    rw [hafter] at hok ⊢
    rw [hactive.resolve_right fun hfailed => hfailed.2 hok]
    exact (hholds ref).mp href

/--
An update for a zoom step that the pyramid does not have is refused and changes nothing at
all.  Any other update makes exactly the buckets in view active, of which there are no more
than slots: no bucket of them is missing, the window can be aimed, and no look-up entry is out of
bounds if a word counts the address space.  It succeeds, and then the viewer holds them; or a
look-up texture that is no raster rejects the new look-up entries, which are the last thing that
an update brings to the device.
-/
theorem update_failsOnlyCleanly
    (h : Reached (fun _ _ => True) x)
    (outside : BucketRef → Bool) (camera : Camera) :
    let v := x.viewer
    let zoomStep := camera.requestZoomStep v.pool.pyramid.length
    let after := v.update x.scene outside camera
    (v.pool.pyramid.length ≤ zoomStep ∧
      after = (.error (.zoomStep zoomStep v.pool.pyramid.length), v, x.scene)) ∨
    (zoomStep < v.pool.pyramid.length ∧ ∃ addresses, v.inView camera = .ok addresses ∧
      addresses.length ≤ v.residency.capacity ∧
      (∀ ref, after.2.1.residency.holds ref = true ↔
        ∃ a ∈ addresses, after.2.1.pool.find? a = some ref) ∧
      (∀ a ∈ addresses, ∃ ref, after.2.1.pool.find? a = some ref) ∧
      (v.residency.settings.addressSpaceSize < longModulus →
        ∀ address i, after.2.1.residency.lookUpIndex? address = some i →
          i < after.2.1.residency.lookUp.size) ∧
      ((after.1 = .ok () ∧
          ∀ ref, after.2.1.residency.holds ref = true → ref ∈ after.2.1.active) ∨
        ∃ lookUp cause, v.residency.lookUpTexture = some lookUp ∧
          (x.scene.device.texture lookUp).isRaster = false ∧
          (x.scene.device.update lookUp after.2.1.residency.lookUp.bytes
            v.residency.lookUpRect).1 = .error (.update cause) ∧
          after.1 = .error (.update cause))) := by
  intro v zoomStep after
  rcases v.inView_cases camera with ⟨hle, hview⟩ | ⟨hlt, addresses, hview⟩
  · exact .inl ⟨hle, Viewer.update_of_inView_eq_error hview outside⟩
  obtain ⟨hholds, hfound, hasked, hretains, hheld⟩ := h.orderly.update_of_inView outside hview
  have hbefore : v.residency.IsUploadable x.scene :=
    h.of_moves (fun _ => isUploadable_create) isKept_isUploadable
  have hstep : Reached (fun _ _ => True) (x.step (.update outside camera)) := h.step trivial
  have hafter : after.2.1.residency.IsUploadable after.2.2 :=
    hstep.of_moves (fun _ => isUploadable_create) isKept_isUploadable
  have hsettings : after.2.1.residency.settings = v.residency.settings := hretains.settings
  have hready : after.2.1.residency.IsUploadable x.scene :=
    hbefore.of_size hafter.size hsettings hretains.lookUpTexture
  refine .inr ⟨hlt, addresses, hview, FlightView.length_addresses_le hview, hholds, hfound, ?_, ?_⟩
  · intro hword address i hindex
    rw [hafter.size]
    refine lookUpIndex?_lt ?_ (hsettings ▸ hword) hindex
    exact hstep.of_moves (P := fun m _ => m.settings.fault? = none)
      (fun _ => isAccepted_create) isKept_isAccepted
  · rcases hready.uploadAnswer_cases with hok | ⟨lookUp, cause, hlookUp, htaped, hfails, hno⟩
    · exact .inl ⟨hasked.trans hok, hheld (hasked.trans hok)⟩
    · refine .inr ⟨lookUp, cause, hretains.lookUpTexture.symm.trans hlookUp, htaped, ?_,
        hasked.trans hno⟩
      rw [lookUpRect, hsettings] at hfails
      exact hfails

/-- A session of two slots over some pyramid that has just begun. -/
def onPyramid (pyramid : Pyramid Float) : Session :=
  ⟨⟨.smallest, .create pyramid, .empty, World.smallest.residency, []⟩, World.smallest.scene, .blank⟩

theorem reached_onPyramid (allowed : Session → Call → Prop) (pyramid : Pyramid Float) :
    Reached allowed (.onPyramid pyramid) := by
  have hcreate : Viewer.create .empty .smallest pyramid ⟨256, 1, 1⟩ =
      (.ok (onPyramid pyramid).viewer, (onPyramid pyramid).scene) := by
    simp only [Viewer.create, create_smallest]
    rfl
  exact .create rfl hcreate

/-- As many resolutions as there are zoom steps that a camera can ask for. -/
@[irreducible] def deepPyramid : Pyramid Float :=
  List.replicate 4294967296 (.splat 1)

theorem requestZoomStep_lt (camera : Camera) :
    camera.requestZoomStep deepPyramid.length < deepPyramid.length := by
  have hlength : deepPyramid.length = 4294967296 := by
    rw [deepPyramid, List.length_replicate]
  rw [hlength]
  exact UInt32.toNat_lt _

/-- A viewer with rasters looks around successfully. -/
theorem update_failsOnlyCleanly_of_rasters :
    let nobody : BucketRef → Bool := fun _ => false
    let x := [.addSwitch true, .setUp (.rasters 0) 1].foldl Session.step (.onPyramid deepPyramid)
    Reached (fun _ _ => True) x ∧ (x.viewer.update x.scene nobody .start).1 = .ok () := by
  intro nobody x
  have hreached : Reached (fun _ _ => True) x :=
    (reached_onPyramid _ _).run ⟨trivial, trivial, trivial⟩
  have hpyramid : x.viewer.pool.pyramid = deepPyramid := rfl
  have hlookUp : x.viewer.residency.lookUpTexture = some 1 := rfl
  have hraster : (x.scene.device.texture 1).isRaster = true := rfl
  refine ⟨hreached, ?_⟩
  clear_value x
  rcases update_failsOnlyCleanly hreached nobody .start with
    ⟨hle, _⟩ | ⟨_, _, _, _, _, _, _, ⟨hok, _⟩ | ⟨lookUp, _, hsome, htaped, _⟩⟩
  · rw [hpyramid] at hle
    exact absurd (requestZoomStep_lt .start) (Nat.not_lt.mpr hle)
  · exact hok
  · rw [hlookUp] at hsome
    cases hsome
    rw [hraster] at htaped
    cases htaped

/-- A texture of the user that loses its device fails an update whose camera is accepted. -/
theorem update_fails_of_lost_device :
    let nobody : BucketRef → Bool := fun _ => false
    let x := [.addTape, .setUp (.tapes 0) 1, .setFuses 0 (some 0) none].foldl Session.step
      (.onPyramid deepPyramid)
    Reached (fun _ _ => True) x ∧
      Camera.start.requestZoomStep x.viewer.pool.pyramid.length < x.viewer.pool.pyramid.length ∧
      (x.viewer.update x.scene nobody .start).1 = .error (.update .deviceLost) := by
  intro nobody x
  have hreached : Reached (fun _ _ => True) x :=
    (reached_onPyramid _ _).run ⟨trivial, trivial, trivial, trivial⟩
  have hpyramid : x.viewer.pool.pyramid = deepPyramid := rfl
  have hlookUp : x.viewer.residency.lookUpTexture = some 1 := rfl
  have htaped : ∃ width texelBytes, x.scene.device.texture 1 = .taped width texelBytes 0 :=
    ⟨_, _, rfl⟩
  have hfuse : (x.scene.device.tape 0).updateFuse = some 0 := rfl
  have hready : x.scene.device.isReady 1 = true := rfl
  clear_value x
  have hzoom := requestZoomStep_lt .start
  rw [← hpyramid] at hzoom
  refine ⟨hreached, hzoom, ?_⟩
  obtain ⟨addresses, hview⟩ : ∃ addresses, x.viewer.inView .start = .ok addresses := by
    rcases x.viewer.inView_cases .start with ⟨hle, _⟩ | ⟨_, haccepted⟩
    · exact absurd hzoom (Nat.not_lt.mpr hle)
    · exact haccepted
  obtain ⟨_, _, hasked, hretains, _⟩ := hreached.orderly.update_of_inView nobody hview
  obtain ⟨width, texelBytes, htexture⟩ := htaped
  rw [hasked, uploadAnswer, hretains.lookUpTexture]
  simp only [hlookUp, hready, if_true]
  exact Device.update_of_taped htexture hfuse _ _

end Session

end Updates

end VoxelCache
