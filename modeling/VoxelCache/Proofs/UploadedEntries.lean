import VoxelCache.Proofs.NewTextures
import VoxelCache.Proofs.Rasters

/-!
# The uploaded look-up entries

The look-up texture may be missing or not be ready when the look-up entries are rebuilt, and it
may be replaced by a blank one.  A mark says that an upload is pending.  It is set by every rebuild
and by new textures, and taken back only when the entries were uploaded.

**Invariant.**
* `Uploaded`: if no upload is pending, the look-up texture stores the look-up entries.

**Results.**
* `IsRastered.upload_of_ready`: an upload to a texture that is ready stores all entries.
* `Performs.pending`: an upload stays pending as long as the texture is not ready.
* `upload_neverLags`: after every frame and every activation, a look-up texture that is ready
  stores the look-up entries.
-/

namespace VoxelCache

section Uploading

namespace Residency

variable {m m' : Residency} {s s' : Scene} {d d' : Device}

/-- Whether the look-up texture exists and can be written to. -/
def isLookUpReady (m : Residency) (s : Scene) : Bool :=
  m.lookUpTexture.any s.device.isReady

/-- Whether the look-up texture stores the bytes of the look-up entries, and no others. -/
def IsUploaded (m : Residency) (d : Device) : Prop :=
  ∃ ref raster switch, m.lookUpTexture = some ref ∧ d.texture ref = .kept raster switch ∧
    raster.texels = m.lookUp.bytes

theorem IsUploaded.of_same
    (h : m.IsUploaded d)
    (hlookUp : m'.lookUp = m.lookUp)
    (hlookUpTexture : m'.lookUpTexture = m.lookUpTexture)
    (hsame : ∀ ref, m.lookUpTexture = some ref → d'.texture ref = d.texture ref) :
    m'.IsUploaded d' := by
  obtain ⟨ref, raster, switch, href, hraster, htexels⟩ := h
  exact ⟨ref, raster, switch, hlookUpTexture.trans href, (hsame ref href).trans hraster,
    htexels.trans (congrArg LookUp.Buffer.bytes hlookUp.symm)⟩

theorem isLookUpReady_congr
    (hlookUp : m'.lookUpTexture = m.lookUpTexture)
    (hready : ∀ ref, s'.device.isReady ref = s.device.isReady ref) :
    m'.isLookUpReady s' = m.isLookUpReady s := by
  rw [isLookUpReady, isLookUpReady, hlookUp, funext hready]

/-- An upload makes no texture ready, and none cease to be. -/
theorem device_isReady_upload (m : Residency) (s : Scene) (ref : TextureRef) :
    (m.upload s).2.2.device.isReady ref = s.device.isReady ref := by
  rcases m.device_upload_cases s with hdevice | ⟨lookUp, _, hdevice⟩
  · rw [hdevice]
  · rw [hdevice]
    exact Device.isReady_update _ _ _ _ ref

theorem isLookUpReady_upload (m : Residency) (s : Scene) :
    (m.upload s).2.1.isLookUpReady (m.upload s).2.2 = m.isLookUpReady s := by
  obtain ⟨isPending, hresidency⟩ := m.upload_residency s
  exact isLookUpReady_congr (by rw [hresidency]) (m.device_isReady_upload s)

theorem upload_of_not_ready
    (h : m.isLookUpReady s = false) :
    m.upload s = (.ok (), m, s) := by
  unfold upload
  cases hlookUp : m.lookUpTexture with
  | none => rfl
  | some ref =>
      rw [isLookUpReady, hlookUp, Option.any_some] at h
      simp [h]

/-- An upload to a raster that is ready stores all entries. -/
theorem IsRastered.upload_of_ready
    (h : m.IsRastered s.device)
    (huploadable : m.IsUploadable s)
    (hready : m.isLookUpReady s = true) :
    ∃ device, m.upload s = (.ok (), { m with isUploadPending := false }, { s with device := device }) ∧
      m.IsUploaded device := by
  cases hlookUp : m.lookUpTexture with
  | none => simp [isLookUpReady, hlookUp] at hready
  | some ref =>
      rw [isLookUpReady, hlookUp, Option.any_some] at hready
      obtain ⟨raster, switch, hraster, hproper, hwidth, htexelBytes, hstored⟩ := h.lookUp ref hlookUp
      have hsize : m.lookUp.bytes.size = raster.width * raster.width * raster.texelBytes := by
        rw [LookUp.size_bytes, huploadable.size, hwidth, htexelBytes, Nat.mul_comm]
        rfl
      have hfits : raster.objection? m.lookUp.bytes.size ⟨0, 0, raster.width, raster.width⟩ =
          none :=
        (Raster.objection?_eq_none_iff hproper).mpr
          ⟨hsize, Nat.le_of_eq (Nat.zero_add _), Nat.le_of_eq (Nat.zero_add _)⟩
      obtain ⟨device, hupdate, hafter⟩ := Device.update_of_kept hraster hfits
      refine ⟨device, ?_, ref, _, switch, hlookUp, hafter, ?_⟩
      · rw [hwidth] at hupdate
        simp only [upload, hlookUp, hready, if_true, Scene.updateTexture, hupdate]
      · exact Raster.texels_eq_of_shows (Raster.isProper_write hproper hfits) hstored hsize
          (Raster.shows_write hproper hfits)

/-- The mark is taken back when the entries were uploaded. -/
theorem isUploadPending_upload
    (hok : (m.upload s).1 = .ok ())
    (hready : m.isLookUpReady s = true) :
    (m.upload s).2.1.isUploadPending = false := by
  unfold upload at hok ⊢
  cases hlookUp : m.lookUpTexture with
  | none => simp [isLookUpReady, hlookUp] at hready
  | some ref =>
      rw [isLookUpReady, hlookUp, Option.any_some] at hready
      simp only [hlookUp, hready, if_true] at hok ⊢
      rcases hupdate : s.updateTexture ref m.lookUp.bytes
        ⟨0, 0, m.settings.lookUpWidth, m.settings.lookUpWidth⟩ with ⟨outcome, s'⟩
      rw [hupdate] at hok
      cases outcome with
      | error fault => cases hok
      | ok _ => rfl

theorem isUploadPending_refresh
    {outside : BucketRef → Bool}
    (hok : (m.refresh s outside).1 = .ok ())
    (hready : (m.refresh s outside).2.1.isLookUpReady (m.refresh s outside).2.2 = true) :
    (m.refresh s outside).2.1.isUploadPending = false := by
  unfold refresh at hok hready ⊢
  dsimp only at hok hready ⊢
  rw [isLookUpReady_upload] at hready
  exact isUploadPending_upload hok hready

/-- After the entries were brought up to date, no upload to a texture that is ready is pending. -/
theorem isUploadPending_renew
    {outside : BucketRef → Bool}
    (hok : (m.renew s outside).1 = .ok ())
    (hready : (m.renew s outside).2.1.isLookUpReady (m.renew s outside).2.2 = true) :
    (m.renew s outside).2.1.isUploadPending = false := by
  unfold renew at hok hready ⊢
  split
  · rename_i hstale
    rw [if_pos hstale] at hok hready
    exact isUploadPending_refresh hok hready
  · rename_i hstale
    rw [if_neg hstale] at hok hready
    split
    · rename_i hpending
      rw [if_pos hpending] at hok hready
      rw [isLookUpReady_upload] at hready
      exact isUploadPending_upload hok hready
    · rename_i hpending
      exact Bool.eq_false_iff.mpr hpending

/-- After a frame that succeeds, no upload to a texture that is ready is pending. -/
theorem isUploadPending_tick
    {outside : BucketRef → Bool} {allowance : Allowance} {count : Nat}
    (hok : (m.tick s outside allowance).1 = .ok count)
    (hready : (m.tick s outside allowance).2.1.isLookUpReady (m.tick s outside allowance).2.2 =
      true) :
    (m.tick s outside allowance).2.1.isUploadPending = false := by
  rcases hwork : (m.readNotices s).1.work (m.readNotices s).2 allowance with ⟨outcome, m', s'⟩
  cases outcome with
  | error fault =>
      simp only [tick, hwork] at hok
      cases hok
  | ok done =>
      rw [tick_of_work_eq_ok outside hwork] at hready ⊢
      refine isUploadPending_renew ?_ hready
      rcases hrenew : m'.renew s' outside with ⟨renewed, m'', s''⟩
      cases renewed with
      | error fault =>
          simp only [tick, hwork, hrenew] at hok
          cases hok
      | ok _ => rfl

/-- After an activation that succeeds, no upload to a texture that is ready is pending. -/
theorem isUploadPending_activate
    {outside : BucketRef → Bool} {refs : List BucketRef} {anchor : Address}
    (hok : (m.activate s outside refs anchor).1 = .ok ())
    (hready : (m.activate s outside refs anchor).2.1.isLookUpReady
      (m.activate s outside refs anchor).2.2 = true) :
    (m.activate s outside refs anchor).2.1.isUploadPending = false := by
  rcases hread : m.readNotices s with ⟨m', s'⟩
  let requested := distinct s' [] refs
  rcases hoccupy : m'.occupy (requested.foldl reportCollected s') requested anchor with
    ⟨outcome, m'', s''⟩
  cases outcome with
  | error fault =>
      simp only [activate, hread, requested, hoccupy] at hok
      cases hok
  | ok _ =>
      have hactivate : m.activate s outside refs anchor = m''.refresh s'' outside := by
        simp only [activate, hread, requested, hoccupy]
      rw [hactivate] at hok hready ⊢
      exact isUploadPending_refresh hok hready

end Residency

end Uploading

section Pending

open Residency

variable {opening : Bool} {w w' : World} {op : Operation}

/-- A move makes no texture ready, and none cease to be. -/
theorem Move.isLookUpReady_eq
    (h : Move opening w w') :
    w'.residency.isLookUpReady w'.scene = w.residency.isLookUpReady w.scene := by
  refine isLookUpReady_congr h.retains.lookUpTexture fun ref => ?_
  rcases h.device_cases with ⟨hdevice, _⟩ | ⟨a, _, payload, hdevice, _⟩ | rfl
  · rw [hdevice]
  · rw [hdevice]
    exact Device.isReady_update w.scene.device _ payload _ ref
  · exact w.residency.device_isReady_upload w.scene ref

/-- A move takes the mark of a pending upload back only if the texture is ready. -/
theorem Move.pending
    (h : Move opening w w')
    (hpending : w.residency.isUploadPending = true)
    (hready : w'.residency.isLookUpReady w'.scene = false) :
    w'.residency.isUploadPending = true := by
  rw [h.isLookUpReady_eq] at hready
  rcases h.device_cases with ⟨_, hsame⟩ | ⟨_, _, _, _, hsame⟩ | rfl
  · exact hsame.trans hpending
  · exact hsame.trans hpending
  · rw [World.upload, upload_of_not_ready hready]
    exact hpending

theorem Moves.pending
    (h : Moves opening w w')
    (hpending : w.residency.isUploadPending = true)
    (hready : w'.residency.isLookUpReady w'.scene = false) :
    w'.residency.isUploadPending = true := by
  induction h with
  | refl => exact hpending
  | tail _ hmove ih => exact hmove.pending (ih (hmove.isLookUpReady_eq.symm.trans hready)) hready

/-- An upload stays pending as long as the texture is not ready. -/
theorem Performs.pending
    (h : Performs op w w')
    (hpending : w.residency.isUploadPending = true)
    (hready : w'.residency.isLookUpReady w'.scene = false) :
    w'.residency.isUploadPending = true := by
  cases h with
  | keeping hmoves => exact Moves.pending hmoves hpending hready
  | rebuilding _ _ hafter => exact Moves.pending hafter rfl hready

/-- No operation and no occurrence forgets that an upload is pending. -/
theorem pending_step
    (htidy : Tidy w.residency)
    (hnames : op.Names w.scene)
    (hpending : w.residency.isUploadPending = true)
    (hready : (w.step op).residency.isLookUpReady (w.step op).scene = false) :
    (w.step op).residency.isUploadPending = true := by
  cases hwork : op.isWork with
  | true => exact (performs_step hwork htidy hnames).pending hpending hready
  | false =>
      cases op with
      | occurrence o => exact hpending
      | setUp factory bytes =>
          rw [w.step_setUp]
          rcases w.residency.setUp_cases w.scene factory bytes with hsame | ⟨_, _, hnew⟩
          · rw [hsame]
            exact hpending
          · rw [hnew]
      | _ => cases hwork

end Pending

section Lagging

open Residency

variable {opening : Bool} {s₀ : Scene} {w w' : World}

/-- Whether the look-up entries are uploaded, unless that is pending or there is no texture. -/
def Uploaded (w : World) : Prop :=
  w.residency.isUploadPending = false → w.residency.lookUpTexture.isSome = true →
    w.residency.IsUploaded w.scene.device

theorem Uploaded.of_move
    (h : Uploaded w)
    (htidy : Tidy w.residency)
    (huploadable : w.residency.IsUploadable w.scene)
    (hrastered : w.residency.IsRastered w.scene.device)
    (hmove : Move opening w w') :
    Uploaded w' := by
  intro hpending hsome
  have hretains := hmove.retains
  rw [hretains.lookUpTexture] at hsome
  rcases hmove.device_cases with ⟨hdevice, hsame⟩ | ⟨a, ha, payload, hdevice, hsame⟩ | rfl
  · refine (h (hsame.symm.trans hpending) hsome).of_same hretains.lookUp hretains.lookUpTexture ?_
    intro ref _
    rw [hdevice]
  · -- slots do not lie on the look-up texture
    refine (h (hsame.symm.trans hpending) hsome).of_same hretains.lookUp hretains.lookUpTexture ?_
    intro ref href
    obtain ⟨bytes, hequipped⟩ := hrastered.equipped hsome
    rw [hdevice]
    refine Device.texture_update_of_ne payload _ fun hslot => ?_
    exact hequipped.apart ref href (hslot ▸ hequipped.slotTexture_mem (htidy.slot_lt ha))
  · cases hready : w.residency.isLookUpReady w.scene with
    | false =>
        rw [World.upload, upload_of_not_ready hready] at hpending ⊢
        exact h hpending hsome
    | true =>
        obtain ⟨device, hupload, huploaded⟩ := hrastered.upload_of_ready huploadable hready
        rw [World.upload, hupload]
        exact huploaded

theorem Uploaded.of_other
    {op : Operation}
    (h : Uploaded w)
    (huploadable : w.residency.IsUploadable w.scene)
    (hop : op.isWork = false) :
    Uploaded (w.step op) := by
  cases op with
  | occurrence o =>
      rw [w.step_occurrence]
      intro hpending hsome
      refine (h hpending hsome).of_same rfl rfl fun ref _ => ?_
      dsimp only
      rw [Device.texture, Device.texture, w.scene.textures_occur]
  | setUp factory bytes =>
      have hextends := w.residency.extends_setUp w.scene factory bytes
      rw [w.step_setUp]
      intro hpending hsome
      rcases w.residency.setUp_cases w.scene factory bytes with hsame | ⟨_, _, hnew⟩
      · rw [hsame] at hpending hsome
        refine (h hpending hsome).of_same (by rw [hsame]) (by rw [hsame]) fun ref href => ?_
        exact hextends.texture ref (huploadable.fits ref href).1
      · rw [hnew] at hpending
        cases hpending
  | _ => cases hop

/-- Unless an upload is pending, the look-up texture stores the look-up entries. -/
theorem Reachable.uploaded
    (h : Reachable UsesRasters s₀ w) :
    Uploaded w := by
  refine (h.of_moves (P := fun w => w.residency.IsUploadable w.scene ∧
    w.residency.IsRastered w.scene.device) (Q := Uploaded) ?_ ?_ ?_ ?_ ?_).2
  · intro width textures packing settings m s hcreate
    refine ⟨⟨isUploadable_create hcreate, isRastered_create hcreate⟩, ?_⟩
    obtain ⟨_, _, _, _, _, rfl⟩ := create_eq_ok hcreate
    exact fun _ hsome => by cases hsome
  · intro w op _ hother _ hrasters hw huploaded
    refine ⟨⟨?_, hw.2.of_other hother hrasters⟩, huploaded.of_other hw.1 hother⟩
    cases op with
    | occurrence o => exact hw.1.of_occur o
    | setUp factory bytes => exact hw.1.of_setUp factory bytes
    | _ => cases hother
  · exact fun _ hmove hw => ⟨hw.1.of_move hmove, hw.2.of_move hmove⟩
  · exact fun htidy hmove hw huploaded => huploaded.of_move htidy hw.1 hw.2 hmove
  · intro _ w _ outside _ _ _ _ hw
    refine ⟨⟨hw.1.of_rebuild outside, ?_⟩, fun hpending => by cases hpending⟩
    exact hw.2.of_overwrites rfl rfl rfl rfl (Device.overwrites_of_textures rfl)

/-- A look-up texture that is ready exists. -/
theorem Uploaded.of_ready
    (h : Uploaded w)
    (hpending : w.residency.isUploadPending = false)
    (hready : w.residency.isLookUpReady w.scene = true) :
    w.residency.IsUploaded w.scene.device := by
  refine h hpending ?_
  cases hlookUp : w.residency.lookUpTexture with
  | none => simp [isLookUpReady, hlookUp] at hready
  | some ref => rfl

theorem Reachable.isRaster_lookUpTexture
    {ref : TextureRef}
    (h : Reachable UsesRasters s₀ w)
    (href : w.residency.lookUpTexture = some ref) :
    (w.scene.device.texture ref).isRaster = true := by
  obtain ⟨raster, switch, hraster, _⟩ := h.isRastered.lookUp ref href
  rw [hraster]
  rfl

/-- A frame fails only if its writes do. -/
theorem Reachable.work_of_tick_eq_error
    {outside : BucketRef → Bool} {allowance : Allowance} {fault : Fault}
    (h : Reachable UsesRasters s₀ w)
    (hfails : (w.residency.tick w.scene outside allowance).1 = .error fault) :
    ((w.residency.readNotices w.scene).1.work (w.residency.readNotices w.scene).2 allowance).1 =
      .error fault := by
  have hread : Reachable UsesRasters s₀ (w.step .readNotices) := h.step trivial trivial
  have hworked : Reachable UsesRasters s₀ ((w.step .readNotices).step (.work allowance)) :=
    hread.step trivial trivial
  have hrenewed := hworked.isUploadable.isOk_renew (fun _ => hworked.isRaster_lookUpTexture) outside
  simp only [World.step, World.result] at hrenewed
  rcases hwork : (w.residency.readNotices w.scene).1.work (w.residency.readNotices w.scene).2
    allowance with ⟨outcome, m', s'⟩
  rw [hwork] at hrenewed
  cases outcome with
  | error other =>
      simp only [tick, hwork] at hfails
      cases hfails
      rfl
  | ok done =>
      dsimp only at hrenewed
      rcases hrenew : m'.renew s' outside with ⟨renewed, m'', s''⟩
      rw [hrenew] at hrenewed
      cases hrenewed
      simp only [tick, hwork, hrenew] at hfails
      cases hfails

/-- An activation fails only for want of slots. -/
theorem Reachable.activate_eq_error
    {outside : BucketRef → Bool} {refs : List BucketRef} {anchor : Address} {fault : Fault}
    (h : Reachable UsesRasters s₀ w)
    (hexist : ∀ ref ∈ refs, ref < w.scene.buckets.size)
    (hfails : (w.residency.activate w.scene outside refs anchor).1 = .error fault) :
    ∃ capacity count, fault = .capacityExhausted capacity count := by
  have hafter : Reachable UsesRasters s₀ (w.step (.activate outside refs anchor)) :=
    h.step hexist trivial
  have hperforms : Performs (.activate outside refs anchor) w
      (w.step (.activate outside refs anchor)) := performs_activate anchor rfl h.tidy hexist
  have hretains := hperforms.retains
  rcases w.residency.fst_activate w.scene outside refs anchor with
    ⟨capacity, count, hrefused⟩ | hanswer
  · rw [hfails] at hrefused
    cases hrefused
    exact ⟨capacity, count, rfl⟩
  · have huploadable : (w.step (.activate outside refs anchor)).residency.IsUploadable w.scene :=
      h.isUploadable.of_size hafter.isUploadable.size hretains.settings hretains.lookUpTexture
    have hok := huploadable.uploadAnswer_eq_ok fun ref href =>
      h.isRaster_lookUpTexture (hretains.lookUpTexture.symm.trans href)
    rw [hfails] at hanswer
    cases hanswer.trans hok

/--
The uploaded look-up entries never lag behind, in any run on rasters.  Unless an upload is
pending, the look-up texture stores the bytes of the look-up entries; an upload stays pending
through every operation after which the texture is missing or not ready.  Uploads do not fail:
frames fail only if their writes do, and activations only for want of slots.  After each
frame and each activation that succeeds, a look-up texture that is ready stores the look-up
entries.
-/
theorem upload_neverLags
    (h : Reachable UsesRasters s₀ w) :
    Uploaded w ∧
    (∀ op : Operation, op.Names w.scene → w.residency.isUploadPending = true →
      (w.step op).residency.isLookUpReady (w.step op).scene = false →
      (w.step op).residency.isUploadPending = true) ∧
    ((w.residency.upload w.scene).1 = .ok () ∧
      ∀ outside, (w.residency.refresh w.scene outside).1 = .ok ()) ∧
    (∀ outside allowance,
      let read := w.residency.readNotices w.scene
      let frame := w.residency.tick w.scene outside allowance
      (∀ fault, frame.1 = .error fault → (read.1.work read.2 allowance).1 = .error fault) ∧
      (∀ count, frame.1 = .ok count → frame.2.1.isLookUpReady frame.2.2 = true →
        frame.2.1.IsUploaded frame.2.2.device)) ∧
    ∀ outside refs anchor, (∀ ref ∈ refs, ref < w.scene.buckets.size) →
      let activation := w.residency.activate w.scene outside refs anchor
      (∀ fault, activation.1 = .error fault →
        ∃ capacity count, fault = .capacityExhausted capacity count) ∧
      (activation.1 = .ok () → activation.2.1.isLookUpReady activation.2.2 = true →
        activation.2.1.IsUploaded activation.2.2.device) := by
  refine ⟨h.uploaded, fun op hnames => pending_step h.tidy hnames, ⟨?_, fun outside => ?_⟩, ?_, ?_⟩
  · rw [fst_upload]
    exact h.isUploadable.uploadAnswer_eq_ok fun _ => h.isRaster_lookUpTexture
  · exact h.isUploadable.isOk_refresh (fun _ => h.isRaster_lookUpTexture) outside
  · intro outside allowance read frame
    refine ⟨fun fault => h.work_of_tick_eq_error, fun count hok hready => ?_⟩
    have hafter : Reachable UsesRasters s₀ (w.step (.tick outside allowance)) :=
      h.step trivial trivial
    exact hafter.uploaded.of_ready (isUploadPending_tick hok hready) hready
  · intro outside refs anchor hexist activation
    refine ⟨fun fault => h.activate_eq_error hexist, fun hok hready => ?_⟩
    have hafter : Reachable UsesRasters s₀ (w.step (.activate outside refs anchor)) :=
      h.step hexist trivial
    exact hafter.uploaded.of_ready (isUploadPending_activate hok hready) hready

/-- New rasters that become ready only later get the look-up entries then. -/
theorem upload_neverLags_of_late_switch :
    let ops : List Operation := [
      .occurrence (.addSwitch false), .setUp (.rasters 0) 1,
      .occurrence (.create 7 .origin none), .activate (fun _ => true) [0] .origin,
      .tick (fun _ => true) .unlimited, .setUp (.rasters 0) 2,
      .occurrence (.setSwitch 0 true)]
    let w := ops.foldl World.step .smallest
    let frame := w.residency.tick w.scene (fun _ => true) .unlimited
    w.residency.isUploadPending = true ∧ frame.1 = .ok 0 ∧
      frame.2.1.isLookUpReady frame.2.2 = true ∧ frame.2.1.IsUploaded frame.2.2.device := by
  intro ops w frame
  have hreached : Reachable UsesRasters Scene.empty w := by
    refine (reachable_smallest _).run ⟨trivial, trivial, trivial, trivial, trivial, trivial, ?_,
      trivial, trivial, trivial, trivial, trivial, trivial, trivial, trivial⟩
    intro ref href
    rw [List.mem_singleton.mp href]
    decide +kernel
  have hbooks : w.residency.isUploadPending = true ∧ frame.1.toOption = some 0 ∧
      frame.2.1.isLookUpReady frame.2.2 = true := by
    decide +kernel
  obtain ⟨hpending, hcount, hready⟩ := hbooks
  have hok : frame.1 = .ok 0 := by
    cases hanswer : frame.1 with
    | error fault => simp [hanswer, Except.toOption] at hcount
    | ok count => simpa [hanswer, Except.toOption] using hcount
  -- from here on the run counts only for what is known of it
  clear_value w
  exact ⟨hpending, hok, hready,
    ((upload_neverLags hreached).2.2.2.1 (fun _ => true) .unlimited).2 0 hok hready⟩

end Lagging

end VoxelCache
