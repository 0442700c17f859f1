import VoxelCache.Proofs.Misfits
import VoxelCache.Proofs.Planning
import VoxelCache.Proofs.RasterUpdates
import Mathlib.Data.Nat.Prime.Basic

/-!
# Slots as tiles

A layout is accepted only if the width of the textures divides a power of two, and then the rows
of a slot divide the width: the slots of a texture lie below each other without gaps and without
a rest.

Textures can be set up any number of times and of anything.  What was set up last without a
failure determines how many textures there are and, if they are rasters, which payloads they
accept.

**Invariant.**
* `HasEquipment`: the textures are those that were set up last.

**Results.**
* `SlotLayout.tiles_create`: the slots of an accepted layout tile its textures.
* `Fitted.commit_refills`: what the write for an active bucket does.
* `HasEquipment.run`: the invariant holds in every run.
* `slots_tile_textures`: in every run, writes replace tiles.
-/

namespace VoxelCache

section Tiles

namespace SlotLayout

variable {layout : SlotLayout} {width textures packing texture slot x y k : Nat}

/-- Whether the slots of a layout lie inside its textures and take up each texel once. -/
structure Tiles (layout : SlotLayout) : Prop where
  rows : layout.slotRows * layout.slotsPerTexture = layout.width
  capacity : layout.capacity =
    layout.packing * layout.textures * layout.width ^ 2 / bucketVoxels
  inside : ∀ slot < layout.capacity,
    layout.textureOf slot < layout.textures ∧
      (layout.rectOf slot).x + (layout.rectOf slot).width ≤ layout.width ∧
      (layout.rectOf slot).y + (layout.rectOf slot).height ≤ layout.width
  apart : ∀ slot < layout.capacity, ∀ other < layout.capacity, slot ≠ other →
    layout.textureOf slot = layout.textureOf other →
    (layout.rectOf slot).Apart (layout.rectOf other)
  covered : ∀ texture < layout.textures, ∀ x < layout.width, ∀ y < layout.width,
    ∃! slot, slot < layout.capacity ∧ layout.textureOf slot = texture ∧
      (layout.rectOf slot).Covers x y

/-- Both factors of a power of two are such powers, so that one divides the other. -/
theorem rows_dvd_width
    (hwidth : width ∣ 2 ^ k)
    (hrows : 2 ^ k / width ≤ width) :
    2 ^ k / width ∣ width := by
  obtain ⟨j, hj, rfl⟩ := (Nat.dvd_prime_pow Nat.prime_two).mp hwidth
  rw [Nat.pow_div hj (by omega)] at hrows ⊢
  exact Nat.pow_dvd_pow 2 ((Nat.pow_le_pow_iff_right (by omega)).mp hrows)

/-- The slots of a texture take up all its rows. -/
theorem rows_mul_slotsPerTexture
    (h : create width textures packing = .ok layout) :
    layout.slotRows * layout.slotsPerTexture = layout.width := by
  obtain ⟨hpacking, _, hdvd, htall, rfl⟩ := create_eq_ok h
  obtain ⟨p, hp, rfl⟩ : ∃ p ≤ 2, packing = 2 ^ p := by
    rcases hpacking with rfl | rfl | rfl
    exacts [⟨0, by omega, rfl⟩, ⟨1, by omega, rfl⟩, ⟨2, by omega, rfl⟩]
  dsimp only
  rw [packedBucket_two_pow hp] at hdvd htall ⊢
  exact Nat.mul_div_cancel' (rows_dvd_width hdvd htall)

/-- There are as many slots as buckets fit into the voxels of all textures. -/
theorem capacity_eq
    (h : create width textures packing = .ok layout) :
    layout.capacity = packing * textures * width ^ 2 / bucketVoxels := by
  have hrows := rows_mul_slotsPerTexture h
  obtain ⟨hpacking, _, hdvd, _, rfl⟩ := create_eq_ok h
  dsimp only at hrows
  have hvoxels := voxels_eq textures hpacking (Nat.div_mul_cancel hdvd).symm
    (hrows.symm.trans (Nat.mul_comm _ _))
  refine Nat.eq_div_of_mul_eq_left (by decide) (hvoxels.symm.trans ?_)
  rw [TexturePlan.voxelsPerTexture]
  ring

/-- Every texel lies in a slot of its texture. -/
theorem exists_slot_covers
    (hrows : layout.slotRows * layout.slotsPerTexture = layout.width)
    (htexture : texture < layout.textures)
    (hx : x < layout.width)
    (hy : y < layout.width) :
    ∃ slot < layout.capacity, layout.textureOf slot = texture ∧
      (layout.rectOf slot).Covers x y := by
  have hplace : y / layout.slotRows < layout.slotsPerTexture :=
    Nat.div_lt_of_lt_mul (hrows ▸ hy)
  have hpos : 0 < layout.slotRows :=
    Nat.pos_of_ne_zero fun hzero => by rw [hzero, Nat.zero_mul] at hrows; omega
  refine ⟨texture * layout.slotsPerTexture + y / layout.slotRows, ?_, rowMajor_div hplace, ?_⟩
  · rw [capacity, Nat.mul_comm layout.slotsPerTexture]
    exact rowMajor_lt hplace htexture
  · have hy' := Nat.div_add_mod y layout.slotRows
    have hrest := Nat.mod_lt y hpos
    simp only [Rect.Covers, rectOf, rowMajor_mod hplace]
    omega

/-- The slots of an accepted layout tile its textures. -/
theorem tiles_create
    (h : create width textures packing = .ok layout) :
    layout.width = width ∧ layout.textures = textures ∧ layout.packing = packing ∧
      layout.Tiles := by
  have hproper := isProper_create h
  have hrows := rows_mul_slotsPerTexture h
  have hcapacity := capacity_eq h
  obtain ⟨_, _, _, _, hlayout⟩ := create_eq_ok h
  refine ⟨by rw [hlayout], by rw [hlayout], by rw [hlayout], hrows, ?_, ?_, ?_, ?_⟩
  · rw [hcapacity, hlayout]
  · exact fun slot hslot => ⟨textureOf_lt hslot, Nat.le_of_eq (Nat.zero_add _),
      rectOf_le hproper hslot⟩
  · exact fun slot _ other _ hne htexture => rectOf_apart htexture hne
  · intro texture htexture x hx y hy
    obtain ⟨slot, hslot, hplace, hcovers⟩ := exists_slot_covers hrows htexture hx hy
    refine ⟨slot, ⟨hslot, hplace, hcovers⟩, ?_⟩
    rintro other ⟨_, hother, hcovers'⟩
    by_contra hne
    exact (rectOf_apart (hother.trans hplace.symm) hne).not_covers hcovers' hcovers

end SlotLayout

end Tiles

section Replacing

open Residency

variable {bytes : Nat} {m m' : Residency} {s s' : Scene} {d d' : Device} {a : ActiveBucket}
  {payload : Payload}

/--
Whether the bytes of a slot were replaced by a payload, texel by texel, and nothing else was.
-/
structure Residency.Refills
    (m : Residency) (d d' : Device) (bytes slot : Nat) (payload : Payload) : Prop where
  own : ∃ raster raster' switch, d.texture (m.slotTexture slot) = .kept raster switch ∧
    raster.texelBytes = bytes * m.layout.packing ∧
    d'.texture (m.slotTexture slot) = .kept raster' switch ∧
    raster.Overwritten raster' payload (m.layout.rectOf slot)
  others : ∀ ref, ref ≠ m.slotTexture slot → d'.texture ref = d.texture ref
  slots : ∀ other < m.capacity, other ≠ slot → m.KeepsSlot m d d' other

/-- A write that succeeds replaces the bytes of its slot. -/
theorem Residency.Fitted.refills_writeSlot
    (h : Fitted bytes m s)
    (ha : a ∈ m.active)
    (hsize : payload.size = bucketVoxels * bytes) :
    ∃ s', m.writeSlot s a.slot payload = (.ok (), s') ∧
      m.Refills s.device s'.device bytes a.slot payload := by
  have hslot := h.tidy.slot_lt ha
  obtain ⟨s', hwrite, _, _, hslots⟩ := writeSlot_of_isEquipped h.layout h.equipped hslot hsize
  obtain ⟨raster, switch, hraster, hproper, _, htexelBytes, haccepts⟩ :=
    h.equipped.exists_raster h.layout hslot
  have hfits : raster.Fits payload.size (m.layout.rectOf a.slot) :=
    (Raster.objection?_eq_none_iff hproper).mp ((haccepts _).mpr hsize)
  obtain ⟨_, ⟨raster', hraster', hoverwritten⟩, hothers⟩ :=
    Device.update_of_fits hraster hproper hfits
  have hdevice : s'.device =
      (s.device.update (m.slotTexture a.slot) payload (m.layout.rectOf a.slot)).2 :=
    (congrArg (·.2.device) hwrite).symm
  rw [← hdevice] at hraster' hothers
  exact ⟨s', hwrite,
    ⟨⟨raster, raster', switch, hraster, htexelBytes, hraster', hoverwritten⟩, hothers, hslots⟩⟩

/--
The write for an active bucket fails, and changes nothing, if its payload has another size than
its slot; else it replaces the bytes of the slot.
-/
theorem Residency.Fitted.commit_refills
    (h : Fitted bytes m s)
    (ha : a ∈ m.active)
    (hpayload : (s.bucket a.bucket).payload = some payload) :
    (payload.size ≠ bucketVoxels * bytes →
      ∃ fault, m.commit s a.request = (.error fault, m, s)) ∧
    (payload.size = bucketVoxels * bytes →
      ∃ m' s', m.commit s a.request = (.ok true, m', s') ∧
        m.Refills s.device s'.device bytes a.slot payload) := by
  rcases m.commit_cases s a.request with
    ⟨_, _, hskip⟩ | ⟨b, other, hfind, _, hother, hwrite⟩
  · have hnone := hskip a (h.tidy.find?_eq_some_iff.mpr ⟨ha, rfl⟩) rfl
    rw [hpayload] at hnone
    cases hnone
  · have hsame : b = a := h.tidy.eq_of_id (find?_eq_some hfind).1 ha (find?_eq_some hfind).2
    subst hsame
    rw [hpayload] at hother
    cases hother
    constructor
    · intro hsize
      rcases hwrite with ⟨fault, s', hwrite, hcommit⟩ | ⟨s', hwrite, _⟩
      · obtain ⟨_, rfl⟩ := h.eq_of_writeSlot ha hwrite
        exact ⟨fault, hcommit⟩
      · exact absurd (h.size_of_writeSlot ha hwrite) hsize
    · intro hsize
      obtain ⟨written, hwritten, hrefills⟩ := h.refills_writeSlot ha hsize
      rcases hwrite with ⟨_, _, hwrite, _⟩ | ⟨s', hwrite, hcommit⟩
      · rw [show b.request.slot = b.slot from rfl, hwritten] at hwrite
        cases hwrite
      · rw [show b.request.slot = b.slot from rfl, hwritten] at hwrite
        cases hwrite
        refine ⟨(m.markCommitted written b).1, (m.markCommitted written b).2, hcommit, ?_⟩
        rw [device_markCommitted]
        exact hrefills

end Replacing

section Equipment

open Residency

/-- What textures are made of, and the bytes of the voxels that they are for. -/
structure Equipment where
  factory : Factory
  bytes : Nat
deriving DecidableEq

namespace World

/-- The textures that were set up last, given those before an operation. -/
def equipmentAfter (w : World) (equipment : Option Equipment) : Operation → Option Equipment
  | .setUp factory bytes =>
      match (w.residency.setUp w.scene factory bytes).1 with
      | .ok _ => some ⟨factory, bytes⟩
      | .error _ => equipment
  | _ => equipment

/-- The textures that were set up last in a run. -/
def lastEquipment (w : World) (equipment : Option Equipment) : List Operation → Option Equipment
  | [] => equipment
  | op :: rest => (w.step op).lastEquipment (w.equipmentAfter equipment op) rest

end World

/-- Whether the textures of a residency are those that were set up last. -/
structure HasEquipment (equipment : Option Equipment) (w : World) : Prop where
  isSome : w.residency.lookUpTexture.isSome = equipment.isSome
  length : equipment.isSome = true →
    w.residency.dataTextures.length = w.residency.layout.textures
  rasters : ∀ switch bytes, equipment = some ⟨.rasters switch, bytes⟩ →
    w.residency.IsEquipped w.scene.device bytes

variable {opening : Bool} {equipment : Option Equipment} {w w' : World} {op : Operation}
  {s₀ : Scene} {allowed : World → Operation → Prop}

theorem Residency.length_createTextures
    {s s' : Scene} {factory : Factory} {width channels count : Nat} {refs : List TextureRef}
    (h : createTextures s factory width channels count = (.ok refs, s')) :
    refs.length = count := by
  induction count generalizing s refs with
  | zero =>
      cases h
      rfl
  | succ count ih =>
      unfold createTextures at h
      split at h
      · cases h
      · rename_i ref s₁ _
        rcases hrest : createTextures s₁ factory width channels count with ⟨outcome, s₂⟩
        rw [hrest] at h
        cases outcome with
        | error fault => cases h
        | ok later =>
            cases h
            rw [List.length_cons, ih hrest]

/-- A residency is set up with all its textures, or it keeps those it had. -/
theorem Residency.setUp_outcome
    (m : Residency) (s : Scene) (factory : Factory) (bytes : Nat) :
    let after := m.setUp s factory bytes
    (∃ fault, after.1 = .error fault ∧ after.2.1 = m) ∨
      after.1 = .ok () ∧ after.2.1.lookUpTexture.isSome = true ∧
        after.2.1.layout = m.layout ∧ after.2.1.dataTextures.length = m.layout.textures := by
  intro after
  rcases m.setUp_inversion s factory bytes with
    ⟨fault, s', hfails⟩ | ⟨refs, s', lookUp, d, journal, _, hdata, _, hok⟩
  · exact .inl ⟨fault, congrArg (·.1) hfails, congrArg (·.2.1) hfails⟩
  · rw [show after = _ from hok]
    exact .inr ⟨rfl, rfl, rfl, length_createTextures hdata⟩

/-- Nothing but a set-up changes what the textures are. -/
theorem HasEquipment.of_overwrites
    (h : HasEquipment equipment w)
    (hlayout : w'.residency.layout = w.residency.layout)
    (hdata : w'.residency.dataTextures = w.residency.dataTextures)
    (hlookUp : w'.residency.lookUpTexture = w.residency.lookUpTexture)
    (hdevice : Device.Overwrites w.scene.device w'.scene.device) :
    HasEquipment equipment w' where
  isSome := hlookUp ▸ h.isSome
  length hsome := by
    rw [hdata, hlayout]
    exact h.length hsome
  rasters switch bytes hequipment :=
    (h.rasters switch bytes hequipment).of_overwrites hlayout hdata hlookUp hdevice

theorem Moves.overwrites
    (h : Moves opening w w') :
    Device.Overwrites w.scene.device w'.scene.device := by
  induction h with
  | refl => exact Device.overwrites_of_textures rfl
  | tail _ hmove ih => exact ih.trans hmove.overwrites

theorem HasEquipment.moves
    (h : HasEquipment equipment w)
    (hmoves : Moves opening w w') :
    HasEquipment equipment w' :=
  h.of_overwrites hmoves.retains.layout hmoves.retains.dataTextures hmoves.retains.lookUpTexture
    hmoves.overwrites

theorem HasEquipment.performs
    (h : HasEquipment equipment w)
    (hperforms : Performs op w w') :
    HasEquipment equipment w' := by
  cases hperforms with
  | keeping hmoves => exact h.moves hmoves
  | rebuilding _ hbefore hafter =>
      refine HasEquipment.moves ?_ hafter
      exact (h.moves hbefore).of_overwrites rfl rfl rfl (Device.overwrites_of_textures rfl)

/-- A set-up that succeeds makes all textures anew, and one that fails leaves them alone. -/
theorem HasEquipment.setUp
    (h : HasEquipment equipment w)
    (hlayout : w.residency.layout.IsProper)
    (factory : Factory) (bytes : Nat) :
    HasEquipment (w.equipmentAfter equipment (.setUp factory bytes))
      (w.step (.setUp factory bytes)) := by
  rw [w.step_setUp, World.equipmentAfter]
  have hextends := w.residency.extends_setUp w.scene factory bytes
  rcases w.residency.setUp_outcome w.scene factory bytes with
    ⟨fault, hfault, hsame⟩ | ⟨hok, hlookUp, hkept, hlength⟩
  · rw [hfault]
    refine h.of_overwrites ?_ ?_ ?_ hextends.overwrites <;> rw [hsame]
  · rw [hok]
    refine ⟨hlookUp, fun _ => hkept ▸ hlength, ?_⟩
    rintro switch _ ⟨⟩
    rcases isFresh_setUp hlayout w.scene switch bytes with ⟨_, hfault, _⟩ | ⟨_, hfresh⟩
    · rw [hok] at hfault
      cases hfault
    · exact hfresh.equipped

theorem HasEquipment.step
    (h : HasEquipment equipment w)
    (hlayout : w.residency.layout.IsProper)
    (htidy : Tidy w.residency)
    (hnames : op.Names w.scene) :
    HasEquipment (w.equipmentAfter equipment op) (w.step op) := by
  cases op with
  | setUp factory bytes => exact h.setUp hlayout factory bytes
  | occurrence o =>
      rw [w.step_occurrence]
      exact h.of_overwrites rfl rfl rfl
        (Device.overwrites_of_textures (w.scene.textures_occur o))
  | _ => exact h.performs (performs_step rfl htidy hnames)

/-- In every run the textures are those that were set up last. -/
theorem HasEquipment.run
    {ops : List Operation}
    (h : HasEquipment equipment w)
    (hreached : Reachable allowed s₀ w)
    (hops : w.Admits allowed ops) :
    HasEquipment (w.lastEquipment equipment ops) (ops.foldl World.step w) := by
  induction ops generalizing w equipment with
  | nil => exact h
  | cons op rest ih =>
      exact ih (h.step hreached.isProper hreached.tidy hops.1) (hreached.step hops.1 hops.2.1) hops.2.2

theorem hasEquipment_create
    {width textures packing : Nat} {settings : Settings} {m : Residency} {s : Scene}
    (hcreate : Residency.create s₀ width textures packing settings = (.ok m, s)) :
    HasEquipment none ⟨m, s, .blank⟩ := by
  obtain ⟨_, _, _, _, _, rfl⟩ := Residency.create_eq_ok hcreate
  exact ⟨rfl, nofun, nofun⟩

end Equipment

section Runs

open Residency

variable {s₀ s : Scene} {m : Residency} {width textures packing : Nat} {settings : Settings}

theorem layout_step
    {w : World} {op : Operation}
    (htidy : Tidy w.residency)
    (hnames : op.Names w.scene) :
    (w.step op).residency.layout = w.residency.layout := by
  cases op with
  | setUp factory bytes => exact (setUp_keeps w factory bytes).1
  | occurrence o => rw [w.step_occurrence]
  | _ => exact (performs_step rfl htidy hnames).retains.layout

theorem Reachable.layout_run
    {allowed : World → Operation → Prop} {w : World} {ops : List Operation}
    (hreached : Reachable allowed s₀ w)
    (hops : w.Admits allowed ops) :
    (ops.foldl World.step w).residency.layout = w.residency.layout := by
  induction ops generalizing w with
  | nil => rfl
  | cons op rest ih =>
      exact (ih (hreached.step hops.1 hops.2.1) hops.2.2).trans
        (layout_step hreached.tidy hops.1)

/--
The slots of a residency tile its textures.  In every run, and also in the middle of an
operation, the slots of active buckets lie on textures that exist once these are ready.  If what
was set up last are rasters, then the write for an active bucket fails exactly if its payload
does not have the size of a bucket, and then changes nothing; else it replaces the bytes of its
own slot and no others.  The bytes of a texel are counted exactly, as a 32-bit word does for all
voxels below 2 ^ 30 bytes.
-/
theorem slots_tile_textures
    (hcreate : Residency.create s₀ width textures packing settings = (.ok m, s)) :
    (m.layout.width = width ∧ m.layout.textures = textures ∧ m.layout.packing = packing ∧
      m.layout.Tiles) ∧
    ∀ ops, World.Admits (fun _ _ => True) ⟨m, s, .blank⟩ ops →
      let equipment := World.lastEquipment ⟨m, s, .blank⟩ none ops
      ∀ opening w, Moves opening (ops.foldl World.step ⟨m, s, .blank⟩) w →
        w.residency.layout = m.layout ∧
        (w.residency.isReady w.scene = true →
          equipment.isSome = true ∧
          ∀ a ∈ w.residency.active,
            w.residency.layout.textureOf a.slot < w.residency.dataTextures.length) ∧
        ∀ switch bytes, equipment = some ⟨.rasters switch, bytes⟩ →
          ∀ a ∈ w.residency.active, ∀ payload,
            (w.scene.bucket a.bucket).payload = some payload →
            (payload.size ≠ bucketVoxels * bytes →
              ∃ fault, w.residency.commit w.scene a.request =
                (.error fault, w.residency, w.scene)) ∧
            (payload.size = bucketVoxels * bytes →
              ∃ m' s', w.residency.commit w.scene a.request = (.ok true, m', s') ∧
                w.residency.Refills w.scene.device s'.device bytes a.slot payload) := by
  obtain ⟨layout, _, hlayout, _, _, hm⟩ := Residency.create_eq_ok hcreate
  have hreached : Reachable (fun _ _ => True) s₀ ⟨m, s, .blank⟩ := .create hcreate
  refine ⟨by rw [hm]; exact SlotLayout.tiles_create hlayout, ?_⟩
  intro ops hops equipment opening w hmoves
  have hrun := hreached.run hops
  have hequipped : HasEquipment equipment w :=
    ((hasEquipment_create hcreate).run hreached hops).moves hmoves
  have htidy : Tidy w.residency := Moves.tidy hmoves hrun.tidy
  have hkept : w.residency.layout = m.layout :=
    hmoves.retains.layout.trans (hreached.layout_run hops)
  refine ⟨hkept, ?_, ?_⟩
  · intro hready
    have hsome : equipment.isSome = true :=
      hequipped.isSome ▸ isSome_lookUpTexture_of_isReady hready
    refine ⟨hsome, fun a ha => ?_⟩
    rw [hequipped.length hsome]
    exact SlotLayout.textureOf_lt (htidy.slot_lt ha)
  · intro switch bytes hrasters a ha payload hpayload
    have hproper : w.residency.layout.IsProper := hkept ▸ hreached.isProper
    have hfitted : Fitted bytes w.residency w.scene :=
      ⟨htidy, hproper, hequipped.rasters switch bytes hrasters⟩
    exact hfitted.commit_refills ha hpayload

/-- The first payload of the only bucket goes to its slot, which is the upper half of a texture. -/
theorem slots_tile_textures_of_one_active :
    let w := World.oneActive.step (.occurrence (.deed 0 (.receive (.fill 1))))
    Residency.create Scene.empty 256 1 1 .smallest =
        (.ok World.smallest.residency, World.smallest.scene) ∧
      w.residency.layout.rectOf 0 = ⟨0, 0, 256, 128⟩ ∧
      ∃ m' s', w.residency.commit w.scene ⟨7, 0⟩ = (.ok true, m', s') ∧
        w.residency.Refills w.scene.device s'.device 1 0 (.fill 1) := by
  intro w
  let ops : List Operation := [
    .occurrence (.addSwitch true), .setUp (.rasters 0) 1,
    .occurrence (.create 7 .origin none), .activate (fun _ => true) [0] .origin,
    .occurrence (.deed 0 (.receive (.fill 1)))]
  have hw : ops.foldl World.step .smallest = w := by
    simp only [w, ops, World.oneActive, List.foldl_cons, List.foldl_nil]
  have hops : World.Admits (fun _ _ => True) .smallest ops := by
    refine ⟨trivial, trivial, trivial, trivial, trivial, trivial, ?_, trivial, ?_, trivial, trivial⟩
    · intro ref href
      rw [List.mem_singleton.mp href]
      decide +kernel
    · show 0 < Array.size _
      decide +kernel
  have hequipment : World.lastEquipment .smallest none ops = some ⟨.rasters 0, 1⟩ := by
    decide +kernel
  have hactive : (⟨7, 0, 0, 0⟩ : ActiveBucket) ∈ w.residency.active := by decide +kernel
  obtain ⟨_, hruns⟩ := slots_tile_textures create_smallest
  obtain ⟨hlayout, _, hwrites⟩ := hruns ops hops false w (hw ▸ .refl)
  refine ⟨create_smallest, by rw [hlayout]; rfl, ?_⟩
  exact (hwrites 0 1 hequipment _ hactive _ (receptive_oneActive.payload_receive (.fill 1))).2
    (size_fill 1)

end Runs

end VoxelCache
