import VoxelCache.Proofs.Misfits

/-!
# Thinning the queue

A pass keeps only the newest request for each slot before it begins.  This saves writes and
changes nothing else.  Requests of former owners are dropped anyway, and as long as all payloads
fit, an owner that is asked for twice gets the same payload into the same slot twice.  So what a
pass comes to depends on nothing but which owners are asked for.

**Results.**
* `Device.Spares.uncounted_eq`: devices that spare the same texels and agree on all others are
  the same, apart from how often their textures were updated.
* `Fitted.settles_commit`, `Fitted.settles_commitAll`: what a request and a pass come to.
* `Settles.agree`: passes that ask for the same owners come to the same.
* `exists_commitAll_eq`: what a pass comes to does not depend on what the journal says.
* `thinning_unnoticed`: passes with and without thinning come to the same, also after passes
  whose time is over before they begin.
-/

namespace VoxelCache

section Sparing

namespace Raster

variable {m m' m'' : Raster} {data : ByteArray} {r : Rect} {x y byte : Nat}
  {touched touched' : Nat → Nat → Prop}

/-- Rasters of one shape consist of the same bytes if all texels do. -/
theorem texels_ext
    (hm : IsProper m)
    (hm' : IsProper m')
    (hwidth : m'.width = m.width)
    (hstored : m'.storedBytes = m.storedBytes)
    (h : ∀ x y byte, x < m.width → byte < m.storedBytes → m'.byte? x y byte = m.byte? x y byte) :
    m'.texels = m.texels := by
  have hsize := hm.size
  have hsize' : m'.texels.size = m.width * m.width * m.storedBytes := by
    rw [hm'.size, hwidth, hstored]
  refine ByteArray.ext (Array.ext_getElem? fun i => ?_)
  by_cases hi : i < m.width * m.width * m.storedBytes
  · obtain ⟨row, column, byte, _, hcolumn, hbyte, rfl⟩ := exists_texelMajor hi
    have hsame := h column row byte hcolumn hbyte
    rwa [byte?, byte?, hwidth, hstored] at hsame
  · rw [Array.getElem?_eq_none (by rw [ByteArray.size_data]; omega),
      Array.getElem?_eq_none (by rw [ByteArray.size_data]; omega)]

/-- Rasters that show the same data in a rectangle have the same bytes there. -/
theorem Shows.byte?_eq
    (h : m.Shows r data)
    (h' : m'.Shows r data)
    (htexelBytes : m'.texelBytes = m.texelBytes)
    (hstored : m'.storedBytes = m.storedBytes)
    (hcovers : r.Covers x y)
    (hbyte : byte < m.storedBytes) :
    m'.byte? x y byte = m.byte? x y byte := by
  obtain ⟨hleft, hright, htop, hbottom⟩ := hcovers
  obtain ⟨column, rfl⟩ := Nat.exists_eq_add_of_le hleft
  obtain ⟨row, rfl⟩ := Nat.exists_eq_add_of_le htop
  rw [h row column byte (by omega) (by omega) hbyte,
    h' row column byte (by omega) (by omega) (hstored ▸ hbyte), htexelBytes]

/-- Whether a proper raster has kept its shape, and all texels that were not touched. -/
structure Spares (touched : Nat → Nat → Prop) (m m' : Raster) : Prop where
  proper : m.IsProper
  shape : m.SameShape m'
  bytes : ∀ x y byte, x < m.width → byte < m.storedBytes → ¬ touched x y →
    m'.byte? x y byte = m.byte? x y byte

theorem Spares.refl
    (hm : m.IsProper)
    (touched : Nat → Nat → Prop) :
    Spares touched m m :=
  ⟨hm, .refl m, fun _ _ _ _ _ _ => rfl⟩

theorem Spares.mono
    (h : Spares touched m m')
    (htouched : ∀ x y, touched x y → touched' x y) :
    Spares touched' m m' :=
  ⟨h.proper, h.shape,
    fun x y byte hx hbyte hnot => h.bytes x y byte hx hbyte (mt (htouched x y) hnot)⟩

theorem Spares.trans
    (h : Spares touched m m')
    (h' : Spares touched m' m'') :
    Spares touched m m'' where
  proper := h.proper
  shape := h.shape.trans h'.shape
  bytes x y byte hx hbyte hnot := by
    have hlater := h'.bytes x y byte (h.shape.width.symm ▸ hx) (h.shape.storedBytes.symm ▸ hbyte)
    exact (hlater hnot).trans (h.bytes x y byte hx hbyte hnot)

theorem spares_write
    (hm : m.IsProper)
    (hfits : m.objection? data.size r = none) :
    Spares r.Covers m (m.write data r) where
  proper := hm
  shape := sameShape_write hfits
  bytes x y byte hx hbyte hnot := by
    rw [byte?_write hm hfits hx hbyte]
    exact if_neg hnot

/-- Two rasters that come of one are the same if they agree on the texels that were touched. -/
theorem Spares.texels_eq
    (h : Spares touched m m')
    (h' : Spares touched m m'')
    (htouched : ∀ x y byte, touched x y → byte < m'.storedBytes →
      m''.byte? x y byte = m'.byte? x y byte) :
    m''.texels = m'.texels := by
  refine texels_ext (h.shape.proper h.proper) (h'.shape.proper h.proper)
    (h'.shape.width.trans h.shape.width.symm)
    (h'.shape.storedBytes.trans h.shape.storedBytes.symm) fun x y byte hx hbyte => ?_
  by_cases hwritten : touched x y
  · exact htouched x y byte hwritten hbyte
  · rw [h.shape.width] at hx
    rw [h.shape.storedBytes] at hbyte
    exact (h'.bytes x y byte hx hbyte hwritten).trans (h.bytes x y byte hx hbyte hwritten).symm

end Raster

/-- A texture, apart from how often it was updated. -/
def Texture.uncounted : Texture → Texture
  | .kept raster switch => .kept { raster with updateCount := 0 } switch
  | .taped width texelBytes tape => .taped width texelBytes tape

namespace Device

variable {d d' d'' : Device} {ref : TextureRef} {raster : Raster} {switch : Nat}
  {touched touched' : TextureRef → Nat → Nat → Prop}

/-- A device, apart from how often its textures were updated. -/
def uncounted (d : Device) : Device :=
  { d with textures := d.textures.map Texture.uncounted }

/-- Whether a device has changed nothing but texels of rasters that were touched. -/
structure Spares (touched : TextureRef → Nat → Nat → Prop) (d d' : Device) : Prop where
  size : d'.textures.size = d.textures.size
  switches : d'.switches = d.switches
  tapes : d'.tapes = d.tapes
  textures : ∀ ref, d'.texture ref = d.texture ref ∨
    ∃ raster raster' switch, d.texture ref = .kept raster switch ∧
      d'.texture ref = .kept raster' switch ∧ raster.Spares (touched ref) raster'

theorem Spares.refl (d : Device) (touched : TextureRef → Nat → Nat → Prop) : Spares touched d d :=
  ⟨rfl, rfl, rfl, fun _ => .inl rfl⟩

theorem Spares.mono
    (h : Spares touched d d')
    (htouched : ∀ ref x y, touched ref x y → touched' ref x y) :
    Spares touched' d d' := by
  refine ⟨h.size, h.switches, h.tapes, fun ref => (h.textures ref).imp_right ?_⟩
  rintro ⟨raster, raster', switch, hraster, hraster', hspares⟩
  exact ⟨raster, raster', switch, hraster, hraster', hspares.mono (htouched ref)⟩

theorem Spares.trans
    (h : Spares touched d d')
    (h' : Spares touched d' d'') :
    Spares touched d d'' := by
  refine ⟨h'.size.trans h.size, h'.switches.trans h.switches, h'.tapes.trans h.tapes, ?_⟩
  intro ref
  rcases h'.textures ref with hsame' | ⟨raster', raster'', switch', hraster', hraster'', hspares'⟩
  · rw [hsame']
    exact h.textures ref
  · rcases h.textures ref with hsame | ⟨raster, other, switch, hraster, hother, hspares⟩
    · exact .inr ⟨raster', raster'', switch', hsame ▸ hraster', hraster'', hspares'⟩
    · rw [hother] at hraster'
      cases hraster'
      exact .inr ⟨raster, raster'', switch', hraster, hraster'', hspares.trans hspares'⟩

theorem spares_update
    {data : ByteArray} {r : Rect}
    (hraster : d.texture ref = .kept raster switch)
    (hproper : raster.IsProper)
    (hfits : raster.objection? data.size r = none) :
    Spares (fun other x y => ref = other ∧ r.Covers x y) d (d.update ref data r).2 := by
  obtain ⟨d', hupdate, hafter⟩ := update_of_kept hraster hfits
  have hwritten : d' = { d with
      textures := d.textures.setIfInBounds ref (.kept (raster.write data r) switch) } := by
    rw [update, hraster] at hupdate
    simp only [Raster.update, hfits] at hupdate
    exact (congrArg Prod.snd hupdate).symm
  rw [hupdate]
  refine ⟨by rw [hwritten]; exact Array.size_setIfInBounds, by rw [hwritten], by rw [hwritten], ?_⟩
  intro other
  by_cases hsame : other = ref
  · subst hsame
    refine .inr ⟨raster, _, switch, hraster, hafter, ?_⟩
    exact (Raster.spares_write hproper hfits).mono fun _ _ hcovers => ⟨rfl, hcovers⟩
  · have hkept := texture_update_of_ne (d := d) data r hsame
    rw [hupdate] at hkept
    exact .inl hkept

/-- A proper raster is still there. -/
theorem Spares.exists_raster
    (h : Spares touched d d')
    (hraster : d.texture ref = .kept raster switch)
    (hproper : raster.IsProper) :
    ∃ raster', d'.texture ref = .kept raster' switch ∧ raster.Spares (touched ref) raster' := by
  rcases h.textures ref with hsame | ⟨other, raster', switch', hother, hraster', hspares⟩
  · exact ⟨raster, hsame.trans hraster, .refl hproper _⟩
  · rw [hraster] at hother
    cases hother
    exact ⟨raster', hraster', hspares⟩

/-- Devices are the same if their textures are. -/
theorem uncounted_ext
    (hsize : d'.textures.size = d.textures.size)
    (hswitches : d'.switches = d.switches)
    (htapes : d'.tapes = d.tapes)
    (htexture : ∀ ref, (d'.texture ref).uncounted = (d.texture ref).uncounted) :
    d'.uncounted = d.uncounted := by
  have htextures : d'.textures.map Texture.uncounted = d.textures.map Texture.uncounted := by
    refine Array.ext (by rw [Array.size_map, Array.size_map, hsize]) fun i hi hi' => ?_
    rw [Array.size_map] at hi hi'
    have hsame := htexture i
    rw [texture, texture, Array.getD_eq_getD_getElem?, Array.getD_eq_getD_getElem?,
      Array.getElem?_eq_getElem hi, Array.getElem?_eq_getElem hi'] at hsame
    rw [Array.getElem_map, Array.getElem_map]
    exact hsame
  rw [uncounted, uncounted, htextures, hswitches, htapes]

/-- Two devices that come of one are the same if they agree on the texels that were touched. -/
theorem Spares.uncounted_eq
    (h : Spares touched d d')
    (h' : Spares touched d d'')
    (htouched : ∀ ref raster' raster'' switch, d'.texture ref = .kept raster' switch →
      d''.texture ref = .kept raster'' switch → raster''.texelBytes = raster'.texelBytes →
      raster''.storedBytes = raster'.storedBytes → ∀ x y byte, touched ref x y →
      byte < raster'.storedBytes → raster''.byte? x y byte = raster'.byte? x y byte) :
    d''.uncounted = d'.uncounted := by
  refine uncounted_ext (h'.size.trans h.size.symm) (h'.switches.trans h.switches.symm)
    (h'.tapes.trans h.tapes.symm) fun ref => ?_
  by_cases hkept : ∃ raster switch, d.texture ref = .kept raster switch ∧ raster.IsProper
  · obtain ⟨raster, switch, hraster, hproper⟩ := hkept
    obtain ⟨raster', hraster', hspares⟩ := h.exists_raster hraster hproper
    obtain ⟨raster'', hraster'', hspares'⟩ := h'.exists_raster hraster hproper
    have hwidth := hspares'.shape.width.trans hspares.shape.width.symm
    have htexelBytes := hspares'.shape.texelBytes.trans hspares.shape.texelBytes.symm
    have hstored := hspares'.shape.storedBytes.trans hspares.shape.storedBytes.symm
    have htexels := hspares.texels_eq hspares'
      (htouched ref raster' raster'' switch hraster' hraster'' htexelBytes hstored)
    rw [hraster', hraster'', Texture.uncounted, Texture.uncounted, hwidth, htexelBytes, hstored,
      htexels]
  · have hstays : ∀ {after}, Spares touched d after → after.texture ref = d.texture ref := by
      intro after hspares
      refine (hspares.textures ref).resolve_right ?_
      rintro ⟨raster, _, switch, hraster, _, hsame⟩
      exact hkept ⟨raster, switch, hraster, hsame.proper⟩
    rw [hstays h, hstays h']

end Device

/-- Whether two scenes differ at most in their journals and in how often textures were updated. -/
structure Scene.Matches (s s' : Scene) : Prop where
  buckets : s'.buckets = s.buckets
  mailboxes : s'.mailboxes = s.mailboxes
  device : s'.device.uncounted = s.device.uncounted

end Sparing

namespace Residency

section Settling

variable {bytes : Nat} {m m' m'' : Residency} {s s' s'' : Scene} {a : ActiveBucket}
  {r : WriteRequest} {queue later : List WriteRequest} {payload : Payload} {ref : BucketRef}

/-- Whether an active bucket is asked for, and its payload fits. -/
def Serves (bytes : Nat) (queue : List WriteRequest) (m : Residency) (s : Scene)
    (a : ActiveBucket) : Prop :=
  a ∈ m.active ∧ a.request ∈ queue ∧ s.Fits bytes a

/-- Whether a bucket is to be shown as resident when such buckets are committed. -/
def Marks (bytes : Nat) (queue : List WriteRequest) (m : Residency) (s : Scene)
    (ref : BucketRef) : Prop :=
  m.settings.debugging.visualize = true ∧ ∃ a, Serves bytes queue m s a ∧ a.bucket = ref

/-- Whether a texel lies in the slot of such a bucket. -/
def Touches (bytes : Nat) (queue : List WriteRequest) (m : Residency) (s : Scene)
    (ref : TextureRef) (x y : Nat) : Prop :=
  ∃ a, Serves bytes queue m s a ∧ m.slotTexture a.slot = ref ∧ (m.layout.rectOf a.slot).Covers x y

/--
Whether requests were worked off, and nothing happened but that buckets were served: they are
committed, shown as resident if that is wanted, and their slots are written.
-/
structure Settles (bytes : Nat) (queue : List WriteRequest) (m m' : Residency) (s s' : Scene) :
    Prop extends WorksOff bytes queue m m' s s' where
  books : ∃ waiting committed isStale,
    m' = { m with queue := waiting, committed := committed, isStale := isStale }
  stale : m'.isStale = true ↔ m.isStale = true ∨ ∃ a, Serves bytes queue m s a
  marked : ∀ ref, Marks bytes queue m s ref → s'.bucket ref = (s.bucket ref).visualize true
  unmarked : ∀ ref, ¬ Marks bytes queue m s ref → s'.bucket ref = s.bucket ref
  mailboxes : s'.mailboxes = s.mailboxes
  device : s.device.Spares (Touches bytes queue m s) s'.device

/-- The case of requests that serve nobody. -/
theorem WorksOff.settles
    (h : WorksOff bytes queue m m' s s')
    (hnobody : ∀ a, ¬ Serves bytes queue m s a)
    (hbooks : ∃ waiting, m' = { m with queue := waiting })
    (hscene : ∃ journal, s' = { s with journal := journal }) :
    Settles bytes queue m m' s s' := by
  obtain ⟨waiting, rfl⟩ := hbooks
  obtain ⟨journal, rfl⟩ := hscene
  refine ⟨h, ⟨waiting, m.committed, m.isStale, rfl⟩, ?_, ?_, fun _ _ => rfl, rfl, .refl _ _⟩
  · exact ⟨.inl, fun hor => hor.resolve_right fun ⟨a, ha⟩ => hnobody a ha⟩
  · rintro ref ⟨_, a, ha, _⟩
    exact absurd ha (hnobody a)

theorem Settles.append
    (h : Settles bytes queue m m' s s')
    (h' : Settles bytes later m' m'' s' s'') :
    Settles bytes (queue ++ later) m m'' s s'' := by
  have hserves : ∀ a, Serves bytes (queue ++ later) m s a ↔
      Serves bytes queue m s a ∨ Serves bytes later m' s' a := by
    intro a
    rw [Serves, Serves, Serves, h.active, h.scene.fits_iff, List.mem_append]
    tauto
  obtain ⟨waiting, committed, isStale, hbooks⟩ := h.books
  have hmarks : ∀ ref, Marks bytes (queue ++ later) m s ref ↔
      Marks bytes queue m s ref ∨ Marks bytes later m' s' ref := by
    intro ref
    have hsettings : m'.settings = m.settings := by rw [hbooks]
    simp only [Marks, hserves, hsettings, or_and_right, exists_or, and_or_left]
  have htouches : ∀ ref x y, Touches bytes (queue ++ later) m s ref x y ↔
      Touches bytes queue m s ref x y ∨ Touches bytes later m' s' ref x y := by
    intro ref x y
    have hlayout : m'.layout = m.layout := by rw [hbooks]
    have htexture : m'.slotTexture = m.slotTexture := by
      funext slot
      rw [slotTexture, slotTexture, hbooks]
    simp only [Touches, hserves, hlayout, htexture, or_and_right, exists_or]
  refine ⟨h.toWorksOff.append h'.toWorksOff, ?_, ?_, ?_, ?_, h'.mailboxes.trans h.mailboxes, ?_⟩
  · obtain ⟨waiting', committed', isStale', hbooks'⟩ := h'.books
    exact ⟨waiting', committed', isStale', by rw [hbooks', hbooks]⟩
  · rw [h'.stale, h.stale, or_assoc]
    simp only [hserves, exists_or]
  · intro ref hmarked
    by_cases hfirst : Marks bytes queue m s ref <;> by_cases hlast : Marks bytes later m' s' ref
    · rw [h'.marked ref hlast, h.marked ref hfirst]
      rfl
    · rw [h'.unmarked ref hlast, h.marked ref hfirst]
    · rw [h'.marked ref hlast, h.unmarked ref hfirst]
    · exact absurd ((hmarks ref).mp hmarked) (not_or.mpr ⟨hfirst, hlast⟩)
  · intro ref hother
    obtain ⟨hfirst, hlast⟩ := not_or.mp (mt (hmarks ref).mpr hother)
    rw [h'.unmarked ref hlast, h.unmarked ref hfirst]
  · exact (h.device.mono fun ref x y hfirst => (htouches ref x y).mpr (.inl hfirst)).trans
      (h'.device.mono fun ref x y hlast => (htouches ref x y).mpr (.inr hlast))

/-- A write touches no texels but those of the slot. -/
theorem Fitted.spares_writeSlot
    (h : Fitted bytes m s)
    (ha : a ∈ m.active)
    (hwrite : m.writeSlot s a.slot payload = (.ok (), s')) :
    payload.size = bucketVoxels * bytes ∧
      s.device.Spares
        (fun ref x y => m.slotTexture a.slot = ref ∧ (m.layout.rectOf a.slot).Covers x y)
        s'.device := by
  have hsize := h.size_of_writeSlot ha hwrite
  obtain ⟨raster, switch, hraster, hproper, _, _, haccepts⟩ :=
    h.equipped.exists_raster h.layout (h.tidy.slot_lt ha)
  have hdevice : s'.device =
      (s.device.update (m.slotTexture a.slot) payload (m.layout.rectOf a.slot)).2 := by
    rw [writeSlot, Scene.updateTexture] at hwrite
    exact (congrArg (·.2.device) hwrite).symm
  rw [hdevice]
  exact ⟨hsize, Device.spares_update hraster hproper ((haccepts _).mpr hsize)⟩

/-- What becomes of the bucket that is committed, and of all others. -/
theorem bucket_markCommitted
    (hexist : a.bucket < s.buckets.size) :
    (m.markCommitted s a).2.bucket ref =
      if m.settings.debugging.visualize = true ∧ a.bucket = ref then
        (s.bucket ref).visualize true
      else
        s.bucket ref := by
  have hscene : (m.markCommitted s a).2 =
      if m.settings.debugging.visualize then s.visualize a.bucket true else s := rfl
  rw [hscene]
  by_cases hvisualize : m.settings.debugging.visualize = true
  · rw [if_pos hvisualize]
    by_cases hsame : a.bucket = ref
    · subst hsame
      rw [if_pos ⟨hvisualize, rfl⟩]
      exact Scene.bucket_setBucket_self hexist
    · rw [if_neg fun hboth => hsame hboth.2]
      exact Scene.bucket_setBucket_of_ne (Ne.symm hsame)
  · rw [if_neg hvisualize, if_neg fun hboth => hvisualize hboth.1]

/-- A request serves the bucket that it is for, and nobody if it is for none. -/
theorem Fitted.settles_commit
    (h : Fitted bytes m s)
    (hexist : ∀ a ∈ m.active, a.bucket < s.buckets.size)
    (r : WriteRequest) :
    Settles bytes [r] m (m.commit s r).2.1 s (m.commit s r).2.2 := by
  have hworks := h.worksOff_commit r
  rcases m.commit_cases s r with
    ⟨journal, hcommit, hskip⟩ | ⟨a, payload, hfind, hslot, hpayload, hwrite⟩
  · rw [hcommit] at hworks ⊢
    refine hworks.settles ?_ ⟨m.queue, rfl⟩ ⟨journal, rfl⟩
    rintro a ⟨ha, hrequest, payload, hpayload, _⟩
    obtain rfl := List.mem_singleton.mp hrequest
    rw [hskip a (h.tidy.find?_eq_some_iff.mpr ⟨ha, rfl⟩) rfl] at hpayload
    cases hpayload
  · obtain ⟨ha, hid⟩ := find?_eq_some hfind
    have hrequest : a.request = r := by rw [ActiveBucket.request, hid, hslot]
    have hself : ∀ {b}, Serves bytes [r] m s b → b = a := by
      rintro b ⟨hb, hown, _⟩
      exact eq_of_request_eq h.tidy hb ha ((List.mem_singleton.mp hown).trans hrequest.symm)
    rw [← hslot] at hwrite
    rcases hwrite with ⟨fault, s', hwrite, hcommit⟩ | ⟨s', hwrite, hcommit⟩
    · obtain ⟨hsize, rfl⟩ := h.eq_of_writeSlot ha hwrite
      rw [hcommit] at hworks ⊢
      refine hworks.settles ?_ ⟨m.queue, rfl⟩ ⟨s'.journal, rfl⟩
      intro b hb
      obtain rfl := hself hb
      obtain ⟨_, _, other, hother, hfits⟩ := hb
      rw [hpayload, Option.some.injEq] at hother
      exact hsize (hother ▸ hfits)
    · obtain ⟨hsize, hspares⟩ := h.spares_writeSlot ha hwrite
      have hserved : Serves bytes [r] m s a :=
        ⟨ha, List.mem_singleton.mpr hrequest, payload, hpayload, hsize⟩
      obtain ⟨device, rfl⟩ := writeSlot_scene hwrite
      have hbucket : ∀ ref, (m.markCommitted { s with device := device } a).2.bucket ref =
          if m.settings.debugging.visualize = true ∧ a.bucket = ref then
            (s.bucket ref).visualize true
          else s.bucket ref :=
        fun ref => bucket_markCommitted (hexist a ha)
      rw [hcommit] at hworks ⊢
      refine ⟨hworks, ⟨m.queue, _, true, rfl⟩, ?_, ?_, ?_, ?_, ?_⟩
      · exact ⟨fun _ => .inr ⟨a, hserved⟩, fun _ => rfl⟩
      · rintro ref ⟨hvisualize, b, hb, rfl⟩
        obtain rfl := hself hb
        rw [hbucket, if_pos ⟨hvisualize, rfl⟩]
      · intro ref hother
        rw [hbucket, if_neg fun hboth => hother ⟨hboth.1, a, hserved, hboth.2⟩]
      · rcases m.markCommitted_scene { s with device := device } a with hscene | hscene <;>
          rw [hscene]
        rfl
      · rw [device_markCommitted]
        exact hspares.mono fun ref x y hplace => ⟨a, hserved, hplace⟩

/-- A pass over payloads that fit carries out all requests. -/
theorem Fitted.settles_commitAll
    (h : Fitted bytes m s)
    (hexist : ∀ a ∈ m.active, a.bucket < s.buckets.size)
    (hsizes : ∀ a ∈ m.active, s.isMisfit bytes a = false)
    (done : Nat) (queue : List WriteRequest) :
    ∃ count m' s', m.commitAll s .unlimited done queue = (.ok count, m', s') ∧ m'.queue = [] ∧
      Settles bytes queue m m' s s' := by
  induction queue generalizing m s done with
  | nil =>
      refine ⟨done, _, s, rfl, rfl, (h.worksOff_queue []).settles ?_ ⟨[], rfl⟩ ⟨s.journal, rfl⟩⟩
      rintro a ⟨_, hrequest, _⟩
      cases hrequest
  | cons r rest ih =>
      have hfirst := h.settles_commit hexist r
      have hfails := h.commit_eq_error_iff (r := r)
      rw [commitAll, Allowance.isUsedUp, if_neg Bool.false_ne_true]
      rcases hcommit : m.commit s r with ⟨outcome, m₁, s₁⟩
      rw [hcommit] at hfirst hfails
      cases outcome with
      | error fault =>
          obtain ⟨a, ha, _, hmisfit⟩ := asksForMisfit_iff.mp (hfails.mp ⟨fault, rfl⟩)
          exact absurd hmisfit (Bool.eq_false_iff.mp (hsizes a ha))
      | ok committed =>
          have hexist' : ∀ a ∈ m₁.active, a.bucket < s₁.buckets.size := by
            rw [hfirst.active, hfirst.scene.size]
            exact hexist
          have hsizes' : ∀ a ∈ m₁.active, s₁.isMisfit bytes a = false := by
            intro a ha
            rw [hfirst.scene.isMisfit_eq]
            exact hsizes a (hfirst.active ▸ ha)
          obtain ⟨count, m', s', hrest, hempty, hsettles⟩ :=
            ih hfirst.fitted hexist' hsizes' (if committed then done + 1 else done)
          exact ⟨count, m', s', hrest, hempty, hfirst.append hsettles⟩

/-- Committed are those who were, and those who were served. -/
theorem Settles.mem_committed_iff
    {id : BucketId}
    (h : Settles bytes queue m m' s s')
    (htidy : Tidy m) :
    id ∈ m'.committed ↔ id ∈ m.committed ∨ ∃ a, Serves bytes queue m s a ∧ a.id = id := by
  constructor
  · intro hid
    obtain ⟨a, ha, rfl⟩ := List.mem_map.mp (h.fitted.tidy.committed_active id hid)
    rw [h.active] at ha
    by_cases hasked : a.request ∈ queue ∧ s.Fits bytes a
    · exact .inr ⟨a, ⟨ha, hasked⟩, rfl⟩
    · exact .inl ((h.bypasses a ha hasked).committed.mp hid)
  · rintro (hid | ⟨a, ⟨ha, hrequest, payload, hpayload, hsize⟩, rfl⟩)
    · exact h.kept htidy hid
    · exact (h.displays a ha hrequest payload hpayload hsize).committed

/-- Passes that ask for the same owners come to the same. -/
theorem Settles.agree
    (h : Settles bytes queue m m' s s')
    (h' : Settles bytes later m m'' s s'')
    (htidy : Tidy m)
    (hqueues : ∀ a ∈ m.active, a.request ∈ later ↔ a.request ∈ queue)
    (hwaiting : m''.queue = m'.queue) :
    m'' = { m' with committed := m''.committed } ∧ m''.committed.Perm m'.committed ∧
      Scene.Matches s' s'' := by
  have hserves : Serves bytes later m s = Serves bytes queue m s := by
    funext a
    refine propext (and_congr_right fun ha => ?_)
    rw [hqueues a ha]
  have hmarks : Marks bytes later m s = Marks bytes queue m s := by
    funext ref
    rw [Marks, hserves, Marks]
  have htouches : Touches bytes later m s = Touches bytes queue m s := by
    funext ref x y
    rw [Touches, hserves, Touches]
  have hcommitted : m''.committed.Perm m'.committed := by
    refine (List.perm_ext_iff_of_nodup h'.fitted.tidy.committed_nodup
      h.fitted.tidy.committed_nodup).mpr fun id => ?_
    rw [h'.mem_committed_iff htidy, h.mem_committed_iff htidy, hserves]
  have hstale : m''.isStale = m'.isStale := by
    rw [Bool.eq_iff_iff, h'.stale, h.stale, hserves]
  have hbucket : ∀ ref, s''.bucket ref = s'.bucket ref := by
    intro ref
    by_cases hmarked : Marks bytes queue m s ref
    · rw [h.marked ref hmarked, h'.marked ref (hmarks ▸ hmarked)]
    · rw [h.unmarked ref hmarked, h'.unmarked ref (hmarks ▸ hmarked)]
  have hbuckets : s''.buckets = s'.buckets := by
    refine Array.ext (h'.scene.size.trans h.scene.size.symm) fun i hi hi' => ?_
    have hsame := hbucket i
    simpa [Scene.bucket, hi, hi'] using hsame
  have hdevice := h'.device
  rw [htouches] at hdevice
  obtain ⟨waiting, committed, isStale, hbooks⟩ := h.books
  obtain ⟨waiting', committed', isStale', hbooks'⟩ := h'.books
  refine ⟨?_, hcommitted, hbuckets, h'.mailboxes.trans h.mailboxes.symm,
    h.device.uncounted_eq hdevice ?_⟩
  · rw [hbooks'] at hwaiting hstale ⊢
    rw [hbooks] at hwaiting hstale ⊢
    cases hwaiting
    cases hstale
    rfl
  · -- the slots of those who are served show their payloads
    rintro ref raster' raster'' switch hraster' hraster'' htexelBytes hstored x y byte
      ⟨a, ⟨ha, hrequest, payload, hpayload, hsize⟩, rfl, hcovers⟩ hbyte
    obtain ⟨_, _, hown, hshown⟩ := (h.displays a ha hrequest payload hpayload hsize).shows
    obtain ⟨_, _, hown', hshown'⟩ :=
      (h'.displays a ha ((hqueues a ha).mpr hrequest) payload hpayload hsize).shows
    have hplace : m'.slotTexture a.slot = m.slotTexture a.slot := by
      rw [slotTexture, slotTexture, hbooks]
    have hplace' : m''.slotTexture a.slot = m.slotTexture a.slot := by
      rw [slotTexture, slotTexture, hbooks']
    rw [hplace, hraster'] at hown
    rw [hplace', hraster''] at hown'
    cases hown
    cases hown'
    have hlayout : m'.layout = m.layout := by rw [hbooks]
    have hlayout' : m''.layout = m.layout := by rw [hbooks']
    rw [hlayout] at hshown
    rw [hlayout'] at hshown'
    exact hshown.byte?_eq hshown' htexelBytes hstored hcovers hbyte

end Settling

section Idling

variable {m : Residency} {s : Scene}

/-- A pass that carries out all requests, also those that newer ones for their slots follow. -/
def workUnthinned (m : Residency) (s : Scene) (allowance : Allowance) :
    Except Fault Nat × Residency × Scene :=
  if m.isReady s then m.commitAll s allowance 0 m.queue else (.ok 0, m, s)

theorem writeSlot_requeued
    (m : Residency) (s : Scene) (queue : List WriteRequest) (journal : Journal)
    (slot : Nat) (payload : Payload) :
    { m with queue := queue }.writeSlot { s with journal := journal } slot payload =
      let plain := m.writeSlot s slot payload
      (plain.1, { plain.2 with journal := journal }) :=
  rfl

theorem markCommitted_requeued
    (m : Residency) (s : Scene) (queue : List WriteRequest) (journal : Journal)
    (a : ActiveBucket) :
    { m with queue := queue }.markCommitted { s with journal := journal } a =
      let plain := m.markCommitted s a
      ({ plain.1 with queue := queue }, { plain.2 with journal := journal }) := by
  simp only [markCommitted]
  generalize m.settings.debugging.visualize = isShown
  cases isShown <;> rfl

/-- A request is carried out whatever else waits, and whatever the journal says. -/
theorem exists_commit_eq
    (m : Residency) (s : Scene) (queue : List WriteRequest) (journal : Journal)
    (r : WriteRequest) :
    ∃ later, { m with queue := queue }.commit { s with journal := journal } r =
      let plain := m.commit s r
      (plain.1, { plain.2.1 with queue := queue }, { plain.2.2 with journal := later }) := by
  have hfind : ({ m with queue := queue } : Residency).find? = m.find? := rfl
  have hbucket : ({ s with journal := journal } : Scene).bucket = s.bucket := rfl
  simp only [commit, hfind, hbucket, writeSlot_requeued]
  split
  · exact ⟨_, rfl⟩
  · split
    · exact ⟨_, rfl⟩
    · rename_i payload _
      rcases m.writeSlot s r.slot payload with ⟨outcome, s'⟩
      cases outcome with
      | error fault => exact ⟨journal, rfl⟩
      | ok _ =>
          refine ⟨journal, ?_⟩
          simp only [markCommitted_requeued]

/-- So is a pass. -/
theorem exists_commitAll_eq
    (m : Residency) (s : Scene) (waiting : List WriteRequest) (journal : Journal)
    (allowance : Allowance) (done : Nat) (queue : List WriteRequest) :
    ∃ later, { m with queue := waiting }.commitAll { s with journal := journal } allowance done
        queue =
      let plain := m.commitAll s allowance done queue
      (plain.1, plain.2.1, { plain.2.2 with journal := later }) := by
  induction queue generalizing m s journal allowance done with
  | nil => exact ⟨journal, rfl⟩
  | cons r rest ih =>
      obtain ⟨later, hcommit⟩ := m.exists_commit_eq s waiting journal r
      rw [commitAll, commitAll]
      split
      · exact ⟨journal, rfl⟩
      · rcases hplain : m.commit s r with ⟨outcome, m', s'⟩
        rw [hplain] at hcommit
        rw [hcommit]
        cases outcome with
        | error fault => exact ⟨later, rfl⟩
        | ok committed => exact ih m' s' later _ _

/-- A pass whose time is over before it begins does nothing but thin the queue. -/
theorem exists_work_eq_of_isUsedUp
    (allowance : Allowance)
    (hready : m.isReady s = true)
    (hused : allowance.isUsedUp = true) :
    ∃ journal, m.work s allowance =
      (.ok 0, { m with queue := newestPerSlot m.queue }, { s with journal := journal }) := by
  obtain ⟨journal, hwork⟩ := work_of_isReady allowance hready
  have hnothing : m.commitAll s allowance 0 (newestPerSlot m.queue) =
      (.ok 0, { m with queue := newestPerSlot m.queue }, s) := by
    cases newestPerSlot m.queue with
    | nil => rfl
    | cons r rest => rw [commitAll, if_pos hused]
  rw [hnothing] at hwork
  exact ⟨journal, hwork⟩

/-- Requests are carried out for different slots if they are for different slots. -/
theorem slots_writesOfAll_sublist
    (m : Residency) (s : Scene) (allowance : Allowance) (queue : List WriteRequest) :
    ((m.writesOfAll s allowance queue).map (·.slot)).Sublist (queue.map (·.slot)) := by
  induction queue generalizing m s allowance with
  | nil => exact .slnil
  | cons r rest ih =>
      rw [writesOfAll]
      split
      · exact List.nil_sublist _
      · rcases m.commit_cases s r with
          ⟨_, hcommit, _⟩ | ⟨a, _, ha, hslot, _, ⟨_, _, _, hcommit⟩ | ⟨_, _, hcommit⟩⟩
        · have hwritten : m.writtenBy s r = [] := by simp [writtenBy, hcommit]
          simp only [hcommit, hwritten, List.nil_append]
          exact (ih _ _ _).cons _
        · simp only [hcommit]
          exact List.nil_sublist _
        · have hwritten : m.writtenBy s r = [a] := by simp [writtenBy, hcommit, ha]
          simp only [hcommit, hwritten, List.singleton_append, List.map_cons, hslot]
          exact (ih _ _ _).cons_cons _

/-- A pass writes each slot once at most. -/
theorem nodup_slots_writesOfPass
    (m : Residency) (s : Scene) (allowance : Allowance) :
    ((m.writesOfPass s allowance).map (·.slot)).Nodup := by
  unfold writesOfPass
  split
  · exact (nodup_slots_newestPerSlot m.queue).sublist (slots_writesOfAll_sublist m s allowance _)
  · exact List.nodup_nil

end Idling

end Residency

section Passes

open Residency

variable {bytes : Nat} {s₀ : Scene} {w : World}

/-- The world after passes whose time is over before they begin. -/
def World.afterIdlePasses (w : World) (count : Nat) : World :=
  (List.replicate count (.work (.writes 0))).foldl step w

/-- Such passes thin the queue at most. -/
theorem World.exists_afterIdlePasses_eq
    (hready : w.residency.isReady w.scene = true)
    (count : Nat) :
    ∃ queue journal, newestPerSlot queue = newestPerSlot w.residency.queue ∧
      (w.afterIdlePasses count).residency = { w.residency with queue := queue } ∧
      (w.afterIdlePasses count).scene = { w.scene with journal := journal } := by
  induction count with
  | zero => exact ⟨w.residency.queue, w.scene.journal, rfl, rfl, rfl⟩
  | succ count ih =>
      obtain ⟨queue, journal, hqueue, hresidency, hscene⟩ := ih
      have hready' : (w.afterIdlePasses count).residency.isReady (w.afterIdlePasses count).scene =
          true := by
        rw [hresidency, hscene]
        exact hready
      obtain ⟨later, hwork⟩ := exists_work_eq_of_isUsedUp (.writes 0) hready' rfl
      have hlast : w.afterIdlePasses (count + 1) =
          (w.afterIdlePasses count).step (.work (.writes 0)) := by
        rw [afterIdlePasses, List.replicate_succ', List.foldl_append]
        rfl
      refine ⟨newestPerSlot queue, later, ?_, ?_, ?_⟩
      · rw [newestPerSlot_eq_self (nodup_slots_newestPerSlot queue), hqueue]
      · rw [hlast]
        refine (congrArg (·.2.1) hwork).trans ?_
        rw [hresidency]
      · rw [hlast]
        refine (congrArg (·.2.2) hwork).trans ?_
        rw [hscene]

/--
Thinning the queue changes nothing but the number of writes, in any run in which no two buckets
have one identity.  Take a world whose textures are ready and fit the slots, and whose payloads
have the right length.  An unlimited pass and one without thinning both succeed and end with the
same residency, up to the order in which committed buckets are listed, with nothing left to write;
with the same buckets and mailboxes; and with the same textures, up to how often they were
updated.  The pass with thinning writes each slot once at most.  A pass whose time is over before
it begins leaves the newest request for each slot and changes nothing else but the journal, and
any number of them before an unlimited pass changes nothing of what that comes to.
-/
theorem thinning_unnoticed
    (h : Reachable (fun _ _ => True) s₀ w)
    (hids : w.scene.HasUniqueIds)
    (hready : w.residency.isReady w.scene = true)
    (hequipped : w.residency.IsEquipped w.scene.device bytes)
    (hsizes : ∀ a ∈ w.residency.active, w.scene.isMisfit bytes a = false) :
    let thinned := w.residency.work w.scene .unlimited
    let full := w.residency.workUnthinned w.scene .unlimited
    let newest := newestPerSlot w.residency.queue
    ((∃ done, thinned.1 = .ok done) ∧ ∃ done, full.1 = .ok done) ∧
      (thinned.2.1.queue = [] ∧
        thinned.2.1 = { full.2.1 with committed := thinned.2.1.committed } ∧
        thinned.2.1.committed.Perm full.2.1.committed ∧
        Scene.Matches full.2.2 thinned.2.2) ∧
      ((w.residency.writesOfPass w.scene .unlimited).map (·.slot)).Nodup ∧
      (newest.Sublist w.residency.queue ∧
        (∀ r, r ∈ newest ↔ newestTo w.residency.queue r.slot = some r) ∧
        ∃ journal, w.residency.work w.scene (.writes 0) =
          (.ok 0, { w.residency with queue := newest }, { w.scene with journal := journal })) ∧
      ∀ count,
        let later := w.afterIdlePasses count
        ∃ journal, later.residency.work later.scene .unlimited =
          (thinned.1, thinned.2.1, { thinned.2.2 with journal := journal }) := by
  intro thinned full newest
  have hfitted : Fitted bytes w.residency w.scene := ⟨h.tidy, h.isProper, hequipped⟩
  have hexist : ∀ a ∈ w.residency.active, a.bucket < w.scene.buckets.size :=
    fun a ha => (h.sourced_shown.1.known a ha).1
  obtain ⟨journal, hwork⟩ := work_of_isReady .unlimited hready
  obtain ⟨done, m', s', hpass, hempty, hsettles⟩ :=
    hfitted.settles_commitAll hexist hsizes 0 newest
  obtain ⟨done', m'', s'', hpass', hempty', hsettles'⟩ :=
    hfitted.settles_commitAll hexist hsizes 0 w.residency.queue
  have hthinned : thinned = (.ok done, m', { s' with journal := journal }) := by
    rw [hpass] at hwork
    exact hwork
  have hfull : full = (.ok done', m'', s'') := by
    simp only [full, workUnthinned, if_pos hready, hpass']
  obtain ⟨hbooks, hcommitted, hmatches⟩ := hsettles'.agree hsettles h.tidy
    (fun a ha => (h.requested hids).mem_newestPerSlot_iff ha) (hempty.trans hempty'.symm)
  refine ⟨?_, ?_, nodup_slots_writesOfPass _ _ _, ?_, ?_⟩
  · rw [hthinned, hfull]
    exact ⟨⟨done, rfl⟩, done', rfl⟩
  · rw [hthinned, hfull]
    exact ⟨hempty, hbooks, hcommitted, hmatches.buckets, hmatches.mailboxes, hmatches.device⟩
  · exact ⟨newestPerSlot_sublist _, fun _ => mem_newestPerSlot_iff,
      exists_work_eq_of_isUsedUp (.writes 0) hready rfl⟩
  · intro count later
    obtain ⟨queue, noted, hqueue, hresidency, hscene⟩ :=
      World.exists_afterIdlePasses_eq hready count
    have hready' : later.residency.isReady later.scene = true := by
      rw [hresidency, hscene]
      exact hready
    obtain ⟨last, hlater⟩ := work_of_isReady .unlimited hready'
    obtain ⟨_, hsame⟩ :=
      w.residency.exists_commitAll_eq w.scene queue noted .unlimited 0 newest
    refine ⟨last, ?_⟩
    rw [hlater, hresidency, hscene, show newestPerSlot ({ w.residency with queue := queue } :
      Residency).queue = newest from hqueue, hsame, hpass, hthinned]

/-- A picture that is relabeled before its notice was read is asked for twice and written once. -/
theorem thinning_unnoticed_of_relabeled :
    let received := World.oneActive.step (.occurrence (.deed 0 (.receive (.fill 1))))
    let w := (received.step (.occurrence (.deed 0 (.label [] [])))).step .readNotices
    let thinned := w.residency.work w.scene .unlimited
    let full := w.residency.workUnthinned w.scene .unlimited
    w.residency.queue = [⟨7, 0⟩, ⟨7, 0⟩] ∧ thinned.2.1.queue = [] ∧
      thinned.2.1.committed.Perm full.2.1.committed ∧ Scene.Matches full.2.2 thinned.2.2 ∧
      ((w.residency.writesOfPass w.scene .unlimited).map (·.slot)).Nodup := by
  intro received w thinned full
  let relabeled := received.step (.occurrence (.deed 0 (.label [] [])))
  have hexist : 0 < World.oneActive.scene.buckets.size := by decide +kernel
  have hexist' : 0 < received.scene.buckets.size := by decide +kernel
  have hopen : (World.oneActive.scene.bucket 0).isCollected = false := by decide +kernel
  have hsize : w.scene.buckets.size = 1 := by decide +kernel
  have hready : w.residency.isReady w.scene = true := by decide +kernel
  have hactive : w.residency.active = [⟨7, 0, 0, 0⟩] := by decide +kernel
  have hqueue : w.residency.queue = [⟨7, 0⟩, ⟨7, 0⟩] := by decide +kernel
  have hreached : Reachable (fun _ _ => True) Scene.empty w := by
    have hreceived : Reachable (fun _ _ => True) Scene.empty received :=
      (sparing_oneActive.mono fun _ _ _ => trivial).step hexist trivial
    have hrelabeled : Reachable (fun _ _ => True) Scene.empty relabeled :=
      hreceived.step hexist' trivial
    exact hrelabeled.step trivial trivial
  have hids : w.scene.HasUniqueIds := by
    intro i j hi hj _
    omega
  have hfitted : Fitted 1 relabeled.residency relabeled.scene := by
    refine ⟨receptive_oneActive.fitted.tidy, receptive_oneActive.fitted.layout, ?_⟩
    show World.oneActive.residency.IsEquipped
      ((World.oneActive.scene.deed 0 (.receive (.fill 1))).deed 0 (.label [] [])).device 1
    rw [Scene.device_deed, Scene.device_deed]
    exact receptive_oneActive.fitted.equipped
  have hpayload : (w.scene.bucket 0).payload = some (.fill 1) := by
    have halike : Scene.Alike relabeled.scene w.scene := alike_readNotices _ _
    have hreceived : received.scene.bucket 0 =
        ((World.oneActive.scene.bucket 0).receive (.fill 1)).1 :=
      Scene.bucket_deed_self _ hexist
    have hopen' : (received.scene.bucket 0).isCollected = false := by
      rw [hreceived, Bucket.isCollected_receive, hopen]
    have hpayload : (received.scene.bucket 0).payload = some (.fill 1) := by
      rw [hreceived, Bucket.payload_receive hopen]
    have hrelabeled : relabeled.scene.bucket 0 =
        (Deed.perform (.label [] []) (received.scene.bucket 0)).1 :=
      Scene.bucket_deed_self _ hexist'
    rw [halike.payload, hrelabeled]
    simp [Deed.perform, Deed.performAll, Bucket.label, Bucket.announce, Bucket.spend,
      Bucket.hasPayload, Edit.applyAll, hpayload, hopen']
  have hsizes : ∀ a ∈ w.residency.active, w.scene.isMisfit 1 a = false := by
    intro a ha
    rw [hactive] at ha
    rw [List.mem_singleton.mp ha, Scene.isMisfit, hpayload, Option.any_some, size_fill,
      bne_self_eq_false]
  obtain ⟨_, ⟨hempty, _, hcommitted, hmatches⟩, honce, _⟩ :=
    thinning_unnoticed hreached hids hready hfitted.of_readNotices.equipped hsizes
  exact ⟨hqueue, hempty, hcommitted, hmatches, honce⟩

end Passes

end VoxelCache
