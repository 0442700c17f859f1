import VoxelCache.Proofs.Redelivery
import VoxelCache.Proofs.Staleness
import VoxelCache.Proofs.UpdateFailures

/-!
# New textures

Textures can be set up again at any time.  The new ones are blank, but the books go on to call
buckets committed whose payloads were written to the old ones, and these payloads are not
queued again.  So the first frame on new textures shows the payloads that were due anyway, and
the slots of all other committed buckets stay blank.  Before the first textures nothing is
committed, so that they show everything.

**Invariants.**
* `Backed`: nothing is committed before there are textures, and a committed bucket has a
  payload until it is collected.
* `PointsAtCommitted`: entries that are not stale point at slots of committed buckets.

**Results.**
* `Deed.perform_isFilled`: no deed takes the payload of a bucket away without collecting it.
* `Fitted.isOk_tick`: a frame on rasters with payloads of the right size does not fail.
* `recreated_shown_or_blank`: what the look-up entries point at after new textures were set up.
-/

namespace VoxelCache

section Filling

namespace Deed

/-- Whether a bucket has a payload, or has lost it by being collected. -/
def IsFilled (b : Bucket) : Prop :=
  b.isCollected = true ∨ b.payload ≠ none

variable {b : Bucket}

theorem isFilled_label
    {during : Bucket → Bucket × List Post}
    (edits : List Edit)
    (hb : IsFilled b)
    (hduring : IsFilled (during b).1) :
    IsFilled (b.label edits during).2.1 := by
  cases hpayload : b.payload with
  | none =>
      rw [label_of_payload_eq_none edits during hpayload]
      exact hb
  | some payload =>
      rcases label_cases edits during hpayload with hlabel | ⟨_, hlabel⟩
      · rw [hlabel]
        exact hduring
      · rw [hlabel]
        exact .inr (Option.some_ne_none _)

mutual

/-- No deed takes the payload of a bucket away without collecting it. -/
theorem perform_isFilled :
    ∀ (d : Deed) {b : Bucket},
      IsFilled b →
      IsFilled (d.perform b).1
  | .pull, b, hb => by
      simp only [perform, Bucket.pull]
      split <;> exact hb
  | .receive payload, b, hb => by
      rw [perform]
      cases hopen : b.isCollected with
      | true =>
          rw [Bucket.receive_of_isCollected hopen]
          exact hb
      | false =>
          refine .inr ?_
          rw [Bucket.payload_receive hopen]
          exact Option.some_ne_none _
  | .label edits meanwhile, b, hb => by
      rw [perform]
      exact isFilled_label edits hb (performAll_isFilled meanwhile hb)
  | .collect, b, _ => by
      rw [perform]
      exact .inl (Bucket.isCollected_collect b)
  | .subscribe interest target, b, hb => by
      simp only [perform, Bucket.subscribe]
      split <;> exact hb
  | .unsubscribe _, b, hb => by
      rw [perform]
      exact hb
  | .visualize _, b, hb => by
      rw [perform]
      exact hb

theorem performAll_isFilled :
    ∀ (ds : List Deed) {b : Bucket},
      IsFilled b →
      IsFilled (performAll ds b).1
  | [], b, hb => by
      rw [performAll]
      exact hb
  | d :: rest, b, hb => by
      rw [performAll]
      exact performAll_isFilled rest (perform_isFilled d hb)

end

end Deed

end Filling

section Backing

open Residency

variable {opening : Bool} {w w' : World}

/-- Whether payloads were written for all committed buckets, and to some textures. -/
structure Backed (w : World) : Prop where
  filled : ∀ a ∈ w.residency.active, a.id ∈ w.residency.committed →
    Deed.IsFilled (w.scene.bucket a.bucket)
  unequipped : w.residency.lookUpTexture = none → w.residency.committed = []

/-- The case of what commits no bucket. -/
theorem Backed.of_subset
    (h : Backed w)
    (hfilled : ∀ a ∈ w'.residency.active, a.id ∈ w'.residency.committed →
      a ∈ w.residency.active ∧
        (Deed.IsFilled (w.scene.bucket a.bucket) → Deed.IsFilled (w'.scene.bucket a.bucket)))
    (hcommitted : ∀ id ∈ w'.residency.committed, id ∈ w.residency.committed)
    (hlookUp : w'.residency.lookUpTexture = none → w.residency.lookUpTexture = none) :
    Backed w' where
  filled a ha hid :=
    (hfilled a ha hid).2 (h.filled a (hfilled a ha hid).1 (hcommitted _ hid))
  unequipped hnone := by
    refine List.eq_nil_iff_forall_not_mem.mpr fun id hid => ?_
    have hbefore := hcommitted id hid
    rw [h.unequipped (hlookUp hnone)] at hbefore
    cases hbefore

theorem Backed.of_move
    (h : Backed w)
    (htidy : Tidy w.residency)
    (hmove : Move opening w w') :
    Backed w' := by
  have halike := hmove.alike
  have hlookUp := hmove.retains.lookUpTexture
  have hfilled : ∀ ref, Deed.IsFilled (w.scene.bucket ref) →
      Deed.IsFilled (w'.scene.bucket ref) := by
    intro ref hbefore
    rwa [Deed.IsFilled, halike.isCollected, halike.payload]
  rcases hmove.inversion with
    hshrinks | ⟨_, ref, slot, free, _, _, hinactive, rfl⟩ |
      ⟨a, rest, s, ha, ⟨hpayload, htexture⟩, _, rfl⟩
  · exact h.of_subset (fun a ha _ => ⟨hshrinks.active a ha, hfilled a.bucket⟩) hshrinks.committed
      fun hnone => hlookUp ▸ hnone
  · -- a newcomer is not committed, as only active buckets are
    refine h.of_subset ?_ (fun _ hid => hid) fun hnone => hnone
    intro a ha hid
    refine ⟨(List.mem_append.mp ha).resolve_right fun hnew => ?_, hfilled a.bucket⟩
    have hactive := isActive_iff.mpr (htidy.committed_active _ hid)
    rw [List.mem_singleton.mp hnew, hinactive] at hactive
    cases hactive
  · refine ⟨?_, fun hnone => absurd (hlookUp ▸ hnone) htexture⟩
    intro b hb hid
    refine hfilled b.bucket ?_
    rcases (mem_committed_markCommitted (s := s)).mp hid with hsame | hid
    · rw [htidy.eq_of_id hb ha hsame]
      exact .inr hpayload
    · exact h.filled b hb hid

theorem Backed.of_occur
    {o : Occurrence}
    (h : Backed w)
    (hknown : ∀ a ∈ w.residency.active, Knows w.scene a)
    (hnames : (Operation.occurrence o).Names w.scene) :
    Backed { w with scene := w.scene.occur o } := by
  refine h.of_subset ?_ (fun _ hid => hid) fun hnone => hnone
  intro a ha _
  refine ⟨ha, fun hbefore => ?_⟩
  cases o with
  | deed ref deed =>
      show Deed.IsFilled ((w.scene.deed ref deed).bucket a.bucket)
      by_cases hsame : a.bucket = ref
      · rw [hsame, Scene.bucket_deed_self deed hnames]
        exact Deed.perform_isFilled deed (hsame ▸ hbefore)
      · rwa [Scene.bucket_deed_of_ne deed hsame]
  | create id address coarser =>
      show Deed.IsFilled ((w.scene.addBucket (.create id address coarser)).2.bucket a.bucket)
      rwa [Scene.bucket_addBucket_of_lt (hknown a ha).1]
  | _ => exact hbefore

theorem Backed.of_setUp
    (h : Backed w)
    (factory : Factory) (bytes : Nat) :
    Backed (w.step (.setUp factory bytes)) := by
  obtain ⟨_, _, hactive, hcommitted, _, hbuckets, _⟩ := setUp_keeps w factory bytes
  refine h.of_subset ?_ (fun _ hid => hcommitted ▸ hid) fun hnone => ?_
  · intro a ha _
    refine ⟨hactive ▸ ha, fun hfilled => ?_⟩
    rwa [Scene.bucket, hbuckets]
  · rw [w.step_setUp] at hnone
    rcases w.residency.setUp_cases w.scene factory bytes with hsame | ⟨_, _, hnew⟩
    · exact hsame ▸ hnone
    · rw [hnew] at hnone
      cases hnone

/-- Whether all entries that point at slots point at those of committed buckets. -/
def PointsAtCommitted (w : World) : Prop :=
  ∀ i slot zoomStep : Nat, w.residency.lookUp[i]? = some (.resident slot zoomStep) →
    ∃ a ∈ w.residency.active, a.slot = slot ∧ a.id ∈ w.residency.committed

/-- Who departs without having been committed is not pointed at. -/
theorem PointsAtCommitted.of_steady
    (h : PointsAtCommitted w)
    (hsteady : Steady w w') :
    PointsAtCommitted w' := by
  intro i slot zoomStep hi
  rw [hsteady.lookUp] at hi
  obtain ⟨a, ha, hslot, hid⟩ := h i slot zoomStep hi
  refine ⟨a, ?_, hslot, hsteady.committed.symm ▸ hid⟩
  by_contra hgone
  exact hsteady.departed a ha hgone hid

theorem pointsAtCommitted_rebuild
    (hknown : ∀ a ∈ w.residency.active, Knows w.scene a)
    (outside : BucketRef → Bool) :
    PointsAtCommitted (w.rebuild outside) := by
  intro i slot zoomStep hi
  rcases getElem?_foldl_enter_cases hi with hblank | ⟨a, ha, hentry⟩
  · obtain ⟨_, hblank⟩ := Array.getElem?_eq_some_iff.mp hblank
    simp [LookUp.Buffer.blank] at hblank
  · obtain ⟨owner, howner, hslot, hcommitted, _⟩ :=
      resident_of_entryFor hknown (mem_shown.mp ha).1 hentry
    exact ⟨owner, howner, hslot, hcommitted⟩

theorem Reachable.backed_pointsAtCommitted
    {allowed : World → Operation → Prop} {s₀ : Scene}
    (h : Reachable allowed s₀ w) :
    Backed w ∧ (w.residency.isStale = false → PointsAtCommitted w) := by
  refine And.imp_left And.right <| h.of_moves (P := fun w => Sourced w ∧ Backed w)
    (Q := fun w => w.residency.isStale = false → PointsAtCommitted w) ?_ ?_ ?_ ?_ ?_
  · intro width textures packing settings m s hcreate
    obtain ⟨_, _, _, _, _, rfl⟩ := create_eq_ok hcreate
    refine ⟨⟨⟨by simp, by simp⟩, ⟨by simp, fun _ => rfl⟩⟩, fun _ => ?_⟩
    intro i slot zoomStep hi
    obtain ⟨_, hblank⟩ := Array.getElem?_eq_some_iff.mp hi
    simp [LookUp.Buffer.blank] at hblank
  · rintro w op _ hother hnames _ ⟨hsourced, hbacked⟩ hpoints
    have hsteady := steady_step_of_not_isWork (w := w) hother
    refine ⟨⟨hsourced.of_shrinks (shrinks_step_of_not_isWork hother), ?_⟩, ?_⟩
    · cases op with
      | occurrence o =>
          rw [w.step_occurrence]
          exact hbacked.of_occur hsourced.known hnames
      | setUp factory bytes => exact hbacked.of_setUp factory bytes
      | _ => cases hother
    · exact fun hstale => (hpoints (hsteady.isStale ▸ hstale)).of_steady hsteady
  · rintro w w' htidy hmove ⟨hsourced, hbacked⟩
    exact ⟨hsourced.of_move htidy hmove, hbacked.of_move htidy hmove⟩
  · intro w w' _ hmove _ hpoints hstale
    rcases hmove.steady_or_stale with hsteady | hmarked
    · exact (hpoints (hsteady.isStale ▸ hstale)).of_steady hsteady
    · rw [hmarked] at hstale
      cases hstale
  · rintro _ w _ outside _ _ _ htidy ⟨hsourced, hbacked⟩
    exact ⟨⟨⟨hsourced.known, hsourced.written⟩, ⟨hbacked.filled, hbacked.unequipped⟩⟩,
      fun _ => pointsAtCommitted_rebuild hsourced.known outside⟩

end Backing

section Succeeding

theorem Moves.rewrites
    {opening : Bool} {w w' : World}
    (h : Moves opening w w') :
    Device.Rewrites w.scene.device w'.scene.device := by
  induction h with
  | refl => exact Device.rewrites_of_textures rfl
  | tail _ hmove ih => exact ih.trans hmove.rewrites

namespace Residency

variable {bytes : Nat} {m : Residency} {s : Scene}

/-- Rasters take all uploads of entries of their shape. -/
theorem IsUploadable.uploadAnswer_eq_ok
    (h : m.IsUploadable s)
    (hraster : ∀ ref, m.lookUpTexture = some ref → (s.device.texture ref).isRaster = true) :
    m.uploadAnswer s.device = .ok () := by
  rcases h.uploadAnswer_cases with hok | ⟨ref, _, href, htaped, _⟩
  · exact hok
  · rw [hraster ref href] at htaped
    cases htaped

theorem IsUploadable.isOk_refresh
    (h : m.IsUploadable s)
    (hraster : ∀ ref, m.lookUpTexture = some ref → (s.device.texture ref).isRaster = true)
    (outside : BucketRef → Bool) :
    (m.refresh s outside).1 = .ok () := by
  obtain ⟨isPending, hresidency⟩ := m.refresh_residency s outside
  rw [fst_refresh, hresidency]
  refine IsUploadable.uploadAnswer_eq_ok ?_ hraster
  refine h.of_rewrites ?_ rfl rfl (Device.rewrites_of_textures rfl)
  rw [h.size]
  exact size_foldl_enter.trans Array.size_replicate

theorem IsUploadable.isOk_renew
    (h : m.IsUploadable s)
    (hraster : ∀ ref, m.lookUpTexture = some ref → (s.device.texture ref).isRaster = true)
    (outside : BucketRef → Bool) :
    (m.renew s outside).1 = .ok () := by
  unfold renew
  split
  · exact h.isOk_refresh hraster outside
  · split
    · rw [fst_upload]
      exact h.uploadAnswer_eq_ok hraster
    · rfl

theorem Fitted.of_readNotices
    (h : Fitted bytes m s) :
    Fitted bytes (m.readNotices s).1 (m.readNotices s).2 := by
  have hheard := moves_readNotices false m s .blank
  have hretains := hheard.retains
  have hdevice : (m.readNotices s).2.device = s.device := device_reactAll m _ _
  refine ⟨hheard.tidy h.tidy, hretains.layout ▸ h.layout, ?_⟩
  rw [hdevice]
  exact h.equipped.of_same hretains.layout hretains.dataTextures hretains.lookUpTexture
    fun _ _ => rfl

/-- A frame on rasters does not fail if all payloads have the right size. -/
theorem Fitted.isOk_tick
    (h : Fitted bytes m s)
    (huploadable : m.IsUploadable s)
    (hraster : ∀ ref, m.lookUpTexture = some ref → (s.device.texture ref).isRaster = true)
    (hsizes : ∀ a ∈ m.active, ∀ payload, (s.bucket a.bucket).payload = some payload →
      payload.size = bucketVoxels * bytes)
    (outside : BucketRef → Bool) (allowance : Allowance) :
    ∃ count, (m.tick s outside allowance).1 = .ok count := by
  have hheard := moves_readNotices false m s .blank
  have hworked := hheard.trans (moves_work false (m.readNotices s).1 (m.readNotices s).2 .blank
    allowance)
  obtain ⟨count, hcount⟩ :
      ∃ count, ((m.readNotices s).1.work (m.readNotices s).2 allowance).1 = .ok count := by
    by_cases hready : (m.readNotices s).1.isReady (m.readNotices s).2 = true
    · obtain ⟨journal, hwork⟩ := work_of_isReady allowance hready
      rw [hwork]
      refine h.of_readNotices.isOk_commitAll ?_ allowance 0 _
      intro a ha payload hpayload
      rw [hheard.alike.payload] at hpayload
      exact hsizes a (mem_active_of_mem_readNotices ha) payload hpayload
    · rw [work, if_neg hready]
      exact ⟨0, rfl⟩
  rcases hwork : (m.readNotices s).1.work (m.readNotices s).2 allowance with ⟨outcome, m', s'⟩
  rw [hwork] at hworked hcount
  have hretains := Moves.retains hworked
  have hrewrites := Moves.rewrites hworked
  have hrenewed : (m'.renew s' outside).1 = .ok () := by
    refine IsUploadable.isOk_renew ?_ ?_ outside
    · exact huploadable.of_rewrites (congrArg Array.size hretains.lookUp) hretains.settings
        hretains.lookUpTexture hrewrites
    · intro ref href
      rw [hrewrites.isRaster]
      exact hraster ref (hretains.lookUpTexture.symm.trans href)
  refine ⟨count, ?_⟩
  rw [show outcome = _ from hcount] at hwork
  simp only [tick, hwork]
  rcases hrenew : m'.renew s' outside with ⟨renewed, m'', s''⟩
  rw [hrenew] at hrenewed
  rw [show renewed = _ from hrenewed]

end Residency

end Succeeding

section Recreating

open Residency

variable {bytes switch : Nat} {s₀ : Scene} {w : World}

theorem LookUp.Entry.exists_eq_resident
    {entry : LookUp.Entry}
    (h : 0 ≤ entry.values.1) :
    ∃ slot zoomStep, entry = .resident slot zoomStep := by
  cases entry with
  | outside => exact absurd h (by decide)
  | pending zoomStep => exact absurd h (by simp [LookUp.Entry.values])
  | resident slot zoomStep => exact ⟨slot, zoomStep, rfl⟩

/-- After a frame, the entries point at slots of buckets that had their payloads before. -/
theorem resident_of_tick
    {outside : BucketRef → Bool} {allowance : Allowance} {i slot zoomStep count : Nat}
    (h : Reachable SparesOwner s₀ w)
    (hids : w.scene.HasUniqueIds)
    (htick : (w.residency.tick w.scene outside allowance).1 = .ok count)
    (hentry : (w.step (.tick outside allowance)).residency.lookUp[i]? =
      some (.resident slot zoomStep)) :
    ∃ a ∈ (w.step (.tick outside allowance)).residency.active, a.slot = slot ∧
      a.id ∈ (w.step (.tick outside allowance)).residency.committed ∧
      a ∈ w.residency.active ∧
      ⟨a.id, .collected⟩ ∉ (w.scene.mailbox w.residency.mailbox).notices ∧
      ∃ payload, (w.scene.bucket a.bucket).payload = some payload := by
  have hafter : Reachable SparesOwner s₀ (w.step (.tick outside allowance)) :=
    h.step trivial trivial
  have halike : Scene.Alike w.scene (w.step (.tick outside allowance)).scene :=
    (performs_tick w outside allowance).alike
  obtain ⟨hbacked, hpoints⟩ := hafter.backed_pointsAtCommitted
  obtain ⟨a, ha, hslot, hid⟩ := hpoints (isStale_tick htick) i slot zoomStep hentry
  -- who is still active after the notices were read is not collected
  obtain ⟨hactive, hopen⟩ : a ∈ w.residency.active ∧
      (w.scene.bucket a.bucket).isCollected = false :=
    (strikes_readNotices h.heedful hids).mem_active_iff.mp
      (Residency.active_tick w.residency w.scene outside allowance ▸ ha)
  refine ⟨a, ha, hslot, hid, hactive, ?_, ?_⟩
  · intro hnotice
    rw [isCollected_of_mem_notices h.heedful hids hactive hnotice] at hopen
    cases hopen
  · refine Option.ne_none_iff_exists'.mp ?_
    rw [← halike.payload]
    refine (hbacked.filled a ha hid).resolve_left ?_
    rw [halike.isCollected, hopen]
    exact Bool.false_ne_true

section SetUp

/-- After new rasters were set up, a residency is in order, and they are blank. -/
theorem Reachable.fresh_setUp
    {allowed : World → Operation → Prop}
    (h : Reachable allowed s₀ w)
    (hcreated : (w.residency.setUp w.scene (.rasters switch) bytes).1 = .ok ()) :
    let recreated := w.step (.setUp (.rasters switch) bytes)
    recreated.residency.IsFresh recreated.scene.device bytes ∧
      Fitted bytes recreated.residency recreated.scene := by
  intro recreated
  obtain ⟨hlayout, _⟩ := setUp_keeps w (.rasters switch) bytes
  have hfresh : recreated.residency.IsFresh recreated.scene.device bytes := by
    rcases isFresh_setUp h.isProper w.scene switch bytes with ⟨_, hfault, _⟩ | ⟨_, hfresh⟩
    · rw [hcreated] at hfault
      cases hfault
    · exact hfresh
  have hreached : Reachable (fun _ _ => True) s₀ recreated :=
    (h.mono fun _ _ _ => trivial).step trivial trivial
  exact ⟨hfresh, hreached.tidy, hlayout ▸ h.isProper, hfresh.equipped⟩

/-- New textures make no payload due, and none cease to be. -/
theorem isDue_setUp
    (w : World) (factory : Factory) (bytes : Nat) (a : ActiveBucket) :
    (w.step (.setUp factory bytes)).residency.IsDue (w.step (.setUp factory bytes)).scene a ↔
      w.residency.IsDue w.scene a := by
  obtain ⟨_, hmailbox, _, _, hqueue, _, hmailboxes⟩ := setUp_keeps w factory bytes
  rw [IsDue, IsDue, hqueue, hmailbox, Scene.mailbox, hmailboxes, Scene.mailbox]

end SetUp

/--
What the look-up entries point at one frame after new rasters were set up, if the payloads have
the right size and there is time for all writes.  Every entry with a slot points at the slot of
an active bucket that is committed and has a payload.  If this payload was due when the
textures were set up, the slot shows it.  Otherwise the bucket was committed before, and the
slot is blank.  When the first textures are set up, all payloads are due.
-/
theorem recreated_shown_or_blank
    (h : Reachable SparesOwner s₀ w)
    (hids : w.scene.HasUniqueIds)
    (hcreated : (w.residency.setUp w.scene (.rasters switch) bytes).1 = .ok ())
    (hsizes : ∀ a ∈ w.residency.active, ∀ payload,
      (w.scene.bucket a.bucket).payload = some payload → payload.size = bucketVoxels * bytes)
    (outside : BucketRef → Bool) (allowance : Allowance) :
    let recreated := w.step (.setUp (.rasters switch) bytes)
    let frame := recreated.residency.tick recreated.scene outside allowance
    let after := recreated.step (.tick outside allowance)
    recreated.residency.isReady recreated.scene = true →
    allowance.suffices (recreated.residency.writesDue recreated.scene) = true →
    (∃ count, frame.1 = .ok count) ∧
      ∀ (i : Nat) (entry : LookUp.Entry), after.residency.lookUp[i]? = some entry →
        0 ≤ entry.values.1 →
        ∃ a ∈ after.residency.active, ∃ zoomStep payload,
          entry = .resident a.slot zoomStep ∧
          a.id ∈ after.residency.committed ∧
          (after.scene.bucket a.bucket).payload = some payload ∧
          (w.residency.IsDue w.scene a →
            after.residency.ShowsIn after.scene.device a.slot payload) ∧
          (¬ w.residency.IsDue w.scene a →
            a.id ∈ w.residency.committed ∧
              after.residency.ShowsIn after.scene.device a.slot
                (zeroBytes (bucketVoxels * bytes))) ∧
          (w.residency.lookUpTexture = none → w.residency.IsDue w.scene a) := by
  intro recreated frame after hready hallowance
  obtain ⟨_, _, hactive, hcommitted, _, hbuckets, _⟩ := setUp_keeps w (.rasters switch) bytes
  have hbucket : ∀ ref, recreated.scene.bucket ref = w.scene.bucket ref := by
    intro ref
    rw [Scene.bucket, hbuckets, Scene.bucket]
  have hreached : Reachable SparesOwner s₀ recreated := h.step trivial trivial
  obtain ⟨hfresh, hfitted⟩ := h.fresh_setUp hcreated
  have hok : ∃ count, frame.1 = .ok count := by
    obtain ⟨lookUp, hlookUp, hraster⟩ := hfresh.lookUp
    refine hfitted.isOk_tick hreached.isUploadable ?_ ?_ outside allowance
    · intro ref href
      rw [hlookUp] at href
      cases href
      exact hraster
    · intro a ha payload hpayload
      rw [hbucket] at hpayload
      exact hsizes a (hactive ▸ ha) payload hpayload
  refine ⟨hok, ?_⟩
  intro i entry hentry hslot
  obtain ⟨count, hcount⟩ := hok
  obtain ⟨slot, zoomStep, rfl⟩ := LookUp.Entry.exists_eq_resident hslot
  have hids' : recreated.scene.HasUniqueIds := by
    intro i j
    rw [hbuckets, hbucket, hbucket]
    exact hids i j
  obtain ⟨a, ha, rfl, hid, hbefore, hsilent, payload, hpayload⟩ :=
    resident_of_tick hreached hids' hcount hentry
  have hframe : frame = recreated.residency.tick recreated.scene outside .unlimited :=
    tick_of_suffices hallowance outside
  have hresidency : after.residency =
      (recreated.residency.tick recreated.scene outside .unlimited).2.1 := congrArg (·.2.1) hframe
  have hscene : after.scene =
      (recreated.residency.tick recreated.scene outside .unlimited).2.2 := congrArg (·.2.2) hframe
  have hkept : ¬ w.residency.IsDue w.scene a →
      Bypasses bytes a recreated.residency after.residency recreated.scene after.scene := by
    intro hidle
    rw [hresidency, hscene]
    exact hfitted.bypasses_tick hbefore hpayload hsilent
      (fun hdue => hidle ((isDue_setUp w _ _ a).mp hdue)) outside .unlimited
  have hold : ¬ w.residency.IsDue w.scene a → a.id ∈ w.residency.committed := fun hidle =>
    hcommitted ▸ (hkept hidle).committed.mp hid
  refine ⟨a, ha, zoomStep, payload, rfl, hid, ?_, ?_, ?_, ?_⟩
  · exact ((performs_tick recreated outside allowance).alike.payload _).trans hpayload
  · intro hdue
    rw [hresidency, hscene]
    exact (hfitted.displays_tick hbefore hpayload hsilent hready ((isDue_setUp w _ _ a).mpr hdue)
      (.inl ⟨count, hframe ▸ hcount⟩)).shows
  · intro hidle
    exact ⟨hold hidle, (hkept hidle).shows _
      (hfresh.showsIn hfitted.layout (hfitted.tidy.slot_lt hbefore))⟩
  · intro hnone
    by_contra hidle
    have hcommitted := hold hidle
    rw [h.backed_pointsAtCommitted.1.unequipped hnone] at hcommitted
    cases hcommitted

/-- Textures that are set up twice show nothing where they showed the only bucket. -/
theorem recreated_shown_or_blank_of_one_committed :
    let everybody : BucketRef → Bool := fun _ => true
    let w := (World.oneActive.step (.occurrence (.deed 0 (.receive (.fill 1))))).step
      (.tick everybody .unlimited)
    let recreated := w.step (.setUp (.rasters 0) 1)
    let after := recreated.step (.tick everybody .unlimited)
    w.residency.ShowsIn w.scene.device 0 (.fill 1) ∧
      (recreated.residency.tick recreated.scene everybody .unlimited).1.isOk = true ∧
      after.residency.lookUp[0]? = some (.resident 0 0) ∧
      (after.scene.bucket 0).payload = some (.fill 1) ∧
      after.residency.ShowsIn after.scene.device 0 (zeroBytes (bucketVoxels * 1)) := by
  intro everybody w recreated after
  obtain ⟨hreached, hreceptive, hdisplays, hidle⟩ := settled_oneActive
  have hbooks : w.residency.active = [⟨7, 0, 0, 0⟩] ∧
      (w.residency.setUp w.scene (.rasters 0) 1).1 = .ok () ∧
      recreated.residency.isReady recreated.scene = true ∧
      after.residency.lookUp[0]? = some (.resident 0 0) ∧
      after.residency.active = [⟨7, 0, 0, 0⟩] := by
    decide +kernel
  obtain ⟨hactive, hcreated, hready, hentry, hactive'⟩ := hbooks
  have hpayload : (w.scene.bucket 0).payload = some (.fill 1) :=
    ((performs_tick _ everybody .unlimited).alike.payload 0).trans
      (receptive_oneActive.payload_receive (.fill 1))
  have hsizes : ∀ a ∈ w.residency.active, ∀ payload,
      (w.scene.bucket a.bucket).payload = some payload → payload.size = bucketVoxels * 1 := by
    rw [hactive]
    rintro a ha payload hsome
    rw [List.mem_singleton.mp ha, hpayload] at hsome
    exact Option.some.inj hsome ▸ size_fill 1
  obtain ⟨⟨count, hok⟩, hshown⟩ := recreated_shown_or_blank (hreached.mono fun _ _ hop => hop.1)
    hreceptive.ids hcreated hsizes everybody .unlimited hready rfl
  obtain ⟨a, ha, _, payload, _, _, hsome, _, hblank, _⟩ := hshown 0 _ hentry (by decide)
  rw [hactive'] at ha
  obtain rfl := List.mem_singleton.mp ha
  have hkept : (after.scene.bucket 0).payload = some (.fill 1) := by
    refine ((performs_tick recreated everybody .unlimited).alike.payload 0).trans ?_
    obtain ⟨_, _, _, _, _, hbuckets, _⟩ := setUp_keeps w (.rasters 0) 1
    rwa [Scene.bucket, hbuckets]
  refine ⟨hdisplays.shows, ?_, hentry, hkept, (hblank fun hdue => hidle (.inr hdue)).2⟩
  rw [hok]
  rfl

end Recreating

end VoxelCache
