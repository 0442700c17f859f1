import VoxelCache.Proofs.Delivery
import VoxelCache.Proofs.Updating

/-!
# Attention to arrived payloads

Payloads may arrive that nobody asked for, even for buckets that are loaded already; the
residency is not told of those.  Still it is **attentive**: every active bucket that has a
payload is committed, or its slot is about to be written to.

**Results.**
* `Attentive.of_performs`: every operation of the residency keeps it attentive.
* `Attentive.of_pull`, `Attentive.of_receive`, `Attentive.of_collectAll`, `Attentive.of_adds`:
  and so does what others do to the scene.
* `Attentive.mem_committed_iff`: when nothing is under way, exactly the active buckets are
  committed.
* `Performs.isReady_eq`: the work of the residency makes no texture ready.
-/

namespace VoxelCache

section Attention

open Residency

/-- Whether every active bucket with a payload is committed, queued or announced. -/
structure Attentive (bytes : Nat) (w : World) : Prop extends Serviceable bytes w where
  tended : ∀ a ∈ w.residency.active, (w.scene.bucket a.bucket).payload ≠ none →
    ∃ payload, Delivers w a payload

variable {bytes : Nat} {opening : Bool} {w w' : World} {op : Operation}

theorem Attentive.of_keeps
    (h : Attentive bytes w)
    (hwatchful : Watchful w')
    (hkeeps : Keeps bytes w w') :
    Attentive bytes w' where
  toServiceable := h.toServiceable.of_keeps hwatchful hkeeps
  tended a ha hsome := by
    rw [hkeeps.scene.payload] at hsome
    obtain ⟨payload, hpayload⟩ := Option.ne_none_iff_exists'.mp hsome
    rcases hkeeps.carries a ha payload hpayload with ⟨hactive, hcarries⟩ | hdelivers
    · obtain ⟨other, hother⟩ := h.tended a hactive hsome
      exact ⟨other, hcarries other hother⟩
    · exact ⟨payload, hdelivers⟩

theorem Attentive.of_moves
    (h : Attentive bytes w)
    (htidy : Tidy w.residency)
    (hmoves : Moves opening w w') :
    Attentive bytes w' := by
  induction hmoves with
  | refl => exact h
  | tail hbefore hlast ih =>
      exact ih.of_keeps (ih.toWatchful.of_move hlast)
        (hlast.keeps ih.toServiceable (Moves.tidy hbefore htidy))

theorem Attentive.of_performs
    (h : Attentive bytes w)
    (htidy : Tidy w.residency)
    (hperforms : Performs op w w') :
    Attentive bytes w' := by
  cases hperforms with
  | keeping hmoves => exact h.of_moves htidy hmoves
  | @rebuilding v _ outside _ hbefore hafter =>
      have hmid := h.of_moves htidy hbefore
      have htidied := hbefore.tidy htidy
      have hrebuilt : Attentive bytes (v.rebuild outside) :=
        hmid.of_keeps ⟨hmid.isOpen, hmid.known, hmid.watched⟩
          (hmid.keeps_of_books htidied rfl rfl rfl rfl rfl rfl rfl rfl rfl fun _ _ => rfl)
      exact hrebuilt.of_moves (tidy_rebuild outside htidied) hafter

/-- Attention does not depend on what is recorded. -/
theorem Attentive.of_chronicle
    (h : Attentive bytes w)
    (c : Chronicle) :
    Attentive bytes ⟨w.residency, w.scene, c⟩ where
  isOpen := h.isOpen
  known := h.known
  watched := h.watched
  layout := h.layout
  sound := h.sound
  unequipped := h.unequipped
  equipped := h.equipped
  tended a ha hsome := by
    obtain ⟨payload, hdelivers⟩ := h.tended a ha hsome
    refine ⟨payload, ?_⟩
    cases hdelivers with
    | shown hcommitted hshows => exact .shown hcommitted hshows
    | queued hnewest hr => exact .queued hnewest hr
    | announced hmem hbucket hevent => exact .announced hmem hbucket hevent

theorem Attentive.of_journal
    {m : Residency} {s : Scene} {c : Chronicle}
    (h : Attentive bytes ⟨m, s, c⟩)
    (journal : Journal) :
    Attentive bytes ⟨m, { s with journal := journal }, c⟩ where
  toServiceable := h.toServiceable.of_scene ⟨h.isOpen, h.known, h.watched⟩ (fun _ => rfl) h.sound
  tended a ha hsome := by
    obtain ⟨payload, hdelivers⟩ := h.tended a ha hsome
    exact ⟨payload, hdelivers.of_scene (fun _ hmem => hmem) fun _ => rfl⟩

/-- When nothing is under way, exactly the active buckets are committed. -/
theorem Attentive.mem_committed_iff
    (h : Attentive bytes w)
    (htidy : Tidy w.residency)
    (hqueue : w.residency.queue = [])
    (hnotices : (w.scene.mailbox w.residency.mailbox).notices = [])
    (hall : ∀ a ∈ w.residency.active, (w.scene.bucket a.bucket).payload ≠ none)
    (id : BucketId) :
    id ∈ w.residency.committed ↔ id ∈ w.residency.active.map (·.id) := by
  constructor
  · exact htidy.committed_active id
  · intro hactive
    obtain ⟨a, ha, rfl⟩ := List.mem_map.mp hactive
    obtain ⟨payload, hdelivers⟩ := h.tended a ha (hall a ha)
    cases hdelivers with
    | shown hcommitted _ => exact hcommitted
    | queued hnewest _ =>
        rw [hqueue] at hnewest
        cases hnewest
    | announced hmem _ _ =>
        rw [hnotices] at hmem
        cases hmem

end Attention

section Others

open Residency

variable {bytes : Nat} {w : World} {m : Residency} {s s' : Scene} {c : Chronicle}
  {ref : BucketRef} {deed : Deed}

/-- A deed is noticed if a payload that was not there before is announced. -/
theorem Attentive.of_deed
    (h : Attentive bytes w)
    (hexist : ref < w.scene.buckets.size)
    (hspares : deed.Spares w.residency.mailbox (w.scene.bucket ref))
    (hsound : Deed.IsSound bytes (deed.perform (w.scene.bucket ref)).1)
    (htold : (w.scene.bucket ref).payload = none →
      (deed.perform (w.scene.bucket ref)).1.payload ≠ none →
      ∀ id, Deed.IsWatched w.residency.mailbox id (w.scene.bucket ref) →
        Deed.Tells w.residency.mailbox (w.scene.bucket ref).id
          (deed.perform (w.scene.bucket ref)).2) :
    Attentive bytes { w with scene := w.scene.deed ref deed } where
  toServiceable := h.toServiceable.of_deed hexist hspares hsound
  tended a ha hsome := by
    -- Only the bucket of the deed can get its first payload; others were tended before.
    by_cases hnone : (w.scene.bucket a.bucket).payload = none
    · have hsame : a.bucket = ref := by
        refine Decidable.byContradiction fun hother => hsome ?_
        rw [← hnone]
        exact congrArg Bucket.payload (Scene.bucket_deed_of_ne deed hother)
      have hwatched := h.watched a ha
      dsimp only at hsome
      rw [hsame] at hnone hwatched hsome
      rw [Scene.bucket_deed_self deed hexist] at hsome
      exact ⟨.empty, delivers_of_tells h.toWatchful ha hsame (htold hnone hsome _ hwatched)⟩
    · obtain ⟨payload, hdelivers⟩ := h.tended a ha hnone
      refine ⟨payload, hdelivers.of_scene (notices_deed h.toWatchful) ?_⟩
      intro other
      rw [Scene.device_deed]

theorem Attentive.of_pull
    (h : Attentive bytes w)
    (hexist : ref < w.scene.buckets.size) :
    Attentive bytes { w with scene := w.scene.deed ref .pull } := by
  have hdevelops : Deed.Develops bytes w.residency.mailbox (w.scene.bucket ref) _ _ :=
    Deed.perform_develops .pull (h.sound ref) trivial
  refine h.of_deed hexist trivial hdevelops.sound ?_
  intro hnone hsome id hwatched
  exact hdevelops.told id hwatched (by rwa [hnone]) hsome

/-- A payload of the right size is noticed when it is the first one. -/
theorem Attentive.of_receive
    {payload : Payload}
    (h : Attentive bytes w)
    (hexist : ref < w.scene.buckets.size)
    (hopen : (w.scene.bucket ref).isCollected = false)
    (hsize : payload.size = bucketVoxels * bytes) :
    Attentive bytes { w with scene := w.scene.deed ref (.receive payload) } := by
  refine h.of_deed hexist trivial ⟨?_, ?_⟩ ?_
  · intro other hother
    rw [Deed.perform, Bucket.payload_receive hopen] at hother
    cases hother
    exact hsize
  · intro hcollected
    rw [Deed.perform, Bucket.isCollected_receive, hopen] at hcollected
    cases hcollected
  · intro hnone hsome id hwatched
    have hdevelops : Deed.Develops bytes w.residency.mailbox (w.scene.bucket ref) _ _ :=
      Deed.perform_develops (.receive payload) (h.sound ref) ⟨hsize, .inr hnone⟩
    exact hdevelops.told id hwatched (by rwa [hnone]) hsome

theorem Attentive.of_collect
    (h : Attentive bytes w)
    (hexist : ref < w.scene.buckets.size) :
    Attentive bytes { w with scene := w.scene.deed ref .collect } := by
  have hdevelops : Deed.Develops bytes w.residency.mailbox (w.scene.bucket ref) _ _ :=
    Deed.perform_develops .collect (h.sound ref) trivial
  refine h.of_deed hexist trivial hdevelops.sound ?_
  intro hnone hsome id hwatched
  exact hdevelops.told id hwatched (by rwa [hnone]) hsome

theorem Attentive.of_collectAll
    {refs : List BucketRef}
    (h : Attentive bytes ⟨m, s, c⟩)
    (hlt : ∀ ref ∈ refs, ref < s.buckets.size) :
    Attentive bytes ⟨m, s.collectAll refs, c⟩ := by
  refine Scene.collectAll_induction (motive := fun s => Attentive bytes ⟨m, s, c⟩) ?_ h hlt
  exact fun s ref hexist hs => hs.of_collect hexist

/-- New buckets have no payloads to be noticed. -/
theorem Attentive.of_adds
    (h : Attentive bytes ⟨m, s, c⟩)
    (hadds : Scene.Adds s s') :
    Attentive bytes ⟨m, s', c⟩ := by
  induction hadds with
  | refl => exact h
  | tail _ hlast ih =>
      obtain ⟨id, address, coarser, rfl⟩ := hlast
      refine ⟨ih.toServiceable.of_create, ?_⟩
      intro a ha hsome
      dsimp only at hsome
      rw [Scene.bucket_addBucket_of_lt (ih.known a ha).1] at hsome
      obtain ⟨payload, hdelivers⟩ := ih.tended a ha hsome
      exact ⟨payload, hdelivers.of_scene (fun _ hmem => hmem) fun _ => rfl⟩

/-- When the first textures are set up, nothing is committed yet. -/
theorem Attentive.of_setUp
    {switch : Nat}
    (h : Attentive bytes w)
    (hnone : w.residency.lookUpTexture = none) :
    Attentive bytes (w.step (.setUp (.rasters switch) bytes)) := by
  obtain ⟨_, _, hactive, _, _, hbuckets, _⟩ := setUp_keeps w (.rasters switch) bytes
  refine ⟨h.toServiceable.of_setUp hnone, ?_⟩
  intro a ha hsome
  rw [hactive] at ha
  rw [Scene.bucket, hbuckets] at hsome
  obtain ⟨payload, hdelivers⟩ := h.tended a ha hsome
  exact ⟨payload, hdelivers.of_setUp (h.unequipped hnone)⟩

/-- Whether textures are ready, and whether devices will fail, has no part in it. -/
theorem Attentive.of_device
    {device : Device}
    (h : Attentive bytes ⟨m, s, c⟩)
    (htidy : Tidy m)
    (htextures : ∀ ref, device.texture ref = s.device.texture ref) :
    Attentive bytes ⟨m, { s with device := device }, c⟩ :=
  h.of_keeps ⟨h.isOpen, h.known, h.watched⟩
    (h.keeps_of_books htidy rfl rfl rfl rfl rfl rfl rfl rfl rfl fun ref _ => htextures ref)

end Others

section Readiness

open Residency

variable {opening : Bool} {w w' : World} {op : Operation} {m m' : Residency} {s s' : Scene}

theorem isReady_congr
    (hdata : m'.dataTextures = m.dataTextures)
    (hlookUp : m'.lookUpTexture = m.lookUpTexture)
    (hready : ∀ ref, s'.device.isReady ref = s.device.isReady ref) :
    m'.isReady s' = m.isReady s := by
  have hsame : s'.device.isReady = s.device.isReady := funext hready
  rw [isReady, isReady, hdata, hlookUp, hsame]

theorem isReady_writeSlot
    {slot : Nat} {payload : Payload} {outcome : Except Fault Unit}
    (h : m.writeSlot s slot payload = (outcome, s'))
    (ref : TextureRef) :
    s'.device.isReady ref = s.device.isReady ref := by
  have hscene : s' = (m.writeSlot s slot payload).2 := (congrArg Prod.snd h).symm
  rw [hscene]
  exact Device.isReady_update s.device _ payload _ ref

theorem isReady_upload (m : Residency) (s : Scene) :
    (m.upload s).2.1.isReady (m.upload s).2.2 = m.isReady s := by
  obtain ⟨isPending, hresidency⟩ := m.upload_residency s
  refine isReady_congr (by rw [hresidency]) (by rw [hresidency]) fun ref => ?_
  rcases m.device_upload_cases s with hdevice | ⟨lookUp, _, hdevice⟩
  · rw [hdevice]
  · rw [hdevice]
    exact Device.isReady_update _ _ _ _ ref

theorem Move.isReady_eq
    (h : Move opening w w') :
    w'.residency.isReady w'.scene = w.residency.isReady w.scene := by
  cases h with
  | journal => rfl
  | @hear _ _ notice rest _ => exact isReady_react w.residency (w.pop rest).scene notice
  | @forgo _ _ a _ =>
      refine isReady_congr rfl rfl fun ref => ?_
      exact congrArg (Device.isReady · ref) (device_dismiss w.residency w.scene a)
  | aim => rfl
  | reserve _ _ _ _ => rfl
  | thin => rfl
  | skip _ _ => rfl
  | fail _ _ _ _ _ hfail => exact isReady_congr rfl rfl (isReady_writeSlot hfail)
  | @write _ _ _ rest a _ s _ _ _ _ _ hwrite =>
      refine isReady_congr rfl rfl fun ref => ?_
      have hdevice := device_markCommitted { w.residency with queue := rest } s a
      exact (congrArg (Device.isReady · ref) hdevice).trans (isReady_writeSlot hwrite ref)
  | upload => exact isReady_upload w.residency w.scene

theorem Moves.isReady_eq
    (h : Moves opening w w') :
    w'.residency.isReady w'.scene = w.residency.isReady w.scene := by
  induction h with
  | refl => rfl
  | tail _ hmove ih => exact hmove.isReady_eq.trans ih

/-- The work of the residency makes no texture ready, and none cease to be. -/
theorem Performs.isReady_eq
    (h : Performs op w w') :
    w'.residency.isReady w'.scene = w.residency.isReady w.scene := by
  cases h with
  | keeping hmoves => exact hmoves.isReady_eq
  | rebuilding _ hbefore hafter => exact hafter.isReady_eq.trans hbefore.isReady_eq

end Readiness

end VoxelCache
