import VoxelCache.Residency.Basic

/-!
# Rebuilding the look-up entries

Every cell of the address window around the anchor tells which slot shows it.
While a bucket is not committed, the nearest committed bucket that stands in for
it is shown, if that is not too coarse.  Buckets coarser than the anchor only
stand in for others.

The whole buffer is rebuilt at once and uploaded when its texture is ready; until
then the upload stays pending.
-/

namespace VoxelCache

section Refresh

namespace Residency

/-- The active and committed entry of a bucket. -/
def committedOwner? (m : Residency) (id : BucketId) : Option ActiveBucket :=
  if m.isCommitted id then m.find? id else none

/-- The nearest committed bucket that stands in for a bucket, as a look-up entry. -/
def standIn?
    (m : Residency) (s : Scene) (held : BucketRef → Bool) (ref : BucketRef) :
    Option LookUp.Entry :=
  let limit := (m.anchor.zoomStep + m.settings.maxZoomStepDiff) % wordModulus
  let candidates := ((s.coarserChain held ref).map s.bucket).takeWhile fun c =>
    c.address.zoomStep ≤ limit
  candidates.findSome? fun c =>
    (m.committedOwner? c.id).map fun a => .resident a.slot c.address.zoomStep

/-- What is shown at the address of an active bucket. -/
def entryFor
    (m : Residency) (s : Scene) (held : BucketRef → Bool) (a : ActiveBucket) :
    LookUp.Entry :=
  let zoomStep := (s.bucket a.bucket).address.zoomStep
  if m.settings.debugging.enforcedZoomDiff.isNone && m.isCommitted a.id then
    .resident a.slot zoomStep
  else
    (m.standIn? s held a.bucket).getD (.pending zoomStep)

/-- The number of an address in the window around the anchor. -/
def lookUpIndex? (m : Residency) (a : Address) : Option Nat :=
  LookUp.index? m.settings.addressSpace m.anchor a

/-- Active buckets that may have look-up entries of their own. -/
def shown (m : Residency) (s : Scene) : List ActiveBucket :=
  m.active.filter fun a => (s.bucket a.bucket).address.zoomStep ≤ m.anchor.zoomStep

/-- Enter an active bucket, or count it if its address lies outside the window. -/
def enter
    (m : Residency) (s : Scene) (held : BucketRef → Bool)
    (state : LookUp.Buffer × Nat) (a : ActiveBucket) :
    LookUp.Buffer × Nat :=
  let (buffer, outside) := state
  match m.lookUpIndex? (s.bucket a.bucket).address with
  | some index => (buffer.setIfInBounds index (m.entryFor s held a), outside)
  | none => (buffer, outside + 1)

/-- All look-up entries, and the number of buckets outside the window. -/
def entries (m : Residency) (s : Scene) (held : BucketRef → Bool) :
    LookUp.Buffer × Nat :=
  (m.shown s).foldl (m.enter s held) (.blank m.settings.lookUpEntries, 0)

/-- Upload the look-up entries if the texture is ready. -/
def upload (m : Residency) (s : Scene) : Except Fault Unit × Residency × Scene :=
  match m.lookUpTexture with
  | none => (.ok (), m, s)
  | some ref =>
      if s.device.isReady ref then
        let width := m.settings.lookUpWidth
        match s.updateTexture ref m.lookUp.bytes ⟨0, 0, width, width⟩ with
        | (.error fault, s) => (.error fault, m, s)
        | (.ok _, s) => (.ok (), { m with isUploadPending := false }, s)
      else
        (.ok (), m, s)

/-- An upload changes no book but whether another one is pending. -/
theorem upload_residency
    (m : Residency) (s : Scene) :
    ∃ isPending, (m.upload s).2.1 = { m with isUploadPending := isPending } := by
  unfold upload
  split
  · exact ⟨m.isUploadPending, rfl⟩
  · split
    · dsimp only
      split
      · exact ⟨m.isUploadPending, rfl⟩
      · exact ⟨false, rfl⟩
    · exact ⟨m.isUploadPending, rfl⟩

/-- An upload changes nothing but the device. -/
theorem upload_scene
    (m : Residency) (s : Scene) :
    ∃ device, (m.upload s).2.2 = { s with device := device } := by
  unfold upload
  split
  · exact ⟨s.device, rfl⟩
  · split
    · dsimp only
      split <;> rename_i hupdate <;> exact ⟨_, (congrArg Prod.snd hupdate).symm⟩
    · exact ⟨s.device, rfl⟩

/--
Rebuild all look-up entries and upload them; `outside` tells which buckets are
held by somebody other than the residency.
-/
def refresh (m : Residency) (s : Scene) (outside : BucketRef → Bool) :
    Except Fault Unit × Residency × Scene :=
  let held := fun ref => outside ref || m.holds ref
  let (lookUp, strays) := m.entries s held
  let s :=
    if strays = 0 then s
    else s.log .warn
      (s!"[texture_bucket_manager::refresh_look_up_buffer] {strays} buckets lie outside " ++
        s!"the address space around {m.anchor}")
  upload { m with lookUp := lookUp, isStale := false, isUploadPending := true } s

/-- A refresh changes no books but those of the look-up entries. -/
theorem refresh_residency
    (m : Residency) (s : Scene) (outside : BucketRef → Bool) :
    ∃ isPending, (m.refresh s outside).2.1 =
      { m with
        lookUp := (m.entries s fun ref => outside ref || m.holds ref).1
        isStale := false
        isUploadPending := isPending } := by
  unfold refresh
  dsimp only
  obtain ⟨isPending, hupload⟩ := upload_residency
    { m with
      lookUp := (m.entries s fun ref => outside ref || m.holds ref).1
      isStale := false
      isUploadPending := true } _
  exact ⟨isPending, hupload⟩

/-- A refresh changes nothing of the scene but device and journal. -/
theorem refresh_scene
    (m : Residency) (s : Scene) (outside : BucketRef → Bool) :
    ∃ device journal,
      (m.refresh s outside).2.2 = { s with device := device, journal := journal } := by
  unfold refresh
  dsimp only
  split
  · obtain ⟨device, hupload⟩ := upload_scene _ s
    exact ⟨device, s.journal, hupload⟩
  · obtain ⟨device, hupload⟩ := upload_scene _ _
    exact ⟨device, _, hupload⟩

theorem active_refresh
    (m : Residency) (s : Scene) (outside : BucketRef → Bool) :
    (m.refresh s outside).2.1.active = m.active := by
  obtain ⟨isPending, h⟩ := refresh_residency m s outside
  rw [h]

theorem lookUp_refresh
    (m : Residency) (s : Scene) (outside : BucketRef → Bool) :
    (m.refresh s outside).2.1.lookUp =
      (m.entries s fun ref => outside ref || m.holds ref).1 := by
  obtain ⟨isPending, h⟩ := refresh_residency m s outside
  rw [h]

end Residency

end Refresh

end VoxelCache
