import VoxelCache.Residency.Layout
import VoxelCache.Residency.LookUp
import VoxelCache.Scene
import VoxelCache.Settings

/-!
# Residency of buckets on the device

Buckets that are to be shown are **active**: each owns a slot of the data
textures.  A bucket is **committed** once its payload has been written into its
slot.  Writes wait in a queue, the oldest first.

The residency subscribes to every active bucket with a mailbox of its own.
Reading the mailbox queues the payloads that arrived or changed and takes the
slots of collected buckets away.
-/

namespace VoxelCache

section Residency

/-- A bucket with the slot it owns. -/
structure ActiveBucket where
  id : BucketId
  bucket : BucketRef
  slot : Nat
  subscription : SubscriptionId
deriving DecidableEq

/-- A payload that waits to be written into a slot. -/
structure WriteRequest where
  bucket : BucketId
  slot : Nat
deriving DecidableEq

/-- Numbers of slots and waiting writes. -/
structure ResidencyStats where
  capacity : Nat
  active : Nat
  committed : Nat
  free : Nat
  queued : Nat
deriving DecidableEq

/-- Which buckets are on the device, and where. -/
structure Residency where
  layout : SlotLayout
  settings : Settings
  /-- Where the notices about active buckets arrive. -/
  mailbox : MailboxRef
  active : List ActiveBucket
  committed : List BucketId
  /-- Slots without owner, in ascending order. -/
  free : List Nat
  /-- Waiting writes, the oldest first. -/
  queue : List WriteRequest
  anchor : Address
  lookUp : LookUp.Buffer
  /-- Whether the look-up entries have to be rebuilt. -/
  isStale : Bool
  /-- Whether the look-up entries have to be uploaded. -/
  isUploadPending : Bool
  dataTextures : List TextureRef
  lookUpTexture : Option TextureRef

/-- The address of the cell at the origin of the finest grid. -/
def Address.origin : Address :=
  ⟨0, 0, 0, 0⟩

namespace Residency

section Basic

/-- A residency without active buckets and without textures. -/
def create (s : Scene) (width textures packing : Nat) (settings : Settings) :
    Except Fault Residency × Scene :=
  match settings.check with
  | .error fault => (.error fault, s)
  | .ok _ =>
      match SlotLayout.create width textures packing with
      | .error cause => (.error (.layout cause), s)
      | .ok layout =>
          let (mailbox, s) := s.openMailbox
          let s := s.log .info
            (s!"[texture_bucket_manager::new] {textures} textures of width {width} " ++
              s!"(packing {packing}) hold {layout.capacity} buckets")
          (.ok
            { layout := layout
              settings := settings
              mailbox := mailbox
              active := []
              committed := []
              free := List.range layout.capacity
              queue := []
              anchor := .origin
              lookUp := .blank settings.lookUpEntries
              isStale := false
              isUploadPending := false
              dataTextures := []
              lookUpTexture := none },
            s)

/-- A new residency has no books yet. -/
theorem create_eq_ok
    {s s' : Scene} {width textures packing : Nat} {settings : Settings} {m : Residency}
    (h : create s width textures packing settings = (.ok m, s')) :
    ∃ layout journal,
      SlotLayout.create width textures packing = .ok layout ∧
      settings.fault? = none ∧
      s' = { s.openMailbox.2 with journal := journal } ∧
      m =
        { layout := layout
          settings := settings
          mailbox := s.mailboxes.size
          active := []
          committed := []
          free := List.range layout.capacity
          queue := []
          anchor := .origin
          lookUp := .blank settings.lookUpEntries
          isStale := false
          isUploadPending := false
          dataTextures := []
          lookUpTexture := none } := by
  unfold create at h
  split at h
  · cases h
  · rename_i hcheck
    split at h
    · cases h
    · rename_i layout hlayout
      cases h
      refine ⟨layout, _, hlayout, ?_, rfl, rfl⟩
      unfold Settings.check at hcheck
      split at hcheck
      · cases hcheck
      · assumption

def capacity (m : Residency) : Nat :=
  m.layout.capacity

/-- The entry of an active bucket. -/
def find? (m : Residency) (id : BucketId) : Option ActiveBucket :=
  m.active.find? fun a => a.id == id

def isActive (m : Residency) (id : BucketId) : Bool :=
  (m.find? id).isSome

theorem find?_eq_some
    {m : Residency} {id : BucketId} {a : ActiveBucket}
    (h : m.find? id = some a) :
    a ∈ m.active ∧ a.id = id := by
  refine ⟨List.mem_of_find?_eq_some h, ?_⟩
  simpa using List.find?_some h

theorem isActive_iff
    {m : Residency} {id : BucketId} :
    m.isActive id = true ↔ id ∈ m.active.map (·.id) := by
  simp [isActive, find?]

def isCommitted (m : Residency) (id : BucketId) : Bool :=
  m.committed.contains id

/-- Whether the residency holds a bucket. -/
def holds (m : Residency) (ref : BucketRef) : Bool :=
  m.active.any fun a => a.bucket == ref

def stats (m : Residency) : ResidencyStats where
  capacity := m.capacity
  active := m.active.length
  committed := m.committed.length
  free := m.free.length
  queued := m.queue.length

/-- The look-up texture, if there is one, and the data textures. -/
def textures (m : Residency) : List TextureRef :=
  m.lookUpTexture.toList ++ m.dataTextures

end Basic

section Setup

/-- Create a number of equal textures; those before a failure stay on the device. -/
def createTextures
    (s : Scene) (factory : Factory) (width channels : Nat) :
    Nat → Except Fault (List TextureRef) × Scene
  | 0 => (.ok [], s)
  | count + 1 =>
      match s.createTexture factory width channels .byte with
      | (.error fault, s) => (.error fault, s)
      | (.ok ref, s) =>
          match createTextures s factory width channels count with
          | (.error fault, s) => (.error fault, s)
          | (.ok refs, s) => (.ok (ref :: refs), s)

/-- Bytes of the look-up entries as they are uploaded. -/
def lookUpBytes (m : Residency) : Nat :=
  m.settings.lookUpEntries * (LookUp.channels * Component.single.bytes)

/--
Create the data textures for voxels of `bytes` bytes, and the look-up texture.
Textures created before are given up, but only if all new ones can be created.
At most four voxels share a texel, so a 32-bit word holds the bytes of a texel
for all voxels below 2 ^ 30 bytes.

The residency keeps its look-up entries in memory.  No memory holds entries whose
bytes a 64-bit word does not count, so nothing is set up for them.
-/
def setUp (m : Residency) (s : Scene) (factory : Factory) (bytes : Nat) :
    Except Fault Unit × Residency × Scene :=
  if longModulus ≤ m.lookUpBytes then
    (.error (.layout .outOfMemory), m, s)
  else
    let channels := bytes * m.layout.packing
    match createTextures s factory m.layout.width channels m.layout.textures with
    | (.error fault, s) => (.error fault, m, s)
    | (.ok dataTextures, s) =>
        match s.createTexture factory m.settings.lookUpWidth LookUp.channels .single with
        | (.error fault, s) => (.error fault, m, s)
        | (.ok lookUpTexture, s) =>
            (.ok (),
              { m with
                dataTextures := dataTextures
                lookUpTexture := some lookUpTexture
                isUploadPending := true },
              s.log .info
                (s!"[texture_bucket_manager::setup_data_textures] Created {m.layout.textures} " ++
                  s!"data textures with {channels} channels"))

/-- New textures change nothing but the device. -/
theorem createTextures_scene
    (s : Scene) (factory : Factory) (width channels count : Nat) :
    ∃ device, (createTextures s factory width channels count).2 = { s with device := device } := by
  induction count generalizing s with
  | zero => exact ⟨s.device, rfl⟩
  | succ count ih =>
      unfold createTextures
      rcases hcreate : s.createTexture factory width channels .byte with ⟨created, s'⟩
      have hs' : ∃ device, s' = { s with device := device } :=
        ⟨_, (congrArg Prod.snd hcreate).symm⟩
      cases created with
      | error fault => exact hs'
      | ok ref =>
          obtain ⟨device, rfl⟩ := hs'
          obtain ⟨device', hrest⟩ := ih { s with device := device }
          dsimp only
          split <;> rename_i h <;> rw [h] at hrest <;> exact ⟨device', hrest⟩

theorem setUp_scene
    (m : Residency) (s : Scene) (factory : Factory) (bytes : Nat) :
    ∃ device journal,
      (m.setUp s factory bytes).2.2 = { s with device := device, journal := journal } := by
  unfold setUp
  split
  · exact ⟨s.device, s.journal, rfl⟩
  · dsimp only
    obtain ⟨device, hdata⟩ := createTextures_scene s factory m.layout.width
      (bytes * m.layout.packing) m.layout.textures
    split <;> rename_i h <;> rw [h] at hdata <;> dsimp only at hdata <;> subst hdata
    · exact ⟨device, s.journal, rfl⟩
    · split <;> rename_i h
      · exact ⟨_, s.journal, (congrArg Prod.snd h).symm⟩
      · have hcreated := (congrArg Prod.snd h).symm
        dsimp only at hcreated
        subst hcreated
        exact ⟨_, _, rfl⟩

/-- Either the books stay, or all textures were created. -/
theorem setUp_inversion
    (m : Residency) (s : Scene) (factory : Factory) (bytes : Nat) :
    (∃ fault s', m.setUp s factory bytes = (.error fault, m, s')) ∨
      ∃ dataTextures s' lookUpTexture device journal,
        m.lookUpBytes < longModulus ∧
        createTextures s factory m.layout.width (bytes * m.layout.packing) m.layout.textures =
          (.ok dataTextures, s') ∧
        s'.device.create factory m.settings.lookUpWidth LookUp.channels .single =
          (.ok lookUpTexture, device) ∧
        m.setUp s factory bytes =
          (.ok (),
            { m with
              dataTextures := dataTextures
              lookUpTexture := some lookUpTexture
              isUploadPending := true },
            { s' with device := device, journal := journal }) := by
  unfold setUp
  split
  · exact .inl ⟨_, s, rfl⟩
  · rename_i hcounted
    dsimp only
    split
    · exact .inl ⟨_, _, rfl⟩
    · rename_i dataTextures s' hdata
      rcases hcreate : s'.device.create factory m.settings.lookUpWidth LookUp.channels .single
        with ⟨created, device⟩
      rw [Scene.createTexture, hcreate]
      cases created with
      | error fault => exact .inl ⟨_, _, rfl⟩
      | ok lookUpTexture =>
          exact .inr ⟨dataTextures, s', lookUpTexture, device, _, Nat.lt_of_not_le hcounted, hdata,
            hcreate, rfl⟩

/-- New textures change no other book than the one of uploads. -/
theorem setUp_cases
    (m : Residency) (s : Scene) (factory : Factory) (bytes : Nat) :
    (m.setUp s factory bytes).2.1 = m ∨
      ∃ dataTextures lookUpTexture, (m.setUp s factory bytes).2.1 =
        { m with
          dataTextures := dataTextures
          lookUpTexture := some lookUpTexture
          isUploadPending := true } := by
  rcases m.setUp_inversion s factory bytes with
    ⟨_, _, hfails⟩ | ⟨dataTextures, _, lookUpTexture, _, _, _, _, _, hok⟩
  · exact .inl (congrArg (·.2.1) hfails)
  · exact .inr ⟨dataTextures, lookUpTexture, congrArg (·.2.1) hok⟩

theorem layout_setUp
    (m : Residency) (s : Scene) (factory : Factory) (bytes : Nat) :
    (m.setUp s factory bytes).2.1.layout = m.layout := by
  rcases m.setUp_cases s factory bytes with hsame | ⟨_, _, hnew⟩
  · rw [hsame]
  · rw [hnew]

theorem settings_setUp
    (m : Residency) (s : Scene) (factory : Factory) (bytes : Nat) :
    (m.setUp s factory bytes).2.1.settings = m.settings := by
  rcases m.setUp_cases s factory bytes with hsame | ⟨_, _, hnew⟩
  · rw [hsame]
  · rw [hnew]

/-- New textures differ in nothing but textures, uploads, device and journal. -/
theorem exists_setUp_eq
    (m : Residency) (s : Scene) (factory : Factory) (bytes : Nat) :
    ∃ dataTextures lookUpTexture isPending device journal,
      (m.setUp s factory bytes).2 =
        ({ m with
            dataTextures := dataTextures
            lookUpTexture := lookUpTexture
            isUploadPending := isPending },
          { s with device := device, journal := journal }) := by
  obtain ⟨device, journal, hscene⟩ := m.setUp_scene s factory bytes
  rcases m.setUp_cases s factory bytes with hsame | ⟨_, _, hnew⟩
  · exact ⟨_, _, _, device, journal, Prod.ext hsame hscene⟩
  · exact ⟨_, _, _, device, journal, Prod.ext hnew hscene⟩

end Setup

section Slots

/-- Put a slot back among the free ones. -/
def insertSlot (slot : Nat) : List Nat → List Nat
  | [] => [slot]
  | other :: rest =>
      if slot ≤ other then slot :: other :: rest else other :: insertSlot slot rest

theorem insertSlot_perm
    (slot : Nat) (free : List Nat) :
    (insertSlot slot free).Perm (slot :: free) := by
  induction free with
  | nil => exact .refl _
  | cons other rest ih =>
      unfold insertSlot
      split
      · exact .refl _
      · exact (ih.cons other).trans (.swap slot other rest)

theorem mem_insertSlot
    {slot other : Nat} {free : List Nat} :
    other ∈ insertSlot slot free ↔ other = slot ∨ other ∈ free := by
  rw [(insertSlot_perm slot free).mem_iff, List.mem_cons]

theorem length_insertSlot
    (slot : Nat) (free : List Nat) :
    (insertSlot slot free).length = free.length + 1 := by
  simpa using (insertSlot_perm slot free).length_eq

/-- Putting a slot back keeps the free slots in ascending order. -/
theorem pairwise_insertSlot
    {slot : Nat} {free : List Nat}
    (h : free.Pairwise (· < ·))
    (hslot : slot ∉ free) :
    (insertSlot slot free).Pairwise (· < ·) := by
  induction free with
  | nil => simp [insertSlot]
  | cons other rest ih =>
      rw [List.mem_cons, not_or] at hslot
      have hrest := List.pairwise_cons.mp h
      unfold insertSlot
      split
      · refine List.pairwise_cons.mpr ⟨?_, h⟩
        intro third hthird
        rcases List.mem_cons.mp hthird with rfl | hthird
        · omega
        · have := hrest.1 third hthird
          omega
      · refine List.pairwise_cons.mpr ⟨?_, ih hrest.2 hslot.2⟩
        intro third hthird
        rcases mem_insertSlot.mp hthird with rfl | hthird
        · omega
        · exact hrest.1 third hthird

/-- The write of the payload of an active bucket, if it has one. -/
def pendingWrite (m : Residency) (s : Scene) (id : BucketId) : List WriteRequest :=
  match m.find? id with
  | none => []
  | some a => if (s.bucket a.bucket).hasPayload then [⟨id, a.slot⟩] else []

/-- Queue the payload of an active bucket, if it has one. -/
def enqueue (m : Residency) (s : Scene) (id : BucketId) : Residency :=
  { m with queue := m.queue ++ m.pendingWrite s id }

/-- The residency without one of its active buckets. -/
def without (m : Residency) (a : ActiveBucket) : Residency :=
  { m with
    active := m.active.filter fun b => b.id != a.id
    committed := m.committed.filter fun c => c != a.id
    isStale := m.isStale || m.isCommitted a.id
    free := insertSlot a.slot m.free }

/-- Cancel the subscription on a bucket and show it as resident no more. -/
def dismiss (m : Residency) (s : Scene) (a : ActiveBucket) : Scene :=
  let s := s.unsubscribe a.bucket a.subscription
  if m.settings.debugging.visualize then s.visualize a.bucket false else s

/-- Take the slot of a bucket away, if it has one. -/
def release (m : Residency) (s : Scene) (id : BucketId) : Residency × Scene :=
  match m.find? id with
  | none => (m, s)
  | some a => (m.without a, m.dismiss s a)

theorem release_of_find?_eq_none
    {m : Residency} {id : BucketId}
    (s : Scene)
    (h : m.find? id = none) :
    m.release s id = (m, s) := by
  simp [release, h]

theorem release_of_find?_eq_some
    {m : Residency} {id : BucketId} {a : ActiveBucket}
    (s : Scene)
    (h : m.find? id = some a) :
    m.release s id = (m.without a, m.dismiss s a) := by
  simp [release, h]

/-- React to one notice about an active bucket. -/
def react (m : Residency) (s : Scene) (notice : Notice) : Residency × Scene :=
  match notice.event with
  | .loaded => (m.enqueue s notice.bucket, s)
  | .labeled => (m.enqueue s notice.bucket, s)
  | .collected => m.release s notice.bucket

/-- A notice queues a payload, or it takes the slot of a bucket that has one away. -/
theorem react_cases
    (m : Residency) (s : Scene) (notice : Notice) :
    (notice.event ≠ .collected ∧ m.react s notice = (m.enqueue s notice.bucket, s)) ∨
    (notice.event = .collected ∧
      (m.find? notice.bucket = none ∧ m.react s notice = (m, s) ∨
        ∃ a, m.find? notice.bucket = some a ∧
          m.react s notice = (m.without a, m.dismiss s a))) := by
  cases hevent : notice.event with
  | loaded => exact .inl ⟨by simp, by simp only [react, hevent]⟩
  | labeled => exact .inl ⟨by simp, by simp only [react, hevent]⟩
  | collected =>
      refine .inr ⟨rfl, ?_⟩
      cases hfind : m.find? notice.bucket with
      | none =>
          refine .inl ⟨rfl, ?_⟩
          simp only [react, hevent, release_of_find?_eq_none s hfind]
      | some a =>
          refine .inr ⟨a, rfl, ?_⟩
          simp only [react, hevent, release_of_find?_eq_some s hfind]

/-- React to some notices, in order. -/
def reactAll (m : Residency) (s : Scene) (notices : List Notice) : Residency × Scene :=
  notices.foldl (fun state notice => react state.1 state.2 notice) (m, s)

/-- React to all notices that have arrived. -/
def readNotices (m : Residency) (s : Scene) : Residency × Scene :=
  let (notices, s) := s.drain m.mailbox
  m.reactAll s notices

/-- No bucket becomes active by notices. -/
theorem mem_active_of_mem_react
    {m : Residency} {s : Scene} {notice : Notice} {a : ActiveBucket}
    (h : a ∈ (m.react s notice).1.active) :
    a ∈ m.active := by
  rcases m.react_cases s notice with ⟨_, hreact⟩ | ⟨_, ⟨_, hreact⟩ | ⟨b, _, hreact⟩⟩
  · rw [hreact] at h
    exact h
  · rw [hreact] at h
    exact h
  · rw [hreact] at h
    exact (List.mem_filter.mp h).1

theorem mem_active_of_mem_readNotices
    {m : Residency} {s : Scene} {a : ActiveBucket}
    (h : a ∈ (m.readNotices s).1.active) :
    a ∈ m.active := by
  have hall : ∀ (notices : List Notice) (m : Residency) (s : Scene),
      a ∈ (m.reactAll s notices).1.active → a ∈ m.active := by
    intro notices
    induction notices with
    | nil => exact fun _ _ h => h
    | cons notice rest ih => exact fun m s h => mem_active_of_mem_react (ih _ _ h)
  exact hall _ m _ h

/-- What the residency wants to hear about a bucket that it gives a slot. -/
def interestIn (b : Bucket) : Interest :=
  ⟨!b.hasPayload, true, true⟩

/-- Give a bucket a slot. -/
def reserve (m : Residency) (s : Scene) (ref : BucketRef) (slot : Nat) : Residency × Scene :=
  let b := s.bucket ref
  let (subscription, s) := s.subscribe ref (interestIn b) m.mailbox
  let m : Residency := { m with active := m.active ++ [⟨b.id, ref, slot, subscription⟩] }
  (m.enqueue s b.id, s)

end Slots

end Residency

end Residency

end VoxelCache
