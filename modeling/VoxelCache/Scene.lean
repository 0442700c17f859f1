import VoxelCache.Bucket
import VoxelCache.Journal
import VoxelCache.Texture

/-!
# Scenes

A scene holds everything that the parts of a viewer share: all buckets and
mailboxes ever created, the device with the textures, and the journal.

**Mailboxes.**  A mailbox keeps its notices in the order of arrival.  A notice
to a closed mailbox is lost, which the journal records.

**Life of a bucket.**  A bucket lives as long as somebody holds it.  Holding is
not recorded in the scene: an operation that depends on it takes the predicate
of the buckets that are held.  A bucket does not hold its coarser bucket, and
that one is always older, so every chain of coarser buckets ends.
-/

namespace VoxelCache

section Scene

/-- A queue of notices with one reader. -/
structure Mailbox where
  notices : List Notice
  isOpen : Bool
deriving DecidableEq

instance : Inhabited Mailbox where
  default := ⟨[], false⟩

/-- What the parts of a viewer share. -/
structure Scene where
  buckets : Array Bucket
  mailboxes : Array Mailbox
  device : Device
  journal : Journal

namespace Scene

def empty : Scene :=
  ⟨#[], #[], .empty, []⟩

/-- Write a line into the journal. -/
def log (s : Scene) (level : Level) (text : String) : Scene :=
  { s with journal := s.journal ++ [⟨level, text⟩] }

@[simp] theorem buckets_log (s : Scene) (level : Level) (text : String) :
    (s.log level text).buckets = s.buckets := by
  rfl

@[simp] theorem mailboxes_log (s : Scene) (level : Level) (text : String) :
    (s.log level text).mailboxes = s.mailboxes := by
  rfl

@[simp] theorem device_log (s : Scene) (level : Level) (text : String) :
    (s.log level text).device = s.device := by
  rfl

section Mailboxes

def mailbox (s : Scene) (ref : MailboxRef) : Mailbox :=
  s.mailboxes.getD ref default

def setMailbox (s : Scene) (ref : MailboxRef) (m : Mailbox) : Scene :=
  { s with mailboxes := s.mailboxes.setIfInBounds ref m }

theorem mailbox_setMailbox_self
    {s : Scene} {ref : MailboxRef} {m : Mailbox}
    (h : ref < s.mailboxes.size) :
    (s.setMailbox ref m).mailbox ref = m := by
  simp [setMailbox, mailbox, h]

theorem mailbox_setMailbox_of_ne
    {s : Scene} {ref other : MailboxRef} {m : Mailbox}
    (h : other ≠ ref) :
    (s.setMailbox ref m).mailbox other = s.mailbox other := by
  simp [setMailbox, mailbox, Array.getElem?_setIfInBounds_ne (Ne.symm h)]

theorem setMailbox_self (s : Scene) (ref : MailboxRef) :
    s.setMailbox ref (s.mailbox ref) = s := by
  unfold setMailbox mailbox
  congr
  apply Array.ext
  · simp
  · intro i _ hi
    by_cases h : ref = i
    · subst h
      simp [hi]
    · simp [h, hi]

theorem setMailbox_setMailbox
    (s : Scene) (ref : MailboxRef) (m m' : Mailbox) :
    (s.setMailbox ref m).setMailbox ref m' = s.setMailbox ref m' := by
  simp [setMailbox]

@[simp] theorem mailbox_log (s : Scene) (level : Level) (text : String) (ref : MailboxRef) :
    (s.log level text).mailbox ref = s.mailbox ref := by
  rfl

/-- Only a mailbox of the scene can be open. -/
theorem lt_of_isOpen
    {s : Scene} {ref : MailboxRef}
    (h : (s.mailbox ref).isOpen = true) :
    ref < s.mailboxes.size := by
  by_cases hin : ref < s.mailboxes.size
  · exact hin
  · have hdefault : s.mailbox ref = default := by
      simp [mailbox, Array.getD, hin]
    rw [hdefault] at h
    cases h

/-- Open a new mailbox. -/
def openMailbox (s : Scene) : MailboxRef × Scene :=
  (s.mailboxes.size, { s with mailboxes := s.mailboxes.push ⟨[], true⟩ })

/-- Close a mailbox; what it held is lost. -/
def closeMailbox (s : Scene) (ref : MailboxRef) : Scene :=
  s.setMailbox ref ⟨[], false⟩

/-- Take all notices out of a mailbox. -/
def drain (s : Scene) (ref : MailboxRef) : List Notice × Scene :=
  let m := s.mailbox ref
  (m.notices, s.setMailbox ref { m with notices := [] })

/-- Post a notice about the bucket at an address. -/
def deliver (address : Address) (s : Scene) (post : Post) : Scene :=
  let m := s.mailbox post.mailbox
  if m.isOpen then
    s.setMailbox post.mailbox { m with notices := m.notices ++ [post.notice] }
  else
    s.log .trace s!"[data_bucket::notify] Subscriber of {address} is gone"

/-- Delivering a notice changes no bucket. -/
@[simp] theorem buckets_deliver
    (address : Address) (s : Scene) (post : Post) :
    (s.deliver address post).buckets = s.buckets := by
  unfold deliver
  dsimp only
  split <;> rfl

/-- Delivering a notice changes no texture. -/
@[simp] theorem device_deliver
    (address : Address) (s : Scene) (post : Post) :
    (s.deliver address post).device = s.device := by
  unfold deliver
  dsimp only
  split <;> rfl

/-- An open mailbox takes in what is posted to it. -/
theorem mailbox_deliver
    {s : Scene} {ref : MailboxRef}
    (address : Address) (post : Post)
    (h : (s.mailbox ref).isOpen = true) :
    (s.deliver address post).mailbox ref =
      if post.mailbox = ref then
        { s.mailbox ref with notices := (s.mailbox ref).notices ++ [post.notice] }
      else
        s.mailbox ref := by
  unfold deliver
  dsimp only
  by_cases hpost : post.mailbox = ref
  · subst hpost
    rw [if_pos h, if_pos rfl, mailbox_setMailbox_self (lt_of_isOpen h)]
  · rw [if_neg hpost]
    split
    · exact mailbox_setMailbox_of_ne (Ne.symm hpost)
    · rfl

/-- An open mailbox keeps what it holds, and takes in what is posted to it, in order. -/
theorem mailbox_deliverAll
    {s : Scene} {ref : MailboxRef}
    (address : Address) (posts : List Post)
    (h : (s.mailbox ref).isOpen = true) :
    (posts.foldl (deliver address) s).mailbox ref =
      { s.mailbox ref with
        notices := (s.mailbox ref).notices ++
          (posts.filter fun post => post.mailbox = ref).map (·.notice) } := by
  induction posts generalizing s with
  | nil => simp
  | cons post rest ih =>
      rw [List.foldl_cons, ih (by rw [mailbox_deliver address post h]; split <;> exact h),
        mailbox_deliver address post h]
      by_cases hpost : post.mailbox = ref
      · simp [hpost]
      · simp [hpost]

theorem buckets_deliverAll
    (address : Address) (s : Scene) (posts : List Post) :
    (posts.foldl (deliver address) s).buckets = s.buckets := by
  induction posts generalizing s with
  | nil => rfl
  | cons post rest ih => rw [List.foldl_cons, ih, buckets_deliver]

theorem device_deliverAll
    (address : Address) (s : Scene) (posts : List Post) :
    (posts.foldl (deliver address) s).device = s.device := by
  induction posts generalizing s with
  | nil => rfl
  | cons post rest ih => rw [List.foldl_cons, ih, device_deliver]

end Mailboxes

section Buckets

def bucket (s : Scene) (ref : BucketRef) : Bucket :=
  s.buckets.getD ref default

def setBucket (s : Scene) (ref : BucketRef) (b : Bucket) : Scene :=
  { s with buckets := s.buckets.setIfInBounds ref b }

theorem bucket_setBucket_self
    {s : Scene} {ref : BucketRef} {b : Bucket}
    (h : ref < s.buckets.size) :
    (s.setBucket ref b).bucket ref = b := by
  simp [setBucket, bucket, h]

theorem bucket_setBucket_of_ne
    {s : Scene} {ref other : BucketRef} {b : Bucket}
    (h : other ≠ ref) :
    (s.setBucket ref b).bucket other = s.bucket other := by
  simp [setBucket, bucket, Array.getElem?_setIfInBounds_ne (Ne.symm h)]

/-- Putting a bucket into its own place changes nothing. -/
theorem setBucket_self (s : Scene) (ref : BucketRef) :
    s.setBucket ref (s.bucket ref) = s := by
  unfold setBucket bucket
  congr
  apply Array.ext
  · simp
  · intro i _ hi
    by_cases h : ref = i
    · subst h
      simp [hi]
    · simp [h, hi]

/-- What holds of the new bucket and of the old ones holds of all buckets. -/
theorem bucket_setBucket_induct
    {s : Scene} {ref : BucketRef} {b : Bucket}
    {motive : BucketRef → Bucket → Prop}
    (hnew : motive ref b)
    (hold : ∀ other, motive other (s.bucket other))
    (other : BucketRef) :
    motive other ((s.setBucket ref b).bucket other) := by
  by_cases h : other = ref
  · subst h
    by_cases hlt : other < s.buckets.size
    · rwa [bucket_setBucket_self hlt]
    · have hsame : (s.setBucket other b).bucket other = s.bucket other := by
        simp [setBucket, bucket, hlt]
      rw [hsame]
      exact hold other
  · rw [bucket_setBucket_of_ne h]
    exact hold other

/-- What the new bucket has in common with the old one, all buckets keep. -/
theorem bucket_setBucket_keeps
    {α : Type} {s : Scene} {ref : BucketRef} {b : Bucket}
    (f : Bucket → α)
    (h : f b = f (s.bucket ref))
    (other : BucketRef) :
    f ((s.setBucket ref b).bucket other) = f (s.bucket other) :=
  bucket_setBucket_induct (motive := fun other b => f b = f (s.bucket other)) h
    (fun _ => rfl) other

@[simp] theorem size_setBucket (s : Scene) (ref : BucketRef) (b : Bucket) :
    (s.setBucket ref b).buckets.size = s.buckets.size := by
  exact Array.size_setIfInBounds

@[simp] theorem mailbox_setBucket
    (s : Scene) (ref : BucketRef) (b : Bucket) (mailbox : MailboxRef) :
    (s.setBucket ref b).mailbox mailbox = s.mailbox mailbox := by
  rfl

@[simp] theorem device_setBucket (s : Scene) (ref : BucketRef) (b : Bucket) :
    (s.setBucket ref b).device = s.device := by
  rfl

/-- Create a bucket. -/
def addBucket (s : Scene) (b : Bucket) : BucketRef × Scene :=
  (s.buckets.size, { s with buckets := s.buckets.push b })

/-- Act on a bucket and post the notices that the action gives. -/
def act (s : Scene) (ref : BucketRef) (action : Bucket → Bucket × List Post) : Scene :=
  let (b, posts) := action (s.bucket ref)
  posts.foldl (deliver b.address) (s.setBucket ref b)

theorem bucket_act_self
    {s : Scene} {ref : BucketRef} {action : Bucket → Bucket × List Post}
    (h : ref < s.buckets.size) :
    (s.act ref action).bucket ref = (action (s.bucket ref)).1 := by
  have hself := bucket_setBucket_self (b := (action (s.bucket ref)).1) h
  unfold act
  unfold bucket at *
  rw [buckets_deliverAll]
  exact hself

/-- An action on one bucket leaves all others alone. -/
theorem bucket_act_of_ne
    {s : Scene} {ref other : BucketRef} {action : Bucket → Bucket × List Post}
    (h : other ≠ ref) :
    (s.act ref action).bucket other = s.bucket other := by
  unfold act bucket
  rw [buckets_deliverAll]
  exact bucket_setBucket_of_ne h

theorem device_act
    (s : Scene) (ref : BucketRef) (action : Bucket → Bucket × List Post) :
    (s.act ref action).device = s.device := by
  unfold act
  rw [device_deliverAll]
  rfl

/-- Mark a bucket as loading. -/
def pull (s : Scene) (ref : BucketRef) : Bool × Scene :=
  let (pulled, b) := (s.bucket ref).pull
  (pulled, s.setBucket ref b)

/-- Deliver a payload to a bucket. -/
def receive (s : Scene) (ref : BucketRef) (payload : Payload) : Scene :=
  let b := s.bucket ref
  if b.isCollected then
    s.log .debug
      s!"[data_bucket::receive_data] Dropping payload for collected bucket {b.address}"
  else
    s.act ref (Bucket.receive payload)

/-- Collect a bucket. -/
def collect (s : Scene) (ref : BucketRef) : Scene :=
  s.act ref Bucket.collect

/-- Relabel a bucket. -/
def label
    (s : Scene) (ref : BucketRef) (edits : List Edit)
    (during : Bucket → Bucket × List Post) :
    Bool × Scene :=
  let (labeled, b, posts) := (s.bucket ref).label edits during
  (labeled, posts.foldl (deliver b.address) (s.setBucket ref b))

/-- Subscribe to a bucket. -/
def subscribe (s : Scene) (ref : BucketRef) (interest : Interest) (mailbox : MailboxRef) :
    SubscriptionId × Scene :=
  let (id, b) := (s.bucket ref).subscribe interest mailbox
  (id, s.setBucket ref b)

/-- Cancel a subscription. -/
def unsubscribe (s : Scene) (ref : BucketRef) (id : SubscriptionId) : Scene :=
  s.setBucket ref ((s.bucket ref).unsubscribe id)

/-- Set whether a bucket is shown as resident. -/
def visualize (s : Scene) (ref : BucketRef) (shown : Bool) : Scene :=
  s.setBucket ref ((s.bucket ref).visualize shown)

end Buckets

section Coarser

/-- The coarser bucket of a bucket, if it is still held. -/
def coarser? (s : Scene) (held : BucketRef → Bool) (ref : BucketRef) : Option BucketRef :=
  (s.bucket ref).coarser.filter fun c => c < ref && held c

theorem lt_of_coarser?
    {s : Scene} {held : BucketRef → Bool} {ref c : BucketRef}
    (h : s.coarser? held ref = some c) :
    c < ref := by
  unfold coarser? at h
  simp only [Option.filter_eq_some_iff, Bool.and_eq_true, decide_eq_true_eq] at h
  exact h.2.1

/-- The held chain of coarser buckets above a bucket, the finest first. -/
def coarserChain (s : Scene) (held : BucketRef → Bool) (ref : BucketRef) : List BucketRef :=
  match h : s.coarser? held ref with
  | none => []
  | some c =>
      have := lt_of_coarser? h
      c :: s.coarserChain held c
termination_by ref

theorem coarserChain_of_eq_none
    {s : Scene} {held : BucketRef → Bool} {ref : BucketRef}
    (h : s.coarser? held ref = none) :
    s.coarserChain held ref = [] := by
  unfold coarserChain
  split
  · rfl
  · rename_i hsome
    rw [h] at hsome
    cases hsome

theorem coarserChain_of_eq_some
    {s : Scene} {held : BucketRef → Bool} {ref c : BucketRef}
    (h : s.coarser? held ref = some c) :
    s.coarserChain held ref = c :: s.coarserChain held c := by
  rw [coarserChain]
  split
  · rename_i hnone
    rw [h] at hnone
    cases hnone
  · rename_i d hsome
    rw [h] at hsome
    cases hsome
    rfl

/-- The chain above a bucket depends on nothing but who stands in for whom. -/
theorem coarserChain_congr
    {s s' : Scene} {held held' : BucketRef → Bool} {ref : BucketRef}
    (h : ∀ c ≤ ref, s'.coarser? held' c = s.coarser? held c) :
    s'.coarserChain held' ref = s.coarserChain held ref := by
  induction ref using Nat.strongRecOn with
  | _ ref ih =>
      have hhere := h ref (Nat.le_refl ref)
      cases hcoarser : s.coarser? held ref with
      | none =>
          rw [coarserChain_of_eq_none hcoarser, coarserChain_of_eq_none (hhere.trans hcoarser)]
      | some d =>
          have hlt := lt_of_coarser? hcoarser
          rw [coarserChain_of_eq_some hcoarser, coarserChain_of_eq_some (hhere.trans hcoarser),
            ih d hlt fun c hc => h c (Nat.le_trans hc (Nat.le_of_lt hlt))]

/-- The chain above a bucket leads to older buckets only. -/
theorem lt_of_mem_coarserChain
    {s : Scene} {held : BucketRef → Bool} {ref c : BucketRef}
    (h : c ∈ s.coarserChain held ref) :
    c < ref := by
  induction ref using Nat.strongRecOn with
  | _ ref ih =>
      cases hcoarser : s.coarser? held ref with
      | none =>
          rw [coarserChain_of_eq_none hcoarser] at h
          cases h
      | some d =>
          rw [coarserChain_of_eq_some hcoarser] at h
          have hlt := lt_of_coarser? hcoarser
          rcases List.mem_cons.mp h with rfl | hmem
          · exact hlt
          · exact Nat.lt_trans (ih d hlt hmem) hlt

/-- Mark the held chain above a bucket, up to the first bucket that is marked already. -/
def markAbove (s : Scene) (held : BucketRef → Bool) (marked : List BucketId) (ref : BucketRef) :
    List BucketId :=
  match h : s.coarser? held ref with
  | none => marked
  | some c =>
      have := lt_of_coarser? h
      if marked.contains (s.bucket c).id then marked
      else s.markAbove held ((s.bucket c).id :: marked) c
termination_by ref

end Coarser

section Textures

/-- Create a texture on the device. -/
def createTexture
    (s : Scene) (factory : Factory) (width channels : Nat) (component : Component) :
    Except Fault TextureRef × Scene :=
  let (created, device) := s.device.create factory width channels component
  (created, { s with device := device })

/-- Write to a texture of the device. -/
def updateTexture (s : Scene) (ref : TextureRef) (data : ByteArray) (r : Rect) :
    Except Fault Unit × Scene :=
  let (outcome, device) := s.device.update ref data r
  (outcome, { s with device := device })

end Textures

end Scene

end Scene

end VoxelCache
