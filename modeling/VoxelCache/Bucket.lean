import VoxelCache.Grid

/-!
# Buckets

A bucket is one cube of voxel data.  It is created without a payload, may be
marked as loading, receives payloads, is relabeled in place, and is finally
collected; a collected bucket never holds a payload again.

**Notices.**  Whoever is interested subscribes with a mailbox.  An operation on
a bucket answers the changed bucket together with the notices to be posted, in
order, so that the operations know nothing about mailboxes themselves.  An
interest in the arrival of a payload is spent by the first arrival; a
subscription without any interest left is dropped.

**Coarser buckets.**  A bucket may name the bucket that stands in for it while
it has no payload of its own.  It does not keep that bucket alive.
-/

namespace VoxelCache

section Bucket

/-- Identity of a bucket. -/
abbrev BucketId := Nat

/-- Place of a bucket among all buckets ever created. -/
abbrev BucketRef := Nat

/-- Place of a mailbox among all mailboxes ever opened. -/
abbrev MailboxRef := Nat

/-- Number of a subscription on its bucket. -/
abbrev SubscriptionId := Nat

/-- The bytes of a bucket's voxels. -/
abbrev Payload := ByteArray

/-- How far the payload of a bucket is. -/
inductive LoadState where
  | unrequested
  | loading
  | loaded
deriving DecidableEq

namespace LoadState

def title : LoadState → String
  | unrequested => "Unrequested"
  | loading => "Loading"
  | loaded => "Loaded"

end LoadState

/-- What happens to a bucket. -/
inductive Event where
  /-- A payload arrived. -/
  | loaded
  /-- The payload was changed in place. -/
  | labeled
  /-- The payload was reclaimed for good. -/
  | collected
deriving DecidableEq

namespace Event

def title : Event → String
  | loaded => "Loaded"
  | labeled => "Labeled"
  | collected => "Collected"

end Event

/-- What a subscriber hears about. -/
structure Notice where
  bucket : BucketId
  event : Event
deriving DecidableEq

/-- A notice with the mailbox it goes to. -/
structure Post where
  mailbox : MailboxRef
  notice : Notice
deriving DecidableEq

/-- The events a subscriber wants to hear about. -/
structure Interest where
  loaded : Bool
  labeled : Bool
  collected : Bool
deriving DecidableEq

namespace Interest

def wants (interest : Interest) : Event → Bool
  | .loaded => interest.loaded
  | .labeled => interest.labeled
  | .collected => interest.collected

def isEmpty (interest : Interest) : Bool :=
  !(interest.loaded || interest.labeled || interest.collected)

/-- What is left of an interest after an event. -/
def spend (interest : Interest) : Event → Interest
  | .loaded => { interest with loaded := false }
  | .labeled => interest
  | .collected => interest

end Interest

/-- A subscription on a bucket. -/
structure Listener where
  id : SubscriptionId
  interest : Interest
  mailbox : MailboxRef
deriving DecidableEq

/-- One byte that a labeling writes. -/
structure Edit where
  index : Nat
  value : UInt8
deriving DecidableEq

namespace Edit

/-- Write one byte; an index behind the end writes nothing. -/
def apply (payload : Payload) (edit : Edit) : Payload :=
  if h : edit.index < payload.size then
    payload.set edit.index edit.value h
  else
    payload

/-- Write bytes in order. -/
def applyAll (edits : List Edit) (payload : Payload) : Payload :=
  edits.foldl apply payload

/-- Labeling keeps the length of a payload. -/
theorem size_applyAll
    (edits : List Edit) (payload : Payload) :
    (applyAll edits payload).size = payload.size := by
  unfold applyAll
  induction edits generalizing payload with
  | nil => rfl
  | cons edit rest ih =>
      rw [List.foldl_cons, ih]
      unfold apply
      split
      · exact Array.size_set _
      · rfl

end Edit

/-- A cube of voxel data. -/
structure Bucket where
  id : BucketId
  address : Address
  /-- The bucket that stands in for this one. -/
  coarser : Option BucketRef
  state : LoadState
  payload : Option Payload
  listeners : List Listener
  nextSubscription : SubscriptionId
  isVisualized : Bool
  isCollected : Bool

namespace Bucket

/-- A bucket that nobody has asked for. -/
def create (id : BucketId) (address : Address) (coarser : Option BucketRef) : Bucket where
  id := id
  address := address
  coarser := coarser
  state := .unrequested
  payload := none
  listeners := []
  nextSubscription := 0
  isVisualized := false
  isCollected := false

instance : Inhabited Bucket where
  default := create 0 ⟨0, 0, 0, 0⟩ none

def hasPayload (b : Bucket) : Bool :=
  b.payload.isSome

/-- Identity, address and state in words. -/
def describe (b : Bucket) : String :=
  s!"DataBucket \x7b id: BucketId({b.id}), address: ZoomedAddress " ++
    s!"\x7b x: {b.address.x}, y: {b.address.y}, z: {b.address.z}, " ++
    s!"zoom_step: {b.address.zoomStep} \x7d, state: " ++ b.state.title ++ " \x7d"

/-- The notices about an event, in order of subscription. -/
def posts (b : Bucket) (event : Event) : List Post :=
  (b.listeners.filter fun l => l.interest.wants event).map fun l =>
    ⟨l.mailbox, ⟨b.id, event⟩⟩

/-- Spend the interests that an event uses up. -/
def spend (b : Bucket) (event : Event) : Bucket :=
  match event with
  | .loaded =>
      { b with
        listeners := (b.listeners.map fun l =>
          { l with interest := l.interest.spend .loaded }).filter fun l =>
            !l.interest.isEmpty }
  | .labeled => b
  | .collected => b

/-- A notice goes to each listener that wants the event. -/
theorem mem_posts
    {b : Bucket} {event : Event} {post : Post} :
    post ∈ b.posts event ↔
      ∃ l ∈ b.listeners, l.interest.wants event = true ∧
        post = ⟨l.mailbox, ⟨b.id, event⟩⟩ := by
  simp only [posts, List.mem_map, List.mem_filter]
  constructor
  · rintro ⟨l, ⟨hl, hwants⟩, rfl⟩
    exact ⟨l, hl, hwants, rfl⟩
  · rintro ⟨l, hl, hwants, rfl⟩
    exact ⟨l, ⟨hl, hwants⟩, rfl⟩

@[simp] theorem id_spend (b : Bucket) (event : Event) : (b.spend event).id = b.id := by
  cases event <;> rfl

@[simp] theorem address_spend (b : Bucket) (event : Event) :
    (b.spend event).address = b.address := by
  cases event <;> rfl

@[simp] theorem state_spend (b : Bucket) (event : Event) :
    (b.spend event).state = b.state := by
  cases event <;> rfl

@[simp] theorem payload_spend (b : Bucket) (event : Event) :
    (b.spend event).payload = b.payload := by
  cases event <;> rfl

@[simp] theorem isCollected_spend (b : Bucket) (event : Event) :
    (b.spend event).isCollected = b.isCollected := by
  cases event <;> rfl

/-- Tell all subscribers about an event. -/
def announce (b : Bucket) (event : Event) : Bucket × List Post :=
  (b.spend event, b.posts event)

/-- Mark an unrequested bucket as loading; the answer says whether it was one. -/
def pull (b : Bucket) : Bool × Bucket :=
  if b.state = .unrequested ∧ b.isCollected = false then
    (true, { b with state := .loading })
  else
    (false, b)

theorem pull_fst_iff
    {b : Bucket} :
    b.pull.1 = true ↔ b.state = .unrequested ∧ b.isCollected = false := by
  unfold pull
  split <;> simp_all

/-- Take in a payload; a collected bucket drops it. -/
def receive (payload : Payload) (b : Bucket) : Bucket × List Post :=
  if b.isCollected then
    (b, [])
  else
    announce { b with state := .loaded, payload := some payload } .loaded

theorem receive_of_isCollected
    {b : Bucket} {payload : Payload}
    (h : b.isCollected = true) :
    b.receive payload = (b, []) := by
  simp [receive, h]

theorem payload_receive
    {b : Bucket} {payload : Payload}
    (h : b.isCollected = false) :
    (b.receive payload).1.payload = some payload := by
  simp [receive, h, announce]

theorem state_receive
    {b : Bucket} {payload : Payload}
    (h : b.isCollected = false) :
    (b.receive payload).1.state = .loaded := by
  simp [receive, h, announce]

theorem isCollected_receive
    (b : Bucket) (payload : Payload) :
    (b.receive payload).1.isCollected = b.isCollected := by
  cases h : b.isCollected <;> simp [receive, h, announce]

/-- Reclaim the payload for good and dismiss all subscribers. -/
def collect (b : Bucket) : Bucket × List Post :=
  if b.isCollected then
    (b, [])
  else
    let reclaimed : Bucket :=
      { b with isCollected := true, payload := none, state := .unrequested }
    let (announced, posts) := reclaimed.announce .collected
    ({ announced with listeners := [] }, posts)

theorem collect_of_isCollected
    {b : Bucket}
    (h : b.isCollected = true) :
    b.collect = (b, []) := by
  simp [collect, h]

theorem isCollected_collect
    (b : Bucket) :
    b.collect.1.isCollected = true := by
  cases h : b.isCollected <;> simp [collect, h, announce]

theorem payload_collect
    {b : Bucket}
    (h : b.isCollected = false) :
    b.collect.1.payload = none := by
  simp [collect, h, announce]

theorem listeners_collect
    {b : Bucket}
    (h : b.isCollected = false) :
    b.collect.1.listeners = [] := by
  simp [collect, h, announce]

/--
Change a copy of the payload by `edits`, let `during` act on the bucket, and put
the copy in place.  The answer says whether it was put in place: the bucket must
have a payload at the start and must not be collected at the end.
-/
def label
    (edits : List Edit) (during : Bucket → Bucket × List Post) (b : Bucket) :
    Bool × Bucket × List Post :=
  match b.payload with
  | none => (false, b, [])
  | some payload =>
      let (acted, earlier) := during b
      if acted.isCollected || !acted.hasPayload then
        (false, acted, earlier)
      else
        let relabeled : Bucket := { acted with payload := some (Edit.applyAll edits payload) }
        let (announced, later) := relabeled.announce .labeled
        (true, announced, earlier ++ later)

/-- Subscribe with a mailbox; without an interest, or once collected, only a number is used up. -/
def subscribe (interest : Interest) (mailbox : MailboxRef) (b : Bucket) :
    SubscriptionId × Bucket :=
  let id := b.nextSubscription
  let numbered : Bucket := { b with nextSubscription := id + 1 }
  if b.isCollected || interest.isEmpty then
    (id, numbered)
  else
    (id, { numbered with listeners := b.listeners ++ [⟨id, interest, mailbox⟩] })

/-- Cancel a subscription, if there is one of this number. -/
def unsubscribe (id : SubscriptionId) (b : Bucket) : Bucket :=
  { b with listeners := b.listeners.filter fun l => l.id != id }

theorem not_mem_listeners_unsubscribe
    {b : Bucket} {id : SubscriptionId} {l : Listener}
    (h : l ∈ (b.unsubscribe id).listeners) :
    l.id ≠ id := by
  simpa using (List.mem_filter.mp h).2

/-- Set whether the bucket is shown as resident. -/
def visualize (shown : Bool) (b : Bucket) : Bucket :=
  { b with isVisualized := shown }

end Bucket

end Bucket

end VoxelCache
