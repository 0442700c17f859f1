import VoxelCache.Viewer

/-!
# Commands of the workbench

A command names buckets, mailboxes and subscriptions by names of the user's
choice.  Each command has an answer, and most also report the state of what they
acted on.
-/

namespace VoxelCache

section Command

/-- What happens to a bucket while it is relabeled. -/
inductive Meanwhile where
  | nothing
  | collect
  | receive (payload : Payload)
  /-- The payload is looked at. -/
  | read

/-- A command of the workbench. -/
inductive Command where
  | newBucket (name : String) (id : BucketId) (address : Address) (coarser : Option String)
  | drop (handle : String)
  | pull (handle : String)
  | receive (handle : String) (payload : Payload)
  | collect (handle : String)
  | visualize (handle : String) (shown : Bool)
  | label (handle : String) (edits : List Edit) (meanwhile : Meanwhile)
  | subscribe (handle mailbox : String) (name : Option String) (interest : Interest)
  | unsubscribe (handle subscription : String)
  | inspect (handle : String)
  | openMailbox (name : String)
  | drain (name : String)
  | closeMailbox (name : String)
  | newPool (pyramid : Pyramid Float)
  | poolFind (address : Address) (name : Option String)
  | poolObtain (address : Address) (name : Option String)
  | poolReceive (address : Address) (payload : Payload)
  | poolCollect (address : Address)
  | poolGarbage
  | newRasters (isReady : Bool)
  | setReady (isReady : Bool)
  | newTapes (updateFuse createFuse : Fuse)
  | newTexture (width channels : Nat) (component : Component)
  | updateTexture (index : Nat) (data : ByteArray) (rect : Rect)
  | inspectTexture (index : Nat)
  | countRasters
  | inspectRaster (index : Nat)
  | takeRecordings
  | newResidency (width textures packing : Nat) (settings : Settings)
  | setUp (bytes : Nat)
  | activate (handles : List String) (anchor : Address)
  | release (handle : String)
  | clear
  | tick
  | work (allowance : Residency.Allowance)
  | readNotices
  | refresh
  | listTextures
  | newViewer (pyramid : Pyramid Float) (plan : TexturePlan) (settings : Settings)
  | viewerSetUp (bytes : Nat)
  | viewerUpdate (camera : Camera)
  | viewerTake (count : Option Nat)
  | viewerLoad (count : Option Nat) (payload : Payload)
  | viewerReceive (address : Address) (payload : Payload)
  | viewerTick
  | viewerGarbage
  | viewerFind (address : Address) (name : Option String)

/-- What is told about a texture. -/
structure TextureView where
  width : Nat
  texelBytes : Nat
  isReady : Bool
  isRaster : Bool
deriving DecidableEq

/-- A bucket with the identity of the held bucket that stands in for it. -/
structure BucketView where
  bucket : Bucket
  coarser : Option BucketId

/-- What is told about a residency. -/
structure ResidencyView where
  stats : ResidencyStats
  anchor : Address
  lookUp : LookUp.Buffer

/-- The answer to a command. -/
inductive Answer where
  | done
  | flag (value : Bool)
  | count (value : Nat)
  | bucket (view : Option BucketView)
  | labeled (isLabeled : Bool) (seen : Option Payload)
  | subscribed (id : SubscriptionId)
  | notices (notices : List Notice)
  | addresses (addresses : List Address)
  | texture (view : TextureView)
  | textures (views : List TextureView)
  | raster (raster : Option Raster)
  | recordings (recordings : List Recording)
  | residency (capacity packing : Nat)
  | viewer (view : ResidencyView)

/-- The state of what a command acted on. -/
inductive Aftermath where
  | unreported
  | bucket (bucket : Bucket)
  | pool (size resolutions : Nat)
  | residency (view : ResidencyView)
  | viewer (view : ResidencyView) (pending poolSize : Nat)

/-- Everything that a command brings back. -/
structure Reply where
  outcome : Except Fault Answer
  aftermath : Aftermath

end Command

end VoxelCache
