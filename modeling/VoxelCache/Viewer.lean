import VoxelCache.Camera
import VoxelCache.FlightView
import VoxelCache.Pool
import VoxelCache.Requests
import VoxelCache.Residency.Commit
import VoxelCache.TexturePlan

/-!
# Viewers

A viewer flies a camera through one layer of data.  It owns a pool, the pending
requests, and the residency on the device, and holds the buckets that the last
update made active.

**Update.**  The buckets in view are obtained from the pool and made active; the
requests are replaced by those of their addresses that nobody has asked for yet.

**Loading.**  A loader takes addresses, most urgent first, and later delivers a
payload for each.  An address is handed out only while its bucket is unrequested,
and handing it out marks the bucket as loading.
-/

namespace VoxelCache

section Viewer

/-- The state of one viewer. -/
structure Viewer where
  settings : Settings
  pool : Pool
  requests : Requests
  residency : Residency
  /-- The buckets that the last update made active. -/
  active : List BucketRef

namespace Viewer

/-- A viewer that has not looked at anything yet. -/
def create (s : Scene) (settings : Settings) (pyramid : Pyramid Float) (plan : TexturePlan) :
    Except Fault Viewer × Scene :=
  match Residency.create s plan.size plan.count plan.packing settings with
  | (.error fault, s) => (.error fault, s)
  | (.ok residency, s) =>
      (.ok ⟨settings, .create pyramid, .empty, residency, []⟩, s)

/-- A viewer is created whenever its residency is. -/
theorem create_eq_ok
    {s s' : Scene} {settings : Settings} {pyramid : Pyramid Float} {plan : TexturePlan}
    {v : Viewer}
    (h : create s settings pyramid plan = (.ok v, s')) :
    ∃ m, Residency.create s plan.size plan.count plan.packing settings = (.ok m, s') ∧
      v = ⟨settings, .create pyramid, .empty, m, []⟩ := by
  rcases hresidency : Residency.create s plan.size plan.count plan.packing settings with
    ⟨outcome, s''⟩
  cases outcome with
  | error fault =>
      simp only [create, hresidency] at h
      cases h
  | ok m =>
      simp only [create, hresidency] at h
      cases h
      exact ⟨m, rfl, rfl⟩

/-- Whether the viewer holds a bucket. -/
def holds (v : Viewer) (ref : BucketRef) : Bool :=
  v.pool.holds ref || v.residency.holds ref || v.active.contains ref

/-- Create the textures. -/
def setUp (v : Viewer) (s : Scene) (factory : Factory) (bytes : Nat) :
    Except Fault Unit × Viewer × Scene :=
  let (outcome, residency, s) := v.residency.setUp s factory bytes
  (outcome, { v with residency := residency }, s)

section Update

/-- Obtain the bucket of an address, and request it if nobody has asked for it yet. -/
def request (v : Viewer) (s : Scene) (a : Address) :
    Except Fault BucketRef × Viewer × Scene :=
  match v.pool.obtain s a with
  | (.error fault, pool, s) => (.error fault, { v with pool := pool }, s)
  | (.ok ref, pool, s) =>
      let requests :=
        if (s.bucket ref).state = .unrequested then
          (v.requests.enqueue a FlightView.priority).2
        else
          v.requests
      (.ok ref, { v with pool := pool, requests := requests }, s)

/-- Obtain and request the buckets of some addresses, in order. -/
def requestAll (v : Viewer) (s : Scene) :
    List Address → Except Fault (List BucketRef) × Viewer × Scene
  | [] => (.ok [], v, s)
  | a :: rest =>
      match v.request s a with
      | (.error fault, v, s) => (.error fault, v, s)
      | (.ok ref, v, s) =>
          match v.requestAll s rest with
          | (.error fault, v, s) => (.error fault, v, s)
          | (.ok refs, v, s) => (.ok (ref :: refs), v, s)

/-- The corner of the address window whose center is the cell of a position. -/
def anchorAt (v : Viewer) (position : Vec3 Float) (zoomStep : Nat) : Except Fault Address :=
  (v.pool.pyramid.addressAt position zoomStep).map fun center =>
    let extent := v.settings.addressSpace
    ⟨center.x - extent.x / 2, center.y - extent.y / 2, center.z - extent.z / 2, zoomStep⟩

/-- Make some buckets the active ones and hold them. -/
def activate
    (v : Viewer) (s : Scene) (outside : BucketRef → Bool)
    (refs : List BucketRef) (anchor : Address) :
    Except Fault Unit × Viewer × Scene :=
  let held := fun ref =>
    outside ref || v.pool.holds ref || v.active.contains ref || refs.contains ref
  match v.residency.activate s held refs anchor with
  | (.error fault, residency, s) => (.error fault, { v with residency := residency }, s)
  | (.ok _, residency, s) =>
      (.ok (),
        { v with residency := residency, active := refs },
        s.log .debug
          (s!"[session::update] {refs.length} active buckets at zoom step " ++
            s!"{anchor.zoomStep}, {v.requests.size} pulls pending"))

/--
Make the buckets in view of a camera active; `outside` tells which buckets are
held by somebody other than the viewer.
-/
def update (v : Viewer) (s : Scene) (outside : BucketRef → Bool) (camera : Camera) :
    Except Fault Unit × Viewer × Scene :=
  let pyramid := v.pool.pyramid
  let zoomStep := camera.requestZoomStep pyramid.length
  match FlightView.addresses pyramid v.settings.capRadius camera.query zoomStep
      (some v.residency.capacity) with
  | .error fault => (.error fault, v, s)
  | .ok addresses =>
      let report := FlightView.report addresses zoomStep
      let s := s.log report.level report.text
      match requestAll { v with requests := .empty } s addresses with
      | (.error fault, v, s) => (.error fault, v, s)
      | (.ok refs, v, s) =>
          match v.anchorAt camera.position zoomStep with
          | .error fault => (.error fault, v, s)
          | .ok anchor => v.activate s outside refs anchor

end Update

section Loading

/--
Take waiting addresses out in batches, and hand out those whose buckets are
unrequested, until `count` are handed out or none wait any more.  A batch has
as many addresses as are still wanted.
-/
def handOut (v : Viewer) (s : Scene) (count : Nat) : List Address × Viewer × Scene :=
  if count = 0 then
    ([], v, s)
  else if v.requests.size = 0 then
    ([], v, s)
  else
    let batch := v.requests.take count
    let (given, s) := v.pool.pullAll s batch.1
    let (more, v, s) := { v with requests := batch.2 }.handOut s (count - given.length)
    (given ++ more, v, s)
termination_by v.requests.size
decreasing_by
  simp only [Requests.size, Requests.take, List.length_drop] at *
  omega

/-- Hand out at most `count` addresses, or all of them, and mark their buckets as loading. -/
def take (v : Viewer) (s : Scene) (count : Option Nat) : List Address × Viewer × Scene :=
  v.handOut s (count.getD v.requests.size)

/-- Deliver a payload to the bucket at an address, if the pool has one. -/
def receive (v : Viewer) (s : Scene) (a : Address) (payload : Payload) : Bool × Scene :=
  v.pool.receive s a payload

end Loading

/-- The work of one frame on the device. -/
def tick
    (v : Viewer) (s : Scene) (outside : BucketRef → Bool) (allowance : Residency.Allowance) :
    Except Fault Nat × Viewer × Scene :=
  let held := fun ref => outside ref || v.pool.holds ref || v.active.contains ref
  let (outcome, residency, s) := v.residency.tick s held allowance
  (outcome, { v with residency := residency }, s)

/-- Reclaim the buckets that nobody needs any more. -/
def collectGarbage (v : Viewer) (s : Scene) (outside : BucketRef → Bool) :
    Nat × Viewer × Scene :=
  let held := fun ref => outside ref || v.residency.holds ref || v.active.contains ref
  let (collected, pool, s) := v.pool.collectGarbage s held
  (collected, { v with pool := pool }, s)

end Viewer

end Viewer

end VoxelCache
