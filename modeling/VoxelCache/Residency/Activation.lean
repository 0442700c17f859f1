import VoxelCache.Residency.Refresh

/-!
# Activation of buckets

The set of active buckets is replaced as a whole.  Buckets that stay keep their
slots, the others give theirs up, and new buckets take the smallest slots that
are free.  If there are too few slots, nothing but the notices read before is
changed.
-/

namespace VoxelCache

section Activation

namespace Residency

/-- The first bucket of each identity, in order. -/
def distinct (s : Scene) : List BucketId → List BucketRef → List BucketRef
  | _, [] => []
  | seen, ref :: rest =>
      let id := (s.bucket ref).id
      if seen.contains id then
        distinct s seen rest
      else
        ref :: distinct s (id :: seen) rest

/-- Report a requested bucket that is collected already. -/
def reportCollected (s : Scene) (ref : BucketRef) : Scene :=
  let b := s.bucket ref
  if b.isCollected then
    s.log .debug
      s!"[texture_bucket_manager::set_active_buckets] Skipping collected bucket {b.address}"
  else
    s

/-- Requested buckets that are to be given a slot: neither collected nor active yet. -/
def arriving (m : Residency) (s : Scene) (requested : List BucketRef) : List BucketRef :=
  requested.filter fun ref =>
    !(s.bucket ref).isCollected && !m.isActive (s.bucket ref).id

/-- Active buckets that are not requested any more. -/
def leaving (m : Residency) (s : Scene) (requested : List BucketRef) : List BucketId :=
  let ids := requested.map fun ref => (s.bucket ref).id
  (m.active.map (·.id)).filter fun id => !ids.contains id

/-- Whether the free slots and those given up are enough for the new buckets. -/
def hasRoom (m : Residency) (s : Scene) (requested : List BucketRef) : Bool :=
  (m.arriving s requested).length ≤ m.free.length + (m.leaving s requested).length

/-- The fault that there are too few slots. -/
def exhausted (m : Residency) (requested : List BucketRef) : Fault :=
  .capacityExhausted m.capacity requested.length

/-- Take the slots of some buckets away. -/
def releaseAll (m : Residency) (s : Scene) (ids : List BucketId) : Residency × Scene :=
  ids.foldl (fun state id => state.1.release state.2 id) (m, s)

/-- Give new buckets slots, the smallest free slot to the first, until there are none left. -/
def reserveAll (m : Residency) (s : Scene) (fault : Fault) :
    List BucketRef → Except Fault Unit × Residency × Scene
  | [] => (.ok (), m, s)
  | ref :: rest =>
      match m.free with
      | [] => (.error fault, m, s)
      | slot :: free =>
          let (m, s) := { m with free := free }.reserve s ref slot
          m.reserveAll s fault rest

/-- Replace the active buckets by requested ones, each named once, if there is room. -/
def occupy (m : Residency) (s : Scene) (requested : List BucketRef) (anchor : Address) :
    Except Fault Unit × Residency × Scene :=
  if m.hasRoom s requested then
    let arriving := m.arriving s requested
    let (m, s) := releaseAll { m with anchor := anchor } s (m.leaving s requested)
    m.reserveAll s (m.exhausted requested) arriving
  else
    (.error (m.exhausted requested), m,
      s.log .error
        (s!"[texture_bucket_manager::set_active_buckets] {requested.length} buckets requested " ++
          s!"but only {m.capacity} slots exist"))

/--
Make some buckets the active ones and rebuild the look-up entries around an
anchor.  Buckets that are named twice count once, and collected buckets are
passed over.
-/
def activate
    (m : Residency) (s : Scene) (outside : BucketRef → Bool)
    (refs : List BucketRef) (anchor : Address) :
    Except Fault Unit × Residency × Scene :=
  let (m, s) := m.readNotices s
  let requested := distinct s [] refs
  match m.occupy (requested.foldl reportCollected s) requested anchor with
  | (.error fault, m, s) => (.error fault, m, s)
  | (.ok _, m, s) => m.refresh s outside

/-- Give up all active buckets. -/
def clear (m : Residency) (s : Scene) (outside : BucketRef → Bool) :
    Except Fault Unit × Residency × Scene :=
  m.activate s outside [] .origin

end Residency

end Activation

end VoxelCache
