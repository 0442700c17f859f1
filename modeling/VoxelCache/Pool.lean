import VoxelCache.Scene

/-!
# Pools

A pool holds the buckets of one layer of data, one per address.  A bucket is
created when its address is first asked for; the coarser buckets that stand in
for it are created before it as far as they are missing.  Buckets that only the
pool holds are reclaimed, unless they are loading or stand in for a bucket that
stays.
-/

namespace VoxelCache

section Pool

/-- The buckets of one layer, in order of creation. -/
structure Pool where
  pyramid : Pyramid Float
  entries : List (Address × BucketRef)
  nextId : BucketId

namespace Pool

def create (pyramid : Pyramid Float) : Pool :=
  ⟨pyramid, [], 0⟩

def size (p : Pool) : Nat :=
  p.entries.length

/-- The bucket at an address. -/
def find? (p : Pool) (a : Address) : Option BucketRef :=
  p.entries.lookup a

theorem find?_eq_some
    {p : Pool} {a : Address} {ref : BucketRef}
    (h : p.find? a = some ref) :
    (a, ref) ∈ p.entries := by
  unfold find? at h
  obtain ⟨before, after, hentries, _⟩ := List.lookup_eq_some_iff.mp h
  rw [hentries]
  simp

/-- Where no address is entered twice, the entries are what is found. -/
theorem find?_iff_mem
    {p : Pool} {a : Address} {ref : BucketRef}
    (h : (p.entries.map (·.1)).Nodup) :
    p.find? a = some ref ↔ (a, ref) ∈ p.entries := by
  constructor
  · exact find?_eq_some
  · intro hmem
    obtain ⟨before, after, hentries⟩ := List.append_of_mem hmem
    refine List.lookup_eq_some_iff.mpr ⟨before, after, hentries, ?_⟩
    intro entry hentry
    rw [hentries, List.map_append, List.nodup_append] at h
    have hne := h.2.2 entry.1 (List.mem_map_of_mem hentry) a (by simp)
    simpa using Ne.symm hne

/-- Whether the pool holds a bucket. -/
def holds (p : Pool) (ref : BucketRef) : Bool :=
  p.entries.any fun entry => entry.2 == ref

theorem holds_iff
    {p : Pool} {ref : BucketRef} :
    p.holds ref = true ↔ ∃ a, (a, ref) ∈ p.entries := by
  simp [holds]

/-- Create the bucket of an address. -/
def add (p : Pool) (s : Scene) (a : Address) (coarser : Option BucketRef) :
    BucketRef × Pool × Scene :=
  let (ref, s) := s.addBucket (.create p.nextId a coarser)
  (ref, { p with entries := p.entries ++ [(a, ref)], nextId := p.nextId + 1 }, s)

/-- Create the bucket of an address above which the pool may hold some of the `coarser` ones. -/
def addChain (p : Pool) (s : Scene) (a : Address) (coarser : List Address) :
    BucketRef × Pool × Scene :=
  match coarser with
  | [] => p.add s a none
  | c :: rest =>
      match p.find? c with
      | some ref => p.add s a (some ref)
      | none =>
          let (ref, p, s) := p.addChain s c rest
          p.add s a (some ref)

/-- The bucket at an address, created if necessary. -/
def obtain (p : Pool) (s : Scene) (a : Address) : Except Fault BucketRef × Pool × Scene :=
  match p.find? a with
  | some ref => (.ok ref, p, s)
  | none =>
      match p.pyramid.resolution a.zoomStep with
      | .error fault => (.error fault, p, s)
      | .ok _ =>
          let (ref, p, s) := p.addChain s a (p.pyramid.coarserChain a)
          (.ok ref, p, s)

/-- Mark the bucket at an address as loading; the answer says whether it was unrequested. -/
def pull (p : Pool) (s : Scene) (a : Address) : Bool × Scene :=
  match p.find? a with
  | some ref => s.pull ref
  | none => (false, s)

/-- Mark the buckets at some addresses as loading; the answer has those that were unrequested. -/
def pullAll (p : Pool) (s : Scene) : List Address → List Address × Scene
  | [] => ([], s)
  | a :: rest =>
      let (pulled, s) := p.pull s a
      let (given, s) := p.pullAll s rest
      (if pulled then a :: given else given, s)

/-- Deliver a payload to the bucket at an address, if there is one. -/
def receive (p : Pool) (s : Scene) (a : Address) (payload : Payload) : Bool × Scene :=
  match p.find? a with
  | some ref => (true, s.receive ref payload)
  | none => (false, s)

/-- Reclaim the bucket at an address, whoever else holds it. -/
def collect (p : Pool) (s : Scene) (a : Address) : Bool × Pool × Scene :=
  match p.find? a with
  | some ref =>
      (true,
        { p with entries := p.entries.filter fun entry => entry.1 != a },
        s.collect ref)
  | none => (false, p, s)

section Garbage

/-- The buckets that keep themselves and their coarser buckets in the pool. -/
def roots (p : Pool) (s : Scene) (outside : BucketRef → Bool) : List BucketRef :=
  (p.entries.map (·.2)).filter fun ref =>
    outside ref || (s.bucket ref).state = .loading

/-- Whether a bucket still exists for those that name it without holding it. -/
def isAlive (p : Pool) (outside : BucketRef → Bool) (ref : BucketRef) : Bool :=
  outside ref || p.holds ref

/-- The marks of the buckets that stay: of the roots and of the chains above them. -/
def marks (p : Pool) (s : Scene) (outside : BucketRef → Bool) : List BucketId :=
  (p.roots s outside).foldl
    (fun marked root => s.markAbove (p.isAlive outside) ((s.bucket root).id :: marked) root) []

/-- Whether the bucket of an entry stays. -/
def stays (p : Pool) (s : Scene) (outside : BucketRef → Bool) (entry : Address × BucketRef) :
    Bool :=
  (p.marks s outside).contains (s.bucket entry.2).id

/--
Reclaim every bucket that does not stay; `outside` tells which buckets are held
by somebody other than the pool.  The answer is the number of reclaimed buckets.
-/
def collectGarbage (p : Pool) (s : Scene) (outside : BucketRef → Bool) :
    Nat × Pool × Scene :=
  let (stay, leave) := p.entries.partition (p.stays s outside)
  let s := leave.foldl (fun s entry => s.collect entry.2) s
  let s :=
    if leave.isEmpty then s
    else s.log .debug
      (s!"[bucket_pool::collect_garbage] Collected {leave.length} buckets, " ++
        s!"{stay.length} remain")
  (leave.length, { p with entries := stay }, s)

end Garbage

end Pool

end Pool

end VoxelCache
