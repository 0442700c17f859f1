import VoxelCache.Proofs.Bookkeeping
import VoxelCache.Proofs.Deeds

/-!
# Runs of a residency

A **world** is a residency on its scene, together with a chronicle of what was
written into the slots and for which buckets the look-up entries were rebuilt.
The chronicle has no part in what happens.  A **run** creates a residency and lets
operations and occurrences follow in any order.

**Results.**
* `mem_active_of_mem_writesOfPass`: a pass writes for nobody but active buckets.
* `Reachable.run`: operations that are admitted one after the other lead to a reachable world.
-/

namespace VoxelCache

section Writes

namespace Residency

/-- The owner for whose bucket a request wrote, if it wrote. -/
def writtenBy (m : Residency) (s : Scene) (r : WriteRequest) : List ActiveBucket :=
  match (m.commit s r).1 with
  | .ok true => (m.find? r.bucket).toList
  | _ => []

/-- The owners for whose buckets requests wrote, as in `commitAll`. -/
def writesOfAll (m : Residency) (s : Scene) (allowance : Allowance) :
    List WriteRequest → List ActiveBucket
  | [] => []
  | r :: rest =>
      if allowance.isUsedUp then
        []
      else
        match m.commit s r with
        | (.error _, _, _) => []
        | (.ok _, m', s') => m.writtenBy s r ++ m'.writesOfAll s' allowance.spend rest

/-- The owners for whose buckets a pass writes. -/
def writesOfPass (m : Residency) (s : Scene) (allowance : Allowance) : List ActiveBucket :=
  if m.isReady s then m.writesOfAll s allowance (newestPerSlot m.queue) else []

/-- A pass writes for nobody but active buckets. -/
theorem mem_active_of_mem_writesOfAll
    {m : Residency} {s : Scene} {allowance : Allowance} {queue : List WriteRequest}
    {a : ActiveBucket}
    (h : a ∈ m.writesOfAll s allowance queue) :
    a ∈ m.active := by
  induction queue generalizing m s allowance with
  | nil => cases h
  | cons r rest ih =>
      rw [writesOfAll] at h
      by_cases hused : allowance.isUsedUp = true
      · rw [if_pos hused] at h
        cases h
      · rw [if_neg hused] at h
        rcases m.commit_cases s r with
          ⟨_, hcommit, _⟩ | ⟨b, _, hb, _, _, ⟨_, _, _, hcommit⟩ | ⟨_, _, hcommit⟩⟩
        · have hwritten : m.writtenBy s r = [] := by simp [writtenBy, hcommit]
          simp only [hcommit, hwritten, List.nil_append] at h
          exact ih h
        · simp only [hcommit] at h
          cases h
        · have hwritten : m.writtenBy s r = [b] := by simp [writtenBy, hcommit, hb]
          simp only [hcommit, hwritten] at h
          rcases List.mem_append.mp h with h | h
          · rw [List.mem_singleton.mp h]
            exact (find?_eq_some hb).1
          · have hlater := ih h
            exact hlater

theorem mem_active_of_mem_writesOfPass
    {m : Residency} {s : Scene} {allowance : Allowance} {a : ActiveBucket}
    (h : a ∈ m.writesOfPass s allowance) :
    a ∈ m.active := by
  unfold writesOfPass at h
  split at h
  · exact mem_active_of_mem_writesOfAll h
  · cases h

end Residency

end Writes

section World

/-- What was written into the slots, and for whom the look-up entries were rebuilt. -/
structure Chronicle where
  /-- The owner of the slot at each successful write, the earliest first. -/
  writes : List ActiveBucket
  /-- The active buckets when the look-up entries were last rebuilt. -/
  owners : List ActiveBucket

namespace Chronicle

def blank : Chronicle :=
  ⟨[], []⟩

/-- For whom a slot was last written. -/
def lastWriter? (c : Chronicle) (slot : Nat) : Option ActiveBucket :=
  c.writes.reverse.find? fun a => a.slot == slot

/-- The chronicle after further writes. -/
def addWrites (c : Chronicle) (writes : List ActiveBucket) : Chronicle :=
  { c with writes := c.writes ++ writes }

end Chronicle

/-- A residency on its scene, with the chronicle of both. -/
structure World where
  residency : Residency
  scene : Scene
  chronicle : Chronicle

/--
An operation of the residency, or something that happens to the scene.  Where look-up
entries may be rebuilt, `outside` tells which buckets others hold at that time.
-/
inductive Operation where
  | occurrence (o : Occurrence)
  | setUp (factory : Factory) (bytes : Nat)
  | activate (outside : BucketRef → Bool) (refs : List BucketRef) (anchor : Address)
  | release (ref : BucketRef)
  | clear (outside : BucketRef → Bool)
  | readNotices
  | work (allowance : Residency.Allowance)
  | tick (outside : BucketRef → Bool) (allowance : Residency.Allowance)
  | refresh (outside : BucketRef → Bool)

namespace World

/-- Residency and scene after an operation. -/
def result (w : World) : Operation → Residency × Scene
  | .occurrence o => (w.residency, w.scene.occur o)
  | .setUp factory bytes => (w.residency.setUp w.scene factory bytes).2
  | .activate outside refs anchor => (w.residency.activate w.scene outside refs anchor).2
  | .release ref => w.residency.release w.scene (w.scene.bucket ref).id
  | .clear outside => (w.residency.clear w.scene outside).2
  | .readNotices => w.residency.readNotices w.scene
  | .work allowance => (w.residency.work w.scene allowance).2
  | .tick outside allowance => (w.residency.tick w.scene outside allowance).2
  | .refresh outside => (w.residency.refresh w.scene outside).2

/-- The owners for whose buckets an operation writes into slots, in order. -/
def writes (w : World) : Operation → List ActiveBucket
  | .work allowance => w.residency.writesOfPass w.scene allowance
  | .tick _ allowance =>
      let read := w.residency.readNotices w.scene
      read.1.writesOfPass read.2 allowance
  | _ => []

/-- Whether a request to replace the active buckets gets as far as the look-up entries. -/
def occupies (w : World) (refs : List BucketRef) (anchor : Address) : Bool :=
  let read := w.residency.readNotices w.scene
  let requested := Residency.distinct read.2 [] refs
  (read.1.occupy (requested.foldl Residency.reportCollected read.2) requested anchor).1.isOk

/-- Whether an operation rebuilds the look-up entries. -/
def rebuilds (w : World) : Operation → Bool
  | .activate _ refs anchor => w.occupies refs anchor
  | .clear _ => w.occupies [] .origin
  | .tick _ allowance =>
      let read := w.residency.readNotices w.scene
      let worked := read.1.work read.2 allowance
      worked.1.isOk && worked.2.1.isStale
  | .refresh _ => true
  | _ => false

/-- The world after an operation. -/
def step (w : World) (op : Operation) : World :=
  let after := w.result op
  ⟨after.1, after.2,
    ⟨w.chronicle.writes ++ w.writes op,
      if w.rebuilds op then after.1.active else w.chronicle.owners⟩⟩

theorem step_occurrence (w : World) (o : Occurrence) :
    w.step (.occurrence o) = { w with scene := w.scene.occur o } := by
  simp [step, result, writes, rebuilds]

theorem step_setUp (w : World) (factory : Factory) (bytes : Nat) :
    w.step (.setUp factory bytes) =
      ⟨(w.residency.setUp w.scene factory bytes).2.1,
        (w.residency.setUp w.scene factory bytes).2.2, w.chronicle⟩ := by
  simp [step, result, writes, rebuilds]

/-- A world after new textures differs in nothing but textures, uploads, device and journal. -/
theorem exists_step_setUp_eq (w : World) (factory : Factory) (bytes : Nat) :
    ∃ dataTextures lookUpTexture isPending device journal,
      w.step (.setUp factory bytes) =
        ⟨{ w.residency with
            dataTextures := dataTextures
            lookUpTexture := lookUpTexture
            isUploadPending := isPending },
          { w.scene with device := device, journal := journal }, w.chronicle⟩ := by
  obtain ⟨dataTextures, lookUpTexture, isPending, device, journal, hsetUp⟩ :=
    w.residency.exists_setUp_eq w.scene factory bytes
  rw [w.step_setUp, hsetUp]
  exact ⟨dataTextures, lookUpTexture, isPending, device, journal, rfl⟩

end World

namespace Operation

/-- Whether an operation names only buckets that exist. -/
def Names (s : Scene) : Operation → Prop
  | .occurrence (.deed ref _) => ref < s.buckets.size
  | .activate _ refs _ => ∀ ref ∈ refs, ref < s.buckets.size
  | .release ref => ref < s.buckets.size
  | _ => True

end Operation

/-- The worlds that runs lead to: a residency is created, and allowed operations follow. -/
inductive Reachable (allowed : World → Operation → Prop) (s₀ : Scene) : World → Prop
  | create {width textures packing : Nat} {settings : Settings} {m : Residency} {s : Scene} :
      Residency.create s₀ width textures packing settings = (.ok m, s) →
      Reachable allowed s₀ ⟨m, s, .blank⟩
  | step {w : World} {op : Operation} :
      Reachable allowed s₀ w →
      op.Names w.scene →
      allowed w op →
      Reachable allowed s₀ (w.step op)

theorem Reachable.mono
    {allowed allowed' : World → Operation → Prop} {s₀ : Scene} {w : World}
    (h : Reachable allowed s₀ w)
    (hallowed : ∀ w op, allowed w op → allowed' w op) :
    Reachable allowed' s₀ w := by
  induction h with
  | create hcreate => exact .create hcreate
  | step _ hnames hop ih => exact ih.step hnames (hallowed _ _ hop)

/-- Whether operations in a row are allowed and name only buckets that exist. -/
def World.Admits (allowed : World → Operation → Prop) : World → List Operation → Prop
  | _, [] => True
  | w, op :: rest => op.Names w.scene ∧ allowed w op ∧ Admits allowed (w.step op) rest

theorem World.Admits.append
    {allowed : World → Operation → Prop} {w : World} {ops later : List Operation}
    (h : w.Admits allowed ops)
    (h' : (ops.foldl World.step w).Admits allowed later) :
    w.Admits allowed (ops ++ later) := by
  induction ops generalizing w with
  | nil => exact h'
  | cons op rest ih => exact ⟨h.1, h.2.1, ih h.2.2 h'⟩

theorem Reachable.run
    {allowed : World → Operation → Prop} {s₀ : Scene} {w : World} {ops : List Operation}
    (h : Reachable allowed s₀ w)
    (hops : w.Admits allowed ops) :
    Reachable allowed s₀ (ops.foldl World.step w) := by
  induction ops generalizing w with
  | nil => exact h
  | cons op rest ih => exact ih (h.step hops.1 hops.2.1) hops.2.2

section Smallest

/-- Settings with a single look-up entry. -/
def Settings.smallest : Settings :=
  { Settings.standard with lookUpWidth := 1, addressSpace := ⟨1, 1, 1⟩ }

/-- A residency of two slots that was just created. -/
def World.smallest : World where
  residency :=
    { layout := ⟨256, 1, 1, 128, 2⟩
      settings := .smallest
      mailbox := 0
      active := []
      committed := []
      free := [0, 1]
      queue := []
      anchor := .origin
      lookUp := .blank 1
      isStale := false
      isUploadPending := false
      dataTextures := []
      lookUpTexture := none }
  scene := (Residency.create Scene.empty 256 1 1 .smallest).2
  chronicle := .blank

theorem create_smallest :
    Residency.create Scene.empty 256 1 1 .smallest =
      (.ok World.smallest.residency, World.smallest.scene) := by
  refine Prod.ext ?_ rfl
  have hcheck : Settings.smallest.check = .ok .smallest :=
    Settings.check_eq_ok_iff.mpr (by decide)
  rw [Residency.create, hcheck]
  rfl

theorem reachable_smallest (allowed : World → Operation → Prop) :
    Reachable allowed Scene.empty .smallest :=
  .create create_smallest

end Smallest

end World

end VoxelCache
