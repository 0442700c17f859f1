import VoxelCache.Proofs.Alike
import VoxelCache.Proofs.Marking
import Mathlib.Logic.Relation

/-!
# The stock of a pool

A pool that has its scene for itself holds exactly the buckets of the scene that are not
collected, each at its address, and numbers them in the order in which they are created.

**Results.**
* `Stocked.find?_iff`: the pool finds the bucket that lives at an address, and no other.
* `Stocked.obtain`: an address of the pyramid is obtained without fail, and nothing that
  exists is changed by it.
* `Stocked.of_deed`: deeds that do not collect a bucket leave the stock in order.
* `Stocked.collectGarbage`: so does the reclaiming of buckets, and none is reclaimed that is
  loading or held by others.
-/

namespace VoxelCache

section Stock

/-- Whether the load state of a bucket agrees with its payload. -/
structure Bucket.IsConsistent (b : Bucket) : Prop where
  loaded : b.state = .loaded ↔ b.payload.isSome = true
  collected : b.isCollected = true → b.state = .unrequested

/-- Whether a bucket that is not collected lies at an address. -/
structure Scene.Lives (s : Scene) (a : Address) (ref : BucketRef) : Prop where
  lt : ref < s.buckets.size
  address : (s.bucket ref).address = a
  uncollected : (s.bucket ref).isCollected = false

/-- Whether a pool holds the buckets of a scene that are not collected, and nothing else. -/
structure Stocked (p : Pool) (s : Scene) : Prop where
  keys : (p.entries.map (·.1)).Nodup
  entries : ∀ a ref, (a, ref) ∈ p.entries ↔ s.Lives a ref
  nextId : p.nextId = s.buckets.size
  ids : ∀ ref < s.buckets.size, (s.bucket ref).id = ref
  consistent : ∀ ref, (s.bucket ref).IsConsistent

variable {p p' : Pool} {s s' s'' : Scene} {a b : Address} {ref : BucketRef}

theorem Bucket.isConsistent_create
    (id : BucketId) (address : Address) (coarser : Option BucketRef) :
    (Bucket.create id address coarser).IsConsistent := by
  constructor
  · simp [Bucket.create]
  · intro h
    cases h

theorem Scene.Lives.of_same
    (h : s.Lives a ref)
    (hsize : s.buckets.size ≤ s'.buckets.size)
    (hsame : Deed.SameBucket (s.bucket ref) (s'.bucket ref))
    (hcollected : (s'.bucket ref).isCollected = (s.bucket ref).isCollected) :
    s'.Lives a ref where
  lt := Nat.lt_of_lt_of_le h.lt hsize
  address := hsame.address.trans h.address
  uncollected := hcollected.trans h.uncollected

theorem Stocked.find?_iff
    (h : Stocked p s) :
    p.find? a = some ref ↔ s.Lives a ref := by
  rw [← h.entries]
  exact Pool.find?_iff_mem h.keys

theorem Stocked.find?_eq_none_iff
    (h : Stocked p s) :
    p.find? a = none ↔ ∀ ref, ¬ s.Lives a ref := by
  rw [Option.eq_none_iff_forall_ne_some]
  exact forall_congr' fun ref => not_congr h.find?_iff

/-- No two buckets live at the same address. -/
theorem Stocked.eq_of_lives
    {other : BucketRef}
    (h : Stocked p s)
    (hlives : s.Lives a ref)
    (hother : s.Lives a other) :
    other = ref := by
  have hfind := h.find?_iff.mpr hlives
  rw [h.find?_iff.mpr hother] at hfind
  exact Option.some.inj hfind

theorem Stocked.hasUniqueIds
    (h : Stocked p s) :
    ∀ i j, i < s.buckets.size → j < s.buckets.size →
      (s.bucket i).id = (s.bucket j).id → i = j := by
  intro i j hi hj hid
  rwa [h.ids i hi, h.ids j hj] at hid

/-- A pool that was just created is empty, as its scene is. -/
theorem stocked_create
    {pyramid : Pyramid Float}
    (h : s.buckets = #[]) :
    Stocked (.create pyramid) s where
  keys := .nil
  entries a ref := by
    constructor
    · intro hmem
      cases hmem
    · intro hlives
      have hlt := hlives.lt
      rw [h] at hlt
      exact absurd hlt (Nat.not_lt_zero _)
  nextId := by
    rw [h]
    rfl
  ids ref hlt := by
    rw [h] at hlt
    exact absurd hlt (Nat.not_lt_zero _)
  consistent ref := by
    have hdefault : s.bucket ref = default := by simp [Scene.bucket, h]
    rw [hdefault]
    exact Bucket.isConsistent_create _ _ _

/-- The stock is in order as long as no bucket is created or collected. -/
theorem Stocked.of_same
    (h : Stocked p s)
    (hsize : s'.buckets.size = s.buckets.size)
    (hsame : ∀ ref < s.buckets.size, Deed.SameBucket (s.bucket ref) (s'.bucket ref))
    (hcollected : ∀ ref, (s'.bucket ref).isCollected = (s.bucket ref).isCollected)
    (hconsistent : ∀ ref, (s'.bucket ref).IsConsistent) :
    Stocked p s' where
  keys := h.keys
  entries a ref := by
    rw [h.entries]
    constructor
    · intro hlives
      exact hlives.of_same (Nat.le_of_eq hsize.symm) (hsame ref hlives.lt) (hcollected ref)
    · rintro ⟨hlt, haddress, huncollected⟩
      rw [hsize] at hlt
      exact ⟨hlt, (hsame ref hlt).address.symm.trans haddress,
        (hcollected ref).symm.trans huncollected⟩
  nextId := h.nextId.trans hsize.symm
  ids ref hlt := by
    rw [hsize] at hlt
    exact (hsame ref hlt).id.trans (h.ids ref hlt)
  consistent := hconsistent

theorem Stocked.of_alike
    (h : Stocked p s)
    (halike : Scene.Alike s s') :
    Stocked p s' := by
  refine h.of_same halike.size (fun ref _ => halike.same ref) halike.isCollected ?_
  intro ref
  obtain ⟨hloaded, hcollected⟩ := h.consistent ref
  rw [← halike.state, ← halike.payload] at hloaded
  rw [← halike.state, ← halike.isCollected] at hcollected
  exact ⟨hloaded, hcollected⟩

end Stock

section Creation

/-- Whether a scene arises from another one by the creation of buckets. -/
abbrev Scene.Adds : Scene → Scene → Prop :=
  Relation.ReflTransGen fun s s' =>
    ∃ id address coarser, s' = (s.addBucket (.create id address coarser)).2

variable {p : Pool} {s s' : Scene} {a b : Address} {ref : BucketRef}

theorem Scene.Adds.extends
    (h : Scene.Adds s s') :
    Scene.Extends s s' := by
  induction h with
  | refl => exact .refl s
  | tail _ hlast ih =>
      obtain ⟨id, address, coarser, rfl⟩ := hlast
      exact ih.trans (Scene.extends_addBucket _ _)

/-- The creation of buckets changes nothing about those that exist. -/
theorem Scene.Adds.bucket
    (h : Scene.Adds s s')
    (hlt : ref < s.buckets.size) :
    s'.bucket ref = s.bucket ref := by
  induction h with
  | refl => rfl
  | tail hbefore hlast ih =>
      obtain ⟨id, address, coarser, rfl⟩ := hlast
      have hmid := Nat.lt_of_lt_of_le hlt (Scene.Adds.extends hbefore).size
      rw [Scene.bucket_addBucket_of_lt hmid, ih]

theorem Scene.Adds.device
    (h : Scene.Adds s s') :
    s'.device = s.device := by
  induction h with
  | refl => rfl
  | tail _ hlast ih =>
      obtain ⟨id, address, coarser, rfl⟩ := hlast
      exact ih

/-- Nobody has asked for a bucket that was just created. -/
theorem Scene.Adds.state
    (h : Scene.Adds s s')
    (hge : s.buckets.size ≤ ref) :
    (s'.bucket ref).state = .unrequested := by
  induction h with
  | refl => simp [Scene.bucket, hge, default, Bucket.create]
  | tail _ hlast ih =>
      obtain ⟨id, address, coarser, rfl⟩ := hlast
      rw [Scene.bucket_addBucket]
      split
      · rfl
      · exact ih

/-- A bucket that was just created is not collected. -/
theorem Scene.Adds.isCollected
    (h : Scene.Adds s s')
    (hge : s.buckets.size ≤ ref) :
    (s'.bucket ref).isCollected = false := by
  induction h with
  | refl => simp [Scene.bucket, hge, default, Bucket.create]
  | tail _ hlast ih =>
      obtain ⟨id, address, coarser, rfl⟩ := hlast
      rw [Scene.bucket_addBucket]
      split
      · rfl
      · exact ih

/-- What a pool is after a bucket was created in it. -/
theorem Stocked.add
    (h : Stocked p s)
    (hnew : p.find? a = none)
    (coarser : Option BucketRef) :
    Stocked (p.add s a coarser).2.1 (p.add s a coarser).2.2 ∧
      Scene.Adds s (p.add s a coarser).2.2 ∧
      (p.add s a coarser).2.1.find? a = some (p.add s a coarser).1 := by
  let new : Bucket := .create p.nextId a coarser
  have hadd : p.add s a coarser = (s.buckets.size,
      { p with entries := p.entries ++ [(a, s.buckets.size)], nextId := p.nextId + 1 },
      (s.addBucket new).2) := rfl
  have hsize : (s.addBucket new).2.buckets.size = s.buckets.size + 1 := by
    simp [Scene.addBucket]
  have hbucket := Scene.bucket_addBucket s new
  have hstocked : Stocked (p.add s a coarser).2.1 (p.add s a coarser).2.2 := by
    rw [hadd]
    constructor
    · rw [List.map_append, List.nodup_append]
      refine ⟨h.keys, by simp, ?_⟩
      rintro b hb c hc rfl
      obtain ⟨⟨b, ref⟩, hmem, rfl⟩ := List.mem_map.mp hb
      obtain rfl : b = a := by simpa using hc
      exact h.find?_eq_none_iff.mp hnew ref ((h.entries b ref).mp hmem)
    · intro b ref
      rw [List.mem_append, h.entries, List.mem_singleton, Prod.mk.injEq]
      constructor
      · rintro (hlives | ⟨rfl, rfl⟩)
        · have hold := Scene.bucket_addBucket_of_lt (b := new) hlives.lt
          refine ⟨?_, by rw [hold, hlives.address], by rw [hold, hlives.uncollected]⟩
          rw [hsize]
          exact Nat.lt_succ_of_lt hlives.lt
        · refine ⟨by rw [hsize]; exact Nat.lt_succ_self _, ?_, ?_⟩
          · rw [hbucket, if_pos rfl]
            rfl
          · rw [hbucket, if_pos rfl]
            rfl
      · rintro ⟨hlt, haddress, huncollected⟩
        rw [hsize] at hlt
        rw [hbucket] at haddress huncollected
        by_cases hlast : ref = s.buckets.size
        · rw [if_pos hlast] at haddress
          exact .inr ⟨haddress.symm, hlast⟩
        · rw [if_neg hlast] at haddress huncollected
          exact .inl ⟨Nat.lt_of_le_of_ne (Nat.le_of_lt_succ hlt) hlast, haddress, huncollected⟩
    · rw [hsize, h.nextId]
    · intro ref hlt
      rw [hsize] at hlt
      rw [hbucket]
      split
      · rename_i hlast
        rw [hlast]
        exact h.nextId
      · rename_i hlast
        exact h.ids ref (Nat.lt_of_le_of_ne (Nat.le_of_lt_succ hlt) hlast)
    · intro ref
      rw [hbucket]
      split
      · exact Bucket.isConsistent_create _ _ _
      · exact h.consistent ref
  refine ⟨hstocked, .single ⟨_, _, _, rfl⟩, ?_⟩
  rw [hstocked.find?_iff, ← hstocked.entries, hadd]
  simp

theorem Stocked.find?_add
    (h : Stocked p s)
    (hnew : p.find? a = none)
    (coarser : Option BucketRef)
    (hne : b ≠ a) :
    (p.add s a coarser).2.1.find? b = p.find? b := by
  obtain ⟨hstocked, hadds, hfound⟩ := h.add hnew coarser
  cases hfind : p.find? b with
  | some ref =>
      have hlives := h.find?_iff.mp hfind
      have hsame := hadds.bucket hlives.lt
      exact hstocked.find?_iff.mpr ⟨Nat.lt_of_lt_of_le hlives.lt hadds.extends.size,
        by rw [hsame, hlives.address], by rw [hsame, hlives.uncollected]⟩
  | none =>
      refine hstocked.find?_eq_none_iff.mpr ?_
      intro ref hlives
      have hmem := (hstocked.entries b ref).mpr hlives
      rcases List.mem_append.mp hmem with hold | hlast
      · exact h.find?_eq_none_iff.mp hfind ref ((h.entries b ref).mp hold)
      · obtain ⟨hsame, _⟩ := Prod.mk.inj (List.mem_singleton.mp hlast)
        exact hne hsame

/-- A chain of buckets is created from the coarsest one that is missing downwards. -/
theorem Stocked.addChain
    {coarser : List Address}
    (h : Stocked p s)
    (hnew : p.find? a = none)
    (hdistinct : (a :: coarser).Nodup) :
    let after := p.addChain s a coarser
    Stocked after.2.1 after.2.2 ∧ Scene.Adds s after.2.2 ∧
      after.2.1.find? a = some after.1 ∧
      after.2.1.pyramid = p.pyramid ∧
      ∀ b, b ∉ a :: coarser → after.2.1.find? b = p.find? b := by
  induction coarser generalizing p s a with
  | nil =>
      intro after
      obtain ⟨hstocked, hadds, hfound⟩ := h.add hnew none
      refine ⟨hstocked, hadds, hfound, rfl, ?_⟩
      intro b hb
      exact h.find?_add hnew none (List.ne_of_not_mem_cons hb)
  | cons c rest ih =>
      intro after
      obtain ⟨hother, hrest⟩ := List.nodup_cons.mp hdistinct
      cases hfind : p.find? c with
      | some ref =>
          have hafter : after = p.add s a (some ref) := by
            simp only [after, Pool.addChain, hfind]
          obtain ⟨hstocked, hadds, hfound⟩ := h.add hnew (some ref)
          rw [hafter]
          refine ⟨hstocked, hadds, hfound, rfl, ?_⟩
          intro b hb
          exact h.find?_add hnew (some ref) (List.ne_of_not_mem_cons hb)
      | none =>
          let above := p.addChain s c rest
          have hafter : after = above.2.1.add above.2.2 a (some above.1) := by
            simp only [after, Pool.addChain, hfind]
            rfl
          obtain ⟨hstocked, hadds, _, hpyramid, hothers⟩ := ih h hfind hrest
          have hstill : above.2.1.find? a = none := (hothers a hother).trans hnew
          obtain ⟨hstocked', hadds', hfound⟩ := hstocked.add hstill (some above.1)
          rw [hafter]
          refine ⟨hstocked', hadds.trans hadds', hfound, hpyramid, ?_⟩
          intro b hb
          rw [hstocked.find?_add hstill _ (List.ne_of_not_mem_cons hb)]
          exact hothers b fun hmem => hb (List.mem_cons_of_mem _ hmem)

/-- The bucket of an address of the pyramid is obtained, and it lives there. -/
theorem Stocked.obtain
    (h : Stocked p s)
    (hzoom : a.zoomStep < p.pyramid.length) :
    ∃ ref p' s', p.obtain s a = (.ok ref, p', s') ∧
      Stocked p' s' ∧ Scene.Adds s s' ∧ s'.Lives a ref ∧ p'.pyramid = p.pyramid := by
  cases hfind : p.find? a with
  | some ref =>
      refine ⟨ref, p, s, ?_, h, .refl, h.find?_iff.mp hfind, rfl⟩
      simp only [Pool.obtain, hfind]
  | none =>
      obtain ⟨hstocked, hadds, hfound, hpyramid, _⟩ :=
        h.addChain hfind (p.pyramid.nodup_coarserChain a)
      have hresolution : p.pyramid.resolution a.zoomStep = .ok p.pyramid[a.zoomStep] :=
        Pyramid.resolution_eq_ok_iff.mpr (List.getElem?_eq_getElem hzoom)
      refine ⟨_, _, _, ?_, hstocked, hadds, hstocked.find?_iff.mp hfound, hpyramid⟩
      simp only [Pool.obtain, hfind, hresolution]

theorem Scene.Adds.lives
    (h : Scene.Adds s s')
    (hlives : s.Lives a ref) :
    s'.Lives a ref := by
  refine hlives.of_same h.extends.size (h.extends.same ref hlives.lt) ?_
  rw [h.bucket hlives.lt]

end Creation

section Deeds

variable {p : Pool} {s : Scene} {a : Address} {ref : BucketRef}

theorem Bucket.IsConsistent.pull
    {b : Bucket}
    (h : b.IsConsistent) :
    b.pull.2.IsConsistent := by
  unfold Bucket.pull
  split
  · rename_i hpulled
    refine ⟨?_, ?_⟩
    · have hnone : ¬ b.payload.isSome = true := by
        rw [← h.loaded, hpulled.1]
        simp
      simpa using hnone
    · intro hcollected
      rw [hpulled.2] at hcollected
      cases hcollected
  · exact h

theorem Bucket.IsConsistent.receive
    {b : Bucket}
    (h : b.IsConsistent)
    (payload : Payload) :
    (b.receive payload).1.IsConsistent := by
  cases hopen : b.isCollected with
  | true =>
      rw [Bucket.receive_of_isCollected hopen]
      exact h
  | false =>
      constructor
      · simp [Bucket.payload_receive hopen, Bucket.state_receive hopen]
      · intro hcollected
        rw [Bucket.isCollected_receive, hopen] at hcollected
        cases hcollected

theorem Bucket.IsConsistent.collect
    {b : Bucket}
    (h : b.IsConsistent) :
    b.collect.1.IsConsistent := by
  cases hopen : b.isCollected with
  | true =>
      rw [Bucket.collect_of_isCollected hopen]
      exact h
  | false =>
      constructor
      · simp [Bucket.collect, hopen, Bucket.announce]
      · simp [Bucket.collect, hopen, Bucket.announce]

theorem Stocked.of_deed
    {deed : Deed}
    (h : Stocked p s)
    (hlt : ref < s.buckets.size)
    (hcollected : (deed.perform (s.bucket ref)).1.isCollected = (s.bucket ref).isCollected)
    (hconsistent : (deed.perform (s.bucket ref)).1.IsConsistent) :
    Stocked p (s.deed ref deed) := by
  have hextends := Scene.extends_occur s (.deed ref deed)
  refine h.of_same (Scene.size_deed s ref deed) hextends.same ?_ ?_
  · intro other
    by_cases hsame : other = ref
    · rw [hsame, Scene.bucket_deed_self deed hlt, hcollected]
    · rw [Scene.bucket_deed_of_ne deed hsame]
  · intro other
    by_cases hsame : other = ref
    · rw [hsame, Scene.bucket_deed_self deed hlt]
      exact hconsistent
    · rw [Scene.bucket_deed_of_ne deed hsame]
      exact h.consistent other

theorem Bucket.isCollected_pull (b : Bucket) : b.pull.2.isCollected = b.isCollected := by
  unfold Bucket.pull
  split <;> rfl

theorem Stocked.pull
    (h : Stocked p s)
    (hlt : ref < s.buckets.size) :
    Stocked p (s.deed ref .pull) :=
  h.of_deed hlt (Bucket.isCollected_pull _) (h.consistent ref).pull

theorem Stocked.receive
    (h : Stocked p s)
    (hlt : ref < s.buckets.size)
    (payload : Payload) :
    Stocked p (s.deed ref (.receive payload)) := by
  refine h.of_deed hlt ?_ ?_
  · rw [Deed.perform]
    exact Bucket.isCollected_receive _ payload
  · rw [Deed.perform]
    exact (h.consistent ref).receive payload

end Deeds

section Garbage

variable {p : Pool} {s : Scene} {a : Address} {ref : BucketRef} {refs : List BucketRef}

/-- Collect some buckets. -/
def Scene.collectAll (s : Scene) (refs : List BucketRef) : Scene :=
  refs.foldl (fun s ref => s.deed ref .collect) s

theorem Bucket.collect_collect (b : Bucket) : b.collect.1.collect.1 = b.collect.1 := by
  rw [Bucket.collect_of_isCollected (Bucket.isCollected_collect b)]

theorem Scene.size_collectAll (s : Scene) (refs : List BucketRef) :
    (s.collectAll refs).buckets.size = s.buckets.size := by
  induction refs generalizing s with
  | nil => rfl
  | cons ref rest ih => exact (ih _).trans (Scene.size_deed s ref .collect)

theorem Scene.extends_collectAll
    (s : Scene) (refs : List BucketRef) :
    Scene.Extends s (s.collectAll refs) := by
  induction refs generalizing s with
  | nil => exact .refl s
  | cons ref rest ih => exact (Scene.extends_occur s (.deed ref .collect)).trans (ih _)

/-- What one collection leaves is left by all of them. -/
theorem Scene.collectAll_induction
    {motive : Scene → Prop}
    (hcollect : ∀ s ref, ref < s.buckets.size → motive s → motive (s.deed ref .collect))
    (h : motive s)
    (hlt : ∀ ref ∈ refs, ref < s.buckets.size) :
    motive (s.collectAll refs) := by
  induction refs generalizing s with
  | nil => exact h
  | cons ref rest ih =>
      refine ih (hcollect s ref (hlt ref List.mem_cons_self) h) ?_
      intro other hother
      rw [Scene.size_deed]
      exact hlt other (List.mem_cons_of_mem ref hother)

theorem Scene.bucket_collectAll
    (hlt : ∀ ref ∈ refs, ref < s.buckets.size)
    (other : BucketRef) :
    (s.collectAll refs).bucket other =
      if other ∈ refs then (s.bucket other).collect.1 else s.bucket other := by
  induction refs generalizing s with
  | nil => simp [collectAll]
  | cons ref rest ih =>
      have hrest := ih (s := s.deed ref .collect) (by
        intro later hlater
        rw [Scene.size_deed]
        exact hlt later (List.mem_cons_of_mem _ hlater))
      have hfold : s.collectAll (ref :: rest) = (s.deed ref .collect).collectAll rest := rfl
      rw [hfold, hrest]
      by_cases hsame : other = ref
      · subst hsame
        have hself : (s.deed other .collect).bucket other = (s.bucket other).collect.1 :=
          Scene.bucket_deed_self .collect (hlt other List.mem_cons_self)
        rw [hself, Bucket.collect_collect, if_pos List.mem_cons_self]
        split <;> rfl
      · rw [Scene.bucket_deed_of_ne _ hsame]
        simp only [List.mem_cons, hsame, false_or]

/-- A pool that lets go of the buckets that are collected stays in order. -/
theorem Stocked.collectAll
    {isKept : Address × BucketRef → Bool}
    (h : Stocked p s)
    (hlt : ∀ ref ∈ refs, ref < s.buckets.size)
    (hkept : ∀ entry ∈ p.entries, isKept entry = true ↔ entry.2 ∉ refs) :
    Stocked { p with entries := p.entries.filter isKept } (s.collectAll refs) := by
  have hsize := Scene.size_collectAll s refs
  have hbucket := Scene.bucket_collectAll hlt
  constructor
  · exact h.keys.sublist (List.filter_sublist.map _)
  · intro a ref
    rw [List.mem_filter]
    constructor
    · rintro ⟨hmem, hstays⟩
      have hlives := (h.entries a ref).mp hmem
      have hsame := hbucket ref
      rw [if_neg ((hkept (a, ref) hmem).mp hstays)] at hsame
      exact ⟨hsize.symm ▸ hlives.lt, by rw [hsame, hlives.address],
        by rw [hsame, hlives.uncollected]⟩
    · rintro ⟨hexist, haddress, huncollected⟩
      rw [hsize] at hexist
      rw [hbucket] at haddress huncollected
      by_cases href : ref ∈ refs
      · rw [if_pos href, Bucket.isCollected_collect] at huncollected
        cases huncollected
      · rw [if_neg href] at haddress huncollected
        have hmem := (h.entries a ref).mpr ⟨hexist, haddress, huncollected⟩
        exact ⟨hmem, (hkept (a, ref) hmem).mpr href⟩
  · exact h.nextId.trans hsize.symm
  · intro ref hexist
    rw [hsize] at hexist
    rw [hbucket]
    split
    · exact (Deed.perform_identity .collect (s.bucket ref)).id.trans (h.ids ref hexist)
    · exact h.ids ref hexist
  · intro ref
    rw [hbucket]
    split
    · exact (h.consistent ref).collect
    · exact h.consistent ref

/-- The buckets that a pool lets go of when it reclaims what does not stay. -/
def Pool.garbage (p : Pool) (s : Scene) (outside : BucketRef → Bool) : List BucketRef :=
  (p.entries.filter fun entry => !p.stays s outside entry).map (·.2)

theorem Pool.mem_garbage_iff
    {outside : BucketRef → Bool} :
    ref ∈ p.garbage s outside ↔
      ∃ a, (a, ref) ∈ p.entries ∧ p.stays s outside (a, ref) = false := by
  simp [garbage]

theorem Pool.stays_iff_not_mem_garbage
    {outside : BucketRef → Bool} {entry : Address × BucketRef}
    (hmem : entry ∈ p.entries) :
    p.stays s outside entry = true ↔ entry.2 ∉ p.garbage s outside := by
  rw [mem_garbage_iff]
  constructor
  · rintro hkept ⟨b, _, hlost⟩
    have hlost : p.stays s outside entry = false := hlost
    rw [hkept] at hlost
    cases hlost
  · intro hlost
    by_contra hgone
    exact hlost ⟨entry.1, hmem, Bool.eq_false_iff.mpr hgone⟩

/-- Where identities tell the buckets apart, the garbage is what the pool holds without need. -/
theorem Pool.mem_garbage_iff_not_needs
    {outside : BucketRef → Bool} {known : BucketRef → Prop}
    (hseparates : s.Separates (p.isAlive outside) known)
    (hentries : ∀ entry ∈ p.entries, known entry.2) :
    ref ∈ p.garbage s outside ↔ p.holds ref = true ∧ ¬ p.Needs s outside ref := by
  rw [mem_garbage_iff, holds_iff]
  constructor
  · rintro ⟨a, hmem, hleaves⟩
    refine ⟨⟨a, hmem⟩, fun hneeds => ?_⟩
    rw [(stays_iff_needs hseparates hentries hmem).mpr hneeds] at hleaves
    cases hleaves
  · rintro ⟨⟨a, hmem⟩, hnot⟩
    exact ⟨a, hmem, Bool.eq_false_iff.mpr fun hkept =>
      hnot ((stays_iff_needs hseparates hentries hmem).mp hkept)⟩

/-- In a scene that a pool has for itself, identities tell all buckets apart. -/
theorem Stocked.separates
    (h : Stocked p s)
    (held : BucketRef → Bool) :
    s.Separates held (· < s.buckets.size) where
  ids i j hi hj hid := h.hasUniqueIds i j hi hj hid
  coarser _ _ hlt hsome := Nat.lt_trans (Scene.lt_of_coarser? hsome) hlt

theorem Stocked.stays_iff
    {outside : BucketRef → Bool}
    (h : Stocked p s)
    (hmem : (a, ref) ∈ p.entries) :
    p.stays s outside (a, ref) = true ↔ p.Needs s outside ref :=
  Pool.stays_iff_needs (h.separates _)
    (fun entry hentry => ((h.entries entry.1 entry.2).mp hentry).lt) hmem

theorem Stocked.mem_garbage_iff
    {outside : BucketRef → Bool}
    (h : Stocked p s) :
    ref ∈ p.garbage s outside ↔ p.holds ref = true ∧ ¬ p.Needs s outside ref :=
  Pool.mem_garbage_iff_not_needs (h.separates _) fun entry hmem =>
    ((h.entries entry.1 entry.2).mp hmem).lt

/-- The garbage is counted and collected, and the pool keeps what stays. -/
theorem Pool.collectGarbage_eq
    (p : Pool) (s : Scene) (outside : BucketRef → Bool) :
    ∃ journal, p.collectGarbage s outside =
      ((p.garbage s outside).length,
        { p with entries := p.entries.filter (p.stays s outside) },
        { s.collectAll (p.garbage s outside) with journal := journal }) ∧
      (p.garbage s outside = [] → journal = s.journal) := by
  let garbage := p.entries.filter fun entry => !p.stays s outside entry
  have hfold : s.collectAll (p.garbage s outside) =
      garbage.foldl (fun s entry => s.collect entry.2) s := by
    rw [Scene.collectAll, Pool.garbage, List.foldl_map]
    rfl
  have hlength : (p.garbage s outside).length = garbage.length := by
    rw [Pool.garbage, List.length_map]
  have hpartition : p.entries.partition (p.stays s outside) =
      (p.entries.filter (p.stays s outside), garbage) := List.partition_eq_filter_filter ..
  simp only [Pool.collectGarbage, hpartition]
  rw [hfold, hlength]
  split
  · rename_i hnone
    refine ⟨_, rfl, fun _ => ?_⟩
    rw [List.isEmpty_iff.mp hnone]
    rfl
  · rename_i hsome
    refine ⟨_, rfl, fun hnone => ?_⟩
    rw [hnone, List.length_nil, eq_comm, List.length_eq_zero_iff] at hlength
    exact absurd (List.isEmpty_iff.mpr hlength) hsome

/-- The buckets that are reclaimed are collected, and the pool keeps the others. -/
theorem Stocked.collectGarbage
    (h : Stocked p s)
    (outside : BucketRef → Bool) :
    ∃ refs journal,
      (p.collectGarbage s outside).2.2 = { s.collectAll refs with journal := journal } ∧
      (p.collectGarbage s outside).2.1.pyramid = p.pyramid ∧
      Stocked (p.collectGarbage s outside).2.1 (p.collectGarbage s outside).2.2 ∧
      ∀ ref ∈ refs, ref < s.buckets.size ∧ outside ref = false ∧
        (s.bucket ref).state ≠ .loading := by
  obtain ⟨journal, hafter, -⟩ := p.collectGarbage_eq s outside
  have hlt : ∀ ref ∈ p.garbage s outside, ref < s.buckets.size := by
    intro ref href
    obtain ⟨a, hmem, _⟩ := Pool.mem_garbage_iff.mp href
    exact ((h.entries a ref).mp hmem).lt
  rw [hafter]
  refine ⟨p.garbage s outside, journal, rfl, rfl, ?_, ?_⟩
  · have hcollected := h.collectAll hlt fun _ hmem => Pool.stays_iff_not_mem_garbage hmem
    exact hcollected.of_alike (Scene.alike_of_buckets rfl)
  · intro ref href
    obtain ⟨a, hmem, hlost⟩ := Pool.mem_garbage_iff.mp href
    exact ⟨hlt ref href, Pool.not_isRoot_of_stays_eq_false hmem hlost⟩

end Garbage

end VoxelCache
