import VoxelCache.Viewer
import VoxelCache.Proofs.Stock
import Mathlib.Data.List.Perm.Subperm

/-!
# Handing out addresses

A loader is given waiting addresses in order, except those whose buckets have received a
payload while they waited.  The viewer takes them out in batches: a batch that turns out to
have obsolete addresses is followed by another one.

**Results.**
* `Stocked.pullAll_fst`: of some addresses, those are pulled that nobody has asked for yet.
* `exists_handsOut`: the batches together take the shortest sufficient front of the queue.
* `HandsOut.given`: what is handed out are the first addresses that are still unrequested.
-/

namespace VoxelCache

section Pulling

/-- Whether nobody has asked for the bucket at an address yet. -/
def Pool.isUnrequested (p : Pool) (s : Scene) (a : Address) : Bool :=
  (p.find? a).any fun ref => (s.bucket ref).state = .unrequested

variable {p : Pool} {s : Scene} {a b : Address} {ref : BucketRef} {addresses : List Address}

theorem Pool.isUnrequested_of_find?
    (h : p.find? a = some ref) :
    p.isUnrequested s a = true ↔ (s.bucket ref).state = .unrequested := by
  simp [isUnrequested, h]

theorem Pool.isUnrequested_iff :
    p.isUnrequested s a = true ↔
      ∃ ref, p.find? a = some ref ∧ (s.bucket ref).state = .unrequested := by
  simp [isUnrequested, Option.any_eq_true]

theorem Pool.pull_of_find?
    (h : p.find? a = some ref) :
    p.pull s a = ((s.bucket ref).pull.1, s.deed ref .pull) := by
  simp only [pull, h]
  rfl

theorem Pool.pull_of_find?_eq_none
    (h : p.find? a = none) :
    p.pull s a = (false, s) := by
  simp only [pull, h]

/-- Nothing happens where no unrequested bucket is. -/
theorem Pool.pull_of_not_isUnrequested
    (h : p.isUnrequested s a = false) :
    p.pull s a = (false, s) := by
  cases hfind : p.find? a with
  | none => exact pull_of_find?_eq_none hfind
  | some ref =>
      have hstate : (s.bucket ref).state ≠ .unrequested := by
        intro hstate
        rw [(isUnrequested_of_find? hfind).mpr hstate] at h
        cases h
      have hpull : (s.bucket ref).pull = (false, s.bucket ref) := by
        simp [Bucket.pull, hstate]
      simp only [pull, hfind, Scene.pull, hpull, Scene.setBucket_self]

/-- Exactly the unrequested buckets can be pulled, as the pool has none that is collected. -/
theorem Stocked.pull_fst
    (h : Stocked p s)
    (a : Address) :
    (p.pull s a).1 = p.isUnrequested s a := by
  cases hfind : p.find? a with
  | none =>
      rw [Pool.pull_of_find?_eq_none hfind]
      simp [Pool.isUnrequested, hfind]
  | some ref =>
      rw [Pool.pull_of_find? hfind, Bool.eq_iff_iff, Pool.isUnrequested_of_find? hfind,
        Bucket.pull_fst_iff]
      exact and_iff_left (h.find?_iff.mp hfind).uncollected

theorem Stocked.pullAt
    (h : Stocked p s)
    (a : Address) :
    Stocked p (p.pull s a).2 := by
  cases hfind : p.find? a with
  | none =>
      rw [Pool.pull_of_find?_eq_none hfind]
      exact h
  | some ref =>
      rw [Pool.pull_of_find? hfind]
      exact h.pull (h.find?_iff.mp hfind).lt

/-- A pull at one address does not concern the others. -/
theorem Stocked.isUnrequested_pull_of_ne
    (h : Stocked p s)
    (hne : b ≠ a) :
    p.isUnrequested (p.pull s a).2 b = p.isUnrequested s b := by
  cases hfind : p.find? a with
  | none => rw [Pool.pull_of_find?_eq_none hfind]
  | some ref =>
      rw [Pool.pull_of_find? hfind]
      cases hother : p.find? b with
      | none => simp [Pool.isUnrequested, hother]
      | some other =>
          have hdifferent : other ≠ ref := by
            rintro rfl
            apply hne
            rw [← (h.find?_iff.mp hother).address, (h.find?_iff.mp hfind).address]
          simp only [Pool.isUnrequested, hother, Option.any_some,
            Scene.bucket_deed_of_ne _ hdifferent]

theorem Stocked.pullAll
    (h : Stocked p s)
    (addresses : List Address) :
    Stocked p (p.pullAll s addresses).2 := by
  induction addresses generalizing s with
  | nil => exact h
  | cons a rest ih => exact ih (h.pullAt a)

/-- What one pull leaves is left by all of them. -/
theorem Stocked.pullAll_induction
    {motive : Scene → Prop}
    (h : Stocked p s)
    (hpull : ∀ s ref, ref < s.buckets.size → motive s → motive (s.deed ref .pull))
    (hs : motive s)
    (addresses : List Address) :
    motive (p.pullAll s addresses).2 := by
  induction addresses generalizing s with
  | nil => exact hs
  | cons a rest ih =>
      have hfirst : motive (p.pull s a).2 := by
        cases hfind : p.find? a with
        | none =>
            rw [Pool.pull_of_find?_eq_none hfind]
            exact hs
        | some ref =>
            rw [Pool.pull_of_find? hfind]
            exact hpull s ref (h.find?_iff.mp hfind).lt hs
      exact ih (h.pullAt a) hfirst

theorem Stocked.isUnrequested_pullAll
    (h : Stocked p s)
    (hb : b ∉ addresses) :
    p.isUnrequested (p.pullAll s addresses).2 b = p.isUnrequested s b := by
  induction addresses generalizing s with
  | nil => rfl
  | cons a rest ih =>
      have hrest := ih (h.pullAt a) fun hmem => hb (List.mem_cons_of_mem a hmem)
      exact hrest.trans (h.isUnrequested_pull_of_ne (List.ne_of_not_mem_cons hb))

/-- Of some addresses, those are pulled that nobody has asked for yet. -/
theorem Stocked.pullAll_fst
    (h : Stocked p s)
    (hdistinct : addresses.Nodup) :
    (p.pullAll s addresses).1 = addresses.filter (p.isUnrequested s) := by
  induction addresses generalizing s with
  | nil => rfl
  | cons a rest ih =>
      obtain ⟨hother, hrest⟩ := List.nodup_cons.mp hdistinct
      have hlater : (p.pullAll (p.pull s a).2 rest).1 = rest.filter (p.isUnrequested s) := by
        rw [ih (h.pullAt a) hrest]
        refine List.filter_congr ?_
        intro b hb
        exact h.isUnrequested_pull_of_ne fun hsame => hother (hsame ▸ hb)
      rw [Pool.pullAll, List.filter_cons, ← h.pull_fst a]
      simp only [hlater]

theorem Pool.pullAll_append
    (p : Pool) (s : Scene) (before after : List Address) :
    (p.pullAll s (before ++ after)).2 = (p.pullAll (p.pullAll s before).2 after).2 := by
  induction before generalizing s with
  | nil => rfl
  | cons a rest ih => exact ih (p.pull s a).2

end Pulling

section HandingOut

namespace Viewer

variable {v : Viewer} {s : Scene} {count taken : Nat}

/-- The viewer after some addresses were taken off its queue. -/
def skip (v : Viewer) (taken : Nat) : Viewer :=
  { v with requests := ⟨v.requests.waiting.drop taken⟩ }

@[simp] theorem pool_skip (v : Viewer) (taken : Nat) : (v.skip taken).pool = v.pool := by
  rfl

@[simp] theorem addresses_skip (v : Viewer) (taken : Nat) :
    (v.skip taken).requests.addresses = v.requests.addresses.drop taken :=
  v.requests.addresses_drop taken

@[simp] theorem size_skip (v : Viewer) (taken : Nat) :
    (v.skip taken).requests.size = v.requests.size - taken := by
  simp [skip, Requests.size]

theorem skip_skip (v : Viewer) (first later : Nat) :
    (v.skip first).skip later = v.skip (first + later) := by
  simp [skip, List.drop_drop]

/-- The addresses among the first ones of the queue that nobody has asked for yet. -/
def unrequestedAmong (v : Viewer) (s : Scene) (taken : Nat) : List Address :=
  (v.requests.addresses.take taken).filter (v.pool.isUnrequested s)

/-- The scene after the first addresses of the queue were pulled. -/
def pulled (v : Viewer) (s : Scene) (taken : Nat) : Scene :=
  (v.pool.pullAll s (v.requests.addresses.take taken)).2

theorem length_unrequestedAmong_le (v : Viewer) (s : Scene) (taken : Nat) :
    (v.unrequestedAmong s taken).length ≤ taken :=
  Nat.le_trans (List.length_filter_le _ _) (List.length_take_le _ _)

/-- What a batch leaves is unrequested exactly if it was before the batch. -/
theorem unrequestedAmong_add
    (h : Stocked v.pool s)
    (hdistinct : v.requests.addresses.Nodup)
    (first later : Nat) :
    v.unrequestedAmong s (first + later) =
      v.unrequestedAmong s first ++
        (v.skip first).unrequestedAmong (v.pulled s first) later := by
  rw [unrequestedAmong, unrequestedAmong, unrequestedAmong, List.take_add, List.filter_append,
    addresses_skip]
  congr 1
  refine List.filter_congr ?_
  intro a ha
  have hnew : a ∉ v.requests.addresses.take first := by
    intro hold
    exact List.disjoint_take_drop hdistinct (Nat.le_refl first) hold (List.mem_of_mem_take ha)
  exact (h.isUnrequested_pullAll hnew).symm

theorem pulled_add (v : Viewer) (s : Scene) (first later : Nat) :
    v.pulled s (first + later) = (v.skip first).pulled (v.pulled s first) later := by
  rw [pulled, List.take_add, Pool.pullAll_append, ← addresses_skip]
  rfl

/--
Whether a viewer that hands out addresses takes some number of them off the queue: enough,
but not more than it has to.
-/
structure HandsOut (v : Viewer) (s : Scene) (count taken : Nat) : Prop where
  answer : v.handOut s count = (v.unrequestedAmong s taken, v.skip taken, v.pulled s taken)
  waiting : taken ≤ v.requests.size
  bounded : (v.unrequestedAmong s taken).length ≤ count
  exhausted : (v.unrequestedAmong s taken).length < count → taken = v.requests.size
  least : ∀ fewer < taken, (v.unrequestedAmong s fewer).length < count

theorem handsOut_nothing
    (h : count = 0 ∨ v.requests.size = 0) :
    HandsOut v s count 0 := by
  constructor
  · have hnothing : v.handOut s count = ([], v, s) := by
      rw [handOut]
      rcases h with h | h
      · rw [if_pos h]
      · rw [if_pos h]
        exact ite_self _
    rw [hnothing]
    rfl
  · exact Nat.zero_le _
  · exact Nat.zero_le _
  · intro hlt
    rcases h with h | h
    · rw [h] at hlt
      exact absurd hlt (Nat.not_lt_zero _)
    · exact h.symm
  · intro fewer hlt
    exact absurd hlt (Nat.not_lt_zero _)

/-- The first batch is followed by others that hand out what is still wanted. -/
theorem handOut_eq_batch
    (h : Stocked v.pool s)
    (hdistinct : v.requests.addresses.Nodup)
    (hcount : count ≠ 0)
    (hsize : v.requests.size ≠ 0) :
    let first := min count v.requests.size
    let rest := (v.skip first).handOut (v.pulled s first)
      (count - (v.unrequestedAmong s first).length)
    v.handOut s count = (v.unrequestedAmong s first ++ rest.1, rest.2) := by
  intro first rest
  have htake : v.requests.addresses.take count = v.requests.addresses.take first := by
    rw [List.take_eq_take_min, Requests.length_addresses]
    rfl
  have hbatch : v.requests.take count =
      (v.requests.addresses.take first, ⟨v.requests.waiting.drop first⟩) := by
    rw [Requests.take, ← htake, Requests.addresses, List.map_take, List.drop_eq_drop_min]
    rfl
  have hgiven : (v.pool.pullAll s (v.requests.addresses.take first)).1 =
      v.unrequestedAmong s first :=
    h.pullAll_fst (hdistinct.sublist (List.take_sublist _ _))
  rw [handOut, if_neg hcount, if_neg hsize]
  simp only [hbatch, hgiven]
  rfl

/-- A batch and the least that has to follow it are the least that is sufficient. -/
theorem HandsOut.of_batch
    {later : Nat}
    (h : Stocked v.pool s)
    (hdistinct : v.requests.addresses.Nodup)
    (hcount : count ≠ 0)
    (hsize : v.requests.size ≠ 0)
    (hrest : HandsOut (v.skip (min count v.requests.size))
      (v.pulled s (min count v.requests.size))
      (count - (v.unrequestedAmong s (min count v.requests.size)).length) later) :
    HandsOut v s count (min count v.requests.size + later) := by
  have hbatch := handOut_eq_batch h hdistinct hcount hsize
  have hadd := unrequestedAmong_add h hdistinct (min count v.requests.size)
  have hfull := v.length_unrequestedAmong_le s (min count v.requests.size)
  obtain ⟨hanswer, hwaiting, hbounded, hexhausted, hleast⟩ := hrest
  rw [size_skip] at hwaiting hexhausted
  constructor
  · rw [hbatch, hanswer, hadd, pulled_add, skip_skip]
  · omega
  · rw [hadd, List.length_append]
    omega
  · rw [hadd, List.length_append]
    intro hlt
    have hall := hexhausted (by omega)
    omega
  · -- A shorter front ends in this batch, which is too small itself, or in a later one.
    intro fewer hlt
    by_cases hwithin : fewer < min count v.requests.size
    · have hfew := v.length_unrequestedAmong_le s fewer
      omega
    · obtain ⟨more, rfl⟩ := Nat.exists_eq_add_of_le (Nat.le_of_not_lt hwithin)
      have hfew := hleast more (by omega)
      rw [hadd, List.length_append]
      omega

/-- The batches together take the shortest sufficient front of the queue. -/
theorem exists_handsOut
    (h : Stocked v.pool s)
    (hdistinct : v.requests.addresses.Nodup)
    (count : Nat) :
    ∃ taken, HandsOut v s count taken := by
  -- Every batch shortens the queue, by as much as is wanted or by all there is.
  induction hsize : v.requests.size using Nat.strongRecOn generalizing v s count with
  | _ size ih =>
      by_cases hnothing : count = 0 ∨ v.requests.size = 0
      · exact ⟨0, handsOut_nothing hnothing⟩
      · obtain ⟨hcount, hwaiting⟩ := not_or.mp hnothing
        let first := min count v.requests.size
        have hrest : (v.skip first).requests.addresses.Nodup := by
          rw [addresses_skip]
          exact hdistinct.sublist (List.drop_sublist _ _)
        have hstocked : Stocked (v.skip first).pool (v.pulled s first) := h.pullAll _
        obtain ⟨later, hlater⟩ := ih (size - first) (by omega) hstocked hrest
          (count - (v.unrequestedAmong s first).length) (by rw [size_skip, hsize])
        exact ⟨first + later, .of_batch h hdistinct hcount hwaiting hlater⟩

/-- What is handed out are the first addresses that nobody has asked for yet. -/
theorem HandsOut.given
    (h : HandsOut v s count taken) :
    (v.handOut s count).1 =
      (v.requests.addresses.filter (v.pool.isUnrequested s)).take count := by
  have hall : v.requests.addresses.filter (v.pool.isUnrequested s) =
      v.unrequestedAmong s taken ++
        (v.requests.addresses.drop taken).filter (v.pool.isUnrequested s) := by
    rw [unrequestedAmong, ← List.filter_append, List.take_append_drop]
  have hanswer : (v.handOut s count).1 = v.unrequestedAmong s taken :=
    congrArg Prod.fst h.answer
  rw [hanswer, hall]
  rcases Nat.lt_or_ge (v.unrequestedAmong s taken).length count with hlt | hge
  · have hnone : v.requests.addresses.drop taken = [] := by
      rw [h.exhausted hlt, List.drop_eq_nil_iff, Requests.length_addresses]
      exact Nat.le_refl _
    rw [hnone, List.filter_nil, List.append_nil, List.take_of_length_le (Nat.le_of_lt hlt)]
  · rw [List.take_append_of_le_length hge, List.take_of_length_le h.bounded]

/-- Fewer addresses off the queue would not have those that are handed out. -/
theorem HandsOut.shortest
    (h : HandsOut v s count taken)
    (hdistinct : v.requests.addresses.Nodup)
    (henough : (v.unrequestedAmong s taken).length = count)
    {fewer : Nat}
    (hfewer : fewer < taken) :
    ∃ a ∈ v.unrequestedAmong s taken, a ∉ v.requests.addresses.take fewer := by
  refine Decidable.byContradiction fun hnone => ?_
  have hsubset : v.unrequestedAmong s taken ⊆ v.unrequestedAmong s fewer := by
    intro a ha
    refine List.mem_filter.mpr ⟨?_, (List.mem_filter.mp ha).2⟩
    exact Decidable.byContradiction fun hnot => hnone ⟨a, ha, hnot⟩
  have hnodup : (v.unrequestedAmong s taken).Nodup :=
    hdistinct.sublist (List.filter_sublist.trans (List.take_sublist _ _))
  have hle := (List.subperm_of_subset hnodup hsubset).length_le
  have hlt := h.least fewer hfewer
  omega

end Viewer

end HandingOut

end VoxelCache
