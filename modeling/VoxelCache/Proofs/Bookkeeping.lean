import VoxelCache.Residency.Commit
import Mathlib.Data.List.Nodup

/-!
# Bookkeeping of slots

The residency keeps its books in order: every slot is either free or owned by one
active bucket, no bucket is active twice, and only active buckets are committed.

**Results.**
* `Tidy.without`, `Tidy.reserve`, `Tidy.markCommitted`: taking a slot away, giving
  a slot and committing a bucket keep the books in order.
* `isOk_occupy`: buckets for which there is room are never short of a slot while
  they replace others.
-/

namespace VoxelCache
namespace Residency

section Bookkeeping

/-- Every slot is free or owned once, and only active buckets are committed. -/
structure Tidy (m : Residency) : Prop where
  slots : (m.free ++ m.active.map (·.slot)).Perm (List.range m.capacity)
  ascending : m.free.Pairwise (· < ·)
  ids : (m.active.map (·.id)).Nodup
  committed_nodup : m.committed.Nodup
  committed_active : ∀ id ∈ m.committed, id ∈ m.active.map (·.id)

variable {m m' : Residency} {s : Scene} {a : ActiveBucket}

/-- The books mention nothing but slots, active and committed buckets. -/
theorem Tidy.of_eq
    (h : Tidy m)
    (hlayout : m'.layout = m.layout)
    (hactive : m'.active = m.active)
    (hcommitted : m'.committed = m.committed)
    (hfree : m'.free = m.free) :
    Tidy m' := by
  refine ⟨?_, ?_, ?_, ?_, ?_⟩
  · rw [hfree, hactive, capacity, hlayout]
    exact h.slots
  · rw [hfree]
    exact h.ascending
  · rw [hactive]
    exact h.ids
  · rw [hcommitted]
    exact h.committed_nodup
  · rw [hcommitted, hactive]
    exact h.committed_active

/-- An element of a list without repeated keys can be put in front of the others. -/
theorem perm_cons_filter
    {active : List ActiveBucket}
    (hids : (active.map (·.id)).Nodup)
    (ha : a ∈ active) :
    active.Perm (a :: active.filter fun b => b.id != a.id) := by
  induction active with
  | nil => cases ha
  | cons b rest ih =>
      rw [List.map_cons, List.nodup_cons] at hids
      rcases List.mem_cons.mp ha with rfl | ha
      · have hrest : (rest.filter fun b => b.id != a.id) = rest := by
          refine List.filter_eq_self.mpr ?_
          intro b hb
          have hne : b.id ≠ a.id := fun h => hids.1 (h ▸ List.mem_map_of_mem hb)
          simpa using hne
        simp [hrest]
      · have hne : b.id ≠ a.id := fun h => hids.1 (h ▸ List.mem_map_of_mem ha)
        rw [List.filter_cons_of_pos (by simpa using hne)]
        exact ((ih hids.2 ha).cons b).trans (.swap a b _)

section Reading

theorem Tidy.nodup_slots (h : Tidy m) : (m.active.map (·.slot)).Nodup :=
  (List.nodup_append.mp (h.slots.nodup_iff.mpr List.nodup_range)).2.1

theorem Tidy.slot_not_free
    (h : Tidy m)
    (ha : a ∈ m.active) :
    a.slot ∉ m.free := by
  intro hfree
  have hnodup := List.nodup_append.mp (h.slots.nodup_iff.mpr List.nodup_range)
  exact hnodup.2.2 _ hfree _ (List.mem_map_of_mem ha) rfl

theorem Tidy.lt_capacity_iff
    (h : Tidy m) {slot : Nat} :
    slot < m.capacity ↔ slot ∈ m.free ∨ slot ∈ m.active.map (·.slot) := by
  rw [← List.mem_range, ← h.slots.mem_iff, List.mem_append]

theorem Tidy.slot_lt
    (h : Tidy m)
    (ha : a ∈ m.active) :
    a.slot < m.capacity :=
  h.lt_capacity_iff.mpr (.inr (List.mem_map_of_mem ha))

/-- A slot has one owner. -/
theorem Tidy.eq_of_slot
    (h : Tidy m) {b : ActiveBucket}
    (ha : a ∈ m.active)
    (hb : b ∈ m.active)
    (hslot : a.slot = b.slot) :
    a = b :=
  List.inj_on_of_nodup_map h.nodup_slots ha hb hslot

theorem Tidy.eq_of_id
    (h : Tidy m) {b : ActiveBucket}
    (ha : a ∈ m.active)
    (hb : b ∈ m.active)
    (hid : a.id = b.id) :
    a = b :=
  List.inj_on_of_nodup_map h.ids ha hb hid

theorem find?_eq_some_iff
    {id : BucketId}
    (hids : (m.active.map (·.id)).Nodup) :
    m.find? id = some a ↔ a ∈ m.active ∧ a.id = id := by
  constructor
  · exact find?_eq_some
  · rintro ⟨ha, hid⟩
    have hsome : m.isActive id = true := isActive_iff.mpr (hid ▸ List.mem_map_of_mem ha)
    obtain ⟨b, hb⟩ := Option.isSome_iff_exists.mp hsome
    obtain ⟨hmem, hbid⟩ := find?_eq_some hb
    rw [hb, List.inj_on_of_nodup_map hids hmem ha (hbid.trans hid.symm)]

theorem Tidy.find?_eq_some_iff
    (h : Tidy m) {id : BucketId} :
    m.find? id = some a ↔ a ∈ m.active ∧ a.id = id :=
  Residency.find?_eq_some_iff h.ids

theorem Tidy.length_active_add_length_free (h : Tidy m) :
    m.active.length + m.free.length = m.capacity := by
  have hlength := h.slots.length_eq
  simp only [List.length_append, List.length_map, List.length_range] at hlength
  omega

theorem Tidy.length_committed_le (h : Tidy m) :
    m.committed.length ≤ m.active.length := by
  have hle := h.committed_nodup.length_le_of_subset h.committed_active
  simpa using hle

end Reading

section Keeping

/-- A residency starts with all slots free. -/
theorem tidy_create
    {s' : Scene} {width textures packing : Nat} {settings : Settings}
    (h : create s width textures packing settings = (.ok m, s')) :
    Tidy m := by
  obtain ⟨layout, _, _, _, _, rfl⟩ := create_eq_ok h
  exact ⟨by simp [capacity], List.pairwise_lt_range, by simp, by simp, by simp⟩

theorem Tidy.without
    (h : Tidy m)
    (ha : a ∈ m.active) :
    Tidy (m.without a) := by
  have hperm := perm_cons_filter h.ids ha
  refine ⟨?_, ?_, ?_, ?_, ?_⟩
  · calc (m.without a).free ++ (m.without a).active.map (·.slot)
        = insertSlot a.slot m.free ++ (m.active.filter fun b => b.id != a.id).map (·.slot) := rfl
      List.Perm _ ((a.slot :: m.free) ++ (m.active.filter fun b => b.id != a.id).map (·.slot)) :=
          (insertSlot_perm _ _).append_right _
      List.Perm _ (m.free ++ (a :: m.active.filter fun b => b.id != a.id).map (·.slot)) :=
          List.perm_middle.symm
      List.Perm _ (m.free ++ m.active.map (·.slot)) := (hperm.symm.map _).append_left _
      List.Perm _ (List.range m.capacity) := h.slots
  · exact pairwise_insertSlot h.ascending (h.slot_not_free ha)
  · exact h.ids.sublist (List.filter_sublist.map _)
  · exact h.committed_nodup.sublist List.filter_sublist
  · intro id hid
    obtain ⟨hmem, hne⟩ := List.mem_filter.mp hid
    obtain ⟨b, hb, rfl⟩ := List.mem_map.mp (h.committed_active id hmem)
    exact List.mem_map_of_mem (List.mem_filter.mpr ⟨hb, hne⟩)

theorem Tidy.reserve
    {ref : BucketRef} {slot : Nat} {free : List Nat}
    (h : Tidy m)
    (hfree : m.free = slot :: free)
    (hactive : m.isActive (s.bucket ref).id = false) :
    Tidy ({ m with free := free }.reserve s ref slot).1 := by
  have hnew : (s.bucket ref).id ∉ m.active.map (·.id) := by
    rw [← isActive_iff, hactive]
    simp
  have hslots := h.slots
  have hascending := h.ascending
  rw [hfree] at hslots hascending
  refine ⟨?_, ?_, ?_, h.committed_nodup, ?_⟩
  · refine List.Perm.trans ?_ hslots
    simp only [Residency.reserve, enqueue, List.map_append, List.map_cons, List.map_nil]
    rw [← List.append_assoc]
    exact List.perm_append_singleton slot _
  · exact (List.pairwise_cons.mp hascending).2
  · simp only [Residency.reserve, enqueue, List.map_append, List.map_cons, List.map_nil]
    rw [List.nodup_append]
    refine ⟨h.ids, by simp, ?_⟩
    intro id hid other hother
    rw [List.mem_singleton] at hother
    rintro rfl
    exact hnew (hother ▸ hid)
  · intro id hid
    simp only [Residency.reserve, enqueue, List.map_append]
    exact List.mem_append_left _ (h.committed_active id hid)

theorem Tidy.markCommitted
    (h : Tidy m)
    (ha : a ∈ m.active) :
    Tidy (m.markCommitted s a).1 := by
  refine ⟨h.slots, h.ascending, h.ids, ?_, ?_⟩
  · simp only [Residency.markCommitted]
    split
    · exact h.committed_nodup
    · rename_i hnew
      rw [List.nodup_append]
      refine ⟨h.committed_nodup, by simp, ?_⟩
      intro id hid other hother
      rw [List.mem_singleton] at hother
      rintro rfl
      exact hnew (by simpa [isCommitted, hother] using hid)
  · intro id hid
    rcases mem_committed_markCommitted.mp hid with rfl | hid
    · exact List.mem_map_of_mem ha
    · exact h.committed_active id hid

end Keeping

section Room

/-- Taking slots away from active buckets frees as many slots. -/
theorem length_free_releaseAll
    {ids : List BucketId}
    (h : Tidy m)
    (hids : ids.Nodup)
    (hactive : ∀ id ∈ ids, id ∈ m.active.map (·.id)) :
    (releaseAll m s ids).1.free.length = m.free.length + ids.length := by
  induction ids generalizing m s with
  | nil => rfl
  | cons id rest ih =>
      rw [List.nodup_cons] at hids
      obtain ⟨a, ha, rfl⟩ := List.mem_map.mp (hactive id List.mem_cons_self)
      have hstep : releaseAll m s (a.id :: rest) =
          releaseAll (m.without a) (m.dismiss s a) rest := by
        simp only [releaseAll, List.foldl_cons]
        rw [release_of_find?_eq_some s (h.find?_eq_some_iff.mpr ⟨ha, rfl⟩)]
      have hrest : ∀ id ∈ rest, id ∈ (m.without a).active.map (·.id) := by
        intro id hid
        obtain ⟨b, hb, rfl⟩ := List.mem_map.mp (hactive id (List.mem_cons_of_mem _ hid))
        have hne : b.id ≠ a.id := fun hsame => hids.1 (hsame ▸ hid)
        exact List.mem_map_of_mem (List.mem_filter.mpr ⟨hb, by simpa using hne⟩)
      rw [hstep, ih (h.without ha) hids.2 hrest, List.length_cons]
      have hfree : (m.without a).free.length = m.free.length + 1 := length_insertSlot _ _
      omega

theorem isOk_reserveAll
    {fault : Fault} {refs : List BucketRef}
    (h : refs.length ≤ m.free.length) :
    (m.reserveAll s fault refs).1 = .ok () := by
  induction refs generalizing m s with
  | nil => rfl
  | cons ref rest ih =>
      rw [reserveAll]
      split
      · rename_i hfree
        rw [hfree] at h
        cases h
      · rename_i slot free hfree
        rw [hfree, List.length_cons, List.length_cons] at h
        exact ih (Nat.le_of_succ_le_succ h)

theorem nodup_leaving
    (h : Tidy m)
    (requested : List BucketRef) :
    (m.leaving s requested).Nodup :=
  h.ids.sublist List.filter_sublist

theorem mem_active_of_mem_leaving
    {requested : List BucketRef} {id : BucketId}
    (hid : id ∈ m.leaving s requested) :
    id ∈ m.active.map (·.id) :=
  (List.mem_filter.mp hid).1

/-- Buckets for which there is room are never short of a slot. -/
theorem isOk_occupy
    {requested : List BucketRef}
    (h : Tidy m)
    (hroom : m.hasRoom s requested = true)
    (anchor : Address) :
    (m.occupy s requested anchor).1 = .ok () := by
  rw [occupy, if_pos hroom]
  have haimed : Tidy { m with anchor := anchor } := h.of_eq rfl rfl rfl rfl
  have hlength : (releaseAll { m with anchor := anchor } s (m.leaving s requested)).1.free.length =
      m.free.length + (m.leaving s requested).length :=
    length_free_releaseAll haimed (nodup_leaving h requested) fun id => mem_active_of_mem_leaving
  exact isOk_reserveAll (hlength ▸ of_decide_eq_true hroom)

end Room

end Bookkeeping

end Residency
end VoxelCache
