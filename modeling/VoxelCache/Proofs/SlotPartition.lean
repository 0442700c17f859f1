import VoxelCache.Proofs.Operations

/-!
# Partition of the slots

**Results.**
* `slots_partition`: in every run, free and owned slots make up all slots, each once,
  only active buckets are committed, and a request for which there is room gets all
  the slots it needs.
-/

namespace VoxelCache

section SlotPartition

namespace Residency

variable {m : Residency}

/-- Whether every slot is either free or owned by one active bucket. -/
structure IsPartitioned (m : Residency) : Prop where
  disjoint : ∀ a ∈ m.active, a.slot ∉ m.free
  free_nodup : m.free.Nodup
  owned_nodup : (m.active.map (·.slot)).Nodup
  covered : ∀ slot, slot < m.capacity ↔ slot ∈ m.free ∨ slot ∈ m.active.map (·.slot)
  committed : ∀ id ∈ m.committed, m.isActive id = true

/-- Whether the numbers of slots and buckets fit together. -/
structure IsBalanced (stats : ResidencyStats) : Prop where
  slots : stats.active + stats.free = stats.capacity
  committed : stats.committed ≤ stats.active

theorem Tidy.isPartitioned
    (h : Tidy m) :
    IsPartitioned m where
  disjoint _ ha := h.slot_not_free ha
  free_nodup := (List.nodup_append.mp (h.slots.nodup_iff.mpr List.nodup_range)).1
  owned_nodup := h.nodup_slots
  covered _ := h.lt_capacity_iff
  committed id hid := isActive_iff.mpr (h.committed_active id hid)

theorem Tidy.isBalanced
    (h : Tidy m) :
    IsBalanced m.stats where
  slots := h.length_active_add_length_free
  committed := h.length_committed_le

/-- The slots can run short only before any of them is taken away. -/
theorem Tidy.occupy_fst
    (h : Tidy m)
    (s : Scene) (requested : List BucketRef) (anchor : Address) :
    (m.occupy s requested anchor).1 =
      if m.hasRoom s requested then .ok () else .error (m.exhausted requested) := by
  by_cases hroom : m.hasRoom s requested = true
  · rw [isOk_occupy h hroom anchor, if_pos hroom]
  · obtain ⟨journal, hrefused⟩ := occupy_of_not_hasRoom (s := s) anchor hroom
    rw [hrefused, if_neg hroom]

end Residency

/--
In every run each slot is either free or owned by one active bucket, and only active
buckets are committed.  Once a request to replace the active buckets has passed the
check that there is room, it does not run out of slots.
-/
theorem slots_partition
    {s₀ : Scene} {w : World}
    (h : Reachable (fun _ _ => True) s₀ w) :
    Residency.IsPartitioned w.residency ∧
      Residency.IsBalanced w.residency.stats ∧
      ∀ (refs : List BucketRef) (anchor : Address) (m : Residency) (s : Scene),
        w.residency.readNotices w.scene = (m, s) →
        let requested := Residency.distinct s [] refs
        let reported := requested.foldl Residency.reportCollected s
        (m.occupy reported requested anchor).1 =
          if m.hasRoom reported requested then .ok () else .error (m.exhausted requested) := by
  refine ⟨h.tidy.isPartitioned, h.tidy.isBalanced, ?_⟩
  intro refs anchor m s hread
  have hmoves := Residency.moves_readNotices false w.residency w.scene w.chronicle
  rw [hread] at hmoves
  exact (hmoves.tidy h.tidy).occupy_fst _ _ anchor

/-- A bucket that was created and made active owns the first slot. -/
theorem slots_partition_of_one_active :
    let created := World.smallest.step (.occurrence (.create 7 .origin none))
    let w := created.step (.activate (fun _ => true) [0] .origin)
    w.residency.active.map (·.slot) = [0] ∧ Residency.IsPartitioned w.residency := by
  intro created w
  have hcreated : Reachable (fun _ _ => True) Scene.empty created :=
    (reachable_smallest _).step trivial trivial
  have hactive : Reachable (fun _ _ => True) Scene.empty w := by
    refine hcreated.step ?_ trivial
    intro ref href
    rw [List.mem_singleton.mp href]
    decide
  exact ⟨by decide, (slots_partition hactive).1⟩

end SlotPartition

end VoxelCache
